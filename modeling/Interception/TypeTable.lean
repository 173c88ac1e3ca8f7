/-
Type tables: what the concrete type of an object says about its capabilities. A
table is a chain of levels, the type itself first and then each type it extends.
Every level has a name and the capabilities declared directly at it.
-/

import Interception.Capability

namespace Interception

open Interception.Text

structure TypeLevel where
  name : String
  interfaces : List Capability

/-- A type and the types it extends, nearest first. -/
structure TypeTable where
  level : TypeLevel
  above : List TypeLevel

namespace TypeTable

instance : Inhabited TypeTable := ⟨⟨⟨"", []⟩, []⟩⟩

def named (name : String) : TypeTable :=
  ⟨⟨name, []⟩, []⟩

def name (table : TypeTable) : String :=
  table.level.name

def interfaces (table : TypeTable) : List Capability :=
  table.level.interfaces

/-- The table with one more capability declared at its own level. A second
capability of the same name is dropped. -/
def withInterface (table : TypeTable) (capability : Capability) : TypeTable :=
  if table.interfaces.elem capability then table
  else { table with level := ⟨table.name, table.interfaces ++ [capability]⟩ }

def withInterfaces (table : TypeTable) (capabilities : List Capability) : TypeTable :=
  capabilities.foldl withInterface table

/-- The table made to extend a type, in place of what it extended before. -/
def withParent (table parent : TypeTable) : TypeTable :=
  { table with above := parent.level :: parent.above }

def parent? (table : TypeTable) : Option TypeTable :=
  match table.above with
  | [] => none
  | level :: above => some ⟨level, above⟩

def levels (table : TypeTable) : List TypeLevel :=
  table.level :: table.above

/-- Every capability declared directly at some level, in the order of the levels
and, within a level, of declaration. -/
def declared (table : TypeTable) : List Capability :=
  table.levels.flatMap TypeLevel.interfaces

def implements (table : TypeTable) (capability : Capability) : Bool :=
  table.declared.any (·.isA capability)

theorem levels_withParent (table parent : TypeTable) :
    (table.withParent parent).levels = table.level :: parent.levels :=
  rfl

theorem declared_withParent (table parent : TypeTable) :
    (table.withParent parent).declared = table.interfaces ++ parent.declared := by
  simp [declared, levels_withParent, interfaces]

def outline (table : TypeTable) : Outline :=
  .record "TypeInfo"
    [("name", .quotedWord table.name),
     ("interfaces", .quotedList (Capability.names table.interfaces)),
     ("parent", .optional (table.parent?.map (fun parent => .quotedWord parent.name)))]

end TypeTable

end Interception
