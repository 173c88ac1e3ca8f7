/-
Capabilities: named interfaces that declare methods and extend other capabilities.
A capability is a finite tree, since it is built over capabilities that already
exist. Its identity is its name: two capabilities of one name denote the same
capability, whatever they declare.

Looking a method up searches the declarations of the capability itself, then each
extended capability in order, depth first. `tree` lists the capabilities in the
order in which such a search visits them.
-/

import Interception.Method

namespace Interception

open Interception.Text

structure Capability where
  name : String
  /-- The capabilities this one directly extends, in order, with repetitions. -/
  supers : List Capability
  /-- The selectors declared directly, each once. -/
  selectors : List Selector

namespace Capability

instance : Inhabited Capability := ⟨⟨"", [], []⟩⟩

/-- Identity is the name. -/
instance : BEq Capability := ⟨fun left right => left.name == right.name⟩

def named (name : String) : Capability :=
  ⟨name, [], []⟩

def extending (capability super : Capability) : Capability :=
  { capability with supers := capability.supers ++ [super] }

/-- The capability with one more selector. Declaring a selector again changes
nothing. -/
def declaring (capability : Capability) (selector : Selector) : Capability :=
  if selector ∈ capability.selectors then capability
  else { capability with selectors := capability.selectors ++ [selector] }

inductive Clause where
  | extend (super : Capability)
  | declare (selector : Selector)

def clause (capability : Capability) : Clause → Capability
  | .extend super => capability.extending super
  | .declare selector => capability.declaring selector

def ofClauses (name : String) (clauses : List Clause) : Capability :=
  clauses.foldl clause (named name)

def method (capability : Capability) (selector : Selector) : Method :=
  ⟨capability.name, selector⟩

def methods (capability : Capability) : List Method :=
  capability.selectors.map capability.method

mutual
/-- The capability and everything it extends, in depth-first order; what is
extended twice occurs twice. -/
def tree : Capability → List Capability
  | ⟨name, supers, selectors⟩ => ⟨name, supers, selectors⟩ :: forest supers

def forest : List Capability → List Capability
  | [] => []
  | capability :: rest => tree capability ++ forest rest
end

mutual
/-- Looks a selector up, here first, then in what is extended, depth first. -/
def method? (selector : Selector) : Capability → Option Method
  | ⟨name, supers, selectors⟩ =>
      if selector ∈ selectors then some ⟨name, selector⟩ else methodAmong? selector supers

def methodAmong? (selector : Selector) : List Capability → Option Method
  | [] => none
  | capability :: rest => (method? selector capability).orElse (fun _ => methodAmong? selector rest)
end

mutual
/-- Whether the capability of a name is this one or one that it extends, at any
distance. -/
def isNamed (wanted : String) : Capability → Bool
  | ⟨name, supers, _⟩ => name == wanted || anyNamed wanted supers

def anyNamed (wanted : String) : List Capability → Bool
  | [] => false
  | capability :: rest => isNamed wanted capability || anyNamed wanted rest
end

mutual
theorem isNamed_eq_any_tree (wanted : String) :
    (capability : Capability) →
      isNamed wanted capability = capability.tree.any (·.name == wanted)
  | ⟨name, supers, selectors⟩ => by
      simp [isNamed, tree, anyNamed_eq_any_forest wanted supers]

theorem anyNamed_eq_any_forest (wanted : String) :
    (capabilities : List Capability) →
      anyNamed wanted capabilities = (forest capabilities).any (·.name == wanted)
  | [] => rfl
  | capability :: rest => by
      simp [anyNamed, forest, isNamed_eq_any_tree wanted capability,
        anyNamed_eq_any_forest wanted rest]
end

def isA (capability other : Capability) : Bool :=
  isNamed other.name capability

/-- Only the first of the capabilities that share a name. -/
def distinct (capabilities : List Capability) : List Capability :=
  capabilities.foldl (fun kept next => if kept.elem next then kept else kept ++ [next]) []

def names (capabilities : List Capability) : List String :=
  capabilities.map name

def outline (capability : Capability) : Outline :=
  .record "Capability"
    [("name", .quotedWord capability.name),
     ("extends", .quotedList (names capability.supers)),
     ("methods", .word (toString capability.selectors.length))]

end Capability

end Interception
