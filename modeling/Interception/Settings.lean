/-
Settings: the named values that an interceptor is configured with. They are kept in
increasing order of their names, so two collections that hold the same values are
equal, whatever order they were written in.
-/

import Interception.SetupError
import Interception.Value.Outline
import Interception.Value.Reading

namespace Interception

open Interception.Text

structure Settings where
  fields : List (String × Value)
  ordered : Fields.Ordered fields

namespace Settings

def empty : Settings :=
  ⟨[], List.Pairwise.nil⟩

instance : Inhabited Settings := ⟨empty⟩

def find? (settings : Settings) (key : String) : Option Value :=
  Fields.find? key settings.fields

def put (settings : Settings) (key : String) (value : Value) : Settings :=
  ⟨Fields.insert key value settings.fields, Fields.ordered_insert settings.ordered key value⟩

theorem find?_put (settings : Settings) (key other : String) (value : Value) :
    (settings.put key value).find? other =
      if key = other then some value else settings.find? other :=
  Fields.find?_insert key other value settings.fields

def insert (settings : Settings) (key : String) (value : Value) : Option Value × Settings :=
  (settings.find? key, settings.put key value)

def ofPairs (pairs : List (String × Value)) : Settings :=
  ⟨Fields.ofPairs pairs, Fields.ordered_ofPairs pairs⟩

def contains (settings : Settings) (key : String) : Bool :=
  (settings.find? key).isSome

def size (settings : Settings) : Nat :=
  settings.fields.length

def isEmpty (settings : Settings) : Bool :=
  settings.fields.isEmpty

def get (settings : Settings) (α : Type) [Readable α] (key : String) :
    Except SetupError (Option α) :=
  match settings.find? key with
  | none => .ok none
  | some value =>
      match (read value : Except Misfit α) with
      | .ok result => .ok (some result)
      | .error misfit => .error (.invalidSetting key misfit.message)

def getOr {α : Type} [Readable α] (settings : Settings) (key : String) (default : α) :
    Except SetupError α :=
  (settings.get α key).map (·.getD default)

def require (settings : Settings) (α : Type) [Readable α] (key : String) :
    Except SetupError α :=
  match settings.get α key with
  | .error error => .error error
  | .ok none => .error (.missingSetting key)
  | .ok (some result) => .ok result

def text? (settings : Settings) (key : String) : Option String :=
  (settings.find? key).bind Value.text?

/-- Equal keys with equal values; floating-point numbers are compared as such. -/
instance : BEq Settings := ⟨fun left right => Value.beqFields left.fields right.fields⟩

instance : Writable Settings := ⟨fun settings => .object settings.fields⟩

instance : Readable Settings where
  read
    | .object fields => .ok (ofPairs fields)
    | other => .error (.wrongKind other "a map")

def outline (settings : Settings) : Outline :=
  .record "Properties" [("values", .table (Value.outlineFields settings.fields))]

end Settings

end Interception
