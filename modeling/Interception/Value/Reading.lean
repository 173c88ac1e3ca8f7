/-
Reading a value at a type. A value that does not fit is answered by a misfit: it
has the wrong kind, it is an integer outside the range of its type, it is an array
of the wrong length, or the type has a rule of its own that it breaks. Integer types
take integers only; the floating-point type takes every number.
-/

import Interception.Number.Text
import Interception.Text.Quoted
import Interception.Value

namespace Interception

/-- Why a value does not fit a type. `wanted` is the type in words. -/
inductive Misfit where
  | wrongKind (found : Value) (wanted : String)
  | outOfRange (found : Int) (wanted : String)
  | wrongLength (found : Nat) (wanted : String)
  /-- The type says why in its own words. -/
  | unfit (reason : String)

def Value.inWords : Value → String
  | .null => "null"
  | .boolean truth => "boolean \x60" ++ (if truth then "true" else "false") ++ "\x60"
  | .number (.integer value) => "integer \x60" ++ toString value ++ "\x60"
  | .number (.float value) => "floating point \x60" ++ Number.floatText value ++ "\x60"
  | .string text => "string " ++ Text.quoted text
  | .array _ => "sequence"
  | .object _ => "map"

def Misfit.message : Misfit → String
  | .wrongKind found wanted => "invalid type: " ++ found.inWords ++ ", expected " ++ wanted
  | .outOfRange found wanted =>
      "invalid value: " ++ (Value.integer found).inWords ++ ", expected " ++ wanted
  | .wrongLength found wanted =>
      "invalid length " ++ toString found ++ ", expected " ++ wanted
  | .unfit reason => reason

class Readable (α : Type) where
  read : Value → Except Misfit α

class Writable (α : Type) where
  write : α → Value

export Readable (read)
export Writable (write)

def readInteger {α : Type} (wanted : String) (least greatest : Int) (make : Int → α) :
    Value → Except Misfit α
  | .number (.integer value) =>
      if least ≤ value ∧ value ≤ greatest then .ok (make value)
      else .error (.outOfRange value wanted)
  | other => .error (.wrongKind other wanted)

instance : Readable Int8 :=
  ⟨readInteger "i8" Int8.minValue.toInt Int8.maxValue.toInt Int8.ofInt⟩
instance : Readable Int64 :=
  ⟨readInteger "i64" Int64.minValue.toInt Int64.maxValue.toInt Int64.ofInt⟩
instance : Readable UInt8 :=
  ⟨readInteger "u8" 0 (UInt8.size - 1) (fun value => UInt8.ofNat value.toNat)⟩
instance : Readable UInt32 :=
  ⟨readInteger "u32" 0 (UInt32.size - 1) (fun value => UInt32.ofNat value.toNat)⟩
instance : Readable UInt64 :=
  ⟨readInteger "u64" 0 (UInt64.size - 1) (fun value => UInt64.ofNat value.toNat)⟩

instance : Writable Int8 := ⟨fun value => .integer value.toInt⟩
instance : Writable Int64 := ⟨fun value => .integer value.toInt⟩
instance : Writable UInt8 := ⟨fun value => .count value.toNat⟩
instance : Writable UInt32 := ⟨fun value => .count value.toNat⟩
instance : Writable UInt64 := ⟨fun value => .count value.toNat⟩

instance : Readable String where
  read
    | .string text => .ok text
    | other => .error (.wrongKind other "a string")

instance : Writable String := ⟨Value.string⟩

instance : Readable Bool where
  read
    | .boolean truth => .ok truth
    | other => .error (.wrongKind other "a boolean")

instance : Writable Bool := ⟨Value.boolean⟩

instance : Readable Float where
  read
    | .number (.integer value) => .ok (Float.ofInt value)
    | .number (.float value) => .ok value
    | other => .error (.wrongKind other "f64")

instance : Writable Float := ⟨fun value => .number (.float value)⟩

instance : Readable Unit where
  read
    | .null => .ok ()
    | other => .error (.wrongKind other "unit")

instance : Writable Unit := ⟨fun _ => .null⟩

instance : Readable Value := ⟨Except.ok⟩

instance : Writable Value := ⟨id⟩

/-- A missing part is written as null. -/
instance {α : Type} [Readable α] : Readable (Option α) where
  read
    | .null => .ok none
    | other => (read other).map some

instance {α : Type} [Writable α] : Writable (Option α) where
  write
    | none => .null
    | some value => write value

/-- The first item that does not fit decides. -/
instance {α : Type} [Readable α] : Readable (List α) where
  read
    | .array items => items.mapM read
    | other => .error (.wrongKind other "a sequence")

instance {α : Type} [Writable α] : Writable (List α) := ⟨fun items => .array (items.map write)⟩

structure Named (α : Type) where
  fields : List (String × α)

instance {α : Type} [Readable α] : Readable (Named α) where
  read
    | .object fields =>
        (fields.mapM (fun field => (read field.2).map (Prod.mk field.1))).map Named.mk
    | other => .error (.wrongKind other "a map")

instance {α : Type} [Writable α] : Writable (Named α) where
  write named := .object (named.fields.map (fun field => (field.1, write field.2)))

/-- The parts of a pair are read in order; what follows them is counted last. -/
instance {α β : Type} [Readable α] [Readable β] : Readable (α × β) where
  read
    | .array [] => .error (.wrongLength 0 "a tuple of size 2")
    | .array [first] => do
        let _ ← (read first : Except Misfit α)
        .error (.wrongLength 1 "a tuple of size 2")
    | .array (first :: second :: rest) => do
        let first ← read first
        let second ← read second
        if rest.isEmpty then .ok (first, second)
        else .error (.wrongLength (rest.length + 2) "fewer elements in array")
    | other => .error (.wrongKind other "a tuple of size 2")

instance {α β : Type} [Writable α] [Writable β] : Writable (α × β) :=
  ⟨fun pair => .array [write pair.1, write pair.2]⟩

end Interception
