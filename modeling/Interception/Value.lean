/-
Values: what calls carry as arguments and results, and what settings hold. The
fields of an object are a map; building an object from pairs puts them in order
and lets the last pair for a name win.
-/

import Interception.Fields
import Interception.Number

namespace Interception

inductive Value where
  | null
  | boolean (truth : Bool)
  | number (number : Number)
  | string (text : String)
  | array (items : List Value)
  | object (fields : List (String × Value))

namespace Value

def integer (value : Int) : Value :=
  .number (.integer value)

def count (value : Nat) : Value :=
  .number (.integer value)

def ofPairs (pairs : List (String × Value)) : Value :=
  .object (Fields.ofPairs pairs)

def strings (texts : List String) : Value :=
  .array (texts.map Value.string)

def text? : Value → Option String
  | .string text => some text
  | _ => none

mutual
/-- Equality of values; floating-point numbers are compared as such. -/
def beq : Value → Value → Bool
  | .null, .null => true
  | .boolean left, .boolean right => left == right
  | .number left, .number right => left == right
  | .string left, .string right => left == right
  | .array left, .array right => beqItems left right
  | .object left, .object right => beqFields left right
  | _, _ => false

def beqItems : List Value → List Value → Bool
  | [], [] => true
  | left :: lefts, right :: rights => beq left right && beqItems lefts rights
  | _, _ => false

def beqFields : List (String × Value) → List (String × Value) → Bool
  | [], [] => true
  | (leftKey, left) :: lefts, (rightKey, right) :: rights =>
      leftKey == rightKey && beq left right && beqFields lefts rights
  | _, _ => false
end

instance : BEq Value := ⟨beq⟩

instance : Inhabited Value := ⟨.null⟩

end Value

end Interception
