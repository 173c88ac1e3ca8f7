/-
Numbers keep the way they were given: an integer and a floating-point number are
different numbers even when they have the same value. Two floating-point numbers
are compared as such, so the two zeros agree.
-/

namespace Interception

inductive Number where
  | integer (value : Int)
  | float (value : Float)
  deriving Repr

namespace Number

def beq : Number → Number → Bool
  | .integer left, .integer right => left == right
  | .float left, .float right => left == right
  | _, _ => false

instance : BEq Number := ⟨beq⟩

end Number

end Interception
