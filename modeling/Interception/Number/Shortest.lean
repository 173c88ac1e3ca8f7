/-
The fewest decimal digits that read back. A finite floating-point magnitude is an
exact multiple of a power of two, and an interval of reals around it rounds to it,
ends included when the multiple is even. On the coarsest decimal grid that has a
point in the interval, the nearest such point is the answer. All arithmetic is on
natural numbers, so nothing here is approximate.
-/

namespace Interception.Number

/-- The magnitude `significand * 2 ^ exponent`. `binade` says that the significand
is the least one for its exponent, so the gap below is half the gap above. -/
structure Magnitude where
  significand : Nat
  exponent : Int
  binade : Bool
  deriving DecidableEq, Repr

/-- The bit that a double-precision pattern leaves out of the significand. -/
def hiddenBit : Nat := 0x10000000000000

def Magnitude.ofBits (bits : UInt64) : Magnitude :=
  let fraction := bits.toNat % hiddenBit
  let biased : Nat := bits.toNat / hiddenBit % 0x800
  if biased = 0 then { significand := fraction, exponent := -1074, binade := false }
  else
    { significand := hiddenBit + fraction
      exponent := (biased : Int) - 1075
      binade := fraction = 0 && 1 < biased }

def factor (base : Nat) (exponent : Int) : Nat :=
  Nat.pow base exponent.toNat

def divisor (base : Nat) (exponent : Int) : Nat :=
  Nat.pow base (-exponent).toNat

def width (value : Nat) : Nat :=
  (Nat.toDigits 10 value).length

def leadingExponent (numerator denominator : Nat) : Int :=
  if denominator ≤ numerator then (width (numerator / denominator) : Int) - 1
  else if numerator = 0 then 0
  else
    let ratio := (denominator + numerator - 1) / numerator
    0 - (width (ratio - 1) : Int)

structure Decimal where
  digits : Nat
  exponent : Int
  deriving DecidableEq, Repr

/-- The point of one decimal grid that rounds to the magnitude, if either of the
two neighbours does; the nearer one when both do, and of two equally near ones the
even one. -/
def Magnitude.onGrid (magnitude : Magnitude) (exponent : Int) : Option Decimal :=
  let quarter := magnitude.exponent - 2
  let scale (quarters : Nat) := quarters * factor 2 quarter * divisor 10 exponent
  let unit := factor 10 exponent * divisor 2 quarter
  let exact := scale (4 * magnitude.significand)
  let low := scale (4 * magnitude.significand - (if magnitude.binade then 1 else 2))
  let high := scale (4 * magnitude.significand + 2)
  let closed := magnitude.significand % 2 = 0
  let inside (digits : Nat) : Bool :=
    let point := digits * unit
    if closed then low ≤ point && point ≤ high else low < point && point < high
  let below := exact / unit
  let above := below + 1
  match inside below, inside above with
  | true, false => some ⟨below, exponent⟩
  | false, true => some ⟨above, exponent⟩
  | true, true =>
      let fromBelow := exact - below * unit
      let toAbove := above * unit - exact
      if fromBelow < toAbove then some ⟨below, exponent⟩
      else if toAbove < fromBelow then some ⟨above, exponent⟩
      else some ⟨if below % 2 = 0 then below else above, exponent⟩
  | false, false => none

/-- The shortest decimal that rounds to the magnitude. Seventeen digits always
suffice. -/
def Magnitude.shortest (magnitude : Magnitude) : Decimal :=
  let leading := leadingExponent
    (magnitude.significand * factor 2 magnitude.exponent) (divisor 2 magnitude.exponent)
  let grids := (List.range 17).map (fun (extra : Nat) => leading - (extra : Int))
  (grids.findSome? magnitude.onGrid).getD ⟨0, 0⟩

end Interception.Number
