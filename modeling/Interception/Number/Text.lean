/-
The text of a number. An integer is written in decimal. A floating-point number is
written with the fewest digits that read back: positionally, and always with a
fractional part, while its leading digit lies between the fifth decimal place and
the sixteenth place before the point, and with a signed exponent outside that range.
-/

import Interception.Number
import Interception.Number.Shortest

namespace Interception.Number

/-- How a nonzero decimal is laid out: the lowest and the highest exponent of a
leading digit that is still written without an exponent, and the sign in front of an
exponent that is not negative. -/
structure Layout where
  lowest : Int
  highest : Int
  positiveSign : String

/-- Numbers in messages and documents are positional from the fifth decimal place to
the sixteenth place before the point, and every exponent carries its sign. -/
def layout : Layout := ⟨-5, 15, "+"⟩

private def zeros (count : Nat) : List Char :=
  List.replicate count '0'

def withoutTrailingZeros (digits : List Char) : List Char :=
  (digits.reverse.dropWhile (· == '0')).reverse

def Layout.exponent (layout : Layout) (exponent : Int) : String :=
  if exponent < 0 then toString exponent else layout.positiveSign ++ toString exponent

def Layout.write (layout : Layout) (decimal : Decimal) : String :=
  let all := Nat.toDigits 10 decimal.digits
  let leading := (all.length : Int) + decimal.exponent - 1
  let digits := withoutTrailingZeros all
  let places := leading.toNat + 1
  let text :=
    if leading < layout.lowest || layout.highest < leading then
      let tail := if digits.length ≤ 1 then [] else '.' :: digits.drop 1
      digits.take 1 ++ tail ++ 'e' :: (layout.exponent leading).toList
    else if leading < 0 then '0' :: '.' :: (zeros (-leading - 1).toNat ++ digits)
    else if digits.length ≤ places then digits ++ zeros (places - digits.length) ++ ['.', '0']
    else digits.take places ++ '.' :: digits.drop places
  String.ofList text

def floatText (value : Float) : String :=
  if value.isNaN then "NaN"
  else
    let bits := value.toBits
    let sign := if bits >>> 63 = 1 then "-" else ""
    if value.isInf then sign ++ "inf"
    else
      let magnitude := Magnitude.ofBits bits
      sign ++ (if magnitude.significand = 0 then "0.0" else layout.write magnitude.shortest)

def text : Number → String
  | .integer value => toString value
  | .float value => floatText value

end Interception.Number
