/-
Reading a JSON text. A numeral without point and exponent is an integer when it
fits the signed or the unsigned sixty-four-bit range, and a floating-point number
otherwise; negative zero is a floating-point number. Floating-point numerals are
read with one scaling: the first digits that fit sixty-four bits, times or over a
power of ten.
-/

import Interception.Json.Token
import Interception.Value

namespace Interception.Json

/-- The digits that a sixty-four-bit significand has room for, with the number of
digits left over. -/
def significand (start : Nat) : List Char → Nat × Nat
  | [] => (start, 0)
  | digit :: rest =>
      let next := 10 * start + (digit.toNat - '0'.toNat)
      if next < UInt64.size then significand next rest else (start, rest.length + 1)

/-- `value * 10 ^ exponent`, dividing for a negative exponent. A divisor beyond the
range of the type is applied in steps. -/
def scaled (value : Float) (exponent : Int) : Float :=
  if 0 ≤ exponent then value * Float.ofScientific 1 false exponent.toNat
  else
    let places := (-exponent).toNat
    if places ≤ 308 then value / Float.ofScientific 1 false places
    else value / Float.ofScientific 1 false 308 / Float.ofScientific 1 false (places - 308)

def Numeral.toFloat (numeral : Numeral) : Float :=
  let (whole, dropped) := significand 0 numeral.whole
  let decimals := numeral.fraction.getD []
  let (digits, ignored) :=
    if dropped = 0 then significand whole decimals else (whole, decimals.length)
  let places := decimals.length - ignored
  let exponent := numeral.exponent.getD 0 + (dropped : Int) - (places : Int)
  let magnitude := scaled digits.toFloat exponent
  if numeral.negative then -magnitude else magnitude

def Numeral.number (numeral : Numeral) : Number :=
  if numeral.fraction.isSome || numeral.exponent.isSome then .float numeral.toFloat
  else
    let size := natural numeral.whole
    if numeral.negative then
      let value := 0 - (size : Int)
      if 0 < size && Int64.minValue.toInt ≤ value then .integer value else .float numeral.toFloat
    else if size < UInt64.size then .integer size
    else .float numeral.toFloat

mutual
def value? : Nat → List Token → Option (Value × List Token)
  | 0, _ => none
  | limit + 1, token :: rest =>
      match token with
      | .text content => some (.string content, rest)
      | .numeral numeral => some (.number numeral.number, rest)
      | .word "null" => some (.null, rest)
      | .word "true" => some (.boolean true, rest)
      | .word "false" => some (.boolean false, rest)
      | .mark '[' =>
          match rest with
          | .mark ']' :: rest => some (.array [], rest)
          | rest => do
              let (items, rest) ← items? limit rest
              return (.array items, rest)
      | .mark '{' =>
          match rest with
          | .mark '}' :: rest => some (.object [], rest)
          | rest => do
              let (pairs, rest) ← pairs? limit rest
              return (Value.ofPairs pairs, rest)
      | _ => none
  | _ + 1, [] => none

def items? : Nat → List Token → Option (List Value × List Token)
  | 0, _ => none
  | limit + 1, tokens => do
      let (item, rest) ← value? limit tokens
      match rest with
      | .mark ',' :: rest =>
          let (items, rest) ← items? limit rest
          return (item :: items, rest)
      | .mark ']' :: rest => return ([item], rest)
      | _ => none

def pairs? : Nat → List Token → Option (List (String × Value) × List Token)
  | 0, _ => none
  | limit + 1, .text name :: .mark ':' :: tokens => do
      let (item, rest) ← value? limit tokens
      match rest with
      | .mark ',' :: rest =>
          let (pairs, rest) ← pairs? limit rest
          return ((name, item) :: pairs, rest)
      | .mark '}' :: rest => return ([(name, item)], rest)
      | _ => none
  | _ + 1, _ => none
end

/-- The value that a whole text stands for. Twice the number of tokens bounds the
depth of the reading. -/
def read? (text : String) : Option Value := do
  let tokens ← tokens? text
  match ← value? (2 * tokens.length + 1) tokens with
  | (value, []) => some value
  | _ => none

end Interception.Json
