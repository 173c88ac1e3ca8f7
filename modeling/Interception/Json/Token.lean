/-
Tokens of a JSON text. A number keeps its parts as written, because the way it is
written decides whether it is an integer; a string is decoded here, surrogate
pairs included. Scanning recurses on the characters that are left.
-/

namespace Interception.Json

structure Numeral where
  negative : Bool
  whole : List Char
  fraction : Option (List Char)
  exponent : Option Int
  deriving DecidableEq, Repr

inductive Token where
  | mark (character : Char)
  | word (letters : String)
  | text (content : String)
  | numeral (numeral : Numeral)
  deriving DecidableEq, Repr

def hexadecimalDigit? (character : Char) : Option Nat :=
  if '0' ≤ character ∧ character ≤ '9' then some (character.toNat - '0'.toNat)
  else if 'a' ≤ character ∧ character ≤ 'f' then some (character.toNat - 'a'.toNat + 10)
  else if 'A' ≤ character ∧ character ≤ 'F' then some (character.toNat - 'A'.toNat + 10)
  else none

def codeUnit? (digits : List Char) : Option Nat :=
  digits.foldl (fun value digit => do
    return 16 * (← value) + (← hexadecimalDigit? digit)) (some 0)

def paired? (lead : Option Nat) (unit : Nat) : Option Char :=
  match lead with
  | none => if 0xdc00 ≤ unit && unit < 0xe000 then none else some (Char.ofNat unit)
  | some high =>
      if 0xdc00 ≤ unit && unit < 0xe000 then
        some (Char.ofNat (0x10000 + (high - 0xd800) * 0x400 + (unit - 0xdc00)))
      else none

def simpleEscape? : Char → Option Char
  | '"' => some '"'
  | '\\' => some '\\'
  | '/' => some '/'
  | 'b' => some (Char.ofNat 8)
  | 'f' => some (Char.ofNat 12)
  | 'n' => some '\n'
  | 'r' => some '\r'
  | 't' => some '\t'
  | _ => none

/-- Reads a string up to its closing quote. `lead` is the first half of a surrogate
pair whose second half has to follow; `read` holds the characters so far, last one
first. -/
def scanText (lead : Option Nat) (read : List Char) : List Char → Option (String × List Char)
  | '\\' :: 'u' :: first :: second :: third :: fourth :: rest =>
      match codeUnit? [first, second, third, fourth] with
      | none => none
      | some unit =>
          if lead.isNone && 0xd800 ≤ unit && unit < 0xdc00 then scanText (some unit) read rest
          else
            match paired? lead unit with
            | none => none
            | some character => scanText none (character :: read) rest
  | '\\' :: letter :: rest =>
      if lead.isSome then none
      else
        match simpleEscape? letter with
        | none => none
        | some character => scanText none (character :: read) rest
  | '"' :: rest => if lead.isSome then none else some (String.ofList read.reverse, rest)
  | character :: rest =>
      if lead.isSome || character.toNat < 0x20 then none
      else scanText none (character :: read) rest
  | [] => none

def natural (digits : List Char) : Nat :=
  digits.foldl (fun value digit => 10 * value + (digit.toNat - '0'.toNat)) 0

private def leadingDigits (characters : List Char) : List Char × List Char :=
  characters.span Char.isDigit

private def leadingSign : List Char → Bool × List Char
  | '-' :: rest => (true, rest)
  | characters => (false, characters)

private def fraction? : List Char → Option (Option (List Char) × List Char)
  | '.' :: rest =>
      let (digits, rest) := leadingDigits rest
      if digits.isEmpty then none else some (some digits, rest)
  | characters => some (none, characters)

private def exponent? : List Char → Option (Option Int × List Char)
  | letter :: rest =>
      if letter == 'e' || letter == 'E' then
        let (negative, rest) := leadingSign (match rest with | '+' :: rest => rest | rest => rest)
        let (digits, rest) := leadingDigits rest
        if digits.isEmpty then none
        else
          let size : Int := natural digits
          some (some (if negative then 0 - size else size), rest)
      else some (none, letter :: rest)
  | [] => some (none, [])

def scanNumeral (characters : List Char) : Option (Numeral × List Char) := do
  let (negative, rest) := leadingSign characters
  let (whole, rest) := leadingDigits rest
  if whole.isEmpty || (whole.head? == some '0' && 1 < whole.length) then none
  else
    let (fraction, rest) ← fraction? rest
    let (exponent, rest) ← exponent? rest
    return ({ negative, whole, fraction, exponent }, rest)

def isGap (character : Char) : Bool :=
  character == ' ' || character == '\t' || character == '\n' || character == '\r'

/-- The tokens of a text, read with at most `limit` steps. Each step uses up a
character, so the length of the text is enough. -/
def scan : Nat → List Char → Option (List Token)
  | _, [] => some []
  | 0, _ :: _ => none
  | limit + 1, character :: rest =>
      if isGap character then scan limit rest
      else if ['[', ']', '{', '}', ':', ','].contains character then
        (scan limit rest).map (Token.mark character :: ·)
      else if character == '"' then do
        let (content, rest) ← scanText none [] rest
        return Token.text content :: (← scan limit rest)
      else if character == '-' || character.isDigit then do
        let (numeral, rest) ← scanNumeral (character :: rest)
        return Token.numeral numeral :: (← scan limit rest)
      else if character.isAlpha then do
        let (letters, rest) := rest.span Char.isAlpha
        return Token.word (String.ofList (character :: letters)) :: (← scan limit rest)
      else none

def tokens? (text : String) : Option (List Token) :=
  let characters := text.toList
  scan characters.length characters

end Interception.Json
