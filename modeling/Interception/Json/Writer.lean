/-
Writing a value as a JSON text. Only the quote, the backslash and the control
characters are escaped in strings; numbers have the text they have everywhere.
-/

import Interception.Number.Text
import Interception.Text.Quoted
import Interception.Value

namespace Interception.Json

def writtenCharacter (character : Char) : String :=
  if character == '"' then "\\\""
  else if character == '\\' then "\\\\"
  else if character.toNat < 0x20 then
    let digits := Text.hexadecimal character.toNat
    "\\u" ++ String.ofList (List.replicate (4 - digits.length) '0') ++ digits
  else character.toString

def writtenText (text : String) : String :=
  "\"" ++ String.join (text.toList.map writtenCharacter) ++ "\""

mutual
def written : Value → String
  | .null => "null"
  | .boolean truth => if truth then "true" else "false"
  | .number number => number.text
  | .string text => writtenText text
  | .array items => "[" ++ ",".intercalate (writtenItems items) ++ "]"
  | .object fields => "\x7b" ++ ",".intercalate (writtenFields fields) ++ "\x7d"

def writtenItems : List Value → List String
  | [] => []
  | item :: rest => written item :: writtenItems rest

def writtenFields : List (String × Value) → List String
  | [] => []
  | (name, item) :: rest => (writtenText name ++ ":" ++ written item) :: writtenFields rest
end

end Interception.Json
