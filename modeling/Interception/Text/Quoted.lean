/-
Quoted text: a string between double quotes in which a quote, a backslash, the
usual control characters and everything unprintable are written as escapes. The
apostrophe stands for itself.
-/

import Interception.Text.Printable

namespace Interception.Text

def hexadecimal (code : Nat) : String :=
  String.ofList (Nat.toDigits 16 code)

def escaped (character : Char) : String :=
  if character == '"' then "\\\""
  else if character == '\\' then "\\\\"
  else if character == '\n' then "\\n"
  else if character == '\r' then "\\r"
  else if character == '\t' then "\\t"
  else if character.toNat == 0 then "\\0"
  else if isPrintable character then character.toString
  else "\\u\x7b" ++ hexadecimal character.toNat ++ "\x7d"

def quoted (text : String) : String :=
  "\"" ++ String.join (text.toList.map escaped) ++ "\""

end Interception.Text
