/-
The outline of a value: the shape in which descriptions show arguments and
settings. Scalars are words in both layouts.
-/

import Interception.Number.Text
import Interception.Text.Outline
import Interception.Value

namespace Interception.Value

open Interception.Text

mutual
def outline : Value → Outline
  | .null => .word "Null"
  | .boolean truth => .word ("Bool(" ++ (if truth then "true" else "false") ++ ")")
  | .number numeral => .word ("Number(" ++ numeral.text ++ ")")
  | .string text => .word ("String(" ++ quoted text ++ ")")
  | .array items => .labelled "Array" (.list (outlineItems items))
  | .object fields => .labelled "Object" (.table (outlineFields fields))

def outlineItems : List Value → List Outline
  | [] => []
  | item :: rest => outline item :: outlineItems rest

def outlineFields : List (String × Value) → List (String × Outline)
  | [] => []
  | (name, item) :: rest => (quoted name, outline item) :: outlineFields rest
end

end Interception.Value
