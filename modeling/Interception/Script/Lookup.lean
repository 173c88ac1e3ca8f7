/-
Lookups: one reading of a setting, with the way absence is met.
-/

import Interception.Settings
import Interception.Value.Shape

namespace Interception

inductive LookupMode where
  /-- Absence is an answer of its own. -/
  | optional (shape : Shape)
  | orDefault (shape : Shape) (default : Value)
  | required (shape : Shape)
  | text

structure Lookup where
  key : String
  mode : LookupMode

def Value.present : Option Value → Value
  | none => .ofPairs [("absent", .boolean true)]
  | some value => .ofPairs [("value", value)]

def Lookup.run (lookup : Lookup) (settings : Settings) : Except SetupError Value :=
  match lookup.mode with
  | .optional shape =>
      (settings.get shape.Carrier lookup.key).map (fun result => .present (result.map write))
  | .orDefault shape default =>
      match (read default : Except Misfit shape.Carrier) with
      | .ok default => (settings.getOr lookup.key default).map write
      | .error misfit => .error (.invalidSetting lookup.key misfit.message)
  | .required shape => (settings.require shape.Carrier lookup.key).map write
  | .text => .ok ((settings.text? lookup.key).elim .null .string)

/-- Answers lookups in order and collects the answers by key; the first that fails
decides. -/
def Lookup.collect (lookups : List Lookup) (settings : Settings) :
    Except SetupError (List (String × Value)) :=
  lookups.foldlM
    (fun answers lookup => (lookup.run settings).map (Fields.insert lookup.key · answers)) []

end Interception
