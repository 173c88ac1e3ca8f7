/-
Steps about settings.
-/

import Interception.Session.Signatures

namespace Interception

open Interception.Text

inductive SettingsSource where
  | pairs (pairs : List (String × Value))
  | written (pairs : List (String × Value))
  /-- From a value that has to be an object. -/
  | value (value : Value)

inductive SettingsCommand where
  | define (identifier : String) (source : SettingsSource)
  | insert (settings key : String) (value : Value)
  | raw (settings key : String)
  | lookup (settings : String) (reading : Lookup)
  | info (settings : String) (probes : List String)
  | same (left right : String)
  | copy (identifier settings : String)
  | showSettings (settings : String) (layout : Outline.Layout)

namespace SettingsCommand

private def storeSettings (identifier : String) (settings : Settings) : Step Unit :=
  modify (fun session => { session with
    settings := Fields.insert identifier settings session.settings })

def made : SettingsSource → Except Misfit Settings
  | .pairs pairs => .ok (Settings.ofPairs pairs)
  | .written pairs =>
      .ok (pairs.foldl (fun settings pair => settings.put pair.1 pair.2) Settings.empty)
  | .value value => read value

def perform : SettingsCommand → Step Value
  | .define identifier source => do
      match made source with
      | .error misfit => throw (.misfit misfit)
      | .ok settings =>
          storeSettings identifier settings
          return write settings
  | .insert identifier key value => do
      let (previous, settings) := (← Step.settings identifier).insert key value
      storeSettings identifier settings
      return .present previous
  | .raw settings key => do
      return .present ((← Step.settings settings).find? key)
  | .lookup settings reading => do
      Step.orSetup (reading.run (← Step.settings settings))
  | .info settings probes => do
      let settings ← Step.settings settings
      return .ofPairs
        [("len", .count settings.size),
         ("is_empty", .boolean settings.isEmpty),
         ("json", write settings),
         ("contains", .array (probes.map (fun probe => .boolean (settings.contains probe))))]
  | .same left right => do
      return .boolean ((← Step.settings left) == (← Step.settings right))
  | .copy identifier settings => do
      storeSettings identifier (← Step.settings settings)
      return .null
  | .showSettings settings layout => do
      let settings ← Step.settings settings
      return if settings.size < 2 then .string (settings.outline.render layout) else withoutOrder

end SettingsCommand

end Interception
