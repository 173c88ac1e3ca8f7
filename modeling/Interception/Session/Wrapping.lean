/-
Steps about interceptors and the wrapping of objects with them.
-/

import Interception.Session.Signatures

namespace Interception

open Interception.Text

inductive WrapCommand where
  | define (identifier : String) (blueprint : Blueprint)
  /-- Registers the shared interceptor for this one wrap. -/
  | wrapWith (identifier target interceptor : String)
  | register (identifier interceptor : String)
  | wrap (identifier registration target : String)
  | apply (identifier registration target : String)
  | showRegistration (registration : String) (layout : Outline.Layout)

def Step.draft (blueprint : Blueprint) : Step (Draft Run) := do
  let signatures ← blueprint.signatures.mapM Step.signature
  return blueprint.draft (← get).scope signatures

def Step.blueprint (identifier : String) : Step BlueprintEntry :=
  Step.named Session.blueprints identifier

def Step.storeWrapped (identifier : String) (before after : Object Run) : Step Value := do
  modify (fun session => { session with
    objects := Fields.insert identifier after session.objects })
  return .ofPairs [("same", .boolean (before.same after)), ("info", after.table.describe)]

namespace WrapCommand

def perform : WrapCommand → Step Value
  | .define identifier blueprint => do
      let shared := (← Step.draft blueprint).interceptor
      modify (fun session => { session with
        blueprints := Fields.insert identifier ⟨blueprint, shared⟩ session.blueprints })
      return .ofPairs
        [("name", .string shared.name),
         ("signatures", .array (shared.signatures.map Signature.describe))]
  | .wrapWith identifier target interceptor => do
      let object ← Step.object target
      let entry ← Step.blueprint interceptor
      let after ← Step.orSetup (← Step.inWorkshop (entry.shared.wrap object))
      Step.storeWrapped identifier object after
  | .register identifier interceptor => do
      let entry ← Step.blueprint interceptor
      let registration ← Step.orSetup (← Step.inWorkshop (Registration.register entry.shared))
      modify (fun session => { session with
        registrations := Fields.insert identifier registration session.registrations })
      return .ofPairs
        [("interceptor", .string registration.name),
         ("registry", registration.registry.describe)]
  | .wrap identifier registration target => do
      let registration ← Step.registration registration
      let object ← Step.object target
      Step.storeWrapped identifier object (← Step.inWorkshop (registration.wrap object))
  | .apply identifier registration target => do
      let registration ← Step.registration registration
      let object ← Step.object target
      Step.storeWrapped identifier object (← Step.inWorkshop (registration.apply object))
  | .showRegistration registration layout => do
      let registration ← Step.registration registration
      return if registration.registry.hasOrder then .string (registration.outline.render layout)
        else withoutOrder

end WrapCommand

end Interception
