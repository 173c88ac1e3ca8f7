/-
Steps about signatures and registries. A registry with two or more capabilities is
not shown as an outline, since its entries have no order of their own.
-/

import Interception.Session.State

namespace Interception

open Interception.Text

inductive SignatureCommand where
  | showSignature (reference : Reference) (layout : Outline.Layout)
  | sameSignature (left right : Reference)
  | build (identifier : String) (references : List Reference)
  | buildEmpty (identifier : String)
  | methods (registry capability : String)
  | contains (registry capability : String)
  | intercepts (registry : String) (reference : Reference)
  | showRegistry (registry : String) (layout : Outline.Layout)
  | resolve (type registry : String)

def withoutOrder : Value :=
  .string "(unordered)"

/-- Whether the registry has at most one entry, so that order does not matter. -/
def Registry.hasOrder (registry : Registry) : Bool :=
  registry.entries.length < 2

namespace SignatureCommand

private def storeRegistry (identifier : String) (registry : Registry) : Step Value := do
  modify (fun session => { session with
    registries := Fields.insert identifier registry session.registries })
  return registry.describe

def perform : SignatureCommand → Step Value
  | .showSignature reference layout => do
      let signature ← Step.signature reference
      return .ofPairs
        [("capability", .string signature.capability.name),
         ("method", .string signature.selector.name),
         ("args", .strings signature.selector.params),
         ("debug", .string (signature.outline.render layout))]
  | .sameSignature left right => do
      return .boolean ((← Step.signature left) == (← Step.signature right))
  | .build identifier references => do
      let signatures ← references.mapM Step.signature
      let registry ← Step.orSetup (← Step.inWorkshop (Registry.build signatures))
      storeRegistry identifier registry
  | .buildEmpty identifier => storeRegistry identifier Registry.empty
  | .methods registry capability => do
      let registry ← Step.registry registry
      let capability ← Step.capability capability
      return ((registry.methods? capability).map describeMethods).getD .null
  | .contains registry capability => do
      return .boolean ((← Step.registry registry).hasKey (← Step.capability capability))
  | .intercepts registry reference => do
      let registry ← Step.registry registry
      return .boolean (registry.intercepts (← Step.method reference))
  | .showRegistry registry layout => do
      let registry ← Step.registry registry
      return if registry.hasOrder then .string (registry.outline.render layout) else withoutOrder
  | .resolve type registry => do
      let table ← Step.type type
      return .strings (Capability.names (table.resolve (← Step.registry registry)))

end SignatureCommand

end Interception
