/-
Steps about chains. An interceptor is added fresh, built from its blueprint as the
session stands, or shared, as it was built when its blueprint was given.
-/

import Interception.Session.Wrapping

namespace Interception

open Interception.Text

inductive ChainCommand where
  | define (identifier : String)
  | copy (identifier chain : String)
  | add (chain interceptor : String)
  | addShared (chain interceptor : String)
  | addConfigured (chain interceptor settings : String)
  | weave (identifier chain target : String)
  | info (chain : String)
  | showChain (chain : String) (layout : Outline.Layout)

namespace ChainCommand

private def storeChain (identifier : String) (chain : Chain Run) : Step Unit :=
  modify (fun session => { session with
    chains := Fields.insert identifier chain session.chains })

/-- Stores a chain after an addition and answers its length, or fails with the
reason for the refusal. -/
private def concludeAddition (identifier : String) (result : Chain Run × Option SetupError) :
    Step Value := do
  storeChain identifier result.1
  match result.2 with
  | some error => throw (.setup error)
  | none => return .count result.1.size

def perform : ChainCommand → Step Value
  | .define identifier => do
      storeChain identifier Chain.empty
      return .null
  | .copy identifier chain => do
      storeChain identifier (← Step.chain chain)
      return .null
  | .add identifier interceptor => do
      let chain ← Step.chain identifier
      let draft ← Step.draft (← Step.blueprint interceptor).blueprint
      concludeAddition identifier (← Step.inWorkshop (chain.add draft.interceptor))
  | .addShared identifier interceptor => do
      let chain ← Step.chain identifier
      let entry ← Step.blueprint interceptor
      concludeAddition identifier (← Step.inWorkshop (chain.add entry.shared))
  | .addConfigured identifier interceptor settings => do
      let chain ← Step.chain identifier
      let settings ← Step.settings settings
      let draft ← Step.draft (← Step.blueprint interceptor).blueprint
      concludeAddition identifier (← Step.inWorkshop (chain.addConfigured draft settings))
  | .weave identifier chain target => do
      let chain ← Step.chain chain
      let object ← Step.object target
      Step.storeWrapped identifier object (← Step.inWorkshop (chain.weave object))
  | .info chain => do
      let chain ← Step.chain chain
      return .ofPairs
        [("len", .count chain.size),
         ("is_empty", .boolean chain.isEmpty),
         ("count", .count chain.interceptors.length),
         ("interceptors", .strings (chain.interceptors.map (·.name))),
         ("plugins", .array (chain.registrations.map (·.registry.describe)))]
  | .showChain chain layout => do
      let chain ← Step.chain chain
      return if chain.registrations.all (·.registry.hasOrder)
        then .string (chain.outline.render layout) else withoutOrder

end ChainCommand

end Interception
