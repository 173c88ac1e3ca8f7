/-
Steps about capabilities, methods and type tables.
-/

import Interception.Session.State

namespace Interception

open Interception.Text

inductive CatalogueCommand where
  | define (identifier name : String) (supers : List String) (selectors : List Selector)
  | lookup (reference : Reference)
  | isA (capability other : String)
  | isNamed (capability name : String)
  | sameCapability (left right : String)
  | showCapability (capability : String) (layout : Outline.Layout)
  | gather (capabilities : List String) (probes : List String)
  | sameMethod (left right : Reference)
  | showMethod (reference : Reference) (layout : Outline.Layout)
  | defineType (identifier name : String) (interfaces : List String) (parent : Option String)
  | implements (type capability : String)
  | showType (type : String) (layout : Outline.Layout)

namespace CatalogueCommand

/-- Which of the capabilities are the first of their name. -/
def firstOfName (seen : List Capability) : List Capability → List Bool
  | [] => []
  | capability :: rest =>
      (!seen.elem capability) :: firstOfName (capability :: seen) rest

def gathering (capabilities : List Capability) (probes : List String) : Value :=
  let kept := Capability.distinct capabilities
  .ofPairs
    [("added", .array ((firstOfName [] capabilities).map Value.boolean)),
     ("contains", .array (probes.map (fun probe =>
       .boolean ((Capability.names kept).contains probe)))),
     ("len", .count kept.length)]

def perform : CatalogueCommand → Step Value
  | .define identifier name supers selectors => do
      let supers ← supers.mapM Step.capability
      let capability := Capability.ofClauses name
        (supers.map Capability.Clause.extend ++ selectors.map Capability.Clause.declare)
      modify (fun session => { session with
        capabilities := Fields.insert identifier capability session.capabilities })
      return capability.describe
  | .lookup reference => do
      let capability ← Step.capability reference.capability
      return ((capability.method? reference.selector).map Method.describe).getD .null
  | .isA capability other => do
      return .boolean ((← Step.capability capability).isA (← Step.capability other))
  | .isNamed capability name => do
      return .boolean ((← Step.capability capability).isNamed name)
  | .sameCapability left right => do
      return .boolean ((← Step.capability left) == (← Step.capability right))
  | .showCapability capability layout => do
      let capability ← Step.capability capability
      return .ofPairs
        [("display", .string capability.name),
         ("debug", .string (capability.outline.render layout))]
  | .gather capabilities probes => do
      return gathering (← capabilities.mapM Step.capability) probes
  | .sameMethod left right => do
      let left ← Step.method left
      let right ← Step.method right
      return .ofPairs
        [("eq", .boolean (left == right)), ("distinct", .count (if left == right then 1 else 2))]
  | .showMethod reference layout => do
      return .string ((← Step.method reference).outline.render layout)
  | .defineType identifier name interfaces parent => do
      let interfaces ← interfaces.mapM Step.capability
      let own := (TypeTable.named name).withInterfaces interfaces
      let table ← match parent with
        | none => pure own
        | some parent => do pure (own.withParent (← Step.type parent))
      modify (fun session => { session with
        types := Fields.insert identifier table session.types })
      return table.describe
  | .implements type capability => do
      return .boolean ((← Step.type type).implements (← Step.capability capability))
  | .showType type layout => do
      return .string ((← Step.type type).outline.render layout)

end CatalogueCommand

end Interception
