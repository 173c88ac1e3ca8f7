/-
Blueprints: descriptions from which interceptors are built. A blueprint refers to
capabilities and objects by identifiers, which are looked up when the interceptor is
built, so one blueprint can give different interceptors at different times.
-/

import Interception.Sample.Tagging
import Interception.Script.Action
import Interception.Script.Lookup

namespace Interception

structure Reference where
  capability : String
  selector : Selector

inductive HookScript where
  | standard
  | never
  /-- Leaves objects alone whose type name starts with a text. -/
  | skipping (start : String)
  | twice
  | replace (object : String)

/-- What a scripted interceptor does: an action by method name, an action for all
other methods, a hook, and what it reads from its settings. -/
structure Plan where
  actions : List (String × Action)
  otherwise : Action
  hook : HookScript
  lookups : List Lookup

inductive Flavour where
  | tagging (tagging : Tagging)
  | passive
  | scripted (plan : Plan)

structure Blueprint where
  name : String
  signatures : List Reference
  flavour : Flavour

variable {m : Type → Type}

def HookScript.hook (scope : Scope m) : HookScript → Hook m
  | .standard => Hook.standard
  | .never => fun _ object => return object
  | .skipping start => fun wrap object =>
      if object.table.name.startsWith start then return object else wrap object
  | .twice => fun wrap object => do
      wrap (← wrap object)
  | .replace identifier =>
      let replacement := scope.object? identifier
      fun _ object => return replacement.getD object

namespace Plan

def action (plan : Plan) (method : Method) : Action :=
  (plan.actions.lookup method.name).getD plan.otherwise

variable [Monad m] [Journal m]

def intercept (plan : Plan) (name : String) (scope : Scope m) (answers : Value)
    (invocation : Invocation m) : m Outcome := do
  Journal.record (name ++ ">" ++ invocation.method.display)
  let outcome ← (plan.action invocation.method).run scope answers invocation
  match outcome with
  | .ok _ => Journal.record (name ++ "<ok")
  | .error _ => Journal.record (name ++ "<err")
  return outcome

def interceptor (plan : Plan) (name : String) (scope : Scope m) (signatures : List Signature)
    (answers : Value) : Interceptor m where
  name := name
  signatures := signatures
  intercept := plan.intercept name scope answers
  hook := plan.hook.hook scope

def draft (plan : Plan) (name : String) (scope : Scope m) (signatures : List Signature) :
    Draft m :=
  let initial := plan.interceptor name scope signatures (.object [])
  { interceptor := initial
    configure := fun settings =>
      match Lookup.collect plan.lookups settings with
      | .ok answers => ⟨plan.interceptor name scope signatures (.object answers), none⟩
      | .error error => ⟨initial, some error⟩ }

end Plan

def Blueprint.draft [Monad m] [Journal m] (blueprint : Blueprint) (scope : Scope m)
    (signatures : List Signature) : Draft m :=
  match blueprint.flavour with
  | .tagging tagging => (tagging.interceptor blueprint.name signatures).draft
  | .passive => (passiveInterceptor blueprint.name signatures).draft
  | .scripted plan => plan.draft blueprint.name scope signatures

end Interception
