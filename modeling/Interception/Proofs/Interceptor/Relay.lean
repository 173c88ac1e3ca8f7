/-
Relaying. An interceptor relays a call when it proceeds exactly once, with whatever
arguments, and gives an inner error back unchanged; a result it may turn into anything.
Relaying through relays is relaying, so a stack of such interceptors treats the errors
of its base target as a single one would.
-/

import Interception.Object
import Interception.Sample.Tagging

namespace Interception

/-- What is decided before a call is relayed: the arguments to proceed with, and what to
do afterwards. An inner error can be noted, but not replaced. -/
structure Relay (m : Type → Type) where
  sent : List Value
  afterResult : Value → m Outcome
  afterError : CallError → m Unit

namespace Relay

variable {m : Type → Type} [Monad m]

def finish (relay : Relay m) : Outcome → m Outcome
  | .ok value => relay.afterResult value
  | .error error => do
      relay.afterError error
      return .error error

/-- Relays a call: decides, proceeds once, and finishes. -/
def run (decide : m (Relay m)) (proceed : List Value → m Outcome) : m Outcome := do
  let relay ← decide
  let outcome ← proceed relay.sent
  relay.finish outcome

def passing (args : List Value) : Relay m where
  sent := args
  afterResult value := return .ok value
  afterError _ := return ()

/-- The outer relay around the inner one that it proceeds to. -/
def around (outer inner : Relay m) : Relay m where
  sent := inner.sent
  afterResult value := do
    let outcome ← inner.afterResult value
    outer.finish outcome
  afterError error := do
    inner.afterError error
    outer.afterError error

/-- Relaying to what relays again. -/
def through (decideOuter : m (Relay m)) (decideInner : List Value → m (Relay m)) :
    m (Relay m) := do
  let outer ← decideOuter
  let inner ← decideInner outer.sent
  return outer.around inner

variable [LawfulMonad m]

theorem finish_passing (args : List Value) (outcome : Outcome) :
    (passing args : Relay m).finish outcome = pure outcome := by
  cases outcome with
  | ok value => rfl
  | error error => exact pure_bind _ _

theorem run_passing (args : List Value) (proceed : List Value → m Outcome) :
    run (pure (passing args)) proceed = proceed args := by
  unfold run
  rw [pure_bind, funext (finish_passing args)]
  exact bind_pure _

theorem run_bind {α : Type} (action : m α) (decide : α → m (Relay m))
    (proceed : List Value → m Outcome) :
    run (action >>= decide) proceed = action >>= fun result => run (decide result) proceed :=
  bind_assoc _ _ _

/-- The inner relay handles an outcome first, and the outer one what that made of it. -/
theorem finish_around (outer inner : Relay m) (outcome : Outcome) :
    (outer.around inner).finish outcome = inner.finish outcome >>= outer.finish := by
  cases outcome with
  | ok value => rfl
  | error error =>
      unfold finish around
      simp only [bind_assoc, pure_bind]

theorem run_through (decideOuter : m (Relay m)) (decideInner : List Value → m (Relay m))
    (proceed : List Value → m Outcome) :
    run (through decideOuter decideInner) proceed =
      run decideOuter (fun sent => run (decideInner sent) proceed) := by
  unfold through
  rw [run_bind]
  apply bind_congr
  intro outer
  rw [run_bind]
  unfold run
  rw [bind_assoc]
  apply bind_congr
  intro inner
  rw [pure_bind, bind_assoc]
  apply bind_congr
  intro outcome
  exact finish_around outer inner outcome

end Relay

variable {m : Type → Type}

/-- Every call of the method is relayed to what is inside. -/
def Handler.Relays [Monad m] (handler : Handler m) (method : Method) : Prop :=
  ∀ invocation : Invocation m, invocation.method = method →
    ∃ decide : m (Relay m), handler.intercept invocation = Relay.run decide invocation.proceedWith

/-- A tagging interceptor without a short circuit tags results and nothing else. -/
def Tagging.relay [Monad m] (tagging : Tagging) (args : List Value) : Relay m where
  sent := args
  afterResult value := return .ok (tagging.mark value)
  afterError _ := return ()

theorem Tagging.relays [Monad m] [LawfulMonad m] [Journal m] {tagging : Tagging}
    (proceeds : tagging.shortCircuit = none) (name : String) (signatures : List Signature)
    (method : Method) :
    (tagging.interceptor name signatures : Interceptor m).Relays method := by
  intro invocation _
  have finished : ∀ outcome : Outcome,
      (tagging.relay invocation.args : Relay m).finish outcome =
        pure (outcome.map tagging.mark) := by
    intro outcome
    cases outcome with
    | ok value => rfl
    | error error => exact pure_bind _ _
  refine ⟨do
    Journal.record (tagging.entry invocation.method)
    return tagging.relay invocation.args, ?_⟩
  change tagging.intercept invocation = _
  unfold Tagging.intercept
  rw [proceeds, Relay.run_bind]
  apply bind_congr
  intro _
  unfold Relay.run
  rw [pure_bind, funext finished]
  rfl

end Interception
