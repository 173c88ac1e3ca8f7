/-
Conduct. What an interceptor does with a call, as a tree: it answers, acts and goes on
from what the action gives, or proceeds and goes on from the outcome. An interceptor
whose every call is the running of such a tree touches what is inside by proceeding
alone, and how often it proceeds can be read off the tree. The actions of a tree may
belong to a smaller world than the calls that it makes, so that something can be
observed about the calls which no action can tamper with.
-/

import Interception.Object
import Interception.Sample.Tagging

namespace Interception

inductive Conduct (m : Type → Type) : Type 1
  | answer (outcome : Outcome)
  | act {α : Type} (action : m α) (next : α → Conduct m)
  | proceed (args : List Value) (next : Outcome → Conduct m)

variable {m n : Type → Type}

namespace Conduct

def run [Monad n] [MonadLiftT m n] (proceeding : List Value → n Outcome) : Conduct m → n Outcome
  | .answer outcome => return outcome
  | .act action next => do
      let result ← action
      (next result).run proceeding
  | .proceed args next => do
      let outcome ← proceeding args
      (next outcome).run proceeding

/-- On every path through the tree there are exactly so many proceeds. -/
def Proceeds : Conduct m → Nat → Prop
  | .answer _, count => count = 0
  | .act _ next, count => ∀ result, (next result).Proceeds count
  | .proceed _ next, count => ∃ later, count = later + 1 ∧ ∀ outcome, (next outcome).Proceeds later

end Conduct

/-- Every call of the method is handled by running a tree that is allowed. Besides the
method and the arguments the tree may depend on what the object inside says of itself,
its serial number and its type, but not on what calls of it do. -/
def Handler.Conducts [Monad n] [MonadLiftT m n] (handler : Handler n) (method : Method)
    (allowed : Conduct m → Prop) : Prop :=
  ∀ args serial table, ∃ conduct : Conduct m, allowed conduct ∧
    ∀ invoke : Method → List Value → n Outcome,
      handler.intercept ⟨⟨serial, table, invoke⟩, method, args⟩ = conduct.run (invoke method)

/-- Proceeds exactly so many times with every call of the method, whatever comes back. -/
def Handler.Proceeds (m : Type → Type) [Monad n] [MonadLiftT m n] (handler : Handler n)
    (method : Method) (count : Nat) : Prop :=
  handler.Conducts method (fun conduct : Conduct m => conduct.Proceeds count)

/-- Proceeds some number of times with the same arguments and gives the last outcome back. -/
def Invocation.persist [Monad n] (invocation : Invocation n) : Nat → Outcome → n Outcome
  | 0, last => return last
  | count + 1, _ => do
      let outcome ← invocation.proceed
      invocation.persist count outcome

def persistentInterceptor [Monad n] (count : Nat) (name : String) (signatures : List Signature) :
    Interceptor n :=
  Handler.interceptor
    { name, signatures, intercept := fun invocation => invocation.persist count (.ok .null) }

namespace Conduct

def persistent (args : List Value) : Nat → Outcome → Conduct m
  | 0, last => .answer last
  | count + 1, _ => .proceed args (persistent args count)

theorem persistent_proceeds (args : List Value) (count : Nat) (last : Outcome) :
    (persistent args count last : Conduct m).Proceeds count := by
  induction count generalizing last with
  | zero => rfl
  | succ count ih => exact ⟨count, rfl, ih⟩

theorem run_persistent [Monad n] [MonadLiftT m n] (invocation : Invocation n) (count : Nat)
    (last : Outcome) :
    invocation.persist count last =
      (persistent invocation.args count last : Conduct m).run invocation.proceedWith := by
  induction count generalizing last with
  | zero => rfl
  | succ count ih =>
      change (invocation.proceed >>= fun outcome => invocation.persist count outcome) =
        (invocation.proceedWith invocation.args >>= fun outcome => _)
      rw [funext ih]
      rfl

end Conduct

variable [Monad n] [MonadLiftT m n]

theorem persistentInterceptor_proceeds (count : Nat) (name : String)
    (signatures : List Signature) (method : Method) :
    (persistentInterceptor count name signatures : Interceptor n).Proceeds m method count := by
  intro args serial table
  refine ⟨.persistent args count (.ok .null), Conduct.persistent_proceeds _ _ _, ?_⟩
  intro invoke
  exact Conduct.run_persistent ⟨⟨serial, table, invoke⟩, method, args⟩ count (.ok .null)

theorem passiveInterceptor_proceeds [LawfulMonad n] (name : String) (signatures : List Signature)
    (method : Method) :
    (passiveInterceptor name signatures : Interceptor n).Proceeds m method 1 := by
  intro args serial table
  refine ⟨.proceed args .answer, ⟨0, rfl, fun _ => rfl⟩, ?_⟩
  intro invoke
  exact (bind_pure (invoke method args)).symm

/-- A tagging interceptor writes its entry down, and then proceeds once or not at all. -/
def Tagging.conduct [Journal m] (tagging : Tagging) (method : Method) (args : List Value) :
    Conduct m :=
  .act (Journal.record (tagging.entry method) : m Unit) fun _ =>
    match tagging.shortCircuit with
    | some value => .answer (.ok value)
    | none => .proceed args fun outcome => .answer (outcome.map tagging.mark)

theorem Tagging.proceeds [Journal m] [Journal n]
    (recorded : ∀ entry, (Journal.record entry : n Unit) = liftM (Journal.record entry : m Unit))
    (tagging : Tagging) (name : String) (signatures : List Signature) (method : Method) :
    (tagging.interceptor name signatures : Interceptor n).Proceeds m method
      (if tagging.shortCircuit.isSome then 0 else 1) := by
  intro args serial table
  refine ⟨tagging.conduct method args, ?_, ?_⟩
  · intro _
    cases tagging.shortCircuit with
    | some value => rfl
    | none => exact ⟨0, rfl, fun _ => rfl⟩
  · intro invoke
    change tagging.intercept ⟨⟨serial, table, invoke⟩, method, args⟩ = _
    unfold Tagging.intercept Tagging.conduct Conduct.run
    rw [recorded]
    cases tagging.shortCircuit with
    | some value => rfl
    | none => rfl

end Interception
