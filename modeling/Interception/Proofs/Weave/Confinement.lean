/-
Interceptors that reach what is inside only by proceeding. A tagging interceptor does,
and so does a scripted one whose actions neither look at the inner object nor call it
by another method. They may proceed any number of times, with any arguments, and make
what they like of the outcome.
-/

import Interception.Proofs.Weave.UpToLog
import Interception.Script.Blueprint

namespace Interception

variable {left right : Invocation Run}

theorem Invocation.proceed_agree (sameArgs : left.args = right.args)
    (agree : ∀ args, Run.Agree (left.proceedWith args) (right.proceedWith args)) :
    Run.Agree left.proceed right.proceed := by
  unfold Invocation.proceed
  rw [sameArgs]
  exact agree right.args

theorem Tagging.confined (tagging : Tagging) (name : String) (signatures : List Signature) :
    Handler.Confined Run.upToLog
      (tagging.interceptor name signatures : Interceptor Run).toHandler := by
  intro left right sameMethod sameArgs agree
  change Run.Agree (tagging.intercept left) (tagging.intercept right)
  unfold Tagging.intercept
  rw [sameMethod]
  refine Run.Agree.bind (Run.Agree.record _) (fun _ => ?_)
  cases tagging.shortCircuit with
  | some value => exact Run.Agree.pure _
  | none =>
      have proceeds : Run.Agree left.proceed right.proceed :=
        Invocation.proceed_agree sameArgs agree
      exact Run.Agree.bind proceeds (fun _ => Run.Agree.pure _)

namespace Action

/-- The action uses the invocation for its method and arguments and to proceed. -/
def inward : Action → Bool
  | .redirect _ _ | .inspect | .outline _ => false
  | _ => true

private theorem repeated_agree (agree : Run.Agree left.proceed right.proceed) (count : Nat) :
    Run.Agree (repeated left count) (repeated right count) := by
  induction count with
  | zero => exact Run.Agree.pure _
  | succ count ih =>
      unfold repeated
      refine Run.Agree.bind agree (fun outcome => ?_)
      cases outcome with
      | error error => exact Run.Agree.pure _
      | ok first => exact Run.Agree.bind ih (fun _ => Run.Agree.pure _)

theorem run_agree (scope : Scope Run) (answers : Value) (sameMethod : left.method = right.method)
    (sameArgs : left.args = right.args)
    (agree : ∀ args, Run.Agree (left.proceedWith args) (right.proceedWith args))
    {action : Action} (inward : action.inward = true) :
    Run.Agree (action.run scope answers left) (action.run scope answers right) := by
  have proceeds : Run.Agree left.proceed right.proceed :=
    Invocation.proceed_agree sameArgs agree
  cases action with
  | proceed => exact proceeds
  | give value => exact Run.Agree.pure _
  | fail message contexts => exact Run.Agree.pure _
  | proceedWith args => exact agree args
  | reverse =>
      unfold run
      rw [sameArgs]
      exact agree right.args.reverse
  | append value =>
      unfold run
      rw [sameArgs]
      exact agree (right.args ++ [value])
  | times count =>
      exact Run.Agree.bind (repeated_agree proceeds count) (fun _ => Run.Agree.pure _)
  | recover value =>
      refine Run.Agree.bind proceeds (fun outcome => ?_)
      cases outcome with
      | error error => exact Run.Agree.pure _
      | ok result => exact Run.Agree.pure _
  | context message => exact Run.Agree.bind proceeds (fun _ => Run.Agree.pure _)
  | pairWith value => exact Run.Agree.bind proceeds (fun _ => Run.Agree.pure _)
  | argument index shape =>
      unfold run
      rw [sameArgs, sameMethod]
      exact Run.Agree.pure _
  | settings => exact Run.Agree.pure _
  | redirect capability selector => cases inward
  | inspect => cases inward
  | outline layout => cases inward

end Action

theorem Plan.confined (plan : Plan) (name : String) (scope : Scope Run)
    (signatures : List Signature) (answers : Value)
    (inward : ∀ method, (plan.action method).inward = true) :
    Handler.Confined Run.upToLog
      (plan.interceptor name scope signatures answers).toHandler := by
  intro left right sameMethod sameArgs agree
  change Run.Agree (plan.intercept name scope answers left)
    (plan.intercept name scope answers right)
  unfold Plan.intercept
  rw [sameMethod]
  refine Run.Agree.bind (Run.Agree.record _) (fun _ => ?_)
  have acts := Action.run_agree scope answers sameMethod sameArgs agree (inward right.method)
  refine Run.Agree.bind acts (fun outcome => ?_)
  cases outcome with
  | ok value => exact Run.Agree.bind (Run.Agree.record _) (fun _ => Run.Agree.pure _)
  | error error => exact Run.Agree.bind (Run.Agree.record _) (fun _ => Run.Agree.pure _)

end Interception
