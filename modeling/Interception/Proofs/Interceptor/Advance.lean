/-
Something kept beside a computation. Counters or a record of events can be kept in a state
of their own that the computation itself does not look at. It then does what it would do
without them, and takes what is kept on by one fixed step. Steps compose when computations
do; a tree that proceeds so many times takes the step of what it proceeds to as often.
-/

import Interception.Proofs.Interceptor.Conduct
import Mathlib.Logic.Function.Iterate

namespace Interception

variable {m : Type → Type} {σ α β : Type}

/-- The one computation does what the other does, and takes what is kept on by the step. -/
def Advances [Monad m] (kept : StateT σ m α) (plain : m α) (step : σ → σ) : Prop :=
  ∀ state, kept.run state = (fun result => (result, step state)) <$> plain

namespace Advances

variable [Monad m] [LawfulMonad m]

theorem pure (result : α) :
    Advances (Pure.pure result : StateT σ m α) (Pure.pure result) id := by
  intro state
  rw [StateT.run_pure, map_pure]
  rfl

theorem lift (action : m α) : Advances (liftM action : StateT σ m α) action id := by
  intro state
  change (action >>= fun result => Pure.pure (result, state)) = _
  rw [bind_pure_comp]
  rfl

theorem modify (step : σ → σ) :
    Advances (modify step : StateT σ m Unit) (Pure.pure ()) step := by
  intro state
  rw [map_pure]
  rfl

theorem bind {kept : StateT σ m α} {plain : m α} {next : α → StateT σ m β}
    {plainNext : α → m β} {first second : σ → σ} (advances : Advances kept plain first)
    (advancesNext : ∀ result, Advances (next result) (plainNext result) second) :
    Advances (kept >>= next) (plain >>= plainNext) (second ∘ first) := by
  intro state
  rw [StateT.run_bind, advances state, bind_map_left, map_bind]
  apply bind_congr
  intro result
  exact advancesNext result (first state)

omit [LawfulMonad m] in
theorem congr {kept : StateT σ m α} {plain : m α} {step other : σ → σ}
    (advances : Advances kept plain step) (same : ∀ state, step state = other state) :
    Advances kept plain other :=
  funext same ▸ advances

/-- What is kept is left as it is, so it might as well not be there. -/
theorem eq_lift {kept : StateT σ m α} {plain : m α} (advances : Advances kept plain id) :
    kept = liftM plain := by
  funext state
  exact (advances state).trans (lift plain state).symm

end Advances

/- The induction is on the tree. Each proceed on the path takes the step once, and the rest
of the path takes it as often as is left of the count. -/
theorem Conduct.run_advances [Monad m] [LawfulMonad m] {conduct : Conduct m} {count : Nat}
    (proceeds : conduct.Proceeds count) {kept : List Value → StateT σ m Outcome}
    {plain : List Value → m Outcome} {step : σ → σ}
    (advances : ∀ args, Advances (kept args) (plain args) step) :
    Advances (conduct.run kept) (conduct.run plain) step^[count] := by
  induction conduct generalizing count with
  | answer outcome =>
      cases proceeds
      exact Advances.pure outcome
  | act action next ih =>
      exact (Advances.lift action).bind (fun result => ih result (proceeds result))
  | proceed args next ih =>
      obtain ⟨later, rfl, continues⟩ := proceeds
      rw [Function.iterate_succ]
      exact (advances args).bind (fun outcome => ih outcome (continues outcome))

/-- An interceptor that proceeds so many times. What it does is settled by what is inside, up
to what is kept there; an inner call that takes a step makes it take the step as often. -/
theorem Handler.Proceeds.advances [Monad m] [LawfulMonad m] {handler : Handler (StateT σ m)}
    {method : Method} {count : Nat} (proceeds : handler.Proceeds m method count) (serial : Nat)
    (table : TypeTable) (inside : List Value → m Outcome) :
    ∃ answers : List Value → m Outcome, ∀ (invoke : Method → List Value → StateT σ m Outcome)
      (step : σ → σ), (∀ args, Advances (invoke method args) (inside args) step) →
      ∀ args, Advances (handler.intercept ⟨⟨serial, table, invoke⟩, method, args⟩)
        (answers args) step^[count] := by
  obtain ⟨conduct, conducted⟩ := Classical.axiomOfChoice (fun args => proceeds args serial table)
  refine ⟨fun args => (conduct args).run inside, ?_⟩
  intro invoke step advances args
  obtain ⟨exactly, handled⟩ := conducted args
  rw [handled]
  exact Conduct.run_advances exactly advances

end Interception
