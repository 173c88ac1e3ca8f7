/-
Proceeding once or not at all. Whether such an interceptor proceeds may depend on the call
and on what its actions find, so what is kept beside the calls is not taken on by one fixed
step. Instead the computation tells what happened, as a value beside its outcome, and the
step depends on what it tells. An interceptor that proceeds at most once tells what the one
call inside tells, if it makes that call.
-/

import Interception.Proofs.Interceptor.Advance

namespace Interception

variable {m n : Type → Type} {σ τ ρ α β : Type}

/-- The one computation does what the other does, and takes what is kept on by a step that
depends on what the other one tells beside its result. -/
def Follows [Monad m] (kept : StateT σ m α) (telling : m (α × τ)) (step : τ → σ → σ) : Prop :=
  ∀ state, kept.run state = (fun reply => (reply.1, step reply.2 state)) <$> telling

namespace Follows

variable [Monad m] [LawfulMonad m]

omit [LawfulMonad m] in
theorem congr {kept : StateT σ m α} {telling : m (α × τ)} {step other : τ → σ → σ}
    (follows : Follows kept telling step)
    (same : ∀ told state, step told state = other told state) : Follows kept telling other := by
  intro state
  rw [follows state]
  simp only [same]

theorem of_advances {kept : StateT σ m α} {plain : m α} {step : τ → σ → σ} {told : τ}
    (advances : Advances kept plain (step told)) :
    Follows kept ((fun result => (result, told)) <$> plain) step := by
  intro state
  rw [advances state, Functor.map_map]

/-- What is told may be told in other words. -/
theorem reword {kept : StateT σ m α} {telling : m (α × τ)} {step : τ → σ → σ}
    {other : ρ → σ → σ} (follows : Follows kept telling step) (words : τ → ρ)
    (same : ∀ told state, step told state = other (words told) state) :
    Follows kept ((fun reply => (reply.1, words reply.2)) <$> telling) other := by
  intro state
  rw [follows state, Functor.map_map]
  simp only [same]

theorem after {first : StateT σ m α} {plain : m α} {next : α → StateT σ m β}
    {telling : α → m (β × τ)} {before : σ → σ} {step : τ → σ → σ}
    (advances : Advances first plain before)
    (follows : ∀ result, Follows (next result) (telling result) step) :
    Follows (first >>= next) (plain >>= telling) (fun told => step told ∘ before) := by
  intro state
  rw [StateT.run_bind, advances state, bind_map_left, map_bind]
  apply bind_congr
  intro result
  exact follows result (before state)

/-- The same, where there is nothing to the first part but the step that it takes. -/
theorem after_step {first : StateT σ m Unit} {next : StateT σ m β} {telling : m (β × τ)}
    {before : σ → σ} {step : τ → σ → σ} (advances : Advances first (pure ()) before)
    (follows : Follows next telling step) :
    Follows (do first; next) telling (fun told => step told ∘ before) := by
  have both := Follows.after advances (fun _ => follows)
  rw [pure_bind] at both
  exact both

/-- What comes last takes no step of its own, so there is nothing to tell about it. -/
theorem before_idle {first : StateT σ m α} {telling : m (α × τ)} {next : α → StateT σ m β}
    {plain : α → m β} {step : τ → σ → σ} (follows : Follows first telling step)
    (idle : ∀ result, Advances (next result) (plain result) id) :
    Follows (first >>= next)
      (telling >>= fun reply => (fun result => (result, reply.2)) <$> plain reply.1) step := by
  intro state
  rw [StateT.run_bind, follows state, bind_map_left, map_bind]
  apply bind_congr
  intro reply
  rw [Functor.map_map]
  exact idle reply.1 (step reply.2 state)

end Follows

namespace Conduct

/-- On every path through the tree there is at most one proceed. -/
def Sparing : Conduct m → Prop
  | .answer _ => True
  | .act _ next => ∀ result, (next result).Sparing
  | .proceed _ next => ∀ outcome, (next outcome).Proceeds 0

theorem Proceeds.sparing {conduct : Conduct m} {count : Nat} (proceeds : conduct.Proceeds count)
    (few : count ≤ 1) : conduct.Sparing := by
  induction conduct with
  | answer outcome => trivial
  | act action next ih =>
      intro result
      exact ih result (proceeds result)
  | proceed args next ih =>
      obtain ⟨later, rfl, continues⟩ := proceeds
      have last : later = 0 := Nat.le_zero.mp (Nat.le_of_succ_le_succ few)
      subst last
      exact continues

/-- Runs the tree, and tells what the first call inside tells, if there is one. -/
def telling [Monad m] (inside : List Value → m (Outcome × τ)) :
    Conduct m → m (Outcome × Option τ)
  | .answer outcome => return (outcome, none)
  | .act action next => do
      let result ← action
      (next result).telling inside
  | .proceed args next => do
      let reply ← inside args
      let outcome ← (next reply.1).run (fun args => Prod.fst <$> inside args)
      return (outcome, some reply.2)

variable [Monad m] [LawfulMonad m]

theorem run_idle {conduct : Conduct m} (proceeds : conduct.Proceeds 0)
    (kept : List Value → StateT σ m Outcome) (plain : List Value → m Outcome) :
    Advances (conduct.run kept) (conduct.run plain) id := by
  induction conduct with
  | answer outcome => exact Advances.pure outcome
  | act action next ih =>
      exact (Advances.lift action).bind (fun result => ih result (proceeds result))
  | proceed args next ih =>
      obtain ⟨later, impossible, _continues⟩ := proceeds
      cases impossible

/- The induction is on the tree, down to its proceed. What comes after that takes no step. -/
theorem run_follows {conduct : Conduct m} (sparing : conduct.Sparing)
    {kept : List Value → StateT σ m Outcome} {inside : List Value → m (Outcome × τ)}
    {step : τ → σ → σ} (follows : ∀ args, Follows (kept args) (inside args) step) :
    Follows (conduct.run kept) (conduct.telling inside) (fun told => told.elim id step) := by
  induction conduct with
  | answer outcome =>
      intro state
      change Pure.pure (outcome, state) = _ <$> Pure.pure (outcome, none)
      rw [map_pure]
      rfl
  | act action next ih =>
      exact Follows.after (Advances.lift action) (fun result => ih result (sparing result))
  | proceed args next ih =>
      have once := (follows args).before_idle
        (fun outcome => run_idle (sparing outcome) kept (fun args => Prod.fst <$> inside args))
      intro state
      rw [run, once state]
      simp only [telling, map_bind, Functor.map_map, bind_pure_comp, Option.elim_some]

end Conduct

/-- Proceeds once or not at all with every call of the method. -/
def Handler.Spares (m : Type → Type) [Monad n] [MonadLiftT m n] (handler : Handler n)
    (method : Method) : Prop :=
  handler.Conducts method (fun conduct : Conduct m => conduct.Sparing)

theorem Handler.Proceeds.spares [Monad n] [MonadLiftT m n] {handler : Handler n}
    {method : Method} {count : Nat} (proceeds : handler.Proceeds m method count)
    (few : count ≤ 1) : handler.Spares m method := by
  intro args serial table
  obtain ⟨conduct, exactly, handled⟩ := proceeds args serial table
  exact ⟨conduct, exactly.sparing few, handled⟩

/-- An interceptor that proceeds at most once. What it does is settled by what is inside, up
to what is kept there; it takes the step of the call inside if it makes one. -/
theorem Handler.Spares.follows [Monad m] [LawfulMonad m] {handler : Handler (StateT σ m)}
    {method : Method} (spares : handler.Spares m method) (serial : Nat) (table : TypeTable)
    (inside : List Value → m (Outcome × τ)) :
    ∃ telling : List Value → m (Outcome × Option τ),
      ∀ (invoke : Method → List Value → StateT σ m Outcome) (step : τ → σ → σ),
        (∀ args, Follows (invoke method args) (inside args) step) →
        ∀ args, Follows (handler.intercept ⟨⟨serial, table, invoke⟩, method, args⟩)
          (telling args) (fun told => told.elim id step) := by
  obtain ⟨conduct, conducted⟩ := Classical.axiomOfChoice (fun args => spares args serial table)
  refine ⟨fun args => (conduct args).telling inside, ?_⟩
  intro invoke step follows args
  obtain ⟨sparing, handled⟩ := conducted args
  rw [handled]
  exact Conduct.run_follows sparing follows

/-- Proceeds with the calls that it admits, and answers the others itself. -/
def screeningInterceptor [Monad n] (admits : List Value → Bool) (name : String)
    (signatures : List Signature) : Interceptor n :=
  Handler.interceptor
    { name, signatures, intercept := fun invocation =>
        if admits invocation.args then invocation.proceed else return .ok .null }

theorem screeningInterceptor_spares [Monad n] [LawfulMonad n] [MonadLiftT m n]
    (admits : List Value → Bool) (name : String) (signatures : List Signature)
    (method : Method) :
    (screeningInterceptor admits name signatures : Interceptor n).Spares m method := by
  intro args serial table
  cases admitted : admits args with
  | true =>
      refine ⟨.proceed args .answer, fun _ => rfl, ?_⟩
      intro invoke
      change (if admits args then invoke method args else pure (.ok .null)) = _
      rw [if_pos admitted]
      exact (bind_pure (invoke method args)).symm
  | false =>
      refine ⟨.answer (.ok .null), trivial, ?_⟩
      intro invoke
      change (if admits args then invoke method args else pure (.ok .null)) = _
      rw [admitted]
      rfl

end Interception
