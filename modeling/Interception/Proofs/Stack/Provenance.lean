/-
Where errors come from. Layers make no outcome of their own. A call goes inward past
every layer that does not route it; the first interceptor that it reaches decides the
outcome, or the base target if it reaches none, and the caller gets that outcome as it
is, with all the contexts of an error. When every interceptor on the way relays, an error
of the base target arrives unchanged. Only reading a result at a type can add an error.
-/

import Interception.Proofs.Interceptor.Relay
import Interception.Proofs.Stack.Exposure

namespace Interception

variable {m : Type → Type}

namespace Outcome

variable {α : Type} [Readable α] (method : Method)

theorem decode_of_reads {value : Value} {result : α} (reads : read value = .ok result) :
    Outcome.decode α method (.ok value) = .ok result := by
  unfold decode
  simp only [reads]

theorem decode_of_misfits {value : Value} {misfit : Misfit}
    (misfits : (read value : Except Misfit α) = .error misfit) :
    Outcome.decode α method (.ok value) =
      .error ⟨["Invalid result returned by " ++ method.display], .undecodable misfit⟩ := by
  unfold decode
  simp only [misfits]
  rfl

theorem decode_eq_error_iff (outcome : Outcome) (error : CallError) :
    Outcome.decode α method outcome = .error error ↔
      outcome = .error error ∨
      ∃ value misfit, outcome = .ok value ∧ (read value : Except Misfit α) = .error misfit ∧
        error = ⟨["Invalid result returned by " ++ method.display], .undecodable misfit⟩ := by
  constructor
  · intro failed
    cases outcome with
    | error own =>
        cases failed
        exact Or.inl rfl
    | ok value =>
        cases reads : (read value : Except Misfit α) with
        | ok result =>
            rw [decode_of_reads method reads] at failed
            cases failed
        | error misfit =>
            rw [decode_of_misfits method reads] at failed
            cases failed
            exact Or.inr ⟨value, misfit, rfl, reads, rfl⟩
  · rintro (rfl | ⟨value, misfit, rfl, misfits, rfl⟩)
    · rfl
    · exact decode_of_misfits method misfits

theorem decode_eq_ok_iff (outcome : Outcome) (result : α) :
    Outcome.decode α method outcome = .ok result ↔
      ∃ value, outcome = .ok value ∧ read value = .ok result := by
  constructor
  · intro decoded
    cases outcome with
    | error own => cases decoded
    | ok value =>
        cases reads : (read value : Except Misfit α) with
        | ok found =>
            rw [decode_of_reads method reads] at decoded
            cases decoded
            exact ⟨value, rfl, reads⟩
        | error misfit =>
            rw [decode_of_misfits method reads] at decoded
            cases decoded
  · rintro ⟨value, rfl, reads⟩
    exact decode_of_reads method reads

end Outcome

namespace Object

variable [Monad m] [LawfulMonad m] [Log m]

private theorem emit_cons (first : Notice) (rest : List Notice) (next : m Outcome) :
    (do
      forM (first :: rest) Log.emit
      next) = (do
      Log.emit first
      forM rest Log.emit
      next) := by
  rw [List.forM_cons, bind_assoc]

private theorem emit_nil (next : m Outcome) :
    (do
      forM ([] : List Notice) Log.emit
      next) = next := by
  rw [List.forM_nil, pure_bind]

/- The induction is on the layers. A layer that routes the method ends the search; any
other only puts one more notice in front. -/
theorem invoke_decided (object : Object m) (method : Method) :
    ∃ notices : List Notice,
      ((∀ layer ∈ object.layers, layer.routes method = false) ∧
        ∀ args, object.invoke method args = (do
          forM notices Log.emit
          object.core.invoke method args)) ∨
      ∃ layer inner, .wrapped layer inner ∈ object.parts ∧ layer.routes method = true ∧
        ∀ args, object.invoke method args = (do
          forM notices Log.emit
          layer.handler.intercept ⟨inner.target, method, args⟩) := by
  induction object with
  | base target =>
      refine ⟨[], Or.inl ⟨?_, ?_⟩⟩
      · intro layer member
        cases member
      · intro args
        rw [emit_nil]
        rfl
  | wrapped layer inner ih =>
      cases routed : layer.routes method with
      | true =>
          refine ⟨[.entered method layer.handler.name],
            Or.inr ⟨layer, inner, List.mem_cons_self, routed, ?_⟩⟩
          intro args
          rw [invoke_of_routes routed, emit_cons, emit_nil]
      | false =>
          obtain ⟨notices, found⟩ := ih
          refine ⟨.forwarded method inner.table.name :: notices, ?_⟩
          rcases found with ⟨unrouted, reached⟩ | ⟨router, inside, part, routes, reached⟩
          · refine Or.inl ⟨?_, ?_⟩
            · intro other member
              rcases List.mem_cons.mp member with same | deeper
              · exact same ▸ routed
              · exact unrouted other deeper
            · intro args
              rw [invoke_of_not_routes routed, emit_cons, reached args]
              rfl
          · refine Or.inr ⟨router, inside, List.mem_cons_of_mem _ part, routes, ?_⟩
            intro args
            rw [invoke_of_not_routes routed, emit_cons, reached args]

/- The induction is on the layers. The relay of a stack is the one of its outermost
routing layer, proceeding to the relay of what is inside for whatever it sends there. -/
theorem invoke_relayed (object : Object m) {method : Method}
    (relays : ∀ layer ∈ object.layers, layer.routes method = true →
      layer.handler.Relays method) (args : List Value) :
    ∃ decide : m (Relay m),
      object.invoke method args = Relay.run decide (object.core.invoke method) := by
  induction object generalizing args with
  | base target => exact ⟨pure (.passing args), (Relay.run_passing args _).symm⟩
  | wrapped layer inner ih =>
      obtain ⟨ownRelays, innerRelays⟩ := List.forall_mem_cons.mp relays
      have innerRelayed := ih innerRelays
      cases routed : layer.routes method with
      | true =>
          obtain ⟨decideOuter, intercepted⟩ :=
            ownRelays routed ⟨inner.target, method, args⟩ rfl
          obtain ⟨decideInner, relayed⟩ := Classical.axiomOfChoice innerRelayed
          have proceeds : Invocation.proceedWith ⟨inner.target, method, args⟩ =
              fun sent => Relay.run (decideInner sent) (inner.core.invoke method) :=
            funext relayed
          refine ⟨do
            Log.emit (.entered method layer.handler.name)
            Relay.through decideOuter decideInner, ?_⟩
          rw [invoke_of_routes routed, Relay.run_bind, intercepted, proceeds]
          apply bind_congr
          intro _
          exact (Relay.run_through _ _ _).symm
      | false =>
          obtain ⟨decide, relayed⟩ := innerRelayed args
          refine ⟨do
            Log.emit (.forwarded method inner.table.name)
            decide, ?_⟩
          rw [invoke_of_not_routes routed, Relay.run_bind, relayed]
          rfl

theorem call_eq_decode_invoke (object : Object m) (α : Type) [Readable α]
    (method : Method) (args : List Value) :
    object.target.call α method args =
      Outcome.decode α method <$> object.invoke method args :=
  bind_pure_comp _ _

/-- Where the errors of an object that standard wraps build from a target come from. Notices
aside, a call is the call on the target when no layer routes the method, and otherwise one
entry into the interceptor of a layer, and its outcome is theirs, unchanged. If the
interceptors of all routing layers relay, then the call is relayed to the target, so an
error of the target arrives as it is. Reading the result at a type passes errors on, and
makes one exactly when there is a result that does not fit the type. -/
theorem BuiltFrom.errors_traced {target : Target m} {object : Object m}
    (built : BuiltFrom target object) (method : Method) :
    (∃ notices : List Notice,
      ((∀ layer ∈ object.layers, layer.routes method = false) ∧
        ∀ args, object.invoke method args = (do
          forM notices Log.emit
          target.invoke method args)) ∨
      ∃ layer inner, .wrapped layer inner ∈ object.parts ∧ layer.routes method = true ∧
        ∀ args, object.invoke method args = (do
          forM notices Log.emit
          layer.handler.intercept ⟨inner.target, method, args⟩)) ∧
    ((∀ layer ∈ object.layers, layer.routes method = true → layer.handler.Relays method) →
      ∀ args, ∃ decide : m (Relay m),
        object.invoke method args = Relay.run decide (target.invoke method)) ∧
    ∀ (α : Type) [Readable α],
      (∀ args, object.target.call α method args =
        Outcome.decode α method <$> object.invoke method args) ∧
      (∀ outcome error, Outcome.decode α method outcome = .error error ↔
        outcome = .error error ∨
        ∃ value misfit, outcome = .ok value ∧ (read value : Except Misfit α) = .error misfit ∧
          error = ⟨["Invalid result returned by " ++ method.display], .undecodable misfit⟩) ∧
      ∀ outcome (result : α), Outcome.decode α method outcome = .ok result ↔
        ∃ value, outcome = .ok value ∧ read value = .ok result := by
  have core : object.core = target := built.core_eq
  refine ⟨?_, ?_, ?_⟩
  · have decided := object.invoke_decided method
    rw [core] at decided
    exact decided
  · intro relays args
    have relayed := object.invoke_relayed relays args
    rw [core] at relayed
    exact relayed
  · intro α readable
    exact ⟨fun args => object.call_eq_decode_invoke α method args,
      Outcome.decode_eq_error_iff method, Outcome.decode_eq_ok_iff method⟩

end Object

open Greeting in
/-- Two layers around the tower, both with interceptors that relay: nobody's name is
refused by the tower, and the refusal arrives without a context. -/
theorem Object.BuiltFrom.errors_traced_tower :
    BuiltFrom tower (.wrapped outerAnnounced announcedOnce) ∧
    (∃ decide : Run (Relay Run),
      (Object.wrapped outerAnnounced announcedOnce).invoke greet [.string ""] =
        Relay.run decide (tower.invoke greet)) ∧
    ((Object.wrapped outerAnnounced announcedOnce).invoke greet [.string ""]
      (World.initial none)).1 = .error ⟨[], .emptyName⟩ := by
  have traced := builtFrom_outerAnnounced.errors_traced greet
  have relays : ∀ layer ∈ (Object.wrapped outerAnnounced announcedOnce).layers,
      layer.routes greet = true → layer.handler.Relays greet := by
    intro layer member _
    simp only [Object.layers, announcedOnce, List.mem_cons, List.not_mem_nil, or_false] at member
    rcases member with rfl | rfl
    · exact Tagging.relays rfl _ _ greet
    · exact Tagging.relays rfl _ _ greet
  exact ⟨builtFrom_outerAnnounced, traced.2.1 relays [.string ""], rfl⟩

end Interception
