/-
How often a call gets where. Counters are kept beside the world of the calls, one for
every place in a stack: place 0 is the base target's, and the place of a layer is one
more than the number of layers inside it. Every call of the base target counts there, and
every entry into an interceptor counts at the place of its layer. When the interceptors
that a call meets proceed fixed numbers of times, these numbers multiply on the way in,
and layers that forward do not count.
-/

import Interception.Proofs.Interceptor.Advance
import Interception.Proofs.Stack.Layered
import Interception.Proofs.Wrap.Routing

namespace Interception

variable {m : Type → Type}

abbrev Counting (m : Type → Type) : Type → Type :=
  StateT (Nat → Nat) m

namespace Counting

instance [Monad m] [Log m] : Log (Counting m) :=
  ⟨fun notice => liftM (Log.emit notice : m Unit)⟩

instance [Monad m] [Journal m] : Journal (Counting m) :=
  ⟨fun entry => liftM (Journal.record entry : m Unit)⟩

def once (place : Nat) : Nat → Nat :=
  fun other => if other = place then 1 else 0

def tick [Monad m] (place : Nat) : Counting m Unit :=
  modify (fun counters other => counters other + once place other)

/-- The computation does what a computation without counters does, and raises the
counters by so much. -/
def Raises [Monad m] {α : Type} (counted : Counting m α) (plain : m α) (passes : Nat → Nat) :
    Prop :=
  ∀ counters : Nat → Nat, counted.run counters =
    (fun result => (result, fun place => counters place + passes place)) <$> plain

variable [Monad m] [LawfulMonad m] {α β : Type}

-- Raising the counters by so much is one fixed step, so the facts about steps apply.

theorem Raises.lift (action : m α) :
    Raises (liftM action : Counting m α) action (fun _ => 0) :=
  Advances.lift action

theorem Raises.tick (place : Nat) :
    Raises (Counting.tick place : Counting m Unit) (Pure.pure ()) (once place) :=
  Advances.modify _

omit [LawfulMonad m] in
theorem Raises.congr {counted : Counting m α} {plain : m α} {passes other : Nat → Nat}
    (raises : Raises counted plain passes) (same : ∀ place, passes place = other place) :
    Raises counted plain other :=
  funext same ▸ raises

theorem Raises.bind {counted : Counting m α} {plain : m α} {next : α → Counting m β}
    {plainNext : α → m β} {first second : Nat → Nat} (raises : Raises counted plain first)
    (raisesNext : ∀ result, Raises (next result) (plainNext result) second) :
    Raises (counted >>= next) (plain >>= plainNext)
      (fun place => first place + second place) := by
  have both : Advances (counted >>= next) (plain >>= plainNext) _ :=
    Advances.bind raises raisesNext
  refine both.congr (fun counters => ?_)
  funext place
  exact Nat.add_assoc _ _ _

/-- With nothing raised, the counters might as well not be there. -/
theorem Raises.eq_lift {counted : Counting m α} {plain : m α}
    (raises : Raises counted plain (fun _ => 0)) : counted = liftM plain :=
  Advances.eq_lift raises

theorem iterate_raise (passes : Nat → Nat) (count : Nat) (counters : Nat → Nat) :
    (fun (counters : Nat → Nat) place => counters place + passes place)^[count] counters =
      fun place => counters place + count * passes place := by
  induction count generalizing counters with
  | zero =>
      funext place
      rw [Nat.zero_mul]
      rfl
  | succ count ih =>
      rw [Function.iterate_succ_apply, ih]
      funext place
      rw [Nat.succ_mul]
      omega

end Counting

open Counting

/-- A target of the plain world in the world with counters. -/
def Target.lifted [Monad m] (target : Target m) : Target (Counting m) where
  serial := target.serial
  table := target.table
  invoke method args := liftM (target.invoke method args)

/-- The same layer, counting each entry into its interceptor. -/
def Layer.counted [Monad m] (place : Nat) (layer : Layer (Counting m)) : Layer (Counting m) where
  serial := layer.serial
  handler :=
    { name := layer.handler.name
      signatures := layer.handler.signatures
      intercept := fun invocation => do
        tick place
        layer.handler.intercept invocation }
  registry := layer.registry
  table := layer.table
  resolved := layer.resolved

/-- How often a call of the method gets to each place of a stack of layers, when their
interceptors proceed so many times each. -/
def passes (method : Method) (times : Layer m → Nat) : List (Layer m) → Nat → Nat
  | [], place => once 0 place
  | layer :: inside, place =>
      if layer.routes method then
        once (inside.length + 1) place + times layer * passes method times inside place
      else passes method times inside place

/-- The product of the numbers of proceeds over the layers that route the method. -/
def throughput (method : Method) (times : Layer m → Nat) (layers : List (Layer m)) : Nat :=
  (layers.filter (·.routes method)).foldr (fun layer product => times layer * product) 1

section

variable {method : Method} {times : Layer m → Nat}

theorem once_of_ne {place other : Nat} (apart : other ≠ place) : once place other = 0 :=
  if_neg apart

theorem throughput_cons_of_routes {layer : Layer m} (routed : layer.routes method = true)
    (rest : List (Layer m)) :
    throughput method times (layer :: rest) = times layer * throughput method times rest := by
  have kept : (layer :: rest).filter (·.routes method) = layer :: rest.filter (·.routes method) :=
    List.filter_cons_of_pos routed
  unfold throughput
  rw [kept, List.foldr_cons]

theorem throughput_cons_of_not_routes {layer : Layer m} (skipped : layer.routes method = false)
    (rest : List (Layer m)) :
    throughput method times (layer :: rest) = throughput method times rest := by
  have dropped : (layer :: rest).filter (·.routes method) = rest.filter (·.routes method) :=
    List.filter_cons_of_neg (ne_true_of_eq_false skipped)
  unfold throughput
  rw [dropped]

theorem throughput_eq_one {layers : List (Layer m)}
    (single : ∀ layer ∈ layers, layer.routes method = true → times layer = 1) :
    throughput method times layers = 1 := by
  induction layers with
  | nil => rfl
  | cons layer rest ih =>
      obtain ⟨ownSingle, restSingle⟩ := List.forall_mem_cons.mp single
      cases routed : layer.routes method with
      | true => rw [throughput_cons_of_routes routed, ih restSingle, ownSingle routed]
      | false => rw [throughput_cons_of_not_routes routed, ih restSingle]

theorem passes_beyond (layers : List (Layer m)) {place : Nat} (beyond : layers.length < place) :
    passes method times layers place = 0 := by
  induction layers with
  | nil => exact once_of_ne (Nat.ne_of_gt beyond)
  | cons layer inside ih =>
      rw [List.length_cons] at beyond
      have further := ih (Nat.lt_of_succ_lt beyond)
      unfold passes
      cases layer.routes method with
      | true => rw [if_pos rfl, once_of_ne (Nat.ne_of_gt beyond), further, Nat.mul_zero]
      | false => exact further

/- The induction is on the layers outside. Their own places lie beyond the one in question,
so each of them only multiplies. -/
theorem passes_append (outside inside : List (Layer m)) {place : Nat}
    (within : place ≤ inside.length) :
    passes method times (outside ++ inside) place =
      throughput method times outside * passes method times inside place := by
  induction outside with
  | nil => exact (Nat.one_mul _).symm
  | cons layer rest ih =>
      have length : (rest ++ inside).length = rest.length + inside.length := List.length_append
      have apart : place ≠ (rest ++ inside).length + 1 := by omega
      rw [List.cons_append, passes, ih]
      cases routed : layer.routes method with
      | true =>
          rw [if_pos rfl, once_of_ne apart, throughput_cons_of_routes routed, Nat.zero_add,
            Nat.mul_assoc]
      | false =>
          rw [throughput_cons_of_not_routes routed]
          rfl

theorem passes_base (layers : List (Layer m)) :
    passes method times layers 0 = throughput method times layers := by
  have multiplied : passes method times (layers ++ []) 0 =
      throughput method times layers * passes method times [] 0 :=
    passes_append layers [] (Nat.le_refl 0)
  rw [List.append_nil] at multiplied
  exact multiplied.trans (Nat.mul_one _)

theorem passes_layer (outside inside : List (Layer m)) (layer : Layer m) :
    passes method times (outside ++ layer :: inside) (inside.length + 1) =
      if layer.routes method then throughput method times outside else 0 := by
  have own : passes method times (layer :: inside) (inside.length + 1) =
      if layer.routes method then 1 else 0 := by
    rw [passes, passes_beyond inside (Nat.lt_succ_self _), Nat.mul_zero]
    simp only [once, if_true]
  have within : inside.length + 1 ≤ (layer :: inside).length := Nat.le_refl _
  rw [passes_append outside (layer :: inside) within, own]
  cases layer.routes method with
  | true => exact Nat.mul_one _
  | false => exact Nat.mul_zero _

/-- A routing layer that does not proceed cuts off every place inside it. -/
theorem passes_inside (outside inside : List (Layer m)) {layer : Layer m}
    (routed : layer.routes method = true) (never : times layer = 0) {place : Nat}
    (within : place ≤ inside.length) :
    passes method times (outside ++ layer :: inside) place = 0 := by
  have apart : place ≠ inside.length + 1 := Nat.ne_of_lt (Nat.lt_succ_of_le within)
  have own : passes method times (layer :: inside) place = 0 := by
    rw [passes, if_pos routed, once_of_ne apart, never, Nat.zero_mul]
  rw [passes_append outside (layer :: inside) (Nat.le_succ_of_le within), own, Nat.mul_zero]

end

namespace Object

/-- The same object, counting the calls of its base target and the entries into its
interceptors. -/
def counted [Monad m] : Object (Counting m) → Object (Counting m)
  | .base target => .base
      { target with invoke := fun method args => do
          tick 0
          target.invoke method args }
  | .wrapped layer inner => .wrapped (layer.counted (inner.layers.length + 1)) inner.counted

theorem counted_serial [Monad m] (object : Object (Counting m)) :
    object.counted.serial = object.serial := by
  cases object <;> rfl

theorem counted_table [Monad m] (object : Object (Counting m)) :
    object.counted.table = object.table := by
  cases object <;> rfl

section

variable [Monad m] [Log m]

theorem counted_invoke_of_routes {layer : Layer (Counting m)} {method : Method}
    (routed : layer.routes method = true) (inner : Object (Counting m)) (args : List Value) :
    (Object.wrapped layer inner).counted.invoke method args = (do
      Log.emit (.entered method layer.handler.name)
      tick (inner.layers.length + 1)
      layer.handler.intercept
        ⟨⟨inner.serial, inner.table, inner.counted.invoke⟩, method, args⟩) := by
  have routedToo : (layer.counted (inner.layers.length + 1)).routes method = true := routed
  rw [counted, invoke_of_routes routedToo, target_eq, counted_serial, counted_table]
  rfl

theorem counted_invoke_of_not_routes {layer : Layer (Counting m)} {method : Method}
    (skipped : layer.routes method = false) (inner : Object (Counting m)) (args : List Value) :
    (Object.wrapped layer inner).counted.invoke method args = (do
      Log.emit (.forwarded method inner.table.name)
      inner.counted.invoke method args) := by
  have skippedToo : (layer.counted (inner.layers.length + 1)).routes method = false := skipped
  rw [counted, invoke_of_not_routes skippedToo, counted_table]

end

variable [Monad m] [LawfulMonad m] [Log m]

/-- A layer that routes the method: what is inside counts once for every proceed. -/
private theorem routed_raises {layer : Layer (Counting m)} {inner : Object (Counting m)}
    {method : Method} {count : Nat} (routed : layer.routes method = true)
    (proceeds : layer.handler.Proceeds m method count) {plain : List Value → m Outcome}
    {passes : Nat → Nat}
    (bare : ∀ args, Raises (inner.invoke method args) (plain args) (fun _ => 0))
    (counts : ∀ args, Raises (inner.counted.invoke method args) (plain args) passes) :
    ∃ outer : List Value → m Outcome, ∀ args,
      Raises ((Object.wrapped layer inner).invoke method args) (outer args) (fun _ => 0) ∧
      Raises ((Object.wrapped layer inner).counted.invoke method args) (outer args)
        (fun place => once (inner.layers.length + 1) place + count * passes place) := by
  obtain ⟨answers, advances⟩ := proceeds.advances inner.serial inner.table plain
  have raised : ∀ (invoke : Method → List Value → Counting m Outcome) (passes : Nat → Nat),
      (∀ args, Raises (invoke method args) (plain args) passes) → ∀ args,
      Raises (layer.handler.intercept ⟨⟨inner.serial, inner.table, invoke⟩, method, args⟩)
        (answers args) (fun place => count * passes place) := by
    intro invoke passes raises args
    exact (advances invoke _ raises args).congr (iterate_raise passes count)
  have emits := Raises.lift (m := m) (Log.emit (.entered method layer.handler.name))
  refine ⟨fun args => do
    Log.emit (.entered method layer.handler.name)
    answers args, fun args => ⟨?_, ?_⟩⟩
  · rw [invoke_of_routes routed, target_eq]
    refine (emits.bind (fun _ => raised _ _ bare args)).congr (fun _ => ?_)
    rw [Nat.mul_zero]
  · have enters := (Raises.tick (m := m) (inner.layers.length + 1)).bind
      (fun _ => raised _ _ counts args)
    rw [pure_bind] at enters
    rw [counted_invoke_of_routes routed]
    exact (emits.bind (fun _ => enters)).congr (fun _ => Nat.zero_add _)

/- The induction is on the layers. With and without counters a layer runs the same tree,
because the object inside says the same of itself either way. -/
private theorem invoke_raises (object : Object (Counting m)) {method : Method}
    {times : Layer (Counting m) → Nat}
    (proceeds : ∀ layer ∈ object.layers, layer.routes method = true →
      layer.handler.Proceeds m method (times layer))
    {answers : List Value → m Outcome}
    (core : ∀ args, object.core.invoke method args = liftM (answers args)) :
    ∃ plain : List Value → m Outcome, ∀ args,
      Raises (object.invoke method args) (plain args) (fun _ => 0) ∧
      Raises (object.counted.invoke method args) (plain args)
        (passes method times object.layers) := by
  induction object with
  | base target =>
      have answered : ∀ args, Raises (target.invoke method args) (answers args) (fun _ => 0) := by
        intro args
        have given : target.invoke method args = liftM (answers args) := core args
        rw [given]
        exact Raises.lift _
      refine ⟨answers, fun args => ⟨answered args, ?_⟩⟩
      have counts := (Raises.tick (m := m) 0).bind (fun _ => answered args)
      rw [pure_bind] at counts
      exact counts
  | wrapped layer inner ih =>
      obtain ⟨ownProceeds, innerProceeds⟩ := List.forall_mem_cons.mp proceeds
      obtain ⟨plain, reached⟩ := ih innerProceeds core
      cases routed : layer.routes method with
      | true =>
          have raised := routed_raises routed (ownProceeds routed)
            (fun args => (reached args).1) (fun args => (reached args).2)
          obtain ⟨outer, raises⟩ := raised
          refine ⟨outer, fun args => ⟨(raises args).1, (raises args).2.congr ?_⟩⟩
          intro place
          rw [layers, passes, if_pos routed]
      | false =>
          have emits := Raises.lift (m := m) (Log.emit (.forwarded method inner.table.name))
          refine ⟨fun args => do
            Log.emit (.forwarded method inner.table.name)
            plain args, fun args => ⟨?_, ?_⟩⟩
          · rw [invoke_of_not_routes routed]
            exact (emits.bind (fun _ => (reached args).1)).congr (fun _ => rfl)
          · rw [counted_invoke_of_not_routes routed]
            refine (emits.bind (fun _ => (reached args).2)).congr ?_
            intro place
            rw [layers, passes, routed]
            exact Nat.zero_add _

/-- How often a call gets where, on any object that standard wraps build from a target. If
the interceptor of every layer that routes the method proceeds a fixed number of times, then
with counters the call does what it does without them, and raises the one of the target by
the product of these numbers, and the one of a routing layer by the product over the routing
layers outside it. A layer that does not route the method is never entered; one that routes
it and never proceeds keeps the call from everything inside. With single proceeds everything
is reached once. -/
theorem BuiltFrom.calls_multiply {target : Target m} {object : Object (Counting m)}
    (built : BuiltFrom target.lifted object) {method : Method}
    {times : Layer (Counting m) → Nat}
    (proceeds : ∀ layer ∈ object.layers, layer.routes method = true →
      layer.handler.Proceeds m method (times layer)) (args : List Value) :
    ∃ (answer : m Outcome) (raised : Nat → Nat),
      object.invoke method args = liftM answer ∧
      Raises (object.counted.invoke method args) answer raised ∧
      raised 0 = throughput method times object.layers ∧
      (∀ outside layer inside, object.layers = outside ++ layer :: inside →
        raised (inside.length + 1) =
          (if layer.routes method then throughput method times outside else 0) ∧
        (layer.routes method = true → times layer = 0 →
          ∀ place ≤ inside.length, raised place = 0)) ∧
      ((∀ layer ∈ object.layers, layer.routes method = true → times layer = 1) →
        raised 0 = 1 ∧
        ∀ outside layer inside, object.layers = outside ++ layer :: inside →
          layer.routes method = true → raised (inside.length + 1) = 1) := by
  have core : ∀ args, object.core.invoke method args = liftM (target.invoke method args) := by
    intro args
    rw [built.core_eq]
    rfl
  obtain ⟨plain, raises⟩ := invoke_raises object proceeds core
  refine ⟨plain args, passes method times object.layers, (raises args).1.eq_lift,
    (raises args).2, passes_base _, ?_, ?_⟩
  · intro outside layer inside split
    rw [split]
    refine ⟨passes_layer outside inside layer, ?_⟩
    intro routed never place within
    exact passes_inside outside inside routed never within
  · intro single
    refine ⟨(passes_base _).trans (throughput_eq_one single), ?_⟩
    intro outside layer inside split routed
    have outsideSingle : ∀ other ∈ outside, other.routes method = true → times other = 1 := by
      intro other member
      apply single other
      rw [split]
      exact List.mem_append_left _ member
    rw [split, passes_layer, if_pos routed]
    exact throughput_eq_one outsideSingle

end Object

namespace Greeting

def passive : Registration (Counting Run) :=
  greetingOnly (passiveInterceptor "passive" [greeting greeter]) rfl

def persistent : Registration (Counting Run) :=
  greetingOnly (persistentInterceptor 3 "persistent" [greeting greeter]) rfl

def tagged : Registration (Counting Run) :=
  greetingOnly (Tagging.interceptor ⟨"t", none⟩ "tagged" [greeting greeter]) rfl

def served : Target Run :=
  service 0

def innermost : Object (Counting Run) :=
  .wrapped (passive.standardLayer 1 table) (.base served.lifted)

def persisting : Object (Counting Run) :=
  .wrapped (persistent.standardLayer 2 innermost.table) innermost

/-- The service in a passive layer, in one that proceeds three times, in a tagging one. -/
def outermost : Object (Counting Run) :=
  .wrapped (tagged.standardLayer 3 persisting.table) persisting

theorem builtFrom_outermost : Object.BuiltFrom served.lifted outermost := by
  have bare : Object.BuiltFrom served.lifted (.base served.lifted) := .base
  have once : Object.BuiltFrom served.lifted innermost :=
    bare.standardLayer passive (List.cons_ne_nil greeter []) 1
  have twice : Object.BuiltFrom served.lifted persisting :=
    once.standardLayer persistent (List.cons_ne_nil greeter []) 2
  exact twice.standardLayer tagged (List.cons_ne_nil greeter []) 3

def proceedsOf (layer : Layer (Counting Run)) : Nat :=
  if layer.handler.name == "persistent" then 3 else 1

end Greeting

open Greeting in
/-- Proceeding three times in the middle: the service and the layer next to it are reached
three times, the other layers once. -/
theorem Object.BuiltFrom.calls_multiply_outermost :
    BuiltFrom served.lifted outermost ∧
    ∃ (answer : Run Outcome) (raised : Nat → Nat),
      outermost.invoke greet [.string "Bob"] = liftM answer ∧
      Raises (outermost.counted.invoke greet [.string "Bob"]) answer raised ∧
      raised 0 = 3 ∧ raised 1 = 3 ∧ raised 2 = 1 ∧ raised 3 = 1 := by
  have proceeds : ∀ layer ∈ outermost.layers, layer.routes greet = true →
      layer.handler.Proceeds Run greet (proceedsOf layer) := by
    intro layer member _
    simp only [Object.layers, outermost, persisting, innermost, List.mem_cons,
      List.not_mem_nil, or_false] at member
    rcases member with rfl | rfl | rfl
    · exact Tagging.proceeds (fun _ => rfl) ⟨"t", none⟩ _ _ greet
    · exact persistentInterceptor_proceeds 3 _ _ greet
    · exact passiveInterceptor_proceeds _ _ greet
  obtain ⟨answer, raised, plain, counts, atBase, atLayers, _⟩ :=
    builtFrom_outermost.calls_multiply proceeds [.string "Bob"]
  refine ⟨builtFrom_outermost, answer, raised, plain, counts, atBase, ?_, ?_, ?_⟩
  · exact (atLayers [_, _] _ [] rfl).1
  · exact (atLayers [_] _ [_] rfl).1
  · exact (atLayers [] _ [_, _] rfl).1

end Interception
