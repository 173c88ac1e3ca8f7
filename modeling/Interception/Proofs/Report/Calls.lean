/-
What a call logs. Which interceptors proceed is found out by watching: places are noted
beside the log, one for every layer of a stack, and the call itself does not look at them.
When interceptors proceed at most once and log nothing, these places settle what the call
leaves in the log.
-/

import Interception.Proofs.Interceptor.Sparing
import Interception.Proofs.Report.Lines
import Interception.Proofs.Report.Logbook
import Interception.Proofs.Wrap.Routing

namespace Interception

variable {m : Type → Type}

/-- The log, and the places at which interceptors were entered and at which they proceeded,
in order. -/
structure Ledger where
  log : Logbook
  entered : List Nat
  proceeded : List Nat

namespace Ledger

def noted (ledger : Ledger) (notices : List Notice) : Ledger :=
  { ledger with log := ledger.log.extended notices }

def marked (ledger : Ledger) (entered proceeded : List Nat) : Ledger :=
  { ledger with
    entered := ledger.entered ++ entered
    proceeded := ledger.proceeded ++ proceeded }

theorem noted_nil (ledger : Ledger) : ledger.noted [] = ledger := by
  unfold noted
  rw [Logbook.extended_nil]

theorem noted_append (ledger : Ledger) (first second : List Notice) :
    (ledger.noted first).noted second = ledger.noted (first ++ second) := by
  unfold noted
  rw [← Logbook.extended_append]

theorem marked_nil (ledger : Ledger) : ledger.marked [] [] = ledger := by
  unfold marked
  rw [List.append_nil, List.append_nil]

theorem marked_append (ledger : Ledger) (entered proceeded more further : List Nat) :
    (ledger.marked entered proceeded).marked more further =
      ledger.marked (entered ++ more) (proceeded ++ further) := by
  unfold marked
  rw [List.append_assoc, List.append_assoc]

theorem noted_marked (ledger : Ledger) (notices : List Notice) (entered proceeded : List Nat) :
    (ledger.marked entered proceeded).noted notices =
      (ledger.noted notices).marked entered proceeded :=
  rfl

end Ledger

/-- A world with a ledger beside it. What belongs to the world alone cannot log. -/
abbrev Watched (m : Type → Type) : Type → Type :=
  StateT Ledger m

namespace Watched

instance [Monad m] : Log (Watched m) :=
  ⟨fun notice => modify (fun ledger => { ledger with log := ledger.log.note notice })⟩

instance [Monad m] [Journal m] : Journal (Watched m) :=
  ⟨fun entry => liftM (Journal.record entry : m Unit)⟩

def mark [Monad m] (entered proceeded : List Nat) : Watched m Unit :=
  modify (fun ledger => ledger.marked entered proceeded)

variable [Monad m] [LawfulMonad m]

theorem emit_advances (notice : Notice) :
    Advances (Log.emit notice : Watched m Unit) (pure ()) (·.noted [notice]) := by
  refine (Advances.modify _).congr (fun ledger => ?_)
  rw [Logbook.note_eq_extended]
  rfl

theorem mark_advances (entered proceeded : List Nat) :
    Advances (mark entered proceeded : Watched m Unit) (pure ())
      (·.marked entered proceeded) :=
  Advances.modify _

end Watched

/-- The same target, as an interceptor at a place proceeds to it. -/
def Target.watched [Monad m] (place : Nat) (target : Target (Watched m)) : Target (Watched m) where
  serial := target.serial
  table := target.table
  invoke method args := do
    Watched.mark [] [place]
    target.invoke method args

/-- The same layer, with marks for the entries into its interceptor and for the proceeds. -/
def Layer.watched [Monad m] (place : Nat) (layer : Layer (Watched m)) : Layer (Watched m) where
  serial := layer.serial
  handler :=
    { name := layer.handler.name
      signatures := layer.handler.signatures
      intercept := fun invocation => do
        Watched.mark [place] []
        layer.handler.intercept
          { invocation with target := invocation.target.watched place } }
  registry := layer.registry
  table := layer.table
  resolved := layer.resolved

namespace Object

/-- The same object, watched at every layer. -/
def watched [Monad m] : Object (Watched m) → Object (Watched m)
  | .base target => .base target
  | .wrapped layer inner => .wrapped (layer.watched (inner.layers.length + 1)) inner.watched

section

variable [Monad m]

theorem watched_serial (object : Object (Watched m)) : object.watched.serial = object.serial := by
  cases object <;> rfl

theorem watched_table (object : Object (Watched m)) : object.watched.table = object.table := by
  cases object <;> rfl

theorem watched_invoke_of_routes {layer : Layer (Watched m)} {method : Method}
    (routed : layer.routes method = true) (inner : Object (Watched m)) (args : List Value) :
    (Object.wrapped layer inner).watched.invoke method args = (do
      Log.emit (.entered method layer.handler.name)
      Watched.mark [inner.layers.length + 1] []
      layer.handler.intercept
        ⟨⟨inner.serial, inner.table,
          (inner.watched.target.watched (inner.layers.length + 1)).invoke⟩, method, args⟩) := by
  have routedToo : (layer.watched (inner.layers.length + 1)).routes method = true := routed
  rw [watched, invoke_of_routes routedToo, target_eq, watched_serial, watched_table]
  rfl

theorem watched_invoke_of_not_routes {layer : Layer (Watched m)} {method : Method}
    (skipped : layer.routes method = false) (inner : Object (Watched m)) (args : List Value) :
    (Object.wrapped layer inner).watched.invoke method args = (do
      Log.emit (.forwarded method inner.table.name)
      inner.watched.invoke method args) := by
  have skippedToo : (layer.watched (inner.layers.length + 1)).routes method = false := skipped
  rw [watched, invoke_of_not_routes skippedToo, watched_table]

end

/-- The call tells where interceptors proceed. It leaves the lines of the call behind, and,
if it is watched, the marks. -/
structure Tells [Monad m] (object : Object (Watched m)) (method : Method)
    (telling : List Value → m (Outcome × List Nat)) : Prop where
  logs : ∀ args, Follows (object.invoke method args) (telling args)
    (fun proceeded ledger => ledger.noted (object.lines method proceeded))
  marks : ∀ args, Follows (object.watched.invoke method args) (telling args)
    (fun proceeded ledger =>
      (ledger.noted (object.lines method proceeded)).marked
        (object.entries method proceeded) proceeded)

variable [Monad m] [LawfulMonad m]

theorem Tells.base {target : Target (Watched m)} {method : Method}
    {answers : List Value → m Outcome}
    (quiet : ∀ args, target.invoke method args = liftM (answers args)) :
    (Object.base target).Tells method
      (fun args => (fun outcome => (outcome, [])) <$> answers args) := by
  have answered : ∀ args, Advances (target.invoke method args) (answers args) id := by
    intro args
    rw [quiet]
    exact Advances.lift _
  have idle : ∀ ledger : Ledger, ledger = (ledger.noted []).marked [] [] := by
    intro ledger
    rw [Ledger.marked_nil, Ledger.noted_nil]
  constructor
  case logs =>
    intro args
    exact Follows.of_advances ((answered args).congr (fun ledger => ledger.noted_nil.symm))
  case marks =>
    intro args
    exact Follows.of_advances ((answered args).congr idle)

/-- A layer that does not route the method tells what is told inside. -/
theorem Tells.of_not_routes {layer : Layer (Watched m)} {inner : Object (Watched m)}
    {method : Method} {telling : List Value → m (Outcome × List Nat)}
    (skipped : layer.routes method = false) (tells : inner.Tells method telling) :
    (Object.wrapped layer inner).Tells method telling := by
  have emits := Watched.emit_advances (m := m) (.forwarded method inner.table.name)
  constructor
  case logs =>
    intro args
    rw [invoke_of_not_routes skipped]
    refine (Follows.after_step emits (tells.logs args)).congr ?_
    intro proceeded ledger
    rw [lines_of_skipped skipped, Function.comp_apply, Ledger.noted_append]
    rfl
  case marks =>
    intro args
    rw [watched_invoke_of_not_routes skipped]
    refine (Follows.after_step emits (tells.marks args)).congr ?_
    intro proceeded ledger
    rw [lines_of_skipped skipped, entries_of_skipped skipped, Function.comp_apply,
      Ledger.noted_append]
    rfl

/-- The places at which a call proceeds, when a layer's interceptor does so or does not. -/
def proceedsAt (place : Nat) : Option (List Nat) → List Nat
  | none => []
  | some inside => place :: inside

/-- A layer that routes the method tells its own place before what is told inside, if its
interceptor proceeds, and nothing at all otherwise. -/
theorem Tells.of_routes {layer : Layer (Watched m)} {inner : Object (Watched m)}
    {method : Method} {telling : List Value → m (Outcome × List Nat)}
    (routed : layer.routes method = true) (spares : layer.handler.Spares m method)
    (tells : inner.Tells method telling) :
    ∃ outer, (Object.wrapped layer inner).Tells method outer := by
  let place := inner.layers.length + 1
  obtain ⟨answers, follows⟩ := spares.follows inner.serial inner.table telling
  have emits := Watched.emit_advances (m := m) (.entered method layer.handler.name)
  have enters := Watched.mark_advances (m := m) [place] []
  refine ⟨fun args => (fun reply => (reply.1, proceedsAt place reply.2)) <$> answers args, ?_⟩
  constructor
  case logs =>
    intro args
    rw [invoke_of_routes routed, target_eq]
    refine (Follows.after_step emits (follows _ _ tells.logs args)).reword _ ?_
    intro told ledger
    cases told with
    | none =>
        rw [proceedsAt, lines_of_stopped routed]
        rfl
    | some proceeded =>
        rw [proceedsAt, lines_of_proceeded routed]
        exact ledger.noted_append [_] _
  case marks =>
    intro args
    have proceeds (args : List Value) :
        Follows ((inner.watched.target.watched place).invoke method args) (telling args) _ :=
      Follows.after_step (Watched.mark_advances [] [place]) (tells.marks args)
    have handled := Follows.after_step enters (follows _ _ proceeds args)
    rw [watched_invoke_of_routes routed]
    refine (Follows.after_step emits handled).reword _ ?_
    intro told ledger
    cases told with
    | none =>
        rw [proceedsAt, lines_of_stopped routed, entries_of_stopped routed]
        rfl
    | some proceeded =>
        rw [proceedsAt, lines_of_proceeded routed, entries_of_proceeded routed]
        -- Notes and marks are kept apart, so the marks may as well come last.
        change ((((ledger.noted [_]).marked [place] []).marked [] [place]).noted _).marked _ _ = _
        rw [Ledger.noted_marked, Ledger.noted_marked, Ledger.noted_append, Ledger.marked_append,
          Ledger.marked_append]
        rfl

/- The induction is on the layers. Watched or not, a layer runs the same tree, because the
object inside says the same of itself either way. -/
private theorem exists_tells (object : Object (Watched m)) {method : Method}
    (spares : ∀ layer ∈ object.layers, layer.routes method = true →
      layer.handler.Spares m method)
    {answers : List Value → m Outcome}
    (quiet : ∀ args, object.core.invoke method args = liftM (answers args)) :
    ∃ telling, object.Tells method telling := by
  induction object with
  | base target => exact ⟨_, Tells.base quiet⟩
  | wrapped layer inner ih =>
      obtain ⟨own, others⟩ := List.forall_mem_cons.mp spares
      obtain ⟨telling, tells⟩ := ih others quiet
      cases routed : layer.routes method with
      | true => exact tells.of_routes routed (own routed)
      | false => exact ⟨telling, tells.of_not_routes routed⟩

/-- The lines of a call on any object. Its interceptors that route the method proceed at most
once, depending on whatever they like, and neither they nor the base target log. The call
tells at which places it proceeds, and then has left the lines of the layers that it
reached; watching it notes these very places, and the places of the layers reached that
route the method as those where an interceptor was entered. All layers are reached if every
layer that routes the method is among the places, and otherwise the layers down to the
outermost one that is not. A layer's line is an entry with its interceptor's name if it
routes the method, and otherwise a forwarding with the name of the type inside, which in an
object that standard wraps build is the base target's with one more proxy for every layer
in between. The texts of the two kinds agree only for a type that is named like the
interceptor's announcement. -/
theorem invoke_lines (object : Object (Watched m)) {method : Method}
    {answers : List Value → m Outcome}
    (quiet : ∀ args, object.core.invoke method args = liftM (answers args))
    (spares : ∀ layer ∈ object.layers, layer.routes method = true →
      layer.handler.Spares m method) (args : List Value) :
    (∃ telling : m (Outcome × List Nat),
      (∀ ledger, (object.invoke method args).run ledger =
        (fun reply => (reply.1, ledger.noted (object.lines method reply.2))) <$> telling) ∧
      ∀ ledger, (object.watched.invoke method args).run ledger =
        (fun reply => (reply.1, (ledger.noted (object.lines method reply.2)).marked
          (object.entries method reply.2) reply.2)) <$> telling) ∧
    (∀ proceeded, ∃ reached,
      object.lines method proceeded = reached.map (Shell.line method) ∧
      object.entries method proceeded =
        (reached.filter (·.layer.routes method)).map Shell.place ∧
      ((∀ shell ∈ object.shells, shell.layer.routes method = true → shell.place ∈ proceeded) →
        reached = object.shells) ∧
      ∀ outside shell inside, object.shells = outside ++ shell :: inside →
        (∀ other ∈ outside, other.layer.routes method = true → other.place ∈ proceeded) →
        shell.layer.routes method = true → shell.place ∉ proceeded →
        reached = outside ++ [shell]) ∧
    object.shells.map Shell.layer = object.layers ∧
    object.shells.map Shell.place = (List.range' 1 object.layers.length).reverse ∧
    ∀ shell ∈ object.shells,
      (shell.line method).level = .trace ∧
      (shell.line method = .entered method shell.layer.handler.name ↔
        shell.layer.routes method = true) ∧
      (shell.line method = .forwarded method shell.inner.table.name ↔
        shell.layer.routes method = false) ∧
      ((shell.line method).text =
          method.display ++ " -> interceptor " ++ shell.layer.handler.name ↔
        shell.layer.routes method = true ∨
          shell.inner.table.name = "interceptor " ++ shell.layer.handler.name) ∧
      ((shell.line method).text = method.display ++ " -> " ++ shell.inner.table.name ↔
        shell.layer.routes method = false ∨
          shell.inner.table.name = "interceptor " ++ shell.layer.handler.name) ∧
      ∀ target, BuiltFrom target object →
        shell.inner.table.name =
          Registration.proxyName^[shell.inner.layers.length] target.table.name := by
  obtain ⟨telling, tells⟩ := exists_tells object spares quiet
  refine ⟨⟨telling args, tells.logs args, tells.marks args⟩, ?_, object.shells_layers,
    object.shells_places, ?_⟩
  · intro proceeded
    refine ⟨Shell.reached method proceeded object.shells, rfl, rfl, ?_, ?_⟩
    · intro all
      exact Shell.reached_eq_self (fun shell member stops => stops.2 (all shell member stops.1))
    · intro outside shell inside split before routed ceased
      rw [split]
      exact Shell.reached_of_stops
        (fun other member stops => stops.2 (before other member stops.1)) ⟨routed, ceased⟩
  · intro shell member
    exact ⟨shell.level_line, shell.line_eq_entered_iff, shell.line_eq_forwarded_iff,
      shell.text_line_eq_entered_iff, shell.text_line_eq_forwarded_iff,
      fun target built => built.name_inside member⟩

end Object

namespace Greeting

def admitted : List Value → Bool
  | [.string "Eve"] => false
  | _ => true

def tagging : Registration (Watched Run) :=
  greetingOnly (Tagging.interceptor ⟨"t", none⟩ "tagging" [greeting greeter]) rfl

def screening : Registration (Watched Run) :=
  greetingOnly (screeningInterceptor admitted "screening" [greeting greeter]) rfl

def parting : Registration (Watched Run) where
  interceptor := Tagging.interceptor ⟨"p", none⟩ "parting" [⟨greeter, ⟨"farewell", ["String"]⟩⟩]
  registry := ⟨[⟨greeter, [⟨"Greeter", ⟨"farewell", ["String"]⟩⟩]⟩]⟩
  resolved := rfl

def hall : Object (Watched Run) :=
  .wrapped (tagging.standardLayer 1 table) (.base (service 0))

def lobby : Object (Watched Run) :=
  .wrapped (screening.standardLayer 2 hall.table) hall

/-- A service behind a screen. The outermost layer passes greetings on. -/
def door : Object (Watched Run) :=
  .wrapped (parting.standardLayer 3 lobby.table) lobby

theorem builtFrom_door : Object.BuiltFrom (service 0) door := by
  have bare : Object.BuiltFrom (service 0) (.base (service 0) : Object (Watched Run)) := .base
  have once : Object.BuiltFrom (service 0) hall :=
    bare.standardLayer tagging (List.cons_ne_nil greeter []) 1
  have twice : Object.BuiltFrom (service 0) lobby :=
    once.standardLayer screening (List.cons_ne_nil greeter []) 2
  exact twice.standardLayer parting (List.cons_ne_nil greeter []) 3

theorem door_spares : ∀ layer ∈ door.layers, layer.routes greet = true →
    layer.handler.Spares Run greet := by
  intro layer member routed
  simp only [Object.layers, door, lobby, hall, List.mem_cons, List.not_mem_nil, or_false] at member
  rcases member with rfl | rfl | rfl
  · cases routed
  · exact screeningInterceptor_spares admitted _ _ greet
  · exact (Tagging.proceeds (fun _ => rfl) ⟨"t", none⟩ _ _ greet).spares (Nat.le_refl 1)

/-- Calls the watched door, with everything logged. -/
def knock (name : String) : Outcome × Ledger :=
  ((door.watched.invoke greet [.string name]).run ⟨Logbook.empty (some .trace), [], []⟩
    (World.initial none)).1

end Greeting

open Greeting in
/-- The screen lets Bob through and not Eve. -/
theorem Object.invoke_lines_door :
    BuiltFrom (service 0) door ∧
    (∀ layer ∈ door.layers, layer.routes greet = true → layer.handler.Spares Run greet) ∧
    (∃ telling : Run (Outcome × List Nat), ∀ ledger,
      (door.invoke greet [.string "Bob"]).run ledger =
        (fun reply => (reply.1, ledger.noted (door.lines greet reply.2))) <$> telling) ∧
    door.lines greet [2, 1] =
      [.forwarded greet "Proxy<Proxy<HelloService>>", .entered greet "screening",
        .entered greet "tagging"] ∧
    door.lines greet [] =
      [.forwarded greet "Proxy<Proxy<HelloService>>", .entered greet "screening"] ∧
    (knock "Bob").2.proceeded = [2, 1] ∧ (knock "Bob").2.log.notices = door.lines greet [2, 1] ∧
    (knock "Eve").2.proceeded = [] ∧ (knock "Eve").2.log.notices = door.lines greet [] := by
  have quiet : ∀ args, door.core.invoke greet args =
      liftM (pure (Greeting.answer greet args) : Run Outcome) :=
    fun args => rfl
  obtain ⟨⟨telling, plain, _watched⟩, reaches, _⟩ :=
    door.invoke_lines quiet door_spares [.string "Bob"]
  obtain ⟨whole, lines, _entries, through, _⟩ := reaches [2, 1]
  obtain ⟨part, fewer, _entries, _, cut⟩ := reaches []
  refine ⟨builtFrom_door, door_spares, ⟨telling, plain⟩, ?_, ?_, rfl, rfl, rfl, rfl⟩
  · have everywhere : whole = door.shells := through (by decide)
    rw [lines, everywhere]
    rfl
  · have screened : part = [_, _] := cut [_] _ [_] rfl (by decide) rfl (by decide)
    rw [fewer, screened]
    rfl

end Interception
