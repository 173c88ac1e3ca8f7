/-
Wrapping again. The layer of a standard wrap shows what its registry has as keys, and the
same registry has all of that when it looks at the layer in turn. So what the first wrap
lost of the object's type makes no difference to the wraps after it: with the same
registration they all add a layer like the first, or none of them adds any.

A trace is kept beside the world of the calls. Every entry into the interceptor is marked
in it, and so is the arrival at the object inside.
-/

import Interception.Proofs.Interceptor.Advance
import Interception.Proofs.Wrap.Routing

namespace Interception

variable {m : Type → Type}

namespace Registration

/-- Whether a layer of the registration that shows the list routes the method. -/
def takes (registration : Registration m) (exposed : List Capability) (method : Method) : Bool :=
  registration.registry.intercepts method && exposed.any (·.isNamed method.declaring)

theorem standardLayer_takes (registration : Registration m) (serial : Nat) (inner : TypeTable)
    (method : Method) :
    (registration.standardLayer serial inner).routes method =
      registration.takes (registration.keeps inner.shown) method :=
  registration.standardLayer_routes serial inner method

/-- What a registration has kept it keeps. -/
theorem keeps_keeps (registration : Registration m) (shown : List Capability) :
    registration.keeps (registration.keeps shown) = registration.keeps shown := by
  rw [keeps, List.filter_eq_self]
  intro capability kept
  exact (List.mem_filter.mp kept).2

theorem keeps_shown_standardLayer (registration : Registration m) (serial : Nat)
    (inner : TypeTable) :
    registration.keeps (registration.standardLayer serial inner).table.shown =
      registration.keeps inner.shown := by
  rw [standardLayer_shown, keeps_keeps]

theorem wrap_eq_self_iff (registration : Registration m) (object : Object m)
    (workshop : Workshop) :
    (registration.wrap object workshop).1 = object ↔
      registration.keeps object.table.shown = [] := by
  rcases registration.wrap_cases object workshop with ⟨unmatched, same⟩ | ⟨matched, wrapped⟩
  · exact ⟨fun _ => unmatched, fun _ => same⟩
  · rw [wrapped]
    exact ⟨fun same => absurd same (Object.wrapped_ne _ _), fun nothing => absurd nothing matched⟩

/-- Wraps an object again and again, once in each workshop. -/
def wrapEach (registration : Registration m) (object : Object m) (workshops : List Workshop) :
    Object m :=
  workshops.foldl (fun current workshop => (registration.wrap current workshop).1) object

theorem wrapEach_cons (registration : Registration m) (object : Object m) (workshop : Workshop)
    (rest : List Workshop) :
    registration.wrapEach object (workshop :: rest) =
      registration.wrapEach (registration.wrap object workshop).1 rest :=
  rfl

theorem wrapEach_of_unmatched {registration : Registration m} {object : Object m}
    (unmatched : registration.keeps object.table.shown = []) (workshops : List Workshop) :
    registration.wrapEach object workshops = object := by
  induction workshops with
  | nil => rfl
  | cons workshop rest ih =>
      rw [wrapEach_cons, wrap_of_unmatched unmatched]
      exact ih

/- The induction is on the wraps, the first of them innermost. The object is general in it,
and what carries it is that every object on the way keeps the same list. -/
theorem wrapEach_of_matched {registration : Registration m} {object : Object m}
    {exposed : List Capability} (kept : registration.keeps object.table.shown = exposed)
    (matched : exposed ≠ []) (workshops : List Workshop) :
    ∃ added : List (Layer m), registration.wrapEach object workshops =
        added.foldr .wrapped object ∧
      added.length = workshops.length ∧
      ∀ layer ∈ added, layer.handler = registration.interceptor.toHandler ∧
        layer.table.interfaces = exposed ∧
        ∀ method, layer.routes method = registration.takes exposed method := by
  induction workshops generalizing object with
  | nil => exact ⟨[], rfl, rfl, fun _ impossible => absurd impossible List.not_mem_nil⟩
  | cons workshop rest ih =>
      let first := registration.standardLayer workshop.next object.table
      have again : registration.keeps (Object.wrapped first object).table.shown = exposed :=
        (registration.keeps_shown_standardLayer workshop.next object.table).trans kept
      obtain ⟨added, result, length, alike⟩ := ih again
      refine ⟨added ++ [first], ?_, ?_, ?_⟩
      · rw [wrapEach_cons, wrap_of_matched (kept ▸ matched), List.foldr_append]
        exact result
      · rw [List.length_append, length]
        rfl
      · intro layer member
        rcases List.mem_append.mp member with outer | inner
        · exact alike layer outer
        · cases List.mem_singleton.mp inner
          refine ⟨rfl, ?_, fun method => ?_⟩
          · exact (registration.standardLayer_interfaces _ _).trans kept
          · rw [← kept]
            exact registration.standardLayer_takes _ _ method

end Registration

/-- Where a call gets on its way. -/
inductive Stop where
  | entered (method : Method)
  | reached (method : Method)
  deriving DecidableEq, Repr

abbrev Tracing (m : Type → Type) : Type → Type :=
  StateT (List Stop) m

namespace Tracing

instance [Monad m] [Log m] : Log (Tracing m) :=
  ⟨fun notice => liftM (Log.emit notice : m Unit)⟩

instance [Monad m] [Journal m] : Journal (Tracing m) :=
  ⟨fun entry => liftM (Journal.record entry : m Unit)⟩

def mark [Monad m] (stop : Stop) : Tracing m Unit :=
  modify (fun stops => stops ++ [stop])

end Tracing

/-- The same handler, marking each entry into it. -/
def Handler.traced [Monad m] (handler : Handler (Tracing m)) : Handler (Tracing m) where
  name := handler.name
  signatures := handler.signatures
  intercept invocation := do
    Tracing.mark (.entered invocation.method)
    handler.intercept invocation

def Registration.traced [Monad m] (registration : Registration (Tracing m)) :
    Registration (Tracing m) where
  interceptor :=
    { registration.interceptor.toHandler.traced with hook := registration.interceptor.hook }
  registry := registration.registry
  resolved := registration.resolved

/-- A target that says the same of itself as the object and answers as it does, marking
each arrival. -/
def Object.traced [Monad m] [Log m] (object : Object (Tracing m)) : Object (Tracing m) :=
  .base
    { serial := object.serial
      table := object.table
      invoke := fun method args => do
        Tracing.mark (.reached method)
        object.invoke method args }

variable [Monad m] [Log m]

/-- Two objects say the same of themselves. A call of the method does the same on both; on
the second it passes the stops, and the first leaves the trace alone. -/
structure Trails (method : Method) (stops : List Stop) (bare traced : Object (Tracing m)) :
    Prop where
  serial : traced.serial = bare.serial
  table : traced.table = bare.table
  calls : ∃ answers : List Value → m Outcome, ∀ args,
    Advances (bare.invoke method args) (answers args) id ∧
    Advances (traced.invoke method args) (answers args) (fun before => before ++ stops)

namespace Trails

variable [LawfulMonad m] {method : Method} {stops : List Stop} {bare traced : Object (Tracing m)}

theorem of_object {object : Object (Tracing m)} {answers : List Value → m Outcome}
    (answered : ∀ args, object.invoke method args = liftM (answers args)) :
    Trails method [.reached method] object object.traced where
  serial := rfl
  table := rfl
  calls := by
    refine ⟨answers, fun args => ?_⟩
    have plain : Advances (object.invoke method args) (answers args) id := by
      rw [answered args]
      exact Advances.lift _
    have marked := (Advances.modify (m := m) (fun before => before ++ [Stop.reached method])).bind
      (fun _ => plain)
    rw [pure_bind] at marked
    exact ⟨plain, marked⟩

/-- A layer that does not route the method passes the call on, with nothing marked. -/
private theorem skip {layer layerToo : Layer (Tracing m)} (trails : Trails method stops bare traced)
    (skipped : layer.routes method = false) (skippedToo : layerToo.routes method = false) :
    ∃ answers : List Value → m Outcome, ∀ args,
      Advances ((Object.wrapped layer bare).invoke method args) (answers args) id ∧
      Advances ((Object.wrapped layerToo traced).invoke method args) (answers args)
        (fun before => before ++ stops) := by
  obtain ⟨answers, reached⟩ := trails.calls
  have emits := Advances.lift (m := m) (σ := List Stop)
    (Log.emit (.forwarded method bare.table.name))
  refine ⟨fun args => do
    Log.emit (.forwarded method bare.table.name)
    answers args, fun args => ⟨?_, ?_⟩⟩
  · rw [Object.invoke_of_not_routes skipped]
    exact emits.bind (fun _ => (reached args).1)
  · rw [Object.invoke_of_not_routes skippedToo, trails.table]
    exact emits.bind (fun _ => (reached args).2)

/-- A layer that routes the method enters an interceptor that proceeds once. -/
private theorem enter {layer layerToo : Layer (Tracing m)} {handler : Handler (Tracing m)}
    (trails : Trails method stops bare traced)
    (routed : layer.routes method = true) (routedToo : layerToo.routes method = true)
    (own : layer.handler = handler) (ownToo : layerToo.handler = handler.traced)
    (proceeds : handler.Proceeds m method 1) :
    ∃ answers : List Value → m Outcome, ∀ args,
      Advances ((Object.wrapped layer bare).invoke method args) (answers args) id ∧
      Advances ((Object.wrapped layerToo traced).invoke method args) (answers args)
        (fun before => before ++ .entered method :: stops) := by
  obtain ⟨inside, reached⟩ := trails.calls
  obtain ⟨answers, once⟩ := proceeds.advances bare.serial bare.table inside
  have emits := Advances.lift (m := m) (σ := List Stop) (Log.emit (.entered method handler.name))
  refine ⟨fun args => do
    Log.emit (.entered method handler.name)
    answers args, fun args => ⟨?_, ?_⟩⟩
  · rw [Object.invoke_of_routes routed, own, Object.target_eq]
    exact emits.bind (fun _ => once _ _ (fun args => (reached args).1) args)
  · have marks := Advances.modify (m := m) (fun before => before ++ [Stop.entered method])
    have enters := marks.bind (fun _ => once _ _ (fun args => (reached args).2) args)
    rw [pure_bind] at enters
    rw [Object.invoke_of_routes routedToo, ownToo, Object.target_eq, trails.serial, trails.table]
    refine (emits.bind (fun _ => enters)).congr (fun before => ?_)
    exact List.append_assoc before [.entered method] stops

/-- One wrap: another stop if the layer routes the method. -/
theorem wrap {registration : Registration (Tracing m)} {exposed : List Capability}
    (trails : Trails method stops bare traced)
    (kept : registration.keeps bare.table.shown = exposed) (matched : exposed ≠ [])
    (proceeds : registration.takes exposed method = true →
      registration.interceptor.Proceeds m method 1) (workshop : Workshop) :
    Trails method
      (if registration.takes exposed method then .entered method :: stops else stops)
      (registration.wrap bare workshop).1 (registration.traced.wrap traced workshop).1 := by
  subst kept
  have matchedToo : registration.traced.keeps traced.table.shown ≠ [] := by
    rw [trails.table]
    exact matched
  have decided := registration.standardLayer_takes workshop.next bare.table method
  have decidedToo : (registration.traced.standardLayer workshop.next traced.table).routes method =
      registration.takes (registration.keeps bare.table.shown) method := by
    rw [Registration.standardLayer_takes, trails.table]
    rfl
  have tables : (registration.traced.standardLayer workshop.next traced.table).table =
      (registration.standardLayer workshop.next bare.table).table := by
    rw [trails.table]
    rfl
  rw [Registration.wrap_of_matched matched, Registration.wrap_of_matched matchedToo]
  cases takes : registration.takes (registration.keeps bare.table.shown) method with
  | true =>
      rw [takes] at decided decidedToo
      exact ⟨rfl, tables, trails.enter decided decidedToo rfl rfl (proceeds takes)⟩
  | false =>
      rw [takes] at decided decidedToo
      exact ⟨rfl, tables, trails.skip decided decidedToo⟩

/- The induction is on the wraps, the first of them innermost, so the stop of each wrap comes
in front of those so far. -/
theorem wrapEach {registration : Registration (Tracing m)} {exposed : List Capability}
    (trails : Trails method stops bare traced)
    (kept : registration.keeps bare.table.shown = exposed) (matched : exposed ≠ [])
    (proceeds : registration.takes exposed method = true →
      registration.interceptor.Proceeds m method 1) (workshops : List Workshop) :
    Trails method
      (if registration.takes exposed method then
        List.replicate workshops.length (.entered method) ++ stops else stops)
      (registration.wrapEach bare workshops) (registration.traced.wrapEach traced workshops) := by
  induction workshops generalizing stops bare traced with
  | nil =>
      have nothing : (if registration.takes exposed method then
          List.replicate 0 (.entered method) ++ stops else stops) = stops := ite_self stops
      rw [List.length_nil, nothing]
      exact trails
  | cons workshop rest ih =>
      have step := trails.wrap kept matched proceeds workshop
      have again : registration.keeps (registration.wrap bare workshop).1.table.shown =
          exposed := by
        rw [Registration.wrap_of_matched (kept ▸ matched)]
        exact (registration.keeps_shown_standardLayer workshop.next bare.table).trans kept
      have later := ih step again
      cases takes : registration.takes exposed method with
      | true =>
          rw [takes, if_pos rfl, if_pos rfl] at later
          rw [if_pos rfl, List.length_cons, List.replicate_succ', List.append_assoc]
          exact later
      | false =>
          rw [takes] at later
          exact later

end Trails

/-- Wrapping with one registration, again and again. If the first wrap gives the object back,
so do all. If not, each wrap adds a layer, and every layer shows the list and routes the
methods that the one of the first wrap does. When the object answers calls by itself, and the
interceptor proceeds once with the calls of a method that is routed, then with a trace a call
does what it does without: it enters the interceptor as often as the object was wrapped, and
then reaches the object, once and with the same method. A call of a method that is not routed
only reaches the object. -/
theorem Registration.wrapEach_uniform [LawfulMonad m] (registration : Registration (Tracing m))
    (object : Object (Tracing m)) (workshop : Workshop) (workshops : List Workshop) :
    ((registration.wrap object workshop).1 = object →
      registration.wrapEach object workshops = object) ∧
    ((registration.wrap object workshop).1 ≠ object →
      ∃ (single : Layer (Tracing m)) (added : List (Layer (Tracing m))),
        (registration.wrap object workshop).1 = .wrapped single object ∧
        registration.wrapEach object workshops = added.foldr .wrapped object ∧
        added.length = workshops.length ∧
        (∀ layer ∈ added, layer.handler = registration.interceptor.toHandler ∧
          layer.table.interfaces = single.table.interfaces ∧
          ∀ method, layer.routes method = single.routes method) ∧
        ∀ method, (single.routes method = true → registration.interceptor.Proceeds m method 1) →
          ∀ answers : List Value → m Outcome,
            (∀ args, object.invoke method args = liftM (answers args)) →
            ∀ args, ∃ answer : m Outcome,
              (registration.wrapEach object workshops).invoke method args = liftM answer ∧
              Advances ((registration.traced.wrapEach object.traced workshops).invoke method args)
                answer (fun before => before ++
                  if single.routes method then
                    List.replicate workshops.length (.entered method) ++ [.reached method]
                  else [.reached method])) := by
  rw [Ne, registration.wrap_eq_self_iff]
  refine ⟨fun unmatched => wrapEach_of_unmatched unmatched workshops, fun matched => ?_⟩
  let single := registration.standardLayer workshop.next object.table
  have shows := registration.standardLayer_interfaces workshop.next object.table
  have routes := registration.standardLayer_takes workshop.next object.table
  have wrapped : (registration.wrap object workshop).1 = .wrapped single object := by
    rw [wrap_of_matched matched]
  obtain ⟨added, result, length, alike⟩ := wrapEach_of_matched rfl matched workshops
  refine ⟨single, added, wrapped, result, length, ?_, ?_⟩
  · intro layer member
    obtain ⟨handler, interfaces, routesToo⟩ := alike layer member
    exact ⟨handler, interfaces.trans shows.symm,
      fun method => (routesToo method).trans (routes method).symm⟩
  · intro method proceeds answers answered args
    rw [routes] at proceeds ⊢
    have trails := (Trails.of_object answered).wrapEach rfl matched proceeds workshops
    obtain ⟨outer, calls⟩ := trails.calls
    exact ⟨outer args, (calls args).1.eq_lift, (calls args).2⟩

namespace Greeting

def stamps : Registration (Tracing Run) :=
  greetingOnly (Tagging.interceptor ⟨"s", none⟩ "stamps" [greeting greeter]) rfl

def farewell : Method :=
  ⟨"Greeter", ⟨"farewell", ["String"]⟩⟩

def thrice : List Workshop :=
  [⟨1, Logbook.empty none⟩, ⟨2, Logbook.empty none⟩, ⟨3, Logbook.empty none⟩]

end Greeting

open Greeting in
/-- The signatures ask for greetings only, so a farewell goes straight to the service. -/
theorem Registration.wrapEach_uniform_thrice :
    ∃ greeted parted : Run Outcome,
      (stamps.wrapEach (.base (service 0)) thrice).invoke greet [.string "Bob"] =
        liftM greeted ∧
      Advances
        ((stamps.traced.wrapEach (Object.base (service 0)).traced thrice).invoke greet
          [.string "Bob"])
        greeted (fun before => before ++
          [.entered greet, .entered greet, .entered greet, .reached greet]) ∧
      Advances
        ((stamps.traced.wrapEach (Object.base (service 0)).traced thrice).invoke farewell
          [.string "Bob"])
        parted (fun before => before ++ [.reached farewell]) := by
  have matched : (stamps.wrap (.base (service 0)) ⟨1, Logbook.empty none⟩).1 ≠
      .base (service 0) := by
    intro impossible
    cases impossible
  obtain ⟨single, added, wrapped, _, _, _, traced⟩ :=
    (stamps.wrapEach_uniform (m := Run) (.base (service 0)) ⟨1, Logbook.empty none⟩ thrice).2
      matched
  cases wrapped
  have proceeds (method : Method) : stamps.interceptor.Proceeds Run method 1 :=
    Tagging.proceeds (fun _ => rfl) ⟨"s", none⟩ _ _ method
  obtain ⟨greeted, bare, greets⟩ := traced greet (fun _ => proceeds greet)
    (fun args => pure (answer greet args)) (fun _ => rfl) [.string "Bob"]
  obtain ⟨parted, _, parts⟩ := traced farewell (fun _ => proceeds farewell)
    (fun args => pure (answer farewell args)) (fun _ => rfl) [.string "Bob"]
  exact ⟨greeted, parted, bare, greets, parts⟩

end Interception
