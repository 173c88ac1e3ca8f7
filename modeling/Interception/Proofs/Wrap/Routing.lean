/-
Which calls a wrapped object hands to its interceptor. The decision is read off the
signatures and the type of the object inside: some signature must name the capability
that declares the method and resolve to that very method, and some capability that
the layer shows must be that capability or extend it. Every other call reaches the
object inside as it was made.
-/

import Interception.Proofs.Wrap.Standard
import Interception.Sample.Greeting
import Interception.Sample.Tagging
import Interception.Session.World

namespace Interception

variable {m : Type → Type}

theorem Object.target_eq [Monad m] [Log m] (object : Object m) :
    object.target = ⟨object.serial, object.table, object.invoke⟩ := by
  rw [← target_serial, ← target_table]
  rfl

theorem Object.invoke_wrapped [Monad m] [Log m] (layer : Layer m) (inner : Object m)
    (method : Method) (args : List Value) :
    (Object.wrapped layer inner).invoke method args =
      if layer.routes method then (do
        Log.emit (.entered method layer.handler.name)
        layer.handler.intercept ⟨inner.target, method, args⟩)
      else (do
        Log.emit (.forwarded method inner.table.name)
        inner.invoke method args) := by
  rw [← Object.target_table]
  rfl

theorem Object.invoke_of_routes [Monad m] [Log m] {layer : Layer m} {method : Method}
    (routed : layer.routes method = true) (inner : Object m) (args : List Value) :
    (Object.wrapped layer inner).invoke method args = (do
      Log.emit (.entered method layer.handler.name)
      layer.handler.intercept ⟨inner.target, method, args⟩) := by
  rw [invoke_wrapped, if_pos routed]

theorem Object.invoke_of_not_routes [Monad m] [Log m] {layer : Layer m} {method : Method}
    (skipped : layer.routes method = false) (inner : Object m) (args : List Value) :
    (Object.wrapped layer inner).invoke method args = (do
      Log.emit (.forwarded method inner.table.name)
      inner.invoke method args) := by
  rw [invoke_wrapped, skipped]
  rfl

/-- A handler is to see the calls of a method on objects of a type. -/
def Handler.Covers (handler : Handler m) (table : TypeTable) (method : Method) : Prop :=
  (∃ signature ∈ handler.signatures,
    signature.capability.name = method.declaring ∧ signature.resolve = .ok method) ∧
  ∃ capability ∈ table.wanted handler.signatures, capability.isNamed method.declaring = true

namespace Registration

theorem keeps_shown_eq_wanted (registration : Registration m) (table : TypeTable) :
    registration.keeps table.shown = table.wanted registration.interceptor.signatures := by
  rw [← resolve_eq_keeps]
  exact table.resolve_eq_wanted registration.resolved

/-- The layer of the standard wrap routes the methods that its handler covers. -/
theorem routes_standardLayer_iff (registration : Registration m) (serial : Nat)
    (inner : TypeTable) (method : Method) :
    (registration.standardLayer serial inner).routes method = true ↔
      registration.interceptor.Covers inner method := by
  unfold Handler.Covers
  rw [standardLayer_routes, keeps_shown_eq_wanted, Bool.and_eq_true, List.any_eq_true]
  exact and_congr_left'
    (Registry.intercepts_iff_of_ofSignatures registration.resolved method)

theorem ofInterceptor_interceptor (registration : Registration m) :
    ofInterceptor registration.interceptor = .ok registration := by
  unfold ofInterceptor
  split
  · rename_i registry resolved
    obtain ⟨interceptor, own, ownResolved⟩ := registration
    cases ownResolved.symm.trans resolved
    rfl
  · rename_i error refused
    cases registration.resolved.symm.trans refused

theorem register_interceptor (registration : Registration m) (workshop : Workshop) :
    register registration.interceptor workshop =
      (.ok registration, (registration.announce workshop).2) := by
  unfold register
  rw [ofInterceptor_interceptor]
  rfl

end Registration

theorem Interceptor.wrap_eq (registration : Registration m) (object : Object m)
    (workshop : Workshop) :
    (registration.interceptor.wrap object workshop).1 =
      .ok (registration.wrap object (registration.announce workshop).2).1 := by
  unfold Interceptor.wrap
  rw [Build.bind_apply, Registration.register_interceptor]
  rfl

variable [Monad m] [Log m]

/-- Wrapping an object with an interceptor whose signatures all resolve. Without a
declared capability that some signature names, the object itself comes back. Otherwise
a new object does, which hands exactly the covered calls to the interceptor, once and
with the object, the method and the arguments as they are, and passes every other call
on; either way the outcome is the one of the call it makes. -/
theorem Interceptor.wrap_dispatch (interceptor : Interceptor m) (object : Object m)
    (workshop : Workshop) {registry : Registry}
    (built : Registry.ofSignatures interceptor.signatures = .ok registry) :
    ∃ result, (interceptor.wrap object workshop).1 = .ok result ∧
      (object.table.wanted interceptor.signatures = [] → result = object) ∧
      (object.table.wanted interceptor.signatures ≠ [] →
        (object.serial < workshop.next → object.same result = false) ∧
        ∀ method args,
          (interceptor.Covers object.table method →
            result.invoke method args = (do
              Log.emit (.entered method interceptor.name)
              interceptor.intercept ⟨object.target, method, args⟩)) ∧
          (¬interceptor.Covers object.table method →
            result.invoke method args = (do
              Log.emit (.forwarded method object.table.name)
              object.invoke method args))) := by
  let registration : Registration m := ⟨interceptor, registry, built⟩
  have wanted_eq : object.table.wanted interceptor.signatures =
      registration.keeps object.table.shown :=
    (registration.keeps_shown_eq_wanted object.table).symm
  refine ⟨_, Interceptor.wrap_eq registration object workshop, ?_, ?_⟩
  · intro unwanted
    rw [Registration.wrap_of_unmatched (wanted_eq.symm.trans unwanted)]
  · intro wanted
    rw [Registration.wrap_of_matched (fun none => wanted (wanted_eq.trans none))]
    constructor
    · intro made
      exact beq_eq_false_iff_ne.mpr (Nat.ne_of_lt made)
    · intro method args
      have decided := registration.routes_standardLayer_iff
        (registration.announce workshop).2.next object.table method
      constructor
      · intro covered
        rw [Object.invoke_wrapped, if_pos (decided.mpr covered)]
        rfl
      · intro uncovered
        rw [Object.invoke_wrapped, if_neg (fun routed => uncovered (decided.mp routed))]

namespace Greeting

def announcer : Capability :=
  ((Capability.named "Announcer").extending greeter).declaring ⟨"announce", ["String"]⟩

def tower : Target Run :=
  { service 0 with table := (TypeTable.named "Tower").withInterface announcer }

def greeting (capability : Capability) : Signature :=
  ⟨capability, ⟨"greet", ["String"]⟩⟩

/-- The registration of an interceptor that asks for greeting and nothing else. -/
def greetingOnly {n : Type → Type} (interceptor : Interceptor n)
    (asks : interceptor.signatures = [greeting greeter]) : Registration n where
  interceptor := interceptor
  registry := ⟨[⟨greeter, [greet]⟩]⟩
  resolved := by
    rw [asks]
    rfl

/-- The registration of a tagging interceptor that asks for greeting through announcing
as well as directly. -/
def announced (tag : String) : Registration Run where
  interceptor := Tagging.interceptor ⟨tag, none⟩ tag [greeting announcer, greeting greeter]
  registry := ⟨[⟨announcer, [greet]⟩, ⟨greeter, [greet]⟩]⟩
  resolved := rfl

theorem announced_covers (tag : String) : (announced tag).interceptor.Covers tower.table greet := by
  refine ⟨⟨greeting greeter, ?_, rfl, rfl⟩, announcer, ?_, rfl⟩
  · exact List.mem_cons_of_mem _ (List.mem_singleton_self _)
  · exact List.mem_singleton_self announcer

end Greeting

open Greeting in
/-- The type declares no greeter; its announcer makes the call reach the interceptor. -/
theorem Interceptor.wrap_dispatch_tower :
    Registry.ofSignatures (announced "t").interceptor.signatures = .ok (announced "t").registry ∧
    ∃ result, ((announced "t").interceptor.wrap (.base tower) ⟨1, Logbook.empty none⟩).1 =
        .ok result ∧
      (Object.base tower).same result = false ∧
      result.invoke greet [.string "Bob"] = (do
        Log.emit (.entered greet "t")
        Tagging.intercept ⟨"t", none⟩ ⟨tower, greet, [.string "Bob"]⟩) := by
  have built := (announced "t").resolved
  obtain ⟨result, wrapped, _unwanted, dispatched⟩ :=
    Interceptor.wrap_dispatch (announced "t").interceptor (.base tower)
      ⟨1, Logbook.empty none⟩ built
  have wanted : tower.table.wanted (announced "t").interceptor.signatures ≠ [] :=
    List.cons_ne_nil announcer []
  obtain ⟨new, calls⟩ := dispatched wanted
  exact ⟨built, result, wrapped, new Nat.zero_lt_one,
    (calls greet [.string "Bob"]).1 (announced_covers "t")⟩

end Interception
