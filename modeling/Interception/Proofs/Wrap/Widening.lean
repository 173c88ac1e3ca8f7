/-
Asking for more. A registration whose signatures include those of another has all of its
keys and routes, so around the same object its layer shows at least what the other's would
and takes at least the calls that the other's would. Registrations with the same
signatures, in whatever order and however often, wrap an object alike.
-/

import Interception.Proofs.Wrap.Routing
import Mathlib.Data.List.Basic

namespace Interception

variable {m : Type → Type}

namespace Registration

/-- Every signature of the one, with the very handle of its capability, is a signature of
the other. -/
def Within (narrow wide : Registration m) : Prop :=
  ∀ signature ∈ narrow.interceptor.signatures, signature ∈ wide.interceptor.signatures

variable {narrow wide : Registration m}

theorem Within.hasKey (within : narrow.Within wide) {capability : Capability}
    (key : narrow.registry.hasKey capability = true) :
    wide.registry.hasKey capability = true := by
  rw [Registry.hasKey_iff, Registry.hasName_iff_of_ofSignatures narrow.resolved] at key
  obtain ⟨signature, member, named⟩ := key
  rw [Registry.hasKey_iff, Registry.hasName_iff_of_ofSignatures wide.resolved]
  exact ⟨signature, within signature member, named⟩

theorem Within.intercepts (within : narrow.Within wide) {method : Method}
    (intercepted : narrow.registry.intercepts method = true) :
    wide.registry.intercepts method = true := by
  rw [Registry.intercepts_iff_of_ofSignatures narrow.resolved] at intercepted
  obtain ⟨signature, member, resolves⟩ := intercepted
  rw [Registry.intercepts_iff_of_ofSignatures wide.resolved]
  exact ⟨signature, within signature member, resolves⟩

/-- Both lists are filtered from what shows, so the order is the same. -/
theorem Within.keeps_sublist (within : narrow.Within wide) (shown : List Capability) :
    (narrow.keeps shown).Sublist (wide.keeps shown) :=
  List.monotone_filter_right shown (fun _ key => within.hasKey key)

theorem Within.routes (within : narrow.Within wide) {serial serialToo : Nat} {inner : TypeTable}
    {method : Method} (routed : (narrow.standardLayer serial inner).routes method = true) :
    (wide.standardLayer serialToo inner).routes method = true := by
  rw [standardLayer_routes, Bool.and_eq_true, List.any_eq_true] at routed ⊢
  obtain ⟨intercepted, capability, kept, named⟩ := routed
  exact ⟨within.intercepts intercepted, capability,
    (within.keeps_sublist inner.shown).subset kept, named⟩

/-- Wrapping an object with a registration and with one that asks for all that the first
one does. If the first adds a layer, so does the second; its layer shows what the first
one's shows, by the same handles and in the same order, with or without more between, and
routes every method that the first one's routes. If they ask for the same, both give the
object back or both add a layer, and the two layers show and route the same. -/
theorem wrap_widened (within : narrow.Within wide) (object : Object m)
    (workshop workshopToo : Workshop) :
    ((narrow.wrap object workshop).1 = object ∨
      ∃ layer layerToo, (narrow.wrap object workshop).1 = .wrapped layer object ∧
        (wide.wrap object workshopToo).1 = .wrapped layerToo object ∧
        layer.handler = narrow.interceptor.toHandler ∧
        layerToo.handler = wide.interceptor.toHandler ∧
        layer.table.interfaces.Sublist layerToo.table.interfaces ∧
        ∀ method, layer.routes method = true → layerToo.routes method = true) ∧
    (wide.Within narrow →
      (narrow.wrap object workshop).1 = object ∧ (wide.wrap object workshopToo).1 = object ∨
      ∃ layer layerToo, (narrow.wrap object workshop).1 = .wrapped layer object ∧
        (wide.wrap object workshopToo).1 = .wrapped layerToo object ∧
        layer.handler = narrow.interceptor.toHandler ∧
        layerToo.handler = wide.interceptor.toHandler ∧
        layer.table.interfaces = layerToo.table.interfaces ∧
        ∀ method, layer.routes method = layerToo.routes method) := by
  have more := within.keeps_sublist object.table.shown
  have narrowShows := narrow.standardLayer_interfaces workshop.next object.table
  have wideShows := wide.standardLayer_interfaces workshopToo.next object.table
  rcases narrow.wrap_cases object workshop with ⟨unmatched, same⟩ | ⟨matched, wrapped⟩
  · refine ⟨Or.inl same, fun converse => Or.inl ⟨same, ?_⟩⟩
    have unmatchedToo : wide.keeps object.table.shown = [] := by
      have fewer := converse.keeps_sublist object.table.shown
      rw [unmatched] at fewer
      exact List.sublist_nil.mp fewer
    rw [wrap_of_unmatched unmatchedToo]
  · have matchedToo : wide.keeps object.table.shown ≠ [] := by
      intro nothing
      rw [nothing] at more
      exact matched (List.sublist_nil.mp more)
    have wrappedToo : (wide.wrap object workshopToo).1 =
        .wrapped (wide.standardLayer workshopToo.next object.table) object := by
      rw [wrap_of_matched matchedToo]
    constructor
    · refine Or.inr ⟨_, _, wrapped, wrappedToo, rfl, rfl, ?_, fun _ => within.routes⟩
      rw [narrowShows, wideShows]
      exact more
    · intro converse
      have equal := more.antisymm (converse.keeps_sublist object.table.shown)
      refine Or.inr ⟨_, _, wrapped, wrappedToo, rfl, rfl, ?_, ?_⟩
      · rw [narrowShows, wideShows]
        exact equal
      · intro method
        rw [Bool.eq_iff_iff]
        exact ⟨within.routes, converse.routes⟩

end Registration

namespace Greeting

def announcement : Method :=
  ⟨"Announcer", ⟨"announce", ["String"]⟩⟩

def announcing : Signature :=
  ⟨announcer, ⟨"announce", ["String"]⟩⟩

/-- Asks for announcing, and for greeting as something that an announcer does. -/
def heralds : Registration Run where
  interceptor := Tagging.interceptor ⟨"h", none⟩ "heralds" [greeting announcer, announcing]
  registry := ⟨[⟨announcer, [greet, announcement]⟩]⟩
  resolved := rfl

/-- Asks for greeting as such too. -/
def heraldsAll : Registration Run where
  interceptor := Tagging.interceptor ⟨"a", none⟩ "heralds all"
    [announcing, greeting greeter, greeting announcer]
  registry := ⟨[⟨announcer, [announcement, greet]⟩, ⟨greeter, [greet]⟩]⟩
  resolved := rfl

theorem heralds_within : heralds.Within heraldsAll := by
  intro signature member
  simp only [heralds, heraldsAll, Tagging.interceptor, Handler.interceptor, List.mem_cons,
    List.not_mem_nil, or_false] at member ⊢
  rcases member with rfl | rfl
  · exact Or.inr (Or.inr rfl)
  · exact Or.inl rfl

end Greeting

open Greeting in
/-- Around the tower both show the announcer and take announcements. Only the second takes
greetings, for which both have a signature. -/
theorem Registration.wrap_widened_tower :
    heralds.Within heraldsAll ∧
    ∃ layer layerToo, (heralds.wrap (.base tower) ⟨1, Logbook.empty none⟩).1 =
        .wrapped layer (.base tower) ∧
      (heraldsAll.wrap (.base tower) ⟨7, Logbook.empty none⟩).1 =
        .wrapped layerToo (.base tower) ∧
      layer.table.interfaces.Sublist layerToo.table.interfaces ∧
      layerToo.routes announcement = true ∧
      layer.routes greet = false ∧ layerToo.routes greet = true := by
  have widened := (wrap_widened heralds_within (.base tower) ⟨1, Logbook.empty none⟩
    ⟨7, Logbook.empty none⟩).1
  rcases widened with same | ⟨layer, layerToo, wrapped, wrappedToo, _, _, more, routes⟩
  · cases same
  · cases wrapped
    cases wrappedToo
    exact ⟨heralds_within, _, _, rfl, rfl, more, routes announcement (by decide), by decide,
      by decide⟩

end Interception
