/-
The standard wrap. An object whose type shows no registered capability comes back as
it is. Every other one gets one layer with the registration's handler and registry,
which shows the registered capabilities among those that the object showed.
-/

import Interception.Proofs.TypeTable.Shown

namespace Interception

open Capability (names)

variable {m : Type → Type}

theorem Build.bind_apply {α β : Type} (first : Build α) (second : α → Build β)
    (workshop : Workshop) :
    (first >>= second) workshop = second (first workshop).1 (first workshop).2 :=
  rfl

theorem Object.wrapped_ne (layer : Layer m) (inner : Object m) : .wrapped layer inner ≠ inner := by
  intro same
  have count : inner.layers.length + 1 = inner.layers.length :=
    congrArg (fun object => object.layers.length) same
  exact Nat.succ_ne_self _ count

namespace Registration

/-- The capabilities of a list that are keys of the registry. -/
def keeps (registration : Registration m) (shown : List Capability) : List Capability :=
  shown.filter registration.registry.hasKey

theorem resolve_eq_keeps (registration : Registration m) (table : TypeTable) :
    table.resolve registration.registry = registration.keeps table.shown :=
  table.resolve_eq_filter_shown registration.registry

theorem keeps_sublist (registration : Registration m) (shown : List Capability) :
    (registration.keeps shown).Sublist shown :=
  List.filter_sublist

def standardLayer (registration : Registration m) (serial : Nat) (inner : TypeTable) : Layer m :=
  registration.layer serial inner (registration.keeps inner.shown)

theorem keeps_shown_nodup (registration : Registration m) (table : TypeTable) :
    (names (registration.keeps table.shown)).Nodup :=
  ((registration.keeps_sublist table.shown).map Capability.name).nodup table.shown_nodup

theorem standardLayer_table (registration : Registration m) (serial : Nat) (inner : TypeTable) :
    (registration.standardLayer serial inner).table =
      ⟨⟨proxyName inner.name, registration.keeps inner.shown⟩, []⟩ :=
  layerTable_eq (registration.keeps_shown_nodup inner)

theorem standardLayer_shown (registration : Registration m) (serial : Nat) (inner : TypeTable) :
    (registration.standardLayer serial inner).table.shown = registration.keeps inner.shown := by
  rw [standardLayer_table]
  exact TypeTable.shown_mk (registration.keeps_shown_nodup inner)

theorem standardLayer_interfaces (registration : Registration m) (serial : Nat)
    (inner : TypeTable) :
    (registration.standardLayer serial inner).table.interfaces =
      registration.keeps inner.shown := by
  rw [standardLayer_table]
  rfl

theorem standardLayer_routes (registration : Registration m) (serial : Nat) (inner : TypeTable)
    (method : Method) :
    (registration.standardLayer serial inner).routes method =
      (registration.registry.intercepts method &&
        (registration.keeps inner.shown).any (·.isNamed method.declaring)) := by
  unfold Layer.routes Layer.exposes
  rw [standardLayer_table]
  rfl

theorem wrap_of_unmatched {registration : Registration m} {object : Object m}
    (unmatched : registration.keeps object.table.shown = []) (workshop : Workshop) :
    registration.wrap object workshop =
      (object, { workshop with
        log := workshop.log.note (.inapplicable registration.name object.table.name) }) := by
  unfold wrap
  rw [resolve_eq_keeps, unmatched]
  rfl

theorem wrap_of_matched {registration : Registration m} {object : Object m}
    (matched : registration.keeps object.table.shown ≠ []) (workshop : Workshop) :
    registration.wrap object workshop =
      (.wrapped (registration.standardLayer workshop.next object.table) object,
        { next := workshop.next + 1
          log := workshop.log.note (.wrapping object.table.name registration.name
            (names (registration.keeps object.table.shown))) }) := by
  have nonempty : (registration.keeps object.table.shown).isEmpty = false :=
    List.isEmpty_eq_false_iff.mpr matched
  unfold wrap
  rw [resolve_eq_keeps, nonempty]
  rfl

/-- A wrap gives the object back or adds the layer of the registration. -/
theorem wrap_cases (registration : Registration m) (object : Object m) (workshop : Workshop) :
    registration.keeps object.table.shown = [] ∧ (registration.wrap object workshop).1 = object ∨
      registration.keeps object.table.shown ≠ [] ∧
        (registration.wrap object workshop).1 =
          .wrapped (registration.standardLayer workshop.next object.table) object := by
  by_cases unmatched : registration.keeps object.table.shown = []
  · exact Or.inl ⟨unmatched, by rw [wrap_of_unmatched unmatched]⟩
  · exact Or.inr ⟨unmatched, by rw [wrap_of_matched unmatched]⟩

theorem next_le_wrap (registration : Registration m) (object : Object m) (workshop : Workshop) :
    workshop.next ≤ (registration.wrap object workshop).2.next := by
  by_cases unmatched : registration.keeps object.table.shown = []
  · apply Nat.le_of_eq
    rw [wrap_of_unmatched unmatched]
  · rw [wrap_of_matched unmatched]
    exact Nat.le_succ _

end Registration

end Interception
