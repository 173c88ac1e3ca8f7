/-
Stacks. An object that standard wraps build from a base target is layered: every
layer shows what its registry finds on the type just inside it, and finds something.
-/

import Interception.Proofs.Wrap.Standard

namespace Interception

variable {m : Type → Type}

namespace Object

/-- The objects that standard wraps build from a target, one wrap after another, with
any registrations and whatever else happens in the workshop between them. -/
inductive BuiltFrom (target : Target m) : Object m → Prop
  | base : BuiltFrom target (.base target)
  | wrap {object : Object m} (built : BuiltFrom target object) (registration : Registration m)
      (workshop : Workshop) : BuiltFrom target (registration.wrap object workshop).1

theorem BuiltFrom.standardLayer {target : Target m} {object : Object m}
    (built : BuiltFrom target object) (registration : Registration m)
    (matched : registration.keeps object.table.shown ≠ []) (serial : Nat) :
    BuiltFrom target (.wrapped (registration.standardLayer serial object.table) object) := by
  have step := built.wrap registration ⟨serial, Logbook.empty none⟩
  rw [Registration.wrap_of_matched matched] at step
  exact step

/-- Every layer is the one that the standard wrap puts around what is inside it. -/
def Layered : Object m → Prop
  | .base _ => True
  | .wrapped layer inner =>
      layer.table = ⟨⟨Registration.proxyName inner.table.name,
        inner.table.resolve layer.registry⟩, []⟩ ∧
      inner.table.resolve layer.registry ≠ [] ∧ inner.Layered

theorem Layered.wrap {object : Object m} (layered : object.Layered)
    (registration : Registration m) (workshop : Workshop) :
    (registration.wrap object workshop).1.Layered := by
  rcases registration.wrap_cases object workshop with ⟨_, same⟩ | ⟨matched, wrapped⟩
  · rw [same]
    exact layered
  · rw [wrapped]
    have kept := registration.resolve_eq_keeps object.table
    refine ⟨?_, ?_, layered⟩
    · rw [Registration.standardLayer_table, ← kept]
      rfl
    · change object.table.resolve registration.registry ≠ []
      rw [kept]
      exact matched

theorem BuiltFrom.layered {target : Target m} {object : Object m}
    (built : BuiltFrom target object) : object.Layered := by
  induction built with
  | base => trivial
  | wrap _ registration workshop ih => exact ih.wrap registration workshop

theorem BuiltFrom.core_eq {target : Target m} {object : Object m}
    (built : BuiltFrom target object) : object.core = target := by
  induction built with
  | base => rfl
  | @wrap object _ registration workshop ih =>
      rcases registration.wrap_cases object workshop with ⟨_, same⟩ | ⟨_, wrapped⟩
      · rw [same]
        exact ih
      · rw [wrapped]
        exact ih

def parts : Object m → List (Object m)
  | .base target => [.base target]
  | .wrapped layer inner => .wrapped layer inner :: inner.parts

theorem base_mem_parts (object : Object m) : .base object.core ∈ object.parts := by
  induction object with
  | base target => exact List.mem_singleton_self _
  | wrapped layer inner ih => exact List.mem_cons_of_mem _ ih

theorem core_of_mem_parts {object part : Object m} (member : part ∈ object.parts) :
    part.core = object.core := by
  induction object with
  | base target => rw [List.mem_singleton.mp member]
  | wrapped layer inner ih =>
      rcases List.mem_cons.mp member with same | deeper
      · rw [same]
      · exact ih deeper

theorem Layered.of_mem_parts {object part : Object m} (layered : object.Layered)
    (member : part ∈ object.parts) : part.Layered := by
  induction object with
  | base target =>
      cases List.mem_singleton.mp member
      trivial
  | wrapped layer inner ih =>
      rcases List.mem_cons.mp member with same | deeper
      · exact same ▸ layered
      · exact ih layered.2.2 deeper

end Object

end Interception
