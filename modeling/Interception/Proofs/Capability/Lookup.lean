/-
Looking a method up. The search stops as soon as a handle declares the selector, and
goes back up and on to the next capability when a branch does not have it. It finds
what a scan of the whole tree finds, all declarations put one after another in the
order of the tree; so it fails only when no handle of the tree declares the selector.
-/

import Interception.Capability

namespace Interception.Capability

theorem forest_eq_flatMap (capabilities : List Capability) :
    forest capabilities = capabilities.flatMap tree := by
  induction capabilities with
  | nil => rfl
  | cons head rest ih => rw [forest, ih, List.flatMap_cons]

theorem tree_eq (capability : Capability) :
    capability.tree = capability :: capability.supers.flatMap tree := by
  cases capability with
  | mk name supers selectors => rw [tree, forest_eq_flatMap]

theorem self_mem_tree (capability : Capability) : capability ∈ capability.tree := by
  rw [tree_eq]
  exact List.mem_cons_self

/-- What holds of a capability as soon as it holds of those that it extends directly
holds of every capability. -/
theorem supers_induction {motive : Capability → Prop}
    (step : ∀ capability : Capability,
      (∀ super ∈ capability.supers, motive super) → motive capability)
    (capability : Capability) : motive capability := by
  refine @Capability.rec motive (fun capabilities => ∀ super ∈ capabilities, motive super)
    ?_ ?_ ?_ capability
  · intro name supers selectors above
    exact step ⟨name, supers, selectors⟩ above
  · intro super impossible
    cases impossible
  · intro head rest first later super member
    rcases List.mem_cons.mp member with same | deeper
    · exact same ▸ first
    · exact later super deeper

theorem mem_methods_iff (capability : Capability) (method : Method) :
    method ∈ capability.methods ↔
      method.declaring = capability.name ∧ method.selector ∈ capability.selectors := by
  rw [methods, List.mem_map]
  constructor
  · rintro ⟨selector, declared, rfl⟩
    exact ⟨rfl, declared⟩
  · rintro ⟨declares, declared⟩
    exact ⟨method.selector, declared, by rw [Capability.method, ← declares]⟩

/-- The declarations of one handle hold at most one method for a selector. -/
theorem find?_methods (capability : Capability) (selector : Selector) :
    capability.methods.find? (fun method => method.selector == selector) =
      if selector ∈ capability.selectors then some (capability.method selector) else none := by
  have sought : ((fun method : Method => method.selector == selector) ∘ capability.method) =
      (fun declared => declared == selector) := rfl
  rw [methods, List.find?_map, sought]
  split
  · rename_i declared
    cases found : capability.selectors.find? (fun declared => declared == selector) with
    | none => exact absurd (List.find?_eq_none.mp found selector declared) (by simp)
    | some other =>
        have same := List.find?_some found
        rw [eq_of_beq same]
        rfl
  · rename_i absent
    have missed : capability.selectors.find? (fun declared => declared == selector) = none := by
      rw [List.find?_eq_none]
      intro declared member same
      exact absent (eq_of_beq same ▸ member)
    rw [missed]
    rfl

mutual
theorem method?_eq_find? (selector : Selector) :
    (capability : Capability) →
      capability.method? selector =
        (capability.tree.flatMap methods).find? (fun method => method.selector == selector)
  | ⟨name, supers, selectors⟩ => by
      rw [tree, List.flatMap_cons, List.find?_append, find?_methods,
        ← methodAmong?_eq_find? selector supers, method?]
      split
      · rfl
      · rfl

theorem methodAmong?_eq_find? (selector : Selector) :
    (capabilities : List Capability) →
      methodAmong? selector capabilities =
        ((forest capabilities).flatMap methods).find? (fun method => method.selector == selector)
  | [] => rfl
  | capability :: rest => by
      rw [methodAmong?, forest, List.flatMap_append, List.find?_append,
        ← method?_eq_find? selector capability, ← methodAmong?_eq_find? selector rest]
      -- The rest is searched only when the whole first tree has no fit.
      cases method? selector capability with
      | none => rfl
      | some found => rfl
end

theorem method?_eq_none_iff (capability : Capability) (selector : Selector) :
    capability.method? selector = none ↔
      ∀ handle ∈ capability.tree, selector ∉ handle.selectors := by
  rw [method?_eq_find?, List.find?_flatMap, List.findSome?_eq_none_iff]
  simp only [find?_methods, ite_eq_right_iff, reduceCtorEq, imp_false]

theorem method?_eq_some_iff (capability : Capability) (selector : Selector) (method : Method) :
    capability.method? selector = some method ↔
      ∃ before handle after, capability.tree = before ++ handle :: after ∧
        (∀ earlier ∈ before, selector ∉ earlier.selectors) ∧
        selector ∈ handle.selectors ∧ method = handle.method selector := by
  rw [method?_eq_find?, List.find?_flatMap, List.findSome?_eq_some_iff]
  simp only [find?_methods, ite_eq_right_iff, reduceCtorEq, imp_false, Option.ite_none_right_eq_some,
    Option.some.injEq]
  constructor
  · rintro ⟨before, handle, after, shape, ⟨declared, same⟩, absent⟩
    exact ⟨before, handle, after, shape, absent, declared, same.symm⟩
  · rintro ⟨before, handle, after, shape, absent, declared, same⟩
    exact ⟨before, handle, after, shape, ⟨declared, same.symm⟩, absent⟩

theorem declarer_of_method? {capability : Capability} {selector : Selector} {method : Method}
    (found : capability.method? selector = some method) :
    ∃ declarer ∈ capability.tree,
      selector ∈ declarer.selectors ∧ method = declarer.method selector := by
  obtain ⟨before, declarer, after, shape, _first, declared, same⟩ :=
    (capability.method?_eq_some_iff selector method).mp found
  have member : declarer ∈ capability.tree := by
    rw [shape]
    exact List.mem_append_right before List.mem_cons_self
  exact ⟨declarer, member, declared, same⟩

theorem exists_method?_iff (capability : Capability) (selector : Selector) :
    (∃ method, capability.method? selector = some method) ↔
      ∃ handle ∈ capability.tree, selector ∈ handle.selectors := by
  constructor
  · rintro ⟨method, found⟩
    obtain ⟨declarer, member, declared, _same⟩ := declarer_of_method? found
    exact ⟨declarer, member, declared⟩
  · rintro ⟨handle, member, declared⟩
    cases sought : capability.method? selector with
    | none =>
        have absent := (capability.method?_eq_none_iff selector).mp sought
        exact absurd declared (absent handle member)
    | some method => exact ⟨method, rfl⟩

theorem isNamed_iff (capability : Capability) (name : String) :
    capability.isNamed name = true ↔ ∃ handle ∈ capability.tree, handle.name = name := by
  rw [isNamed_eq_any_tree, List.any_eq_true]
  simp only [beq_iff_eq]

theorem isNamed_name (capability : Capability) : capability.isNamed capability.name = true :=
  (capability.isNamed_iff capability.name).mpr ⟨capability, capability.self_mem_tree, rfl⟩

/-- A lookup goes through the tree, which has the capability first and then the trees of
what it extends, in order and with repetitions, and takes the first declaration of the
selector. There is one unless no handle of the tree declares the selector. The method
that is found names the handle that declares it, and the capability is that handle's or
extends it. -/
theorem method?_first_declared (capability : Capability) (selector : Selector) :
    capability.tree = capability :: capability.supers.flatMap tree ∧
    capability.method? selector =
      (capability.tree.flatMap methods).find? (fun method => method.selector == selector) ∧
    (capability.method? selector = none ↔
      ∀ handle ∈ capability.tree, ∀ method ∈ handle.methods, method.selector ≠ selector) ∧
    ∀ method, capability.method? selector = some method →
      method.name = selector.name ∧ method.params = selector.params ∧
      (∃ before handle after, capability.tree = before ++ handle :: after ∧
        (∀ earlier ∈ before, ∀ other ∈ earlier.methods, other.selector ≠ selector) ∧
        method ∈ handle.methods ∧ method.declaring = handle.name) ∧
      capability.isNamed method.declaring = true := by
  have declares_iff : ∀ handle : Capability,
      (∀ method ∈ handle.methods, method.selector ≠ selector) ↔ selector ∉ handle.selectors := by
    intro handle
    constructor
    · intro other declared
      exact other (handle.method selector)
        ((handle.mem_methods_iff _).mpr ⟨rfl, declared⟩) rfl
    · intro absent method member same
      exact absent (same ▸ ((handle.mem_methods_iff method).mp member).2)
  refine ⟨capability.tree_eq, method?_eq_find? selector capability, ?_, ?_⟩
  · rw [method?_eq_none_iff]
    simp only [declares_iff]
  · intro method found
    obtain ⟨before, handle, after, shape, absent, declared, rfl⟩ :=
      (capability.method?_eq_some_iff selector method).mp found
    obtain ⟨declarer, member, _declared, same⟩ := declarer_of_method? found
    refine ⟨rfl, rfl, ⟨before, handle, after, shape, ?_, ?_, rfl⟩, ?_⟩
    · intro earlier memberBefore
      exact (declares_iff earlier).mpr (absent earlier memberBefore)
    · exact (handle.mem_methods_iff _).mpr ⟨rfl, declared⟩
    · exact (capability.isNamed_iff _).mpr ⟨declarer, member, congrArg Method.declaring same.symm⟩

namespace Streams

def closeable : Capability :=
  (named "Closeable").declaring ⟨"close", []⟩

def reader : Capability :=
  ((named "Reader").extending closeable).declaring ⟨"read", ["i64"]⟩

def writer : Capability :=
  ((named "Writer").extending closeable).declaring ⟨"write", ["String"]⟩

def channel : Capability :=
  ((named "Channel").extending reader).extending writer

end Streams

open Streams in
/-- The reader and what it extends are left again before the writer is asked. -/
example : channel.method? ⟨"write", ["String"]⟩ = some ⟨"Writer", ⟨"write", ["String"]⟩⟩ := by
  decide

end Interception.Capability
