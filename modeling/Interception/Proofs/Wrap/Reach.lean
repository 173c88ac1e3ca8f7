/-
What a registry reaches. A registry is empty exactly when no signature was given, and an
empty one routes nothing. The converse fails: a signature that finds an inherited method
files it under the name of the capability that inherits, where no call of the method is
looked up. So something is routed, and some wrapped object hands a call over, exactly when
some signature finds its method under the name that it gives itself.
-/

import Interception.Proofs.Registry.Answers
import Interception.Proofs.Wrap.Routing

namespace Interception

/-- What the signature finds is declared by a capability of the name that it gives. -/
def Signature.Direct (signature : Signature) : Prop :=
  ∃ method, signature.resolve = .ok method ∧ method.declaring = signature.capability.name

theorem Signature.direct_of_declares {signature : Signature} {method : Method}
    (resolved : signature.resolve = .ok method)
    (declares : signature.selector ∈ signature.capability.selectors) : signature.Direct := by
  obtain ⟨_named, found⟩ := signature.resolve_eq_ok_iff.mp resolved
  -- The search starts at the capability itself, so nothing else can come before it.
  have first : signature.capability.method? signature.selector =
      some (signature.capability.method signature.selector) := by
    rw [Capability.method?_eq_some_iff]
    refine ⟨[], signature.capability, _, signature.capability.tree_eq, ?_, declares, rfl⟩
    intro earlier impossible
    cases impossible
  rw [first, Option.some.injEq] at found
  exact ⟨method, resolved, found ▸ rfl⟩

namespace Registry

variable {signatures : List Signature} {registry : Registry}

theorem isEmpty_iff_nil (built : ofSignatures signatures = .ok registry) :
    registry.isEmpty = true ↔ signatures = [] := by
  rw [isEmpty, beq_iff_eq, size_of_ofSignatures built, Finset.card_eq_zero,
    List.toFinset_eq_empty_iff]
  constructor
  · intro nothing
    cases signatures with
    | nil => rfl
    | cons head rest =>
        obtain ⟨method, resolved⟩ := resolves_of_ofSignatures built List.mem_cons_self
        have filed : (head.capability.name, method) ∈ Signature.filings (head :: rest) :=
          (Signature.mem_filings _ _ _).mpr ⟨head, List.mem_cons_self, rfl, resolved⟩
        rw [nothing] at filed
        cases filed
  · rintro rfl
    rfl

theorem exists_intercepts_iff (built : ofSignatures signatures = .ok registry) :
    (∃ method, registry.intercepts method = true) ↔
      ∃ signature ∈ signatures, signature.Direct := by
  simp only [intercepts_iff_of_ofSignatures built]
  constructor
  · rintro ⟨method, signature, member, same, resolved⟩
    exact ⟨signature, member, method, resolved, same.symm⟩
  · rintro ⟨signature, member, method, resolved, same⟩
    exact ⟨method, signature, member, same.symm, resolved⟩

theorem not_intercepts_of_isEmpty (built : ofSignatures signatures = .ok registry)
    (empty : registry.isEmpty = true) (method : Method) : registry.intercepts method = false := by
  rw [isEmpty_iff_nil built] at empty
  subst empty
  cases built
  rfl

end Registry

namespace Registration

variable {m : Type → Type} [Monad m]

/-- An object whose type declares nothing but a capability of the name. -/
def bearer (name : String) : Object m :=
  .base
    { serial := 0
      table := (TypeTable.named name).withInterface (Capability.named name)
      invoke := fun _ _ => pure (.ok .null) }

theorem keeps_bearer {registration : Registration m} {method : Method}
    (intercepted : registration.registry.intercepts method = true) :
    registration.keeps (bearer method.declaring : Object m).table.shown =
      [Capability.named method.declaring] := by
  obtain ⟨entry, found, _held⟩ := (Registry.intercepts_iff _ _).mp intercepted
  have key : registration.registry.hasKey (Capability.named method.declaring) = true :=
    Option.isSome_iff_exists.mpr ⟨entry, found⟩
  exact List.filter_cons_of_pos key

/-- Some object can be wrapped so that the layer routes a call exactly when the registry
routes some method. -/
theorem exists_routes_iff (registration : Registration m) :
    (∃ object workshop layer method,
      (registration.wrap object workshop).1 = .wrapped layer object ∧
        layer.routes method = true) ↔
      ∃ method, registration.registry.intercepts method = true := by
  constructor
  · rintro ⟨object, workshop, layer, method, wrapped, routed⟩
    rcases registration.wrap_cases object workshop with ⟨_, same⟩ | ⟨_, standard⟩
    · exact absurd (wrapped.symm.trans same) (Object.wrapped_ne layer object)
    · cases wrapped.symm.trans standard
      exact ⟨method, (Bool.and_eq_true_iff.mp routed).1⟩
  · rintro ⟨method, intercepted⟩
    let object : Object m := bearer method.declaring
    have kept : registration.keeps object.table.shown = [Capability.named method.declaring] :=
      keeps_bearer intercepted
    have matched : registration.keeps object.table.shown ≠ [] := by
      rw [kept]
      exact List.cons_ne_nil _ _
    refine ⟨object, ⟨1, Logbook.empty none⟩, registration.standardLayer 1 object.table, method,
      ?_, ?_⟩
    · rw [wrap_of_matched matched]
    · rw [standardLayer_routes, intercepted, kept, Bool.true_and]
      exact List.any_eq_true.mpr
        ⟨_, List.mem_singleton_self _, (Capability.named method.declaring).isNamed_name⟩

end Registration

namespace Registry

/-- A built registry is empty exactly when no signature was given, and then it routes
nothing. Some method is routed exactly when some signature finds a method that is declared
under the signature's own name, as every signature does whose capability declares the
method itself. So only with such a signature, or with none at all, does being empty amount
to routing nothing; and only with such a signature does a wrap that uses the registry ever
hand a call to the interceptor. -/
theorem ofSignatures_reach {signatures : List Signature} {registry : Registry}
    (built : ofSignatures signatures = .ok registry) :
    (registry.isEmpty = true ↔ signatures = []) ∧
    (registry.isEmpty = true → ∀ method, registry.intercepts method = false) ∧
    ((∃ method, registry.intercepts method = true) ↔
      ∃ signature ∈ signatures, signature.Direct) ∧
    (∀ signature ∈ signatures, signature.selector ∈ signature.capability.selectors →
      signature.Direct) ∧
    ((registry.isEmpty = true ↔ ∀ method, registry.intercepts method = false) ↔
      signatures = [] ∨ ∃ signature ∈ signatures, signature.Direct) ∧
    ∀ (m : Type → Type) [Monad m] (registration : Registration m),
      registration.registry = registry →
        ((∃ object workshop layer method,
          (registration.wrap object workshop).1 = .wrapped layer object ∧
            layer.routes method = true) ↔
          ∃ signature ∈ signatures, signature.Direct) := by
  have empty_iff := isEmpty_iff_nil built
  have reached_iff := exists_intercepts_iff built
  have unreached_iff : (∀ method, registry.intercepts method = false) ↔
      ¬∃ signature ∈ signatures, signature.Direct := by
    rw [← reached_iff, not_exists]
    simp only [Bool.not_eq_true]
  refine ⟨empty_iff, not_intercepts_of_isEmpty built, reached_iff, ?_, ?_, ?_⟩
  · intro signature member declares
    obtain ⟨method, resolved⟩ := resolves_of_ofSignatures built member
    exact Signature.direct_of_declares resolved declares
  · rw [empty_iff, unreached_iff]
    constructor
    · intro same
      by_cases reached : ∃ signature ∈ signatures, signature.Direct
      · exact Or.inr reached
      · exact Or.inl (same.mpr reached)
    · rintro (rfl | reached)
      · simp
      · obtain ⟨signature, member, _direct⟩ := id reached
        exact iff_of_false (List.ne_nil_of_mem member) (not_not_intro reached)
  · rintro m _ registration rfl
    rw [registration.exists_routes_iff, reached_iff]

namespace Streams

open Capability.Streams

def inherited : Registry :=
  ⟨[⟨reader, [⟨"Closeable", ⟨"close", []⟩⟩]⟩]⟩

end Streams

open Streams Capability.Streams in
/-- Readers inherit closing, so the one signature is taken and filed, and no call of any
method is routed for it. -/
theorem isEmpty_of_inherited_close :
    ofSignatures [closing reader] = .ok inherited ∧ inherited.isEmpty = false ∧
    (∀ method, inherited.intercepts method = false) ∧
    ¬(inherited.isEmpty = true ↔ ∀ method, inherited.intercepts method = false) := by
  have built : ofSignatures [closing reader] = .ok inherited := rfl
  have unrouted : ∀ method, inherited.intercepts method = false := by
    intro method
    rw [Bool.eq_false_iff, Ne, intercepts_iff_of_ofSignatures built]
    rintro ⟨signature, member, same, resolved⟩
    cases List.mem_singleton.mp member
    cases resolved
    exact absurd same (by decide)
  refine ⟨built, rfl, unrouted, ?_⟩
  intro same
  cases same.mpr unrouted

open Streams Capability.Streams in
/-- With a signature for closing as such, closing is routed. -/
theorem ofSignatures_reach_streams :
    ofSignatures closings = .ok closingRegistry ∧
    closingRegistry.isEmpty = false ∧
    ∃ method, closingRegistry.intercepts method = true := by
  have built : ofSignatures closings = .ok closingRegistry := rfl
  obtain ⟨empty_iff, _, reached_iff, declares, _, _⟩ := ofSignatures_reach built
  have member : closing closeable ∈ closings := by
    simp [closings]
  have direct : (closing closeable).Direct :=
    declares _ member (List.mem_singleton_self _)
  refine ⟨built, ?_, reached_iff.mpr ⟨_, member, direct⟩⟩
  rw [Bool.eq_false_iff, Ne, empty_iff]
  exact List.cons_ne_nil _ _

end Registry

end Interception
