/-
Which signatures a registry takes. A signature is sound when its name is more than
white space and some handle in the tree of its capability declares its selector. A
list is taken when all of its signatures are sound; otherwise the first that is not
decides the error, whatever comes after it.
-/

import Interception.Proofs.Capability.Lookup
import Interception.Proofs.Registry.Contents
import Interception.Registration

namespace Interception

open Interception.Text

namespace Signature

/-- The name has a character outside White_Space, and the capability or something that
it extends declares the selector. -/
def Sound (signature : Signature) : Prop :=
  (∃ character ∈ signature.selector.name.toList, isWhiteSpace character = false) ∧
    ∃ handle ∈ signature.capability.tree, signature.selector ∈ handle.selectors

instance (signature : Signature) : Decidable signature.Sound :=
  inferInstanceAs (Decidable (_ ∧ _))

/-- A blank name is refused as such, wherever the selector may be declared; any other
name is refused when nothing in the tree declares the selector. -/
def RefusedWith (signature : Signature) (error : SetupError) : Prop :=
  (∀ character ∈ signature.selector.name.toList, isWhiteSpace character = true) ∧
      error = .malformed signature.capability.name "method name is empty" ∨
    (∃ character ∈ signature.selector.name.toList, isWhiteSpace character = false) ∧
      (∀ handle ∈ signature.capability.tree, signature.selector ∉ handle.selectors) ∧
      error = .unresolved signature.capability.name signature.selector

theorem resolve_of_blank {signature : Signature}
    (blank : isBlank signature.selector.name = true) :
    signature.resolve = .error (.blankName signature.capability.name) := by
  rw [resolve, if_pos blank]

theorem resolve_of_named {signature : Signature}
    (named : isBlank signature.selector.name = false) :
    signature.resolve =
      (signature.capability.method? signature.selector).elim
        (.error (.unresolved signature.capability.name signature.selector)) .ok := by
  rw [resolve, named]
  cases signature.capability.method? signature.selector with
  | none => rfl
  | some method => rfl

theorem resolves_iff_sound (signature : Signature) :
    (∃ method, signature.resolve = .ok method) ↔ signature.Sound := by
  unfold Sound
  rw [← isBlank_eq_false_iff, ← Capability.exists_method?_iff]
  simp only [resolve_eq_ok_iff, exists_and_left]

theorem resolve_eq_error_iff (signature : Signature) (error : SetupError) :
    signature.resolve = .error error ↔ signature.RefusedWith error := by
  unfold RefusedWith
  rw [← isBlank_eq_false_iff, ← List.all_eq_true, ← isBlank, ← Capability.method?_eq_none_iff]
  cases blank : isBlank signature.selector.name with
  | true =>
      rw [resolve_of_blank blank]
      simp [SetupError.blankName, eq_comm]
  | false =>
      rw [resolve_of_named blank]
      cases signature.capability.method? signature.selector with
      | none => simp [eq_comm]
      | some method => simp

theorem not_sound_iff (signature : Signature) :
    ¬signature.Sound ↔ ∃ error, signature.resolve = .error error := by
  rw [← resolves_iff_sound]
  cases signature.resolve with
  | ok method => simp
  | error error => simp

end Signature

namespace Registry

theorem add_of_resolved (registry : Registry) {signature : Signature} {method : Method}
    (resolved : signature.resolve = .ok method) :
    registry.add signature = .ok (registry.insert signature.capability method) := by
  rw [add, resolved]
  rfl

theorem add_of_refused (registry : Registry) {signature : Signature} {error : SetupError}
    (refused : signature.resolve = .error error) : registry.add signature = .error error := by
  rw [add, refused]
  rfl

theorem foldlM_add_of_sound {signatures : List Signature}
    (sound : ∀ signature ∈ signatures, signature.Sound) (registry : Registry) :
    ∃ result, signatures.foldlM add registry = .ok result := by
  induction signatures generalizing registry with
  | nil => exact ⟨registry, rfl⟩
  | cons head rest ih =>
      obtain ⟨method, resolved⟩ := head.resolves_iff_sound.mpr (sound head List.mem_cons_self)
      have later : ∀ signature ∈ rest, signature.Sound :=
        fun signature member => sound signature (List.mem_cons_of_mem head member)
      obtain ⟨result, built⟩ := ih later (registry.insert head.capability method)
      refine ⟨result, ?_⟩
      rw [List.foldlM_cons, registry.add_of_resolved resolved]
      exact built

theorem ofSignatures_of_first_refused {before : List Signature} {bad : Signature}
    {error : SetupError} (sound : ∀ signature ∈ before, signature.Sound)
    (refused : bad.resolve = .error error) (after : List Signature) :
    ofSignatures (before ++ bad :: after) = .error error := by
  obtain ⟨registry, built⟩ := foldlM_add_of_sound sound empty
  rw [ofSignatures, List.foldlM_append, built]
  change (bad :: after).foldlM add registry = .error error
  rw [List.foldlM_cons, registry.add_of_refused refused]
  rfl

theorem ofSignatures_eq_ok_iff (signatures : List Signature) :
    (∃ registry, ofSignatures signatures = .ok registry) ↔
      ∀ signature ∈ signatures, signature.Sound := by
  constructor
  · rintro ⟨registry, built⟩ signature member
    exact signature.resolves_iff_sound.mp (resolves_of_ofSignatures built member)
  · intro sound
    exact foldlM_add_of_sound sound empty

private theorem sound_or_first_refused (signatures : List Signature) :
    (∀ signature ∈ signatures, signature.Sound) ∨
      ∃ before bad after error, signatures = before ++ bad :: after ∧
        (∀ signature ∈ before, signature.Sound) ∧ bad.resolve = .error error := by
  cases found : signatures.find? (fun signature => !decide signature.Sound) with
  | none =>
      refine Or.inl (fun signature member => ?_)
      simpa using List.find?_eq_none.mp found signature member
  | some bad =>
      obtain ⟨unsound, before, after, shape, earlier⟩ := List.find?_eq_some_iff_append.mp found
      obtain ⟨error, refused⟩ := bad.not_sound_iff.mp (by simpa using unsound)
      refine Or.inr ⟨before, bad, after, error, shape, ?_, refused⟩
      intro signature member
      simpa using earlier signature member

theorem ofSignatures_eq_error_iff (signatures : List Signature) (error : SetupError) :
    ofSignatures signatures = .error error ↔
      ∃ before bad after, signatures = before ++ bad :: after ∧
        (∀ signature ∈ before, signature.Sound) ∧ bad.resolve = .error error := by
  constructor
  · intro failed
    rcases sound_or_first_refused signatures with
      sound | ⟨before, bad, after, other, shape, sound, refused⟩
    · obtain ⟨registry, built⟩ := (ofSignatures_eq_ok_iff signatures).mpr sound
      cases built.symm.trans failed
    · have decided := ofSignatures_of_first_refused sound refused after
      rw [← shape, failed, Except.error.injEq] at decided
      exact ⟨before, bad, after, shape, sound, decided ▸ refused⟩
  · rintro ⟨before, bad, after, rfl, sound, refused⟩
    exact ofSignatures_of_first_refused sound refused after

theorem build_eq_ofSignatures (signatures : List Signature) (workshop : Workshop) :
    (build signatures workshop).1 = ofSignatures signatures := by
  unfold build
  cases ofSignatures signatures with
  | error error => rfl
  | ok registry => rfl

/-- A registry is built exactly when all signatures are sound. Otherwise the error is the
one of the first signature that is not, whatever comes after that signature. -/
theorem build_accepts (signatures : List Signature) (workshop : Workshop) :
    ((∃ registry, (build signatures workshop).1 = .ok registry) ↔
      ∀ signature ∈ signatures, signature.Sound) ∧
    (∀ error, (build signatures workshop).1 = .error error ↔
      ∃ before bad after, signatures = before ++ bad :: after ∧
        (∀ signature ∈ before, signature.Sound) ∧ bad.RefusedWith error) ∧
    (∀ before bad, (∀ signature ∈ before, signature.Sound) → ¬bad.Sound →
      ∃ error, bad.RefusedWith error ∧
        ∀ after, (build (before ++ bad :: after) workshop).1 = .error error) := by
  simp only [build_eq_ofSignatures, ← Signature.resolve_eq_error_iff]
  refine ⟨ofSignatures_eq_ok_iff signatures, ofSignatures_eq_error_iff signatures, ?_⟩
  intro before bad sound unsound
  obtain ⟨error, refused⟩ := bad.not_sound_iff.mp unsound
  exact ⟨error, refused, ofSignatures_of_first_refused sound refused⟩

/-- A blank name is malformed although the capability declares it. -/
example :
    let capability := (Capability.named "Greeter").declaring ⟨" \t", []⟩
    ofSignatures [⟨capability, ⟨" \t", []⟩⟩, ⟨capability, ⟨"shout", []⟩⟩] =
      .error (.malformed "Greeter" "method name is empty") := by
  rfl

end Registry

end Interception
