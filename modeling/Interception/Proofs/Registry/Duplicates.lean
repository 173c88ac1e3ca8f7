/-
Repeated signatures. Two signatures count as equal by the names that they give, while each
is resolved by its own handle. A repeated signature that resolves as the earlier one did
changes nothing. One that does not may be refused, or may add a method under the key; what
else it may do to the outcome is said exactly, for lists that are taken and for lists that
are refused.
-/

import Interception.Proofs.Registry.Answers

namespace Interception

theorem Signature.beq_iff (left right : Signature) :
    (left == right) = true ↔
      left.capability.name = right.capability.name ∧ left.selector = right.selector := by
  have parts : (left == right) =
      (left.capability.name == right.capability.name && left.selector == right.selector) := rfl
  rw [parts, Bool.and_eq_true, beq_iff_eq, beq_iff_eq]

theorem Signature.eq_of_beq_of_capability {left right : Signature}
    (same : (left == right) = true) (handle : left.capability = right.capability) :
    left = right := by
  obtain ⟨_name, selector⟩ := (left.beq_iff right).mp same
  cases left
  cases right
  cases handle
  cases selector
  rfl

namespace Registry

/-! ### Lists in two parts -/

theorem ofSignatures_append_of_built {before : List Signature} {registry : Registry}
    (built : ofSignatures before = .ok registry) (after : List Signature) :
    ofSignatures (before ++ after) = after.foldlM add registry := by
  rw [ofSignatures] at built
  rw [ofSignatures, List.foldlM_append, built]
  rfl

theorem ofSignatures_append_of_refused {before : List Signature} {error : SetupError}
    (refused : ofSignatures before = .error error) (after : List Signature) :
    ofSignatures (before ++ after) = .error error := by
  rw [ofSignatures] at refused
  rw [ofSignatures, List.foldlM_append, refused]
  rfl

/-- What is filed already does not matter to a refusal. -/
theorem foldlM_add_of_refused {signatures : List Signature} {registry : Registry}
    {error : SetupError} (refused : signatures.foldlM add registry = .error error)
    (other : Registry) : signatures.foldlM add other = .error error := by
  induction signatures generalizing registry other with
  | nil => cases refused
  | cons head rest ih =>
      rw [List.foldlM_cons] at refused ⊢
      cases resolved : head.resolve with
      | error own =>
          rw [add_of_refused _ resolved] at refused ⊢
          exact refused
      | ok method =>
          rw [add_of_resolved _ resolved] at refused ⊢
          exact ih refused _

/-! ### One signature more -/

variable {before after : List Signature} {again : Signature}

/-- A signature that files what is filed already changes nothing at all. -/
theorem ofSignatures_insert_of_holds {registry : Registry} {method : Method}
    (built : ofSignatures before = .ok registry) (resolved : again.resolve = .ok method)
    (held : registry.Holds again.capability.name method) :
    ofSignatures (before ++ again :: after) = ofSignatures (before ++ after) := by
  rw [ofSignatures_append_of_built built, ofSignatures_append_of_built built, List.foldlM_cons,
    add_of_resolved _ resolved, insert_of_holds held]
  rfl

theorem ofSignatures_repeat {first : Signature} (member : first ∈ before)
    (same : (again == first) = true)
    (alike : ∀ method, first.resolve = .ok method → again.resolve = .ok method) :
    ofSignatures (before ++ again :: after) = ofSignatures (before ++ after) := by
  obtain ⟨name, _selector⟩ := (again.beq_iff first).mp same
  cases built : ofSignatures before with
  | error error =>
      rw [ofSignatures_append_of_refused built, ofSignatures_append_of_refused built]
  | ok registry =>
      obtain ⟨method, resolved⟩ := resolves_of_ofSignatures built member
      have held : registry.Holds again.capability.name method :=
        (holds_iff_of_ofSignatures built _ _).mpr ⟨first, member, name.symm, resolved⟩
      exact ofSignatures_insert_of_holds built (alike method resolved) held

theorem SameAnswers.holds {left right : Registry} (same : left.SameAnswers right)
    {name : String} {method : Method} (held : right.Holds name method) :
    left.Holds name method := by
  obtain ⟨entry, found, member⟩ := held
  have sets := same.methods (Capability.named name)
  have rightSet : right.methodSet? (Capability.named name) = some entry.methods.toFinset :=
    congrArg (fun found => (found.map RegistryEntry.methods).map List.toFinset) found
  cases leftFound : left.entry? name with
  | none =>
      have nothing : left.methodSet? (Capability.named name) = none :=
        congrArg (fun found => (found.map RegistryEntry.methods).map List.toFinset) leftFound
      rw [nothing, rightSet] at sets
      cases sets
  | some other =>
      have leftSet : left.methodSet? (Capability.named name) = some other.methods.toFinset :=
        congrArg (fun found => (found.map RegistryEntry.methods).map List.toFinset) leftFound
      rw [leftSet, rightSet, Option.some.injEq] at sets
      refine ⟨other, leftFound, ?_⟩
      rw [← List.mem_toFinset, sets, List.mem_toFinset]
      exact member

/-- One more signature in a list that is taken leaves the answers alone exactly when it files
what another signature files. -/
theorem sameAnswers_insert_iff {registry : Registry}
    (built : ofSignatures (before ++ after) = .ok registry) :
    (∃ other, ofSignatures (before ++ again :: after) = .ok other ∧
        registry.SameAnswers other) ↔
      ∃ signature ∈ before ++ after, signature.capability.name = again.capability.name ∧
        ∃ method, signature.resolve = .ok method ∧ again.resolve = .ok method := by
  have among (signature : Signature) : signature ∈ before ++ again :: after ↔
      signature = again ∨ signature ∈ before ++ after := by
    simp only [List.mem_append, List.mem_cons]
    exact or_left_comm
  constructor
  · rintro ⟨other, builtOther, same⟩
    have member : again ∈ before ++ again :: after := (among again).mpr (Or.inl rfl)
    obtain ⟨method, resolved⟩ := resolves_of_ofSignatures builtOther member
    have held : other.Holds again.capability.name method :=
      (holds_iff_of_ofSignatures builtOther _ _).mpr ⟨again, member, rfl, resolved⟩
    obtain ⟨signature, old, name, resolvedOld⟩ :=
      (holds_iff_of_ofSignatures built _ _).mp (same.holds held)
    exact ⟨signature, old, name, method, resolvedOld, resolved⟩
  · rintro ⟨signature, old, name, method, resolvedOld, resolved⟩
    have sound := (ofSignatures_eq_ok_iff _).mp ⟨registry, built⟩
    obtain ⟨other, builtOther⟩ := (ofSignatures_eq_ok_iff (before ++ again :: after)).mpr (by
      intro next member
      rcases (among next).mp member with rfl | earlier
      · exact next.resolves_iff_sound.mp ⟨method, resolved⟩
      · exact sound next earlier)
    refine ⟨other, builtOther, sameAnswers_of_same_filings built builtOther ?_⟩
    rintro ⟨key, filed⟩
    simp only [Signature.mem_filings, among, or_and_right, exists_or, exists_eq_left]
    constructor
    · exact Or.inr
    · rintro (⟨rfl, own⟩ | earlier)
      · rw [resolved] at own
        exact ⟨signature, old, name, resolvedOld.trans own⟩
      · exact earlier

/-- One more signature in a list that is refused leaves the refusal alone exactly when it
stands behind it, resolves, or is refused with the same error. -/
theorem refused_insert_iff {error : SetupError}
    (refused : ofSignatures (before ++ after) = .error error) :
    ofSignatures (before ++ again :: after) = .error error ↔
      (∃ earlier, ofSignatures before = .error earlier) ∨
        (∃ method, again.resolve = .ok method) ∨ again.resolve = .error error := by
  cases built : ofSignatures before with
  | error earlier =>
      rw [ofSignatures_append_of_refused built] at refused ⊢
      exact iff_of_true refused (Or.inl ⟨earlier, rfl⟩)
  | ok registry =>
      rw [ofSignatures_append_of_built built] at refused ⊢
      rw [List.foldlM_cons]
      cases resolved : again.resolve with
      | error own =>
          rw [add_of_refused _ resolved]
          change Except.error own = .error error ↔ _
          simp
      | ok method =>
          rw [add_of_resolved _ resolved]
          exact iff_of_true (foldlM_add_of_refused refused _) (Or.inr (Or.inl ⟨method, rfl⟩))

/-- A list of signatures, and the same list with one of them repeated, somewhere after its
first occurrence and perhaps by another handle. If the repeated signature resolves to what
the first one resolves to, as it does by the same handle, the outcome is the very same:
the same error, or the same registry. In general, a list that is taken keeps its answers
exactly when the repeated signature files what some signature of the list files; and a list
that is refused keeps its error exactly when the part before the repetition is refused
already, or the repeated signature resolves, or it is refused with that error too. -/
theorem ofSignatures_repeated {before : List Signature} {first again : Signature}
    (member : first ∈ before) (same : (again == first) = true) (after : List Signature) :
    ((∀ method, first.resolve = .ok method → again.resolve = .ok method) →
      ofSignatures (before ++ again :: after) = ofSignatures (before ++ after)) ∧
    (again.capability = first.capability →
      ofSignatures (before ++ again :: after) = ofSignatures (before ++ after)) ∧
    (∀ registry, ofSignatures (before ++ after) = .ok registry →
      ((∃ other, ofSignatures (before ++ again :: after) = .ok other ∧
          registry.SameAnswers other) ↔
        ∃ signature ∈ before ++ after, signature.capability.name = again.capability.name ∧
          ∃ method, signature.resolve = .ok method ∧ again.resolve = .ok method)) ∧
    ∀ error, ofSignatures (before ++ after) = .error error →
      (ofSignatures (before ++ again :: after) = .error error ↔
        (∃ earlier, ofSignatures before = .error earlier) ∨
          (∃ method, again.resolve = .ok method) ∨ again.resolve = .error error) := by
  refine ⟨ofSignatures_repeat member same, ?_, ?_, ?_⟩
  · intro handle
    have equal := Signature.eq_of_beq_of_capability same handle
    exact ofSignatures_repeat member same (fun _ resolved => equal ▸ resolved)
  · intro registry built
    exact sameAnswers_insert_iff built
  · intro error refused
    exact refused_insert_iff refused

namespace Streams

open Capability.Streams

/-- Another handle of the name of the channel, which inherits closing as that one does. -/
def duct : Capability :=
  (Capability.named "Channel").extending closeable

/-- A handle that declares nothing. -/
def hollow : Capability :=
  Capability.named "Closeable"

end Streams

open Streams Capability.Streams in
/-- The list holds two handles of the channel that resolve differently; a third handle that
resolves like the first changes nothing. -/
theorem ofSignatures_repeated_streams :
    closing channel ∈ [closing channel, closing pipe] ∧
    (closing duct == closing channel) = true ∧
    ofSignatures ([closing channel, closing pipe] ++ closing duct :: [closing closeable]) =
      ofSignatures ([closing channel, closing pipe] ++ [closing closeable]) := by
  have member : closing channel ∈ [closing channel, closing pipe] := List.mem_cons_self
  have same : (closing duct == closing channel) = true := rfl
  have repeated := ofSignatures_repeated member same [closing closeable]
  exact ⟨member, same, repeated.1 (fun _ resolved => resolved)⟩

open Streams Capability.Streams in
/-- Equal signatures, by a handle that declares nothing and by one that declares what the
other inherits: the first makes the list refused, the second adds a method. -/
theorem ofSignatures_not_idempotent :
    (closing hollow == closing closeable) = true ∧
    (∃ registry, ofSignatures [closing closeable] = .ok registry) ∧
    ofSignatures [closing closeable, closing hollow] =
      .error (.unresolved "Closeable" ⟨"close", []⟩) ∧
    (closing pipe == closing channel) = true ∧
    ∃ once twice, ofSignatures [closing channel] = .ok once ∧
      ofSignatures [closing channel, closing pipe] = .ok twice ∧
      once.size = 1 ∧ twice.size = 2 :=
  ⟨rfl, ⟨_, rfl⟩, rfl, rfl, _, _, rfl, rfl, rfl, rfl⟩

end Registry

end Interception
