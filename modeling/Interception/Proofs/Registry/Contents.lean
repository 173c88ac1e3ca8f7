/-
What a registry holds. An insertion changes the entry of one name and keeps the key
that stood there; so a registry built from signatures has the names that they give,
and under each name the methods that they resolve to.
-/

import Interception.Registry
import Mathlib.Data.List.Induction

namespace Interception

def RegistryEntry.adding (entry : RegistryEntry) (method : Method) : RegistryEntry :=
  if method ∈ entry.methods then entry else ⟨entry.key, entry.methods ++ [method]⟩

theorem RegistryEntry.mem_adding (entry : RegistryEntry) (method other : Method) :
    other ∈ (entry.adding method).methods ↔ other = method ∨ other ∈ entry.methods := by
  unfold adding
  split
  · rename_i present
    constructor
    · exact Or.inr
    · rintro (same | held)
      · exact same ▸ present
      · exact held
  · rw [List.mem_append, List.mem_singleton, or_comm]

theorem RegistryEntry.adding_of_mem {entry : RegistryEntry} {method : Method}
    (present : method ∈ entry.methods) : entry.adding method = entry := by
  rw [adding, if_pos present]

theorem RegistryEntry.length_adding_of_not_mem {entry : RegistryEntry} {method : Method}
    (absent : method ∉ entry.methods) :
    (entry.adding method).methods.length = entry.methods.length + 1 := by
  rw [adding, if_neg absent, List.length_append, List.length_singleton]

theorem RegistryEntry.key_adding (entry : RegistryEntry) (method : Method) :
    (entry.adding method).key = entry.key := by
  unfold adding
  split <;> rfl

namespace Registry

/-- A method stands under a name. -/
def Holds (registry : Registry) (name : String) (method : Method) : Prop :=
  ∃ entry, registry.entry? name = some entry ∧ method ∈ entry.methods

def HasName (registry : Registry) (name : String) : Prop :=
  (registry.entry? name).isSome = true

theorem hasKey_iff (registry : Registry) (capability : Capability) :
    registry.hasKey capability = true ↔ registry.HasName capability.name :=
  Iff.rfl

theorem hasKey_congr (registry : Registry) (left right : Capability)
    (same : left.name = right.name) : registry.hasKey left = registry.hasKey right := by
  rw [hasKey, hasKey, same]

theorem intercepts_iff (registry : Registry) (method : Method) :
    registry.intercepts method = true ↔ registry.Holds method.declaring method := by
  unfold intercepts Holds
  cases registry.entry? method.declaring with
  | none => simp
  | some entry => simp

/-! ### Insertion -/

theorem insertEntry_cons (key : Capability) (method : Method) (head : RegistryEntry)
    (rest : List RegistryEntry) :
    insertEntry key method (head :: rest) =
      if head.key.name = key.name then head.adding method :: rest
      else head :: insertEntry key method rest := by
  have byName : (head.key == key) = (head.key.name == key.name) := rfl
  rw [insertEntry, byName]
  by_cases here : head.key.name = key.name
  · rw [if_pos (beq_iff_eq.mpr here), if_pos here]
    unfold RegistryEntry.adding
    split <;> rfl
  · rw [if_neg (fun equal => here (eq_of_beq equal)), if_neg here]

private theorem find?_insertEntry (key : Capability) (method : Method) (name : String)
    (entries : List RegistryEntry) :
    (insertEntry key method entries).find? (fun entry => entry.key.name == name) =
      if key.name = name then
        some ((entries.find? (fun entry => entry.key.name == name)).elim ⟨key, [method]⟩
          (·.adding method))
      else entries.find? (fun entry => entry.key.name == name) := by
  induction entries with
  | nil =>
      by_cases same : key.name = name
      · simp [insertEntry, same]
      · simp [insertEntry, same]
  | cons head rest ih =>
      rw [insertEntry_cons]
      by_cases here : head.key.name = key.name
      · rw [if_pos here, List.find?_cons, List.find?_cons, RegistryEntry.key_adding, here]
        by_cases same : key.name = name
        · simp [same]
        · rw [beq_eq_false_iff_ne.mpr same, if_neg same]
      · rw [if_neg here, List.find?_cons, List.find?_cons, ih]
        by_cases found : head.key.name = name
        · have other : key.name ≠ name := fun same => here (found.trans same.symm)
          simp [found, other]
        · have missed : (head.key.name == name) = false := beq_eq_false_iff_ne.mpr found
          rw [missed]

theorem entry_insert (registry : Registry) (key : Capability) (method : Method)
    (name : String) :
    entry? (registry.insert key method) name =
      if key.name = name then
        some ((registry.entry? name).elim ⟨key, [method]⟩ (·.adding method))
      else registry.entry? name :=
  find?_insertEntry key method name registry.entries

theorem hasName_insert (registry : Registry) (key : Capability) (method : Method)
    (name : String) :
    (registry.insert key method).HasName name ↔ registry.HasName name ∨ key.name = name := by
  unfold HasName
  rw [entry_insert]
  by_cases same : key.name = name
  · simp [same]
  · simp [same]

theorem holds_insert (registry : Registry) (key : Capability) (method : Method)
    (name : String) (other : Method) :
    (registry.insert key method).Holds name other ↔
      registry.Holds name other ∨ key.name = name ∧ method = other := by
  unfold Holds
  rw [entry_insert]
  by_cases same : key.name = name
  · rw [if_pos same]
    cases registry.entry? name with
    | none => simp [same, eq_comm]
    | some entry => simp [same, RegistryEntry.mem_adding, or_comm, eq_comm]
  · simp [same]

/-! ### Building, one signature after another -/

private theorem ofSignatures_concat (before : List Signature) (last : Signature) :
    ofSignatures (before ++ [last]) =
      (ofSignatures before).bind (fun registry => registry.add last) := by
  rw [ofSignatures, List.foldlM_append]
  change (ofSignatures before).bind (fun registry => [last].foldlM add registry) = _
  cases ofSignatures before with
  | error error => rfl
  | ok registry =>
      change [last].foldlM add registry = registry.add last
      rw [List.foldlM_cons]
      cases registry.add last with
      | error error => rfl
      | ok result => rfl

/-- What holds of the empty registry, and still holds when one more signature is filed,
holds of every built registry. -/
theorem ofSignatures_induction {motive : List Signature → Registry → Prop}
    (base : motive [] empty)
    (step : ∀ before registry last method, ofSignatures before = .ok registry →
      last.resolve = .ok method → motive before registry →
      motive (before ++ [last]) (registry.insert last.capability method))
    {signatures : List Signature} {registry : Registry}
    (built : ofSignatures signatures = .ok registry) : motive signatures registry := by
  induction signatures using List.reverseRecOn generalizing registry with
  | nil =>
      cases built
      exact base
  | append_singleton before last ih =>
      rw [ofSignatures_concat] at built
      cases earlier : ofSignatures before with
      | error error =>
          rw [earlier] at built
          cases built
      | ok filed =>
          rw [earlier] at built
          change filed.add last = .ok registry at built
          cases resolved : last.resolve with
          | error error =>
              rw [add, resolved] at built
              cases built
          | ok method =>
              rw [add, resolved] at built
              cases built
              exact step before filed last method earlier resolved (ih earlier)

variable {signatures : List Signature} {registry : Registry}

theorem resolves_of_ofSignatures (built : ofSignatures signatures = .ok registry)
    {signature : Signature} (member : signature ∈ signatures) :
    ∃ method, signature.resolve = .ok method := by
  refine ofSignatures_induction (motive := fun signatures _ =>
    ∀ signature ∈ signatures, ∃ method, signature.resolve = .ok method) ?_ ?_ built
    signature member
  · intro signature impossible
    cases impossible
  · intro before _registry last method _built resolved ih signature member
    rcases List.mem_append.mp member with earlier | single
    · exact ih signature earlier
    · exact ⟨method, List.mem_singleton.mp single ▸ resolved⟩

theorem hasName_iff_of_ofSignatures (built : ofSignatures signatures = .ok registry)
    (name : String) :
    registry.HasName name ↔ ∃ signature ∈ signatures, signature.capability.name = name := by
  refine ofSignatures_induction (motive := fun signatures registry =>
    registry.HasName name ↔ ∃ signature ∈ signatures, signature.capability.name = name)
    ?_ ?_ built
  · simp [HasName, entry?, empty]
  · intro before registry last method _built _resolved ih
    rw [hasName_insert, ih]
    simp only [List.mem_append, List.mem_singleton, or_and_right, exists_or, exists_eq_left]

theorem holds_iff_of_ofSignatures (built : ofSignatures signatures = .ok registry)
    (name : String) (method : Method) :
    registry.Holds name method ↔
      ∃ signature ∈ signatures,
        signature.capability.name = name ∧ signature.resolve = .ok method := by
  refine ofSignatures_induction (motive := fun signatures registry =>
    registry.Holds name method ↔ ∃ signature ∈ signatures,
      signature.capability.name = name ∧ signature.resolve = .ok method) ?_ ?_ built
  · simp [Holds, entry?, empty]
  · intro before registry last found _built resolved ih
    rw [holds_insert, ih]
    simp only [List.mem_append, List.mem_singleton, or_and_right, exists_or, exists_eq_left,
      resolved, Except.ok.injEq]

/-- A built registry intercepts a method when some signature names the capability that
declares it and resolves to it. -/
theorem intercepts_iff_of_ofSignatures (built : ofSignatures signatures = .ok registry)
    (method : Method) :
    registry.intercepts method = true ↔
      ∃ signature ∈ signatures,
        signature.capability.name = method.declaring ∧ signature.resolve = .ok method := by
  rw [intercepts_iff, holds_iff_of_ofSignatures built]

end Registry

end Interception
