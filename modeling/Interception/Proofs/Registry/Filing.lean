/-
What is filed in a registry. Filing a pair again changes nothing, and a new pair makes
the registry larger by one; a key is added only for a new name. So a registry that is
built from signatures has as many methods as there are pairs of a name and a method,
and its keys are the first handles of the names, in their order.
-/

import Interception.Proofs.Capability.Distinct
import Interception.Proofs.Registry.Contents
import Mathlib.Data.Finset.Card

namespace Interception

open Capability (distinct names)

/-- The name under which each signature is filed, with the method it resolves to. -/
def Signature.filings (signatures : List Signature) : List (String × Method) :=
  signatures.filterMap (fun signature =>
    signature.resolve.toOption.map (fun method => (signature.capability.name, method)))

theorem Signature.mem_filings (signatures : List Signature) (name : String) (method : Method) :
    (name, method) ∈ filings signatures ↔
      ∃ signature ∈ signatures,
        signature.capability.name = name ∧ signature.resolve = .ok method := by
  rw [filings, List.mem_filterMap]
  apply exists_congr
  intro signature
  apply and_congr_right
  intro _member
  cases signature.resolve with
  | error error => simp [Except.toOption]
  | ok found => simp [Except.toOption]

theorem Signature.filings_append (left right : List Signature) :
    filings (left ++ right) = filings left ++ filings right :=
  List.filterMap_append

theorem RegistryEntry.nodup_adding (entry : RegistryEntry) (method : Method)
    (nodup : entry.methods.Nodup) : (entry.adding method).methods.Nodup := by
  unfold adding
  split
  · exact nodup
  · rename_i absent
    exact List.nodup_append.mpr ⟨nodup, List.nodup_singleton method,
      fun one member other single same =>
        absent (List.mem_singleton.mp single ▸ same ▸ member)⟩

namespace Registry

/-! ### One insertion -/

private theorem holds_cons (head : RegistryEntry) (rest : List RegistryEntry) (name : String)
    (method : Method) :
    (⟨head :: rest⟩ : Registry).Holds name method ↔
      if head.key.name = name then method ∈ head.methods
      else (⟨rest⟩ : Registry).Holds name method := by
  unfold Holds entry?
  rw [List.find?_cons]
  by_cases here : head.key.name = name
  · rw [if_pos here, beq_iff_eq.mpr here]
    simp
  · rw [if_neg here, beq_eq_false_iff_ne.mpr here]

private theorem insertEntry_of_present {key : Capability} {method : Method}
    {entries : List RegistryEntry}
    (present : (⟨entries⟩ : Registry).Holds key.name method) :
    insertEntry key method entries = entries := by
  induction entries with
  | nil =>
      obtain ⟨entry, found, _held⟩ := present
      cases found
  | cons head rest ih =>
      rw [holds_cons] at present
      rw [insertEntry_cons]
      by_cases here : head.key.name = key.name
      · rw [if_pos here] at present ⊢
        rw [RegistryEntry.adding_of_mem present]
      · rw [if_neg here] at present ⊢
        rw [ih present]

theorem insert_of_holds {registry : Registry} {key : Capability} {method : Method}
    (held : registry.Holds key.name method) : registry.insert key method = registry := by
  cases registry with
  | mk entries => rw [insert, insertEntry_of_present held]

private theorem foldl_lengths (entries : List RegistryEntry) (start : Nat) :
    entries.foldl (fun total entry => total + entry.methods.length) start =
      start + (entries.flatMap RegistryEntry.methods).length := by
  induction entries generalizing start with
  | nil => rfl
  | cons head rest ih =>
      rw [List.foldl_cons, ih, List.flatMap_cons, List.length_append]
      omega

theorem size_eq_length (registry : Registry) :
    registry.size = (registry.entries.flatMap RegistryEntry.methods).length := by
  rw [size, foldl_lengths, Nat.zero_add]

private theorem length_insertEntry_of_absent {key : Capability} {method : Method}
    {entries : List RegistryEntry}
    (absent : ¬(⟨entries⟩ : Registry).Holds key.name method) :
    ((insertEntry key method entries).flatMap RegistryEntry.methods).length =
      (entries.flatMap RegistryEntry.methods).length + 1 := by
  induction entries with
  | nil => rfl
  | cons head rest ih =>
      rw [holds_cons] at absent
      rw [insertEntry_cons, List.flatMap_cons, List.length_append]
      by_cases here : head.key.name = key.name
      · rw [if_pos here] at absent ⊢
        have grown := RegistryEntry.length_adding_of_not_mem absent
        rw [List.flatMap_cons, List.length_append, grown]
        omega
      · rw [if_neg here] at absent ⊢
        have grown := ih absent
        rw [List.flatMap_cons, List.length_append, grown]
        omega

theorem size_insert_of_not_holds {registry : Registry} {key : Capability} {method : Method}
    (absent : ¬registry.Holds key.name method) :
    (registry.insert key method).size = registry.size + 1 := by
  rw [size_eq_length, size_eq_length]
  exact length_insertEntry_of_absent absent

private theorem keys_insertEntry (key : Capability) (method : Method)
    (entries : List RegistryEntry) :
    (insertEntry key method entries).map RegistryEntry.key =
      if key.name ∈ names (entries.map RegistryEntry.key) then entries.map RegistryEntry.key
      else entries.map RegistryEntry.key ++ [key] := by
  induction entries with
  | nil => rfl
  | cons head rest ih =>
      have among : key.name ∈ names ((head :: rest).map RegistryEntry.key) ↔
          key.name = head.key.name ∨ key.name ∈ names (rest.map RegistryEntry.key) :=
        List.mem_cons
      rw [insertEntry_cons]
      by_cases here : head.key.name = key.name
      · rw [if_pos here, if_pos (among.mpr (Or.inl here.symm)), List.map_cons, List.map_cons,
          RegistryEntry.key_adding]
      · rw [if_neg here, List.map_cons, ih]
        by_cases later : key.name ∈ names (rest.map RegistryEntry.key)
        · rw [if_pos later, if_pos (among.mpr (Or.inr later)), List.map_cons]
        · have new : ¬(key.name = head.key.name ∨ key.name ∈ names (rest.map RegistryEntry.key)) :=
            not_or.mpr ⟨fun same => here same.symm, later⟩
          rw [if_neg later, if_neg (fun present => new (among.mp present)), List.map_cons]
          rfl

/-- A key is added at the end unless its name is a key already. -/
theorem keys_insert (registry : Registry) (key : Capability) (method : Method) :
    (registry.insert key method).keys =
      if registry.keys.elem key then registry.keys else registry.keys ++ [key] := by
  have inserted : (registry.insert key method).keys =
      if key.name ∈ names registry.keys then registry.keys else registry.keys ++ [key] :=
    keys_insertEntry key method registry.entries
  rw [inserted]
  simp only [Capability.elem_iff_name_mem]

/-! ### Building -/

variable {signatures : List Signature} {registry : Registry}

/-- Under every name that is a key there are methods, each once. -/
theorem entry_of_ofSignatures (built : ofSignatures signatures = .ok registry) {name : String}
    {entry : RegistryEntry} (found : registry.entry? name = some entry) :
    entry.methods ≠ [] ∧ entry.methods.Nodup := by
  refine ofSignatures_induction (motive := fun _ registry => ∀ name entry,
    registry.entry? name = some entry → entry.methods ≠ [] ∧ entry.methods.Nodup) ?_ ?_ built
    name entry found
  · intro name entry impossible
    cases impossible
  · intro before sofar signature method _built _resolved ih name entry found
    rw [entry_insert] at found
    split at found
    · cases earlier : sofar.entry? name with
      | none =>
          rw [earlier, Option.some.injEq] at found
          subst found
          exact ⟨List.cons_ne_nil method [], List.nodup_singleton method⟩
      | some old =>
          rw [earlier, Option.some.injEq] at found
          subst found
          exact ⟨List.ne_nil_of_mem ((old.mem_adding method method).mpr (Or.inl rfl)),
            old.nodup_adding method (ih name old earlier).2⟩
    · exact ih name entry found

theorem keys_of_ofSignatures (built : ofSignatures signatures = .ok registry) :
    registry.keys = distinct (signatures.map Signature.capability) := by
  refine ofSignatures_induction (motive := fun signatures registry =>
    registry.keys = distinct (signatures.map Signature.capability)) rfl ?_ built
  intro before sofar signature method _built _resolved ih
  rw [keys_insert, ih, List.map_append, List.map_singleton, Capability.distinct_concat]

theorem key_of_ofSignatures (built : ofSignatures signatures = .ok registry) (name : String) :
    (registry.entry? name).map RegistryEntry.key =
      (signatures.find? (fun signature => signature.capability.name == name)).map
        Signature.capability := by
  have keyed : (registry.entry? name).map RegistryEntry.key =
      registry.keys.find? (fun capability => capability.name == name) := by
    rw [keys, List.find?_map]
    rfl
  rw [keyed, keys_of_ofSignatures built, Capability.find?_distinct, List.find?_map]
  rfl

theorem size_of_ofSignatures (built : ofSignatures signatures = .ok registry) :
    registry.size = (Signature.filings signatures).toFinset.card := by
  refine ofSignatures_induction (motive := fun signatures registry =>
    registry.size = (Signature.filings signatures).toFinset.card) rfl ?_ built
  intro before sofar signature method earlier resolved ih
  have filed : Signature.filings (before ++ [signature]) =
      Signature.filings before ++ [(signature.capability.name, method)] := by
    rw [Signature.filings_append]
    simp [Signature.filings, resolved, Except.toOption]
  have grown : (Signature.filings (before ++ [signature])).toFinset =
      Insert.insert (signature.capability.name, method) (Signature.filings before).toFinset := by
    rw [filed, List.toFinset_append, Finset.union_comm]
    rfl
  have held_iff : sofar.Holds signature.capability.name method ↔
      (signature.capability.name, method) ∈ (Signature.filings before).toFinset := by
    rw [holds_iff_of_ofSignatures earlier, List.mem_toFinset, Signature.mem_filings]
  rw [grown]
  -- A pair that is filed already changes neither the size nor the set.
  by_cases held : sofar.Holds signature.capability.name method
  · rw [insert_of_holds held, ih, Finset.insert_eq_of_mem (held_iff.mp held)]
  · rw [size_insert_of_not_holds held, ih,
      Finset.card_insert_of_notMem (fun member => held (held_iff.mpr member))]

end Registry

end Interception
