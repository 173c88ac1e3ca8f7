/-
The first capability of each name. What `distinct` keeps is a sublist with the same
names, each of them once, and a condition that reads nothing but names can be
applied before it or after.
-/

import Interception.Capability
import Mathlib.Data.List.Nodup

namespace Interception.Capability

/-- The capabilities whose names are not among those seen, each name once. -/
def unseen (seen : List String) : List Capability → List Capability
  | [] => []
  | capability :: rest =>
      if capability.name ∈ seen then unseen seen rest
      else capability :: unseen (seen ++ [capability.name]) rest

theorem elem_iff_name_mem (capability : Capability) (capabilities : List Capability) :
    capabilities.elem capability = true ↔ capability.name ∈ names capabilities := by
  induction capabilities with
  | nil => simp [names]
  | cons head rest ih =>
      have byName : (capability == head) = (capability.name == head.name) := rfl
      rw [List.elem_cons, names, List.map_cons, List.mem_cons, ← names, ← ih, byName]
      cases decided : capability.name == head.name with
      | true => simp [eq_of_beq decided]
      | false => simp [ne_of_beq_false decided]

theorem foldl_eq_append_unseen (capabilities kept : List Capability) :
    capabilities.foldl (fun kept next => if kept.elem next then kept else kept ++ [next]) kept =
      kept ++ unseen (names kept) capabilities := by
  induction capabilities generalizing kept with
  | nil => simp [unseen]
  | cons head rest ih =>
      rw [List.foldl_cons, unseen]
      by_cases present : head.name ∈ names kept
      · rw [if_pos ((elem_iff_name_mem head kept).mpr present), if_pos present]
        exact ih kept
      · rw [if_neg (fun found => present ((elem_iff_name_mem head kept).mp found)),
          if_neg present, ih, names, List.map_append, List.append_assoc]
        rfl

theorem distinct_eq_unseen (capabilities : List Capability) :
    distinct capabilities = unseen [] capabilities :=
  foldl_eq_append_unseen capabilities []

private theorem unseen_sublist (seen : List String) (capabilities : List Capability) :
    (unseen seen capabilities).Sublist capabilities := by
  induction capabilities generalizing seen with
  | nil => exact List.Sublist.slnil
  | cons head rest ih =>
      rw [unseen]
      split
      · exact (ih seen).cons head
      · exact (ih _).cons_cons head

theorem distinct_sublist (capabilities : List Capability) :
    (distinct capabilities).Sublist capabilities := by
  rw [distinct_eq_unseen]
  exact unseen_sublist [] capabilities

private theorem name_mem_unseen (name : String) (seen : List String)
    (capabilities : List Capability) :
    name ∈ names (unseen seen capabilities) ↔ name ∈ names capabilities ∧ name ∉ seen := by
  induction capabilities generalizing seen with
  | nil => simp [unseen, names]
  | cons head rest ih =>
      rw [unseen]
      by_cases present : head.name ∈ seen
      · rw [if_pos present, ih]
        simp only [names, List.map_cons, List.mem_cons]
        constructor
        · rintro ⟨later, absent⟩
          exact ⟨Or.inr later, absent⟩
        · rintro ⟨same | later, absent⟩
          · exact absurd (same ▸ present) absent
          · exact ⟨later, absent⟩
      · rw [if_neg present]
        simp only [names, List.map_cons, List.mem_cons] at ih ⊢
        rw [ih]
        simp only [List.mem_append, List.mem_singleton, not_or]
        constructor
        · rintro (same | ⟨later, absent, _⟩)
          · exact ⟨Or.inl same, same ▸ present⟩
          · exact ⟨Or.inr later, absent⟩
        · rintro ⟨same | later, absent⟩
          · exact Or.inl same
          · by_cases same : name = head.name
            · exact Or.inl same
            · exact Or.inr ⟨later, absent, same⟩

theorem name_mem_distinct (name : String) (capabilities : List Capability) :
    name ∈ names (distinct capabilities) ↔ name ∈ names capabilities := by
  rw [distinct_eq_unseen, name_mem_unseen]
  simp

private theorem unseen_nodup (seen : List String) (capabilities : List Capability) :
    (names (unseen seen capabilities)).Nodup := by
  induction capabilities generalizing seen with
  | nil => exact List.nodup_nil
  | cons head rest ih =>
      rw [unseen]
      split
      · exact ih seen
      · rw [names, List.map_cons, ← names, List.nodup_cons, name_mem_unseen]
        exact ⟨fun repeated => repeated.2 (by simp), ih _⟩

theorem distinct_nodup (capabilities : List Capability) :
    (names (distinct capabilities)).Nodup := by
  rw [distinct_eq_unseen]
  exact unseen_nodup [] capabilities

private theorem unseen_eq_self {seen : List String} {capabilities : List Capability}
    (nodup : (names capabilities).Nodup) (absent : ∀ name ∈ names capabilities, name ∉ seen) :
    unseen seen capabilities = capabilities := by
  induction capabilities generalizing seen with
  | nil => rfl
  | cons head rest ih =>
      obtain ⟨first, later⟩ := List.nodup_cons.mp nodup
      rw [unseen, if_neg (absent head.name List.mem_cons_self)]
      congr 1
      apply ih later
      intro name member inSeen
      rcases List.mem_append.mp inSeen with before | same
      · exact absent name (List.mem_cons_of_mem _ member) before
      · exact first (List.mem_singleton.mp same ▸ member)

theorem distinct_eq_self {capabilities : List Capability} (nodup : (names capabilities).Nodup) :
    distinct capabilities = capabilities := by
  rw [distinct_eq_unseen]
  exact unseen_eq_self nodup (fun _ _ => List.not_mem_nil)

/- The two lists of seen names differ by the names of capabilities that the condition
refuses: the right side meets those and the left side does not. -/
private theorem unseen_filter {keep : Capability → Bool}
    (byName : ∀ left right : Capability, left.name = right.name → keep left = keep right)
    (capabilities : List Capability) (seen seenToo : List String)
    (agree : ∀ capability, keep capability = true →
      (capability.name ∈ seen ↔ capability.name ∈ seenToo)) :
    unseen seen (capabilities.filter keep) = (unseen seenToo capabilities).filter keep := by
  induction capabilities generalizing seen seenToo with
  | nil => rfl
  | cons head rest ih =>
      by_cases kept : keep head = true
      · rw [List.filter_cons_of_pos kept, unseen, unseen]
        by_cases present : head.name ∈ seen
        · rw [if_pos present, if_pos ((agree head kept).mp present)]
          exact ih seen seenToo agree
        · rw [if_neg present, if_neg (fun found => present ((agree head kept).mpr found)),
            List.filter_cons_of_pos kept]
          congr 1
          apply ih
          intro capability accepted
          rw [List.mem_append, List.mem_append, agree capability accepted]
      · rw [List.filter_cons_of_neg kept, unseen]
        split
        · exact ih seen seenToo agree
        · rw [List.filter_cons_of_neg kept]
          apply ih
          intro capability accepted
          have other : capability.name ≠ head.name :=
            fun same => kept ((byName capability head same).symm.trans accepted)
          rw [List.mem_append, List.mem_singleton, agree capability accepted]
          simp [other]

private theorem find?_unseen (name : String) (capabilities : List Capability)
    {seen : List String} (absent : name ∉ seen) :
    (unseen seen capabilities).find? (fun capability => capability.name == name) =
      capabilities.find? (fun capability => capability.name == name) := by
  induction capabilities generalizing seen with
  | nil => rfl
  | cons head rest ih =>
      rw [unseen]
      cases here : head.name == name with
      | true =>
          have unmet : head.name ∉ seen := (eq_of_beq here).symm ▸ absent
          rw [if_neg unmet, List.find?_cons, List.find?_cons, here]
      | false =>
          have other : name ≠ head.name := (ne_of_beq_false here).symm
          split
          · rw [ih absent, List.find?_cons, here]
          · have later : name ∉ seen ++ [head.name] := by simp [absent, other]
            rw [List.find?_cons, List.find?_cons, here]
            exact ih later

/-- The capability that is kept for a name is the first one of that name. -/
theorem find?_distinct (name : String) (capabilities : List Capability) :
    (distinct capabilities).find? (fun capability => capability.name == name) =
      capabilities.find? (fun capability => capability.name == name) := by
  rw [distinct_eq_unseen]
  exact find?_unseen name capabilities List.not_mem_nil

/-- The capabilities that are kept are the first ones of their names. -/
theorem find?_of_mem_distinct {capability : Capability} {capabilities : List Capability}
    (kept : capability ∈ distinct capabilities) :
    capabilities.find? (fun other => other.name == capability.name) = some capability := by
  rw [← find?_distinct]
  cases found : (distinct capabilities).find? (fun other => other.name == capability.name) with
  | none =>
      have missed := List.find?_eq_none.mp found capability kept
      exact absurd (beq_self_eq_true capability.name) missed
  | some first =>
      have member : first ∈ distinct capabilities := List.mem_of_find?_eq_some found
      have same := List.find?_some found
      rw [List.inj_on_of_nodup_map (distinct_nodup capabilities) member kept (eq_of_beq same)]

/-- The position of the first capability of a name. -/
def place (name : String) (capabilities : List Capability) : Nat :=
  capabilities.findIdx (fun capability => capability.name == name)

theorem place_cons_self (head : Capability) (rest : List Capability) :
    place head.name (head :: rest) = 0 := by
  rw [place, List.findIdx_cons, beq_self_eq_true]
  rfl

theorem place_cons_of_ne {name : String} {head : Capability} (other : head.name ≠ name)
    (rest : List Capability) : place name (head :: rest) = place name rest + 1 := by
  rw [place, List.findIdx_cons, beq_eq_false_iff_ne.mpr other]
  rfl

private theorem unseen_pairwise (seen : List String) (capabilities : List Capability) :
    (unseen seen capabilities).Pairwise (fun left right =>
      place left.name capabilities < place right.name capabilities) := by
  induction capabilities generalizing seen with
  | nil => exact List.Pairwise.nil
  | cons head rest ih =>
      -- What is kept of the rest has other names than the head, so its places move up by one.
      have moved : ∀ {later : List String}, head.name ∈ later →
          ∀ capability ∈ unseen later rest,
            place capability.name (head :: rest) = place capability.name rest + 1 := by
        intro later passed capability member
        have named : capability.name ∈ names (unseen later rest) := List.mem_map_of_mem member
        apply place_cons_of_ne
        intro same
        exact ((name_mem_unseen capability.name later rest).mp named).2 (same ▸ passed)
      have tail : ∀ {later : List String}, head.name ∈ later →
          (unseen later rest).Pairwise (fun left right =>
            place left.name (head :: rest) < place right.name (head :: rest)) := by
        intro later passed
        apply (ih later).imp_of_mem
        intro left right leftMember rightMember before
        rw [moved passed left leftMember, moved passed right rightMember]
        exact Nat.succ_lt_succ before
      rw [unseen]
      by_cases present : head.name ∈ seen
      · rw [if_pos present]
        exact tail present
      · have passed : head.name ∈ seen ++ [head.name] := by simp
        rw [if_neg present, List.pairwise_cons]
        refine ⟨?_, tail passed⟩
        intro capability member
        rw [place_cons_self, moved passed capability member]
        exact Nat.succ_pos _

/-- The capabilities that are kept stand in the order of their first places. -/
theorem distinct_pairwise (capabilities : List Capability) :
    (distinct capabilities).Pairwise (fun left right =>
      place left.name capabilities < place right.name capabilities) := by
  rw [distinct_eq_unseen]
  exact unseen_pairwise [] capabilities

theorem distinct_concat (capabilities : List Capability) (last : Capability) :
    distinct (capabilities ++ [last]) =
      if (distinct capabilities).elem last then distinct capabilities
      else distinct capabilities ++ [last] := by
  rw [distinct, List.foldl_append]
  rfl

theorem distinct_filter {keep : Capability → Bool}
    (byName : ∀ left right : Capability, left.name = right.name → keep left = keep right)
    (capabilities : List Capability) :
    distinct (capabilities.filter keep) = (distinct capabilities).filter keep := by
  rw [distinct_eq_unseen, distinct_eq_unseen]
  exact unseen_filter byName capabilities [] [] (fun _ _ => Iff.rfl)

end Interception.Capability
