/-
Fields: a finite map from names to values, kept as a list in increasing order of
the names, each name once. Writing to a name replaces what it held.
-/

namespace Interception.Fields

variable {α : Type}

def names (fields : List (String × α)) : List String :=
  fields.map Prod.fst

def Ordered (fields : List (String × α)) : Prop :=
  fields.Pairwise (fun earlier later => earlier.1 < later.1)

def find? (name : String) : List (String × α) → Option α
  | [] => none
  | (key, value) :: rest => if key = name then some value else find? name rest

def insert (name : String) (value : α) : List (String × α) → List (String × α)
  | [] => [(name, value)]
  | (key, held) :: rest =>
      if key = name then (name, value) :: rest
      else if name < key then (name, value) :: (key, held) :: rest
      else (key, held) :: insert name value rest

/-- The map that pairs describe; a later pair for the same name wins. -/
def ofPairs (pairs : List (String × α)) : List (String × α) :=
  pairs.foldl (fun fields pair => insert pair.1 pair.2 fields) []

theorem find?_insert (name other : String) (value : α) (fields : List (String × α)) :
    find? other (insert name value fields) =
      if name = other then some value else find? other fields := by
  induction fields with
  | nil => simp [insert, find?]
  | cons head rest ih =>
      obtain ⟨key, held⟩ := head
      simp only [insert]
      by_cases same : key = name
      · rw [if_pos same]
        subst same
        by_cases here : key = other
        · simp [find?, here]
        · simp [find?, here]
      · rw [if_neg same]
        by_cases before : name < key
        · rw [if_pos before, find?]
        · rw [if_neg before, find?, ih]
          by_cases here : name = other
          · subst here
            simp [same]
          · simp [here, find?]

theorem mem_insert {name : String} {value : α} {fields : List (String × α)} {pair : String × α}
    (member : pair ∈ insert name value fields) : pair = (name, value) ∨ pair ∈ fields := by
  induction fields with
  | nil => simpa [insert] using member
  | cons head rest ih =>
      obtain ⟨key, held⟩ := head
      simp only [insert] at member
      split at member
      · rcases List.mem_cons.mp member with same | later
        · exact Or.inl same
        · exact Or.inr (List.mem_cons_of_mem _ later)
      · split at member
        · rcases List.mem_cons.mp member with same | later
          · exact Or.inl same
          · exact Or.inr later
        · rcases List.mem_cons.mp member with same | later
          · exact Or.inr (same ▸ List.mem_cons_self)
          · rcases ih later with same | earlier
            · exact Or.inl same
            · exact Or.inr (List.mem_cons_of_mem _ earlier)

theorem ordered_insert {fields : List (String × α)} (ordered : Ordered fields)
    (name : String) (value : α) : Ordered (insert name value fields) := by
  induction fields with
  | nil => exact List.pairwise_singleton _ _
  | cons head rest ih =>
      obtain ⟨key, held⟩ := head
      obtain ⟨first, tail⟩ := List.pairwise_cons.mp ordered
      simp only [insert]
      split
      · next same =>
        subst same
        exact List.pairwise_cons.mpr ⟨first, tail⟩
      · next different =>
        split
        · next before =>
          refine List.pairwise_cons.mpr ⟨?_, ordered⟩
          intro pair member
          rcases List.mem_cons.mp member with same | later
          · rw [same]; exact before
          · exact String.lt_trans before (first pair later)
        · next after =>
          refine List.pairwise_cons.mpr ⟨?_, ih tail⟩
          intro pair member
          rcases mem_insert member with same | later
          · rw [same]
            exact Decidable.byContradiction (fun notLess =>
              different (String.le_antisymm (String.not_lt.mp after) (String.not_lt.mp notLess)))
          · exact first pair later

theorem ordered_foldl_insert (pairs : List (String × α)) {fields : List (String × α)}
    (ordered : Ordered fields) :
    Ordered (pairs.foldl (fun fields pair => insert pair.1 pair.2 fields) fields) := by
  induction pairs generalizing fields with
  | nil => exact ordered
  | cons head rest ih => exact ih (ordered_insert ordered head.1 head.2)

theorem ordered_ofPairs (pairs : List (String × α)) : Ordered (ofPairs pairs) :=
  ordered_foldl_insert pairs List.Pairwise.nil

end Interception.Fields
