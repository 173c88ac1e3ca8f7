/-
What settings hold. Settings are known by what they answer for each name. Written from
pairs in any of three ways, they hold the last value that is given for a name, so they do
not depend on how pairs for different names are mixed. Written as an object and read
again, they are the same settings.
-/

import Interception.Settings
import Mathlib.Data.Finset.Card
import Mathlib.Data.List.Induction

namespace Interception

/-! ### Fields in order -/

namespace Fields

variable {α : Type} {fields : List (String × α)}

theorem names_nodup (ordered : Ordered fields) : (names fields).Nodup := by
  rw [names, List.nodup_iff_pairwise_ne, List.pairwise_map]
  apply List.Pairwise.imp ?_ ordered
  intro earlier later before same
  exact String.lt_irrefl _ (same ▸ before)

theorem find?_eq_some_iff (ordered : Ordered fields) (name : String) (value : α) :
    find? name fields = some value ↔ (name, value) ∈ fields := by
  induction fields with
  | nil => simp [find?]
  | cons head rest ih =>
      obtain ⟨key, held⟩ := head
      obtain ⟨first, tail⟩ := List.pairwise_cons.mp ordered
      rw [find?, List.mem_cons, Prod.mk.injEq]
      by_cases here : key = name
      · -- The names that follow are greater, so the pair cannot come again.
        have absent : (name, value) ∉ rest := by
          intro member
          exact String.lt_irrefl name (here ▸ first (name, value) member)
        simp [here, absent, eq_comm]
      · rw [if_neg here, ih tail]
        simp [Ne.symm here]

theorem find?_eq_none_iff (name : String) :
    find? name fields = none ↔ name ∉ names fields := by
  induction fields with
  | nil => simp [find?, names]
  | cons head rest ih =>
      obtain ⟨key, held⟩ := head
      rw [find?, names, List.map_cons, List.mem_cons, ← names]
      by_cases here : key = name
      · simp [here]
      · rw [if_neg here, ih]
        simp [Ne.symm here]

/-- Ordered fields are known by what they hold for each name. -/
theorem eq_of_find?_eq {left right : List (String × α)} (orderedLeft : Ordered left)
    (orderedRight : Ordered right) (same : ∀ name, find? name left = find? name right) :
    left = right := by
  have members : ∀ pair, pair ∈ left ↔ pair ∈ right := by
    rintro ⟨name, value⟩
    rw [← find?_eq_some_iff orderedLeft, ← find?_eq_some_iff orderedRight, same]
  have rearranged : left.Perm right :=
    (List.perm_ext_iff_of_nodup (names_nodup orderedLeft).of_map
      (names_nodup orderedRight).of_map).mpr members
  apply List.Perm.eq_of_pairwise ?_ orderedLeft orderedRight rearranged
  intro earlier later _ _ before after
  exact absurd (String.lt_trans before after) (String.lt_irrefl _)

/-- A name beyond all others goes to the end. -/
theorem insert_of_last {name : String} (value : α) (last : ∀ pair ∈ fields, pair.1 < name) :
    insert name value fields = fields ++ [(name, value)] := by
  induction fields with
  | nil => rfl
  | cons head rest ih =>
      obtain ⟨key, held⟩ := head
      obtain ⟨before, later⟩ := List.forall_mem_cons.mp last
      have other : key ≠ name := fun same => String.lt_irrefl name (same ▸ before)
      have notAfter : ¬name < key :=
        fun after => String.lt_irrefl key (String.lt_trans before after)
      rw [insert, if_neg other, if_neg notAfter, ih later, List.cons_append]

theorem ofPairs_concat (pairs : List (String × α)) (pair : String × α) :
    ofPairs (pairs ++ [pair]) = insert pair.1 pair.2 (ofPairs pairs) := by
  rw [ofPairs, List.foldl_append]
  rfl

theorem ofPairs_eq_self (ordered : Ordered fields) : ofPairs fields = fields := by
  induction fields using List.reverseRecOn with
  | nil => rfl
  | append_singleton earlier pair ih =>
      obtain ⟨front, _, before⟩ := List.pairwise_append.mp ordered
      rw [ofPairs_concat, ih front]
      apply insert_of_last
      intro other member
      exact before other member pair List.mem_cons_self

end Fields

theorem Value.beqFields_self {fields : List (String × Value)}
    (reflexive : ∀ pair ∈ fields, (pair.2 == pair.2) = true) : beqFields fields fields = true := by
  induction fields with
  | nil => rfl
  | cons head rest ih =>
      obtain ⟨first, later⟩ := List.forall_mem_cons.mp reflexive
      have same : beq head.2 head.2 = true := first
      rw [beqFields, same, ih later, beq_self_eq_true]
      rfl

namespace Settings

theorem eq_of_find?_eq {left right : Settings}
    (same : ∀ key, left.find? key = right.find? key) : left = right := by
  obtain ⟨fields, ordered⟩ := left
  obtain ⟨others, orderedToo⟩ := right
  have equal : fields = others := Fields.eq_of_find?_eq ordered orderedToo same
  subst equal
  rfl

/-- Equal settings compare as equal, unless they hold a value that differs from itself, as a
number that is not one does. -/
theorem beq_self {settings : Settings}
    (reflexive : ∀ key value, settings.find? key = some value → (value == value) = true) :
    (settings == settings) = true := by
  apply Value.beqFields_self
  rintro ⟨key, value⟩ member
  exact reflexive key value ((Fields.find?_eq_some_iff settings.ordered key value).mpr member)

/-! ### Three ways to write pairs -/

/-- Puts pairs in one after another. -/
def putAll (settings : Settings) (pairs : List (String × Value)) : Settings :=
  pairs.foldl (fun settings pair => settings.put pair.1 pair.2) settings

/-- Inserts pairs one after another and keeps what each insertion answered. -/
def insertAll (settings : Settings) : List (String × Value) → List (Option Value) × Settings
  | [] => ([], settings)
  | pair :: rest =>
      let (previous, next) := settings.insert pair.1 pair.2
      let (answers, last) := next.insertAll rest
      (previous :: answers, last)

theorem putAll_concat (settings : Settings) (pairs : List (String × Value))
    (pair : String × Value) :
    settings.putAll (pairs ++ [pair]) = (settings.putAll pairs).put pair.1 pair.2 := by
  rw [putAll, List.foldl_append]
  rfl

theorem insertAll_settings (settings : Settings) (pairs : List (String × Value)) :
    (settings.insertAll pairs).2 = settings.putAll pairs := by
  induction pairs generalizing settings with
  | nil => rfl
  | cons pair rest ih => exact ih (settings.put pair.1 pair.2)

/-- An insertion answers what was held for the name just before. -/
theorem insertAll_answer (settings : Settings) (before after : List (String × Value))
    (pair : String × Value) :
    (settings.insertAll (before ++ pair :: after)).1[before.length]? =
      some ((settings.putAll before).find? pair.1) := by
  induction before generalizing settings with
  | nil => rfl
  | cons first rest ih => exact ih (settings.put first.1 first.2)

theorem ofPairs_eq_putAll (pairs : List (String × Value)) : ofPairs pairs = empty.putAll pairs := by
  induction pairs using List.reverseRecOn with
  | nil => rfl
  | append_singleton earlier pair ih =>
      rw [putAll_concat, ← ih]
      simp only [ofPairs, put, Fields.ofPairs_concat]

/-! ### The last value for a name -/

/-- The value of the last pair for a name. -/
def lastFor? (key : String) (pairs : List (String × Value)) : Option Value :=
  ((pairs.filter (fun pair => pair.1 == key)).getLast?).map Prod.snd

theorem lastFor?_concat (key : String) (pairs : List (String × Value)) (pair : String × Value) :
    lastFor? key (pairs ++ [pair]) = if pair.1 = key then some pair.2 else lastFor? key pairs := by
  rw [lastFor?, List.filter_append]
  by_cases here : pair.1 = key
  · simp [here]
  · simp [here, lastFor?]

theorem find?_putAll (settings : Settings) (pairs : List (String × Value)) (key : String) :
    (settings.putAll pairs).find? key = (lastFor? key pairs).or (settings.find? key) := by
  induction pairs using List.reverseRecOn with
  | nil => rfl
  | append_singleton earlier pair ih =>
      rw [putAll_concat, find?_put, lastFor?_concat, ih]
      split
      · rfl
      · rfl

theorem find?_ofPairs (pairs : List (String × Value)) (key : String) :
    (ofPairs pairs).find? key = lastFor? key pairs := by
  rw [ofPairs_eq_putAll, find?_putAll]
  exact Option.or_none

theorem lastFor?_eq_some_iff (key : String) (value : Value) (pairs : List (String × Value)) :
    lastFor? key pairs = some value ↔
      ∃ before after, pairs = before ++ (key, value) :: after ∧ ∀ pair ∈ after, pair.1 ≠ key := by
  constructor
  · intro found
    induction pairs using List.reverseRecOn with
    | nil => cases found
    | append_singleton earlier pair ih =>
        rw [lastFor?_concat] at found
        split at found
        · next here =>
          refine ⟨earlier, [], ?_, fun _ impossible => nomatch impossible⟩
          rw [← here, ← Option.some.inj found]
        · next other =>
          obtain ⟨before, after, rfl, absent⟩ := ih found
          refine ⟨before, after ++ [pair], by simp, ?_⟩
          intro late member
          rcases List.mem_append.mp member with inside | last
          · exact absent late inside
          · exact List.mem_singleton.mp last ▸ other
  · rintro ⟨before, after, rfl, absent⟩
    have none : after.filter (fun pair => pair.1 == key) = [] := by
      rw [List.filter_eq_nil_iff]
      intro pair member same
      exact absent pair member (eq_of_beq same)
    rw [lastFor?, List.filter_append, List.filter_cons, none]
    simp

theorem lastFor?_eq_none_iff (key : String) (pairs : List (String × Value)) :
    lastFor? key pairs = none ↔ key ∉ pairs.map Prod.fst := by
  rw [lastFor?, Option.map_eq_none_iff, List.getLast?_eq_none_iff, List.filter_eq_nil_iff,
    List.mem_map]
  simp only [beq_iff_eq, not_exists, not_and]

theorem size_ofPairs (pairs : List (String × Value)) :
    (ofPairs pairs).size = (pairs.map Prod.fst).toFinset.card := by
  have names : (Fields.names (ofPairs pairs).fields).toFinset = (pairs.map Prod.fst).toFinset := by
    ext key
    have none_iff : (ofPairs pairs).find? key = none ↔ key ∉ pairs.map Prod.fst := by
      rw [find?_ofPairs, lastFor?_eq_none_iff]
    have absent := (Fields.find?_eq_none_iff key).symm.trans none_iff
    rw [List.mem_toFinset, List.mem_toFinset]
    exact not_iff_not.mp absent
  rw [← names, List.toFinset_card_of_nodup (Fields.names_nodup (ofPairs pairs).ordered)]
  exact (List.length_map Prod.fst).symm

theorem isEmpty_ofPairs (pairs : List (String × Value)) :
    (ofPairs pairs).isEmpty = true ↔ pairs = [] := by
  have counted : (ofPairs pairs).isEmpty = true ↔ (ofPairs pairs).size = 0 := by
    rw [isEmpty, List.isEmpty_iff, size, List.length_eq_zero_iff]
  rw [counted, size_ofPairs, Finset.card_eq_zero, List.toFinset_eq_empty_iff, List.map_eq_nil_iff]

/-- Pairs for different names may be mixed in any way. -/
theorem ofPairs_eq_of_same_order {pairs others : List (String × Value)}
    (same : ∀ key, others.filter (fun pair => pair.1 == key) =
      pairs.filter (fun pair => pair.1 == key)) : ofPairs others = ofPairs pairs := by
  apply eq_of_find?_eq
  intro key
  rw [find?_ofPairs, find?_ofPairs, lastFor?, lastFor?, same]

/-! ### Settings as an object -/

theorem read_write (settings : Settings) :
    (read (write settings) : Except Misfit Settings) = .ok settings := by
  have same : ofPairs settings.fields = settings := by
    apply eq_of_find?_eq
    intro key
    exact congrArg (Fields.find? key) (Fields.ofPairs_eq_self settings.ordered)
  exact congrArg Except.ok same

theorem reads_iff (value : Value) :
    (∃ settings, (read value : Except Misfit Settings) = .ok settings) ↔
      ∃ fields, value = .object fields := by
  constructor
  · rintro ⟨settings, reads⟩
    cases value with
    | object fields => exact ⟨fields, rfl⟩
    | null => cases reads
    | boolean truth => cases reads
    | number number => cases reads
    | string text => cases reads
    | array items => cases reads
  · rintro ⟨fields, rfl⟩
    exact ⟨ofPairs fields, rfl⟩

/-! ### All about pairs -/

/-- For each name the value of its last pair is held, and nothing else. -/
structure HoldsLast (settings : Settings) (pairs : List (String × Value)) : Prop where
  found : ∀ key value, settings.find? key = some value ↔
    ∃ before after, pairs = before ++ (key, value) :: after ∧ ∀ pair ∈ after, pair.1 ≠ key
  missing : ∀ key, settings.find? key = none ↔ key ∉ pairs.map Prod.fst
  size : settings.size = (pairs.map Prod.fst).toFinset.card
  isEmpty : settings.isEmpty = true ↔ pairs = []

theorem ofPairs_holdsLast (pairs : List (String × Value)) : (ofPairs pairs).HoldsLast pairs where
  found key value := by rw [find?_ofPairs, lastFor?_eq_some_iff]
  missing key := by rw [find?_ofPairs, lastFor?_eq_none_iff]
  size := size_ofPairs pairs
  isEmpty := isEmpty_ofPairs pairs

/-- Made of pairs at once, by putting them in or by inserting them one after another, settings
are the same and hold the last value for each name. An insertion answers what was held for
its name just before, and changes what is held for that name only. Pairs in another order,
but in the same one for each name, make the same settings. Settings are written as an object
of the pairs that they hold, which reads back as the same settings; nothing but an object is
read as settings. Settings that are the same also compare as equal, if each value that they
hold equals itself. -/
theorem pairs_determine_settings (pairs : List (String × Value)) :
    (ofPairs pairs).HoldsLast pairs ∧
    empty.putAll pairs = ofPairs pairs ∧
    (empty.insertAll pairs).2 = ofPairs pairs ∧
    (∀ before pair after, pairs = before ++ pair :: after →
      (empty.insertAll pairs).1[before.length]? = some ((ofPairs before).find? pair.1)) ∧
    (∀ (settings : Settings) (key : String) (value : Value),
      (settings.insert key value).1 = settings.find? key ∧
      (settings.insert key value).2.find? key = some value ∧
      ∀ other, other ≠ key → (settings.insert key value).2.find? other = settings.find? other) ∧
    (∀ others, (∀ key, others.filter (fun pair => pair.1 == key) =
        pairs.filter (fun pair => pair.1 == key)) → ofPairs others = ofPairs pairs) ∧
    (∀ settings : Settings, ∃ fields, write settings = .object fields ∧
      (∀ key value, (key, value) ∈ fields ↔ settings.find? key = some value) ∧
      (read (.object fields) : Except Misfit Settings) = .ok settings) ∧
    (∀ value, (∃ settings, (read value : Except Misfit Settings) = .ok settings) ↔
      ∃ fields, value = .object fields) ∧
    ∀ settings : Settings,
      (∀ key value, settings.find? key = some value → (value == value) = true) →
        (settings == settings) = true := by
  refine ⟨ofPairs_holdsLast pairs, (ofPairs_eq_putAll pairs).symm, ?_, ?_, ?_, ?_, ?_,
    reads_iff, ?_⟩
  · rw [insertAll_settings, ofPairs_eq_putAll]
  · rintro before pair after rfl
    rw [insertAll_answer, ofPairs_eq_putAll]
  · intro settings key value
    refine ⟨rfl, ?_, ?_⟩
    · exact (settings.find?_put key key value).trans (if_pos rfl)
    · intro other different
      exact (settings.find?_put key other value).trans (if_neg different.symm)
  · intro others same
    exact ofPairs_eq_of_same_order same
  · intro settings
    refine ⟨settings.fields, rfl, ?_, settings.read_write⟩
    intro key value
    exact (Fields.find?_eq_some_iff settings.ordered key value).symm
  · intro settings reflexive
    exact beq_self reflexive

/-- The second value for the port stays, and the first is the answer to its insertion. -/
example :
    let pairs := [("port", Value.integer 80), ("host", .string "here"), ("port", .null)]
    (ofPairs pairs).fields = [("host", .string "here"), ("port", .null)] ∧
      (empty.insertAll pairs).1 = [none, none, some (.integer 80)] :=
  ⟨rfl, rfl⟩

end Settings

end Interception
