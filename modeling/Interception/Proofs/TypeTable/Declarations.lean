/-
Declaring again what is declared already. Type tables and capabilities are made by a series of
declarations, in which one may be repeated: a table compares capabilities by their names, a
capability compares whole methods. Either keeps the first declaration of each, in the order
in which they came. So a lookup finds every method where it is declared, and a layer that is
made for the capabilities that a type resolves to shows all of them, in their order.
-/

import Interception.Proofs.Capability.Lookup
import Interception.Proofs.TypeTable.Resolved
import Mathlib.Data.List.Induction

namespace Interception

/-! ### The first of each -/

/-- What is kept of the items that are given: the first for every key, in the order in which
the keys come first. -/
structure KeepsFirst {α κ : Type} [DecidableEq κ] (key : α → κ) (given kept : List α) : Prop where
  distinct : (kept.map key).Nodup
  complete : ∀ item ∈ given, key item ∈ kept.map key
  first : ∀ item ∈ kept, given.find? (fun other => key other == key item) = some item
  ordered : (kept.map key).Pairwise (fun earlier later =>
    (given.map key).idxOf earlier < (given.map key).idxOf later)

namespace KeepsFirst

variable {α κ : Type} [DecidableEq κ] {key : α → κ} {given kept : List α} {item : α}

theorem nil : KeepsFirst key [] [] where
  distinct := List.nodup_nil
  complete _ impossible := nomatch impossible
  first _ impossible := nomatch impossible
  ordered := List.Pairwise.nil

theorem key_mem_given (keeps : KeepsFirst key given kept) {wanted : κ}
    (member : wanted ∈ kept.map key) : wanted ∈ given.map key := by
  obtain ⟨old, inside, rfl⟩ := List.mem_map.mp member
  exact List.mem_map_of_mem (List.mem_of_find?_eq_some (keeps.first old inside))

theorem first_concat (keeps : KeepsFirst key given kept) {old : α} (member : old ∈ kept) :
    (given ++ [item]).find? (fun other => key other == key old) = some old := by
  rw [List.find?_append, keeps.first old member, Option.some_or]

/-- One more item moves no key that came before. -/
theorem ordered_concat (keeps : KeepsFirst key given kept) :
    (kept.map key).Pairwise (fun earlier later =>
      ((given ++ [item]).map key).idxOf earlier < ((given ++ [item]).map key).idxOf later) := by
  apply keeps.ordered.imp_of_mem
  intro earlier later earlierMember laterMember before
  rw [List.map_append, List.idxOf_append_of_mem (keeps.key_mem_given earlierMember),
    List.idxOf_append_of_mem (keeps.key_mem_given laterMember)]
  exact before

theorem skip (keeps : KeepsFirst key given kept) (present : key item ∈ kept.map key) :
    KeepsFirst key (given ++ [item]) kept where
  distinct := keeps.distinct
  complete := by
    intro other member
    rcases List.mem_append.mp member with old | last
    · exact keeps.complete other old
    · exact List.mem_singleton.mp last ▸ present
  first _ member := keeps.first_concat member
  ordered := keeps.ordered_concat

theorem add (keeps : KeepsFirst key given kept) (fresh : key item ∉ kept.map key) :
    KeepsFirst key (given ++ [item]) (kept ++ [item]) := by
  have ungiven : key item ∉ given.map key := by
    intro member
    obtain ⟨other, inside, same⟩ := List.mem_map.mp member
    exact fresh (same ▸ keeps.complete other inside)
  refine ⟨?_, ?_, ?_, ?_⟩
  · rw [List.map_append, List.nodup_append]
    refine ⟨keeps.distinct, List.nodup_singleton _, ?_⟩
    intro old member last isLast same
    exact fresh (List.mem_singleton.mp isLast ▸ same ▸ member)
  · intro other member
    rw [List.map_append, List.mem_append]
    rcases List.mem_append.mp member with old | last
    · exact Or.inl (keeps.complete other old)
    · exact Or.inr (List.mem_map_of_mem last)
  · intro other member
    rcases List.mem_append.mp member with old | last
    · exact keeps.first_concat old
    · obtain rfl := List.mem_singleton.mp last
      have missed : given.find? (fun old => key old == key other) = none := by
        rw [List.find?_eq_none]
        intro old member same
        exact ungiven (List.mem_map.mpr ⟨old, member, eq_of_beq same⟩)
      rw [List.find?_append, missed, Option.none_or, List.find?_cons, beq_self_eq_true]
  · have keys : (kept ++ [item]).map key = kept.map key ++ [key item] := List.map_append
    rw [keys, List.pairwise_append]
    refine ⟨keeps.ordered_concat, List.pairwise_singleton _ _, ?_⟩
    intro old member last isLast
    obtain rfl := List.mem_singleton.mp isLast
    have inside := keeps.key_mem_given member
    rw [List.map_append, List.idxOf_append_of_mem inside, List.idxOf_append_of_notMem ungiven]
    exact Nat.lt_add_right _ (List.idxOf_lt_length_of_mem inside)

end KeepsFirst

/-- A last item that gives nothing adds nothing. -/
theorem filterMap_concat_of_none {α β : Type} {f : α → Option β} {last : α}
    (nothing : f last = none) (items : List α) :
    (items ++ [last]).filterMap f = items.filterMap f := by
  simp [nothing]

/-! ### Type tables -/

namespace TypeTable

inductive Clause where
  | declare (capability : Capability)
  | extend (parent : TypeTable)

def clause (table : TypeTable) : Clause → TypeTable
  | .declare capability => table.withInterface capability
  | .extend parent => table.withParent parent

def ofClauses (name : String) (clauses : List Clause) : TypeTable :=
  clauses.foldl clause (named name)

def Clause.declared? : Clause → Option Capability
  | .declare capability => some capability
  | .extend _ => none

theorem ofClauses_concat (name : String) (clauses : List Clause) (last : Clause) :
    ofClauses name (clauses ++ [last]) = (ofClauses name clauses).clause last := by
  rw [ofClauses, List.foldl_append]
  rfl

theorem keepsFirst_withInterface {given : List Capability} {table : TypeTable}
    (keeps : KeepsFirst Capability.name given table.interfaces) (capability : Capability) :
    KeepsFirst Capability.name (given ++ [capability])
      (table.withInterface capability).interfaces := by
  have present_iff := Capability.elem_iff_name_mem capability table.interfaces
  unfold withInterface
  split
  · next present => exact keeps.skip (present_iff.mp present)
  · next absent => exact keeps.add (fun member => absent (present_iff.mpr member))

theorem interfaces_ofClauses (name : String) (clauses : List Clause) :
    KeepsFirst Capability.name (clauses.filterMap Clause.declared?)
      (ofClauses name clauses).interfaces := by
  induction clauses using List.reverseRecOn with
  | nil => exact KeepsFirst.nil
  | append_singleton earlier last ih =>
      rw [ofClauses_concat]
      cases last with
      | declare capability =>
          rw [List.filterMap_append]
          exact keepsFirst_withInterface ih capability
      | extend parent =>
          rw [filterMap_concat_of_none rfl]
          exact ih

end TypeTable

/-! ### Capabilities -/

namespace Capability

def Clause.declared? (name : String) : Clause → Option Method
  | .extend _ => none
  | .declare selector => some ⟨name, selector⟩

def Clause.extended? : Clause → Option Capability
  | .extend super => some super
  | .declare _ => none

theorem ofClauses_concat (name : String) (clauses : List Clause) (last : Clause) :
    ofClauses name (clauses ++ [last]) = (ofClauses name clauses).clause last := by
  rw [ofClauses, List.foldl_append]
  rfl

theorem name_declaring (capability : Capability) (selector : Selector) :
    (capability.declaring selector).name = capability.name := by
  unfold declaring
  split
  · rfl
  · rfl

theorem supers_declaring (capability : Capability) (selector : Selector) :
    (capability.declaring selector).supers = capability.supers := by
  unfold declaring
  split
  · rfl
  · rfl

theorem name_ofClauses (name : String) (clauses : List Clause) :
    (ofClauses name clauses).name = name := by
  induction clauses using List.reverseRecOn with
  | nil => rfl
  | append_singleton earlier last ih =>
      rw [ofClauses_concat]
      cases last with
      | extend super => exact ih
      | declare selector => exact (name_declaring _ selector).trans ih

theorem supers_ofClauses (name : String) (clauses : List Clause) :
    (ofClauses name clauses).supers = clauses.filterMap Clause.extended? := by
  induction clauses using List.reverseRecOn with
  | nil => rfl
  | append_singleton earlier last ih =>
      rw [ofClauses_concat]
      cases last with
      | extend super =>
          rw [List.filterMap_append, ← ih]
          rfl
      | declare selector =>
          rw [filterMap_concat_of_none rfl, ← ih]
          exact supers_declaring _ selector

theorem keepsFirst_declaring {given : List Method} {capability : Capability}
    (keeps : KeepsFirst id given capability.methods) (selector : Selector) :
    KeepsFirst id (given ++ [capability.method selector])
      (capability.declaring selector).methods := by
  have present_iff : id (capability.method selector) ∈ capability.methods.map id ↔
      selector ∈ capability.selectors := by
    rw [List.map_id, id, mem_methods_iff]
    exact and_iff_right rfl
  unfold declaring
  split
  · next present => exact keeps.skip (present_iff.mpr present)
  · next absent =>
    rw [methods, List.map_append]
    exact keeps.add (fun member => absent (present_iff.mp member))

theorem methods_ofClauses (name : String) (clauses : List Clause) :
    KeepsFirst id (clauses.filterMap (Clause.declared? name)) (ofClauses name clauses).methods := by
  induction clauses using List.reverseRecOn with
  | nil => exact KeepsFirst.nil
  | append_singleton earlier last ih =>
      rw [ofClauses_concat]
      cases last with
      | extend super =>
          rw [filterMap_concat_of_none rfl]
          exact ih
      | declare selector =>
          have declared := keepsFirst_declaring ih selector
          rw [method, name_ofClauses] at declared
          rw [List.filterMap_append]
          exact declared

theorem method?_of_mem_methods {capability : Capability} {method : Method}
    (member : method ∈ capability.methods) : capability.method? method.selector = some method := by
  obtain ⟨declares, declared⟩ := (capability.mem_methods_iff method).mp member
  have found : capability.method? method.selector =
      some ⟨capability.name, method.selector⟩ := by
    cases capability with
    | mk name supers selectors => exact if_pos declared
  rw [found, ← declares]

end Capability

/-- A table that is made by declaring capabilities, with a type to extend given anywhere in
between, has the first capability of each name, in their order. A capability that is made by
declaring methods and extending capabilities declares each of the methods once, in the order
of their first declarations and under its own name, and extends what it was made to extend,
with every repetition. A lookup of a declared method finds that method. A layer shows just the
capabilities that a type resolves to, in their order, when it is made for them. -/
theorem declarations_kept :
    (∀ (name : String) (clauses : List TypeTable.Clause),
      KeepsFirst Capability.name (clauses.filterMap TypeTable.Clause.declared?)
        (TypeTable.ofClauses name clauses).interfaces) ∧
    (∀ (name : String) (clauses : List Capability.Clause),
      KeepsFirst id (clauses.filterMap (Capability.Clause.declared? name))
        (Capability.ofClauses name clauses).methods ∧
      (Capability.ofClauses name clauses).name = name ∧
      (∀ method ∈ (Capability.ofClauses name clauses).methods, method.declaring = name) ∧
      (Capability.ofClauses name clauses).supers =
        clauses.filterMap Capability.Clause.extended?) ∧
    (∀ (capability : Capability), ∀ method ∈ capability.methods,
      capability.method? ⟨method.name, method.params⟩ = some method) ∧
    ∀ {m : Type → Type} (registration : Registration m) (serial : Nat) (inner table : TypeTable)
      (registry : Registry),
      (registration.layer serial inner (table.resolve registry)).table.interfaces =
        table.resolve registry := by
  refine ⟨TypeTable.interfaces_ofClauses, ?_, ?_, ?_⟩
  · intro name clauses
    refine ⟨Capability.methods_ofClauses name clauses, Capability.name_ofClauses name clauses, ?_,
      Capability.supers_ofClauses name clauses⟩
    intro method member
    rw [((Capability.mem_methods_iff _ method).mp member).1, Capability.name_ofClauses]
  · intro capability method member
    exact Capability.method?_of_mem_methods member
  · intro m registration serial inner table registry
    exact congrArg TypeTable.interfaces
      (Registration.layerTable_eq (table.resolve_nodup registry))

open Capability.Streams in
/-- A second handle of a name is dropped, though it declares something else. -/
example :
    let hollow := Capability.named "Closeable"
    let base := TypeTable.named "Base"
    (TypeTable.ofClauses "Socket"
        [.declare closeable, .extend base, .declare hollow, .declare reader]).interfaces =
      [closeable, reader] :=
  rfl

end Interception
