/-
The order of capabilities. Whether one capability is another is decided by names, and
two handles of one name may extend different things, so the relation is no order in
general. It is one in a family that contains whatever its members extend and in which
each name has one definition: there a name determines its handle, the relation is
membership in the tree, and no handle stands in the tree of anything that it extends.
-/

import Interception.Proofs.Capability.Lookup
import Mathlib.Data.Set.Basic

namespace Interception.Capability

/-! ### Trees -/

theorem tree_subset_of_mem {capability handle : Capability}
    (member : handle ∈ capability.tree) : handle.tree ⊆ capability.tree := by
  induction capability using supers_induction with
  | step capability ih =>
      rw [tree_eq] at member
      rcases List.mem_cons.mp member with same | above
      · rw [same]
        exact List.Subset.refl _
      · obtain ⟨super, direct, inside⟩ := List.mem_flatMap.mp above
        intro deeper further
        rw [tree_eq]
        exact List.mem_cons_of_mem capability
          (List.mem_flatMap.mpr ⟨super, direct, ih super direct inside further⟩)

theorem mem_tree_of_mem_supers {capability super : Capability}
    (direct : super ∈ capability.supers) : super ∈ capability.tree := by
  rw [tree_eq]
  exact List.mem_cons_of_mem capability
    (List.mem_flatMap.mpr ⟨super, direct, super.self_mem_tree⟩)

theorem tree_length_lt_of_mem_supers {capability super : Capability}
    (direct : super ∈ capability.supers) : super.tree.length < capability.tree.length := by
  have within : super.tree.Sublist (capability.supers.flatMap tree) :=
    List.sublist_flatten_of_mem (List.mem_map_of_mem direct)
  rw [tree_eq capability, List.length_cons]
  exact Nat.lt_succ_of_le within.length_le

theorem eq_or_tree_length_lt {capability handle : Capability}
    (member : handle ∈ capability.tree) :
    handle = capability ∨ handle.tree.length < capability.tree.length := by
  induction capability using supers_induction with
  | step capability ih =>
      rw [tree_eq] at member
      rcases List.mem_cons.mp member with same | above
      · exact Or.inl same
      · obtain ⟨super, direct, inside⟩ := List.mem_flatMap.mp above
        have shorter := tree_length_lt_of_mem_supers direct
        rcases ih super direct inside with same | smaller
        · exact Or.inr (same ▸ shorter)
        · exact Or.inr (Nat.lt_trans smaller shorter)

theorem mem_tree_antisymm {left right : Capability} (above : right ∈ left.tree)
    (below : left ∈ right.tree) : left = right := by
  rcases eq_or_tree_length_lt above with same | smaller
  · exact same.symm
  · rcases eq_or_tree_length_lt below with same | larger
    · exact same
    · omega

/-! ### Coherent families -/

/-- Two handles that extend capabilities of the same names, in the same order, and
declare the same selectors. -/
def SameDefinition (left right : Capability) : Prop :=
  names left.supers = names right.supers ∧ left.selectors = right.selectors

instance (left right : Capability) : Decidable (SameDefinition left right) :=
  inferInstanceAs (Decidable (_ ∧ _))

/-- A family contains what its members extend, and in it one name has one definition. -/
structure Coherent (family : Set Capability) : Prop where
  closed : ∀ capability ∈ family, ∀ super ∈ capability.supers, super ∈ family
  agreed : ∀ left ∈ family, ∀ right ∈ family, left.name = right.name → left.SameDefinition right

private theorem eq_of_names_eq {left right : List Capability}
    (byName : ∀ one ∈ left, ∀ other ∈ right, one.name = other.name → one = other)
    (same : names left = names right) : left = right := by
  induction left generalizing right with
  | nil =>
      cases right with
      | nil => rfl
      | cons head rest => cases same
  | cons head rest ih =>
      cases right with
      | nil => cases same
      | cons other others =>
          obtain ⟨first, later⟩ := List.cons.inj same
          have heads : head = other :=
            byName head List.mem_cons_self other List.mem_cons_self first
          have tails : rest = others := by
            apply ih _ later
            intro one member another memberToo
            exact byName one (List.mem_cons_of_mem head member) another
              (List.mem_cons_of_mem other memberToo)
          rw [heads, tails]

namespace Coherent

variable {family : Set Capability}

theorem mem_of_mem_tree (coherent : Coherent family) {capability handle : Capability}
    (member : capability ∈ family) (inTree : handle ∈ capability.tree) : handle ∈ family := by
  induction capability using supers_induction with
  | step capability ih =>
      rw [tree_eq] at inTree
      rcases List.mem_cons.mp inTree with same | above
      · exact same ▸ member
      · obtain ⟨super, direct, inside⟩ := List.mem_flatMap.mp above
        exact ih super direct (coherent.closed capability member super direct) inside

/- Equal names give equal names of what is extended, but not yet equal handles: those
are what the induction provides. -/
theorem eq_of_name (coherent : Coherent family) {left right : Capability}
    (leftMember : left ∈ family) (rightMember : right ∈ family)
    (same : left.name = right.name) : left = right := by
  induction left using supers_induction generalizing right with
  | step left ih =>
      obtain ⟨superNames, selectors⟩ := coherent.agreed left leftMember right rightMember same
      have supers : left.supers = right.supers := by
        apply eq_of_names_eq _ superNames
        intro super direct other directToo sameName
        exact ih super direct (coherent.closed left leftMember super direct)
          (coherent.closed right rightMember other directToo) sameName
      cases left with
      | mk name supersLeft selectorsLeft =>
          cases right with
          | mk otherName supersRight selectorsRight =>
              rw [Capability.mk.injEq]
              exact ⟨same, supers, selectors⟩

theorem isA_iff_mem_tree (coherent : Coherent family) {left right : Capability}
    (leftMember : left ∈ family) (rightMember : right ∈ family) :
    left.isA right = true ↔ right ∈ left.tree := by
  rw [isA, isNamed_iff]
  constructor
  · rintro ⟨handle, inTree, same⟩
    have handleMember : handle ∈ family := coherent.mem_of_mem_tree leftMember inTree
    exact coherent.eq_of_name handleMember rightMember same ▸ inTree
  · intro inTree
    exact ⟨right, inTree, rfl⟩

theorem finds_of_isA (coherent : Coherent family) {left right : Capability}
    (leftMember : left ∈ family) (rightMember : right ∈ family)
    (above : left.isA right = true) {selector : Selector} {method : Method}
    (found : right.method? selector = some method) :
    ∃ declarer ∈ left.tree, left.method? selector = some (declarer.method selector) ∧
      selector ∈ declarer.selectors := by
  have inTree := (coherent.isA_iff_mem_tree leftMember rightMember).mp above
  obtain ⟨inherited, deeper, inheritedDeclares, _same⟩ := declarer_of_method? found
  obtain ⟨other, sought⟩ := (left.exists_method?_iff selector).mpr
    ⟨inherited, tree_subset_of_mem inTree deeper, inheritedDeclares⟩
  obtain ⟨declarer, member, declared, rfl⟩ := declarer_of_method? sought
  exact ⟨declarer, member, sought, declared⟩

/-- In a coherent family the relation is reflexive, transitive and antisymmetric, and
lookups are inherited along it: what a capability finds, everything that is this
capability finds too, in a declaration of a member of the family that it is. -/
theorem isA_order (coherent : Coherent family) :
    (∀ capability ∈ family, capability.isA capability = true) ∧
    (∀ left ∈ family, ∀ middle ∈ family, ∀ right ∈ family,
      left.isA middle = true → middle.isA right = true → left.isA right = true) ∧
    (∀ left ∈ family, ∀ right ∈ family,
      left.isA right = true → right.isA left = true → (left == right) = true) ∧
    ∀ left ∈ family, ∀ right ∈ family, left.isA right = true →
      ∀ selector method, right.method? selector = some method →
        ∃ found, left.method? selector = some found ∧
          found.name = method.name ∧ found.params = method.params ∧
          ∃ declarer ∈ family, found ∈ declarer.methods ∧ found.declaring = declarer.name ∧
            left.isA declarer = true := by
  refine ⟨?_, ?_, ?_, ?_⟩
  · intro capability _member
    exact (isNamed_iff capability _).mpr ⟨capability, capability.self_mem_tree, rfl⟩
  · intro left leftMember middle middleMember right rightMember first second
    rw [coherent.isA_iff_mem_tree leftMember middleMember] at first
    rw [coherent.isA_iff_mem_tree middleMember rightMember] at second
    rw [coherent.isA_iff_mem_tree leftMember rightMember]
    exact tree_subset_of_mem first second
  · intro left leftMember right rightMember above below
    rw [coherent.isA_iff_mem_tree leftMember rightMember] at above
    rw [coherent.isA_iff_mem_tree rightMember leftMember] at below
    have same : left.name = right.name := congrArg Capability.name (mem_tree_antisymm above below)
    change (left.name == right.name) = true
    exact beq_iff_eq.mpr same
  · intro left leftMember right rightMember above selector method found
    obtain ⟨declarer, inTree, sought, declared⟩ :=
      coherent.finds_of_isA leftMember rightMember above found
    obtain ⟨_inherited, _deeper, _inheritedDeclares, rfl⟩ := declarer_of_method? found
    have declarerMember : declarer ∈ family := coherent.mem_of_mem_tree leftMember inTree
    refine ⟨declarer.method selector, sought, rfl, rfl, declarer, declarerMember, ?_, rfl, ?_⟩
    · exact (declarer.mem_methods_iff _).mpr ⟨rfl, declared⟩
    · exact (coherent.isA_iff_mem_tree leftMember declarerMember).mpr inTree

end Coherent

/-! ### A diamond -/

/-- The handles of one tree, if its names have one definition each. -/
theorem coherent_tree {capability : Capability}
    (agreed : ∀ left ∈ capability.tree, ∀ right ∈ capability.tree,
      left.name = right.name → left.SameDefinition right) :
    Coherent { handle | handle ∈ capability.tree } where
  closed := by
    intro handle inTree super direct
    exact tree_subset_of_mem inTree (mem_tree_of_mem_supers direct)
  agreed := agreed

open Streams in
/-- The channel closes through the first of its two ways up. -/
theorem Coherent.isA_order_channel :
    Coherent { handle | handle ∈ channel.tree } ∧
    channel.isA closeable = true ∧
    ∃ found, channel.method? ⟨"close", []⟩ = some found ∧ found.name = "close" ∧
      ∃ declarer ∈ channel.tree, found.declaring = declarer.name ∧
        channel.isA declarer = true := by
  have coherent : Coherent { handle | handle ∈ channel.tree } := coherent_tree (by decide)
  have top : channel ∈ channel.tree := channel.self_mem_tree
  have middle : writer ∈ channel.tree :=
    mem_tree_of_mem_supers (List.mem_cons_of_mem reader List.mem_cons_self)
  have bottom : closeable ∈ channel.tree :=
    tree_subset_of_mem middle (mem_tree_of_mem_supers List.mem_cons_self)
  obtain ⟨_reflexive, transitive, _antisymmetric, inherited⟩ := coherent.isA_order
  have isCloseable : channel.isA closeable = true :=
    transitive channel top writer middle closeable bottom rfl rfl
  obtain ⟨found, sought, sameName, _sameParams, declarer, member, _declares, named, above⟩ :=
    inherited channel top closeable bottom isCloseable ⟨"close", []⟩ _ rfl
  exact ⟨coherent, isCloseable, found, sought, sameName, declarer, member, named, above⟩

open Streams in
/-- With two definitions of one name the relation is not transitive. -/
example :
    ((named "Pipe").extending (named "Writer")).isA writer = true ∧
    writer.isA closeable = true ∧
    ((named "Pipe").extending (named "Writer")).isA closeable = false := by
  decide

end Interception.Capability
