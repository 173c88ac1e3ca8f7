/-
What a type shows: every capability that it declares at some level, each name once.
Resolving a type against a registry filters what the type shows, so the result
depends on the registry through its names alone. The table of a layer shows the
list that the layer was made for.
-/

import Interception.Proofs.Capability.Distinct
import Interception.Proofs.Registry.Contents
import Interception.Registration

namespace Interception

open Capability (distinct names)

namespace TypeTable

/-- Every declared capability, each name once, in the order of first declaration. -/
def shown (table : TypeTable) : List Capability :=
  distinct table.declared

theorem shown_nodup (table : TypeTable) : (names table.shown).Nodup :=
  Capability.distinct_nodup table.declared

theorem resolve_eq_filter_shown (table : TypeTable) (registry : Registry) :
    table.resolve registry = table.shown.filter registry.hasKey :=
  Capability.distinct_filter registry.hasKey_congr table.declared

theorem mem_declared_of_mem_resolve {table : TypeTable} {registry : Registry}
    {capability : Capability} (member : capability ∈ table.resolve registry) :
    capability ∈ table.declared :=
  (List.mem_filter.mp ((Capability.distinct_sublist _).subset member)).1

/-- The declared capabilities that some signature names, each name once. -/
def wanted (table : TypeTable) (signatures : List Signature) : List Capability :=
  distinct (table.declared.filter (fun capability =>
    signatures.any (fun signature => signature.capability.name == capability.name)))

theorem resolve_eq_wanted (table : TypeTable) {signatures : List Signature} {registry : Registry}
    (built : Registry.ofSignatures signatures = .ok registry) :
    table.resolve registry = table.wanted signatures := by
  unfold resolve wanted
  congr 1
  apply List.filter_congr
  intro capability _declared
  rw [Bool.eq_iff_iff, Registry.hasKey_iff, Registry.hasName_iff_of_ofSignatures built]
  simp only [List.any_eq_true, beq_iff_eq]

theorem implements_iff (table : TypeTable) (capability : Capability) :
    table.implements capability = true ↔
      ∃ declared ∈ table.declared, declared.isNamed capability.name = true :=
  List.any_eq_true

/-! ### Tables made by declaring -/

theorem withInterfaces_eq (table : TypeTable) (capabilities : List Capability) :
    table.withInterfaces capabilities =
      ⟨⟨table.name, table.interfaces ++ Capability.unseen (names table.interfaces) capabilities⟩,
        table.above⟩ := by
  rw [← Capability.foldl_eq_append_unseen]
  induction capabilities generalizing table with
  | nil => rfl
  | cons head rest ih =>
      have step : table.withInterfaces (head :: rest) =
          (table.withInterface head).withInterfaces rest := rfl
      rw [step, ih, List.foldl_cons]
      unfold withInterface
      split
      · rfl
      · rfl

theorem named_withInterfaces_eq {name : String} {capabilities : List Capability}
    (nodup : (names capabilities).Nodup) :
    (named name).withInterfaces capabilities = ⟨⟨name, capabilities⟩, []⟩ := by
  have kept : Capability.unseen [] capabilities = capabilities := by
    rw [← Capability.distinct_eq_unseen, Capability.distinct_eq_self nodup]
  rw [withInterfaces_eq]
  change (⟨⟨name, Capability.unseen [] capabilities⟩, []⟩ : TypeTable) = _
  rw [kept]

end TypeTable

theorem Registration.layerTable_eq {inner : TypeTable} {exposed : List Capability}
    (nodup : (names exposed).Nodup) :
    layerTable inner exposed = ⟨⟨proxyName inner.name, exposed⟩, []⟩ :=
  TypeTable.named_withInterfaces_eq nodup

theorem TypeTable.shown_mk {name : String} {exposed : List Capability}
    (nodup : (names exposed).Nodup) :
    (⟨⟨name, exposed⟩, []⟩ : TypeTable).shown = exposed := by
  have declared : (⟨⟨name, exposed⟩, []⟩ : TypeTable).declared = exposed := by
    simp [TypeTable.declared, TypeTable.levels]
  rw [TypeTable.shown, declared, Capability.distinct_eq_self nodup]

end Interception
