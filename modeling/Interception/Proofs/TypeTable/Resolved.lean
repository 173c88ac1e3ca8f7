/-
What a type resolves to against a registry. Resolving walks the levels, nearest first,
and takes the capabilities declared there whose names are keys. It takes the first of
each name and keeps them in the order in which it met them. What a declared capability
extends is not followed. Of the registry only the names of the keys matter, and a type
that declares just what was found resolves to the same again.
-/

import Interception.Proofs.Capability.Lookup
import Interception.Proofs.TypeTable.Shown

namespace Interception

open Capability (distinct names place)

namespace Registry

theorem hasKey_iff_name_mem (registry : Registry) (capability : Capability) :
    registry.hasKey capability = true ↔ capability.name ∈ names registry.keys := by
  have keyNames : names registry.keys =
      registry.entries.map (fun entry => entry.key.name) := List.map_map
  rw [hasKey, entry?, List.find?_isSome, keyNames, List.mem_map]
  simp only [beq_iff_eq]

theorem hasKey_eq_of_same_names {left right : Registry}
    (same : ∀ name, name ∈ names left.keys ↔ name ∈ names right.keys) (capability : Capability) :
    left.hasKey capability = right.hasKey capability := by
  rw [Bool.eq_iff_iff, hasKey_iff_name_mem, hasKey_iff_name_mem, same]

end Registry

namespace TypeTable

/-- The walk over the levels meets the capability at its place: no nearer level declares
one of its name, and its own level declares none before it. -/
def DeclaresFirst (table : TypeTable) (capability : Capability) : Prop :=
  ∃ nearer level farther, table.levels = nearer ++ level :: farther ∧
    (∀ other ∈ nearer, ∀ declared ∈ other.interfaces, declared.name ≠ capability.name) ∧
    ∃ before after, level.interfaces = before ++ capability :: after ∧
      ∀ declared ∈ before, declared.name ≠ capability.name

theorem declaresFirst_of_mem_shown {table : TypeTable} {capability : Capability}
    (member : capability ∈ table.shown) : table.DeclaresFirst capability := by
  have first := Capability.find?_of_mem_distinct member
  rw [declared, List.find?_flatMap, List.findSome?_eq_some_iff] at first
  obtain ⟨nearer, level, farther, levels, here, missed⟩ := first
  obtain ⟨_named, before, after, interfaces, earlier⟩ := List.find?_eq_some_iff_append.mp here
  refine ⟨nearer, level, farther, levels, ?_, before, after, interfaces, ?_⟩
  · intro other nearby declared present same
    have unmet := List.find?_eq_none.mp (missed other nearby) declared present
    exact unmet (beq_iff_eq.mpr same)
  · intro declared present same
    have unmet := earlier declared present
    simp [same] at unmet

theorem name_mem_declared_iff (table : TypeTable) (name : String) :
    name ∈ names table.declared ↔
      ∃ level ∈ table.levels, ∃ capability ∈ level.interfaces, capability.name = name := by
  rw [names, List.mem_map]
  simp only [declared, List.mem_flatMap]
  constructor
  · rintro ⟨capability, ⟨level, walked, present⟩, same⟩
    exact ⟨level, walked, capability, present, same⟩
  · rintro ⟨level, walked, capability, present, same⟩
    exact ⟨capability, ⟨level, walked, present⟩, same⟩

theorem name_mem_resolve_iff (table : TypeTable) (registry : Registry) (name : String) :
    name ∈ names (table.resolve registry) ↔
      name ∈ names registry.keys ∧ name ∈ names table.declared := by
  rw [resolve, Capability.name_mem_distinct, names, List.mem_map]
  simp only [List.mem_filter, Registry.hasKey_iff_name_mem]
  constructor
  · rintro ⟨capability, ⟨present, key⟩, rfl⟩
    exact ⟨key, List.mem_map_of_mem present⟩
  · rintro ⟨key, named⟩
    obtain ⟨capability, present, rfl⟩ := List.mem_map.mp named
    exact ⟨capability, ⟨present, key⟩, rfl⟩

theorem mem_resolve_iff (table : TypeTable) (registry : Registry) (capability : Capability) :
    capability ∈ table.resolve registry ↔
      capability ∈ table.shown ∧ registry.hasKey capability = true := by
  rw [resolve_eq_filter_shown, List.mem_filter]

theorem resolve_nodup (table : TypeTable) (registry : Registry) :
    (names (table.resolve registry)).Nodup :=
  Capability.distinct_nodup _

theorem implements_of_mem_declared {table : TypeTable} {capability : Capability}
    (present : capability ∈ table.declared) : table.implements capability = true :=
  (table.implements_iff capability).mpr ⟨capability, present, capability.isNamed_name⟩

theorem resolve_pairwise (table : TypeTable) (registry : Registry) :
    (table.resolve registry).Pairwise (fun left right =>
      place left.name table.declared < place right.name table.declared) := by
  rw [resolve_eq_filter_shown]
  exact (Capability.distinct_pairwise table.declared).filter registry.hasKey

theorem resolve_eq_of_same_names (table : TypeTable) {left right : Registry}
    (same : ∀ name, name ∈ names left.keys ↔ name ∈ names right.keys) :
    table.resolve left = table.resolve right := by
  rw [resolve, resolve, funext (Registry.hasKey_eq_of_same_names same)]

/-- A type that declares just what was found, in that order, resolves to it again. -/
theorem resolve_of_found (table : TypeTable) (registry : Registry) (name : String) :
    (⟨⟨name, table.resolve registry⟩, []⟩ : TypeTable).resolve registry =
      table.resolve registry := by
  rw [resolve_eq_filter_shown, shown_mk (table.resolve_nodup registry), List.filter_eq_self]
  intro capability member
  exact ((table.mem_resolve_iff registry capability).mp member).2

/-- Resolving finds the names that are keys and are declared directly at some level, and
finds each of them once. The capability found for a name is the first that the walk meets,
and those found are in the order of the walk; the type implements all of them. A registry
with the same names for keys finds the same, and so does the registry itself on a new type
that declares what was found and extends nothing. -/
theorem resolve_first_declared (table : TypeTable) (registry : Registry) :
    (∀ name, name ∈ names (table.resolve registry) ↔
      name ∈ names registry.keys ∧
        ∃ level ∈ table.levels, ∃ capability ∈ level.interfaces, capability.name = name) ∧
    (names (table.resolve registry)).Nodup ∧
    (∀ capability ∈ table.resolve registry,
      table.DeclaresFirst capability ∧ table.implements capability = true) ∧
    (table.resolve registry).Pairwise (fun left right =>
      place left.name table.declared < place right.name table.declared) ∧
    (∀ other : Registry, (∀ name, name ∈ names other.keys ↔ name ∈ names registry.keys) →
      table.resolve other = table.resolve registry) ∧
    ∀ name, ∃ fresh : TypeTable,
      fresh = (named name).withInterfaces (table.resolve registry) ∧
      fresh.interfaces = table.resolve registry ∧ fresh.parent? = none ∧
      fresh.resolve registry = table.resolve registry := by
  refine ⟨?_, table.resolve_nodup registry, ?_, table.resolve_pairwise registry, ?_, ?_⟩
  · intro name
    rw [name_mem_resolve_iff, name_mem_declared_iff]
  · intro capability member
    have shown := ((table.mem_resolve_iff registry capability).mp member).1
    exact ⟨declaresFirst_of_mem_shown shown,
      implements_of_mem_declared (mem_declared_of_mem_resolve member)⟩
  · intro other same
    exact table.resolve_eq_of_same_names same
  · intro name
    exact ⟨⟨⟨name, table.resolve registry⟩, []⟩,
      (named_withInterfaces_eq (table.resolve_nodup registry)).symm, rfl, rfl,
      table.resolve_of_found registry name⟩

open Capability.Streams in
/-- A channel can be closed, but only as something that it extends. -/
example :
    let socket := (named "Socket").withInterface channel
    let registry : Registry := ⟨[⟨closeable, [⟨"Closeable", ⟨"close", []⟩⟩]⟩]⟩
    socket.implements closeable = true ∧ socket.resolve registry = [] :=
  ⟨rfl, rfl⟩

end TypeTable

end Interception
