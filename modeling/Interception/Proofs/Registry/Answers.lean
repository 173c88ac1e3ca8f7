/-
What a registry answers. Its answers depend on the pairs that are filed and on nothing
else: not on the order of the signatures, nor on how often one occurs. Only the handle
that is kept for a name depends on the order. The answers for a list made of two are
the answers for the two, joined name by name.
-/

import Interception.Proofs.Registry.Acceptance
import Interception.Proofs.Registry.Filing

namespace Interception.Registry

variable {signatures : List Signature} {registry : Registry}

/-! ### Methods under a name -/

/-- The methods under the name of a capability, as a set. -/
def methodSet? (registry : Registry) (capability : Capability) : Option (Finset Method) :=
  (registry.methods? capability).map List.toFinset

def filedUnder (pairs : List (String × Method)) (name : String) : Finset Method :=
  ((pairs.filter (fun pair => pair.1 == name)).map Prod.snd).toFinset

theorem mem_filedUnder (pairs : List (String × Method)) (name : String) (method : Method) :
    method ∈ filedUnder pairs name ↔ (name, method) ∈ pairs := by
  rw [filedUnder, List.mem_toFinset, List.mem_map]
  constructor
  · rintro ⟨⟨under, filed⟩, member, rfl⟩
    obtain ⟨present, same⟩ := List.mem_filter.mp member
    exact eq_of_beq same ▸ present
  · intro present
    exact ⟨(name, method), List.mem_filter.mpr ⟨present, beq_self_eq_true name⟩, rfl⟩

theorem filedUnder_append (left right : List (String × Method)) (name : String) :
    filedUnder (left ++ right) name = filedUnder left name ∪ filedUnder right name := by
  rw [filedUnder, List.filter_append, List.map_append, List.toFinset_append]
  rfl

theorem holds_iff_filed (built : ofSignatures signatures = .ok registry) (name : String)
    (method : Method) :
    registry.Holds name method ↔ (name, method) ∈ Signature.filings signatures := by
  rw [holds_iff_of_ofSignatures built, Signature.mem_filings]

theorem methods?_of_not_hasKey {registry : Registry} {capability : Capability}
    (missing : registry.hasKey capability = false) : registry.methods? capability = none := by
  rw [methods?, Option.map_eq_none_iff]
  exact Option.isNone_iff_eq_none.mp (Option.isSome_eq_false_iff.mp missing)

theorem methods?_of_ofSignatures (built : ofSignatures signatures = .ok registry)
    {capability : Capability} (key : registry.hasKey capability = true) :
    ∃ methods, registry.methods? capability = some methods ∧ methods ≠ [] ∧ methods.Nodup ∧
      ∀ method, method ∈ methods ↔
        ∃ signature ∈ signatures,
          signature.capability.name = capability.name ∧ signature.resolve = .ok method := by
  obtain ⟨entry, found⟩ := Option.isSome_iff_exists.mp key
  obtain ⟨nonempty, nodup⟩ := entry_of_ofSignatures built found
  refine ⟨entry.methods, ?_, nonempty, nodup, ?_⟩
  · rw [methods?, found]
    rfl
  · intro method
    rw [← holds_iff_of_ofSignatures built, Holds, found]
    simp

/-- A name with no method is no key. -/
def unlessEmpty (methods : Finset Method) : Option (Finset Method) :=
  if methods = ∅ then none else some methods

theorem unlessEmpty_union (left right : Finset Method) :
    unlessEmpty (left ∪ right) =
      Option.merge (· ∪ ·) (unlessEmpty left) (unlessEmpty right) := by
  unfold unlessEmpty
  by_cases first : left = ∅
  · subst first
    rw [Finset.empty_union, if_pos rfl, Option.merge_none_left]
  · have nonempty : left ∪ right ≠ ∅ := fun both => first (Finset.union_eq_empty.mp both).1
    rw [if_neg nonempty, if_neg first]
    by_cases second : right = ∅
    · subst second
      rw [if_pos rfl, Option.merge_none_right, Finset.union_empty]
    · rw [if_neg second]
      rfl

theorem methodSet?_of_ofSignatures (built : ofSignatures signatures = .ok registry)
    (capability : Capability) :
    registry.methodSet? capability =
      unlessEmpty (filedUnder (Signature.filings signatures) capability.name) := by
  unfold unlessEmpty methodSet?
  cases key : registry.hasKey capability with
  | false =>
      have nothing : filedUnder (Signature.filings signatures) capability.name = ∅ := by
        apply Finset.eq_empty_of_forall_notMem
        intro method member
        rw [mem_filedUnder, ← holds_iff_filed built] at member
        obtain ⟨entry, found, _held⟩ := member
        rw [hasKey, found] at key
        cases key
      rw [if_pos nothing, methods?_of_not_hasKey key]
      rfl
  | true =>
      obtain ⟨methods, found, nonempty, _nodup, member_iff⟩ := methods?_of_ofSignatures built key
      have same : methods.toFinset =
          filedUnder (Signature.filings signatures) capability.name := by
        ext method
        rw [List.mem_toFinset, member_iff, mem_filedUnder, Signature.mem_filings]
      have inhabited : filedUnder (Signature.filings signatures) capability.name ≠ ∅ := by
        rw [← same, ne_eq, List.toFinset_eq_empty_iff]
        exact nonempty
      rw [if_neg inhabited, found, Option.map_some, same]

theorem methodSet?_append {more : List Signature} {extension joined : Registry}
    (built : ofSignatures signatures = .ok registry)
    (builtMore : ofSignatures more = .ok extension)
    (builtJoined : ofSignatures (signatures ++ more) = .ok joined) (capability : Capability) :
    joined.methodSet? capability =
      Option.merge (· ∪ ·) (registry.methodSet? capability)
        (extension.methodSet? capability) := by
  rw [methodSet?_of_ofSignatures built, methodSet?_of_ofSignatures builtMore,
    methodSet?_of_ofSignatures builtJoined, Signature.filings_append, filedUnder_append,
    unlessEmpty_union]

/-! ### All answers -/

/-- Two registries have the same names for keys, the same methods under each, route the
same methods and count as many. -/
structure SameAnswers (left right : Registry) : Prop where
  hasKey : ∀ capability, left.hasKey capability = right.hasKey capability
  methods : ∀ capability, left.methodSet? capability = right.methodSet? capability
  intercepts : ∀ method, left.intercepts method = right.intercepts method
  size : left.size = right.size

theorem hasKey_eq_isSome (registry : Registry) (capability : Capability) :
    registry.hasKey capability = (registry.methodSet? capability).isSome := by
  rw [methodSet?, methods?, Option.isSome_map, Option.isSome_map, hasKey]

theorem sameAnswers_of_same_filings {others : List Signature} {other : Registry}
    (built : ofSignatures signatures = .ok registry)
    (builtOther : ofSignatures others = .ok other)
    (same : ∀ pair, pair ∈ Signature.filings signatures ↔ pair ∈ Signature.filings others) :
    registry.SameAnswers other := by
  have methods : ∀ capability,
      registry.methodSet? capability = other.methodSet? capability := by
    intro capability
    have filed : filedUnder (Signature.filings signatures) capability.name =
        filedUnder (Signature.filings others) capability.name := by
      ext method
      rw [mem_filedUnder, mem_filedUnder, same]
    rw [methodSet?_of_ofSignatures built, methodSet?_of_ofSignatures builtOther, filed]
  refine ⟨?_, methods, ?_, ?_⟩
  · intro capability
    rw [hasKey_eq_isSome, hasKey_eq_isSome, methods]
  · intro method
    rw [Bool.eq_iff_iff, intercepts_iff, intercepts_iff, holds_iff_filed built,
      holds_iff_filed builtOther, same]
  · have sets : (Signature.filings signatures).toFinset =
        (Signature.filings others).toFinset := by
      ext pair
      rw [List.mem_toFinset, List.mem_toFinset, same]
    rw [size_of_ofSignatures built, size_of_ofSignatures builtOther, sets]

/-- A built registry has the names of the signatures' capabilities for keys. Under each
stand the methods that the signatures of that name resolve to, each once; a method is
routed when it stands under the capability that declares it, and the size counts the
pairs of a name and a method. The handle kept for a name is the first. Any list of the
same signatures builds a registry with the same answers, and appending a list joins
the two registries name by name. -/
theorem ofSignatures_answers (built : ofSignatures signatures = .ok registry) :
    (∀ capability, registry.hasKey capability = true ↔
      ∃ signature ∈ signatures, signature.capability.name = capability.name) ∧
    (∀ capability, registry.hasKey capability = true →
      ∃ methods, registry.methods? capability = some methods ∧ methods ≠ [] ∧ methods.Nodup ∧
        ∀ method, method ∈ methods ↔
          ∃ signature ∈ signatures,
            signature.capability.name = capability.name ∧ signature.resolve = .ok method) ∧
    (∀ capability, registry.hasKey capability = false → registry.methods? capability = none) ∧
    (∀ method, registry.intercepts method = true ↔
      ∃ signature ∈ signatures,
        signature.capability.name = method.declaring ∧ signature.resolve = .ok method) ∧
    registry.size = (Signature.filings signatures).toFinset.card ∧
    (∀ name, (registry.entry? name).map RegistryEntry.key =
      (signatures.find? (fun signature => signature.capability.name == name)).map
        Signature.capability) ∧
    (∀ others, (∀ signature, signature ∈ others ↔ signature ∈ signatures) →
      ∃ other, ofSignatures others = .ok other ∧ registry.SameAnswers other) ∧
    ∀ more, ((∃ joined, ofSignatures (signatures ++ more) = .ok joined) ↔
        ∃ extension, ofSignatures more = .ok extension) ∧
      ∀ extension joined, ofSignatures more = .ok extension →
        ofSignatures (signatures ++ more) = .ok joined →
        ∀ capability, joined.methodSet? capability =
          Option.merge (· ∪ ·) (registry.methodSet? capability)
            (extension.methodSet? capability) := by
  have sound := (ofSignatures_eq_ok_iff signatures).mp ⟨registry, built⟩
  refine ⟨?_, ?_, ?_, intercepts_iff_of_ofSignatures built, size_of_ofSignatures built,
    key_of_ofSignatures built, ?_, ?_⟩
  · intro capability
    exact hasName_iff_of_ofSignatures built capability.name
  · intro capability key
    exact methods?_of_ofSignatures built key
  · intro capability missing
    exact methods?_of_not_hasKey missing
  · intro others same
    obtain ⟨other, builtOther⟩ := (ofSignatures_eq_ok_iff others).mpr
      (fun signature member => sound signature ((same signature).mp member))
    refine ⟨other, builtOther, sameAnswers_of_same_filings built builtOther ?_⟩
    rintro ⟨name, method⟩
    simp only [Signature.mem_filings, same]
  · intro more
    constructor
    · rw [ofSignatures_eq_ok_iff, ofSignatures_eq_ok_iff, List.forall_mem_append]
      exact and_iff_right sound
    · intro extension joined builtMore builtJoined
      exact methodSet?_append built builtMore builtJoined

namespace Streams

open Capability.Streams

def closing (capability : Capability) : Signature :=
  ⟨capability, ⟨"close", []⟩⟩

/-- A second handle of the name of the channel, which declares what that one inherits. -/
def pipe : Capability :=
  (Capability.named "Channel").declaring ⟨"close", []⟩

def closings : List Signature :=
  [closing channel, closing pipe, closing closeable, closing channel]

def closingRegistry : Registry :=
  ⟨[⟨channel, [⟨"Closeable", ⟨"close", []⟩⟩, ⟨"Channel", ⟨"close", []⟩⟩]⟩,
    ⟨closeable, [⟨"Closeable", ⟨"close", []⟩⟩]⟩]⟩

end Streams

open Streams Capability.Streams in
/-- Two handles of one name share a key, and each resolves in its own way. -/
theorem ofSignatures_answers_streams :
    ofSignatures closings = .ok closingRegistry ∧
    closingRegistry.size = 3 ∧
    closingRegistry.intercepts ⟨"Channel", ⟨"close", []⟩⟩ = true ∧
    (∃ methods, closingRegistry.methods? pipe = some methods ∧
      ⟨"Closeable", ⟨"close", []⟩⟩ ∈ methods) ∧
    ∃ other, ofSignatures closings.reverse = .ok other ∧ closingRegistry.SameAnswers other := by
  have built : ofSignatures closings = .ok closingRegistry := rfl
  obtain ⟨_names, filed, _missing, routed, counted, _first, rearranged, _joined⟩ :=
    ofSignatures_answers built
  have counts : closingRegistry.size = 3 := counted.trans (by decide)
  have routes : closingRegistry.intercepts ⟨"Channel", ⟨"close", []⟩⟩ = true := by
    rw [routed]
    exact ⟨closing pipe, List.mem_cons_of_mem _ List.mem_cons_self, rfl, rfl⟩
  obtain ⟨methods, found, _nonempty, _nodup, member_iff⟩ := filed pipe rfl
  have inherited : ⟨"Closeable", ⟨"close", []⟩⟩ ∈ methods := by
    rw [member_iff]
    exact ⟨closing channel, List.mem_cons_self, rfl, rfl⟩
  exact ⟨built, counts, routes, ⟨methods, found, inherited⟩,
    rearranged closings.reverse (fun _ => List.mem_reverse)⟩

end Interception.Registry
