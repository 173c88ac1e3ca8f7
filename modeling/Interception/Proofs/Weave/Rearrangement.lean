/-
Chains that differ in order. In general the order of registrations decides which layers
there are, since every layer hides capabilities from the registrations after it. It
does not when the registrations that concern the type share a key which the type
declares: that capability shows after every step, so each of them adds its layer, and in
the end exactly their common keys show. Registrations that do not concern the type make
no difference anywhere.
-/

import Interception.Proofs.Weave.Course

namespace Interception

variable {m : Type → Type}

/-- Some capability that the type declares, at any level, is a key. -/
def Registration.concerns (registration : Registration m) (table : TypeTable) : Bool :=
  table.declared.any registration.registry.hasKey

/-- One list of registrations comes from another by reordering, and by putting in or
taking out registrations that do not concern the type. -/
inductive Rearranged (table : TypeTable) : List (Registration m) → List (Registration m) → Prop
  | reorder {left right : List (Registration m)} (order : left.Perm right) :
      Rearranged table left right
  | insert (before after : List (Registration m)) {foreign : Registration m}
      (apart : foreign.concerns table = false) :
      Rearranged table (before ++ after) (before ++ foreign :: after)
  | remove (before after : List (Registration m)) {foreign : Registration m}
      (apart : foreign.concerns table = false) :
      Rearranged table (before ++ foreign :: after) (before ++ after)
  | trans {left middle right : List (Registration m)} (first : Rearranged table left middle)
      (second : Rearranged table middle right) : Rearranged table left right

/-- The registrations that concern a type. -/
def Chain.concerning (chain : Chain m) (table : TypeTable) : List (Registration m) :=
  chain.registrations.filter (·.concerns table)

theorem Rearranged.filter_perm {table : TypeTable} {left right : List (Registration m)}
    (rearranged : Rearranged table left right) :
    (left.filter (·.concerns table)).Perm (right.filter (·.concerns table)) := by
  induction rearranged with
  | reorder order => exact order.filter _
  | insert before after apart =>
      rw [List.filter_append, List.filter_append, List.filter_cons_of_neg (by simp [apart])]
  | remove before after apart =>
      rw [List.filter_append, List.filter_append, List.filter_cons_of_neg (by simp [apart])]
  | trans _ _ first second => exact first.trans second

namespace Registration

theorem keeps_shown_eq_nil {registration : Registration m} {table : TypeTable}
    (apart : registration.concerns table = false) : registration.keeps table.shown = [] := by
  have none := List.any_eq_false.mp apart
  apply List.filter_eq_nil_iff.mpr
  intro capability shown
  exact none capability ((Capability.distinct_sublist _).subset shown)

theorem keeps_keeps_eq_nil {registration other : Registration m} {shown : List Capability}
    (nothing : other.keeps shown = []) : other.keeps (registration.keeps shown) = [] := by
  have narrower : (other.keeps (registration.keeps shown)).Sublist (other.keeps shown) :=
    (registration.keeps_sublist shown).filter _
  rw [nothing] at narrower
  exact List.sublist_nil.mp narrower

end Registration

/-- The capabilities of a list that are keys of every registration. -/
def commonKeys (registrations : List (Registration m)) (shown : List Capability) :
    List Capability :=
  shown.filter (fun capability => registrations.all (·.registry.hasKey capability))

theorem commonKeys_nil (shown : List Capability) :
    commonKeys ([] : List (Registration m)) shown = shown :=
  List.filter_eq_self.mpr (fun _ _ => rfl)

theorem commonKeys_cons (registration : Registration m) (rest : List (Registration m))
    (shown : List Capability) :
    commonKeys (registration :: rest) shown = commonKeys rest (registration.keeps shown) := by
  unfold commonKeys Registration.keeps
  rw [List.filter_filter]
  apply List.filter_congr
  intro capability _shown
  rw [List.all_cons, Bool.and_comm]

theorem commonKeys_perm {left right : List (Registration m)} (order : left.Perm right)
    (shown : List Capability) : commonKeys left shown = commonKeys right shown := by
  unfold commonKeys
  apply List.filter_congr
  intro capability _shown
  exact order.all_eq

namespace Chain

theorem weave_of_unmatched {registrations : List (Registration m)} {object : Object m}
    (standard : ∀ registration ∈ registrations, registration.interceptor.hook = Hook.standard)
    (unmatched : ∀ registration ∈ registrations, registration.keeps object.table.shown = [])
    (workshop : Workshop) : (weave ⟨registrations⟩ object workshop).1 = object := by
  induction registrations generalizing workshop with
  | nil => rfl
  | cons registration rest ih =>
      obtain ⟨ownStandard, restStandard⟩ := List.forall_mem_cons.mp standard
      obtain ⟨ownUnmatched, restUnmatched⟩ := List.forall_mem_cons.mp unmatched
      rw [weave_cons, Registration.apply_of_standard ownStandard,
        Registration.wrap_of_unmatched ownUnmatched]
      exact ih restStandard restUnmatched _

/- The induction is on the registrations. What carries it is that the shared capability
shows on the object so far: a registration that has it as a key finds it there, and it
survives the narrowing. -/
private theorem weave_woven {capability : Capability} {concerned : Registration m → Bool}
    {registrations : List (Registration m)}
    (standard : ∀ registration ∈ registrations, registration.interceptor.hook = Hook.standard)
    (shared : ∀ registration ∈ registrations, concerned registration = true →
      registration.registry.hasKey capability = true)
    (object : Object m) (workshop : Workshop) (shows : capability ∈ object.table.shown)
    (unmatched : ∀ registration ∈ registrations, concerned registration = false →
      registration.keeps object.table.shown = []) :
    Woven object (weave ⟨registrations⟩ object workshop).1 workshop.next
      (commonKeys (registrations.filter concerned) object.table.shown)
      (registrations.filter concerned).length := by
  induction registrations generalizing object workshop with
  | nil =>
      rw [List.filter_nil, commonKeys_nil]
      exact .refl object workshop.next
  | cons registration rest ih =>
      obtain ⟨ownStandard, restStandard⟩ := List.forall_mem_cons.mp standard
      obtain ⟨ownShared, restShared⟩ := List.forall_mem_cons.mp shared
      obtain ⟨ownUnmatched, restUnmatched⟩ := List.forall_mem_cons.mp unmatched
      rw [weave_cons, Registration.apply_of_standard ownStandard]
      cases decided : concerned registration with
      | false =>
          have nothing := ownUnmatched decided
          rw [Registration.wrap_of_unmatched nothing, List.filter_cons_of_neg (by simp [decided])]
          exact ih restStandard restShared object _ shows restUnmatched
      | true =>
          have key := ownShared decided
          have kept : capability ∈ registration.keeps object.table.shown :=
            List.mem_filter.mpr ⟨shows, key⟩
          have matched : registration.keeps object.table.shown ≠ [] := List.ne_nil_of_mem kept
          let wrapped : Object m :=
            .wrapped (registration.standardLayer workshop.next object.table) object
          have wrappedShown : wrapped.table.shown = registration.keeps object.table.shown :=
            registration.standardLayer_shown workshop.next object.table
          have later := ih restStandard restShared wrapped (registration.wrap object workshop).2
            (wrappedShown ▸ kept)
            (fun other member apart =>
              wrappedShown ▸ Registration.keeps_keeps_eq_nil (restUnmatched other member apart))
          rw [wrappedShown] at later
          rw [List.filter_cons_of_pos decided, commonKeys_cons, List.length_cons]
          have step : registration.wrap object workshop =
              (wrapped, (registration.wrap object workshop).2) := by
            rw [Registration.wrap_of_matched matched]
          rw [step]
          exact .of_layer matched (Nat.le_refl _)
            (later.of_le (registration.next_le_wrap object workshop))

/-- What a weaving comes to when the registrations that concern the type share a key. -/
private theorem weave_of_shared {chain : Chain m} {object : Object m} {capability : Capability}
    (standard : ∀ registration ∈ chain.registrations,
      registration.interceptor.hook = Hook.standard)
    (declared : capability ∈ object.table.declared)
    (shared : ∀ registration ∈ chain.concerning object.table,
      registration.registry.hasKey capability = true) (workshop : Workshop) :
    Woven object (chain.weave object workshop).1 workshop.next
      (commonKeys (chain.concerning object.table) object.table.shown)
      (chain.concerning object.table).length := by
  have named : capability.name ∈ Capability.names object.table.shown :=
    (Capability.name_mem_distinct _ _).mpr (List.mem_map_of_mem declared)
  obtain ⟨first, shows, same⟩ := List.mem_map.mp named
  apply weave_woven standard _ object workshop shows
  · intro registration _member apart
    exact Registration.keeps_shown_eq_nil apart
  · intro registration member concerned
    have key := shared registration (List.mem_filter.mpr ⟨member, concerned⟩)
    rw [registration.registry.hasKey_congr first capability same]
    exact key

private theorem weave_of_none_concerning {chain : Chain m} {object : Object m}
    (standard : ∀ registration ∈ chain.registrations,
      registration.interceptor.hook = Hook.standard)
    (none : chain.concerning object.table = []) (workshop : Workshop) :
    (chain.weave object workshop).1 = object := by
  apply weave_of_unmatched standard
  intro registration member
  have apart : registration.concerns object.table = false :=
    eq_false_of_ne_true (List.filter_eq_nil_iff.mp none registration member)
  exact Registration.keeps_shown_eq_nil apart

/-- Two chains with standard hooks, one a rearrangement of the other. If the registrations
that concern the type share a key which it declares, both chains put equally many layers
around the object, under the same name, and show the same capabilities: those of the
object that are keys of all these registrations, in the object's own order. If no
registration concerns the type, both give the object back. -/
theorem weave_rearranged {left right : Chain m} {object : Object m}
    (rearranged : Rearranged object.table left.registrations right.registrations)
    (standardLeft : ∀ registration ∈ left.registrations,
      registration.interceptor.hook = Hook.standard)
    (standardRight : ∀ registration ∈ right.registrations,
      registration.interceptor.hook = Hook.standard)
    (workshop workshopToo : Workshop) :
    (left.concerning object.table = [] →
      (left.weave object workshop).1 = object ∧ (right.weave object workshopToo).1 = object) ∧
    (left.concerning object.table ≠ [] →
      (∃ capability ∈ object.table.declared, ∀ registration ∈ left.concerning object.table,
        registration.registry.hasKey capability = true) →
      ∀ woven ∈ [(left.weave object workshop).1, (right.weave object workshopToo).1],
        woven.layers.length =
          object.layers.length + (left.concerning object.table).length ∧
        woven.table.name =
          Registration.proxyName^[(left.concerning object.table).length] object.table.name ∧
        woven.table.interfaces =
          commonKeys (left.concerning object.table) object.table.shown) := by
  have order : (left.concerning object.table).Perm (right.concerning object.table) :=
    rearranged.filter_perm
  constructor
  · intro none
    have noneToo : right.concerning object.table = [] := by
      rw [none] at order
      exact order.nil_eq.symm
    exact ⟨weave_of_none_concerning standardLeft none workshop,
      weave_of_none_concerning standardRight noneToo workshopToo⟩
  · rintro some ⟨capability, declared, shared⟩ woven member
    have positive : 0 < (left.concerning object.table).length := List.length_pos_iff.mpr some
    have sharedToo : ∀ registration ∈ right.concerning object.table,
        registration.registry.hasKey capability = true :=
      fun registration present => shared registration (order.mem_iff.mpr present)
    have ofLeft := weave_of_shared standardLeft declared shared workshop
    have ofRight := weave_of_shared standardRight declared sharedToo workshopToo
    rw [← commonKeys_perm order, ← order.length_eq] at ofRight
    simp only [List.mem_cons, List.not_mem_nil, or_false] at member
    rcases member with rfl | rfl
    · exact ⟨ofLeft.layers, congrArg TypeTable.name (ofLeft.table positive),
        congrArg TypeTable.interfaces (ofLeft.table positive)⟩
    · exact ⟨ofRight.layers, congrArg TypeTable.name (ofRight.table positive),
        congrArg TypeTable.interfaces (ofRight.table positive)⟩

end Chain

namespace Greeting

def pings (tag : String) : Registration Run where
  interceptor := Tagging.interceptor ⟨tag, none⟩ tag [⟨pinger, ⟨"ping", []⟩⟩]
  registry := ⟨[⟨pinger, [⟨"Pinger", ⟨"ping", []⟩⟩]⟩]⟩
  resolved := rfl

/-- Counts, greets and closes. -/
def attends (tag : String) : Registration Run where
  interceptor := Tagging.interceptor ⟨tag, none⟩ tag
    [⟨counter, ⟨"count", []⟩⟩, greeting greeter, ⟨closeable, ⟨"close", []⟩⟩]
  registry := ⟨[⟨counter, [⟨"Counter", ⟨"count", []⟩⟩]⟩, ⟨greeter, [greet]⟩,
    ⟨closeable, [⟨"Closeable", ⟨"close", []⟩⟩]⟩]⟩
  resolved := rfl

/-- Counts and closes. -/
def tends (tag : String) : Registration Run where
  interceptor := Tagging.interceptor ⟨tag, none⟩ tag
    [⟨counter, ⟨"count", []⟩⟩, ⟨closeable, ⟨"close", []⟩⟩]
  registry := ⟨[⟨counter, [⟨"Counter", ⟨"count", []⟩⟩]⟩,
    ⟨closeable, [⟨"Closeable", ⟨"close", []⟩⟩]⟩]⟩
  resolved := rfl

def noon : Chain Run :=
  ⟨[attends "a", tends "b"]⟩

def noonToo : Chain Run :=
  ⟨[pings "p", tends "b", pings "q", attends "a"]⟩

theorem noon_rearranged :
    Rearranged table noon.registrations noonToo.registrations := by
  have swapped : Rearranged table [attends "a", tends "b"] [tends "b", attends "a"] :=
    .reorder (List.Perm.swap _ _ _)
  have withLater : Rearranged table [tends "b", attends "a"]
      [tends "b", pings "q", attends "a"] :=
    .insert [tends "b"] [attends "a"] rfl
  have withBoth : Rearranged table [tends "b", pings "q", attends "a"] noonToo.registrations :=
    .insert [] [tends "b", pings "q", attends "a"] rfl
  exact (swapped.trans withLater).trans withBoth

end Greeting

open Greeting in
/-- Closing and counting show in the order of the type, whichever comes first. -/
theorem Chain.weave_rearranged_noon :
    Rearranged table noon.registrations noonToo.registrations ∧
    ∀ woven ∈ [(noon.weave (.base (service 0)) ⟨1, Logbook.empty none⟩).1,
        (noonToo.weave (.base (service 0)) ⟨5, Logbook.empty none⟩).1],
      woven.layers.length = 2 ∧ woven.table.name = "Proxy<Proxy<HelloService>>" ∧
      woven.table.interfaces = [closeable, counter] := by
  have standard : ∀ registration ∈ noon.registrations,
      registration.interceptor.hook = Hook.standard := by
    intro registration member
    simp only [noon, List.mem_cons, List.not_mem_nil, or_false] at member
    rcases member with rfl | rfl <;> rfl
  have standardToo : ∀ registration ∈ noonToo.registrations,
      registration.interceptor.hook = Hook.standard := by
    intro registration member
    simp only [noonToo, List.mem_cons, List.not_mem_nil, or_false] at member
    rcases member with rfl | rfl | rfl | rfl <;> rfl
  have concerning : noon.concerning table = noon.registrations := rfl
  have declared : table.declared = [greeter, closeable, counter] := rfl
  have shared : ∃ capability ∈ table.declared, ∀ registration ∈ noon.concerning table,
      registration.registry.hasKey capability = true := by
    rw [declared, concerning]
    refine ⟨counter, by simp, ?_⟩
    intro registration member
    simp only [noon, List.mem_cons, List.not_mem_nil, or_false] at member
    rcases member with rfl | rfl <;> rfl
  have both := @Chain.weave_rearranged Run noon noonToo (.base (service 0)) noon_rearranged standard
    standardToo ⟨1, Logbook.empty none⟩ ⟨5, Logbook.empty none⟩
  exact ⟨noon_rearranged, both.2 (List.cons_ne_nil _ _) shared⟩

end Interception
