/-
The course of a weaving. Whether a registration adds a layer depends on what the
layers before it left showing, so a weaving is followed registration by registration
together with the list of capabilities that show. A registration that has nothing on
the list leaves object and list alone; one that adds a layer narrows the list to its
own keys.
-/

import Interception.Chain
import Interception.Proofs.Wrap.Routing
import Mathlib.Logic.Function.Iterate

namespace Interception

variable {m : Type → Type}

namespace Registration

/-- The hook gives the standard wrap of the object back, made at some point of its work. -/
def Wraps (registration : Registration m) (object : Object m) (workshop : Workshop) : Prop :=
  ∃ during : Workshop, workshop.next ≤ during.next ∧
    (registration.interceptor.hook registration.wrap object workshop).1 =
      (registration.wrap object during).1

/-- The hook gives the object itself back instead of the standard wrap. -/
def OptsOut (registration : Registration m) (object : Object m) (workshop : Workshop) : Prop :=
  (registration.interceptor.hook registration.wrap object workshop).1 = object ∧
    ¬registration.Wraps object workshop

/-- The hook gives the object or its standard wrap back, which of them may depend on
anything, and no serial number is handed out again. -/
def Selective (registration : Registration m) : Prop :=
  ∀ object workshop,
    workshop.next ≤ (registration.interceptor.hook registration.wrap object workshop).2.next ∧
    ((registration.interceptor.hook registration.wrap object workshop).1 = object ∨
      registration.Wraps object workshop)

theorem apply_of_standard {registration : Registration m}
    (standard : registration.interceptor.hook = Hook.standard) :
    registration.apply = registration.wrap := by
  funext object
  unfold apply
  rw [standard]
  rfl

theorem selective_of_standard {registration : Registration m}
    (standard : registration.interceptor.hook = Hook.standard) : registration.Selective := by
  intro object workshop
  unfold Wraps
  rw [standard]
  exact ⟨registration.next_le_wrap object workshop, Or.inr ⟨workshop, Nat.le_refl _, rfl⟩⟩

theorem selective_of_choice {registration : Registration m} (choice : Object m → Bool)
    (chooses : registration.interceptor.hook =
      fun wrap object => if choice object then wrap object else return object) :
    registration.Selective := by
  intro object workshop
  have chosen : registration.interceptor.hook registration.wrap object workshop =
      if choice object then registration.wrap object workshop else (object, workshop) := by
    rw [chooses]
    change (if choice object then registration.wrap object else return object) workshop = _
    cases choice object <;> rfl
  unfold Wraps
  rw [chosen]
  split
  · exact ⟨registration.next_le_wrap object workshop, Or.inr ⟨workshop, Nat.le_refl _, rfl⟩⟩
  · exact ⟨Nat.le_refl _, Or.inl rfl⟩

end Registration

/-- A weaving, one registration after the other: from an object and the capabilities it
shows to the object that results, the capabilities that show in the end and the number
of layers added. -/
inductive Course : List (Registration m) → Object m → Workshop → List Capability →
    Object m → List Capability → Nat → Prop
  | done (object : Object m) (workshop : Workshop) (shown : List Capability) :
      Course [] object workshop shown object shown 0
  | untouched {registration : Registration m} {rest : List (Registration m)}
      {object final : Object m} {workshop : Workshop} {shown last : List Capability} {added : Nat}
      (reason : registration.OptsOut object workshop ∨ registration.keeps shown = [])
      (same : (registration.apply object workshop).1 = object)
      (later : Course rest object (registration.apply object workshop).2 shown final last added) :
      Course (registration :: rest) object workshop shown final last added
  | layered {registration : Registration m} {rest : List (Registration m)} {layer : Layer m}
      {object final : Object m} {workshop : Workshop} {shown last : List Capability} {added : Nat}
      (wraps : registration.Wraps object workshop) (matched : registration.keeps shown ≠ [])
      (step : (registration.apply object workshop).1 = .wrapped layer object)
      (handler : layer.handler = registration.interceptor.toHandler)
      (registry : layer.registry = registration.registry)
      (interfaces : layer.table.interfaces = registration.keeps shown)
      (later : Course rest (.wrapped layer object) (registration.apply object workshop).2
        (registration.keeps shown) final last added) :
      Course (registration :: rest) object workshop shown final last (added + 1)

namespace Chain

theorem weave_cons (registration : Registration m) (rest : List (Registration m))
    (object : Object m) (workshop : Workshop) :
    weave ⟨registration :: rest⟩ object workshop =
      weave ⟨rest⟩ (registration.apply object workshop).1 (registration.apply object workshop).2 := by
  unfold weave
  rw [List.foldlM_cons, Build.bind_apply]

theorem weave_append (first second : List (Registration m)) (object : Object m)
    (workshop : Workshop) :
    weave ⟨first ++ second⟩ object workshop =
      weave ⟨second⟩ (weave ⟨first⟩ object workshop).1 (weave ⟨first⟩ object workshop).2 := by
  unfold weave
  rw [List.foldlM_append, Build.bind_apply]

end Chain

/-- One step: a selective registration leaves the object alone or adds the layer of the
standard wrap. -/
theorem Registration.Selective.step_cases {registration : Registration m}
    (selective : registration.Selective) (object : Object m) (workshop : Workshop) :
    (registration.OptsOut object workshop ∨ registration.keeps object.table.shown = []) ∧
        (registration.apply object workshop).1 = object ∨
      registration.Wraps object workshop ∧ registration.keeps object.table.shown ≠ [] ∧
        ∃ serial, workshop.next ≤ serial ∧ (registration.apply object workshop).1 =
          .wrapped (registration.standardLayer serial object.table) object := by
  by_cases wraps : registration.Wraps object workshop
  · obtain ⟨during, notBefore, result⟩ := id wraps
    rcases registration.wrap_cases object during with ⟨unmatched, same⟩ | ⟨matched, wrapped⟩
    · exact Or.inl ⟨Or.inr unmatched, result.trans same⟩
    · exact Or.inr ⟨wraps, matched, during.next, notBefore, result.trans wrapped⟩
  · have same := (selective object workshop).2.resolve_right wraps
    exact Or.inl ⟨Or.inl ⟨same, wraps⟩, same⟩

/-- What becomes of an object to which a weaving adds some layers, with serial numbers
from a first one on. -/
structure Woven (object result : Object m) (first : Nat) (last : List Capability)
    (added : Nat) : Prop where
  layers : result.layers.length = object.layers.length + added
  narrowed : last.Sublist object.table.shown
  unchanged : added = 0 → result = object ∧ last = object.table.shown
  fresh : 0 < added → first ≤ result.serial
  nonempty : 0 < added → last ≠ []
  table : 0 < added →
    result.table = ⟨⟨Registration.proxyName^[added] object.table.name, last⟩, []⟩

namespace Woven

theorem refl (object : Object m) (first : Nat) : Woven object object first object.table.shown 0 where
  layers := rfl
  narrowed := List.Sublist.refl _
  unchanged _ := ⟨rfl, rfl⟩
  fresh positive := absurd positive (Nat.lt_irrefl 0)
  nonempty positive := absurd positive (Nat.lt_irrefl 0)
  table positive := absurd positive (Nat.lt_irrefl 0)

theorem of_le {object result : Object m} {first later : Nat} {last : List Capability} {added : Nat}
    (woven : Woven object result later last added) (forward : first ≤ later) :
    Woven object result first last added :=
  { woven with fresh := fun positive => Nat.le_trans forward (woven.fresh positive) }

theorem of_layer {registration : Registration m} {object result : Object m} {serial first : Nat}
    {last : List Capability} {added : Nat} (matched : registration.keeps object.table.shown ≠ [])
    (notBefore : first ≤ serial)
    (woven : Woven (.wrapped (registration.standardLayer serial object.table) object) result
      first last added) :
    Woven object result first last (added + 1) := by
  have shown : (registration.standardLayer serial object.table).table.shown =
      registration.keeps object.table.shown := registration.standardLayer_shown serial object.table
  have table := registration.standardLayer_table serial object.table
  refine ⟨?_, ?_, ?_, ?_, ?_, ?_⟩
  · rw [woven.layers]
    exact Nat.succ_add_eq_add_succ _ _
  · have narrowed : last.Sublist (registration.standardLayer serial object.table).table.shown :=
      woven.narrowed
    rw [shown] at narrowed
    exact narrowed.trans (registration.keeps_sublist _)
  · intro impossible
    cases impossible
  · intro _
    cases added with
    | zero =>
        rw [(woven.unchanged rfl).1]
        exact notBefore
    | succ more => exact woven.fresh (Nat.succ_pos more)
  · intro _
    cases added with
    | zero =>
        rw [(woven.unchanged rfl).2]
        exact shown ▸ matched
    | succ more => exact woven.nonempty (Nat.succ_pos more)
  · intro _
    cases added with
    | zero =>
        rw [(woven.unchanged rfl).1, (woven.unchanged rfl).2]
        change (registration.standardLayer serial object.table).table = _
        rw [table]
        congr 2
        exact shown.symm
    | succ more =>
        have renamed :
            (Object.wrapped (registration.standardLayer serial object.table) object).table.name =
              Registration.proxyName object.table.name :=
          congrArg TypeTable.name table
        rw [woven.table (Nat.succ_pos more), renamed, ← Function.iterate_succ_apply]

end Woven

private theorem course_of_selective (registrations : List (Registration m)) (object : Object m)
    (workshop : Workshop)
    (selective : ∀ registration ∈ registrations, registration.Selective) :
    ∃ last added,
      Course registrations object workshop object.table.shown
        (Chain.weave ⟨registrations⟩ object workshop).1 last added ∧
      Woven object (Chain.weave ⟨registrations⟩ object workshop).1 workshop.next last added := by
  induction registrations generalizing object workshop with
  | nil => exact ⟨_, 0, .done object workshop _, .refl object _⟩
  | cons registration rest ih =>
      have head : registration.Selective := selective registration List.mem_cons_self
      have forward := (head object workshop).1
      have later := ih (registration.apply object workshop).1
        (registration.apply object workshop).2
        (fun other member => selective other (List.mem_cons_of_mem _ member))
      rw [← Chain.weave_cons] at later
      rcases head.step_cases object workshop with
        ⟨reason, same⟩ | ⟨wraps, matched, serial, notBefore, step⟩
      · rw [same] at later
        obtain ⟨last, added, course, woven⟩ := later
        exact ⟨last, added, .untouched reason same course, woven.of_le forward⟩
      · rw [step] at later
        obtain ⟨last, added, course, woven⟩ := later
        change Course rest _ _ (registration.standardLayer serial object.table).table.shown _ _ _
          at course
        rw [Registration.standardLayer_shown] at course
        have interfaces := registration.standardLayer_interfaces serial object.table
        exact ⟨last, added + 1, .layered wraps matched step rfl rfl interfaces course,
          .of_layer matched notBefore (woven.of_le forward)⟩

/-- Weaving with hooks that leave an object alone or perform the standard wrap. The
weaving runs a course that starts from the capabilities that the object shows. If it
adds no layer, the very object comes back. Otherwise a new object does; its type
declares exactly the capabilities that show in the end, extends nothing, and is named
after the object's type, once more for every layer. The list only shrinks, and it is
not empty once there is a layer. -/
theorem Chain.weave_course (chain : Chain m) (object : Object m) (workshop : Workshop)
    (selective : ∀ registration ∈ chain.registrations, registration.Selective) :
    ∃ result last added, (chain.weave object workshop).1 = result ∧
      Course chain.registrations object workshop object.table.shown result last added ∧
      result.layers.length = object.layers.length + added ∧
      (added = 0 → result = object) ∧
      (0 < added →
        (object.serial < workshop.next → object.same result = false) ∧
        result.table.interfaces = last ∧
        result.table.parent? = none ∧
        result.table.name = (fun inner => "Proxy<" ++ inner ++ ">")^[added] object.table.name ∧
        last ≠ []) ∧
      last.Sublist object.table.shown := by
  obtain ⟨last, added, course, woven⟩ :=
    course_of_selective chain.registrations object workshop selective
  refine ⟨_, last, added, rfl, course, woven.layers, ?_, ?_, woven.narrowed⟩
  · intro none
    exact (woven.unchanged none).1
  · intro positive
    refine ⟨?_, ?_, ?_, ?_, woven.nonempty positive⟩
    · intro made
      have older : object.serial < (chain.weave object workshop).1.serial :=
        Nat.lt_of_lt_of_le made (woven.fresh positive)
      exact beq_eq_false_iff_ne.mpr (Nat.ne_of_lt older)
    · exact congrArg TypeTable.interfaces (woven.table positive)
    · exact congrArg TypeTable.parent? (woven.table positive)
    · exact congrArg TypeTable.name (woven.table positive)

namespace Greeting

def greets (tag : String) : Registration Run :=
  greetingOnly (Tagging.interceptor ⟨tag, none⟩ tag [greeting greeter]) rfl

def counts (tag : String) : Registration Run where
  interceptor := Tagging.interceptor ⟨tag, none⟩ tag [⟨counter, ⟨"count", []⟩⟩]
  registry := ⟨[⟨counter, [⟨"Counter", ⟨"count", []⟩⟩]⟩]⟩
  resolved := rfl

def greetsAgain (tag : String) : Registration Run :=
  { greets tag with
    interceptor := { (greets tag).interceptor with
      hook := fun wrap object => if !object.layers.isEmpty then wrap object else return object } }

/-- The first opts out, the third finds nothing that it could wrap. -/
def evening : Chain Run :=
  ⟨[greetsAgain "a", greets "b", counts "c", greetsAgain "d", greets "e"]⟩

theorem evening_selective : ∀ registration ∈ evening.registrations, registration.Selective := by
  have again (tag : String) : (greetsAgain tag).Selective :=
    Registration.selective_of_choice (fun object => !object.layers.isEmpty) rfl
  intro registration member
  simp only [evening, List.mem_cons, List.not_mem_nil, or_false] at member
  rcases member with rfl | rfl | rfl | rfl | rfl
  · exact again "a"
  · exact Registration.selective_of_standard rfl
  · exact Registration.selective_of_standard rfl
  · exact again "d"
  · exact Registration.selective_of_standard rfl

end Greeting

open Greeting in
theorem Chain.weave_course_evening :
    (∀ registration ∈ evening.registrations, registration.Selective) ∧
    ∃ result, (evening.weave (.base (service 0)) ⟨1, Logbook.empty none⟩).1 = result ∧
      Course evening.registrations (.base (service 0)) ⟨1, Logbook.empty none⟩
        Greeting.table.shown result [greeter] 3 ∧
      (Object.base (service 0)).same result = false ∧
      result.table.name = "Proxy<Proxy<Proxy<HelloService>>>" := by
  obtain ⟨result, last, added, rfl, course, layers, _unchanged, new, _narrowed⟩ :=
    Chain.weave_course evening (.base (service 0)) ⟨1, Logbook.empty none⟩ evening_selective
  have three : added = 3 := by
    have counted : (evening.weave (.base (service 0)) ⟨1, Logbook.empty none⟩).1.layers.length = 3 :=
      rfl
    have none : (Object.base (service 0 : Target Run)).layers.length = 0 := rfl
    omega
  subst three
  obtain ⟨different, interfaces, _parent, name, _nonempty⟩ := new (Nat.succ_pos 2)
  have shown : last = [greeter] := interfaces.symm
  subst shown
  exact ⟨evening_selective, _, rfl, course, different Nat.zero_lt_one, name⟩

end Interception
