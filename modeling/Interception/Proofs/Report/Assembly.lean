/-
What is logged while a chain is assembled and an object woven. A request that succeeds
leaves two lines, for the registry that was built and for the registration; one whose
settings are refused leaves a warning; one with a signature that does not resolve leaves
nothing. Weaving leaves one line for every registration, which says whether it wrapped the
object as it was then.
-/

import Interception.Proofs.Chain.Requests
import Interception.Proofs.Registry.Filing
import Interception.Proofs.Report.Logbook
import Interception.Proofs.Weave.Course

namespace Interception

open Capability (names)

variable {m : Type → Type}

/-! ### Registering -/

/-- How many names the capabilities of the signatures have. -/
def Handler.capabilityCount (handler : Handler m) : Nat :=
  (names (handler.signatures.map Signature.capability)).toFinset.card

theorem Capability.length_distinct (capabilities : List Capability) :
    (distinct capabilities).length = (names capabilities).toFinset.card := by
  have same : (names capabilities).toFinset = (names (distinct capabilities)).toFinset := by
    ext name
    rw [List.mem_toFinset, List.mem_toFinset, name_mem_distinct]
  rw [same, List.toFinset_card_of_nodup (distinct_nodup capabilities), names, List.length_map]

theorem Registration.length_keys (registration : Registration m) :
    registration.registry.keys.length = registration.interceptor.capabilityCount := by
  rw [Registry.keys_of_ofSignatures registration.resolved, Capability.length_distinct,
    Handler.capabilityCount]

/-- How many pairs of a name and a method the signatures give: the name of the capability and
the method that it resolves to. -/
def Handler.methodCount (handler : Handler m) : Nat :=
  (Signature.filings handler.signatures).toFinset.card

/-- The two lines of a registration. -/
def Registration.report (registration : Registration m) : List Notice :=
  [.registryBuilt registration.interceptor.capabilityCount registration.registry.size,
    .registered registration.name registration.registry.size]

theorem Registration.announce_eq (registration : Registration m) (workshop : Workshop) :
    (registration.announce workshop).2 =
      { workshop with log := workshop.log.extended registration.report } := by
  have announced : (registration.announce workshop).2 = { workshop with
      log := (workshop.log.note
        (.registryBuilt registration.registry.keys.length registration.registry.size)).note
          (.registered registration.name registration.registry.size) } := rfl
  rw [announced, registration.length_keys, Logbook.note_eq_extended, Logbook.note_eq_extended,
    Logbook.extended_append]
  rfl

namespace Request

/-- What a request leaves in the log. -/
def report (request : Request m) : List Notice :=
  match request.refusal with
  | some error => [.misconfigured request.interceptor.name error]
  | none =>
      match Registry.ofSignatures request.interceptor.signatures with
      | .error _ => []
      | .ok registry =>
          [.registryBuilt request.interceptor.capabilityCount registry.size,
            .registered request.interceptor.name registry.size]

theorem report_of_refusal {request : Request m} {error : SetupError}
    (refused : request.refusal = some error) :
    request.report = [.misconfigured request.interceptor.name error] := by
  unfold report
  rw [refused]

theorem report_of_unresolved {request : Request m} {error : SetupError}
    (accepted : request.refusal = none)
    (failed : Registry.ofSignatures request.interceptor.signatures = .error error) :
    request.report = [] := by
  unfold report
  rw [accepted, failed]

theorem report_of_registration {request : Request m} {registration : Registration m}
    (added : request.registration? = some registration) :
    request.report = registration.report := by
  obtain ⟨accepted, same, built⟩ := (request.registration?_eq_some_iff registration).mp added
  unfold report Registration.report Registration.name
  rw [accepted, built, same]

/-- A request touches nothing in the workshop but the log. -/
theorem perform_eq (request : Request m) (chain : Chain m) (workshop : Workshop) :
    (request.perform chain workshop).2 =
      { workshop with log := workshop.log.extended request.report } := by
  rcases request.perform_cases chain workshop with
    ⟨error, refused, _, performed⟩ | ⟨error, accepted, _, failed, performed⟩ |
    ⟨registration, _, added, _, performed⟩
  · rw [performed, report_of_refusal refused, Logbook.note_eq_extended]
  · rw [performed, report_of_unresolved accepted failed, Logbook.extended_nil]
  · rw [performed, report_of_registration added, Registration.announce_eq]

/-- How a request ends, and the lines that it leaves then. -/
inductive Reported (request : Request m) (chain : Chain m) : Chain m × Option SetupError → Prop
  | added (registration : Registration m)
      (interceptor : registration.interceptor = request.interceptor)
      (size : registration.registry.size = request.interceptor.methodCount)
      (report : request.report =
        [.registryBuilt request.interceptor.capabilityCount registration.registry.size,
          .registered request.interceptor.name registration.registry.size])
      (levels : request.report.map Notice.level = [.debug, .debug])
      (texts : request.report.map Notice.text =
        ["Built signature registry: " ++ toString request.interceptor.capabilityCount ++
            " capabilities, " ++ toString registration.registry.size ++ " methods",
          "Registered interceptor " ++ request.interceptor.name ++ " (" ++
            toString registration.registry.size ++ " intercepted methods)"]) :
      Reported request chain (chain.push registration, none)
  | unresolved (error : SetupError) (accepted : request.refusal = none)
      (failed : Registry.ofSignatures request.interceptor.signatures = .error error)
      (report : request.report = []) :
      Reported request chain (chain, some error)
  | refused (error : SetupError) (refusal : request.refusal = some error)
      (report : request.report = [.misconfigured request.interceptor.name error])
      (levels : request.report.map Notice.level = [.warn])
      (texts : request.report.map Notice.text =
        ["Failed to configure interceptor " ++ request.interceptor.name ++ ": " ++
          error.message]) :
      Reported request chain (chain, some error)

theorem reported (request : Request m) (chain : Chain m) (workshop : Workshop) :
    request.Reported chain (request.perform chain workshop).1 := by
  rcases request.perform_cases chain workshop with
    ⟨error, refused, _, performed⟩ | ⟨error, accepted, _, failed, performed⟩ |
    ⟨registration, _, added, _, performed⟩
  · have report := report_of_refusal refused
    rw [performed]
    exact .refused error refused report (congrArg (List.map Notice.level) report)
      (congrArg (List.map Notice.text) report)
  · rw [performed]
    exact .unresolved error accepted failed (report_of_unresolved accepted failed)
  · obtain ⟨_, same, _⟩ := (request.registration?_eq_some_iff registration).mp added
    have report := report_of_registration added
    unfold Registration.report Registration.name at report
    rw [same] at report
    have size : registration.registry.size = request.interceptor.methodCount := by
      rw [Registry.size_of_ofSignatures registration.resolved, same, Handler.methodCount]
    rw [performed]
    exact .added registration same size report (congrArg (List.map Notice.level) report)
      (congrArg (List.map Notice.text) report)

end Request

namespace Chain

theorem performAll_eq (chain : Chain m) (requests : List (Request m)) (workshop : Workshop) :
    (chain.performAll requests workshop).2 =
      { workshop with log := workshop.log.extended (requests.flatMap Request.report) } := by
  induction requests generalizing chain workshop with
  | nil =>
      rw [List.flatMap_nil, Logbook.extended_nil]
      rfl
  | cons request rest ih =>
      rw [performAll_cons, ih, Request.perform_eq, Logbook.extended_append, List.flatMap_cons]

theorem standard_of_performAll {requests : List (Request m)} {workshop : Workshop}
    (standard : ∀ request ∈ requests, request.interceptor.hook = Hook.standard)
    {registration : Registration m}
    (member : registration ∈ (Chain.empty.performAll requests workshop).1.registrations) :
    registration.interceptor.hook = Hook.standard := by
  rw [registrations_performAll, Chain.empty, List.nil_append, List.mem_filterMap] at member
  obtain ⟨request, asked, added⟩ := member
  obtain ⟨_, same, _⟩ := (request.registration?_eq_some_iff registration).mp added
  rw [same]
  exact standard request asked

end Chain

/-! ### Weaving -/

/-- A text starts as its first part does. -/
theorem head?_toList_append (first rest : String) {start : Char}
    (starts : first.toList.head? = some start) : (first ++ rest).toList.head? = some start := by
  rw [String.toList_append, List.head?_append, starts, Option.some_or]

theorem Notice.text_wrapping_ne_inapplicable (target interceptor : String)
    (capabilities : List String) (name other : String) :
    (Notice.wrapping target interceptor capabilities).text ≠
      (Notice.inapplicable name other).text := by
  have wrapping : (Notice.wrapping target interceptor capabilities).text.toList.head? =
      some 'W' := by
    unfold text
    simp only [String.append_assoc]
    exact head?_toList_append "Wrapping " _ rfl
  have inapplicable : (Notice.inapplicable name other).text.toList.head? = some 'I' := by
    unfold text
    simp only [String.append_assoc]
    exact head?_toList_append "Interceptor " _ rfl
  intro same
  rw [same, inapplicable] at wrapping
  cases wrapping

namespace Registration

/-- What the standard wrap says about an object. -/
def remark (registration : Registration m) (object : Object m) : Notice :=
  if (registration.keeps object.table.shown).isEmpty then
    .inapplicable registration.name object.table.name
  else
    .wrapping object.table.name registration.name (names (registration.keeps object.table.shown))

theorem log_wrap (registration : Registration m) (object : Object m) (workshop : Workshop) :
    (registration.wrap object workshop).2.log =
      workshop.log.extended [registration.remark object] := by
  unfold remark
  by_cases unmatched : registration.keeps object.table.shown = []
  · rw [wrap_of_unmatched unmatched, unmatched, Logbook.note_eq_extended]
    rfl
  · rw [wrap_of_matched unmatched, List.isEmpty_eq_false_iff.mpr unmatched,
      Logbook.note_eq_extended]
    rfl

/-- The object is left alone and said to be, or it gets a layer that shows what is said. -/
theorem remark_cases (registration : Registration m) (object : Object m) (workshop : Workshop) :
    (registration.wrap object workshop).1 = object ∧
        registration.remark object = .inapplicable registration.name object.table.name ∨
      ∃ layer, layer.serial = workshop.next ∧
        (registration.wrap object workshop).1 = .wrapped layer object ∧
        registration.remark object = .wrapping object.table.name registration.name
          (names layer.table.interfaces) := by
  unfold remark
  rcases registration.wrap_cases object workshop with ⟨unmatched, same⟩ | ⟨matched, wrapped⟩
  · rw [unmatched]
    exact Or.inl ⟨same, rfl⟩
  · rw [List.isEmpty_eq_false_iff.mpr matched]
    refine Or.inr ⟨registration.standardLayer workshop.next object.table, rfl, wrapped, ?_⟩
    rw [standardLayer_interfaces]
    rfl

/-- A notice says what became of an object: that it was wrapped, with the capabilities that show
now, exactly if it got a layer, and that the interceptor does not apply exactly if it is left
as it was. -/
structure Says (registration : Registration m) (current next : Object m) (notice : Notice) :
    Prop where
  level : notice.level = .debug
  wrapped : (∃ layer, next = .wrapped layer current) ↔
    notice = .wrapping current.table.name registration.name (names next.table.interfaces)
  wrappedText : (∃ layer, next = .wrapped layer current) ↔
    notice.text = "Wrapping " ++ current.table.name ++ " with interceptor " ++
      registration.name ++ " for [" ++ ", ".intercalate (names next.table.interfaces) ++ "]"
  same : next = current ↔ notice = .inapplicable registration.name current.table.name
  sameText : next = current ↔
    notice.text = "Interceptor " ++ registration.name ++ " does not apply to " ++
      current.table.name ++ "; leaving it unwrapped"

variable (registration : Registration m) (object : Object m) (workshop : Workshop)

theorem says_remark :
    registration.Says object (registration.wrap object workshop).1
      (registration.remark object) := by
  rcases registration.remark_cases object workshop with
    ⟨same, remark⟩ | ⟨layer, _, wrapped, remark⟩
  · have bare : ¬∃ layer, object = .wrapped layer object := by
      rintro ⟨layer, impossible⟩
      exact Object.wrapped_ne layer object impossible.symm
    rw [same, remark]
    refine ⟨rfl, iff_of_false bare Notice.noConfusion, iff_of_false bare ?_,
      iff_of_true rfl rfl, iff_of_true rfl rfl⟩
    exact (Notice.text_wrapping_ne_inapplicable _ _ _ _ _).symm
  · have changed : .wrapped layer object ≠ object := Object.wrapped_ne layer object
    rw [wrapped, remark]
    refine ⟨rfl, iff_of_true ⟨layer, rfl⟩ rfl, iff_of_true ⟨layer, rfl⟩ rfl,
      iff_of_false changed Notice.noConfusion, iff_of_false changed ?_⟩
    exact Notice.text_wrapping_ne_inapplicable _ _ _ _ _

/-- An object made before keeps its identity only if it is left alone. -/
theorem same_iff_eq_wrap (made : object.serial < workshop.next) :
    object.same (registration.wrap object workshop).1 = true ↔
      (registration.wrap object workshop).1 = object := by
  rcases registration.remark_cases object workshop with
    ⟨same, _⟩ | ⟨layer, serial, wrapped, _⟩
  · rw [same]
    exact iff_of_true (beq_self_eq_true object.serial) rfl
  · rw [wrapped]
    refine iff_of_false ?_ (Object.wrapped_ne layer object)
    intro equal
    have older : object.serial = workshop.next := (beq_iff_eq.mp equal).trans serial
    exact Nat.ne_of_lt made older

end Registration

namespace Chain

/-- What a weaving by standard wraps says, one registration after the other. -/
def remarks : List (Registration m) → Object m → Workshop → List Notice
  | [], _, _ => []
  | registration :: rest, object, workshop =>
      registration.remark object ::
        remarks rest (registration.wrap object workshop).1 (registration.wrap object workshop).2

section

variable {registrations : List (Registration m)}

theorem length_remarks (registrations : List (Registration m)) (object : Object m)
    (workshop : Workshop) :
    (remarks registrations object workshop).length = registrations.length := by
  induction registrations generalizing object workshop with
  | nil => rfl
  | cons registration rest ih => rw [remarks, List.length_cons, List.length_cons, ih]

theorem weave_cons_of_standard {registration : Registration m}
    (standard : registration.interceptor.hook = Hook.standard) (rest : List (Registration m))
    (object : Object m) (workshop : Workshop) :
    weave ⟨registration :: rest⟩ object workshop =
      weave ⟨rest⟩ (registration.wrap object workshop).1 (registration.wrap object workshop).2 := by
  rw [weave_cons, Registration.apply_of_standard standard]

theorem log_weave
    (standard : ∀ registration ∈ registrations, registration.interceptor.hook = Hook.standard)
    (object : Object m) (workshop : Workshop) :
    (weave ⟨registrations⟩ object workshop).2.log =
      workshop.log.extended (remarks registrations object workshop) := by
  induction registrations generalizing object workshop with
  | nil => exact workshop.log.extended_nil.symm
  | cons registration rest ih =>
      obtain ⟨own, others⟩ := List.forall_mem_cons.mp standard
      rw [weave_cons_of_standard own, ih others, registration.log_wrap, Logbook.extended_append]
      rfl

theorem remarks_append
    (standard : ∀ registration ∈ registrations, registration.interceptor.hook = Hook.standard)
    (later : List (Registration m)) (object : Object m) (workshop : Workshop) :
    remarks (registrations ++ later) object workshop =
      remarks registrations object workshop ++
        remarks later (weave ⟨registrations⟩ object workshop).1
          (weave ⟨registrations⟩ object workshop).2 := by
  induction registrations generalizing object workshop with
  | nil => rfl
  | cons registration rest ih =>
      obtain ⟨own, others⟩ := List.forall_mem_cons.mp standard
      rw [weave_cons_of_standard own, List.cons_append, remarks, ih others]
      rfl

/-- Objects that were made before stay older than whatever is made next. -/
theorem serial_weave_lt
    (standard : ∀ registration ∈ registrations, registration.interceptor.hook = Hook.standard)
    {object : Object m} {workshop : Workshop} (made : object.serial < workshop.next) :
    (weave ⟨registrations⟩ object workshop).1.serial <
      (weave ⟨registrations⟩ object workshop).2.next := by
  induction registrations generalizing object workshop with
  | nil => exact made
  | cons registration rest ih =>
      obtain ⟨own, others⟩ := List.forall_mem_cons.mp standard
      rw [weave_cons_of_standard own]
      apply ih others
      by_cases unmatched : registration.keeps object.table.shown = []
      · rw [Registration.wrap_of_unmatched unmatched]
        exact made
      · rw [Registration.wrap_of_matched unmatched]
        exact Nat.lt_succ_self workshop.next

/-- The remark of one registration among others is about the object as those before it left
it. -/
theorem remark_at {earlier later : List (Registration m)} {registration : Registration m}
    (standard : ∀ other ∈ earlier ++ registration :: later,
      other.interceptor.hook = Hook.standard) (object : Object m) (workshop : Workshop) :
    weave ⟨earlier ++ [registration]⟩ object workshop =
        registration.wrap (weave ⟨earlier⟩ object workshop).1
          (weave ⟨earlier⟩ object workshop).2 ∧
      (remarks (earlier ++ registration :: later) object workshop)[earlier.length]? =
        some (registration.remark (weave ⟨earlier⟩ object workshop).1) := by
  obtain ⟨before, others⟩ := List.forall_mem_append.mp standard
  obtain ⟨own, _⟩ := List.forall_mem_cons.mp others
  constructor
  · rw [weave_append, weave_cons_of_standard own]
    rfl
  · have length := length_remarks earlier object workshop
    rw [remarks_append before, ← length, List.getElem?_append_right (Nat.le_refl _),
      Nat.sub_self]
    rfl

end

/-- Assembling a chain from any requests and weaving an object with it, all by standard
wraps. The log grows by the reports of the requests, and then by one notice for every
registration, in order, each with its level and its text. A request that adds a registration
reports the registry, with the number of names that the capabilities of its signatures have
and with the number of methods in it, and then the registration with that number; one with a
signature that does not resolve reports nothing; one whose settings are refused warns with
the error that it answers. The notice for a registration says that the object, as it is by
then, is wrapped, and names the capabilities that the new layer shows, exactly when it gets a
layer; it says that the interceptor does not apply exactly when the object is left as it is,
which is when it keeps its identity. -/
theorem assembly_log (requests : List (Request m)) (object : Object m) (workshop : Workshop)
    (standard : ∀ request ∈ requests, request.interceptor.hook = Hook.standard) :
    ∃ chain during result final notices,
      Chain.empty.performAll requests workshop = (chain, during) ∧
      chain.weave object during = (result, final) ∧
      during.log = workshop.log.extended (requests.flatMap Request.report) ∧
      final.log = during.log.extended notices ∧
      (∀ request ∈ requests, ∀ (sofar : Chain m) before,
        (request.perform sofar before).2.log = before.log.extended request.report ∧
        request.Reported sofar (request.perform sofar before).1) ∧
      notices.length = chain.registrations.length ∧
      ∀ earlier registration later, chain.registrations = earlier ++ registration :: later →
        ∃ current next notice,
          (weave ⟨earlier⟩ object during).1 = current ∧
          (weave ⟨earlier ++ [registration]⟩ object during).1 = next ∧
          notices[earlier.length]? = some notice ∧
          registration.Says current next notice ∧
          (object.serial < workshop.next → (current.same next = true ↔ next = current)) := by
  let chain := (Chain.empty.performAll requests workshop).1
  let during := (Chain.empty.performAll requests workshop).2
  have performed : during = _ := performAll_eq Chain.empty requests workshop
  have hooks : ∀ registration ∈ chain.registrations,
      registration.interceptor.hook = Hook.standard :=
    fun registration member => standard_of_performAll standard member
  refine ⟨chain, during, _, _, remarks chain.registrations object during, rfl, rfl,
    congrArg Workshop.log performed, log_weave hooks object during, ?_,
    length_remarks chain.registrations object during, ?_⟩
  · intro request _asked sofar before
    exact ⟨congrArg Workshop.log (request.perform_eq sofar before),
      request.reported sofar before⟩
  · intro earlier registration later split
    rw [split] at hooks
    obtain ⟨step, remark⟩ := remark_at hooks object during
    let current := (weave ⟨earlier⟩ object during).1
    let meanwhile := (weave ⟨earlier⟩ object during).2
    have next : (weave ⟨earlier ++ [registration]⟩ object during).1 =
        (registration.wrap current meanwhile).1 := congrArg Prod.fst step
    rw [split, next]
    refine ⟨current, _, _, rfl, rfl, remark, registration.says_remark current meanwhile, ?_⟩
    intro made
    have older : object.serial < during.next := by
      rw [performed]
      exact made
    exact registration.same_iff_eq_wrap current meanwhile
      (serial_weave_lt (List.forall_mem_append.mp hooks).1 older)

end Chain

namespace Greeting

def shouting : Interceptor Run :=
  Tagging.interceptor ⟨"s", none⟩ "s" [⟨greeter, ⟨"shout", ["String"]⟩⟩]

/-- Whatever the settings, something is missing. -/
def unsettled : Draft Run where
  interceptor := (greets "u").interceptor
  configure _ := ⟨(greets "u").interceptor, some (.missingSetting "tag")⟩

def orders : List (Request Run) :=
  [.own (greets "a").interceptor, .own shouting, .configured unsettled Settings.empty,
    .shared (counts "b").interceptor]

end Greeting

open Greeting in
/-- The first of two registrations wraps the service, and then the second finds nothing. -/
theorem Chain.assembly_log_orders :
    (∀ request ∈ orders, request.interceptor.hook = Hook.standard) ∧
    ∃ chain during result final,
      Chain.empty.performAll orders ⟨1, Logbook.empty (some .debug)⟩ = (chain, during) ∧
      chain.weave (.base (service 0)) during = (result, final) ∧
      during.log.notices =
        [.registryBuilt 1 1, .registered "a" 1, .misconfigured "u" (.missingSetting "tag"),
          .registryBuilt 1 1, .registered "b" 1] ∧
      final.log.notices = during.log.notices ++
        [.wrapping "HelloService" "a" ["Greeter"], .inapplicable "b" "Proxy<HelloService>"] ∧
      final.log.notices.map Notice.text =
        ["Built signature registry: 1 capabilities, 1 methods",
          "Registered interceptor a (1 intercepted methods)",
          "Failed to configure interceptor u: Invalid property 'tag': property is required",
          "Built signature registry: 1 capabilities, 1 methods",
          "Registered interceptor b (1 intercepted methods)",
          "Wrapping HelloService with interceptor a for [Greeter]",
          "Interceptor b does not apply to Proxy<HelloService>; leaving it unwrapped"] := by
  have standard : ∀ request ∈ orders, request.interceptor.hook = Hook.standard := by
    intro request member
    simp only [orders, List.mem_cons, List.not_mem_nil, or_false] at member
    rcases member with rfl | rfl | rfl | rfl <;> rfl
  obtain ⟨chain, during, result, final, notices, performed, woven, reported, remarked, _⟩ :=
    Chain.assembly_log orders (.base (service 0)) ⟨1, Logbook.empty (some .debug)⟩ standard
  refine ⟨standard, chain, during, result, final, performed, woven, ?_, ?_, ?_⟩
  · rw [reported]
    rfl
  · cases performed
    cases woven
    rfl
  · cases performed
    cases woven
    rfl

end Interception
