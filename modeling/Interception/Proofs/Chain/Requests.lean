/-
A chain under requests. A request asks the chain to take an interceptor, as it is or
as some settings leave it. It ends in one of three ways: the settings are refused, a
signature does not resolve, or one registration is added at the end. So a chain holds
what its successful requests added, in their order, and failed requests leave no trace
in it.
-/

import Interception.Chain
import Interception.Proofs.Wrap.Routing

namespace Interception

open Interception.Text

variable {m : Type → Type}

/-- A request to take an interceptor: one that is handed over, one that others share, or
what settings make of a draft. -/
inductive Request (m : Type → Type) where
  | own (interceptor : Interceptor m)
  | shared (interceptor : Interceptor m)
  | configured (draft : Draft m) (settings : Settings)

namespace Request

/-- The interceptor to be registered, with its settings applied. -/
def interceptor : Request m → Interceptor m
  | .own interceptor => interceptor
  | .shared interceptor => interceptor
  | .configured draft settings => (draft.configure settings).interceptor

/-- Why the settings were refused. -/
def refusal : Request m → Option SetupError
  | .own _ => none
  | .shared _ => none
  | .configured draft settings => (draft.configure settings).refusal

def perform (request : Request m) (chain : Chain m) : Build (Chain m × Option SetupError) :=
  match request with
  | .own interceptor => chain.add interceptor
  | .shared interceptor => chain.add interceptor
  | .configured draft settings => chain.addConfigured draft settings

/-- What the request adds to a chain, if it succeeds. -/
def registration? (request : Request m) : Option (Registration m) :=
  match request.refusal with
  | some _ => none
  | none => (Registration.ofInterceptor request.interceptor).toOption

end Request

namespace Registration

theorem ofInterceptor_eq_ok_iff (interceptor : Interceptor m) (registration : Registration m) :
    ofInterceptor interceptor = .ok registration ↔
      registration.interceptor = interceptor ∧
        Registry.ofSignatures interceptor.signatures = .ok registration.registry := by
  constructor
  · intro made
    unfold ofInterceptor at made
    split at made
    · rename_i registry resolved
      cases made
      exact ⟨rfl, resolved⟩
    · cases made
  · rintro ⟨rfl, _resolved⟩
    exact registration.ofInterceptor_interceptor

theorem ofInterceptor_eq_error_iff (interceptor : Interceptor m) (error : SetupError) :
    ofInterceptor interceptor = .error error ↔
      Registry.ofSignatures interceptor.signatures = .error error := by
  unfold ofInterceptor
  split
  · rename_i registry resolved
    constructor
    · intro impossible
      cases impossible
    · intro failed
      cases resolved.symm.trans failed
  · rename_i other refused
    rw [refused, Except.error.injEq, Except.error.injEq]

end Registration

theorem Chain.add_of_registration (chain : Chain m) (registration : Registration m)
    (workshop : Workshop) :
    chain.add registration.interceptor workshop =
      ((chain.push registration, none), (registration.announce workshop).2) := by
  unfold add
  rw [Build.bind_apply, Registration.register_interceptor]
  rfl

theorem Chain.add_of_error (chain : Chain m) {interceptor : Interceptor m} {error : SetupError}
    (failed : Registry.ofSignatures interceptor.signatures = .error error) (workshop : Workshop) :
    chain.add interceptor workshop = ((chain, some error), workshop) := by
  have refused : Registration.ofInterceptor interceptor = .error error :=
    (Registration.ofInterceptor_eq_error_iff interceptor error).mpr failed
  unfold add Registration.register
  rw [refused]
  rfl

namespace Request

theorem perform_of_refusal {request : Request m} {error : SetupError}
    (refused : request.refusal = some error) (chain : Chain m) (workshop : Workshop) :
    request.perform chain workshop =
      ((chain, some error), { workshop with
        log := workshop.log.note (.misconfigured request.interceptor.name error) }) := by
  cases request with
  | own interceptor => cases refused
  | shared interceptor => cases refused
  | configured draft settings =>
      have attempted : (draft.configure settings).refusal = some error := refused
      unfold perform Chain.addConfigured
      simp only [attempted]
      rfl

theorem perform_of_no_refusal {request : Request m} (accepted : request.refusal = none)
    (chain : Chain m) : request.perform chain = chain.add request.interceptor := by
  cases request with
  | own interceptor => rfl
  | shared interceptor => rfl
  | configured draft settings =>
      have attempted : (draft.configure settings).refusal = none := accepted
      unfold perform Chain.addConfigured
      simp only [attempted]
      rfl

theorem registration?_eq_some_iff (request : Request m) (registration : Registration m) :
    request.registration? = some registration ↔
      request.refusal = none ∧ registration.interceptor = request.interceptor ∧
        Registry.ofSignatures request.interceptor.signatures = .ok registration.registry := by
  rw [← Registration.ofInterceptor_eq_ok_iff]
  unfold registration?
  cases request.refusal with
  | some error => simp
  | none =>
      cases Registration.ofInterceptor request.interceptor with
      | error error => simp [Except.toOption]
      | ok made => simp [Except.toOption]

/-- The three ends of a request. -/
theorem perform_cases (request : Request m) (chain : Chain m) (workshop : Workshop) :
    (∃ error, request.refusal = some error ∧ request.registration? = none ∧
      request.perform chain workshop =
        ((chain, some error), { workshop with
          log := workshop.log.note (.misconfigured request.interceptor.name error) })) ∨
    (∃ error, request.refusal = none ∧ request.registration? = none ∧
      Registry.ofSignatures request.interceptor.signatures = .error error ∧
      request.perform chain workshop = ((chain, some error), workshop)) ∨
    (∃ registration, request.refusal = none ∧ request.registration? = some registration ∧
      Registry.ofSignatures request.interceptor.signatures = .ok registration.registry ∧
      request.perform chain workshop =
        ((chain.push registration, none), (registration.announce workshop).2)) := by
  cases refused : request.refusal with
  | some error =>
      have nothing : request.registration? = none := by
        unfold registration?
        rw [refused]
      exact Or.inl ⟨error, rfl, nothing, perform_of_refusal refused chain workshop⟩
  | none =>
      have performed := perform_of_no_refusal refused chain
      cases built : Registry.ofSignatures request.interceptor.signatures with
      | error error =>
          have nothing : request.registration? = none := by
            have failed : Registration.ofInterceptor request.interceptor = .error error :=
              (Registration.ofInterceptor_eq_error_iff _ error).mpr built
            unfold registration?
            rw [refused, failed]
            rfl
          refine Or.inr (Or.inl ⟨error, rfl, nothing, rfl, ?_⟩)
          rw [performed]
          exact chain.add_of_error built workshop
      | ok registry =>
          let registration : Registration m := ⟨request.interceptor, registry, built⟩
          have added : request.registration? = some registration :=
            (request.registration?_eq_some_iff registration).mpr ⟨refused, rfl, built⟩
          refine Or.inr (Or.inr ⟨registration, rfl, added, rfl, ?_⟩)
          rw [performed]
          exact chain.add_of_registration registration workshop

theorem registrations_perform (request : Request m) (chain : Chain m) (workshop : Workshop) :
    (request.perform chain workshop).1.1.registrations =
      chain.registrations ++ [request].filterMap registration? := by
  rcases request.perform_cases chain workshop with
    ⟨error, _, nothing, performed⟩ | ⟨error, _, nothing, _, performed⟩ |
    ⟨registration, _, added, _, performed⟩
  · simp [performed, nothing]
  · simp [performed, nothing]
  · simp [performed, added, Chain.push]

theorem perform_eq_some_iff (request : Request m) (chain : Chain m) (workshop : Workshop)
    (error : SetupError) :
    (request.perform chain workshop).1.2 = some error ↔
      request.refusal = some error ∨
        request.refusal = none ∧
          Registry.ofSignatures request.interceptor.signatures = .error error := by
  rcases request.perform_cases chain workshop with
    ⟨found, refused, _, performed⟩ | ⟨found, accepted, _, failed, performed⟩ |
    ⟨registration, accepted, _, built, performed⟩
  · simp [performed, refused]
  · simp [performed, accepted, failed]
  · simp [performed, accepted, built]

theorem chain_eq_of_perform_failed {request : Request m} {chain : Chain m} {workshop : Workshop}
    (failed : (request.perform chain workshop).1.2 ≠ none) :
    (request.perform chain workshop).1.1 = chain := by
  rcases request.perform_cases chain workshop with
    ⟨error, _, _, performed⟩ | ⟨error, _, _, _, performed⟩ | ⟨registration, _, _, _, performed⟩
  · rw [performed]
  · rw [performed]
  · rw [performed] at failed
    exact absurd rfl failed

end Request

namespace Chain

/-- The chain after some requests, whatever became of them. -/
def performAll (chain : Chain m) (requests : List (Request m)) : Build (Chain m) :=
  requests.foldlM (fun current request => do return (← request.perform current).1) chain

theorem performAll_cons (chain : Chain m) (request : Request m) (rest : List (Request m))
    (workshop : Workshop) :
    chain.performAll (request :: rest) workshop =
      performAll (request.perform chain workshop).1.1 rest (request.perform chain workshop).2 := by
  unfold performAll
  rw [List.foldlM_cons, Build.bind_apply]
  rfl

theorem performAll_concat (chain : Chain m) (requests : List (Request m)) (request : Request m)
    (workshop : Workshop) :
    (chain.performAll (requests ++ [request]) workshop).1 =
      (request.perform (chain.performAll requests workshop).1
        (chain.performAll requests workshop).2).1.1 := by
  unfold performAll
  rw [List.foldlM_append, Build.bind_apply, List.foldlM_cons, Build.bind_apply]
  rfl

theorem registrations_performAll (chain : Chain m) (requests : List (Request m))
    (workshop : Workshop) :
    (chain.performAll requests workshop).1.registrations =
      chain.registrations ++ requests.filterMap Request.registration? := by
  induction requests generalizing chain workshop with
  | nil => exact (List.append_nil _).symm
  | cons request rest ih =>
      have step := request.registrations_perform chain workshop
      rw [performAll_cons, ih, step, List.append_assoc, ← List.filterMap_append]
      rfl

end Chain

theorem Registration.signature_resolves (registration : Registration m) {signature : Signature}
    (member : signature ∈ registration.interceptor.signatures) :
    isBlank signature.selector.name = false ∧
      ∃ method, signature.capability.method? signature.selector = some method := by
  obtain ⟨method, resolved⟩ := Registry.resolves_of_ofSignatures registration.resolved member
  have found := signature.resolve_eq_ok_iff.mp resolved
  exact ⟨found.1, method, found.2⟩

/-- A new chain, after any requests, gets one more. The chain holds what the successful
requests add, in their order; a request adds the interceptor, as its settings leave it,
with the registry of its signatures. The request fails when the settings are refused,
with that error and without a look at the signatures, or when they are not and the
signatures do not build, with the error of the building. A failed request leaves the
chain as it was, and no signature in the chain is blank or fails to resolve. -/
theorem Chain.request_outcome (requests : List (Request m)) (request : Request m)
    (workshop : Workshop) :
    ∃ before during after answer added,
      Chain.empty.performAll requests workshop = (before, during) ∧
      (request.perform before during).1 = (after, answer) ∧
      (Chain.empty.performAll (requests ++ [request]) workshop).1 = after ∧
      before.registrations = requests.filterMap Request.registration? ∧
      added = (requests ++ [request]).filterMap Request.registration? ∧
      (after.registrations = added ∧ after.size = added.length ∧
        after.isEmpty = added.isEmpty ∧
        after.interceptors = added.map Registration.interceptor) ∧
      (∀ (other : Request m) registration, other.registration? = some registration ↔
        other.refusal = none ∧ registration.interceptor = other.interceptor ∧
          Registry.ofSignatures other.interceptor.signatures = .ok registration.registry) ∧
      (∀ error, answer = some error ↔
        request.refusal = some error ∨
          request.refusal = none ∧
            Registry.ofSignatures request.interceptor.signatures = .error error) ∧
      (∀ error, request.refusal = some error →
        request.perform before during =
          ((before, some error), { during with
            log := during.log.note (.misconfigured request.interceptor.name error) })) ∧
      (answer ≠ none → after = before) ∧
      ∀ registration ∈ after.registrations,
        ∀ signature ∈ registration.interceptor.signatures,
          isBlank signature.selector.name = false ∧
            ∃ method, signature.capability.method? signature.selector = some method := by
  let before := (Chain.empty.performAll requests workshop).1
  let during := (Chain.empty.performAll requests workshop).2
  have held : (Chain.empty.performAll (requests ++ [request]) workshop).1.registrations =
      (requests ++ [request]).filterMap Request.registration? :=
    registrations_performAll Chain.empty (requests ++ [request]) workshop
  have last := performAll_concat Chain.empty requests request workshop
  rw [last] at held
  refine ⟨before, during, (request.perform before during).1.1, (request.perform before during).1.2,
    _, rfl, rfl, last, registrations_performAll Chain.empty requests workshop, rfl, ?_, ?_, ?_, ?_,
    ?_, ?_⟩
  · exact ⟨held, congrArg List.length held, congrArg List.isEmpty held,
      congrArg (List.map Registration.interceptor) held⟩
  · intro other registration
    exact other.registration?_eq_some_iff registration
  · intro error
    exact request.perform_eq_some_iff before during error
  · intro error refused
    exact Request.perform_of_refusal refused before during
  · intro failed
    exact Request.chain_eq_of_perform_failed failed
  · intro registration _held signature member
    exact registration.signature_resolves member

end Interception
