/-
Tagging interceptors in a chain. Each of them asks for one method, among whatever else it
asks for. So the capability that declares the method is a key of each, it stays in sight
through all of the layers however much these hide, and every layer routes the method. The
last registered comes first: it writes its entry down, passes the call on and marks the
text that comes back, or answers by itself, and then nothing further inside is reached.
-/

import Interception.Proofs.Capability.Lookup
import Interception.Proofs.Chain.Requests
import Interception.Proofs.Weave.Course
import Interception.Proofs.Weave.UpToLog

namespace Interception

/-- The text in front of a value that is a text; any other value as it is. -/
def Value.labelled (label : String) : Value → Value
  | .string text => .string (label ++ text)
  | other => other

namespace Tagging

/-- The tags of the list, the last one in front. -/
def labels : List Tagging → String
  | [] => ""
  | tagging :: rest => labels rest ++ ("[" ++ tagging.tag ++ "] ")

/-- The entries for a call that meets the last one first. -/
def entries (method : Method) (taggings : List Tagging) : List String :=
  taggings.reverse.map (fun tagging => tagging.entry method)

theorem labelled_nil (value : Value) : value.labelled (labels []) = value := by
  cases value with
  | string text => exact congrArg Value.string (String.empty_append)
  | _ => rfl

theorem labelled_mark (tagging : Tagging) (rest : List Tagging) (value : Value) :
    (tagging.mark value).labelled (labels rest) = value.labelled (labels (tagging :: rest)) := by
  cases value with
  | string text => exact congrArg Value.string (String.append_assoc.symm)
  | _ => rfl

theorem map_labelled_nil (outcome : Outcome) : outcome.map (·.labelled (labels [])) = outcome := by
  cases outcome with
  | error error => rfl
  | ok value => exact congrArg Except.ok (labelled_nil value)

theorem map_labelled_mark (tagging : Tagging) (rest : List Tagging) (outcome : Outcome) :
    (outcome.map tagging.mark).map (·.labelled (labels rest)) =
      outcome.map (·.labelled (labels (tagging :: rest))) := by
  cases outcome with
  | error error => rfl
  | ok value => exact congrArg Except.ok (tagging.labelled_mark rest value)

theorem entries_cons (method : Method) (tagging : Tagging) (rest : List Tagging) :
    entries method (tagging :: rest) = entries method rest ++ [tagging.entry method] := by
  unfold entries
  rw [List.reverse_cons, List.map_append]
  rfl

end Tagging

open Tagging (labels entries)

/-- A tagging interceptor that can be registered, and asks for the method among others. -/
structure Tagger (method : Method) where
  tagging : Tagging
  name : String
  signatures : List Signature
  registry : Registry
  resolved : Registry.ofSignatures signatures = .ok registry
  asks : ∃ signature ∈ signatures,
    signature.capability.name = method.declaring ∧ signature.resolve = .ok method

/-- Some capability of the name shows. -/
def TypeTable.Shows (table : TypeTable) (name : String) : Prop :=
  ∃ capability ∈ table.shown, capability.name = name

namespace Tagger

variable {method : Method}

def interceptor (tagger : Tagger method) : Interceptor Run :=
  tagger.tagging.interceptor tagger.name tagger.signatures

def registration (tagger : Tagger method) : Registration Run :=
  ⟨tagger.interceptor, tagger.registry, tagger.resolved⟩

theorem hasKey (tagger : Tagger method) {capability : Capability}
    (named : capability.name = method.declaring) :
    tagger.registration.registry.hasKey capability = true := by
  obtain ⟨signature, member, same, _resolves⟩ := tagger.asks
  change tagger.registry.hasKey capability = true
  rw [Registry.hasKey_iff, Registry.hasName_iff_of_ofSignatures tagger.resolved]
  exact ⟨signature, member, same.trans named.symm⟩

theorem intercepts (tagger : Tagger method) :
    tagger.registration.registry.intercepts method = true :=
  (Registry.intercepts_iff_of_ofSignatures tagger.resolved method).mpr tagger.asks

/-- The object in the layer of the tagger. -/
def layered (tagger : Tagger method) (object : Object Run) (serial : Nat) : Object Run :=
  .wrapped (tagger.registration.standardLayer serial object.table) object

section

variable (tagger : Tagger method) {object : Object Run}
  (shows : object.table.Shows method.declaring)

include shows

theorem keeps_declaring :
    ∃ capability ∈ tagger.registration.keeps object.table.shown,
      capability.name = method.declaring := by
  obtain ⟨capability, shown, named⟩ := shows
  exact ⟨capability, List.mem_filter.mpr ⟨shown, tagger.hasKey named⟩, named⟩

theorem apply_eq (workshop : Workshop) :
    (tagger.registration.apply object workshop).1 = tagger.layered object workshop.next := by
  obtain ⟨capability, kept, _named⟩ := tagger.keeps_declaring shows
  rw [Registration.apply_of_standard rfl, Registration.wrap_of_matched (List.ne_nil_of_mem kept)]
  rfl

theorem shows_layered (serial : Nat) :
    (tagger.layered object serial).table.Shows method.declaring := by
  change (tagger.registration.standardLayer serial object.table).table.Shows method.declaring
  unfold TypeTable.Shows
  rw [Registration.standardLayer_shown]
  exact tagger.keeps_declaring shows

theorem routes_layered (serial : Nat) :
    (tagger.registration.standardLayer serial object.table).routes method = true := by
  obtain ⟨capability, kept, named⟩ := tagger.keeps_declaring shows
  rw [Registration.standardLayer_routes, tagger.intercepts, Bool.true_and, List.any_eq_true]
  exact ⟨capability, kept, named ▸ capability.isNamed_name⟩

/-- One layer. The entry is written down first. Then the layer answers by itself, or what is
inside does and the layer marks the answer. -/
theorem invoke_layered (serial : Nat) (args : List Value) (world : World) :
    ∃ reached : World,
      reached.Alike (world.written [tagger.tagging.entry method]) ∧
      (tagger.layered object serial).invoke method args world =
        match tagger.tagging.shortCircuit with
        | some value => (.ok value, reached)
        | none => ((object.invoke method args reached).1.map tagger.tagging.mark,
            (object.invoke method args reached).2) := by
  unfold layered
  rw [Object.invoke_of_routes (tagger.routes_layered shows serial)]
  let noted : World := { world with log := world.log.note (.entered method tagger.name) }
  refine ⟨noted.written [tagger.tagging.entry method], ⟨rfl, rfl, rfl⟩, ?_⟩
  change tagger.tagging.intercept ⟨object.target, method, args⟩ noted = _
  unfold Tagging.intercept
  cases tagger.tagging.shortCircuit with
  | some value => rfl
  | none => rfl

end

def request (tagger : Tagger method) : Request Run :=
  .own tagger.interceptor

def chain (taggers : List (Tagger method)) : Chain Run :=
  ⟨taggers.map registration⟩

def taggings (taggers : List (Tagger method)) : List Tagging :=
  taggers.map tagging

theorem performAll_request (taggers : List (Tagger method)) (workshop : Workshop) :
    (Chain.empty.performAll (taggers.map request) workshop).1 = chain taggers := by
  have added : Request.registration? ∘ request =
      (fun tagger : Tagger method => some tagger.registration) := by
    funext tagger
    exact (tagger.request.registration?_eq_some_iff tagger.registration).mpr
      ⟨rfl, rfl, tagger.resolved⟩
  have held := Chain.empty.registrations_performAll (taggers.map request) workshop
  rw [List.filterMap_map, added, List.filterMap_eq_map'] at held
  exact congrArg Chain.mk held

theorem weave_append (first second : List (Tagger method)) (object : Object Run)
    (workshop : Workshop) :
    ∃ later : Workshop, ((chain (first ++ second)).weave object workshop).1 =
      ((chain second).weave ((chain first).weave object workshop).1 later).1 := by
  refine ⟨((chain first).weave object workshop).2, ?_⟩
  unfold chain
  rw [List.map_append, Chain.weave_append]

theorem weave_cons (tagger : Tagger method) (rest : List (Tagger method)) {object : Object Run}
    (shows : object.table.Shows method.declaring) (workshop : Workshop) :
    ∃ later : Workshop, ((chain (tagger :: rest)).weave object workshop).1 =
      ((chain rest).weave (tagger.layered object workshop.next) later).1 := by
  refine ⟨(tagger.registration.apply object workshop).2, ?_⟩
  unfold chain
  rw [List.map_cons, Chain.weave_cons, tagger.apply_eq shows]

/- Both inductions are on the taggers, the first of them innermost. What carries them is that
the declaring capability shows on the object so far. -/

theorem shows_weave (taggers : List (Tagger method)) {object : Object Run}
    (shows : object.table.Shows method.declaring) (workshop : Workshop) :
    ((chain taggers).weave object workshop).1.table.Shows method.declaring := by
  induction taggers generalizing object workshop with
  | nil => exact shows
  | cons tagger rest ih =>
      obtain ⟨later, step⟩ := weave_cons tagger rest shows workshop
      rw [step]
      exact ih (tagger.shows_layered shows workshop.next) later

theorem alike_cons (tagger : Tagger method) (rest : List (Tagger method))
    {world between reached : World}
    (first : between.Alike (world.written (entries method (taggings rest))))
    (second : reached.Alike (between.written [tagger.tagging.entry method])) :
    reached.Alike (world.written (entries method (taggings (tagger :: rest)))) := by
  have all : (world.written (entries method (taggings rest))).written
      [tagger.tagging.entry method] =
      world.written (entries method (taggings (tagger :: rest))) := by
    rw [World.written_written, ← Tagging.entries_cons]
    rfl
  exact all ▸ second.trans (first.written _)

theorem weave_passes {taggers : List (Tagger method)}
    (passing : ∀ tagger ∈ taggers, tagger.tagging.shortCircuit = none) {object : Object Run}
    (shows : object.table.Shows method.declaring) (workshop : Workshop) (args : List Value)
    (world : World) :
    ∃ reached : World,
      reached.Alike (world.written (entries method (taggings taggers))) ∧
      ((chain taggers).weave object workshop).1.invoke method args world =
        ((object.invoke method args reached).1.map (·.labelled (labels (taggings taggers))),
          (object.invoke method args reached).2) := by
  induction taggers generalizing object workshop world with
  | nil =>
      refine ⟨world, ⟨rfl, (List.append_nil _).symm, rfl⟩, ?_⟩
      change object.invoke method args world =
        ((object.invoke method args world).1.map (·.labelled (labels [])),
          (object.invoke method args world).2)
      rw [Tagging.map_labelled_nil]
      rfl
  | cons tagger rest ih =>
      obtain ⟨ownPassing, restPassing⟩ := List.forall_mem_cons.mp passing
      obtain ⟨later, step⟩ := weave_cons tagger rest shows workshop
      obtain ⟨between, alikeBetween, outer⟩ :=
        ih restPassing (tagger.shows_layered shows workshop.next) later world
      obtain ⟨reached, alikeReached, inner⟩ :=
        tagger.invoke_layered shows workshop.next args between
      rw [ownPassing] at inner
      refine ⟨reached, ?_, ?_⟩
      · exact alike_cons tagger rest alikeBetween alikeReached
      · rw [step, outer, inner, Tagging.map_labelled_mark]
        rfl

end Tagger

namespace Greeting

theorem answer_greet_cases (args : List Value) :
    (∃ name, answer greet args = .ok (.string ("Hello, " ++ name))) ∨
      ∃ error, answer greet args = .error error := by
  have saluted : answer greet args = (nameArgument greet args).bind (fun name =>
      if name.isEmpty then .error (.bare .emptyName) else .ok (.string ("Hello, " ++ name))) :=
    rfl
  rw [saluted]
  cases nameArgument greet args with
  | error error => exact Or.inr ⟨error, rfl⟩
  | ok name =>
      by_cases empty : name.isEmpty
      · exact Or.inr ⟨.bare .emptyName, if_pos empty⟩
      · exact Or.inl ⟨name, if_neg empty⟩

theorem shows_greeter : table.Shows greet.declaring := by
  have shown : table.shown = [greeter, closeable, counter] := rfl
  exact ⟨greeter, shown ▸ List.mem_cons_self, rfl⟩

end Greeting

open Greeting
open Tagger (taggings)

/-- Tagging interceptors that ask for greetings, registered one after the other, around the
greeting service. All of them are taken into the chain. If none answers by itself, the greeting
comes back with their tags, those of the last one in front, and an error of the service comes
back as it is. If one does and none after it, then whatever the service would do, that answer
comes back with the tags of those after it, as far as it is a text. The journal gains the
entries of those that the call meets, the last registered first, and nothing else is touched. -/
theorem Chain.weave_tagged (taggers : List (Tagger greet)) (workshop workshopToo : Workshop)
    (args : List Value) (world : World) :
    ∃ chain, (Chain.empty.performAll (taggers.map Tagger.request) workshop).1 = chain ∧
      chain.interceptors = taggers.map Tagger.interceptor ∧
      ((∀ tagger ∈ taggers, tagger.tagging.shortCircuit = none) → ∀ serial,
        ∃ outcome after,
          (chain.weave (.base (service serial)) workshopToo).1.invoke greet args world =
            (outcome, after) ∧
          after.Alike (world.written (entries greet (taggings taggers))) ∧
          ((∃ name, answer greet args = .ok (.string ("Hello, " ++ name)) ∧
              outcome = .ok (.string (labels (taggings taggers) ++ ("Hello, " ++ name)))) ∨
            ∃ error, answer greet args = .error error ∧ outcome = .error error)) ∧
      ∀ before short later value, taggers = before ++ short :: later →
        short.tagging.shortCircuit = some value →
        (∀ tagger ∈ later, tagger.tagging.shortCircuit = none) →
        ∀ target : Target Run, target.table = Greeting.table →
          ∃ after,
            (chain.weave (.base target) workshopToo).1.invoke greet args world =
              (.ok (value.labelled (labels (taggings later))), after) ∧
            after.Alike (world.written (entries greet (taggings (short :: later)))) := by
  refine ⟨Tagger.chain taggers, Tagger.performAll_request taggers workshop, ?_, ?_, ?_⟩
  · exact List.map_map
  · intro passing serial
    have bare : (Object.base (service serial : Target Run)).table.Shows greet.declaring :=
      shows_greeter
    obtain ⟨reached, alike, passed⟩ :=
      Tagger.weave_passes passing bare workshopToo args world
    refine ⟨(answer greet args).map (·.labelled (labels (taggings taggers))), reached, passed,
      alike, ?_⟩
    rcases answer_greet_cases args with ⟨name, greeted⟩ | ⟨error, failed⟩
    · rw [greeted]
      exact Or.inl ⟨name, rfl, rfl⟩
    · rw [failed]
      exact Or.inr ⟨error, rfl, rfl⟩
  · intro before short later value split answers passing target hello
    subst split
    have bare : (Object.base target).table.Shows greet.declaring := by
      change target.table.Shows greet.declaring
      rw [hello]
      exact shows_greeter
    -- The chain is cut where the answer comes from: those before it stay inside, unasked.
    have inside := Tagger.shows_weave before bare workshopToo
    obtain ⟨during, appended⟩ :=
      Tagger.weave_append before (short :: later) (.base target) workshopToo
    obtain ⟨onwards, step⟩ := Tagger.weave_cons short later inside during
    obtain ⟨between, alikeBetween, outer⟩ := Tagger.weave_passes passing
      (short.shows_layered inside during.next) onwards args world
    obtain ⟨reached, alikeReached, inner⟩ := short.invoke_layered inside during.next args between
    rw [answers] at inner
    refine ⟨reached, ?_, ?_⟩
    · rw [appended, step, outer, inner]
      rfl
    · exact Tagger.alike_cons short later alikeBetween alikeReached

namespace Greeting

def asker (tag : String) (shortCircuit : Option Value) : Tagger greet where
  tagging := ⟨tag, shortCircuit⟩
  name := tag
  signatures := [greeting greeter]
  registry := ⟨[⟨greeter, [greet]⟩]⟩
  resolved := rfl
  asks := ⟨greeting greeter, List.mem_singleton_self _, rfl, rfl⟩

/-- Asks for counting too. -/
def widerAsker (tag : String) : Tagger greet where
  tagging := ⟨tag, none⟩
  name := tag
  signatures := [⟨counter, ⟨"count", []⟩⟩, greeting greeter]
  registry := ⟨[⟨counter, [⟨"Counter", ⟨"count", []⟩⟩]⟩, ⟨greeter, [greet]⟩]⟩
  resolved := rfl
  asks := ⟨greeting greeter, List.mem_cons_of_mem _ (List.mem_singleton_self _), rfl, rfl⟩

/-- Only the second answers by itself. -/
def interrupted : List (Tagger greet) :=
  [widerAsker "a", asker "b" (some (.string "Stop")), widerAsker "c"]

end Greeting

/-- The second of three answers, so neither the first nor the service is asked. -/
theorem Chain.weave_tagged_interrupted :
    ∃ chain, (Chain.empty.performAll (interrupted.map Tagger.request)
        ⟨0, Logbook.empty none⟩).1 = chain ∧
      ∀ target : Target Run, target.table = Greeting.table →
        ∃ after,
          (chain.weave (.base target) ⟨1, Logbook.empty none⟩).1.invoke greet [.string "Bob"]
              (World.initial none) =
            (.ok (.string "[c] Stop"), after) ∧
          after.journal = ["c:greet", "b:greet"] := by
  obtain ⟨chain, registered, _, _, answered⟩ :=
    Chain.weave_tagged interrupted ⟨0, Logbook.empty none⟩ ⟨1, Logbook.empty none⟩
      [.string "Bob"] (World.initial none)
  refine ⟨chain, registered, ?_⟩
  intro target hello
  have passing : ∀ tagger ∈ [widerAsker "c"], tagger.tagging.shortCircuit = none := by
    intro tagger member
    rw [List.mem_singleton.mp member]
    rfl
  obtain ⟨after, result, alike⟩ :=
    answered [widerAsker "a"] (asker "b" (some (.string "Stop"))) [widerAsker "c"]
      (.string "Stop") rfl rfl passing target hello
  exact ⟨after, result, alike.journal⟩

end Interception
