/-
What a call on a woven object does. The layers that route a method compose like
functions: each one's interceptor is handed the composition of those inside it to
proceed by, and at the core stands the call on the base target. Which registrations
take part is decided by the list of capabilities that show, without looking at any
object.

What the composition hands to an interceptor is an invocation that proceeds by the rest
of the composition, with the arguments of the call or with others that replace them.

Layers also report where calls go, which the composition does not. The comparison is
therefore made by a view that overlooks what is logged.
-/

import Interception.Proofs.Weave.Confinement
import Interception.Proofs.Weave.Course
import Interception.Proofs.Wrap.Routing

namespace Interception

variable {m : Type → Type}

/-- An invocation that proceeds by a function of the arguments. Nothing else stands
behind it. -/
def Invocation.standing (method : Method) (args : List Value) (proceed : List Value → m Outcome) :
    Invocation m where
  target := { serial := 0, table := TypeTable.named "", invoke := fun _ => proceed }
  method := method
  args := args

/-- An invocation of a method with some arguments, which proceeds by a function: to these
arguments, or to others if it is told to replace them. -/
structure Invocation.ProceedsBy (invocation : Invocation m) (called : Method) (given : List Value)
    (next : List Value → m Outcome) : Prop where
  method : invocation.method = called
  args : invocation.args = given
  proceed : invocation.proceed = next given
  proceedWith : ∀ others, invocation.proceedWith others = next others

/-- An invocation proceeds by calling its method on its target. -/
theorem Invocation.proceedsBy_target (invocation : Invocation m) :
    invocation.ProceedsBy invocation.method invocation.args
      (invocation.target.invoke invocation.method) where
  method := rfl
  args := rfl
  proceed := rfl
  proceedWith _ := rfl

theorem Invocation.standing_proceedsBy (method : Method) (args : List Value)
    (proceed : List Value → m Outcome) :
    (standing method args proceed).ProceedsBy method args proceed :=
  (standing method args proceed).proceedsBy_target

/-- One interceptor around a function of the arguments, over the capabilities that its
layer shows. A method that the layer does not route leaves the function as it is. -/
def Registration.around (registration : Registration m) (method : Method)
    (exposed : List Capability) (proceed : List Value → m Outcome) : List Value → m Outcome :=
  if registration.registry.intercepts method && exposed.any (·.isNamed method.declaring) then
    fun args => registration.interceptor.intercept (.standing method args proceed)
  else proceed

namespace Chain

/-- The composition of interceptors around a call, in the order of registration. A
registration with no key among the capabilities that show adds no layer; any other
narrows what shows to its keys. -/
def compose (method : Method) :
    List (Registration m) → List Capability → (List Value → m Outcome) → List Value → m Outcome
  | [], _, proceed => proceed
  | registration :: rest, shown, proceed =>
      let exposed := registration.keeps shown
      if exposed.isEmpty then compose method rest shown proceed
      else compose method rest exposed (registration.around method exposed proceed)

variable [Monad m] [Log m]

/-- One layer: around an object that agrees with a function, it agrees with its
interceptor around the function. -/
theorem standardLayer_agrees (view : LogBlind m) (method : Method) {registration : Registration m}
    (confined : registration.interceptor.Confined view) (object : Object m) (serial : Nat)
    {proceed : List Value → m Outcome}
    (agree : ∀ args, view.agrees (object.invoke method args) (proceed args)) (args : List Value) :
    view.agrees
      ((Object.wrapped (registration.standardLayer serial object.table) object).invoke method args)
      (registration.around method (registration.keeps object.table.shown) proceed args) := by
  unfold Registration.around
  rw [Object.invoke_wrapped, registration.standardLayer_routes]
  split
  · apply view.overlooks
    exact confined _ _ rfl rfl agree
  · exact view.overlooks _ (agree args)

/- The induction is on the registrations. What carries it is that the object so far
shows the list so far and agrees with the composition so far. -/
private theorem weave_agrees (view : LogBlind m) (method : Method)
    (registrations : List (Registration m)) (object : Object m) (workshop : Workshop)
    {shown : List Capability} {proceed : List Value → m Outcome}
    (standard : ∀ registration ∈ registrations, registration.interceptor.hook = Hook.standard)
    (confined : ∀ registration ∈ registrations, registration.interceptor.Confined view)
    (shows : object.table.shown = shown)
    (agree : ∀ args, view.agrees (object.invoke method args) (proceed args)) (args : List Value) :
    view.agrees ((weave ⟨registrations⟩ object workshop).1.invoke method args)
      (compose method registrations shown proceed args) := by
  induction registrations generalizing object workshop shown proceed with
  | nil => exact agree args
  | cons registration rest ih =>
      subst shows
      have restStandard : ∀ other ∈ rest, other.interceptor.hook = Hook.standard :=
        fun other member => standard other (List.mem_cons_of_mem _ member)
      have restConfined : ∀ other ∈ rest, other.interceptor.Confined view :=
        fun other member => confined other (List.mem_cons_of_mem _ member)
      rw [weave_cons, Registration.apply_of_standard (standard _ List.mem_cons_self), compose]
      by_cases unmatched : registration.keeps object.table.shown = []
      · rw [Registration.wrap_of_unmatched unmatched, unmatched]
        exact ih object _ restStandard restConfined rfl agree
      · rw [Registration.wrap_of_matched unmatched, List.isEmpty_eq_false_iff.mpr unmatched]
        exact ih _ _ restStandard restConfined
          (registration.standardLayer_shown workshop.next object.table)
          (standardLayer_agrees view method (confined _ List.mem_cons_self) object
            workshop.next agree)

theorem weave_invoke_of_silent [LawfulMonad m]
    (silent : ∀ notice, (Log.emit notice : m Unit) = pure ()) (chain : Chain m)
    (target : Target m) (workshop : Workshop) (method : Method)
    (standard : ∀ registration ∈ chain.registrations,
      registration.interceptor.hook = Hook.standard)
    (confined : ∀ registration ∈ chain.registrations,
      registration.interceptor.Confined (.ofSilent silent)) :
    (chain.weave (.base target) workshop).1.invoke method =
      compose method chain.registrations target.table.shown (target.invoke method) := by
  funext args
  exact weave_agrees (.ofSilent silent) method chain.registrations (.base target) workshop
    standard confined rfl (fun _ => rfl) args

/-- A call on a woven object agrees with the composition of the interceptors around the
call on the base target: the registrations that add a layer which routes the method,
the last of them outermost. An interceptor in a layer proceeds to what is inside, and one
in the composition to the rest of it, each with the arguments that it got or with those
that it gives in their place. -/
theorem weave_invoke_agrees (view : LogBlind m) (chain : Chain m) (target : Target m)
    (workshop : Workshop) (method : Method)
    (standard : ∀ registration ∈ chain.registrations,
      registration.interceptor.hook = Hook.standard)
    (confined : ∀ registration ∈ chain.registrations, registration.interceptor.Confined view)
    (steady : ∀ args, view.agrees (target.invoke method args) (target.invoke method args))
    (args : List Value) :
    (∀ invocation : Invocation m, invocation.ProceedsBy invocation.method invocation.args
      (invocation.target.invoke invocation.method)) ∧
    (∀ (given : List Value) (proceed : List Value → m Outcome),
      (Invocation.standing method given proceed).ProceedsBy method given proceed) ∧
    view.agrees ((chain.weave (.base target) workshop).1.invoke method args)
      (compose method chain.registrations target.table.shown (target.invoke method) args) := by
  refine ⟨Invocation.proceedsBy_target, Invocation.standing_proceedsBy method, ?_⟩
  exact weave_agrees view method chain.registrations (.base target) workshop standard confined rfl
    steady args

end Chain

namespace Greeting

/-- The registration of an interceptor that takes one action for every greeting. -/
def scripted (action : Action) (name : String) : Registration Run :=
  greetingOnly (Plan.interceptor ⟨[], action, .standard, []⟩ name
    ⟨fun _ => none, fun _ => none⟩ [greeting greeter] .null) rfl

/-- Proceeds twice. -/
def insists (name : String) : Registration Run :=
  scripted (.times 2) name

/-- Has somebody else greeted. -/
def redirects (name : String) : Registration Run :=
  scripted (.proceedWith [.string "Ann"]) name

def morning : Chain Run :=
  ⟨[greets "a", counts "b", insists "c", redirects "d"]⟩

def composed : Run Outcome :=
  Chain.compose greet morning.registrations Greeting.table.shown
    ((service 0 : Target Run).invoke greet) [.string "Bob"]

end Greeting

open Greeting in
/-- The second of four finds nothing left to wrap, and the third asks twice. The last one,
outermost, replaces the name before any of them sees the call. -/
theorem Chain.weave_invoke_agrees_morning :
    Run.Agree
      ((morning.weave (.base (service 0)) ⟨1, Logbook.empty (some .trace)⟩).1.invoke greet
        [.string "Bob"])
      composed ∧
    (composed (World.initial none)).1 =
      .ok (.array [.string "[a] Hello, Ann", .string "[a] Hello, Ann"]) ∧
    (composed (World.initial none)).2.journal =
      ["d>Greeter::greet(String)", "c>Greeter::greet(String)", "a:greet", "a:greet", "c<ok",
        "d<ok"] := by
  refine ⟨?_, rfl, rfl⟩
  refine (Chain.weave_invoke_agrees Run.upToLog morning (service 0) _ greet ?_ ?_ ?_ _).2.2
  · intro registration member
    simp only [morning, List.mem_cons, List.not_mem_nil, or_false] at member
    rcases member with rfl | rfl | rfl | rfl <;> rfl
  · intro registration member
    simp only [morning, List.mem_cons, List.not_mem_nil, or_false] at member
    rcases member with rfl | rfl | rfl | rfl
    · exact Tagging.confined _ _ _
    · exact Tagging.confined _ _ _
    · exact Plan.confined _ _ _ _ _ (fun _ => rfl)
    · exact Plan.confined _ _ _ _ _ (fun _ => rfl)
  · intro args
    exact Run.Agree.pure _

end Interception
