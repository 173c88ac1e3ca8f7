/-
Actions: what a scripted interceptor does with a call. An action reaches the inner
object through the invocation, and capabilities through the scope it was built in.
-/

import Interception.Describe
import Interception.Object
import Interception.Value.Shape

namespace Interception

open Interception.Text

structure Scope (m : Type → Type) where
  capability? : String → Option Capability
  object? : String → Option (Object m)

inductive Action where
  | proceed
  | give (value : Value)
  /-- Fails; later contexts stand further out. -/
  | fail (message : String) (contexts : List String)
  | proceedWith (args : List Value)
  | reverse
  | append (value : Value)
  /-- Proceeds several times and gives the list of results. -/
  | times (count : Nat)
  | recover (value : Value)
  | context (message : String)
  | pairWith (value : Value)
  | argument (index : Nat) (shape : Shape)
  | settings
  /-- Makes another call on the inner object. -/
  | redirect (capability : String) (selector : Selector)
  | inspect
  | outline (layout : Outline.Layout)

def CallError.raised (message : String) (contexts : List String) : CallError :=
  contexts.foldl (fun error context => error.within context) (.bare (.raised message))

def argumentOfShape (shape : Shape) (args : List Value) (index : Nat) (method : Method) :
    Except TargetError Value :=
  (argument shape.Carrier args index method).map write

def outcomeOfArgument (shape : Shape) (args : List Value) (index : Nat) (method : Method) :
    Outcome :=
  (argumentOfShape shape args index method).mapError (fun error => .bare (.target error))

namespace Action

variable {m : Type → Type} [Monad m]

def repeated (invocation : Invocation m) : Nat → m (Except CallError (List Value))
  | 0 => return .ok []
  | count + 1 => do
      match ← invocation.proceed with
      | .error error => return .error error
      | .ok first => return (← repeated invocation count).map (first :: ·)

def inspection (invocation : Invocation m) : Value :=
  .ofPairs
    [("target", invocation.target.table.describe),
     ("method", invocation.method.describe),
     ("args", .array invocation.args)]

/-- Performs an action. `answers` is what was read from the settings. -/
def run (scope : Scope m) (answers : Value) (invocation : Invocation m) : Action → m Outcome
  | .proceed => invocation.proceed
  | .give value => return .ok value
  | .fail message contexts => return .error (.raised message contexts)
  | .proceedWith args => invocation.proceedWith args
  | .reverse => invocation.proceedWith invocation.args.reverse
  | .append value => invocation.proceedWith (invocation.args ++ [value])
  | .times count => return (← repeated invocation count).map Value.array
  | .recover value => do
      match ← invocation.proceed with
      | .error _ => return .ok value
      | .ok result => return .ok result
  | .context message => return (← invocation.proceed).mapError (·.within message)
  | .pairWith value => return (← invocation.proceed).map (fun result => .array [value, result])
  | .argument index shape =>
      return outcomeOfArgument shape invocation.args index invocation.method
  | .settings => return .ok answers
  | .redirect capability selector =>
      match (scope.capability? capability).bind (·.method? selector) with
      | some method => invocation.target.invoke method invocation.args
      | none => return .ok (.string "no such method")
  | .inspect => return .ok (inspection invocation)
  | .outline layout => return .ok (.string (invocation.outline.render layout))

end Action

end Interception
