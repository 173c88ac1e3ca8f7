/-
Steps about targets and the calls made on them.
-/

import Interception.Script.Service
import Interception.Session.State

namespace Interception

inductive TargetKind where
  | greeting
  | plain
  | scripted (type : String) (rules : List Rule)

inductive CallCommand where
  | define (identifier : String) (kind : TargetKind)
  | info (target : String)
  | implements (target capability : String)
  | same (left right : String)
  | invoke (target : String) (method : Reference) (args : List Value)
  | call (target : String) (method : Reference) (args : List Value) (shape : Shape)
  /-- Reads one of some arguments, without a call. -/
  | argument (method : Reference) (args : List Value) (index : Nat) (shape : Shape)
  | unsupported (method : Reference) (type : String)
  | act (target : String) (method : Reference) (args : List Value) (action : Action)

namespace CallCommand

def made : TargetKind → Step (Target Run)
  | .greeting => do return Greeting.service (← Step.inWorkshop Build.fresh)
  | .plain => do return Greeting.plainService (← Step.inWorkshop Build.fresh)
  | .scripted type rules => do
      let table ← Step.type type
      return scriptedService (← Step.inWorkshop Build.fresh) table rules

def perform : CallCommand → Step Value
  | .define identifier kind => do
      let object := Object.base (← made kind)
      modify (fun session => { session with
        objects := Fields.insert identifier object session.objects })
      return object.table.describe
  | .info target => do return (← Step.object target).table.describe
  | .implements target capability => do
      let object ← Step.object target
      return .boolean (object.table.implements (← Step.capability capability))
  | .same left right => do
      return .boolean ((← Step.object left).same (← Step.object right))
  | .invoke target reference args => do
      let object ← Step.object target
      let method ← Step.method reference
      Step.orCall (← Step.inWorld (object.invoke method args))
  | .call target reference args shape => do
      let object ← Step.object target
      let method ← Step.method reference
      let result ← Step.inWorld (object.target.call shape.Carrier method args)
      return write (← Step.orCall result)
  | .argument reference args index shape => do
      match argumentOfShape shape args index (← Step.method reference) with
      | .ok value => return value
      | .error error => throw (.target error)
  | .unsupported reference type => do
      let method ← Step.method reference
      throw (.target (.ofUnsupported method (← Step.type type)))
  | .act target reference args action => do
      let object ← Step.object target
      let method ← Step.method reference
      let scope := (← get).scope
      Step.orCall (← Step.inWorld (action.run scope .null ⟨object.target, method, args⟩))

end CallCommand

end Interception
