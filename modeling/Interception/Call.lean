/-
Calls. A target answers a method and a list of arguments with a value or an error,
and may have effects in doing so. An invocation is a call on its way to a target.
Errors carry a cause and the contexts that were put around it, outermost first.
-/

import Interception.TypeTable
import Interception.Value.Outline
import Interception.Value.Reading

namespace Interception

open Interception.Text

inductive TargetError where
  | unsupported (method : String) (target : String)
  | missingArgument (method : String) (index : Nat)
  | invalidArgument (method : String) (index : Nat) (reason : String)
  deriving DecidableEq, Repr

namespace TargetError

def ofUnsupported (method : Method) (table : TypeTable) : TargetError :=
  .unsupported method.display table.name

def method : TargetError → String
  | .unsupported method _ => method
  | .missingArgument method _ => method
  | .invalidArgument method _ _ => method

def message : TargetError → String
  | .unsupported method target => "Method " ++ method ++ " is not supported by " ++ target
  | .missingArgument method index => "Missing argument " ++ toString index ++ " for " ++ method
  | .invalidArgument method index reason =>
      "Invalid argument " ++ toString index ++ " for " ++ method ++ ": " ++ reason

def outline : TargetError → Outline
  | .unsupported method target =>
      .record "UnsupportedMethod" [("method", .quotedWord method), ("target", .quotedWord target)]
  | .missingArgument method index =>
      .record "MissingArgument"
        [("method", .quotedWord method), ("index", .word (toString index))]
  | .invalidArgument method index reason =>
      .record "InvalidArgument"
        [("method", .quotedWord method), ("index", .word (toString index)),
         ("reason", .quotedWord reason)]

end TargetError

inductive Cause where
  | target (error : TargetError)
  | emptyName
  | raised (message : String)
  | undecodable (misfit : Misfit)

def Cause.message : Cause → String
  | .target error => error.message
  | .emptyName => "name must not be empty"
  | .raised message => message
  | .undecodable misfit => misfit.message

/-- A cause with the contexts around it, outermost first. -/
structure CallError where
  context : List String
  cause : Cause

namespace CallError

def bare (cause : Cause) : CallError :=
  ⟨[], cause⟩

def within (context : String) (error : CallError) : CallError :=
  { error with context := context :: error.context }

def chain (error : CallError) : List String :=
  error.context ++ [error.cause.message]

def message (error : CallError) : String :=
  error.context.headD error.cause.message

theorem chain_within (context : String) (error : CallError) :
    (error.within context).chain = context :: error.chain :=
  rfl

theorem head?_chain (error : CallError) : error.chain.head? = some error.message := by
  obtain ⟨context, cause⟩ := error
  cases context <;> rfl

end CallError

abbrev Outcome : Type := Except CallError Value

/-- An object that answers calls. The serial number is its identity. -/
structure Target (m : Type → Type) where
  serial : Nat
  table : TypeTable
  invoke : Method → List Value → m Outcome

def argument (α : Type) [Readable α] (args : List Value) (index : Nat) (method : Method) :
    Except TargetError α :=
  match args[index]? with
  | none => .error (.missingArgument method.display index)
  | some value =>
      match (read value : Except Misfit α) with
      | .ok result => .ok result
      | .error misfit => .error (.invalidArgument method.display index misfit.message)

def Outcome.decode (α : Type) [Readable α] (method : Method) : Outcome → Except CallError α
  | .error error => .error error
  | .ok value =>
      match (read value : Except Misfit α) with
      | .ok result => .ok result
      | .error misfit =>
          .error ((CallError.bare (.undecodable misfit)).within
            ("Invalid result returned by " ++ method.display))

def Target.call {m : Type → Type} [Monad m] (target : Target m) (α : Type) [Readable α]
    (method : Method) (args : List Value) : m (Except CallError α) := do
  return Outcome.decode α method (← target.invoke method args)

structure Invocation (m : Type → Type) where
  target : Target m
  method : Method
  args : List Value

namespace Invocation

variable {m : Type → Type}

def proceedWith (invocation : Invocation m) (args : List Value) : m Outcome :=
  invocation.target.invoke invocation.method args

def proceed (invocation : Invocation m) : m Outcome :=
  invocation.proceedWith invocation.args

def argument (invocation : Invocation m) (α : Type) [Readable α] (index : Nat) :
    Except TargetError α :=
  Interception.argument α invocation.args index invocation.method

def outline (invocation : Invocation m) : Outline :=
  .record "Invocation"
    [("target", .quotedWord invocation.target.table.name),
     ("method", .quotedWord invocation.method.display),
     ("args", .list (invocation.args.map Value.outline))]

end Invocation

end Interception
