/-
A greeting service, and a service that has nothing in common with it. The greeting
service greets and bids farewell, counts, and can be closed; counting is declared by
the type that its type extends.
-/

import Interception.Call

namespace Interception.Greeting

def greeter : Capability :=
  ((Capability.named "Greeter").declaring ⟨"greet", ["String"]⟩).declaring
    ⟨"farewell", ["String"]⟩

def counter : Capability :=
  (Capability.named "Counter").declaring ⟨"count", []⟩

def closeable : Capability :=
  (Capability.named "Closeable").declaring ⟨"close", []⟩

def pinger : Capability :=
  (Capability.named "Pinger").declaring ⟨"ping", []⟩

def greet : Method :=
  ⟨"Greeter", ⟨"greet", ["String"]⟩⟩

def baseTable : TypeTable :=
  (TypeTable.named "BaseService").withInterface counter

def table : TypeTable :=
  ((TypeTable.named "HelloService").withInterfaces [greeter, closeable]).withParent baseTable

def plainTable : TypeTable :=
  (TypeTable.named "PlainService").withInterface pinger

def nameArgument (method : Method) (args : List Value) : Except CallError String :=
  match argument String args 0 method with
  | .ok name => .ok name
  | .error error => .error (.bare (.target error))

/-- Greets by name, with a salutation in front; the name must not be empty. -/
def salute (salutation : String) (method : Method) (args : List Value) : Outcome := do
  let name ← nameArgument method args
  if name.isEmpty then .error (.bare .emptyName)
  else .ok (.string (salutation ++ name))

def answer (method : Method) (args : List Value) : Outcome :=
  match method.declaring, method.name with
  | "Greeter", "greet" => salute "Hello, " method args
  | "Greeter", "farewell" => do
      let name ← nameArgument method args
      .ok (.string ("Goodbye, " ++ name))
  | "Counter", "count" => .ok (.integer 42)
  | "Closeable", "close" => .ok .null
  | _, _ => .error (.bare (.target (.ofUnsupported method table)))

def plainAnswer (method : Method) : Outcome :=
  if method.name == "ping" then .ok (.string "pong")
  else .error (.bare (.target (.ofUnsupported method plainTable)))

variable {m : Type → Type} [Monad m]

def service (serial : Nat) : Target m where
  serial := serial
  table := table
  invoke method args := pure (answer method args)

def plainService (serial : Nat) : Target m where
  serial := serial
  table := plainTable
  invoke method _ := pure (plainAnswer method)

end Interception.Greeting
