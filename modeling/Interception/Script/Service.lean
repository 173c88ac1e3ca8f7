/-
Scripted services: targets that answer by rules. Each call is counted first; then
the first rule that matches the method decides.
-/

import Interception.Journal
import Interception.Sample.Greeting
import Interception.Script.Action

namespace Interception

inductive Reply where
  | give (value : Value)
  /-- The number of calls so far, this one included. -/
  | count
  | greet (salutation : String)
  | argument (index : Nat) (shape : Shape)
  | fail (message : String) (contexts : List String)
  | echo

/-- A rule for the methods of a name, of a declaring capability, or of both. -/
structure Rule where
  name : Option String
  declaring : Option String
  reply : Reply

def Rule.covers (rule : Rule) (method : Method) : Bool :=
  rule.name.all (· == method.name) && rule.declaring.all (· == method.declaring)

def Reply.outcome (calls : Nat) (method : Method) (args : List Value) : Reply → Outcome
  | .give value => .ok value
  | .count => .ok (.count calls)
  | .greet salutation => Greeting.salute salutation method args
  | .argument index shape => outcomeOfArgument shape args index method
  | .fail message contexts => .error (.raised message contexts)
  | .echo => .ok (.ofPairs [("method", .string method.display), ("args", .array args)])

def Rule.outcome (rules : List Rule) (table : TypeTable) (calls : Nat) (method : Method)
    (args : List Value) : Outcome :=
  match rules.find? (·.covers method) with
  | some rule => rule.reply.outcome calls method args
  | none => .error (.bare (.target (.ofUnsupported method table)))

def scriptedService {m : Type → Type} [Monad m] [Tally m] (serial : Nat) (table : TypeTable)
    (rules : List Rule) : Target m where
  serial := serial
  table := table
  invoke method args := do
    let calls ← Tally.tick serial
    return Rule.outcome rules table calls method args

end Interception
