/-
Running a session: a list of commands, each answered in turn. An answer comes with
what was written into the journal and the logbook during its own step.
-/

import Interception.Session.Calls
import Interception.Session.Catalogue
import Interception.Session.Chains
import Interception.Session.Configuration

namespace Interception

def version : String :=
  "0.1.0"

inductive Command where
  | version
  | catalogue (command : CatalogueCommand)
  | signatures (command : SignatureCommand)
  | calls (command : CallCommand)
  | wrapping (command : WrapCommand)
  | chains (command : ChainCommand)
  | settings (command : SettingsCommand)

def Command.perform : Command → Step Value
  | .version => return .string Interception.version
  | .catalogue command => command.perform
  | .signatures command => command.perform
  | .calls command => command.perform
  | .wrapping command => command.perform
  | .chains command => command.perform
  | .settings command => command.perform

/-- What a step answers, with the records of that step. -/
structure Answer where
  result : Except Failure Value
  journal : List String
  notices : List Notice

namespace Session

def answer (session : Session) (command : Command) : Answer × Session :=
  let fresh := { session with world := session.world.clearRecords }
  let (result, after) := command.perform.run fresh
  (⟨result, after.world.journal, after.world.log.notices⟩, after)

def run (session : Session) : List Command → List Answer
  | [] => []
  | command :: rest =>
      let (first, after) := session.answer command
      first :: run after rest

end Session

def answers (threshold : Option Level) (commands : List Command) : List Answer :=
  (Session.initial threshold).run commands

end Interception
