/-
Sessions: everything that was defined so far, by identifier, and the world. A step
of a session either answers a value or fails; what a step stores, it stores at its
end, so a failed step leaves the definitions as they were.
-/

import Interception.Chain
import Interception.Script.Blueprint
import Interception.Session.World

namespace Interception

/-- A blueprint with the interceptor that was built from it when it was given. -/
structure BlueprintEntry where
  blueprint : Blueprint
  shared : Interceptor Run

structure Session where
  world : World
  capabilities : List (String × Capability)
  types : List (String × TypeTable)
  registries : List (String × Registry)
  objects : List (String × Object Run)
  blueprints : List (String × BlueprintEntry)
  registrations : List (String × Registration Run)
  chains : List (String × Chain Run)
  settings : List (String × Settings)

inductive Failure where
  | noMethod
  | setup (error : SetupError)
  /-- A fault that a target detects, outside a call. -/
  | target (error : TargetError)
  | call (error : CallError)
  | misfit (misfit : Misfit)
  | undefined (identifier : String)

abbrev Step : Type → Type := ExceptT Failure (StateM Session)

namespace Session

def initial (threshold : Option Level) : Session where
  world := World.initial threshold
  capabilities := []
  types := []
  registries := []
  objects := []
  blueprints := []
  registrations := []
  chains := []
  settings := []

def scope (session : Session) : Scope Run where
  capability? identifier := Fields.find? identifier session.capabilities
  object? identifier := Fields.find? identifier session.objects

end Session

namespace Step

def named {α : Type} (map : Session → List (String × α)) (identifier : String) : Step α := do
  match Fields.find? identifier (map (← get)) with
  | some found => return found
  | none => throw (.undefined identifier)

def capability (identifier : String) : Step Capability :=
  named Session.capabilities identifier

def type (identifier : String) : Step TypeTable :=
  named Session.types identifier

def registry (identifier : String) : Step Registry :=
  named Session.registries identifier

def object (identifier : String) : Step (Object Run) :=
  named Session.objects identifier

def registration (identifier : String) : Step (Registration Run) :=
  named Session.registrations identifier

def chain (identifier : String) : Step (Chain Run) :=
  named Session.chains identifier

def settings (identifier : String) : Step Settings :=
  named Session.settings identifier

def method (reference : Reference) : Step Method := do
  match (← capability reference.capability).method? reference.selector with
  | some method => return method
  | none => throw .noMethod

def signature (reference : Reference) : Step Signature := do
  return ⟨← capability reference.capability, reference.selector⟩

def inWorld {α : Type} (run : Run α) : Step α := do
  let session ← get
  let (result, world) := run session.world
  set { session with world }
  return result

def inWorkshop {α : Type} (build : Build α) : Step α :=
  inWorld (Run.ofBuild build)

def orSetup {α : Type} : Except SetupError α → Step α
  | .ok result => return result
  | .error error => throw (.setup error)

def orCall {α : Type} : Except CallError α → Step α
  | .ok result => return result
  | .error error => throw (.call error)

end Step

end Interception
