/-
The world that calls take place in: the workshop with its logbook, the journal that
interceptors share, and the call counters of scripted services.
-/

import Interception.Journal
import Interception.Workshop

namespace Interception

structure World extends Workshop where
  journal : List String
  /-- Calls so far, by serial number. -/
  calls : List (Nat × Nat)

abbrev Run : Type → Type := StateM World

namespace World

def initial (threshold : Option Level) : World :=
  { next := 0, log := Logbook.empty threshold, journal := [], calls := [] }

def countCall (world : World) (serial : Nat) : Nat × World :=
  let count := (world.calls.lookup serial).getD 0 + 1
  (count, { world with
    calls := (serial, count) :: world.calls.filter (fun entry => entry.1 != serial) })

def clearRecords (world : World) : World :=
  { world with log := { world.log with notices := [] }, journal := [] }

end World

namespace Run

def note (notice : Notice) : Run Unit := fun world =>
  ((), { world with log := world.log.note notice })

def record (entry : String) : Run Unit := fun world =>
  ((), { world with journal := world.journal ++ [entry] })

def tick (serial : Nat) : Run Nat := fun world =>
  world.countCall serial

def ofBuild {α : Type} (build : Build α) : Run α := fun world =>
  let (result, workshop) := build world.toWorkshop
  (result, { world with toWorkshop := workshop })

end Run

instance : Log Run := ⟨Run.note⟩
instance : Journal Run := ⟨Run.record⟩
instance : Tally Run := ⟨Run.tick⟩

end Interception
