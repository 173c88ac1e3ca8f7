/-
The workshop is where objects are put together: it hands out serial numbers, so
that every object made in it has an identity of its own, and it keeps the logbook.
-/

import Interception.Notice

namespace Interception

structure Workshop where
  next : Nat
  log : Logbook

abbrev Build : Type → Type := StateM Workshop

namespace Build

/-- A serial number that nothing made before has. -/
def fresh : Build Nat := fun workshop =>
  (workshop.next, { workshop with next := workshop.next + 1 })

def note (notice : Notice) : Build Unit := fun workshop =>
  ((), { workshop with log := workshop.log.note notice })

end Build

instance : Log Build := ⟨Build.note⟩

end Interception
