/-
Calls compared up to what is logged. Layers report where calls go, and interceptors do
not depend on it, so two computations count as the same when they differ only in that
one of them logs more. What else a comparison looks at is left open: with a log that
keeps silent it can be equality, and in the world of sessions it is the result, the
journal, the call counters and the next serial number.
-/

import Interception.Object
import Interception.Session.World

namespace Interception

variable {m : Type → Type}

/-- A way to compare what calls do, to which it makes no difference that something is
logged first. -/
structure LogBlind (m : Type → Type) [Monad m] [Log m] where
  agrees : m Outcome → m Outcome → Prop
  overlooks : ∀ (notice : Notice) {left right : m Outcome}, agrees left right →
    agrees (do Log.emit notice; left) right

/-- The handler reaches what is inside only through the method, the arguments and
proceeding: two invocations that agree on these are handled alike. -/
def Handler.Confined [Monad m] [Log m] (view : LogBlind m) (handler : Handler m) : Prop :=
  ∀ left right : Invocation m, left.method = right.method → left.args = right.args →
    (∀ args, view.agrees (left.proceedWith args) (right.proceedWith args)) →
    view.agrees (handler.intercept left) (handler.intercept right)

def LogBlind.ofSilent [Monad m] [LawfulMonad m] [Log m]
    (silent : ∀ notice, (Log.emit notice : m Unit) = pure ()) : LogBlind m where
  agrees := Eq
  overlooks notice {left right} same := by
    rw [silent, pure_bind, same]

structure World.Alike (left right : World) : Prop where
  next : left.next = right.next
  journal : left.journal = right.journal
  calls : left.calls = right.calls

namespace World

/-- The world with more entries in its journal. -/
def written (world : World) (entries : List String) : World :=
  { world with journal := world.journal ++ entries }

theorem Alike.trans {left middle right : World} (first : left.Alike middle)
    (second : middle.Alike right) : left.Alike right :=
  ⟨first.next.trans second.next, first.journal.trans second.journal,
    first.calls.trans second.calls⟩

theorem Alike.written {left right : World} (alike : left.Alike right) (entries : List String) :
    (left.written entries).Alike (right.written entries) :=
  ⟨alike.next, congrArg (· ++ entries) alike.journal, alike.calls⟩

theorem written_written (world : World) (entries more : List String) :
    (world.written entries).written more = world.written (entries ++ more) := by
  unfold written
  rw [List.append_assoc]

end World

namespace Run

/-- From alike worlds, two runs give the same result and leave alike worlds. -/
def Agree {α : Type} (left right : Run α) : Prop :=
  ∀ before beforeToo : World, before.Alike beforeToo →
    (left before).1 = (right beforeToo).1 ∧ (left before).2.Alike (right beforeToo).2

theorem Agree.pure {α : Type} (result : α) : Agree (pure result : Run α) (pure result) :=
  fun _ _ alike => ⟨rfl, alike⟩

theorem Agree.bind {α β : Type} {left right : Run α} {next nextToo : α → Run β}
    (first : Agree left right) (second : ∀ result, Agree (next result) (nextToo result)) :
    Agree (left >>= next) (right >>= nextToo) := by
  intro before beforeToo alike
  obtain ⟨sameResult, alikeAfter⟩ := first before beforeToo alike
  change (next (left before).1 (left before).2).1 =
      (nextToo (right beforeToo).1 (right beforeToo).2).1 ∧
    (next (left before).1 (left before).2).2.Alike
      (nextToo (right beforeToo).1 (right beforeToo).2).2
  rw [← sameResult]
  exact second _ _ _ alikeAfter

theorem Agree.record (entry : String) : Agree (Journal.record entry) (Journal.record entry) := by
  intro before beforeToo alike
  refine ⟨rfl, alike.next, ?_, alike.calls⟩
  exact congrArg (· ++ [entry]) alike.journal

def upToLog : LogBlind Run where
  agrees := Agree
  overlooks _ {_ _} agree := fun _ beforeToo alike =>
    agree _ beforeToo ⟨alike.next, alike.journal, alike.calls⟩

end Run

end Interception
