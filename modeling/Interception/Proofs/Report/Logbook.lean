/-
Logbooks that grow. Noting one thing after another extends a logbook by the notices that it
keeps, in their order; its threshold never changes.
-/

import Interception.Notice

namespace Interception.Logbook

def extended (book : Logbook) (notices : List Notice) : Logbook :=
  { book with
    notices := book.notices ++ notices.filter (fun notice => book.keeps notice.level) }

theorem extended_nil (book : Logbook) : book.extended [] = book := by
  unfold extended
  rw [List.filter_nil, List.append_nil]

theorem note_eq_extended (book : Logbook) (notice : Notice) :
    book.note notice = book.extended [notice] := by
  unfold note extended
  cases kept : book.keeps notice.level with
  | true => simp [kept]
  | false => simp [kept]

theorem extended_append (book : Logbook) (first second : List Notice) :
    (book.extended first).extended second = book.extended (first ++ second) := by
  have keeps : (book.extended first).keeps = book.keeps := rfl
  unfold extended at keeps ⊢
  rw [keeps, List.filter_append, List.append_assoc]

end Interception.Logbook
