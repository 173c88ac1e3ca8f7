/-
The text of a method. It puts marks between the parts of the method: two colons, a bracket,
and a comma with a space. The parts can be read back where none of them holds the mark that
ends it, whatever else they hold. A capability's name must be free of colons, a method's name
of opening brackets, and the parameters, of which none is empty, of commas. Errors of a target
carry this text, so they tell such methods apart.
-/

import Interception.Call
import Mathlib.Data.List.Basic

namespace Interception

/-! ### Parts that end at a mark -/

/-- A part without a mark, before a rest that is empty or starts with the mark. -/
theorem parts_eq_of_text_eq {mark : Char} {part other rest others : List Char}
    (absent : mark ∉ part) (absentToo : mark ∉ other)
    (ends : rest.takeWhile (· != mark) = []) (endsToo : others.takeWhile (· != mark) = [])
    (same : part ++ rest = other ++ others) : part = other ∧ rest = others := by
  have free : ∀ {text : List Char}, mark ∉ text →
      ∀ character ∈ text, (character != mark) = true := by
    intro text missing character member
    exact bne_iff_ne.mpr (fun found => missing (found ▸ member))
  have parts : part = other := by
    have taken := congrArg (List.takeWhile (· != mark)) same
    rwa [List.takeWhile_append_of_pos (free absent), List.takeWhile_append_of_pos (free absentToo),
      ends, endsToo, List.append_nil, List.append_nil] at taken
  subst parts
  exact ⟨rfl, List.append_cancel_left same⟩

/-! ### Lists of parameters -/

/-- The parameters that follow another one. -/
def followingText (params : List String) : List Char :=
  params.flatMap (fun param => ',' :: ' ' :: param.toList)

theorem followingText_ends (params : List String) :
    (followingText params).takeWhile (· != ',') = [] := by
  cases params with
  | nil => rfl
  | cons first rest => rfl

theorem toList_intercalate_cons (first : String) (rest : List String) :
    (", ".intercalate (first :: rest)).toList = first.toList ++ followingText rest := by
  induction rest generalizing first with
  | nil =>
      rw [String.intercalate_singleton, followingText, List.flatMap_nil, List.append_nil]
  | cons second later ih =>
      rw [String.intercalate_cons_cons, String.toList_append, String.toList_append, ih,
        followingText, followingText, List.flatMap_cons, List.append_assoc]
      rfl

/-- A parameter leaves commas to the list that it stands in, and can be seen in it. -/
def PlainParams (params : List String) : Prop :=
  ∀ param ∈ params, param ≠ "" ∧ ',' ∉ param.toList

theorem followingText_inj {left right : List String} (plain : PlainParams left)
    (plainToo : PlainParams right) (same : followingText left = followingText right) :
    left = right := by
  induction left generalizing right with
  | nil =>
      cases right with
      | nil => rfl
      | cons first rest => cases same
  | cons first rest ih =>
      cases right with
      | nil => cases same
      | cons other others =>
          obtain ⟨⟨_, absent⟩, later⟩ := List.forall_mem_cons.mp plain
          obtain ⟨⟨_, absentToo⟩, laterToo⟩ := List.forall_mem_cons.mp plainToo
          have inner : first.toList ++ followingText rest = other.toList ++ followingText others :=
            (List.cons.inj (List.cons.inj same).2).2
          obtain ⟨firsts, rests⟩ := parts_eq_of_text_eq absent absentToo
            (followingText_ends rest) (followingText_ends others) inner
          rw [String.toList_inj.mp firsts, ih later laterToo rests]

theorem params_eq_of_text_eq {left right : List String} (plain : PlainParams left)
    (plainToo : PlainParams right)
    (same : (", ".intercalate left).toList = (", ".intercalate right).toList) : left = right := by
  -- Only the empty list has the empty text, since no parameter is empty.
  have visible : ∀ {first : String} {rest : List String}, PlainParams (first :: rest) →
      (", ".intercalate (first :: rest)).toList ≠ [] := by
    intro first rest plainAll empty
    rw [toList_intercalate_cons, List.append_eq_nil_iff] at empty
    exact (List.forall_mem_cons.mp plainAll).1.1 (String.toList_inj.mp empty.1)
  cases left with
  | nil =>
      cases right with
      | nil => rfl
      | cons first rest => exact absurd same.symm (visible plainToo)
  | cons first rest =>
      cases right with
      | nil => exact absurd same (visible plain)
      | cons other others =>
          rw [toList_intercalate_cons, toList_intercalate_cons] at same
          apply followingText_inj plain plainToo
          rw [followingText, followingText, List.flatMap_cons, List.flatMap_cons]
          exact congrArg (fun text => ',' :: ' ' :: text) same

/-! ### Methods -/

namespace Method

/-- No part holds the mark that ends it. -/
structure Plain (method : Method) : Prop where
  declaring : ':' ∉ method.declaring.toList
  name : '(' ∉ method.name.toList
  params : PlainParams method.params

theorem toList_display (method : Method) :
    method.display.toList = method.declaring.toList ++ ':' :: ':' :: (method.name.toList ++
      '(' :: ((", ".intercalate method.params).toList ++ [')'])) := by
  simp [display, Selector.display, name, params]

theorem eq_of_display_eq {left right : Method} (plain : left.Plain) (plainToo : right.Plain)
    (same : left.display = right.display) : left = right := by
  have texts := congrArg String.toList same
  rw [toList_display, toList_display] at texts
  obtain ⟨declarings, afterColons⟩ :=
    parts_eq_of_text_eq plain.declaring plainToo.declaring rfl rfl texts
  have named := (List.cons.inj (List.cons.inj afterColons).2).2
  obtain ⟨names, afterBracket⟩ := parts_eq_of_text_eq plain.name plainToo.name rfl rfl named
  have closed := (List.cons.inj afterBracket).2
  have lists := params_eq_of_text_eq plain.params plainToo.params (List.append_cancel_right closed)
  obtain ⟨declaring, name, params⟩ := left
  obtain ⟨declaringToo, nameToo, paramsToo⟩ := right
  cases String.toList_inj.mp declarings
  cases String.toList_inj.mp names
  cases lists
  rfl

end Method

/-- The errors that arise about a method: a target does not support it, or cannot use an
argument of a call of it. -/
inductive TargetError.Concerns (method : Method) : TargetError → Prop where
  | unsupported (table : TypeTable) : Concerns method (.ofUnsupported method table)
  | argument {α : Type} [Readable α] {args : List Value} {index : Nat} {error : TargetError}
      (failed : argument α args index method = .error error) : Concerns method error

theorem TargetError.Concerns.text {method : Method} {error : TargetError}
    (concerns : error.Concerns method) : error.method = method.display := by
  cases concerns with
  | unsupported table => rfl
  | @argument α _ args index _ failed =>
      unfold Interception.argument at failed
      cases given : args[index]? with
      | none =>
          rw [given] at failed
          cases failed
          rfl
      | some value =>
          rw [given] at failed
          cases reads : (read value : Except Misfit α) with
          | ok result =>
              simp only [reads] at failed
              cases failed
          | error misfit =>
              simp only [reads] at failed
              cases failed
              rfl

namespace Method

/-- Plain methods with one text are one method, with the same declaring capability, the same
name and the same parameters. So an error about a plain method carries the text of no other
one, and two errors carry the same text only when they are about the same method. -/
theorem display_identifies {left right : Method} (plain : left.Plain) (plainToo : right.Plain) :
    (left.display = right.display ↔ left = right) ∧
    (∀ error : TargetError, error.Concerns left → (error.method = right.display ↔ left = right)) ∧
    ∀ error other : TargetError, error.Concerns left → other.Concerns right →
      (error.method = other.method ↔ left = right) := by
  have identified : left.display = right.display ↔ left = right :=
    ⟨eq_of_display_eq plain plainToo, fun same => congrArg display same⟩
  refine ⟨identified, ?_, ?_⟩
  · intro error concerns
    rw [concerns.text, identified]
  · intro error other concerns concernsToo
    rw [concerns.text, concernsToo.text, identified]

namespace Archive

def find : Method :=
  ⟨"Archive", ⟨"find::all) ", []⟩⟩

/-- Its one parameter is a blank. -/
def findBlank : Method :=
  ⟨"Archive", ⟨"find::all) ", [" "]⟩⟩

end Archive

open Archive in
/-- Two overloads that differ in a blank, one not supported and one called with too little. -/
theorem display_identifies_overloads :
    find.Plain ∧ findBlank.Plain ∧
    argument String [] 0 findBlank = .error (.missingArgument findBlank.display 0) ∧
    (TargetError.ofUnsupported find (TypeTable.named "Archive")).method ≠
      (TargetError.missingArgument findBlank.display 0).method := by
  have plain : find.Plain :=
    ⟨by decide, by decide, fun _ impossible => nomatch impossible⟩
  have plainToo : findBlank.Plain := ⟨by decide, by decide, by unfold PlainParams; decide⟩
  have failed : argument String [] 0 findBlank =
      .error (.missingArgument findBlank.display 0) := rfl
  have apart : find ≠ findBlank := by decide
  refine ⟨plain, plainToo, failed, ?_⟩
  exact mt (((display_identifies plain plainToo).2.2 _ _
    (.unsupported (TypeTable.named "Archive")) (.argument failed)).mp) apart

/-- Colons in the name of a capability can be mistaken for the mark after it. -/
example :
    (⟨"Archive::find", ⟨"all", []⟩⟩ : Method).display =
      (⟨"Archive", ⟨"find::all", []⟩⟩ : Method).display :=
  rfl

end Method

end Interception
