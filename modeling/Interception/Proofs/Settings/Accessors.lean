/-
Reading settings at a type. Absence and a value that does not fit are kept apart. Where
something is held, null included, every accessor gives what the type makes of it: the same
result, or an error with the name and the reason of the type. Only where nothing is held
does one answer that there is nothing, one give its default, and one say that the setting
is required.
-/

import Interception.Settings

namespace Interception.Settings

variable {α : Type} [Readable α] {settings : Settings} {key : String}

/-- The accessors that read at a type give this outcome, whatever the default is. -/
structure Answers (settings : Settings) (key : String) (outcome : Except SetupError α) : Prop where
  get : settings.get α key = outcome.map some
  getOr : ∀ default, settings.getOr key default = outcome
  require : settings.require α key = outcome

theorem find?_eq_none_iff (settings : Settings) (key : String) :
    settings.find? key = none ↔ settings.contains key = false := by
  unfold contains
  cases settings.find? key with
  | none => simp
  | some value => simp

/-- The other two accessors add nothing to what is found. -/
theorem answers_of_get {outcome : Except SetupError α}
    (found : settings.get α key = outcome.map some) : settings.Answers key outcome := by
  refine ⟨found, ?_, ?_⟩
  · intro default
    rw [getOr, found]
    cases outcome with
    | error error => rfl
    | ok result => rfl
  · rw [require, found]
    cases outcome with
    | error error => rfl
    | ok result => rfl

variable {value : Value}

theorem answers_of_reads {result : α} (held : settings.find? key = some value)
    (reads : read value = .ok result) : settings.Answers key (.ok result) := by
  apply answers_of_get
  unfold get
  simp only [held, reads]
  rfl

theorem answers_of_misfit {misfit : Misfit} (held : settings.find? key = some value)
    (misfits : (read value : Except Misfit α) = .error misfit) :
    settings.Answers key (.error (.invalidSetting key misfit.message) : Except SetupError α) := by
  apply answers_of_get
  unfold get
  simp only [held, misfits]
  rfl

theorem get_of_absent (absent : settings.find? key = none) : settings.get α key = .ok none := by
  unfold get
  simp only [absent]

theorem getOr_of_absent (absent : settings.find? key = none) (default : α) :
    settings.getOr key default = .ok default := by
  rw [getOr, get_of_absent absent]
  rfl

theorem require_of_absent (absent : settings.find? key = none) :
    settings.require α key = .error (.missingSetting key) := by
  rw [require, get_of_absent absent]

theorem get_eq_ok_none_iff (settings : Settings) (α : Type) [Readable α] (key : String) :
    settings.get α key = .ok none ↔ settings.find? key = none := by
  constructor
  · intro nothing
    cases held : settings.find? key with
    | none => rfl
    | some value =>
        cases reads : (read value : Except Misfit α) with
        | ok result =>
            rw [(answers_of_reads held reads).get] at nothing
            cases nothing
        | error misfit =>
            rw [(answers_of_misfit held reads).get] at nothing
            cases nothing
  · exact get_of_absent

/-- What the accessors give is decided. -/
theorem Answers.unique {first second : Except SetupError α} (answers : settings.Answers key first)
    (others : settings.Answers key second) : first = second :=
  answers.require.symm.trans others.require

theorem answers_ok_iff (held : settings.find? key = some value) (result : α) :
    settings.Answers key (.ok result) ↔ read value = .ok result := by
  constructor
  · intro answers
    cases reads : (read value : Except Misfit α) with
    | ok found =>
        rw [Except.ok.inj (answers.unique (answers_of_reads held reads))]
    | error misfit => cases answers.unique (answers_of_misfit held reads)
  · exact answers_of_reads held

theorem answers_error_iff (held : settings.find? key = some value) (error : SetupError) :
    settings.Answers key (.error error : Except SetupError α) ↔
      ∃ misfit, (read value : Except Misfit α) = .error misfit ∧
        error = .invalidSetting key misfit.message := by
  constructor
  · intro answers
    cases reads : (read value : Except Misfit α) with
    | ok found => cases answers.unique (answers_of_reads held reads)
    | error misfit =>
        exact ⟨misfit, rfl, Except.error.inj (answers.unique (answers_of_misfit held reads))⟩
  · rintro ⟨misfit, misfits, rfl⟩
    exact answers_of_misfit held misfits

theorem text?_eq_some_iff (settings : Settings) (key text : String) :
    settings.text? key = some text ↔ settings.get String key = .ok (some text) := by
  unfold text? get
  cases settings.find? key with
  | none => simp
  | some value =>
      cases value with
      | string content => simp [Value.text?, read]
      | null => simp [Value.text?, read]
      | boolean truth => simp [Value.text?, read]
      | number number => simp [Value.text?, read]
      | array items => simp [Value.text?, read]
      | object fields => simp [Value.text?, read]

/-- Nothing is answered exactly where nothing is held. What is held is read at the type, and
the accessors all give the result, or all the error that names the setting and gives the reason
of the type; a default plays no part in it. A held null is no exception: they succeed with it
for the types that take null, and fail for the others. Where nothing is held the default is
given, and what is required is an error. The text of a setting is what reading a string finds. -/
theorem accessors_agree (settings : Settings) (α : Type) [Readable α] (key : String) :
    (settings.get α key = .ok none ↔ settings.find? key = none) ∧
    (settings.find? key = none ↔ settings.contains key = false) ∧
    (∀ value, settings.find? key = some value →
      (∀ result : α, settings.Answers key (.ok result) ↔ read value = .ok result) ∧
      ∀ error, settings.Answers key (.error error : Except SetupError α) ↔
        ∃ misfit, (read value : Except Misfit α) = .error misfit ∧
          error = .invalidSetting key misfit.message) ∧
    (settings.find? key = some .null →
      ((∃ result : α, settings.Answers key (.ok result)) ↔
        ∃ result : α, read .null = .ok result) ∧
      ((∃ error, settings.Answers key (.error error : Except SetupError α)) ↔
        ¬∃ result : α, read .null = .ok result)) ∧
    (settings.find? key = none →
      (∀ default : α, settings.getOr key default = .ok default) ∧
      settings.require α key = .error (.invalidSetting key "property is required")) ∧
    ∀ text, settings.text? key = some text ↔ settings.get String key = .ok (some text) := by
  refine ⟨settings.get_eq_ok_none_iff α key, settings.find?_eq_none_iff key, ?_, ?_, ?_,
    settings.text?_eq_some_iff key⟩
  · intro value held
    exact ⟨answers_ok_iff held, answers_error_iff held⟩
  · intro held
    simp only [answers_ok_iff held, answers_error_iff held, true_and]
    cases reads : (read Value.null : Except Misfit α) with
    | ok result => simp
    | error misfit => simp
  · intro absent
    exact ⟨getOr_of_absent absent, require_of_absent absent⟩

/-- A share of a whole, which is a whole number of hundredths. -/
structure Share where
  hundredths : UInt8

instance : Readable Share where
  read value := do
    let hundredths : UInt8 ← read value
    if hundredths ≤ 100 then .ok ⟨hundredths⟩ else .error (.unfit "more than the whole")

/-- A type with a rule of its own: its reason is given, and the default is not. -/
example :
    (ofPairs [("share", .count 120)]).Answers "share"
      (.error (.invalidSetting "share" "more than the whole") : Except SetupError Share) := by
  have refused : (read (Value.count 120) : Except Misfit Share) =
      .error (.unfit "more than the whole") := rfl
  exact answers_of_misfit rfl refused

end Interception.Settings
