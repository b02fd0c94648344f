import PercentFormat.ParseError

/-! # Faults

* **`Fault`** — everything that can go wrong when a template is read, when it is applied to
  arguments, and when variables are bound.
* **`Fault.kind`** — the kind of a fault, by which callers tell faults apart.
* **`bind_eq_ok_iff`**, **`bind_eq_error_iff`**, **`map_eq_error_iff`** — how steps that may end in
  a fault end together. -/

namespace PercentFormat

/-- What can go wrong. -/
inductive Fault where
  /-- A template was refused. -/
  | malformed (error : ParseError)
  /-- What was given as a template is not text. -/
  | templateNotText
  /-- A whole number has more digits than text may show, or a literal width or precision has
  more digits than a number may have. -/
  | tooManyDigits
  /-- A field is to be padded with more characters than a text can have. -/
  | paddingTooWide
  /-- A precision is beyond the range of precisions. -/
  | precisionOutOfRange
  /-- A precision is not a whole number. -/
  | precisionNotWhole
  /-- A width that asks for padding is not a whole number. -/
  | widthNotWhole
  /-- A ratio is beyond the range of doubles. -/
  | ratioTooLarge
  /-- What is searched for a directive is not text. -/
  | searchedNotText
  /-- An offset is beyond the range of offsets. -/
  | offsetOutOfRange
  /-- Variables that do not exist were to be bound. The title is that of the variables. -/
  | unknownVariables (title : Text) (names : List Text)
  /-- A value was to be bound to a name that is taken. -/
  | nameTaken
  /-- A binding was exited that had never been entered. -/
  | neverEntered
  /-- A session step names something that the session does not have. -/
  | unknownName (name : Text)
  deriving DecidableEq

/-- The kinds of faults. -/
inductive FaultKind where
  /-- A template is malformed. -/
  | template
  /-- What is given breaks what is asked of callers. -/
  | assertion
  /-- A number has more digits than it may have. -/
  | value
  /-- A number is beyond a range. -/
  | overflow
  /-- Something of another type is given. -/
  | type
  /-- There is no such variable, or nothing to restore. -/
  | attribute
  /-- There is nothing of such a name. -/
  | key
  deriving DecidableEq

/-- The kind of a fault. -/
def Fault.kind : Fault → FaultKind
  | malformed _ => .template
  | templateNotText => .assertion
  | tooManyDigits => .value
  | paddingTooWide => .overflow
  | precisionOutOfRange => .overflow
  | ratioTooLarge => .overflow
  | offsetOutOfRange => .overflow
  | precisionNotWhole => .type
  | widthNotWhole => .type
  | searchedNotText => .type
  | nameTaken => .type
  | unknownVariables .. => .attribute
  | neverEntered => .attribute
  | unknownName _ => .key

/-! ## Results of steps -/

section Results

variable {α β : Type} {x : Except Fault α} {f : α → Except Fault β}

/-- Two steps end without a fault if and only if both do. -/
theorem bind_eq_ok_iff {b : β} : x >>= f = .ok b ↔ ∃ a, x = .ok a ∧ f a = .ok b := by
  cases x with
  | error fault => simp [bind, Except.bind]
  | ok a => simp [bind, Except.bind]

/-- A fault of two steps is one of the first step, or of the second one behind it. -/
theorem bind_eq_error_iff {fault : Fault} :
    x >>= f = .error fault ↔ x = .error fault ∨ ∃ a, x = .ok a ∧ f a = .error fault := by
  cases x with
  | error fault => simp [bind, Except.bind]
  | ok a => simp [bind, Except.bind]

/-- A result that is changed is a value if it was one. -/
theorem map_eq_ok_iff {g : α → β} {b : β} : x.map g = .ok b ↔ ∃ a, x = .ok a ∧ g a = b := by
  cases x with
  | error fault => simp [Except.map]
  | ok a => simp [Except.map]

/-- A result that is changed has the faults that it had. -/
theorem map_eq_error_iff {g : α → β} {fault : Fault} :
    x.map g = .error fault ↔ x = .error fault := by
  cases x with
  | error arisen => simp [Except.map]
  | ok a => simp [Except.map]

end Results

end PercentFormat
