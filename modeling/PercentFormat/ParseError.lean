import PercentFormat.Text

/-! # Parse errors

* **`Reason`** — what is wrong with a template, or with a text taken for a directive.
* **`ParseError`** — a reason, with the template and the offset where it arose. -/

namespace PercentFormat

/-- Why a text does not continue as a template, or is no directive. -/
inductive Reason where
  /-- Neither a literal nor a directive begins anywhere in the rest of the template. -/
  | incomplete
  /-- No directive begins at the offset, though something can be read further on. -/
  | unknown
  /-- A text that was to be one directive is none. -/
  | malformed
  deriving DecidableEq

/-- The wording of a reason. -/
def Reason.text : Reason → Text
  | incomplete => Text.ofString "incomplete directive"
  | unknown => Text.ofString "unknown format directive"
  | malformed => Text.ofString "malformed directive"

/-- An error in a template. -/
structure ParseError where
  /-- The template that was read. -/
  template : Text
  /-- The number of code points in front of the place where reading stopped. -/
  offset : Nat
  /-- What is wrong there. -/
  reason : Reason
  deriving DecidableEq

end PercentFormat
