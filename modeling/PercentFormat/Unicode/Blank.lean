import PercentFormat.Text
import PercentFormat.Unicode.Ranges

/-! # Blank characters

* **`isBlank`** — white space: the separators of Unicode, the line and paragraph breaks, and
  the control characters that act as such.
* **`Text.trim`** — a text without the blanks at its two ends. -/

namespace PercentFormat

/-- The ranges of white space. -/
def blankRanges : CodeRanges := [
  (0x9, 0xd), (0x1c, 0x20), (0x85, 0x85), (0xa0, 0xa0), (0x1680, 0x1680), (0x2000, 0x200a),
  (0x2028, 0x2029), (0x202f, 0x202f), (0x205f, 0x205f), (0x3000, 0x3000)]

/-- A blank is a character of white space. -/
def isBlank (c : Char) : Bool := blankRanges.contains c

/-- A text without its leading blanks. -/
def Text.trimLeft (t : Text) : Text := t.dropWhile isBlank

/-- A text without its leading and its trailing blanks. -/
def Text.trim (t : Text) : Text := (Text.trimLeft (Text.trimLeft t).reverse).reverse

/-- Nothing is left of the empty text. -/
@[simp] theorem Text.trim_nil : Text.trim [] = [] := rfl

/-- What ASCII counts as white space is blank. -/
theorem isBlank_of_isWhitespace (c : Char) (h : c.isWhitespace = true) : isBlank c = true := by
  simp only [Char.isWhitespace, Bool.or_eq_true, decide_eq_true_eq] at h
  rcases h with ((h | h) | h) | h <;> subst h <;> decide

end PercentFormat
