import PercentFormat.Value.Text

/-! # Values as numbers

* **`Value.toNumber`** — the number that a value stands for. What is no number is read from
  its text, and text that denotes no number gives the double that is not a number.
* **`Value.toInteger`** — the whole number that a value stands for as a width or a precision. -/

namespace PercentFormat

namespace Value

/-- The double of a ratio with the given sign, from the magnitude nearest to it. -/
def ofNearest (negative : Bool) : Option Magnitude → Except Fault Number
  | some x => .ok (.double (.finite negative x))
  | none => .error .ratioTooLarge

/-- The number that a value stands for. -/
def toNumber : Value → Except Fault Number
  | bool b => .ok (.whole (if b then 1 else 0))
  | whole n => .ok (.whole n)
  | double x => .ok (.double x)
  | ratio q => ofNearest (q.num < 0) (Magnitude.ofRatio? q.num.natAbs q.den)
  | v => v.toText.map Number.ofText

/-- The whole number towards zero that a value stands for; zero where its number is not
finite. -/
def toInteger (v : Value) : Except Fault Int := v.toNumber.map Number.truncate

end Value

end PercentFormat
