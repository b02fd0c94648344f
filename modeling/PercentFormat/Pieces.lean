import PercentFormat.Directive
import PercentFormat.Value

/-! # Converted values

* **`Pieces`** — a converted value: its sign, the mark of its base, its body and its tail.
* **`Pieces.justify`** — the pieces padded to a width.
* **`Value.width`** — the width that a value asks for. -/

namespace PercentFormat

/-- A converted value in the parts between which padding may go. -/
structure Pieces where
  /-- The sign. -/
  sign : Text
  /-- The mark of the base in front of the digits. -/
  mark : Text
  /-- The digits, or the text of a value that is no number. -/
  body : Text
  /-- A decimal point behind the digits. -/
  tail : Text
  deriving DecidableEq

namespace Pieces

/-- Pieces that are nothing but a body. -/
def ofBody (body : Text) : Pieces := ⟨[], [], body, []⟩

/-- The pieces joined. -/
def text (p : Pieces) : Text := p.sign ++ p.mark ++ p.body ++ p.tail

/-- The length of the pieces joined. -/
def length (p : Pieces) : Nat :=
  p.sign.length + p.mark.length + p.body.length + p.tail.length

/-- The length is that of the joined text. -/
@[simp] theorem length_text (p : Pieces) : p.text.length = p.length := by
  simp [text, length, Nat.add_assoc]

/-- The pieces with upper-case letters. -/
def upper (p : Pieces) : Pieces := ⟨p.sign.upper, p.mark.upper, p.body.upper, p.tail.upper⟩

/-- A field cannot be padded with so many characters. -/
def paddingBound : Nat := pow2 63

/-- The pieces with `padding` more characters: spaces behind them, zeros between the mark and
the body, or spaces in front of them. -/
def pad (p : Pieces) (flags : Flags) (padding : Nat) : Text :=
  if flags.left then p.text ++ Text.spaces padding
  else if flags.zero then p.sign ++ p.mark ++ Text.zeros padding ++ p.body ++ p.tail
  else Text.spaces padding ++ p.text

/-- The pieces padded to a width. They are never cut. -/
def justify (p : Pieces) (flags : Flags) (width : Int) : Except Fault Text :=
  let padding := width - p.length
  if padding ≤ 0 then .ok p.text
  else if paddingBound ≤ padding then .error .paddingTooWide
  else .ok (p.pad flags padding.toNat)

/-- Padding adds its number of characters. -/
theorem length_pad (p : Pieces) (flags : Flags) (padding : Nat) :
    (p.pad flags padding).length = p.length + padding := by
  unfold pad
  split
  · simp
  · split
    · simp [length]
      omega
    · simp
      omega

/-- Without padding, pieces are their text. -/
theorem pad_zero (p : Pieces) (flags : Flags) : p.pad flags 0 = p.text := by
  simp [pad, text, Text.spaces, Text.zeros]

/-- Pieces are padded by what the width leaves, unless this is too much. -/
theorem justify_eq (p : Pieces) (flags : Flags) (width : Int) :
    p.justify flags width
      = if width - p.length < paddingBound then .ok (p.pad flags (width - p.length).toNat)
        else .error .paddingTooWide := by
  have positive : 0 < (paddingBound : Int) := Int.natCast_pos.2 (pow2_pos 63)
  simp only [justify]
  generalize (paddingBound : Int) = bound at positive ⊢
  generalize width - p.length = padding
  by_cases none : padding ≤ 0
  · rw [if_pos none, if_pos (by omega), Int.toNat_of_nonpos none, pad_zero]
  · rw [if_neg none]
    by_cases wide : bound ≤ padding
    · rw [if_pos wide, if_neg (Int.not_lt.2 wide)]
    · rw [if_neg wide, if_pos (Int.not_le.1 wide)]

/-- A width that is not positive asks for no padding. -/
theorem justify_of_nonpos (p : Pieces) (flags : Flags) {width : Int} (h : width ≤ 0) :
    p.justify flags width = .ok p.text := by
  have none : width - p.length ≤ 0 := by omega
  rw [justify, if_pos none]

end Pieces

/-! ## Widths given as values -/

/-- The width that a value asks for, for pieces of the given length. Without a value, and for
one that does not count as true, there is none. What is no whole number is refused, unless it is
a number that asks for no padding. -/
def Value.width (length : Nat) : Value → Except Fault Int
  | .bool b => .ok (if b then 1 else 0)
  | .whole n => .ok n
  | .double (.infinite true) => .ok 0
  | .double (.finite negative x) =>
    -- a number that is no greater than the length asks for no padding
    if negative ∨ x.units ≤ length * unitsPerOne then .ok 0 else .error .widthNotWhole
  | .ratio q => if q.num ≤ length * q.den then .ok 0 else .error .widthNotWhole
  | v => if v.truthy then .error .widthNotWhole else .ok 0

end PercentFormat
