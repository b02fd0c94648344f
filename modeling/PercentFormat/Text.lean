/-! # Text

* **`Text`** — a sequence of Unicode code points. Every length, width and offset counts them.
* **`Text.spaces`**, **`Text.zeros`** — the two kinds of padding.
* **`Text.precedes`** — the order of texts by their code points.
* **`Text.separated`** — texts joined with a separator between neighbours. -/

namespace PercentFormat

/-- A text is the list of its code points. -/
abbrev Text := List Char

namespace Text

/-- The text of a string. -/
def ofString (s : String) : Text := s.toList

/-- A run of `n` spaces. -/
def spaces (n : Nat) : Text := List.replicate n ' '

/-- A run of `n` zeros. -/
def zeros (n : Nat) : Text := List.replicate n '0'

/-- The length of a run of spaces. -/
@[simp] theorem length_spaces (n : Nat) : (spaces n).length = n := List.length_replicate

/-- The length of a run of zeros. -/
@[simp] theorem length_zeros (n : Nat) : (zeros n).length = n := List.length_replicate

/-- Texts joined with a separator between neighbours. -/
def separated (separator : Text) (parts : List Text) : Text := separator.intercalate parts

/-- A text stands in front of another in the order of their code points, or equals it. -/
def precedes : Text → Text → Bool
  | [], _ => true
  | _ :: _, [] => false
  | c :: s, d :: t => c.toNat < d.toNat || (c = d && precedes s t)

/-- Upper-case letters in place of the ASCII lower-case ones. -/
def upper (t : Text) : Text := t.map Char.toUpper

/-- Changing the case of letters keeps the length. -/
@[simp] theorem length_upper (t : Text) : (upper t).length = t.length := List.length_map _

end Text

end PercentFormat
