/-! # Ranges of code points

A property of characters is given by the closed ranges of code points that have it.

* **`CodeRanges`** — a list of ranges, each with its first and its last code point.
* **`CodeRanges.contains`** — the characters that lie in one of them. -/

namespace PercentFormat

/-- Closed ranges of code points, each given by its first and its last one. -/
abbrev CodeRanges := List (Nat × Nat)

namespace CodeRanges

/-- A character lies in some of the ranges. -/
def contains (ranges : CodeRanges) (c : Char) : Bool :=
  ranges.any fun r => r.1 ≤ c.toNat && c.toNat ≤ r.2

/-- The empty list of ranges has no character. -/
@[simp] theorem contains_nil (c : Char) : contains [] c = false := rfl

/-- A character lies in the first range or in a later one. -/
theorem contains_cons (first last : Nat) (ranges : CodeRanges) (c : Char) :
    contains ((first, last) :: ranges) c
      = ((first ≤ c.toNat && c.toNat ≤ last) || contains ranges c) := rfl

end CodeRanges

end PercentFormat
