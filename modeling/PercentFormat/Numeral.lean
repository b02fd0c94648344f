import PercentFormat.Power
import PercentFormat.Text

/-! # Numerals of natural numbers

* **`tooLong`** — the numbers with more digits than a text may show at once.
* **`Numeral.inBase`** — the canonical numeral in a base up to sixteen, in lower case.
* **`Numeral.padded`** — a decimal numeral with zeros in front up to a given length.
* **`Numeral.divideOff`** — a number divided into blocks of digits, the lowest one first.
* **`Numeral.ofBlocks`** — the numeral that blocks make up.
* **`Numeral.decimal`** — the canonical decimal numeral of a number, however long; one that is
  too long is made up of blocks (`Numeral.decimal_eq_inBase`).
* **`Numeral.value`** — the number that a list of digit values denotes. -/

namespace PercentFormat

/-- The greatest number of digits that a whole number may have in text. -/
def maxDigits : Nat := 4300

/-- A whole number is too long for text if it takes more than `maxDigits` digits. -/
def tooLong (n : Nat) : Bool := pow10 maxDigits ≤ n

namespace Numeral

/-- The canonical numeral of `n` in base `base`: no leading zero, except that zero is `0`. -/
def inBase (base n : Nat) : Text := Nat.toDigits base n

/-- The decimal numeral of `n` with zeros in front, so that it has at least `length` digits. -/
def padded (length n : Nat) : Text :=
  let digits := inBase 10 n
  Text.zeros (length - digits.length) ++ digits

/-- The number of digits that are divided off at a time. -/
def blockLength : Nat := 1000

/-- The numbers below `blockSize` are those of at most `blockLength` digits. -/
@[irreducible] def blockSize : Nat := pow10 blockLength

/-- A block holds more than one digit's worth of numbers. -/
theorem one_lt_blockSize : 1 < blockSize := by
  unfold blockSize
  exact Nat.lt_of_lt_of_le (by decide) (pow10_le_pow10 (show 1 ≤ blockLength by decide))

/-- Divides a number into blocks, until nothing of it is left. Each block is put behind those that
have been divided off before, so the lowest one comes first. -/
def divideOff (blocks : List Nat) (n : Nat) : List Nat :=
  if n = 0 then blocks
  else divideOff (blocks ++ [n % blockSize]) (n / blockSize)
termination_by n
decreasing_by
  rename_i more
  exact Nat.div_lt_self (Nat.pos_of_ne_zero more) one_lt_blockSize

/-- The numeral that blocks make up, the lowest one first. All but the highest one have zeros in
front, so that they have `blockLength` digits. -/
def ofBlocks (blocks : List Nat) : Text :=
  match blocks.getLast? with
  | none => []
  | some high => inBase 10 high ++ blocks.dropLast.reverse.flatMap (padded blockLength)

/-- The canonical decimal numeral of `n`. One that is too long is made up of blocks. -/
@[irreducible] def decimal (n : Nat) : Text :=
  if tooLong n then ofBlocks (divideOff [] n) else inBase 10 n

/-! ### Blocks make up the canonical numeral -/

/-- One more digit behind a numeral that is not zero. -/
theorem inBase_append_digit {n d : Nat} (hn : 0 < n) (hd : d < 10) :
    inBase 10 (10 * n + d) = inBase 10 n ++ inBase 10 d :=
  (Nat.toDigits_append_toDigits (by decide) hn hd).symm

/-- A digit has a numeral of one character. -/
theorem length_inBase_of_lt {d : Nat} (h : d < 10) : (inBase 10 d).length = 1 := by
  rw [inBase, Nat.toDigits_of_lt_base h, List.length_singleton]

/-- The numeral of zero. -/
theorem inBase_zero : inBase 10 0 = ['0'] := Nat.toDigits_zero 10

/-- One more digit behind a padded numeral. -/
theorem padded_succ {k n d : Nat} (hk : 0 < k) (hd : d < 10) :
    padded (k + 1) (10 * n + d) = padded k n ++ inBase 10 d := by
  have single := length_inBase_of_lt hd
  by_cases zero : n = 0
  · -- a zero in front takes the place of the numeral of zero
    subst zero
    have split : Text.zeros k = Text.zeros (k - 1) ++ ['0'] := by
      obtain ⟨j, rfl⟩ : ∃ j, k = j + 1 := ⟨k - 1, by omega⟩
      simp [Text.zeros, List.replicate_succ']
    simp [padded, inBase_zero, single, split]
  · rw [padded, padded, inBase_append_digit (by omega) hd, List.length_append, single,
      Nat.add_sub_add_right, List.append_assoc]

/-- The canonical numeral of a number is that of its high part, if that is not zero, and the
low part with zeros in front. -/
theorem inBase_append_padded {high low k : Nat} (hk : 0 < k) (hh : 0 < high)
    (hl : low < pow10 k) :
    inBase 10 (high * pow10 k + low) = inBase 10 high ++ padded k low := by
  induction k generalizing low with
  | zero => omega
  | succ k ih =>
    have digits : low = 10 * (low / 10) + low % 10 := (Nat.div_add_mod low 10).symm
    have small : low % 10 < 10 := Nat.mod_lt _ (by decide)
    -- the last digit of the low part moves out, the rest is a shorter low part
    by_cases first : k = 0
    · subst first
      have lt : low < 10 := hl
      have single := length_inBase_of_lt lt
      rw [show high * pow10 (0 + 1) = 10 * high from Nat.mul_comm high 10,
        inBase_append_digit hh lt, padded, single]
      rfl
    · have fits : low / 10 < pow10 k := by
        rw [Nat.div_lt_iff_lt_mul (by decide), ← pow10_succ]
        exact hl
      have moved : high * pow10 (k + 1) + low = 10 * (high * pow10 k + low / 10) + low % 10 := by
        rw [pow10_succ, ← Nat.mul_assoc]
        omega
      have positive : 0 < high * pow10 k + low / 10 := by
        have := Nat.mul_pos hh (pow10_pos k)
        omega
      rw [moved, inBase_append_digit positive small, ih (by omega) fits, List.append_assoc,
        ← padded_succ (by omega) small, ← digits]

/-- The numeral of `n` in front of blocks that have been divided off, the lowest one first. -/
def inFront (n : Nat) (blocks : List Nat) : Text :=
  inBase 10 n ++ blocks.reverse.flatMap (padded blockLength)

/-- When one more block is divided off, the numeral in front of all blocks stays the same. -/
theorem inFront_divide {n : Nat} (long : blockSize ≤ n) (blocks : List Nat) :
    inFront (n / blockSize) (blocks ++ [n % blockSize]) = inFront n blocks := by
  have positive : 0 < blockSize := Nat.lt_trans Nat.zero_lt_one one_lt_blockSize
  have high : 0 < n / blockSize := Nat.div_pos long positive
  have low : n % blockSize < blockSize := Nat.mod_lt n positive
  have whole : n / blockSize * blockSize + n % blockSize = n := Nat.div_add_mod' n blockSize
  have digits : inBase 10 n = inBase 10 (n / blockSize) ++ padded blockLength (n % blockSize) := by
    generalize n / blockSize = a at high whole ⊢
    generalize n % blockSize = b at low whole ⊢
    subst whole
    unfold blockSize at low ⊢
    exact inBase_append_padded (by decide) high low
  rw [inFront, inFront, digits, List.reverse_append, List.reverse_singleton, List.flatMap_append,
    List.flatMap_singleton, List.append_assoc]

/-- The highest block makes up the numeral in front of the other blocks. -/
theorem ofBlocks_append_singleton (blocks : List Nat) (n : Nat) :
    ofBlocks (blocks ++ [n]) = inFront n blocks := by
  simp only [ofBlocks, List.getLast?_append, List.getLast?_singleton, Option.some_or,
    List.dropLast_concat, inFront]

/-- When nothing is left of a number, its blocks make up its numeral in front of those that had been
divided off before. -/
theorem ofBlocks_divideOff {n : Nat} (more : 0 < n) (blocks : List Nat) :
    ofBlocks (divideOff blocks n) = inFront n blocks := by
  induction n using Nat.strongRecOn generalizing blocks with
  | _ n ih =>
    rw [divideOff, if_neg (Nat.ne_of_gt more)]
    by_cases short : n < blockSize
    · -- this is the highest block
      rw [Nat.div_eq_of_lt short, Nat.mod_eq_of_lt short, divideOff, if_pos rfl,
        ofBlocks_append_singleton]
    · have long : blockSize ≤ n := Nat.le_of_not_lt short
      have positive : 0 < blockSize := Nat.lt_trans Nat.zero_lt_one one_lt_blockSize
      rw [ih _ (Nat.div_lt_self more one_lt_blockSize) (Nat.div_pos long positive),
        inFront_divide long]

/-- The blocks of a number make up its canonical numeral. -/
theorem ofBlocks_divideOff_nil {n : Nat} (more : 0 < n) :
    ofBlocks (divideOff [] n) = inBase 10 n := by
  rw [ofBlocks_divideOff more, inFront, List.reverse_nil, List.flatMap_nil, List.append_nil]

/-- Also where it is made up of blocks, a numeral is the canonical one. -/
theorem decimal_eq_inBase (n : Nat) : decimal n = inBase 10 n := by
  unfold decimal
  split
  · rename_i long
    have bound : pow10 maxDigits ≤ n := of_decide_eq_true long
    exact ofBlocks_divideOff_nil (Nat.lt_of_lt_of_le (pow10_pos maxDigits) bound)
  · rfl

/-! ### Counting digits and reading them -/

/-- The number of decimal digits of `n`; zero has one. -/
def digitCount (n : Nat) : Nat := (decimal n).length

/-- The number that digit values denote in base ten, the most significant one first. -/
def value (digits : List Nat) : Nat := digits.foldl (fun n d => 10 * n + d) 0

/-- No digits denote zero. -/
@[simp] theorem value_nil : value [] = 0 := rfl

/-- One more digit multiplies by ten and adds. -/
@[simp] theorem value_concat (digits : List Nat) (d : Nat) :
    value (digits ++ [d]) = 10 * value digits + d := by
  simp [value]

end Numeral

end PercentFormat
