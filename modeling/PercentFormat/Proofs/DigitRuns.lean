import PercentFormat.Number.Reading
import PercentFormat.Proofs.Numerals
import PercentFormat.Proofs.Reading

/-! # Digits as they are read

Digits of all scripts make up a run, also with a single underscore between two of them. A reader
takes such a run whole, and a run behind a sign for the whole number that it denotes, as long as the
run has at most `maxDigits` digits.

* **`IsDigitRun`** — runs of digits, with **`IsDigitRun.readDigits_append`**.
* **`Text.trim_spaces`** — trimming leaves spaces on either side aside.
* **`IsSign`** — signs, with **`IsSign.readSign_append`** and **`IsSign.trim_spaces`**.
* **`SpellsWhole`** — the texts of whole numbers, with **`SpellsWhole.readWhole?_eq`**. -/

namespace PercentFormat

/-! ## Runs of digits -/

/-- A text **is a run** of digits with the given values, which may have a single underscore between
two of them. -/
inductive IsDigitRun : Text → List ℕ → Prop where
  /-- The last digit. -/
  | last {c : Char} {d : ℕ} (digit : digitValue? c = some d) : IsDigitRun [c] [d]
  /-- A digit in front of others. -/
  | cons {c : Char} {d : ℕ} {run : Text} {digits : List ℕ} (digit : digitValue? c = some d)
      (others : IsDigitRun run digits) : IsDigitRun (c :: run) (d :: digits)
  /-- A digit and an underscore in front of others. -/
  | underscore {c : Char} {d : ℕ} {run : Text} {digits : List ℕ} (digit : digitValue? c = some d)
      (others : IsDigitRun run digits) : IsDigitRun (c :: '_' :: run) (d :: digits)

/-- A character **continues** a run if it is a digit or an underscore. -/
def continuesRun (c : Char) : Bool := isDecimalDigit c || c == '_'

/-- The last character of a text continues a run if it is a digit. -/
theorem readDigitsAfter_singleton (c : Char) :
    readDigitsAfter [c]
      = match digitValue? c with
        | some d => ([d], [])
        | none => ([], [c]) := rfl

/-- A character with others behind it continues a run if it is a digit, or an underscore in front of
a digit. -/
theorem readDigitsAfter_cons_cons (c next : Char) (rest : Text) :
    readDigitsAfter (c :: next :: rest)
      = match digitValue? c with
        | some d => (d :: (readDigitsAfter (next :: rest)).1, (readDigitsAfter (next :: rest)).2)
        | none =>
          match if c = '_' then digitValue? next else none with
          | some d => (d :: (readDigitsAfter rest).1, (readDigitsAfter rest).2)
          | none => ([], c :: next :: rest) := rfl

/-- A run ends where nothing continues it. -/
theorem readDigitsAfter_of_startsOutside {rest : Text}
    (outside : StartsOutside continuesRun rest) : readDigitsAfter rest = ([], rest) := by
  cases rest with
  | nil => rfl
  | cons c rest =>
    have stops := outside c rfl
    rw [continuesRun, Bool.or_eq_false_iff, isDecimalDigit, Option.isSome_eq_false_iff,
      Option.isNone_iff_eq_none, beq_eq_false_iff_ne] at stops
    cases rest with
    | nil => simp only [readDigitsAfter_singleton, stops.1]
    | cons next rest => simp only [readDigitsAfter_cons_cons, stops.1, if_neg stops.2]

/-- A digit continues a run. -/
theorem readDigitsAfter_cons {c : Char} {d : ℕ} (digit : digitValue? c = some d) (rest : Text) :
    readDigitsAfter (c :: rest) = (d :: (readDigitsAfter rest).1, (readDigitsAfter rest).2) := by
  cases rest with
  | nil =>
    rw [readDigitsAfter_singleton, digit]
    rfl
  | cons next rest => simp only [readDigitsAfter_cons_cons, digit]

/-- An underscore in front of a digit continues a run. -/
theorem readDigitsAfter_underscore {c : Char} {d : ℕ} (digit : digitValue? c = some d)
    (rest : Text) : readDigitsAfter ('_' :: c :: rest) = readDigitsAfter (c :: rest) := by
  have none : digitValue? '_' = Option.none := by decide
  rw [readDigitsAfter_cons digit]
  simp only [readDigitsAfter_cons_cons, none, if_true, digit]

/-- A run starts with a digit, and is continued by the others. -/
theorem readDigits_cons {c : Char} {d : ℕ} (digit : digitValue? c = some d) (rest : Text) :
    readDigits (c :: rest) = readDigitsAfter (c :: rest) := by
  rw [readDigitsAfter_cons digit]
  simp only [readDigits, digit]

/-- Digits alone are a run. -/
theorem isDigitRun_of_forall {run : Text} (nonempty : run ≠ [])
    (digits : ∀ c ∈ run, isDecimalDigit c = true) :
    IsDigitRun run (run.filterMap digitValue?) := by
  induction run with
  | nil => contradiction
  | cons c rest ih =>
    obtain ⟨d, value⟩ := Option.isSome_iff_exists.1 (digits c List.mem_cons_self)
    rw [List.filterMap_cons_some value]
    by_cases last : rest = []
    · rw [last]
      exact .last value
    · exact .cons value (ih last fun x member => digits x (List.mem_cons_of_mem c member))

namespace IsDigitRun

variable {run : Text} {digits : List ℕ}

/-- A run starts with a digit. -/
theorem exists_eq_cons (isRun : IsDigitRun run digits) :
    ∃ c d rest, run = c :: rest ∧ digitValue? c = some d := by
  cases isRun with
  | last digit => exact ⟨_, _, _, rfl, digit⟩
  | cons digit others => exact ⟨_, _, _, rfl, digit⟩
  | underscore digit others => exact ⟨_, _, _, rfl, digit⟩

/-- A run has a digit. -/
theorem digits_ne_nil (isRun : IsDigitRun run digits) : digits ≠ [] := by
  cases isRun <;> exact List.cons_ne_nil _ _

/-- A run is read to its end, if what follows does not continue it. -/
theorem readDigitsAfter_append (isRun : IsDigitRun run digits) {rest : Text}
    (outside : StartsOutside continuesRun rest) :
    readDigitsAfter (run ++ rest) = (digits, rest) := by
  induction isRun with
  | last digit =>
    rw [List.singleton_append, readDigitsAfter_cons digit,
      readDigitsAfter_of_startsOutside outside]
  | cons digit others ih => rw [List.cons_append, readDigitsAfter_cons digit, ih]
  | underscore digit others ih =>
    -- the underscore stands in front of the first digit of the others
    obtain ⟨c, d, run, rfl, first⟩ := others.exists_eq_cons
    rw [List.cons_append] at ih
    rw [List.cons_append, readDigitsAfter_cons digit, List.cons_append, List.cons_append,
      readDigitsAfter_underscore first, ih]

/-- **A run is read** to its end, if what follows does not continue it. -/
theorem readDigits_append (isRun : IsDigitRun run digits) {rest : Text}
    (outside : StartsOutside continuesRun rest) : readDigits (run ++ rest) = (digits, rest) := by
  obtain ⟨c, d, others, rfl, digit⟩ := isRun.exists_eq_cons
  rw [← isRun.readDigitsAfter_append outside]
  exact readDigits_cons digit (others ++ rest)

/-- A run that is all of a text is read to its end. -/
theorem readDigits_eq (isRun : IsDigitRun run digits) : readDigits run = (digits, []) := by
  have nothing : StartsOutside continuesRun [] := fun _ first => nomatch first
  have read := isRun.readDigits_append nothing
  rwa [List.append_nil] at read

end IsDigitRun

/-- Each digit has a value. -/
theorem length_filterMap_digitValue? {run : Text} (digits : ∀ c ∈ run, isDecimalDigit c = true) :
    (run.filterMap digitValue?).length = run.length := by
  rw [List.length_filterMap_eq_countP]
  exact List.countP_eq_length.2 digits

/-! ## Trimming -/

/-- Trimming leaves spaces on either side of a text aside. -/
theorem Text.trim_spaces (i j : Nat) {core : Text} (nonempty : core ≠ [])
    (front : StartsOutside isBlank core) (back : StartsOutside isBlank core.reverse) :
    (spaces i ++ core ++ spaces j).trim = core := by
  have blank (k : Nat) : ∀ c ∈ spaces k, isBlank c = true := by
    intro c member
    rw [List.eq_of_mem_replicate member]
    decide
  have left : trimLeft (spaces i ++ core ++ spaces j) = core ++ spaces j := by
    rw [List.append_assoc]
    exact dropWhile_append_of_startsOutside (blank i) (front.append nonempty (spaces j))
  have right : trimLeft (core ++ spaces j).reverse = core.reverse := by
    rw [List.reverse_append, spaces, List.reverse_replicate]
    exact dropWhile_append_of_startsOutside (blank j) back
  rw [trim, left, right, List.reverse_reverse]

/-- An ASCII digit is not blank. -/
theorem isBlank_of_isDigit {c : Char} (ascii : c.isDigit = true) : isBlank c = false := by
  simp only [Char.isDigit, Bool.and_eq_true, decide_eq_true_eq] at ascii
  have low : 48 ≤ c.toNat := ascii.1
  have high : c.toNat ≤ 57 := ascii.2
  simp only [isBlank, blankRanges, CodeRanges.contains_cons, CodeRanges.contains_nil,
    Bool.or_eq_false_iff, Bool.and_eq_false_iff, decide_eq_false_iff_not, Bool.or_false]
  omega

/-! ## Signs -/

/-- A digit is no character that has no digit value. -/
theorem ne_of_digitValue?_eq_some {c other : Char} {d : ℕ} (digit : digitValue? c = some d)
    (none : digitValue? other = Option.none) : c ≠ other := by
  rintro rfl
  rw [none] at digit
  contradiction

/-- A text **is a sign**, and says whether it is a minus. -/
inductive IsSign : Text → Bool → Prop where
  /-- A minus. -/
  | minus : IsSign ['-'] true
  /-- A plus. -/
  | plus : IsSign ['+'] false
  /-- No sign. -/
  | none : IsSign [] false

/-- A sign in front of a digit is read as such. -/
theorem IsSign.readSign_append {sign : Text} {negative : Bool} (isSign : IsSign sign negative)
    {c : Char} {d : ℕ} (digit : digitValue? c = some d) (rest : Text) :
    readSign (sign ++ c :: rest) = (negative, c :: rest) := by
  cases isSign with
  | minus => rfl
  | plus => rfl
  | none =>
    have minus : c ≠ '-' := ne_of_digitValue?_eq_some digit (by decide)
    have plus : c ≠ '+' := ne_of_digitValue?_eq_some digit (by decide)
    simp [readSign, minus, plus]

/-- A minus where it is asked for is a sign. -/
theorem isSign_ite (p : Prop) [Decidable p] : IsSign (if p then ['-'] else []) p := by
  split
  · rename_i holds
    rw [decide_eq_true holds]
    exact .minus
  · rename_i fails
    rw [decide_eq_false fails]
    exact .none

/-- Trimming leaves a sign, and what stands behind it without blanks. -/
theorem IsSign.trim_spaces {sign : Text} {negative : Bool} (isSign : IsSign sign negative)
    {core : Text} (nonempty : core ≠ []) (visible : ∀ c ∈ core, isBlank c = false) (i j : ℕ) :
    (Text.spaces i ++ (sign ++ core) ++ Text.spaces j).trim = sign ++ core := by
  have front : StartsOutside isBlank (sign ++ core) := by
    cases isSign with
    | minus => exact startsOutside_cons (by decide)
    | plus => exact startsOutside_cons (by decide)
    | none => exact fun c first => visible c (List.mem_of_head? first)
  have back : StartsOutside isBlank core.reverse := fun c last =>
    visible c (List.mem_reverse.1 (List.mem_of_head? last))
  refine Text.trim_spaces i j (List.append_ne_nil_of_right_ne_nil _ nonempty) front ?_
  rw [List.reverse_append]
  exact back.append (by simpa using nonempty) sign.reverse

/-- Without spaces there is nothing to trim. -/
theorem IsSign.trim_append {sign : Text} {negative : Bool} (isSign : IsSign sign negative)
    {core : Text} (nonempty : core ≠ []) (visible : ∀ c ∈ core, isBlank c = false) :
    (sign ++ core).trim = sign ++ core := by
  have trimmed := isSign.trim_spaces nonempty visible 0 0
  rwa [Text.spaces, List.replicate_zero, List.nil_append, List.append_nil] at trimmed

/-! ## Texts of whole numbers -/

/-- A text **spells a whole number** with the given sign and digits, in digits of any script and
possibly with single underscores between them. -/
def SpellsWhole (t : Text) (negative : Bool) (digits : List ℕ) : Prop :=
  ∃ sign run, t = sign ++ run ∧ IsSign sign negative ∧ IsDigitRun run digits

namespace SpellsWhole

variable {t : Text} {negative : Bool} {digits : List ℕ}

/-- A text that spells a whole number is read as one, unless it has too many digits. -/
theorem readWhole?_eq (spelled : SpellsWhole t negative digits) :
    readWhole? t = if digits.length ≤ maxDigits then some (signed negative (Numeral.value digits))
      else none := by
  obtain ⟨sign, run, rfl, isSign, isRun⟩ := spelled
  obtain ⟨c, d, others, rfl, digit⟩ := isRun.exists_eq_cons
  have signRead := isSign.readSign_append digit others
  have read := isRun.readDigits_eq
  obtain ⟨first, rest, rfl⟩ := List.exists_cons_of_ne_nil isRun.digits_ne_nil
  simp only [readWhole?, signRead, read]

end SpellsWhole

end PercentFormat
