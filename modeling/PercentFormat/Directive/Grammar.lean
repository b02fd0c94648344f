import PercentFormat.Directive.Spelling

/-! # The grammar of directives

A text is a directive if its parts are what the grammar allows in their places. A zero at the
front of a width may be taken for a flag or for a digit, so one directive may be spelled in
several ways. Scanning gives the spelling in which such zeros are flags.

* **`Written.Valid`**, **`Spelling.Grammatical`** — the parts that may stand in their places.
* **`IsDirective`** — the texts of such parts.
* **`Spelling.Valid`** — a spelling whose width starts with no ASCII zero.
* **`Spelling.scan?_text_append`** — a valid spelling is scanned back from its text, whatever
  follows.
* **`Spelling.valid_of_scan?`** — what is scanned is valid.
* **`IsDirective.exists_valid`** — every directive has a valid spelling.
* **`IsDirective.append_inj`** — no directive is the beginning of another one. -/

namespace PercentFormat

/-- A width or a precision that may be written: a run of digits is not empty. -/
def Written.Valid : Written → Prop
  | .absent => True
  | .star => True
  | .digits run => run ≠ [] ∧ ∀ c ∈ run, isDecimalDigit c = true

/-- The parts of a directive that the grammar allows in their places. -/
structure Spelling.Grammatical (s : Spelling) : Prop where
  /-- The run of flags holds nothing else. -/
  flags : ∀ c ∈ s.flags, c ∈ Flags.letters
  /-- The width may be written. -/
  width : s.width.Valid
  /-- The precision may be written. -/
  precision : s.precision.Valid

/-- A text **is a directive** if the grammar allows parts that it is made up of. -/
def IsDirective (t : Text) : Prop := ∃ s : Spelling, s.Grammatical ∧ s.text = t

/-- The parts of a directive as they are scanned. -/
structure Spelling.Valid (s : Spelling) : Prop extends Spelling.Grammatical s where
  /-- A zero in front of the width is a flag. -/
  widthHead : s.width.text.head? ≠ some '0'

/-! ## What follows a run -/

/-- The first character of a text, if there is one, lacks a property. -/
def StartsOutside (p : Char → Bool) (t : Text) : Prop := ∀ c, t.head? = some c → p c = false

/-- A text that starts with a character outside a class starts outside it. -/
theorem startsOutside_cons {p : Char → Bool} {c : Char} {t : Text} (h : p c = false) :
    StartsOutside p (c :: t) := by
  intro d first
  obtain rfl := Option.some.inj first
  exact h

/-- A run in front of a text that starts outside its class is taken whole. -/
theorem takeWhile_append_of_startsOutside {p : Char → Bool} {run t : Text}
    (inside : ∀ c ∈ run, p c = true) (outside : StartsOutside p t) :
    (run ++ t).takeWhile p = run := by
  rw [List.takeWhile_append_of_pos inside]
  cases t with
  | nil => simp
  | cons c t => simp [outside c rfl]

/-- Behind a run, a text that starts outside its class is left. -/
theorem dropWhile_append_of_startsOutside {p : Char → Bool} {run t : Text}
    (inside : ∀ c ∈ run, p c = true) (outside : StartsOutside p t) :
    (run ++ t).dropWhile p = t := by
  rw [List.dropWhile_append_of_pos inside]
  cases t with
  | nil => rfl
  | cons c t => simp [outside c rfl]

/-! ## Scanning a written width or precision -/

/-- A star is no digit. -/
theorem isDecimalDigit_star : isDecimalDigit '*' = false := by decide

/-- A width or a precision is scanned back from its text, if what follows does not continue
it. -/
theorem Written.scan_text_append {w : Written} (valid : w.Valid) {rest : Text}
    (outside : StartsOutside (fun c => isDecimalDigit c || c == '*') rest) :
    Written.scan (w.text ++ rest) = (w, rest) := by
  have noDigit : StartsOutside isDecimalDigit rest := fun c first => by
    have := outside c first
    simp only [Bool.or_eq_false_iff] at this
    exact this.1
  cases w with
  | absent =>
    rw [Written.text, List.nil_append]
    unfold Written.scan
    split
    · rename_i tail
      exact absurd (outside '*' rfl) (by simp)
    · rw [← List.nil_append rest, takeWhile_append_of_startsOutside (by simp) noDigit]
  | star => rfl
  | digits run =>
    obtain ⟨nonempty, inside⟩ := valid
    rw [Written.text]
    unfold Written.scan
    split
    · -- a run of digits starts with no star
      rename_i tail whole
      cases run with
      | nil => exact absurd rfl nonempty
      | cons c run =>
        obtain ⟨rfl, -⟩ := List.cons.inj whole
        have := inside '*' (by simp)
        rw [isDecimalDigit_star] at this
        contradiction
    · rw [takeWhile_append_of_startsOutside inside noDigit,
        dropWhile_append_of_startsOutside inside noDigit]
      cases run with
      | nil => exact absurd rfl nonempty
      | cons c run => rfl

/-- What is scanned as a width or a precision may be written. -/
theorem Written.valid_scan (t : Text) : (Written.scan t).1.Valid := by
  unfold Written.scan
  split
  · trivial
  · rename_i t _
    split
    · trivial
    · rename_i nonempty
      exact ⟨nonempty, fun c member => List.all_eq_true.1 List.all_takeWhile c member⟩

/-! ## Scanning a written directive -/

/-- No specifier continues a width or a precision, nor is it a flag, a point or a length. -/
theorem Specifier.letter_outside (s : Specifier) :
    (isDecimalDigit s.letter || s.letter == '*') = false ∧ s.letter ∉ Flags.letters
      ∧ s.letter ≠ '.' ∧ Length.ofLetter? s.letter = none := by
  cases s <;> decide

/-- No length modifier continues a width or a precision, nor is it a flag or a point. -/
theorem Length.letter_outside (l : Length) :
    (isDecimalDigit l.letter || l.letter == '*') = false ∧ l.letter ∉ Flags.letters
      ∧ l.letter ≠ '.' := by
  cases l <;> decide

namespace Spelling

/-- The end of a directive: its length modifier and its specifier. -/
def ending (length : Option Length) (specifier : Specifier) (rest : Text) : Text :=
  (length.map Length.letter).toList ++ specifier.letter :: rest

/-- The end of a directive is not empty, and starts with no flag, point or digit. -/
theorem exists_ending (length : Option Length) (specifier : Specifier) (rest : Text) :
    ∃ c t, ending length specifier rest = c :: t
      ∧ (isDecimalDigit c || c == '*') = false ∧ c ∉ Flags.letters ∧ c ≠ '.' := by
  cases length with
  | none =>
    obtain ⟨digit, flag, point, -⟩ := specifier.letter_outside
    exact ⟨specifier.letter, rest, rfl, digit, flag, point⟩
  | some l =>
    obtain ⟨digit, flag, point⟩ := l.letter_outside
    exact ⟨l.letter, specifier.letter :: rest, rfl, digit, flag, point⟩

/-- A length modifier in front of a specifier is scanned back. -/
theorem scanLength_ending (length : Option Length) (specifier : Specifier) (rest : Text) :
    scanLength (ending length specifier rest) = (length, specifier.letter :: rest) := by
  cases length with
  | none =>
    obtain ⟨-, -, -, other⟩ := specifier.letter_outside
    simp [ending, scanLength, other]
  | some l => simp [ending, scanLength]

/-- A precision in front of the end of a directive is scanned back. -/
theorem scanPrecision?_append {w : Written} (valid : w.Valid) (length : Option Length)
    (specifier : Specifier) (rest : Text) :
    scanPrecision? (pointed w ++ ending length specifier rest)
      = some (w, ending length specifier rest) := by
  obtain ⟨c, t, same, digit, -, point⟩ := exists_ending length specifier rest
  have outside : StartsOutside (fun c => isDecimalDigit c || c == '*')
      (ending length specifier rest) := same ▸ startsOutside_cons digit
  have scanned := Written.scan_text_append valid outside
  cases w with
  | absent =>
    -- no end of a directive starts with a point
    rw [pointed, List.nil_append, same]
    unfold scanPrecision?
    split
    · rename_i whole
      exact absurd (List.cons.inj whole).1 point
    · rfl
  | star => rfl
  | digits run =>
    rw [pointed, List.cons_append, scanPrecision?, scanned]
    simp

/-- The text of a directive, cut behind the flags and behind the width. -/
theorem text_append (s : Spelling) (rest : Text) :
    s.text ++ rest = '%' :: (s.flags ++ (s.width.text ++ (pointed s.precision
      ++ ending s.length s.specifier rest))) := by
  simp [text, ending]

/-- A precision and the end of a directive start with no flag and continue no width. -/
theorem pointed_append_outside (w : Written) (length : Option Length) (specifier : Specifier)
    (rest : Text) :
    StartsOutside (fun c => isDecimalDigit c || c == '*')
        (pointed w ++ ending length specifier rest)
      ∧ StartsOutside (fun c => decide (c ∈ Flags.letters))
        (pointed w ++ ending length specifier rest) := by
  obtain ⟨c, t, same, digit, flag, -⟩ := exists_ending length specifier rest
  cases w with
  | absent =>
    rw [pointed, List.nil_append, same]
    exact ⟨startsOutside_cons digit, startsOutside_cons (by simpa using flag)⟩
  | star => exact ⟨startsOutside_cons (by decide), startsOutside_cons (by decide)⟩
  | digits run => exact ⟨startsOutside_cons (by decide), startsOutside_cons (by decide)⟩

/-- A digit other than the ASCII zero is no flag. -/
theorem not_mem_letters_of_isDecimalDigit {c : Char} (digit : isDecimalDigit c = true)
    (notZero : c ≠ '0') : c ∉ Flags.letters := by
  intro member
  simp only [Flags.letters, List.mem_cons, List.not_mem_nil, or_false] at member
  rcases member with rfl | rfl | rfl | rfl | rfl
  · exact absurd digit (by decide)
  · exact absurd digit (by decide)
  · exact absurd digit (by decide)
  · exact absurd digit (by decide)
  · exact notZero rfl

/-- A valid width in front of a text that starts with no flag does so itself. -/
theorem width_outside {w : Written} (valid : w.Valid) (noZero : w.text.head? ≠ some '0')
    {t : Text} (outside : StartsOutside (fun c => decide (c ∈ Flags.letters)) t) :
    StartsOutside (fun c => decide (c ∈ Flags.letters)) (w.text ++ t) := by
  cases w with
  | absent => exact outside
  | star => exact startsOutside_cons (by decide)
  | digits run =>
    obtain ⟨nonempty, inside⟩ := valid
    cases run with
    | nil => exact absurd rfl nonempty
    | cons c run =>
      refine startsOutside_cons (decide_eq_false ?_)
      refine not_mem_letters_of_isDecimalDigit (inside c (by simp)) fun zero => noZero ?_
      rw [zero]
      rfl

/-- A valid directive is scanned back from its text, whatever follows. -/
theorem scan?_text_append {s : Spelling} (valid : s.Valid) (rest : Text) :
    scan? (s.text ++ rest) = some (s, rest) := by
  obtain ⟨continues, flag⟩ :=
    pointed_append_outside s.precision s.length s.specifier rest
  have flags := width_outside valid.width valid.widthHead flag
  have inside : ∀ c ∈ s.flags, decide (c ∈ Flags.letters) = true := fun c member =>
    decide_eq_true (valid.flags c member)
  rw [text_append, scan?, takeWhile_append_of_startsOutside inside flags,
    dropWhile_append_of_startsOutside inside flags,
    Written.scan_text_append valid.width continues]
  simp only [scanPrecision?_append valid.precision, scanLength_ending,
    Specifier.ofLetter?_letter, Option.map_some]

/-- What is scanned as a precision may be written. -/
theorem valid_of_scanPrecision? {t rest : Text} {w : Written}
    (h : scanPrecision? t = some (w, rest)) : w.Valid := by
  unfold scanPrecision? at h
  split at h
  · rename_i t
    have valid := Written.valid_scan t
    generalize Written.scan t = scanned at h valid
    split at h
    · simp at h
    · obtain rfl := Option.some.inj h
      exact valid
  · obtain ⟨rfl, rfl⟩ := Option.some.inj h
    trivial

/-- Behind the flags, a text starts outside their class. -/
theorem startsOutside_dropWhile (p : Char → Bool) (t : Text) :
    StartsOutside p (t.dropWhile p) := by
  intro c first
  have := List.head?_dropWhile_not p t
  rw [first] at this
  simpa using this

/-- What is scanned as a directive is valid. -/
theorem valid_of_scan? {t rest : Text} {s : Spelling} (h : scan? t = some (s, rest)) :
    s.Valid := by
  unfold scan? at h
  split at h
  · rename_i t
    dsimp only at h
    have outside := startsOutside_dropWhile (fun c => decide (c ∈ Flags.letters)) t
    have whole := Written.scan_text (t.dropWhile (· ∈ Flags.letters))
    have width := Written.valid_scan (t.dropWhile (· ∈ Flags.letters))
    generalize Written.scan (t.dropWhile (· ∈ Flags.letters)) = scanned at h whole width
    split at h
    · simp at h
    · rename_i precision afterPrecision hp
      split at h
      · simp at h
      · rename_i length c afterLetter hl
        obtain ⟨specifier, known, same⟩ := Option.map_eq_some_iff.1 h
        obtain ⟨rfl, rfl⟩ := Prod.mk.inj same
        -- the flags were taken as long as they go, so no zero is left in front of the width
        refine ⟨⟨fun c member => ?_, width, valid_of_scanPrecision? hp⟩, fun zero => ?_⟩
        · exact of_decide_eq_true (List.all_eq_true.1 List.all_takeWhile c member)
        · have := outside '0' (by rw [← whole, List.head?_append, zero]; rfl)
          exact absurd this (by decide)
  · simp at h

/-- A directive starts with a percent sign. -/
theorem text_eq_cons (s : Spelling) : ∃ t, s.text = '%' :: t := ⟨_, rfl⟩

end Spelling

/-! ## Zeros in front of a width -/

/-- A run of digits as a width. Where there are no digits, there is none. -/
def Written.ofRun : Text → Written
  | [] => .absent
  | c :: run => .digits (c :: run)

/-- The text of a width that is a run of digits is the run, also where it is empty. -/
@[simp] theorem Written.text_ofRun (run : Text) : (ofRun run).text = run := by
  cases run <;> rfl

/-- A run of digits may be written. -/
theorem Written.valid_ofRun {run : Text} (digits : ∀ c ∈ run, isDecimalDigit c = true) :
    (ofRun run).Valid := by
  cases run with
  | nil => trivial
  | cons c run => exact ⟨List.cons_ne_nil c run, digits⟩

namespace Spelling

/-- The spelling in which the zeros in front of the width are flags. -/
def canonical (s : Spelling) : Spelling :=
  match s.width with
  | .digits run =>
    { s with
      flags := s.flags ++ run.takeWhile (· == '0')
      width := .ofRun (run.dropWhile (· == '0')) }
  | _ => s

/-- Taking zeros for flags does not change the text. -/
theorem text_canonical (s : Spelling) : s.canonical.text = s.text := by
  obtain ⟨flags, width, precision, length, specifier⟩ := s
  cases width with
  | absent => rfl
  | star => rfl
  | digits run =>
    have whole : run.takeWhile (· == '0') ++ run.dropWhile (· == '0') = run :=
      List.takeWhile_append_dropWhile
    simp only [canonical, text, Written.text_ofRun, Written.text_digits, List.cons_append,
      List.append_assoc]
    rw [← List.append_assoc (run.takeWhile (· == '0')), whole]

/-- Behind the zeros a run of digits starts with none. -/
theorem head?_dropWhile_zeros (run : Text) : (run.dropWhile (· == '0')).head? ≠ some '0' := by
  intro zero
  have := startsOutside_dropWhile (· == '0') run '0' zero
  exact absurd this (by decide)

/-- A spelling that the grammar allows is valid when its zeros are taken for flags. -/
theorem Grammatical.valid_canonical {s : Spelling} (allowed : s.Grammatical) :
    s.canonical.Valid := by
  obtain ⟨flags, width, precision, length, specifier⟩ := s
  obtain ⟨inFlags, inWidth, inPrecision⟩ := allowed
  cases width with
  | absent => exact ⟨⟨inFlags, inWidth, inPrecision⟩, by simp [canonical]⟩
  | star => exact ⟨⟨inFlags, inWidth, inPrecision⟩, by simp [canonical]⟩
  | digits run =>
    obtain ⟨-, inRun⟩ := inWidth
    refine ⟨⟨fun c member => ?_, Written.valid_ofRun fun c member => ?_, inPrecision⟩, ?_⟩
    · rcases List.mem_append.1 member with flag | zero
      · exact inFlags c flag
      · have := List.all_eq_true.1 List.all_takeWhile c zero
        rw [eq_of_beq this]
        decide
    · exact inRun c ((List.dropWhile_suffix _).mem member)
    · rw [canonical, Written.text_ofRun]
      exact head?_dropWhile_zeros run

end Spelling

namespace IsDirective

/-- Every directive has a valid spelling. -/
theorem exists_valid {t : Text} (here : IsDirective t) : ∃ s : Spelling, s.Valid ∧ s.text = t := by
  obtain ⟨s, allowed, rfl⟩ := here
  exact ⟨s.canonical, allowed.valid_canonical, s.text_canonical⟩

/-- No directive is the beginning of another one: where two of them begin a text, they are the
same. -/
theorem append_inj {d e t u : Text} (first : IsDirective d) (second : IsDirective e)
    (same : d ++ t = e ++ u) : d = e ∧ t = u := by
  obtain ⟨r, validFirst, rfl⟩ := first.exists_valid
  obtain ⟨s, validSecond, rfl⟩ := second.exists_valid
  have scanned := Spelling.scan?_text_append validFirst t
  rw [same, Spelling.scan?_text_append validSecond u] at scanned
  obtain ⟨rfl, rfl⟩ := Prod.mk.inj (Option.some.inj scanned)
  exact ⟨rfl, rfl⟩

end IsDirective

/-- The text of a valid spelling is a directive. -/
theorem Spelling.Valid.isDirective {s : Spelling} (valid : s.Valid) : IsDirective s.text :=
  ⟨s, valid.toGrammatical, rfl⟩

end PercentFormat
