import PercentFormat.Directive
import PercentFormat.Number.Reading

/-! # The written form of directives

A directive is written as a percent sign, flags in any order and number, a width, a point and a
precision, a length modifier and a specifier. All but the percent sign and the specifier may be
left out. A width or a precision is a run of decimal digits of any script, or a star.

* **`Spelling`** — the parts of a written directive.
* **`Spelling.text`** — the written directive.
* **`Spelling.scan?`** — the directive at the front of a text, taking each part as long as it
  goes.
* **`Spelling.directive?`** — the directive that a spelling stands for. -/

namespace PercentFormat

/-- A width or a precision as it is written. -/
inductive Written where
  /-- Nothing is written. -/
  | absent
  /-- A star. -/
  | star
  /-- A run of decimal digits. -/
  | digits (run : Text)
  deriving DecidableEq

namespace Written

/-- The text of a width or a precision. -/
def text : Written → Text
  | absent => []
  | star => ['*']
  | digits run => run

/-- The text of what is not written is empty. -/
@[simp] theorem text_absent : text absent = [] := rfl

/-- The text of a star. -/
@[simp] theorem text_star : text star = ['*'] := rfl

/-- The text of a run of digits is the run. -/
@[simp] theorem text_digits (run : Text) : text (digits run) = run := rfl

/-- The width or precision at the front of a text, and what follows it. -/
def scan : Text → Written × Text
  | '*' :: rest => (star, rest)
  | t =>
    match t.takeWhile isDecimalDigit with
    | [] => (absent, t)
    | run => (digits run, t.dropWhile isDecimalDigit)

/-- The number that a run of digits denotes. -/
def number (run : Text) : Nat := Numeral.value (run.filterMap digitValue?)

/-- What a written width or precision stands for, unless it has too many digits. -/
def parameter? : Written → Option Parameter
  | absent => some .absent
  | star => some .fromArgument
  | digits run => if run.length ≤ maxDigits then some (.given (number run)) else none

end Written

/-- The parts of a written directive. -/
structure Spelling where
  /-- The run of flags. -/
  flags : Text
  /-- The width. -/
  width : Written
  /-- The precision; a point stands in front of it unless it is absent. -/
  precision : Written
  /-- The length modifier. -/
  length : Option Length
  /-- The specifier. -/
  specifier : Specifier
  deriving DecidableEq

namespace Spelling

/-- A precision with the point in front of it. -/
def pointed : Written → Text
  | .absent => []
  | written => '.' :: written.text

/-- The written directive. -/
def text (s : Spelling) : Text :=
  '%' :: s.flags ++ s.width.text ++ pointed s.precision
    ++ (s.length.map Length.letter).toList ++ [s.specifier.letter]

/-- The precision at the front of a text, and what follows it. A point must be followed by a
precision. -/
def scanPrecision? : Text → Option (Written × Text)
  | '.' :: rest =>
    match Written.scan rest with
    | (.absent, _) => none
    | found => some found
  | t => some (.absent, t)

/-- The length modifier at the front of a text, if any, and what follows it. -/
def scanLength : Text → Option Length × Text
  | [] => (none, [])
  | c :: rest =>
    match Length.ofLetter? c with
    | some l => (some l, rest)
    | none => (none, c :: rest)

/-- The directive at the front of a text, and what follows it. -/
def scan? : Text → Option (Spelling × Text)
  | '%' :: rest =>
    let flags := rest.takeWhile (· ∈ Flags.letters)
    let (width, rest) := Written.scan (rest.dropWhile (· ∈ Flags.letters))
    match scanPrecision? rest with
    | none => none
    | some (precision, rest) =>
      match scanLength rest with
      | (_, []) => none
      | (length, c :: rest) =>
        (Specifier.ofLetter? c).map fun specifier =>
          (⟨flags, width, precision, length, specifier⟩, rest)
  | _ => none

/-- The directive that a spelling stands for, unless a literal width or precision has too many
digits. -/
def directive? (s : Spelling) : Option Directive :=
  match s.width.parameter?, s.precision.parameter? with
  | some width, some precision =>
    some ⟨Flags.ofText s.flags, width, precision, s.length, s.specifier⟩
  | _, _ => none

end Spelling

/-! ## What is scanned is the text -/

/-- A scanned width or precision and what follows it make up the text. -/
theorem Written.scan_text (t : Text) : (Written.scan t).1.text ++ (Written.scan t).2 = t := by
  unfold Written.scan
  split
  · rfl
  · rename_i t _
    split
    · rfl
    · exact List.takeWhile_append_dropWhile

/-- A scanned precision, with its point, and what follows it make up the text. -/
theorem Spelling.scanPrecision?_text {t rest : Text} {w : Written}
    (h : scanPrecision? t = some (w, rest)) : pointed w ++ rest = t := by
  unfold scanPrecision? at h
  split at h
  · rename_i t
    have whole := Written.scan_text t
    generalize Written.scan t = scanned at h whole
    split at h
    · simp at h
    · rename_i notAbsent
      obtain rfl := Option.some.inj h
      cases w with
      | absent => exact absurd rfl (notAbsent _)
      | star => simpa [pointed] using whole
      | digits run => simpa [pointed] using whole
  · obtain ⟨rfl, rfl⟩ := Option.some.inj h
    rfl

/-- A length modifier and what follows it make up the text. -/
theorem Spelling.scanLength_text (t : Text) :
    ((scanLength t).1.map Length.letter).toList ++ (scanLength t).2 = t := by
  unfold scanLength
  split
  · rfl
  · rename_i c rest
    split
    · rename_i l known
      have : l.letter = c := by
        unfold Length.ofLetter? at known
        split at known <;> simp_all <;> subst known <;> rfl
      simp [this]
    · rfl

/-- The specifier of a letter has that letter. -/
theorem Specifier.letter_of_ofLetter? {c : Char} {s : Specifier} (h : ofLetter? c = some s) :
    s.letter = c := by
  unfold ofLetter? at h
  split at h <;> simp_all <;> subst h <;> rfl

/-- A scanned directive and what follows it make up the text. -/
theorem Spelling.scan?_text {t rest : Text} {s : Spelling} (h : scan? t = some (s, rest)) :
    s.text ++ rest = t := by
  unfold scan? at h
  split at h
  · rename_i t
    dsimp only at h
    have flags : t.takeWhile (· ∈ Flags.letters) ++ t.dropWhile (· ∈ Flags.letters) = t :=
      List.takeWhile_append_dropWhile
    have width := Written.scan_text (t.dropWhile (· ∈ Flags.letters))
    generalize Written.scan (t.dropWhile (· ∈ Flags.letters)) = scanned at h width
    split at h
    · simp at h
    · rename_i precision afterPrecision hp
      have precisionText := scanPrecision?_text hp
      have lengthText := scanLength_text afterPrecision
      split at h
      · simp at h
      · rename_i length c afterLetter hl
        rw [hl] at lengthText
        obtain ⟨specifier, known, same⟩ := Option.map_eq_some_iff.1 h
        obtain ⟨rfl, rfl⟩ := Prod.mk.inj same
        calc text _ ++ afterLetter
            = '%' :: (t.takeWhile (· ∈ Flags.letters) ++ (scanned.1.text ++ (pointed precision
                ++ ((length.map Length.letter).toList ++ c :: afterLetter)))) := by
              simp [text, Specifier.letter_of_ofLetter? known]
          _ = '%' :: t := by rw [lengthText, precisionText, width, flags]
  · simp at h

/-- A directive takes at least one character from the text. -/
theorem Spelling.length_lt_of_scan? {t rest : Text} {s : Spelling}
    (h : scan? t = some (s, rest)) : rest.length < t.length := by
  have := congrArg List.length (scan?_text h)
  simp [text] at this
  omega

end PercentFormat
