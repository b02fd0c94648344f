import PercentFormat.Proofs.Interruption

/-! # Templates that cannot be read

However malformed a text is, it can be read as a template, with one exception: a directive in its
longest well-formed prefix has a width or a precision of too many digits. The digits of a width are
those behind all flags, so that ASCII zeros in front of it do not count, and all digits of a
precision do.

* **`widthDigits`**, **`precisionDigits`** — the digits of a width and of a precision, found in the
  text of a directive.
* **`HoldsOverlong`** — a directive of a text has too many of them.
* **`Template.ofText_fails_iff`** — the texts that cannot be read, and what the others are read
  as. -/

namespace PercentFormat

/-! ## Digits in the text of a directive -/

/-- The digits of the width of a directive. They stand behind the longest run of flags, to which
ASCII zeros belong. -/
def widthDigits (d : Text) : Text :=
  ((d.drop 1).dropWhile (· ∈ Flags.letters)).takeWhile isDecimalDigit

/-- The digits of the precision of a directive. They stand behind the point. -/
def precisionDigits (d : Text) : Text := ((d.dropWhile (· != '.')).drop 1).takeWhile isDecimalDigit

/-- A directive is **overlong** if its width or its precision has more digits than a number may
have. -/
def Overlong (d : Text) : Prop :=
  maxDigits < (widthDigits d).length ∨ maxDigits < (precisionDigits d).length

/-- A text **holds an overlong directive** if one follows a well-formed beginning of it. -/
def HoldsOverlong (t : Text) : Prop :=
  ∃ before d behind, WellFormed before ∧ IsDirective d ∧ before ++ (d ++ behind) = t ∧ Overlong d

/-- The digits of a width or a precision as it is written. -/
def Written.run : Written → Text
  | digits run => run
  | _ => []

/-- A width or a precision is short if it does not have too many digits. -/
theorem Written.short_iff (w : Written) : w.Short ↔ w.run.length ≤ maxDigits := by
  cases w with
  | digits run => rfl
  | _ => simp [Short, run]

/-- The digits at the front of a width or a precision are all of its digits, if what follows does
not go on with digits. -/
theorem Written.takeWhile_text_append {w : Written} (valid : w.Valid) {rest : Text}
    (outside : StartsOutside isDecimalDigit rest) :
    (w.text ++ rest).takeWhile isDecimalDigit = w.run := by
  cases w with
  | absent =>
    exact takeWhile_append_of_startsOutside (by simp [text]) outside
  | star => rfl
  | digits run => exact takeWhile_append_of_startsOutside valid.2 outside

/-- No width or precision holds a point. -/
theorem Written.point_not_mem {w : Written} (valid : w.Valid) : '.' ∉ w.text := by
  cases w with
  | absent => simp
  | star => simp
  | digits run =>
    intro member
    exact absurd (valid.2 '.' member) (by decide)

namespace Spelling

variable {s : Spelling}

/-- The digits of a width are found in the text of a directive. -/
theorem Valid.widthDigits_text (valid : s.Valid) : widthDigits s.text = s.width.run := by
  obtain ⟨continues, noFlag⟩ := pointed_append_outside s.precision s.length s.specifier []
  have digits : StartsOutside isDecimalDigit
      (pointed s.precision ++ ending s.length s.specifier []) := fun c first =>
    (Bool.or_eq_false_iff.1 (continues c first)).1
  have flags : ∀ c ∈ s.flags, decide (c ∈ Flags.letters) = true := fun c member =>
    decide_eq_true (valid.flags c member)
  rw [widthDigits, ← List.append_nil s.text, text_append, List.drop_succ_cons, List.drop_zero,
    dropWhile_append_of_startsOutside flags (width_outside valid.width valid.widthHead noFlag)]
  exact Written.takeWhile_text_append valid.width digits

/-- The digits of a precision are found in the text of a directive. -/
theorem Valid.precisionDigits_text (valid : s.Valid) :
    precisionDigits s.text = s.precision.run := by
  obtain ⟨c, t, same, digit, -, -⟩ := exists_ending s.length s.specifier []
  have outside : StartsOutside isDecimalDigit (ending s.length s.specifier []) :=
    same ▸ startsOutside_cons (Bool.or_eq_false_iff.1 digit).1
  -- no point stands in front of the precision
  have front : ∀ c ∈ '%' :: (s.flags ++ s.width.text), (c != '.') = true := by
    intro c member
    refine bne_iff_ne.2 ?_
    rintro rfl
    rcases List.mem_cons.1 member with percent | others
    · exact absurd percent (by decide)
    · rcases List.mem_append.1 others with flag | width
      · exact absurd (valid.flags '.' flag) (by decide)
      · exact Written.point_not_mem valid.width width
  have parts : s.text = ('%' :: (s.flags ++ s.width.text))
      ++ (pointed s.precision ++ ending s.length s.specifier []) := by
    rw [← List.append_nil s.text, text_append]
    simp
  rw [precisionDigits, parts, List.dropWhile_append_of_pos front]
  have written := Written.takeWhile_text_append valid.precision outside
  cases precision : s.precision with
  | absent =>
    -- without a precision there is no point at all
    have none : ∀ c ∈ ending s.length s.specifier [], (c != '.') = true := by
      intro c member
      refine bne_iff_ne.2 ?_
      rintro rfl
      rcases List.mem_append.1 member with length | specifier
      · obtain ⟨l, -, letter⟩ : ∃ l, s.length = some l ∧ l.letter = '.' := by simpa using length
        exact absurd letter l.letter_outside.2.2
      · exact absurd (List.mem_singleton.1 specifier).symm s.specifier.letter_outside.2.2.1
    rw [pointed, List.nil_append, List.dropWhile_eq_nil_iff.2 none]
    rfl
  | star => rfl
  | digits run =>
    rw [precision] at written
    exact written

/-- A directive is overlong if and only if its width or its precision is not short. -/
theorem Valid.overlong_text_iff (valid : s.Valid) : Overlong s.text ↔ ¬ s.Short := by
  rw [Overlong, valid.widthDigits_text, valid.precisionDigits_text, Short, Written.short_iff,
    Written.short_iff]
  omega

end Spelling

/-! ## Overlong directives in a text -/

/-- A text has short numbers if and only if it holds no overlong directive. -/
theorem numbersShort_iff (t : Text) : NumbersShort t ↔ ¬ HoldsOverlong t := by
  constructor
  · rintro short ⟨before, d, behind, first, here, rfl, long⟩
    obtain ⟨s, valid, rfl⟩ := here.exists_valid
    exact valid.overlong_text_iff.1 long (short before s behind first valid rfl)
  · intro none before s behind first valid same
    by_contra long
    exact none ⟨before, s.text, behind, first, valid.isDirective, same,
      valid.overlong_text_iff.2 long⟩

/-- A text holds an overlong directive if and only if reading it stops at a number. -/
theorem holdsOverlong_iff (t : Text) :
    HoldsOverlong t ↔ (readTemplate t).stop = .tooManyDigits := by
  rw [readTemplate, stop_eq_tooManyDigits_iff, numbersShort_iff, not_not]

/-- What stands behind the longest well-formed prefix of a text does not matter: overlong directives
stand in the prefix. -/
theorem holdsOverlong_take_iff (t : Text) :
    HoldsOverlong (t.take (wellFormedLength t)) ↔ HoldsOverlong t := by
  constructor
  · rintro ⟨before, d, behind, first, here, same, long⟩
    refine ⟨before, d, behind ++ unread t, first, here, ?_, long⟩
    calc before ++ (d ++ (behind ++ unread t)) = before ++ (d ++ behind) ++ unread t := by simp
      _ = t := by rw [same, take_append_unread]
  · rintro ⟨before, d, behind, first, here, same, long⟩
    -- up to the end of the directive the text is well formed, so its longest prefix goes beyond it
    have whole : WellFormed (before ++ d) :=
      first.append (List.append_nil d ▸ .directive here .nil)
    have parts : (before ++ d) ++ behind = t := by rw [List.append_assoc, same]
    have within : (before ++ d).length ≤ wellFormedLength t := by
      refine le_wellFormedLength ?_ ?_
      · rw [← parts]
        exact (List.prefix_append _ _).length_le
      · rwa [← parts, List.take_left]
    refine ⟨before, d, behind.take (wellFormedLength t - (before ++ d).length), first, here, ?_,
      long⟩
    calc before ++ (d ++ behind.take (wellFormedLength t - (before ++ d).length))
        = ((before ++ d) ++ behind).take (wellFormedLength t) := by
          rw [List.take_append, List.take_of_length_le within, List.append_assoc]
      _ = t.take (wellFormedLength t) := by rw [parts]

namespace Template

/-- **The texts that cannot be read as templates** are those whose longest well-formed prefix holds
an overlong directive, and the fault is that a number has too many digits. What stands behind this
prefix is not looked at. Every other text is read. Its template is truncated if and only if the text
is malformed, and then its error lies behind the longest well-formed prefix. -/
theorem ofText_fails_iff (t : Text) :
    ((∃ fault, ofText t = .error fault) ↔ HoldsOverlong (t.take (wellFormedLength t)))
    ∧ (∀ fault, ofText t = .error fault → fault = .tooManyDigits ∧ fault.kind = .value)
    ∧ (∀ u, u.take (wellFormedLength u) = t.take (wellFormedLength t) →
      ((∃ fault, ofText u = .error fault) ↔ ∃ fault, ofText t = .error fault))
    ∧ (¬ HoldsOverlong (t.take (wellFormedLength t)) →
      ∃ f, ofText t = .ok f ∧ (f.truncated = true ↔ ¬ WellFormed t)
        ∧ (¬ WellFormed t →
          ∃ error, f.error? = some error ∧ error.offset = wellFormedLength t)) := by
  have fails (u : Text) :
      (∃ fault, ofText u = .error fault) ↔ HoldsOverlong (u.take (wellFormedLength u)) := by
    simp only [ofText_eq_error_iff, holdsOverlong_take_iff, numbersShort_iff, not_not]
    exact ⟨fun ⟨_, _, long⟩ => long, fun long => ⟨_, rfl, long⟩⟩
  refine ⟨fails t, fun fault error => ?_, fun u same => by rw [fails, fails, same], fun none => ?_⟩
  · obtain ⟨rfl, -⟩ := ofText_eq_error_iff.1 error
    exact ⟨rfl, rfl⟩
  · have short : NumbersShort t := by
      rwa [numbersShort_iff, ← holdsOverlong_take_iff]
    refine ⟨_, ofText_eq short, ?_, fun malformed => ?_⟩
    · rw [truncated, truncation?, ← wellFormedLength_eq_length_iff]
      split <;> simp_all
    · rw [← wellFormedLength_eq_length_iff] at malformed
      exact ⟨_, if_neg malformed, rfl⟩

/-- Zeros in front of a width are flags unless they belong to another script, those of a precision
are digits, and nothing counts behind a directive with an unknown specifier. -/
theorem ofText_fails_iff_zeros :
    let zeros := Text.zeros (maxDigits + 1)
    let others := List.replicate (maxDigits + 1) '\u0660'
    (∃ f, ofText ('%' :: zeros ++ ['5', 'd']) = .ok f)
      ∧ ofText ('%' :: others ++ ['d']) = .error .tooManyDigits
      ∧ ofText (['%', '.'] ++ zeros ++ ['d']) = .error .tooManyDigits
      ∧ ∃ f error, ofText (['%', 'q', '%', '.'] ++ zeros ++ ['d']) = .ok f
        ∧ f.truncated = true ∧ f.error? = some error ∧ error.offset = 0 := by
  intro zeros others
  let flagged : Spelling := ⟨zeros, .digits ['5'], .absent, none, .decimal⟩
  let wide : Spelling := ⟨[], .digits others, .absent, none, .decimal⟩
  let precise : Spelling := ⟨[], .absent, .digits zeros, none, .decimal⟩
  have many {c : Char} : ¬ (List.replicate (maxDigits + 1) c).length ≤ maxDigits := by
    rw [List.length_replicate]
    omega
  have digits {c : Char} (digit : isDecimalDigit c = true) :
      (Written.digits (List.replicate (maxDigits + 1) c)).Valid :=
    ⟨by simp, fun other member => List.eq_of_mem_replicate member ▸ digit⟩
  have refused {s : Spelling} (valid : s.Valid) (long : ¬ s.Short) :
      ofText s.text = .error .tooManyDigits := by
    obtain ⟨fails, faults, -⟩ := ofText_fails_iff s.text
    obtain ⟨fault, error⟩ := fails.2 ((holdsOverlong_take_iff _).2
      ⟨[], s.text, [], .nil, valid.isDirective, by simp, valid.overlong_text_iff.2 long⟩)
    rw [error, (faults fault error).1]
  refine ⟨?_, ?_, ?_, ?_⟩
  · have valid : flagged.Valid := by
      refine ⟨⟨fun c member => ?_, ⟨by simp, ?_⟩, trivial⟩, by simp [flagged]⟩
      · rw [List.eq_of_mem_replicate member]
        decide
      · intro c member
        rw [List.mem_singleton.1 member]
        decide
    obtain ⟨d, known⟩ := flagged.exists_directive?_iff.2 ⟨show 1 ≤ maxDigits by decide, trivial⟩
    have finished := congrArg Reading.stop (readFrom_directive_append valid known flagged.text 0 [])
    rw [List.append_nil, Reading.cons, readFrom_nil] at finished
    obtain ⟨-, -, -, reads⟩ := ofText_fails_iff flagged.text
    obtain ⟨f, read, -⟩ := reads fun long => by
      rw [holdsOverlong_take_iff, holdsOverlong_iff, readTemplate, finished] at long
      exact Stop.noConfusion long
    exact ⟨f, by simpa [flagged, Spelling.text, Spelling.pointed, Specifier.letter] using read⟩
  · have valid : wide.Valid := by
      refine ⟨⟨by simp [wide], digits (by decide), trivial⟩, ?_⟩
      simp [wide, others, List.replicate_succ]
    simpa [wide, Spelling.text, Spelling.pointed, Specifier.letter] using
      refused valid fun short => many short.1
  · have valid : precise.Valid :=
      ⟨⟨by simp [precise], trivial, digits (by decide)⟩, by simp [precise]⟩
    simpa [precise, Spelling.text, Spelling.pointed, Specifier.letter] using
      refused valid fun short => many short.2
  · have nothing : lexeme? (['%', 'q', '%', '.'] ++ zeros ++ ['d']) = none := rfl
    obtain ⟨-, -, -, reads⟩ := ofText_fails_iff (['%', 'q', '%', '.'] ++ zeros ++ ['d'])
    obtain ⟨f, read, truncated, cut⟩ := reads fun long => by
      rw [holdsOverlong_take_iff, holdsOverlong_iff, readTemplate,
        readFrom_of_none (by simp) nothing] at long
      exact Stop.noConfusion long
    have malformed : ¬ WellFormed (['%', 'q', '%', '.'] ++ zeros ++ ['d']) := by
      rw [← unread_eq_nil_iff, unread_of_none nothing]
      simp
    have length := wellFormedLength_add_length_unread (['%', 'q', '%', '.'] ++ zeros ++ ['d'])
    rw [unread_of_none nothing] at length
    obtain ⟨error, arises, offset⟩ := cut malformed
    exact ⟨f, error, read, truncated.2 malformed, arises, by omega⟩

end Template

end PercentFormat
