import Mathlib.Data.Nat.Find
import PercentFormat.Template.WellFormed

/-! # The longest well-formed prefix of a text

Lexemes are taken from the front of a text as long as there are any. What is left then does not
depend on how a well-formed beginning of the text was cut into characters and directives, since no
directive is the beginning of another one. So the lexemes make up the longest prefix that is well
formed.

* **`unread`** — what is left of a text behind its lexemes.
* **`wellFormedLength`** — the length of the longest well-formed prefix.
* **`drop_wellFormedLength`** — what is left lies behind the longest well-formed prefix.
* **`NumbersShort`** — no directive in the well-formed part of a text has too many digits. -/

namespace PercentFormat

/-! ## What is left behind the lexemes -/

/-- What is left of a text when lexemes are taken from its front as long as there are any. -/
def unread (t : Text) : Text :=
  match _found : lexeme? t with
  | none => t
  | some (_, rest) => unread rest
termination_by t.length
decreasing_by exact length_lt_of_lexeme? _found

/-- Where no lexeme begins, all of the text is left. -/
theorem unread_of_none {t : Text} (h : lexeme? t = none) : unread t = t := by
  rw [unread]
  split <;> simp_all

/-- Behind a lexeme the same is left as of the whole text. -/
theorem unread_of_some {t rest : Text} {l : Lexeme} (h : lexeme? t = some (l, rest)) :
    unread t = unread rest := by
  rw [unread]
  split <;> simp_all

/-- Nothing is left of the empty text. -/
@[simp] theorem unread_nil : unread [] = [] := unread_of_none rfl

/-- A plain character in front of a text is read. -/
theorem unread_cons_of_plain {c : Char} (here : isPlain c = true) (t : Text) :
    unread (c :: t) = unread t := by
  rw [unread_of_some (by rw [lexeme?, if_pos here])]
  cases t with
  | nil => rfl
  | cons d t =>
    by_cases plain : isPlain d = true
    · -- the literal of `c` goes on with that of `d`
      rw [List.dropWhile_cons_of_pos plain, unread_of_some (t := d :: t)]
      rw [lexeme?, if_pos plain]
    · rw [List.dropWhile_cons_of_neg plain]

/-- A directive in front of a text is read. -/
theorem unread_directive_append {d : Text} (here : IsDirective d) (t : Text) :
    unread (d ++ t) = unread t := by
  obtain ⟨s, valid, rfl⟩ := here.exists_valid
  exact unread_of_some (lexeme?_directive_append valid t)

/-- However a well-formed beginning is made up, it is read. -/
theorem WellFormed.unread_append {u : Text} (first : WellFormed u) (t : Text) :
    unread (u ++ t) = unread t := by
  induction first with
  | nil => rfl
  | plain here _ ih => rw [List.cons_append, unread_cons_of_plain here, ih]
  | directive here _ ih => rw [List.append_assoc, unread_directive_append here, ih]

/-- What has been read is well formed, and what is left follows it. -/
theorem exists_append_unread (t : Text) : ∃ u, WellFormed u ∧ u ++ unread t = t := by
  induction t using lexeme_induction with
  | nil => exact ⟨[], .nil, by simp⟩
  | stuck _ none => exact ⟨[], .nil, by rw [unread_of_none none, List.nil_append]⟩
  | @literal run rest nonempty inside outside ih =>
    obtain ⟨u, first, whole⟩ := ih
    refine ⟨run ++ u, .literal_append inside first, ?_⟩
    rw [unread_of_some (lexeme?_literal_append nonempty inside outside), List.append_assoc, whole]
  | @directive s rest valid ih =>
    obtain ⟨u, first, whole⟩ := ih
    refine ⟨s.text ++ u, .directive valid.isDirective first, ?_⟩
    rw [unread_directive_append valid.isDirective, List.append_assoc, whole]

/-- No lexeme begins where reading stops. -/
theorem lexeme?_unread (t : Text) : lexeme? (unread t) = none := by
  induction t using lexeme_induction with
  | nil => simp [lexeme?]
  | stuck _ none => rw [unread_of_none none, none]
  | literal nonempty inside outside ih =>
    rwa [unread_of_some (lexeme?_literal_append nonempty inside outside)]
  | directive valid ih => rwa [unread_directive_append valid.isDirective]

/-- Nothing is left of well-formed texts, and of no others. -/
theorem unread_eq_nil_iff (t : Text) : unread t = [] ↔ WellFormed t := by
  constructor
  · intro nothing
    obtain ⟨u, first, whole⟩ := exists_append_unread t
    rw [nothing, List.append_nil] at whole
    rwa [← whole]
  · intro whole
    have := whole.unread_append []
    rwa [List.append_nil, unread_nil] at this

instance : DecidablePred WellFormed := fun t => decidable_of_iff _ (unread_eq_nil_iff t)

/-! ## The longest well-formed prefix -/

/-- The length of the **longest well-formed prefix** of a text. -/
def wellFormedLength (t : Text) : Nat :=
  Nat.findGreatest (fun k => WellFormed (t.take k)) t.length

/-- The longest well-formed prefix is well formed. -/
theorem wellFormed_take_wellFormedLength (t : Text) :
    WellFormed (t.take (wellFormedLength t)) :=
  Nat.findGreatest_spec (P := fun k => WellFormed (t.take k)) (Nat.zero_le _) .nil

/-- No other well-formed prefix is longer. -/
theorem le_wellFormedLength {t : Text} {k : Nat} (within : k ≤ t.length)
    (first : WellFormed (t.take k)) : k ≤ wellFormedLength t :=
  Nat.le_findGreatest within first

/-- The longest well-formed prefix is no longer than the text. -/
theorem wellFormedLength_le (t : Text) : wellFormedLength t ≤ t.length :=
  Nat.findGreatest_le t.length

/-- The longest well-formed prefix is what has been read when nothing more can be read. -/
theorem wellFormedLength_add_length_unread (t : Text) :
    wellFormedLength t + (unread t).length = t.length := by
  obtain ⟨u, first, whole⟩ := exists_append_unread t
  have lengths : u.length + (unread t).length = t.length := by
    rw [← List.length_append, whole]
  have atLeast : u.length ≤ wellFormedLength t := by
    refine le_wellFormedLength (by omega) ?_
    rwa [← whole, List.take_left]
  -- what is left behind a longer well-formed prefix would be left of the whole text
  have atMost : (unread t).length ≤ (t.drop (wellFormedLength t)).length := by
    have same := (wellFormed_take_wellFormedLength t).unread_append (t.drop (wellFormedLength t))
    rw [List.take_append_drop] at same
    obtain ⟨v, -, behind⟩ := exists_append_unread (t.drop (wellFormedLength t))
    rw [same, ← behind, List.length_append, behind]
    exact Nat.le_add_left _ _
  have := wellFormedLength_le t
  rw [List.length_drop] at atMost
  omega

/-- What is left is what lies behind the longest well-formed prefix. -/
theorem drop_wellFormedLength (t : Text) : t.drop (wellFormedLength t) = unread t := by
  have lengths := wellFormedLength_add_length_unread t
  obtain ⟨u, -, whole⟩ := exists_append_unread t
  have same : u.length = wellFormedLength t := by
    have := congrArg List.length whole
    rw [List.length_append] at this
    omega
  calc t.drop (wellFormedLength t) = (u ++ unread t).drop u.length := by rw [whole, same]
    _ = unread t := List.drop_left

/-- The longest well-formed prefix and what is left make up the text. -/
theorem take_append_unread (t : Text) : t.take (wellFormedLength t) ++ unread t = t := by
  rw [← drop_wellFormedLength, List.take_append_drop]

/-- A text is well formed if and only if its longest well-formed prefix is the whole text. -/
theorem wellFormedLength_eq_length_iff (t : Text) :
    wellFormedLength t = t.length ↔ WellFormed t := by
  have := wellFormedLength_add_length_unread t
  rw [← unread_eq_nil_iff, ← List.length_eq_zero_iff]
  omega

/-! ## Widths and precisions that are not too long -/

/-- A run of digits is short if it has no more digits than a number may have. -/
def Written.Short : Written → Prop
  | .digits run => run.length ≤ maxDigits
  | _ => True

/-- A width or a precision has a meaning if and only if it is short. -/
theorem Written.exists_parameter?_iff (w : Written) :
    (∃ p, w.parameter? = some p) ↔ w.Short := by
  cases w with
  | absent => exact ⟨fun _ => trivial, fun _ => ⟨_, rfl⟩⟩
  | star => exact ⟨fun _ => trivial, fun _ => ⟨_, rfl⟩⟩
  | digits run => simp [parameter?, Short]

/-- A spelling is short if its width and its precision are. -/
def Spelling.Short (s : Spelling) : Prop := s.width.Short ∧ s.precision.Short

/-- A spelling stands for a directive if and only if it is short. -/
theorem Spelling.exists_directive?_iff (s : Spelling) :
    (∃ d, s.directive? = some d) ↔ s.Short := by
  rw [Short, ← Written.exists_parameter?_iff, ← Written.exists_parameter?_iff, directive?]
  cases s.width.parameter? <;> cases s.precision.parameter? <;> simp

/-- A text has **short numbers** if every directive that follows a well-formed beginning of the
text has a short width and a short precision. The zeros in front of a width are flags, and do not
count. -/
def NumbersShort (t : Text) : Prop :=
  ∀ before s behind, WellFormed before → Spelling.Valid s → before ++ (s.text ++ behind) = t →
    s.Short

/-- A width or a precision is no longer than the directive. -/
theorem Spelling.short_of_length_le {s : Spelling} (few : s.text.length ≤ maxDigits) : s.Short := by
  obtain ⟨flags, width, precision, length, specifier⟩ := s
  simp only [text, List.length_append, List.length_cons] at few
  constructor
  · cases width with
    | digits run => exact Nat.le_trans (by simp only [Written.text_digits] at few ⊢; omega) few
    | _ => trivial
  · cases precision with
    | digits run =>
      simp only [pointed, Written.text_digits, List.length_cons] at few
      exact Nat.le_trans (by omega) few
    | _ => trivial

/-- A text of few characters has short numbers. -/
theorem numbersShort_of_length_le {t : Text} (few : t.length ≤ maxDigits) : NumbersShort t := by
  intro before s behind _ _ same
  refine Spelling.short_of_length_le (Nat.le_trans ?_ few)
  rw [← same, List.length_append, List.length_append]
  omega

end PercentFormat
