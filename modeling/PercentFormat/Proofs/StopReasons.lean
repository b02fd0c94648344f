import PercentFormat.Proofs.DoubledPercents
import PercentFormat.Proofs.ErrorMessages

/-! # Why reading stops

Where no lexeme begins, the reason of the error is found by a search through all that is left of the
template. It finds something in every text of two characters or more: a plain character is a
literal, and two percent signs are a directive. So a directive is incomplete only if a percent sign
is all that is left, and it is unknown wherever else a template breaks off.

* **`lexeme?_eq_none_iff`** — where no lexeme begins, said of the grammar.
* **`hasLexeme_eq_false_iff`** — the texts in which nothing can be read.
* **`stop_append_of_prefix`** — a template that breaks off in the middle of a directive.
* **`stop_reason`** — the place of an error, and its reason. -/

namespace PercentFormat

/-! ## Where nothing can be read -/

/-- Where no lexeme begins, there is no plain character. -/
theorem startsOutside_of_lexeme?_eq_none {t : Text} (nothing : lexeme? t = none) :
    StartsOutside isPlain t := by
  cases t with
  | nil => simp [StartsOutside]
  | cons c t =>
    refine startsOutside_cons ?_
    by_contra plain
    rw [lexeme?, if_pos (by simpa using plain)] at nothing
    contradiction

/-- Where no lexeme begins, there is no directive. -/
theorem not_isDirective_of_lexeme?_eq_none {d t : Text} (nothing : lexeme? t = none)
    (begins : d <+: t) : ¬ IsDirective d := by
  intro here
  obtain ⟨rest, rfl⟩ := begins
  obtain ⟨s, valid, rfl⟩ := here.exists_valid
  rw [lexeme?_directive_append valid] at nothing
  contradiction

/-- **No lexeme begins** in front of a text if and only if it starts with no plain character, and
none of its beginnings is a directive. -/
theorem lexeme?_eq_none_iff {t : Text} :
    lexeme? t = none ↔ StartsOutside isPlain t ∧ ∀ d, d <+: t → ¬ IsDirective d := by
  refine ⟨fun nothing => ⟨startsOutside_of_lexeme?_eq_none nothing, fun d begins =>
    not_isDirective_of_lexeme?_eq_none nothing begins⟩, fun ⟨outside, noDirective⟩ => ?_⟩
  cases found : lexeme? t with
  | none => rfl
  | some lexed =>
    obtain ⟨l, rest⟩ := lexed
    have whole := lexeme?_text found
    cases l with
    | literal run =>
      obtain ⟨nonempty, inside, -⟩ := literal_of_lexeme? found
      obtain ⟨c, run, rfl⟩ := List.exists_cons_of_ne_nil nonempty
      have plain := inside c List.mem_cons_self
      rw [outside c (by rw [← whole]; rfl)] at plain
      contradiction
    | directive s =>
      exact absurd (valid_of_lexeme? found).isDirective (noDirective _ ⟨rest, whole⟩)

/-- **Nothing can be read** in the empty text and in a percent sign, and in no other text. -/
theorem hasLexeme_eq_false_iff {t : Text} : hasLexeme t = false ↔ t = [] ∨ t = ['%'] := by
  match t with
  | [] => simp [hasLexeme]
  | [c] =>
    by_cases plain : isPlain c = true
    · have other : c ≠ '%' := by simpa [isPlain] using plain
      simp [hasLexeme, lexeme?, plain, other]
    · obtain rfl : c = '%' := by simpa [isPlain] using plain
      have nothing : hasLexeme ['%'] = false := by decide
      simp [nothing]
  | c :: d :: t =>
    -- a plain character is the beginning of a literal, and two percent signs are a directive
    have something : hasLexeme (c :: d :: t) = true := by
      by_cases first : isPlain c = true
      · simp [hasLexeme, lexeme?, first]
      · by_cases second : isPlain d = true
        · simp [hasLexeme, lexeme?, second]
        · obtain rfl : c = '%' := by simpa [isPlain] using first
          obtain rfl : d = '%' := by simpa [isPlain] using second
          have pair : lexeme? ('%' :: '%' :: t) = some (.directive .percent, t) :=
            lexeme?_directive_append Spelling.valid_percent t
          rw [hasLexeme, pair]
          rfl
    simp [something]

/-- Of a text that is not empty, the reason is that a directive is incomplete if the text is a
percent sign, and that it is unknown otherwise. -/
theorem reasonAt_of_ne_nil {t : Text} (nonempty : t ≠ []) :
    reasonAt t = if t = ['%'] then .incomplete else .unknown := by
  rw [reasonAt]
  by_cases lone : t = ['%']
  · rw [if_pos lone, if_neg (by simp [hasLexeme_eq_false_iff, lone])]
  · have something : hasLexeme t = true := by
      rw [← Bool.not_eq_false, hasLexeme_eq_false_iff]
      simp [nonempty, lone]
    rw [if_neg lone, if_pos something]

/-! ## Templates that break off -/

/-- A directive starts with a percent sign. -/
theorem IsDirective.exists_cons {d : Text} (here : IsDirective d) : ∃ t, d = '%' :: t := by
  obtain ⟨s, -, rfl⟩ := here
  exact s.text_eq_cons

/-- No lexeme begins in front of a directive that breaks off. -/
theorem IsDirective.lexeme?_of_prefix {d p : Text} (here : IsDirective d) (begins : p <+: d)
    (broken : p ≠ d) : lexeme? p = none := by
  obtain ⟨tail, percent⟩ := here.exists_cons
  refine lexeme?_eq_none_iff.2 ⟨fun c first => ?_, fun e beginning directive => ?_⟩
  · obtain ⟨rest, rfl⟩ := begins
    cases p with
    | nil => contradiction
    | cons b p =>
      obtain rfl := Option.some.inj first
      obtain rfl := (List.cons.inj percent).1
      rfl
  · -- a directive in front of the part would be one in front of the whole directive
    obtain ⟨rest, same⟩ := beginning.trans begins
    obtain ⟨rfl, -⟩ := directive.append_inj here (same.trans (List.append_nil d).symm)
    exact broken (begins.eq_of_length (Nat.le_antisymm begins.length_le beginning.length_le))

/-- **A template that breaks off in the middle of a directive** is malformed where the directive
begins, unless nothing of it is left. -/
theorem stop_append_of_prefix {u d p : Text} (first : WellFormed u) (short : NumbersShort u)
    (here : IsDirective d) (begins : p <+: d) (nonempty : p ≠ []) (broken : p ≠ d) :
    (readTemplate (u ++ p)).stop
      = .malformed ⟨u ++ p, u.length, if p = ['%'] then .incomplete else .unknown⟩ := by
  have done := first.finished short u 0
  rw [readTemplate, readFrom_append done, Nat.zero_add,
    readFrom_of_none nonempty (here.lexeme?_of_prefix begins broken), reasonAt_of_ne_nil nonempty]

/-! ## Places and reasons -/

/-- A directive is called incomplete, or unknown, for this reason only. -/
theorem Reason.text_eq_iff (r : Reason) :
    (r.text = Text.ofString "incomplete directive" ↔ r = .incomplete)
      ∧ (r.text = Text.ofString "unknown format directive" ↔ r = .unknown) := by
  cases r <;> decide

/-- **Why reading stops.** Where reading a template stops with an error, a percent sign stands, and
no directive begins. The directive is incomplete if this is the last character of the template, and
it is unknown in every other case. Where a template breaks off in the middle of any directive behind
the part that was read, reading stops there as well, for the same reasons. -/
theorem stop_reason {t : Text} {e : ParseError} (stop : (readTemplate t).stop = .malformed e) :
    t[e.offset]? = some '%'
      ∧ (∀ d, d <+: t.drop e.offset → ¬ IsDirective d)
      ∧ (e.reason.text = Text.ofString "incomplete directive" ↔ e.offset + 1 = t.length)
      ∧ (e.offset + 1 = t.length ↔ t.drop e.offset = ['%'])
      ∧ (e.reason.text = Text.ofString "unknown format directive" ↔ e.offset + 1 ≠ t.length)
      ∧ ∀ d p, IsDirective d → p <+: d → p ≠ [] → p ≠ d →
        (readTemplate (t.take e.offset ++ p)).stop
          = .malformed ⟨t.take e.offset ++ p, e.offset,
              if p = ['%'] then .incomplete else .unknown⟩ := by
  obtain ⟨short, left, rfl⟩ := stop_eq_malformed_iff.1 stop
  obtain ⟨behind, starts⟩ := exists_unread_eq_cons left
  have lengths := wellFormedLength_add_length_unread t
  have percent : t[wellFormedLength t]? = some '%' := by
    rw [← List.head?_drop, drop_wellFormedLength, starts]
    rfl
  have last : wellFormedLength t + 1 = t.length ↔ unread t = ['%'] := by
    have alone : unread t = ['%'] ↔ behind.length = 0 := by simp [starts]
    rw [starts, List.length_cons] at lengths
    rw [alone]
    omega
  simp only [drop_wellFormedLength, reasonAt_of_ne_nil left]
  refine ⟨percent, fun d begins => not_isDirective_of_lexeme?_eq_none (lexeme?_unread t) begins, ?_,
    last, ?_, fun d p here begins nonempty broken => ?_⟩
  · rw [(Reason.text_eq_iff _).1, last]
    simp
  · rw [(Reason.text_eq_iff _).2, Ne, last]
    simp
  · have read : NumbersShort (t.take (wellFormedLength t)) := by
      rw [← take_append_unread t] at short
      exact short.of_append_left
    have stops := stop_append_of_prefix (wellFormed_take_wellFormedLength t) read here begins
      nonempty broken
    rwa [List.length_take_of_le (wellFormedLength_le t)] at stops

/-- Three percent signs and a broken directive, read as a pair and a rest; and the same text up to
the third percent sign alone. -/
theorem stop_reason_broken_off :
    let t := Text.ofString "%%%-."
    let e : ParseError := ⟨t, 2, .unknown⟩
    (readTemplate t).stop = .malformed e
      ∧ t[2]? = some '%'
      ∧ (∀ d, d <+: Text.ofString "%-." → ¬ IsDirective d)
      ∧ e.reason.text = Text.ofString "unknown format directive"
      ∧ (readTemplate (Text.ofString "%%%")).stop
        = .malformed ⟨Text.ofString "%%%", 2, .incomplete⟩ := by
  intro t e
  have stop : (readTemplate t).stop = .malformed e := by cbv
  obtain ⟨percent, noDirective, -, -, unknown, broken⟩ := stop_reason stop
  exact ⟨stop, percent, noDirective, unknown.2 (by decide),
    broken ['%', '%'] ['%'] Spelling.valid_percent.isDirective (by decide) (by decide) (by decide)⟩

end PercentFormat
