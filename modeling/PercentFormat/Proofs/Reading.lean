import Mathlib
import PercentFormat.Proofs.LongestPrefix

/-! # Reading a template

A template is read up to the end of its longest well-formed prefix, where reading finishes or
meets an error. The tokens are those of the prefix: where one text goes on with another one, their
tokens are joined, and only a literal at the seam is extended.

* **`joinTokens`** — the tokens of two texts one after the other, with **`readFrom_append`**.
* **`stop_eq_tooManyDigits_iff`** — when a width or a precision stops reading.
* **`readFrom_eq`** — reading a text is reading its longest well-formed prefix.
* **`Splits`** — tokens that make up a text, each in its place.
* **`readTemplate_splits`** — the tokens of a template, and how reading it ends. -/

namespace PercentFormat

/-! ## Joining tokens -/

/-- The text of tokens. -/
def textOf (tokens : List Token) : Text := (tokens.map Token.text).flatten

/-- The text of no tokens. -/
@[simp] theorem textOf_nil : textOf [] = [] := rfl

/-- The text of a token and others. -/
@[simp] theorem textOf_cons (token : Token) (tokens : List Token) :
    textOf (token :: tokens) = token.text ++ textOf tokens := rfl

/-- The text of tokens one after the other. -/
@[simp] theorem textOf_append (first rest : List Token) :
    textOf (first ++ rest) = textOf first ++ textOf rest := by
  rw [textOf, List.map_append, List.flatten_append]
  rfl

/-- The tokens of two texts as those of one text: a literal at the end of the first text goes on
with a literal at the front of the second one. -/
def joinTokens : List Token → List Token → List Token
  | [], rest => rest
  | [.literal run], .literal more :: rest => .literal (run ++ more) :: rest
  | token :: tokens, rest => token :: joinTokens tokens rest

/-- Joining no tokens in front of others. -/
@[simp] theorem joinTokens_nil_left (rest : List Token) : joinTokens [] rest = rest := by
  cases rest <;> rfl

/-- A directive does not go on. -/
theorem joinTokens_directive_cons (o : Occurrence) (tokens rest : List Token) :
    joinTokens (.directive o :: tokens) rest = .directive o :: joinTokens tokens rest := by
  cases tokens <;> rfl

/-- A literal with tokens behind it does not go on. -/
theorem joinTokens_cons_of_ne_nil (token : Token) {tokens : List Token} (more : tokens ≠ [])
    (rest : List Token) : joinTokens (token :: tokens) rest = token :: joinTokens tokens rest := by
  cases tokens with
  | nil => exact absurd rfl more
  | cons next tokens => cases token <;> rfl

/-- The tokens of a literal in front of tokens that start with no literal. -/
theorem joinTokens_literal (run : Text) {rest : List Token}
    (outside : ∀ more tokens, rest ≠ .literal more :: tokens) :
    joinTokens [.literal run] rest = .literal run :: rest := by
  cases rest with
  | nil => rfl
  | cons first rest =>
    cases first with
    | literal more => exact absurd rfl (outside more rest)
    | directive o => rfl

/-- Joining no tokens behind others. -/
@[simp] theorem joinTokens_nil_right (tokens : List Token) : joinTokens tokens [] = tokens := by
  induction tokens with
  | nil => rfl
  | cons token tokens ih =>
    cases tokens with
    | nil => cases token <;> rfl
    | cons next tokens => rw [joinTokens_cons_of_ne_nil token (List.cons_ne_nil next tokens), ih]

/-! ## Reading a text that goes on -/

/-- A text that starts outside a class does so when it goes on. -/
theorem StartsOutside.append {p : Char → Bool} {t : Text} (nonempty : t ≠ [])
    (outside : StartsOutside p t) (u : Text) : StartsOutside p (t ++ u) := by
  intro c first
  cases t with
  | nil => exact absurd rfl nonempty
  | cons d t => exact outside c first

/-- A text that starts with no plain character starts with no literal. -/
theorem tokens_ne_literal_cons {t : Text} (outside : StartsOutside isPlain t) (template : Text)
    (offset : Nat) (run : Text) (tokens : List Token) :
    (readFrom template offset t).tokens ≠ .literal run :: tokens := by
  cases t using lexeme_induction with
  | nil => simp
  | stuck nonempty nothing => simp [readFrom_of_none nonempty nothing]
  | @literal run rest nonempty inside =>
    cases run with
    | nil => exact absurd rfl nonempty
    | cons c run =>
      have plain := inside c (by simp)
      rw [outside c rfl] at plain
      contradiction
  | @directive s rest valid =>
    cases known : s.directive? with
    | none => simp [readFrom_tooManyDigits_append valid known]
    | some d => simp [readFrom_directive_append valid known, Reading.cons]

/-- When reading has come to the end of a text, its tokens make up the text. -/
theorem textOf_of_finished {template t : Text} {offset : Nat}
    (done : (readFrom template offset t).stop = .finished) :
    textOf (readFrom template offset t).tokens = t := by
  induction t using lexeme_induction generalizing offset with
  | nil => simp
  | stuck nonempty nothing => simp [readFrom_of_none nonempty nothing] at done
  | literal nonempty inside outside ih =>
    rw [readFrom_literal_append nonempty inside outside] at done ⊢
    rw [Reading.cons, textOf_cons, ih done]
    rfl
  | @directive s rest valid ih =>
    cases known : s.directive? with
    | none => simp [readFrom_tooManyDigits_append valid known] at done
    | some d =>
      rw [readFrom_directive_append valid known] at done ⊢
      rw [Reading.cons, textOf_cons, ih done]
      rfl

/-- A literal in front of a text joins its tokens. -/
theorem readFrom_run_append {run : Text} (nonempty : run ≠ [])
    (inside : ∀ c ∈ run, isPlain c = true) (template : Text) (offset : Nat) (t : Text) :
    readFrom template offset (run ++ t)
      = ⟨joinTokens [.literal run] (readFrom template (offset + run.length) t).tokens,
        (readFrom template (offset + run.length) t).stop⟩ := by
  have outside := Spelling.startsOutside_dropWhile isPlain t
  have more : ∀ c ∈ t.takeWhile isPlain, isPlain c = true := fun c member =>
    List.all_eq_true.1 List.all_takeWhile c member
  rw [← List.takeWhile_append_dropWhile (p := isPlain) (l := t)]
  generalize t.takeWhile isPlain = further at more ⊢
  generalize t.dropWhile isPlain = rest at outside ⊢
  by_cases empty : further = []
  · subst empty
    rw [List.nil_append, readFrom_literal_append nonempty inside outside,
      joinTokens_literal run (tokens_ne_literal_cons outside _ _)]
    rfl
  · -- the literal of `run` goes on, and the text behind it starts with a shorter one
    have whole : ∀ c ∈ run ++ further, isPlain c = true := fun c member =>
      (List.mem_append.1 member).elim (inside c) (more c)
    rw [← List.append_assoc, readFrom_literal_append (by simp [nonempty]) whole outside,
      readFrom_literal_append empty more outside, List.length_append, ← Nat.add_assoc]
    rfl

/-- **Reading goes on behind a text that has been read to its end.** The tokens of the two parts
are joined. -/
theorem readFrom_append {u : Text} {template : Text} {offset : Nat}
    (done : (readFrom template offset u).stop = .finished) (whole t : Text) :
    readFrom whole offset (u ++ t)
      = ⟨joinTokens (readFrom template offset u).tokens
          (readFrom whole (offset + u.length) t).tokens,
        (readFrom whole (offset + u.length) t).stop⟩ := by
  induction u using lexeme_induction generalizing offset with
  | nil => simp
  | stuck nonempty nothing => simp [readFrom_of_none nonempty nothing] at done
  | @literal run rest nonempty inside outside ih =>
    by_cases empty : rest = []
    · subst empty
      rw [List.append_nil] at done ⊢
      rw [readFrom_run_append nonempty inside, ← List.append_nil run,
        readFrom_literal_append nonempty inside (by simp [StartsOutside])]
      simp [Reading.cons]
    · rw [readFrom_literal_append nonempty inside outside] at done ⊢
      have tokens : (readFrom template (offset + run.length) rest).tokens ≠ [] := fun none =>
        empty (by rw [← textOf_of_finished (t := rest) done, none, textOf_nil])
      rw [List.append_assoc, readFrom_literal_append nonempty inside (outside.append empty t),
        ih done, Reading.cons, Reading.cons, joinTokens_cons_of_ne_nil _ tokens,
        List.length_append, Nat.add_assoc]
  | @directive s rest valid ih =>
    cases known : s.directive? with
    | none => simp [readFrom_tooManyDigits_append valid known] at done
    | some d =>
      rw [readFrom_directive_append valid known] at done ⊢
      rw [List.append_assoc, readFrom_directive_append valid known, ih done, Reading.cons,
        Reading.cons, joinTokens_directive_cons, List.length_append, Nat.add_assoc]

/-- A directive with too many digits stops reading, whatever follows. -/
theorem readFrom_append_of_tooManyDigits {u : Text} {template : Text} {offset : Nat}
    (long : (readFrom template offset u).stop = .tooManyDigits) (whole t : Text) :
    readFrom whole offset (u ++ t) = readFrom template offset u := by
  induction u using lexeme_induction generalizing offset with
  | nil => simp at long
  | stuck nonempty nothing => simp [readFrom_of_none nonempty nothing] at long
  | @literal run rest nonempty inside outside ih =>
    rw [readFrom_literal_append nonempty inside outside] at long ⊢
    have more : rest ≠ [] := by
      rintro rfl
      simp [Reading.cons] at long
    rw [List.append_assoc, readFrom_literal_append nonempty inside (outside.append more t),
      ih long]
  | @directive s rest valid ih =>
    rw [List.append_assoc]
    cases known : s.directive? with
    | none =>
      rw [readFrom_tooManyDigits_append valid known, readFrom_tooManyDigits_append valid known]
    | some d =>
      rw [readFrom_directive_append valid known] at long ⊢
      rw [readFrom_directive_append valid known, ih long]

/-! ## How reading ends -/

/-- Behind a well-formed beginning a text with short numbers has short numbers. -/
theorem NumbersShort.of_append {u t : Text} (first : WellFormed u) (short : NumbersShort (u ++ t)) :
    NumbersShort t := by
  intro before s behind beginning valid same
  refine short (u ++ before) s behind (first.append beginning) valid ?_
  rw [List.append_assoc, same]

/-- A beginning of a text with short numbers has short numbers. -/
theorem NumbersShort.of_append_left {u t : Text} (short : NumbersShort (u ++ t)) :
    NumbersShort u := by
  intro before s behind beginning valid same
  refine short before s (behind ++ t) beginning valid ?_
  rw [← same, List.append_assoc, List.append_assoc]

/-- Reading a well-formed text finishes, unless a width or a precision has too many digits. -/
theorem WellFormed.stop_ne_malformed {t : Text} (whole : WellFormed t) (template : Text)
    (offset : Nat) (error : ParseError) :
    (readFrom template offset t).stop ≠ .malformed error := by
  induction t using lexeme_induction generalizing offset with
  | nil => simp
  | stuck nonempty nothing =>
    rw [← unread_eq_nil_iff, unread_of_none nothing] at whole
    exact absurd whole nonempty
  | literal nonempty inside outside ih =>
    rw [readFrom_literal_append nonempty inside outside]
    rw [← unread_eq_nil_iff, unread_of_some (lexeme?_literal_append nonempty inside outside),
      unread_eq_nil_iff] at whole
    exact ih whole _
  | @directive s rest valid ih =>
    cases known : s.directive? with
    | none => simp [readFrom_tooManyDigits_append valid known]
    | some d =>
      rw [readFrom_directive_append valid known]
      rw [← unread_eq_nil_iff, unread_directive_append valid.isDirective,
        unread_eq_nil_iff] at whole
      exact ih whole _

/-- A width or a precision stops reading if and only if one in the well-formed part of the text
has too many digits. -/
theorem stop_eq_tooManyDigits_iff (template t : Text) (offset : Nat) :
    (readFrom template offset t).stop = .tooManyDigits ↔ ¬ NumbersShort t := by
  constructor
  · intro long
    induction t using lexeme_induction generalizing offset with
    | nil => simp at long
    | stuck nonempty nothing => simp [readFrom_of_none nonempty nothing] at long
    | @literal run rest nonempty inside outside ih =>
      rw [readFrom_literal_append nonempty inside outside] at long
      have first : WellFormed run := List.append_nil run ▸ .literal_append inside .nil
      exact fun short => ih _ long (short.of_append first)
    | @directive s rest valid ih =>
      cases known : s.directive? with
      | none =>
        intro short
        obtain ⟨d, some⟩ :=
          s.exists_directive?_iff.2 (short [] s rest .nil valid (List.nil_append _))
        rw [known] at some
        contradiction
      | some d =>
        rw [readFrom_directive_append valid known] at long
        have first : WellFormed s.text := List.append_nil s.text ▸ .directive valid.isDirective .nil
        exact fun short => ih _ long (short.of_append first)
  · intro notShort
    simp only [NumbersShort, not_forall] at notShort
    obtain ⟨before, s, behind, first, valid, rfl, long⟩ := notShort
    rw [← Spelling.exists_directive?_iff] at long
    have unknown : s.directive? = none := Option.eq_none_iff_forall_ne_some.2 fun d known =>
      long ⟨d, known⟩
    -- what stands in front of the directive is read to its end, or stops reading before
    cases stop : (readFrom template offset before).stop with
    | finished => rw [readFrom_append stop, readFrom_tooManyDigits_append valid unknown]
    | malformed error => exact absurd stop (first.stop_ne_malformed template offset error)
    | tooManyDigits => rw [readFrom_append_of_tooManyDigits stop, stop]

/-- Reading a well-formed text with short numbers comes to its end. -/
theorem WellFormed.finished {t : Text} (whole : WellFormed t) (short : NumbersShort t)
    (template : Text) (offset : Nat) : (readFrom template offset t).stop = .finished := by
  cases stop : (readFrom template offset t).stop with
  | finished => rfl
  | malformed error => exact absurd stop (whole.stop_ne_malformed template offset error)
  | tooManyDigits => exact absurd short ((stop_eq_tooManyDigits_iff _ _ _).1 stop)

/-- How reading ends at an offset where a text is left in which nothing can be read. -/
def endAt (template : Text) (offset : Nat) (left : Text) : Stop :=
  if left = [] then .finished else .malformed ⟨template, offset, reasonAt left⟩

/-- Where nothing can be read, reading ends. -/
theorem readFrom_of_lexeme?_eq_none {left : Text} (nothing : lexeme? left = none)
    (template : Text) (offset : Nat) :
    readFrom template offset left = ⟨[], endAt template offset left⟩ := by
  by_cases empty : left = []
  · rw [empty, readFrom_nil, endAt, if_pos rfl]
  · rw [readFrom_of_none empty nothing, endAt, if_neg empty]

/-- Reading a text with short numbers is reading its longest well-formed prefix, and ends behind
it. -/
theorem readFrom_eq {t : Text} (short : NumbersShort t) (template whole : Text) (offset : Nat) :
    readFrom whole offset t
      = ⟨(readFrom template offset (t.take (wellFormedLength t))).tokens,
        endAt whole (offset + wellFormedLength t) (unread t)⟩ := by
  have prefixShort : NumbersShort (t.take (wellFormedLength t)) := by
    rw [← take_append_unread t] at short
    exact short.of_append_left
  have done := (wellFormed_take_wellFormedLength t).finished prefixShort template offset
  have parts := readFrom_append done whole (unread t)
  rw [take_append_unread, readFrom_of_lexeme?_eq_none (lexeme?_unread t), joinTokens_nil_right,
    List.length_take_of_le (wellFormedLength_le t)] at parts
  exact parts

/-! ## The tokens of a template -/

/-- The token is a literal. -/
def Token.isLiteral : Token → Bool
  | literal _ => true
  | directive _ => false

/-- Tokens that stand one behind the other from an offset on. -/
structure InPlace (offset : Nat) (tokens : List Token) : Prop where
  /-- A literal is not empty and holds no percent sign. -/
  literal : ∀ run, .literal run ∈ tokens → run ≠ [] ∧ '%' ∉ run
  /-- No literal stands behind another one. -/
  maximal : tokens.IsChain fun first second => ¬ (first.isLiteral ∧ second.isLiteral)
  /-- A directive belongs to the grammar, and its offsets are those of its text. -/
  directive : ∀ before o behind, tokens = before ++ .directive o :: behind →
    IsDirective o.text ∧ o.start = offset + (textOf before).length
      ∧ o.stop = o.start + o.text.length

namespace InPlace

/-- No tokens are in their places. -/
theorem nil (offset : Nat) : InPlace offset [] :=
  ⟨by simp, .nil, by simp⟩

/-- A literal in front of tokens that are in their places, the first of which is none. -/
theorem literal_cons {offset : Nat} {run : Text} {tokens : List Token} (nonempty : run ≠ [])
    (inside : ∀ c ∈ run, isPlain c = true)
    (outside : ∀ more others, tokens ≠ .literal more :: others)
    (rest : InPlace (offset + run.length) tokens) : InPlace offset (.literal run :: tokens) where
  literal := by
    intro other member
    rcases List.mem_cons.1 member with same | later
    · obtain rfl := Token.literal.inj same
      exact ⟨nonempty, fun percent => absurd (inside '%' percent) (by decide)⟩
    · exact rest.literal other later
  maximal := by
    cases tokens with
    | nil => exact .singleton _
    | cons token others =>
      refine .cons_cons (fun both => ?_) rest.maximal
      cases token with
      | literal more => exact outside more others rfl
      | directive o => exact absurd both.2 (by simp [Token.isLiteral])
  directive := by
    intro before o behind same
    cases before with
    | nil => simp at same
    | cons token before =>
      obtain ⟨rfl, later⟩ := List.cons.inj same
      obtain ⟨here, start, stop⟩ := rest.directive before o behind later
      refine ⟨here, ?_, stop⟩
      rw [start, textOf_cons, List.length_append, Token.text, Nat.add_assoc]

/-- A directive in front of tokens that are in their places. -/
theorem directive_cons {offset : Nat} {o : Occurrence} {tokens : List Token}
    (here : IsDirective o.text) (start : o.start = offset) (stop : o.stop = offset + o.text.length)
    (rest : InPlace o.stop tokens) : InPlace offset (.directive o :: tokens) where
  literal := by
    intro run member
    rcases List.mem_cons.1 member with same | later
    · simp at same
    · exact rest.literal run later
  maximal := by
    cases tokens with
    | nil => exact .singleton _
    | cons token others => exact .cons_cons (by simp [Token.isLiteral]) rest.maximal
  directive := by
    intro before other behind same
    cases before with
    | nil =>
      obtain ⟨same, -⟩ := List.cons.inj same
      obtain rfl := Token.directive.inj same
      exact ⟨here, start, by rw [stop, start]⟩
    | cons token before =>
      obtain ⟨rfl, later⟩ := List.cons.inj same
      obtain ⟨inGrammar, first, last⟩ := rest.directive before other behind later
      refine ⟨inGrammar, ?_, last⟩
      rw [first, stop, textOf_cons, List.length_append, Token.text, Nat.add_assoc]

end InPlace

/-- The tokens that are read are in their places. -/
theorem inPlace_readFrom (template : Text) (offset : Nat) (t : Text) :
    InPlace offset (readFrom template offset t).tokens := by
  induction t using lexeme_induction generalizing offset with
  | nil => simpa using InPlace.nil offset
  | stuck nonempty nothing =>
    rw [readFrom_of_none nonempty nothing]
    exact .nil offset
  | literal nonempty inside outside ih =>
    rw [readFrom_literal_append nonempty inside outside]
    exact .literal_cons nonempty inside (tokens_ne_literal_cons outside _ _) (ih _)
  | @directive s rest valid ih =>
    cases known : s.directive? with
    | none =>
      rw [readFrom_tooManyDigits_append valid known]
      exact .nil offset
    | some d =>
      rw [readFrom_directive_append valid known]
      exact .directive_cons valid.isDirective rfl rfl (ih _)

/-- The text of the first tokens grows with their number. -/
theorem length_textOf_take_le (tokens : List Token) {m n : Nat} (h : m ≤ n) :
    (textOf (tokens.take m)).length ≤ (textOf (tokens.take n)).length := by
  have parts : tokens.take n = tokens.take m ++ (tokens.take n).drop m := by
    conv_lhs => rw [← List.take_append_drop m (tokens.take n)]
    rw [List.take_take, Nat.min_eq_left h]
  rw [parts, textOf_append, List.length_append]
  exact Nat.le_add_right _ _

/-- Every code point of the text of tokens belongs to exactly one of them. -/
theorem existsUnique_token {tokens : List Token} {p : Nat} (within : p < (textOf tokens).length) :
    ∃! j, (textOf (tokens.take j)).length ≤ p ∧ p < (textOf (tokens.take (j + 1))).length := by
  have reached : ∃ j, p < (textOf (tokens.take (j + 1))).length := by
    refine ⟨tokens.length, ?_⟩
    rwa [List.take_of_length_le (Nat.le_succ _)]
  have here := Nat.find_spec reached
  refine ⟨Nat.find reached, ⟨?_, here⟩, ?_⟩
  · -- the token in front of the first one that reaches beyond `p` does not
    cases first : Nat.find reached with
    | zero => simp
    | succ j => exact Nat.le_of_not_lt (Nat.find_min reached (by omega))
  · rintro j ⟨low, high⟩
    refine Nat.le_antisymm ?_ (Nat.find_min' reached high)
    by_contra later
    have := length_textOf_take_le tokens (show Nat.find reached + 1 ≤ j by omega)
    omega

/-- Tokens **split** a text if they are in their places from its front on and make it up. -/
structure Splits (tokens : List Token) (t : Text) : Prop extends InPlace 0 tokens where
  /-- The texts of the tokens make up the text. -/
  text : textOf tokens = t
  /-- Every code point of the text belongs to exactly one token. -/
  partition : ∀ p, p < t.length →
    ∃! j, (textOf (tokens.take j)).length ≤ p ∧ p < (textOf (tokens.take (j + 1))).length

/-- **The tokens of a template** split its longest well-formed prefix. Reading finishes if that is
the whole template, and meets an error behind it otherwise. -/
theorem readTemplate_splits {t : Text} (short : NumbersShort t) :
    Splits (readTemplate t).tokens (t.take (wellFormedLength t))
      ∧ ((readTemplate t).stop = .finished ↔ wellFormedLength t = t.length)
      ∧ (wellFormedLength t ≠ t.length → (readTemplate t).stop
        = .malformed ⟨t, wellFormedLength t, reasonAt (t.drop (wellFormedLength t))⟩) := by
  have prefixShort : NumbersShort (t.take (wellFormedLength t)) := by
    rw [← take_append_unread t] at short
    exact short.of_append_left
  have done := (wellFormed_take_wellFormedLength t).finished prefixShort t 0
  have read : readTemplate t = _ := readFrom_eq short t t 0
  have left : unread t = [] ↔ wellFormedLength t = t.length := by
    rw [unread_eq_nil_iff, wellFormedLength_eq_length_iff]
  rw [read, Nat.zero_add]
  refine ⟨⟨inPlace_readFrom _ _ _, textOf_of_finished done, fun p within => ?_⟩, ?_, fun more => ?_⟩
  · refine existsUnique_token ?_
    rwa [textOf_of_finished done]
  · rw [← left, endAt]
    split <;> simp_all
  · rw [endAt, if_neg fun nothing => more (left.1 nothing), drop_wellFormedLength]

/-- A directive with each part, a percent sign, and an unknown specifier behind it. -/
theorem readTemplate_splits_unknown_specifier :
    NumbersShort (Text.ofString "a%-05.2lfb%%%q")
      ∧ Splits (readTemplate (Text.ofString "a%-05.2lfb%%%q")).tokens (Text.ofString "a%-05.2lfb%%")
      ∧ (readTemplate (Text.ofString "a%-05.2lfb%%%q")).stop
        = .malformed ⟨Text.ofString "a%-05.2lfb%%%q", 12, .unknown⟩ := by
  have short : NumbersShort (Text.ofString "a%-05.2lfb%%%q") :=
    numbersShort_of_length_le (by decide)
  obtain ⟨split, -, error⟩ := readTemplate_splits short
  have length : wellFormedLength (Text.ofString "a%-05.2lfb%%%q") = 12 := by cbv
  rw [length] at split error
  have reason : reasonAt ((Text.ofString "a%-05.2lfb%%%q").drop 12) = .unknown := by decide
  rw [reason] at error
  exact ⟨short, split, error (by decide)⟩

end PercentFormat
