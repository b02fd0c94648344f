import PercentFormat.Directive.Grammar
import PercentFormat.Template

/-! # Well-formed templates

* **`WellFormed`** — a text made up of plain characters and directives, said without reading it.
* **`lexeme_induction`** — induction along the lexemes of a text, with the equations of `readFrom`
  for each of its cases.
* **`wellFormed_of_finished`** — reading comes to the end of well-formed texts only. -/

namespace PercentFormat

/-- A text is **well formed** if it is a sequence of plain characters and directives. -/
inductive WellFormed : Text → Prop where
  /-- The empty text. -/
  | nil : WellFormed []
  /-- A character that stands for itself. -/
  | plain {c : Char} {t : Text} (here : isPlain c = true) (rest : WellFormed t) :
      WellFormed (c :: t)
  /-- A directive. -/
  | directive {d t : Text} (here : IsDirective d) (rest : WellFormed t) : WellFormed (d ++ t)

namespace WellFormed

/-- Well-formed texts one after the other are well formed. -/
theorem append {s t : Text} (first : WellFormed s) (second : WellFormed t) :
    WellFormed (s ++ t) := by
  induction first with
  | nil => exact second
  | plain here _ ih => exact plain here ih
  | directive here _ ih =>
    rw [List.append_assoc]
    exact directive here ih

/-- Plain characters in front of a well-formed text keep it well formed. -/
theorem literal_append {run t : Text} (inside : ∀ c ∈ run, isPlain c = true)
    (rest : WellFormed t) : WellFormed (run ++ t) := by
  induction run with
  | nil => exact rest
  | cons c run ih =>
    exact plain (inside c (by simp)) (ih fun d member => inside d (by simp [member]))

end WellFormed

/-! ## Lexemes at the front of a text -/

/-- A run of plain characters that does not go on is the literal at the front of a text. -/
theorem lexeme?_literal_append {run rest : Text} (nonempty : run ≠ [])
    (inside : ∀ c ∈ run, isPlain c = true) (outside : StartsOutside isPlain rest) :
    lexeme? (run ++ rest) = some (.literal run, rest) := by
  cases run with
  | nil => exact absurd rfl nonempty
  | cons c run =>
    have inRun : ∀ d ∈ run, isPlain d = true := fun d member => inside d (by simp [member])
    rw [List.cons_append, lexeme?, if_pos (inside c (by simp)),
      takeWhile_append_of_startsOutside inRun outside,
      dropWhile_append_of_startsOutside inRun outside]

/-- A valid spelling is the directive at the front of a text, whatever follows it. -/
theorem lexeme?_directive_append {s : Spelling} (valid : s.Valid) (rest : Text) :
    lexeme? (s.text ++ rest) = some (.directive s, rest) := by
  have scanned := Spelling.scan?_text_append valid rest
  obtain ⟨_, percent⟩ := s.text_eq_cons
  rw [percent, List.cons_append] at scanned ⊢
  rw [lexeme?, if_neg (by decide), scanned]
  rfl

/-- A literal at the front of a text is not empty, is plain, and is taken as long as it goes. -/
theorem literal_of_lexeme? {t run rest : Text} (h : lexeme? t = some (.literal run, rest)) :
    run ≠ [] ∧ (∀ c ∈ run, isPlain c = true) ∧ StartsOutside isPlain rest := by
  unfold lexeme? at h
  split at h
  · simp at h
  · rename_i c tail
    split at h
    · rename_i here
      obtain ⟨literal, rfl⟩ := Prod.mk.inj (Option.some.inj h)
      obtain rfl := Lexeme.literal.inj literal
      refine ⟨List.cons_ne_nil _ _, fun d member => ?_,
        Spelling.startsOutside_dropWhile isPlain tail⟩
      rcases List.mem_cons.1 member with rfl | later
      · exact here
      · exact List.all_eq_true.1 List.all_takeWhile d later
    · obtain ⟨_, -, same⟩ := Option.map_eq_some_iff.1 h
      simp at same

/-- A directive at the front of a text is valid. -/
theorem valid_of_lexeme? {t rest : Text} {s : Spelling}
    (h : lexeme? t = some (.directive s, rest)) : s.Valid := by
  unfold lexeme? at h
  split at h
  · simp at h
  · split at h
    · simp at h
    · obtain ⟨⟨spelling, left⟩, found, same⟩ := Option.map_eq_some_iff.1 h
      obtain ⟨directive, -⟩ := Prod.mk.inj same
      obtain rfl := Lexeme.directive.inj directive
      exact Spelling.valid_of_scan? found

/-- **Induction along the lexemes of a text.** A text is empty, or no lexeme begins at its front,
or it is a literal or a directive with a text behind it. -/
@[elab_as_elim]
theorem lexeme_induction {motive : Text → Prop} (nil : motive [])
    (stuck : ∀ {t : Text}, t ≠ [] → lexeme? t = none → motive t)
    (literal : ∀ {run rest : Text}, run ≠ [] → (∀ c ∈ run, isPlain c = true) →
      StartsOutside isPlain rest → motive rest → motive (run ++ rest))
    (directive : ∀ {s : Spelling} {rest : Text}, s.Valid → motive rest →
      motive (s.text ++ rest)) (t : Text) : motive t := by
  by_cases empty : t = []
  · subst empty
    exact nil
  · cases found : lexeme? t with
    | none => exact stuck empty found
    | some lexed =>
      obtain ⟨l, rest⟩ := lexed
      have := length_lt_of_lexeme? found
      have behind := lexeme_induction nil stuck literal directive rest
      rw [← lexeme?_text found]
      cases l with
      | literal run =>
        obtain ⟨nonempty, inside, outside⟩ := literal_of_lexeme? found
        exact literal nonempty inside outside behind
      | directive s => exact directive (valid_of_lexeme? found) behind
termination_by t.length

/-! ## Reading along the lexemes -/

/-- A literal is a token, and reading goes on behind it. -/
theorem readFrom_literal_append {run rest : Text} (nonempty : run ≠ [])
    (inside : ∀ c ∈ run, isPlain c = true) (outside : StartsOutside isPlain rest)
    (template : Text) (offset : Nat) :
    readFrom template offset (run ++ rest)
      = (readFrom template (offset + run.length) rest).cons (.literal run) :=
  readFrom_of_literal (lexeme?_literal_append nonempty inside outside)

/-- A directive is a token, and reading goes on behind it. -/
theorem readFrom_directive_append {s : Spelling} {d : Directive} (valid : s.Valid)
    (known : s.directive? = some d) (template : Text) (offset : Nat) (rest : Text) :
    readFrom template offset (s.text ++ rest)
      = (readFrom template (offset + s.text.length) rest).cons
        (.directive ⟨d, s.text, offset, offset + s.text.length⟩) :=
  readFrom_of_directive (lexeme?_directive_append valid rest) known

/-- A directive with too many digits stops reading. -/
theorem readFrom_tooManyDigits_append {s : Spelling} (valid : s.Valid)
    (long : s.directive? = none) (template : Text) (offset : Nat) (rest : Text) :
    readFrom template offset (s.text ++ rest) = ⟨[], .tooManyDigits⟩ :=
  readFrom_of_tooManyDigits (lexeme?_directive_append valid rest) long

/-- What is read to its end is well formed. -/
theorem wellFormed_of_finished {template : Text} (offset : Nat) (rest : Text)
    (h : (readFrom template offset rest).stop = .finished) : WellFormed rest := by
  induction rest using lexeme_induction generalizing offset with
  | nil => exact .nil
  | stuck nonempty none => simp [readFrom_of_none nonempty none] at h
  | literal nonempty inside outside ih =>
    rw [readFrom_literal_append nonempty inside outside] at h
    exact .literal_append inside (ih _ h)
  | @directive s rest valid ih =>
    cases known : s.directive? with
    | none => simp [readFrom_tooManyDigits_append valid known] at h
    | some d =>
      rw [readFrom_directive_append valid known] at h
      exact .directive valid.isDirective (ih _ h)

end PercentFormat
