import PercentFormat.Message
import PercentFormat.Proofs.Reading

/-! # Cutting off malformed templates

A template that is malformed behind its longest well-formed prefix is applied like that prefix. The
variable `strict` decides only how the application ends: it refuses the template, or the error is
reported. A fault that arises while the prefix is applied comes before either.

* **`SamePrecisions`** — settings under which tokens are rendered alike.
* **`truncation?`** — the error behind the longest well-formed prefix of a text.
* **`Template.ofText_eq`** — reading a template is reading this prefix.
* **`format_truncated`** — applying a template is applying this prefix. -/

namespace PercentFormat

/-! ## Variables that rendering looks at -/

/-- Two settings have the **same precisions** if they agree on the variables that rendering looks
at. -/
structure SamePrecisions (s r : Settings) : Prop where
  /-- The precision of exponent notation. -/
  exponent : s .exponentPrecision = r .exponentPrecision
  /-- The precision of general notation. -/
  general : s .generalPrecision = r .generalPrecision

section Congruence

variable {s r : Settings}

/-- A number without its sign depends on the precisions only. -/
theorem unsignedPieces_congr (same : SamePrecisions s r) :
    unsignedPieces s = unsignedPieces r := by
  funext style flags precision n
  unfold unsignedPieces
  rw [same.exponent, same.general]

/-- The pieces of a value depend on the precisions only. -/
theorem Value.pieces_congr (same : SamePrecisions s r) : Value.pieces s = Value.pieces r := by
  funext form flags precision v
  unfold Value.pieces Number.pieces
  rw [unsignedPieces_congr same]

/-- A directive is rendered by the precisions only. -/
theorem Directive.render_congr (same : SamePrecisions s r) (d : Directive) :
    d.render s = d.render r := by
  unfold render convertArgument
  rw [Value.pieces_congr same]

/-- A token is rendered by the precisions only. -/
theorem Token.render_congr (same : SamePrecisions s r) (token : Token) :
    token.render s = token.render r := by
  cases token with
  | literal run => rfl
  | directive o => exact o.directive.render_congr same

/-- Tokens that are rendered alike one by one are rendered alike together. -/
theorem renderTokens_alike {tokens others : List Token}
    (alike : List.Forall₂ (fun token other => token.render s = other.render r) tokens others)
    (c : Cursor) : renderTokens s tokens c = renderTokens r others c := by
  induction alike generalizing c with
  | nil => rfl
  | cons first _ ih =>
    rw [renderTokens, renderTokens, first]
    simp only [ih]

/-- Tokens are rendered by the precisions only. -/
theorem renderTokens_congr (same : SamePrecisions s r) (tokens : List Token) (c : Cursor) :
    renderTokens s tokens c = renderTokens r tokens c :=
  renderTokens_alike (List.forall₂_same.2 fun token _ => token.render_congr same) c

end Congruence

/-! ## Templates and their longest well-formed prefixes -/

/-- The error behind the longest well-formed prefix of a text, unless this is the whole text. -/
def truncation? (t : Text) : Option ParseError :=
  if wellFormedLength t = t.length then none
  else some ⟨t, wellFormedLength t, reasonAt (t.drop (wellFormedLength t))⟩

namespace Template

/-- Only texts with short numbers can be read as templates. -/
theorem numbersShort_of_ofText {t : Text} {f : Template} (read : ofText t = .ok f) :
    NumbersShort t := by
  -- otherwise reading stops at digits, and this is no way in which a template can end
  by_contra long
  have stop : (readTemplate t).stop = .tooManyDigits := (stop_eq_tooManyDigits_iff t t 0).2 long
  have unread := ofText_eq_error_iff_stop.2 ⟨rfl, stop⟩
  rw [read] at unread
  contradiction

/-- The tokens of a template are those of its longest well-formed prefix, and its error lies behind
it. -/
theorem ofText_eq {t : Text} (short : NumbersShort t) :
    ofText t
      = .ok ⟨t, (readTemplate (t.take (wellFormedLength t))).tokens, truncation? t⟩ := by
  have reading : readTemplate t = _ := readFrom_eq short (t.take (wellFormedLength t)) t 0
  have left : unread t = [] ↔ wellFormedLength t = t.length := by
    rw [unread_eq_nil_iff, wellFormedLength_eq_length_iff]
  refine ofText_eq_ok_iff.2 ⟨rfl, ?_⟩
  rw [reading, endAt, Nat.zero_add, truncation?, drop_wellFormedLength]
  by_cases whole : wellFormedLength t = t.length
  · rw [if_pos (left.2 whole), if_pos whole]
    rfl
  · rw [if_neg (left.not.2 whole), if_neg whole]
    rfl

/-- The longest well-formed prefix of a template has the same tokens and no error. -/
theorem ofText_prefix {t : Text} {f : Template} (read : ofText t = .ok f) :
    ofText (t.take (wellFormedLength t)) = .ok ⟨t.take (wellFormedLength t), f.tokens, none⟩ := by
  have short := numbersShort_of_ofText read
  have prefixShort : NumbersShort (t.take (wellFormedLength t)) := by
    rw [← take_append_unread t] at short
    exact short.of_append_left
  have whole : wellFormedLength (t.take (wellFormedLength t))
      = (t.take (wellFormedLength t)).length :=
    (wellFormedLength_eq_length_iff _).2 (wellFormed_take_wellFormedLength t)
  rw [ofText_eq short] at read
  obtain rfl := Except.ok.inj read
  rw [ofText_eq prefixShort, truncation?, if_pos whole, whole, List.take_length]

/-- The error of a template lies behind its longest well-formed prefix. -/
theorem error?_of_ofText {t : Text} {f : Template} (read : ofText t = .ok f) :
    f.error? = truncation? t := by
  rw [ofText_eq (numbersShort_of_ofText read)] at read
  obtain rfl := Except.ok.inj read
  rfl

/-- The error of a template tells the length of its longest well-formed prefix. -/
theorem wellFormedLength_of_error {t : Text} {f : Template} {error : ParseError}
    (read : ofText t = .ok f) (cut : f.error? = some error) :
    wellFormedLength t = error.offset := by
  rw [error?_of_ofText read, truncation?] at cut
  split at cut
  · simp at cut
  · obtain rfl := Option.some.inj cut
    rfl

/-- The variable `strict` matters only for a template that is cut off, and only when its tokens are
rendered. In all other cases nothing is reported. -/
theorem apply_congr {s r : Settings} {f : Template} {c : Cursor} (same : SamePrecisions s r)
    (ends : f.error? = none ∨ ∃ fault, (renderTokens s f.tokens c).fault? = some fault) :
    f.apply r c = f.apply s c ∧ (f.apply r c).log = [] := by
  have rendered := renderTokens_congr same f.tokens c
  -- a fault comes before the error, and without an error nothing is left to report
  have log : (f.apply r c).log = [] := by
    rcases ends with complete | ⟨fault, arises⟩
    · cases fault : (renderTokens r f.tokens c).fault? with
      | none => exact (apply_of_complete fault complete).2
      | some fault' => exact (apply_of_fault fault).2
    · rw [rendered] at arises
      exact (apply_of_fault arises).2
  refine ⟨?_, log⟩
  rw [apply, apply, ← rendered]
  rcases ends with complete | ⟨fault, arises⟩
  · rw [complete]
    cases (renderTokens s f.tokens c).fault? <;> rfl
  · simp only [arises]

end Template

/-! ## Formatting a template that is cut off -/

/-- **A template that is cut off.** Let `s` and `r` agree on the precisions.
A template that is well formed has the same effect under both, and nothing is reported. The same
holds if a fault arises while the tokens are rendered. Otherwise a malformed template formats to the
text of its longest well-formed prefix, and consumes as much: if `strict` does not count as true,
one error is reported, and if it does, the stream receives the same text, the template is refused,
and nothing is reported. -/
theorem format_truncated {s : Settings} {t : Text} {f : Template} {c : Cursor} {streams : Streams}
    {target : Nat} (read : Template.ofText t = .ok f) :
    (wellFormedLength t = t.length → ∀ r, SamePrecisions s r →
      (Source.text t).applyTo r streams target c = (Source.text t).applyTo s streams target c
        ∧ format r (.text t) c = format s (.text t) c ∧ (format r (.text t) c).log = [])
    ∧ (wellFormedLength t < t.length → (renderTokens s f.tokens c).fault? = none →
      ∃ error, f.error? = some error ∧ error.offset = wellFormedLength t
        ∧ error.logLine = Text.ofString "DEBUG: output truncated at offset "
            ++ Numeral.decimal (wellFormedLength t) ++ Text.ofString " of " ++ quoted t
            ++ ':' :: ' ' :: (reasonAt (t.drop (wellFormedLength t))).text
        ∧ ∃ text cursor, format s (.text (t.take (wellFormedLength t))) c = ⟨.ok text, cursor, []⟩
          ∧ ∀ r, SamePrecisions s r →
            ((r .strict).truthy = false → format r (.text t) c = ⟨.ok text, cursor, [error]⟩)
            ∧ ((r .strict).truthy = true →
              ((Source.text t).applyTo r streams target c).2 = streams.write target text
              ∧ ((Source.text t).apply r c).cursor = cursor
              ∧ ((Source.text t).apply r c).fault? = some (.malformed error)
              ∧ ((Source.text t).apply r c).log = []))
    ∧ ∀ fault, (renderTokens s f.tokens c).fault? = some fault → ∀ r, SamePrecisions s r →
      ((Source.text t).apply r c).fault? = some fault ∧ ((Source.text t).apply r c).log = [] := by
  have cut := Template.error?_of_ofText read
  refine ⟨fun whole r same => ?_, fun more rendered => ?_, fun fault arises r same => ?_⟩
  · rw [truncation?, if_pos whole] at cut
    obtain ⟨effect, log⟩ := Template.apply_congr (c := c) same (.inl cut)
    rw [Source.applyTo, Source.applyTo, format, format, Source.apply_text read,
      Source.apply_text read, effect]
    rw [effect] at log
    exact ⟨rfl, rfl, log⟩
  · rw [truncation?, if_neg (Nat.ne_of_lt more)] at cut
    -- the prefix has the same tokens and ends without an error
    have complete := Template.apply_of_complete (c := c) (s := s)
      (t := ⟨t.take (wellFormedLength t), f.tokens, none⟩) rendered rfl
    have formatted := format_of_none (Template.ofText_prefix read) complete.1
    rw [complete.2] at formatted
    refine ⟨_, cut, rfl, rfl, _, _, formatted, fun r same => ⟨fun lenient => ?_, fun strict => ?_⟩⟩
    · rw [renderTokens_congr same] at rendered ⊢
      obtain ⟨returns, log⟩ := Template.apply_of_not_strict rendered cut lenient
      rw [format_of_none read returns, log]
    · rw [renderTokens_congr same] at rendered ⊢
      rw [Source.streams_applyTo, Source.apply_text read, Template.text_apply,
        Template.cursor_apply]
      exact ⟨rfl, rfl, Template.apply_of_strict rendered cut strict⟩
  · rw [renderTokens_congr same] at arises
    rw [Source.apply_text read]
    exact Template.apply_of_fault arises

/-- A template whose second directive has an unknown specifier, without and with `strict`. -/
theorem format_truncated_unknown_specifier :
    let t := Text.ofString "a%s%q"
    let c := Cursor.ofList [.text ['b']]
    let strict : Settings := fun x => if x = .strict then .bool true else Settings.initial x
    ∃ f error cursor, Template.ofText t = .ok f ∧ wellFormedLength t < t.length
      ∧ (renderTokens Settings.initial f.tokens c).fault? = none
      ∧ SamePrecisions Settings.initial strict ∧ error.offset = 3
      ∧ format Settings.initial (.text (Text.ofString "a%s")) c = ⟨.ok ['a', 'b'], cursor, []⟩
      ∧ format Settings.initial (.text t) c = ⟨.ok ['a', 'b'], cursor, [error]⟩
      ∧ ((Source.text t).applyTo strict Streams.initial Streams.standardOutput c).2
        = [.plain ['a', 'b']]
      ∧ ((Source.text t).apply strict c).fault? = some (.malformed error) := by
  intro t c strict
  have read : Template.ofText t
      = .ok ⟨t, [.literal ['a'], .directive ⟨⟨⟨false, false, false, false, false⟩, .absent,
          .absent, none, .string⟩, ['%', 's'], 1, 3⟩], some ⟨t, 3, .unknown⟩⟩ := by cbv
  have length : wellFormedLength t = 3 := Template.wellFormedLength_of_error read rfl
  have same : SamePrecisions Settings.initial strict := ⟨rfl, rfl⟩
  obtain ⟨-, malformed, -⟩ :=
    @format_truncated Settings.initial t _ c Streams.initial Streams.standardOutput read
  rw [length] at malformed
  have formatted : format Settings.initial (.text (t.take 3)) c
      = ⟨.ok ['a', 'b'], c.next.2, []⟩ := by
    rw [← length]
    exact format_of_none (Template.ofText_prefix read) rfl
  obtain ⟨error, -, offset, -, text, cursor, before, effects⟩ := malformed (by decide) rfl
  obtain ⟨rfl, rfl⟩ : ['a', 'b'] = text ∧ c.next.2 = cursor := by
    rw [formatted] at before
    injection before with result cursor
    exact ⟨Except.ok.inj result, cursor⟩
  obtain ⟨received, -, refused, -⟩ := (effects strict same).2 rfl
  exact ⟨_, error, _, read, by rw [length]; decide, rfl, same, offset, formatted,
    (effects _ ⟨rfl, rfl⟩).1 rfl, received, refused⟩
end PercentFormat
