import PercentFormat.Proofs.Faults
import PercentFormat.Proofs.Truncation

/-! # Templates one behind the other

Applying a well-formed template that goes on with another text is applying the two templates one
after the other, to the same stream and with the same cursor. A literal at the seam is written at
once, which no stream notices, and what the second template says about places counts from the
beginning of the first one.

* **`Token.shift`**, **`ParseError.behind`** — tokens and errors behind a text.
* **`Template.ofText_append`** — the template of two texts one behind the other.
* **`renderTokens_joinTokens`** — joined tokens are rendered like those of both texts.
* **`Effect`** — the effect of applying a template to a stream, with **`Effect.andThen`**.
* **`effect_append`** — the effect of two texts one behind the other. -/

namespace PercentFormat

/-! ## Reading behind a text -/

/-- The token with its places counted from further in front. -/
def Token.shift (n : Nat) : Token → Token
  | literal text => literal text
  | directive o => directive ⟨o.directive, o.text, n + o.start, n + o.stop⟩

/-- The error of a template that stands behind a text. -/
def ParseError.behind (t : Text) (e : ParseError) : ParseError :=
  ⟨t ++ e.template, t.length + e.offset, e.reason⟩

/-- The way in which reading ends behind a text. -/
def Stop.behind (t : Text) : Stop → Stop
  | finished => finished
  | malformed error => malformed (error.behind t)
  | tooManyDigits => tooManyDigits

/-- What is read behind a text. -/
def Reading.behind (t : Text) (r : Reading) : Reading :=
  ⟨r.tokens.map (Token.shift t.length), r.stop.behind t⟩

/-- Reading the same text behind another one counts the places from further in front. -/
theorem readFrom_behind (u template : Text) (offset : Nat) (t : Text) :
    readFrom (u ++ template) (u.length + offset) t = (readFrom template offset t).behind u := by
  -- the lexemes of `t` do not depend on what stands in front of it, only their places do
  induction t using lexeme_induction generalizing offset with
  | nil => simp [Reading.behind, Stop.behind]
  | stuck nonempty nothing =>
    rw [readFrom_of_none nonempty nothing, readFrom_of_none nonempty nothing]
    rfl
  | literal nonempty inside outside ih =>
    rw [readFrom_literal_append nonempty inside outside,
      readFrom_literal_append nonempty inside outside, Nat.add_assoc, ih]
    rfl
  | @directive s rest valid ih =>
    cases known : s.directive? with
    | none =>
      rw [readFrom_tooManyDigits_append valid known, readFrom_tooManyDigits_append valid known]
      rfl
    | some d =>
      rw [readFrom_directive_append valid known, readFrom_directive_append valid known,
        Nat.add_assoc, ih]
      rfl

/-- The template of two texts one behind the other, the first of which is well formed. -/
theorem Template.ofText_append {t₁ t₂ : Text} {f₁ f₂ : Template} (first : WellFormed t₁)
    (read₁ : ofText t₁ = .ok f₁) (read₂ : ofText t₂ = .ok f₂) :
    ofText (t₁ ++ t₂)
      = .ok ⟨t₁ ++ t₂, joinTokens f₁.tokens (f₂.tokens.map (Token.shift t₁.length)),
          f₂.error?.map (ParseError.behind t₁)⟩ := by
  have done := first.finished (numbersShort_of_ofText read₁) t₁ 0
  have reading₁ : readFrom t₁ 0 t₁ = _ := (ofText_eq_ok_iff.1 read₁).2
  have reading₂ : readFrom t₂ 0 t₂ = _ := (ofText_eq_ok_iff.1 read₂).2
  have behind : readFrom (t₁ ++ t₂) (0 + t₁.length) t₂ = (readFrom t₂ 0 t₂).behind t₁ := by
    rw [Nat.zero_add]
    exact readFrom_behind t₁ t₂ 0 t₂
  refine ofText_eq_ok_iff.2 ⟨rfl, ?_⟩
  rw [readTemplate, readFrom_append done, behind, reading₁, reading₂]
  cases f₂.error? <;> rfl

/-! ## Rendering joined tokens -/

/-- What can be observed of rendering: its text, its cursor and its fault. -/
def Progress.observed (p : Progress) : Text × Cursor × Option Fault := (p.text, p.cursor, p.fault?)

/-- The places of a token have no influence on its text. -/
theorem Token.render_shift (s : Settings) (n : Nat) (token : Token) :
    (token.shift n).render s = token.render s := by
  cases token <;> rfl

/-- The places of tokens have no influence on their text. -/
theorem renderTokens_map_shift (s : Settings) (n : Nat) (tokens : List Token) (c : Cursor) :
    renderTokens s (tokens.map (Token.shift n)) c = renderTokens s tokens c :=
  renderTokens_alike
    (List.forall₂_map_left_iff.2 (List.forall₂_same.2 fun token _ => token.render_shift s n)) c

/-- What is observed of a literal in front of tokens. -/
theorem observed_literal_cons (s : Settings) (run : Text) (tokens : List Token) (c : Cursor) :
    (renderTokens s (.literal run :: tokens) c).observed
      = (run ++ (renderTokens s tokens c).text, (renderTokens s tokens c).cursor,
          (renderTokens s tokens c).fault?) := by
  rw [renderTokens_cons_of_ok tokens (Token.run_render_literal s run c), Progress.observed,
    Progress.text, List.flatten_cons, Progress.text]

/-- What is observed behind a token depends on what is observed of the other tokens only. -/
theorem observed_cons_congr {s : Settings} {tokens others : List Token} (token : Token) {c : Cursor}
    (alike : ∀ c, (renderTokens s tokens c).observed = (renderTokens s others c).observed) :
    (renderTokens s (token :: tokens) c).observed
      = (renderTokens s (token :: others) c).observed := by
  rcases token.run_cases s c with ⟨text, c', run⟩ | ⟨fault, c', run⟩
  · have rest := alike c'
    simp only [Progress.observed, Progress.text, Prod.mk.injEq] at rest
    obtain ⟨text, cursor, fault⟩ := rest
    rw [renderTokens_cons_of_ok tokens run, renderTokens_cons_of_ok others run]
    simp only [Progress.observed, Progress.text, List.flatten_cons, text, cursor, fault]
  · rw [renderTokens_cons_of_error tokens run, renderTokens_cons_of_error others run]

/-- **Joined tokens are rendered like those of both texts**, one after the other. -/
theorem renderTokens_joinTokens (s : Settings) (first rest : List Token) (c : Cursor) :
    (renderTokens s (joinTokens first rest) c).observed
      = (renderTokens s (first ++ rest) c).observed := by
  induction first, rest using joinTokens.induct generalizing c with
  | case1 rest => rfl
  | case2 run more rest =>
    -- the joined literal writes at once what the two literals write one after the other
    rw [joinTokens, List.cons_append, List.nil_append, observed_literal_cons, observed_literal_cons]
    rw [renderTokens_cons_of_ok rest (Token.run_render_literal s more c)]
    simp only [Progress.text, List.flatten_cons, List.append_assoc]
  | case3 token tokens rest apart ih =>
    rw [joinTokens.eq_3 _ _ _ apart, List.cons_append]
    exact observed_cons_congr token ih

/-! ## Effects -/

/-- The error of a fault of a template that stands behind a text. -/
def Fault.behind (t : Text) : Fault → Fault
  | malformed error => malformed (error.behind t)
  | fault => fault

/-- A fault of rendering does not say where a template stands. -/
theorem Fault.behind_of_mem {fault : Fault} (h : fault ∈ ofRendering) (t : Text) :
    fault.behind t = fault := by
  cases fault with
  | malformed error => exact absurd rfl (ne_malformed_of_mem h error)
  | _ => rfl

/-- A template whose tokens end as those of another one, and whose error is that of the other one
behind a text, ends as the other one behind the text. -/
theorem Template.apply_behind {s : Settings} {f g : Template} {c d : Cursor} {t : Text}
    (ends : (renderTokens s g.tokens d).fault? = (renderTokens s f.tokens c).fault?)
    (errors : g.error? = f.error?.map (ParseError.behind t)) :
    (g.apply s d).fault? = (f.apply s c).fault?.map (Fault.behind t)
      ∧ (g.apply s d).log = (f.apply s c).log.map (ParseError.behind t) := by
  -- a fault of the tokens does not say where the template stands, and its error is moved
  have kept : (renderTokens s f.tokens c).fault?.map (Fault.behind t)
      = (renderTokens s f.tokens c).fault? := by
    cases fault : (renderTokens s f.tokens c).fault? with
    | none => rfl
    | some arisen => rw [Option.map_some, Fault.behind_of_mem (renderTokens_fault fault)]
  have refusals (error : ParseError) :
      (Fault.malformed error).behind t = .malformed (error.behind t) := rfl
  rw [map_fault?_apply refusals, map_log_apply, fault?_apply, log_apply, kept, ends, errors]
  exact ⟨rfl, rfl⟩

/-- The **effect** of applying a template to a stream with a cursor. -/
structure Effect where
  /-- All streams behind the application. -/
  streams : Streams
  /-- The cursor behind the arguments that have been consumed. -/
  cursor : Cursor
  /-- The fault that the application ended in, if any. -/
  fault? : Option Fault
  /-- The errors that have been reported. -/
  log : List ParseError

namespace Effect

/-- The effect, and what is done behind it unless it ends in a fault. -/
def andThen (first : Effect) (next : Streams → Cursor → Effect) : Effect :=
  match first.fault? with
  | some _ => first
  | none =>
    let second := next first.streams first.cursor
    ⟨second.streams, second.cursor, second.fault?, first.log ++ second.log⟩

/-- The effect of a template that stands behind a text. -/
def behind (t : Text) (e : Effect) : Effect :=
  ⟨e.streams, e.cursor, e.fault?.map (Fault.behind t), e.log.map (ParseError.behind t)⟩

end Effect

/-- The effect of applying a template to a stream. -/
def Template.effect (s : Settings) (target : Nat) (f : Template) (streams : Streams)
    (c : Cursor) : Effect :=
  let (o, streams) := (Source.template f).applyTo s streams target c
  ⟨streams, o.cursor, o.fault?, o.log⟩

/-- A template writes the text of its tokens at once, as far as the stream can tell. -/
theorem Template.effect_eq (s : Settings) (target : Nat) (f : Template) (streams : Streams)
    (c : Cursor) :
    f.effect s target streams c
      = ⟨streams.write target (renderTokens s f.tokens c).text, (renderTokens s f.tokens c).cursor,
          (f.apply s c).fault?, (f.apply s c).log⟩ := by
  rw [effect, Source.applyTo, Streams.writeAll_eq_write]
  change (⟨streams.write target (f.apply s c).text, (f.apply s c).cursor, _, _⟩ : Effect) = _
  rw [text_apply, cursor_apply]
  rfl

namespace Effect

/-- Behind a fault nothing is done. -/
theorem andThen_of_some {first : Effect} {fault : Fault} (h : first.fault? = some fault)
    (next : Streams → Cursor → Effect) : first.andThen next = first := by
  rw [andThen, h]

/-- Behind an effect without a fault and without reports the next one takes place. -/
theorem andThen_of_none {first : Effect} (h : first.fault? = none) (silent : first.log = [])
    (next : Streams → Cursor → Effect) :
    first.andThen next = next first.streams first.cursor := by
  rw [andThen, h, silent]
  rfl

end Effect

/-- **Two templates one behind the other**, the first of which is well formed. Their texts can be
read as one template, whose error is that of the second template, moved behind the first one.
Applying it to a stream is applying the first template and, unless this ends in a fault, the second
one to the same stream and with the same cursor. -/
theorem effect_append {t₁ t₂ : Text} {f₁ f₂ : Template} (first : WellFormed t₁)
    (read₁ : Template.ofText t₁ = .ok f₁) (read₂ : Template.ofText t₂ = .ok f₂) :
    ∃ f, Template.ofText (t₁ ++ t₂) = .ok f
      ∧ f.error? = f₂.error?.map (ParseError.behind t₁)
      ∧ ∀ s target streams c, f.effect s target streams c
        = (f₁.effect s target streams c).andThen fun streams c =>
            (f₂.effect s target streams c).behind t₁ := by
  refine ⟨_, Template.ofText_append first read₁ read₂, rfl, fun s target streams c => ?_⟩
  have complete : f₁.error? = none := by
    rw [Template.error?_of_ofText read₁, truncation?,
      if_pos ((wellFormedLength_eq_length_iff t₁).2 first)]
  have joined := renderTokens_joinTokens s f₁.tokens (f₂.tokens.map (Token.shift t₁.length)) c
  cases fault : (renderTokens s f₁.tokens c).fault? with
  | some arisen =>
    -- the tokens of the second template are not reached
    rw [renderTokens_append_of_some _ _ fault] at joined
    simp only [Progress.observed, Prod.mk.injEq] at joined
    obtain ⟨text, cursor, ends⟩ := joined
    obtain ⟨refused, silent⟩ := Template.apply_of_fault fault
    rw [fault] at ends
    obtain ⟨refused', silent'⟩ := Template.apply_of_fault
      (t := ⟨t₁ ++ t₂, _, f₂.error?.map (ParseError.behind t₁)⟩) ends
    have before := Template.effect_eq s target f₁ streams c
    rw [Effect.andThen_of_some (by rw [before]; exact refused), before, Template.effect_eq, text,
      cursor, refused, silent, refused', silent']
  | none =>
    rw [renderTokens_append_of_none _ _ fault, renderTokens_map_shift] at joined
    simp only [Progress.observed, Prod.mk.injEq] at joined
    obtain ⟨text, cursor, ends⟩ := joined
    -- a well-formed first template returns, and the second one goes on where it has ended
    obtain ⟨returns, silent⟩ := Template.apply_of_complete fault complete
    have before := Template.effect_eq s target f₁ streams c
    rw [Effect.andThen_of_none (by rw [before]; exact returns) (by rw [before]; exact silent),
      before, Template.effect_eq, Template.effect_eq, text, cursor]
    obtain ⟨fault', log'⟩ := Template.apply_behind (t := t₁) (f := f₂)
      (g := ⟨t₁ ++ t₂, _, f₂.error?.map (ParseError.behind t₁)⟩) ends rfl
    rw [fault', log', Effect.behind]
    simp only [Progress.text, List.flatten_append, Streams.write_append]

/-- A literal that goes on behind the seam, and a second template with an unknown specifier. -/
theorem effect_append_unknown_specifier :
    let t₁ := Text.ofString "%sa"
    let t₂ := Text.ofString "b%q"
    let c := Cursor.ofList [.text ['x'], .null]
    ∃ f, WellFormed t₁ ∧ Template.ofText (t₁ ++ t₂) = .ok f
      ∧ f.error? = some ⟨t₁ ++ t₂, 4, .unknown⟩
      ∧ f.effect Settings.initial Streams.standardOutput Streams.initial c
        = ⟨[.plain ['x', 'a', 'b']], c.next.2, none, [⟨t₁ ++ t₂, 4, .unknown⟩]⟩ := by
  intro t₁ t₂ c
  have first : WellFormed t₁ := (unread_eq_nil_iff t₁).1 (by cbv)
  have read₁ : Template.ofText t₁
      = .ok ⟨t₁, [.directive ⟨⟨⟨false, false, false, false, false⟩, .absent, .absent, none,
          .string⟩, ['%', 's'], 0, 2⟩, .literal ['a']], none⟩ := by cbv
  have read₂ : Template.ofText t₂ = .ok ⟨t₂, [.literal ['b']], some ⟨t₂, 1, .unknown⟩⟩ := by cbv
  obtain ⟨f, read, error, effect⟩ := effect_append first read₁ read₂
  exact ⟨f, first, read, error, effect _ _ _ _⟩

end PercentFormat
