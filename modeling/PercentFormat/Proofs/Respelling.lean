import PercentFormat.Printf
import PercentFormat.Proofs.Truncation

/-! # Templates with other spellings of their directives

The directives of a template may be spelled in another way, while its literals and the rest that
cannot be read stay as they are. The template is then read as the same tokens, apart from what the
new spellings stand for and from the places of all that follows. Where the directives that stand in
one place are rendered alike, the templates are applied alike.

* **`Respelled`** — a text whose directives are spelled in another way.
* **`respell`** — a text whose directives are respelled by a function.
* **`Respelled.readFrom`** — how the two texts are read.
* **`Outcome.unplaced`** — what an application does, the places of errors left aside.
* **`Respelled.apply`** — how the two templates are applied. -/

namespace PercentFormat

/-! ## Respelled texts -/

/-- A text is **respelled** if each directive up to the place where it cannot be read is replaced by
a related one, and all else stays. -/
inductive Respelled (R : Spelling → Spelling → Prop) : Text → Text → Prop where
  /-- The end of the text, or the rest that cannot be read. -/
  | rest {t : Text} (nothing : lexeme? t = none) : Respelled R t t
  /-- A literal, taken as long as it goes. -/
  | literal {run t u : Text} (nonempty : run ≠ []) (inside : ∀ c ∈ run, isPlain c = true)
      (outside : StartsOutside isPlain t) (behind : Respelled R t u) :
      Respelled R (run ++ t) (run ++ u)
  /-- A directive. -/
  | directive {a b : Spelling} {t u : Text} (valid : a.Valid) (related : R a b)
      (behind : Respelled R t u) : Respelled R (a.text ++ t) (b.text ++ u)

/-- A respelled text starts like the text. -/
theorem Respelled.head? {R : Spelling → Spelling → Prop} {t u : Text} (same : Respelled R t u) :
    u.head? = t.head? := by
  cases same with
  | rest nothing => rfl
  | literal nonempty inside outside behind =>
    rw [List.head?_append_of_ne_nil _ nonempty, List.head?_append_of_ne_nil _ nonempty]
  | directive valid related behind => rfl

/-- A text with its directives **respelled** by a function, up to where it cannot be read. -/
def respell (f : Spelling → Spelling) (t : Text) : Text :=
  match _found : lexeme? t with
  | none => t
  | some (.literal run, rest) => run ++ respell f rest
  | some (.directive s, rest) => (f s).text ++ respell f rest
termination_by t.length
decreasing_by all_goals exact length_lt_of_lexeme? _found

section Respell

variable (f : Spelling → Spelling)

/-- What cannot be read stays as it is. -/
theorem respell_of_none {t : Text} (nothing : lexeme? t = none) : respell f t = t := by
  rw [respell]
  split <;> simp_all

/-- A literal stays as it is. -/
theorem respell_literal_append {run rest : Text} (nonempty : run ≠ [])
    (inside : ∀ c ∈ run, isPlain c = true) (outside : StartsOutside isPlain rest) :
    respell f (run ++ rest) = run ++ respell f rest := by
  have lexed := lexeme?_literal_append nonempty inside outside
  rw [respell]
  split <;> simp_all

/-- A directive is respelled. -/
theorem respell_directive_append {s : Spelling} (valid : s.Valid) (rest : Text) :
    respell f (s.text ++ rest) = (f s).text ++ respell f rest := by
  have lexed := lexeme?_directive_append valid rest
  rw [respell]
  split <;> simp_all

/-- Respelling by a function gives a respelled text. -/
theorem respelled_respell (t : Text) : Respelled (fun a b => b = f a) t (respell f t) := by
  induction t using lexeme_induction with
  | nil => rw [respell_of_none f rfl]; exact .rest rfl
  | stuck nonempty nothing => rw [respell_of_none f nothing]; exact .rest nothing
  | literal nonempty inside outside ih =>
    rw [respell_literal_append f nonempty inside outside]
    exact .literal nonempty inside outside ih
  | directive valid ih =>
    rw [respell_directive_append f valid]
    exact .directive valid rfl ih

end Respell

/-! ## Directives that are rendered alike -/

/-- The converted argument of a directive depends on what its specifier makes of arguments and on
how the directive writes numbers. -/
theorem Directive.convertArgument_alike {s r : Settings} {d e : Directive} {p q : Option Int}
    (role : e.specifier.role = d.specifier.role)
    (numbers : ∀ form, d.specifier.role = .number form → ∀ v : Value,
      v.pieces s form d.flags (p.map .whole) = v.pieces r form e.flags (q.map .whole)) :
    d.convertArgument s p = e.convertArgument r q := by
  rw [convertArgument, convertArgument, role]
  cases made : d.specifier.role with
  | number form => simp only [numbers form made]
  | percent => rfl
  | character => rfl
  | text => rfl
  | ignored => rfl

/-! ## Places left aside -/

/-- An error with its place left aside. -/
def ParseError.unplaced (e : ParseError) : ParseError := ⟨[], 0, e.reason⟩

/-- How reading ends, with the place left aside. -/
def Stop.unplaced : Stop → Stop
  | malformed error => malformed error.unplaced
  | stop => stop

namespace Stop

/-- What ends like a template with an error, or without one, is the end of one for the same
reason. -/
theorem exists_ofError? {stop : Stop} {error? : Option ParseError}
    (same : stop.unplaced = (ofError? error?).unplaced) :
    ∃ error?', stop = ofError? error?'
      ∧ error?'.map ParseError.unplaced = error?.map ParseError.unplaced := by
  cases error? with
  | none =>
    cases stop with
    | finished => exact ⟨none, rfl, rfl⟩
    | malformed error => contradiction
    | tooManyDigits => contradiction
  | some error =>
    cases stop with
    | finished => contradiction
    | malformed error' => exact ⟨some error', rfl, congrArg some (malformed.inj same)⟩
    | tooManyDigits => contradiction

/-- Too many digits have no place. -/
theorem eq_tooManyDigits {stop : Stop} (same : stop.unplaced = tooManyDigits.unplaced) :
    stop = tooManyDigits := by
  cases stop with
  | finished => contradiction
  | malformed error => contradiction
  | tooManyDigits => rfl

end Stop

/-- A fault with the place of its error left aside. -/
def Fault.unplaced : Fault → Fault
  | malformed error => malformed error.unplaced
  | fault => fault

/-- The kind of a fault does not depend on a place. -/
@[simp] theorem Fault.kind_unplaced (fault : Fault) : fault.unplaced.kind = fault.kind := by
  cases fault <;> rfl

/-- The outcome of an application with the places of errors left aside. -/
def Outcome.unplaced (o : Outcome) : Outcome :=
  ⟨o.written, o.cursor, o.fault?.map Fault.unplaced, o.log.map ParseError.unplaced⟩

/-- The kind of fault of an outcome does not depend on a place. -/
theorem Outcome.kind_unplaced (o : Outcome) :
    o.unplaced.fault?.map Fault.kind = o.fault?.map Fault.kind := by
  rw [unplaced, Option.map_map]
  exact congrArg (o.fault?.map ·) (funext Fault.kind_unplaced)

/-- The outcome of a template, places left aside, depends on its tokens and on its error, place left
aside. -/
theorem Template.unplaced_apply (s : Settings) (f : Template) (c : Cursor) :
    (f.apply s c).unplaced
      = ⟨(renderTokens s f.tokens c).written, (renderTokens s f.tokens c).cursor,
          ((renderTokens s f.tokens c).fault?.map Fault.unplaced).or
            (if (s .strict).truthy then (f.error?.map ParseError.unplaced).map Fault.malformed
              else none),
          if (renderTokens s f.tokens c).fault?.isSome ∨ (s .strict).truthy = true then []
            else (f.error?.map ParseError.unplaced).toList⟩ := by
  rw [Outcome.unplaced, written_apply, cursor_apply, map_fault?_apply fun _ => rfl, map_log_apply]

/-! ## Reading respelled texts -/

/-- Two tokens **match** if they are the same literal, or directives that are related. -/
inductive Token.Matches (S : Directive → Directive → Prop) : Token → Token → Prop where
  /-- The same literal. -/
  | literal (run : Text) : Matches S (literal run) (literal run)
  /-- Directives that are related. -/
  | directive {o p : Occurrence} (related : S o.directive p.directive) :
      Matches S (directive o) (directive p)

/-- Spellings related by `R` **stand for** directives related by `S` if valid spellings are related to
valid ones only, and each two stand for related directives or both have too many digits. -/
def StandFor (R : Spelling → Spelling → Prop) (S : Directive → Directive → Prop) : Prop :=
  ∀ a b, a.Valid → R a b → b.Valid ∧ Option.Rel S a.directive? b.directive?

namespace Respelled

variable {R : Spelling → Spelling → Prop} {S : Directive → Directive → Prop} {t u : Text}

/-- **Reading a respelled text.** The tokens match, and reading stops in the same way. -/
theorem readFrom (stand : StandFor R S) (same : Respelled R t u) (template other : Text)
    (offset place : Nat) :
    List.Forall₂ (Token.Matches S) (readFrom template offset t).tokens
        (readFrom other place u).tokens
      ∧ (readFrom other place u).stop.unplaced = (readFrom template offset t).stop.unplaced := by
  induction same generalizing offset place with
  | @rest t nothing =>
    by_cases empty : t = []
    · rw [empty, readFrom_nil, readFrom_nil]
      exact ⟨.nil, rfl⟩
    · rw [readFrom_of_none empty nothing, readFrom_of_none empty nothing]
      exact ⟨.nil, rfl⟩
  | @literal run t u nonempty inside outside behind ih =>
    -- the respelled rest starts like the rest, so it does not continue the literal
    have outside' : StartsOutside isPlain u := by
      rw [StartsOutside, behind.head?]
      exact outside
    rw [readFrom_literal_append nonempty inside outside,
      readFrom_literal_append nonempty inside outside']
    obtain ⟨tokens, stop⟩ := ih (offset + run.length) (place + run.length)
    exact ⟨.cons (.literal run) tokens, stop⟩
  | @directive a b t u valid related behind ih =>
    obtain ⟨valid', directives⟩ := stand a b valid related
    -- both spellings are read as directives, or both stop reading
    generalize known : a.directive? = first, known' : b.directive? = second at directives
    cases directives with
    | none =>
      rw [readFrom_tooManyDigits_append valid known, readFrom_tooManyDigits_append valid' known']
      exact ⟨.nil, rfl⟩
    | some rel =>
      rw [readFrom_directive_append valid known, readFrom_directive_append valid' known']
      obtain ⟨tokens, stop⟩ := ih (offset + a.text.length) (place + b.text.length)
      exact ⟨.cons (.directive rel) tokens, stop⟩

/-- Where a text is read as a template, a respelled text is read as one with matching tokens, and
with an error for the same reason, if any. -/
theorem ofText_eq_ok (stand : StandFor R S) (same : Respelled R t u) {f : Template}
    (read : Template.ofText t = .ok f) :
    ∃ g, Template.ofText u = .ok g ∧ List.Forall₂ (Token.Matches S) f.tokens g.tokens
      ∧ g.error?.map ParseError.unplaced = f.error?.map ParseError.unplaced := by
  obtain ⟨tokens, stop⟩ := same.readFrom stand t u 0 0
  have reading : PercentFormat.readFrom t 0 t = _ := (Template.ofText_eq_ok_iff.1 read).2
  rw [reading] at tokens stop
  obtain ⟨error?, ended, errors⟩ := Stop.exists_ofError? stop
  have reading' : readTemplate u = ⟨(readTemplate u).tokens, .ofError? error?⟩ := by
    rw [← ended]
    rfl
  exact ⟨⟨u, _, error?⟩, Template.ofText_eq_ok_iff.2 ⟨rfl, reading'⟩, tokens, errors⟩

/-- Where a text cannot be read as a template, neither can a respelled text. -/
theorem ofText_eq_error (stand : StandFor R S) (same : Respelled R t u) {fault : Fault}
    (unread : Template.ofText t = .error fault) : Template.ofText u = .error fault := by
  obtain ⟨rfl, stop⟩ := Template.ofText_eq_error_iff_stop.1 unread
  have alike := (same.readFrom stand t u 0 0).2
  rw [show (PercentFormat.readFrom t 0 t).stop = _ from stop] at alike
  exact Template.ofText_eq_error_iff_stop.2 ⟨rfl, Stop.eq_tooManyDigits alike⟩

/-- **Applying a respelled template.** Let the directives that stand in one place be rendered alike
under two settings in which `strict` counts for the same. Then the respelled template writes the
same texts, consumes as many arguments, ends in the same fault, if any, and reports the same, apart
from the places of errors. -/
theorem apply (stand : StandFor R S) (same : Respelled R t u) {s r : Settings}
    (strict : (r .strict).truthy = (s .strict).truthy)
    (alike : ∀ o, .directive o ∈ (readTemplate t).tokens → ∀ d, S o.directive d →
      o.directive.render s = d.render r) (c : Cursor) :
    ((Source.text u).apply r c).unplaced = ((Source.text t).apply s c).unplaced := by
  cases read : Template.ofText t with
  | error fault =>
    rw [Source.apply_text_of_error read,
      Source.apply_text_of_error (same.ofText_eq_error stand read)]
  | ok f =>
    obtain ⟨g, read', tokens, errors⟩ := same.ofText_eq_ok stand read
    have reading := (Template.ofText_eq_ok_iff.1 read).2
    have rendered : renderTokens s f.tokens c = renderTokens r g.tokens c := by
      refine renderTokens_alike ?_ c
      -- what is known of directives is known of those of the template only
      have members := (List.forall₂_and_left _ _).2 ⟨fun token member => member, tokens⟩
      refine members.imp fun token other ⟨member, matched⟩ => ?_
      cases matched with
      | literal run => rfl
      | directive related =>
        rw [reading] at alike
        exact alike _ member _ related
    rw [Source.apply_text read, Source.apply_text read', Template.unplaced_apply,
      Template.unplaced_apply, rendered, errors, strict]

end Respelled

end PercentFormat
