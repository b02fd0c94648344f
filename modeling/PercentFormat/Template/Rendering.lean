import PercentFormat.Conversion
import PercentFormat.Cursor
import PercentFormat.Template

/-! # Applying templates

The tokens of a template are rendered in order. Each directive takes its arguments from a
cursor: first a width and a precision that are left to arguments, then its own value.

* **`Rendering`** — a computation that consumes arguments and may end in a fault.
* **`Directive.render`** — the text of one directive.
* **`Progress`** — what has been written when the tokens are rendered or a fault has stopped
  them, with **`renderTokens`**.
* **`Template.apply`** — applies a template, and refuses or reports its malformed rest. -/

namespace PercentFormat

/-- A computation that consumes arguments and may end in a fault. What has been consumed stays
consumed after a fault. -/
abbrev Rendering := ExceptT Fault (StateM Cursor)

namespace Rendering

/-- A result that takes no arguments. -/
def ofExcept {α : Type} (r : Except Fault α) : Rendering α := ExceptT.mk (pure r)

/-- Consumes the next argument. -/
def argument : Rendering Value := do
  let c ← get
  set c.next.2
  return c.next.1

variable {α β : Type}

/-- A result consumes nothing. -/
theorem run_pure (a : α) (c : Cursor) : (pure a : Rendering α).run c = (.ok a, c) := rfl

/-- A result that takes no arguments consumes nothing. -/
theorem run_ofExcept (r : Except Fault α) (c : Cursor) : (ofExcept r).run c = (r, c) := rfl

/-- The next argument is handed out by the cursor. -/
theorem run_argument (c : Cursor) : argument.run c = (.ok c.next.1, c.next.2) := rfl

/-- Behind a computation that ends without a fault the next one goes on. -/
theorem run_bind_of_ok {x : Rendering α} {f : α → Rendering β} {a : α} {c c' : Cursor}
    (h : x.run c = (.ok a, c')) : (x >>= f).run c = (f a).run c' := by
  change (ExceptT.bindCont f (x.run c).1 : StateM Cursor _) (x.run c).2 = _
  rw [h]
  rfl

/-- A fault keeps the next computation from being run. -/
theorem run_bind_of_error {x : Rendering α} {f : α → Rendering β} {fault : Fault}
    {c c' : Cursor} (h : x.run c = (.error fault, c')) :
    (x >>= f).run c = (.error fault, c') := by
  change (ExceptT.bindCont f (x.run c).1 : StateM Cursor _) (x.run c).2 = _
  rw [h]
  rfl

end Rendering

/-- The number of a width or a precision, from the directive or from the next argument. -/
def Parameter.resolve : Parameter → Rendering (Option Int)
  | absent => return none
  | given n => return some n
  | fromArgument => do
    let v ← Rendering.argument
    return some (← Rendering.ofExcept v.toInteger)

namespace Directive

/-- The converted value of a directive that writes one. -/
def convertArgument (s : Settings) (d : Directive) (precision : Option Int) :
    Rendering Pieces := do
  match d.specifier.role with
  | .percent => return Pieces.ofBody ['%']
  | .character => do
    let v ← Rendering.argument
    return Pieces.ofBody ((← Rendering.ofExcept v.toText).take 1)
  | .text => do
    let v ← Rendering.argument
    return Pieces.ofBody (← Rendering.ofExcept v.toText)
  | .number form => do
    let v ← Rendering.argument
    Rendering.ofExcept (v.pieces s form d.flags (precision.map Value.whole))
  | .ignored => do
    let _ ← Rendering.argument
    return Pieces.ofBody []

/-- The text of a directive. A negative precision counts as absent. A directive whose argument
is ignored writes nothing, however wide it is. -/
def render (s : Settings) (d : Directive) : Rendering Text := do
  -- a width comes before a precision, and both before the value
  let width ← d.width.resolve
  let precision ← d.precision.resolve
  let pieces ← d.convertArgument s (precision.filter (0 ≤ ·))
  if d.specifier.role = .ignored then return []
  else Rendering.ofExcept (pieces.justify d.flags (width.getD 0))

end Directive

/-- The text of a token. -/
def Token.render (s : Settings) : Token → Rendering Text
  | literal text => return text
  | directive occurrence => occurrence.directive.render s

/-- A literal is written as it is and consumes nothing. -/
theorem Token.run_render_literal (s : Settings) (run : Text) (c : Cursor) :
    ((literal run).render s).run c = (.ok run, c) := rfl

/-- A token is rendered, or it ends in a fault. -/
theorem Token.run_cases (s : Settings) (token : Token) (c : Cursor) :
    (∃ text c', (token.render s).run c = (.ok text, c'))
      ∨ ∃ fault c', (token.render s).run c = (.error fault, c') := by
  obtain ⟨result, c'⟩ := (token.render s).run c
  cases result with
  | ok text => exact .inl ⟨text, c', rfl⟩
  | error fault => exact .inr ⟨fault, c', rfl⟩

/-- How far a list of tokens has been rendered. -/
structure Progress where
  /-- The texts of the tokens that have been rendered, in order. -/
  written : List Text
  /-- The cursor behind the arguments that have been consumed. -/
  cursor : Cursor
  /-- The fault that stopped rendering, if any. -/
  fault? : Option Fault

/-- The text that has been written. -/
def Progress.text (p : Progress) : Text := p.written.flatten

/-- Renders tokens in order, up to the first one that ends in a fault. -/
def renderTokens (s : Settings) : List Token → Cursor → Progress
  | [], c => ⟨[], c, none⟩
  | token :: rest, c =>
    match (token.render s).run c with
    | (.ok text, c) =>
      let p := renderTokens s rest c
      ⟨text :: p.written, p.cursor, p.fault?⟩
    | (.error fault, c) => ⟨[], c, some fault⟩

/-- Without tokens nothing is written. -/
@[simp] theorem renderTokens_nil (s : Settings) (c : Cursor) :
    renderTokens s [] c = ⟨[], c, none⟩ := rfl

/-- A token that is rendered comes in front of what the others write. -/
theorem renderTokens_cons_of_ok {s : Settings} {token : Token} {c c' : Cursor} {text : Text}
    (rest : List Token) (h : (token.render s).run c = (.ok text, c')) :
    renderTokens s (token :: rest) c
      = ⟨text :: (renderTokens s rest c').written, (renderTokens s rest c').cursor,
          (renderTokens s rest c').fault?⟩ := by
  simp only [renderTokens, h]

/-- A token that ends in a fault writes nothing, and no token behind it is rendered. -/
theorem renderTokens_cons_of_error {s : Settings} {token : Token} {c c' : Cursor}
    {fault : Fault} (rest : List Token) (h : (token.render s).run c = (.error fault, c')) :
    renderTokens s (token :: rest) c = ⟨[], c', some fault⟩ := by
  simp only [renderTokens, h]

/-- Without a fault the first token is rendered, and the others behind it. -/
theorem run_of_renderTokens_cons {s : Settings} {token : Token} {rest : List Token} {c : Cursor}
    (h : (renderTokens s (token :: rest) c).fault? = none) :
    ∃ text c', (token.render s).run c = (.ok text, c')
      ∧ (renderTokens s rest c').fault? = none := by
  rcases token.run_cases s c with ⟨text, c', run⟩ | ⟨fault, c', run⟩
  · rw [renderTokens_cons_of_ok rest run] at h
    exact ⟨text, c', run, h⟩
  · rw [renderTokens_cons_of_error rest run] at h
    contradiction

/-- Tokens that are rendered without a fault are followed by the rest of the list. -/
theorem renderTokens_append_of_none {s : Settings} {c : Cursor} (first rest : List Token)
    (h : (renderTokens s first c).fault? = none) :
    renderTokens s (first ++ rest) c
      = ⟨(renderTokens s first c).written
            ++ (renderTokens s rest (renderTokens s first c).cursor).written,
          (renderTokens s rest (renderTokens s first c).cursor).cursor,
          (renderTokens s rest (renderTokens s first c).cursor).fault?⟩ := by
  induction first generalizing c with
  | nil => rfl
  | cons token first ih =>
    obtain ⟨text, c', run, others⟩ := run_of_renderTokens_cons h
    rw [List.cons_append, renderTokens_cons_of_ok (first ++ rest) run,
      renderTokens_cons_of_ok first run, ih others]
    rfl

/-- A fault in the first tokens keeps the rest of the list from being rendered. -/
theorem renderTokens_append_of_some {s : Settings} {c : Cursor} {fault : Fault}
    (first rest : List Token) (h : (renderTokens s first c).fault? = some fault) :
    renderTokens s (first ++ rest) c = renderTokens s first c := by
  induction first generalizing c with
  | nil => simp at h
  | cons token first ih =>
    rcases token.run_cases s c with ⟨text, c', run⟩ | ⟨arisen, c', run⟩
    · rw [renderTokens_cons_of_ok first run] at h
      rw [List.cons_append, renderTokens_cons_of_ok (first ++ rest) run,
        renderTokens_cons_of_ok first run, ih h]
    · rw [List.cons_append, renderTokens_cons_of_error (first ++ rest) run,
        renderTokens_cons_of_error first run]

/-- The effect of applying a template. -/
structure Outcome where
  /-- The texts that have been written, in order. -/
  written : List Text
  /-- The cursor behind the arguments that have been consumed. -/
  cursor : Cursor
  /-- The fault that the application ended in, if any. -/
  fault? : Option Fault
  /-- The errors of templates that were cut off without being refused. -/
  log : List ParseError

/-- All that has been written, as one text. -/
def Outcome.text (o : Outcome) : Text := o.written.flatten

/-- Applies a template. When all its tokens are rendered and it is malformed behind them, it is
refused if the variable `strict` counts as true, and otherwise the error is reported. -/
def Template.apply (s : Settings) (t : Template) (c : Cursor) : Outcome :=
  let p := renderTokens s t.tokens c
  match p.fault?, t.error? with
  | some fault, _ => ⟨p.written, p.cursor, some fault, []⟩
  | none, none => ⟨p.written, p.cursor, none, []⟩
  | none, some error =>
    if (s .strict).truthy then ⟨p.written, p.cursor, some (.malformed error), []⟩
    else ⟨p.written, p.cursor, none, [error]⟩

namespace Template

/-- What a template writes is what its tokens write. -/
@[simp] theorem written_apply (s : Settings) (t : Template) (c : Cursor) :
    (t.apply s c).written = (renderTokens s t.tokens c).written := by
  unfold apply
  dsimp only
  split
  · rfl
  · rfl
  · split <;> rfl

/-- The text of a template is that of its tokens. -/
theorem text_apply (s : Settings) (f : Template) (c : Cursor) :
    (f.apply s c).text = (renderTokens s f.tokens c).text := by
  rw [Outcome.text, written_apply, Progress.text]

/-- What a template consumes is what its tokens consume. -/
@[simp] theorem cursor_apply (s : Settings) (t : Template) (c : Cursor) :
    (t.apply s c).cursor = (renderTokens s t.tokens c).cursor := by
  unfold apply
  dsimp only
  split
  · rfl
  · rfl
  · split <;> rfl

/-- A fault of a token ends the application. Nothing is reported. -/
theorem apply_of_fault {s : Settings} {t : Template} {c : Cursor} {fault : Fault}
    (h : (renderTokens s t.tokens c).fault? = some fault) :
    (t.apply s c).fault? = some fault ∧ (t.apply s c).log = [] := by
  simp [apply, h]

/-- When the tokens of a template that is not cut off are rendered, it has been applied. -/
theorem apply_of_complete {s : Settings} {t : Template} {c : Cursor}
    (h : (renderTokens s t.tokens c).fault? = none) (complete : t.error? = none) :
    (t.apply s c).fault? = none ∧ (t.apply s c).log = [] := by
  simp [apply, h, complete]

/-- When the tokens of a malformed template are rendered, it is refused if `strict` counts as
true. -/
theorem apply_of_strict {s : Settings} {t : Template} {c : Cursor} {error : ParseError}
    (h : (renderTokens s t.tokens c).fault? = none) (cut : t.error? = some error)
    (strict : (s .strict).truthy = true) :
    (t.apply s c).fault? = some (.malformed error) ∧ (t.apply s c).log = [] := by
  simp [apply, h, cut, strict]

/-- When the tokens of a malformed template are rendered, its error is reported if `strict` does
not count as true. -/
theorem apply_of_not_strict {s : Settings} {t : Template} {c : Cursor} {error : ParseError}
    (h : (renderTokens s t.tokens c).fault? = none) (cut : t.error? = some error)
    (lenient : (s .strict).truthy = false) :
    (t.apply s c).fault? = none ∧ (t.apply s c).log = [error] := by
  simp [apply, h, cut, lenient]

/-- The fault of an application is one of its tokens, or, where `strict` counts as true, the refusal
of a malformed template. -/
theorem fault?_apply (s : Settings) (t : Template) (c : Cursor) :
    (t.apply s c).fault?
      = (renderTokens s t.tokens c).fault?.or
          (if (s .strict).truthy then t.error?.map Fault.malformed else none) := by
  cases rendered : (renderTokens s t.tokens c).fault? with
  | some fault => exact (apply_of_fault rendered).1
  | none =>
    cases cut : t.error? with
    | none => simp [(apply_of_complete rendered cut).1]
    | some error =>
      cases strict : (s .strict).truthy with
      | true => exact (apply_of_strict rendered cut strict).1
      | false => exact (apply_of_not_strict rendered cut strict).1

/-- An application reports the error of its template if no token ends in a fault and `strict` does
not count as true, and nothing otherwise. -/
theorem log_apply (s : Settings) (t : Template) (c : Cursor) :
    (t.apply s c).log
      = if (renderTokens s t.tokens c).fault?.isSome ∨ (s .strict).truthy = true then []
        else t.error?.toList := by
  cases rendered : (renderTokens s t.tokens c).fault? with
  | some fault => simp [(apply_of_fault rendered).2]
  | none =>
    cases cut : t.error? with
    | none => simp [(apply_of_complete rendered cut).2]
    | some error =>
      cases strict : (s .strict).truthy with
      | true => simp [(apply_of_strict rendered cut strict).2]
      | false => simp [(apply_of_not_strict rendered cut strict).2]

/-- Where faults are changed, and refusals by changing their errors, the changed fault of an
application is a changed one of its tokens or the refusal with the changed error. -/
theorem map_fault?_apply {φ : Fault → Fault} {ψ : ParseError → ParseError}
    (refusals : ∀ error, φ (.malformed error) = .malformed (ψ error)) (s : Settings) (t : Template)
    (c : Cursor) :
    (t.apply s c).fault?.map φ
      = ((renderTokens s t.tokens c).fault?.map φ).or
          (if (s .strict).truthy then (t.error?.map ψ).map Fault.malformed else none) := by
  have refused : (t.error?.map Fault.malformed).map φ = (t.error?.map ψ).map Fault.malformed := by
    rw [Option.map_map, Option.map_map]
    exact congrArg (t.error?.map ·) (funext refusals)
  rw [fault?_apply, Option.map_or, apply_ite (Option.map φ), refused, Option.map_none]

/-- Where errors are changed, an application reports the changed error of its template. -/
theorem map_log_apply (ψ : ParseError → ParseError) (s : Settings) (t : Template) (c : Cursor) :
    (t.apply s c).log.map ψ
      = if (renderTokens s t.tokens c).fault?.isSome ∨ (s .strict).truthy = true then []
        else (t.error?.map ψ).toList := by
  have reported : t.error?.toList.map ψ = (t.error?.map ψ).toList := by cases t.error? <;> rfl
  rw [log_apply, apply_ite (List.map ψ), reported, List.map_nil]

end Template

end PercentFormat
