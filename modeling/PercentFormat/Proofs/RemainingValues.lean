import PercentFormat.Proofs.Demand

/-! # Text as a function of the values that are left

What tokens are rendered to depends on a cursor by the values that it has left, and not by its place
or by the values that were consumed before. So the text of tokens is a function of a list of values,
from the front of which each directive takes those that it demands.

* **`Cursor.left`** — the values that a cursor has left.
* **`textFor`** — the text of tokens for the values that are left, or the fault that stops them.
* **`result_renderTokens`** — rendering ends in this text, or in this fault. -/

namespace PercentFormat

namespace Cursor

/-- The values that have not been consumed. -/
def left (c : Cursor) : List Value := c.items.toList.drop c.consumed

/-- Places count from the values that are left. -/
theorem valueAt_add (c : Cursor) (i : Nat) :
    c.valueAt (c.consumed + i) = c.left.getD i .missing := by
  rw [valueAt, left, List.getD_eq_getElem?_getD, List.getElem?_drop, Array.getElem?_toList]

/-- A cursor that is moved has fewer values left. -/
theorem left_advance (c : Cursor) (n : Nat) : (c.advance n).left = c.left.drop n := by
  rw [left, left, List.drop_drop]
  change c.items.toList.drop (min c.items.size (c.consumed + n)) = _
  rcases Nat.le_total (c.consumed + n) c.items.size with within | beyond
  · rw [Nat.min_eq_right within]
  · rw [Nat.min_eq_left beyond, List.drop_of_length_le (by simp),
      List.drop_of_length_le (by simpa using beyond)]

/-- A cursor in front of all values has all of them left. -/
theorem left_ofList (values : List Value) : (ofList values).left = values := by
  simp [left, ofList]

end Cursor

/-- The text of a directive for the values that are left: its width, its precision and its own value
in order. -/
def Directive.fieldFor (s : Settings) (d : Directive) (values : List Value) : Except Fault Text :=
  d.field s (values.getD 0 .missing) (values.getD d.width.demand .missing)
    (values.getD (d.width.demand + d.precision.demand) .missing)

/-- The text of tokens for the values that are left, or the fault that stops them. -/
def textFor (s : Settings) : List Token → List Value → Except Fault Text
  | [], _ => .ok []
  | .literal run :: rest, values => (textFor s rest values).map (run ++ ·)
  | .directive o :: rest, values => do
    let text ← o.directive.fieldFor s values
    (textFor s rest (values.drop o.directive.demand)).map (text ++ ·)

/-- What rendering ends in: the text, or a fault. -/
def Progress.result (p : Progress) : Except Fault Text :=
  match p.fault? with
  | none => .ok p.text
  | some fault => .error fault

/-- Rendering a directive is its field for the values that are left. -/
theorem Directive.fst_run_render (s : Settings) (d : Directive) (c : Cursor) :
    ((d.render s).run c).1 = d.fieldFor s c.left := by
  rw [run_render, fieldFor, ← c.valueAt_add, ← c.valueAt_add, ← c.valueAt_add, Nat.add_zero,
    Nat.add_assoc]

/-- A text in front of what is rendered. -/
theorem Progress.result_cons (text : Text) (p : Progress) :
    Progress.result ⟨text :: p.written, p.cursor, p.fault?⟩ = p.result.map (text ++ ·) := by
  rw [result, result]
  cases p.fault? <;> rfl

/-- **Rendering tokens** ends in their text for the values that are left. -/
theorem result_renderTokens (s : Settings) (tokens : List Token) (c : Cursor) :
    (renderTokens s tokens c).result = textFor s tokens c.left := by
  induction tokens generalizing c with
  | nil => rfl
  | cons token rest ih =>
    cases token with
    | literal run =>
      rw [renderTokens_cons_of_ok rest (Token.run_render_literal s run c), Progress.result_cons, ih,
        textFor]
    | directive o =>
      have field := o.directive.fst_run_render s c
      rw [textFor, ← field]
      rcases Token.run_cases s (.directive o) c with ⟨text, c', run⟩ | ⟨fault, c', run⟩
      · rw [renderTokens_cons_of_ok rest run, Progress.result_cons, ih, Token.cursor_of_ok run,
          c.left_advance]
        rw [Token.render] at run
        rw [run]
        rfl
      · rw [renderTokens_cons_of_error rest run]
        rw [Token.render] at run
        rw [run]
        rfl

end PercentFormat
