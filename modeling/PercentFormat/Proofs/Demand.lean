import Mathlib
import PercentFormat.Template.Rendering

/-! # What directives take from a cursor

A directive takes a width and a precision that are left to arguments, and then its own value. How
many values it takes does not depend on them, so each directive of a template receives the values
at places that are known beforehand. Behind the last argument every place has a missing value.

* **`Cursor.valueAt`**, **`Cursor.advance`** — the value at a place, and a cursor moved forward.
* **`Directive.field`** — the text of a directive for values that are given outright.
* **`Directive.run_render`** — rendering a directive is its field for the next values, and moves the
  cursor behind those that were taken.
* **`demandOf`** — the number of values that tokens take.
* **`apply_receives`** — what each directive of a template receives, and where the cursor ends. -/

namespace PercentFormat

/-! ## Places of a cursor -/

namespace Cursor

/-- The value at a place of the arguments; behind the last one, a missing value. -/
def valueAt (c : Cursor) (i : Nat) : Value := c.items[i]?.getD .missing

/-- The cursor moved forward, at most behind the last argument. -/
def advance (c : Cursor) (n : Nat) : Cursor :=
  ⟨c.items, min c.items.size (c.consumed + n), Nat.min_le_left _ _⟩

/-- Two cursors over the same arguments at the same place are the same. -/
theorem ext {c d : Cursor} (items : c.items = d.items) (consumed : c.consumed = d.consumed) :
    c = d := by
  cases c
  cases d
  subst items consumed
  rfl

/-- The place of a cursor that has been moved. -/
theorem consumed_advance (c : Cursor) (n : Nat) :
    (c.advance n).consumed = min c.length (c.consumed + n) := rfl

/-- Moving by no value. -/
@[simp] theorem advance_zero (c : Cursor) : c.advance 0 = c := by
  refine ext rfl ?_
  rw [consumed_advance, Nat.add_zero]
  exact Nat.min_eq_right c.consumed_le

/-- Moving twice. -/
@[simp] theorem advance_advance (c : Cursor) (m n : Nat) :
    (c.advance m).advance n = c.advance (m + n) := by
  refine ext rfl ?_
  simp only [advance]
  omega

/-- Behind the last argument there are missing values. -/
theorem valueAt_of_le {c : Cursor} {i : Nat} (h : c.length ≤ i) : c.valueAt i = .missing := by
  rw [valueAt, Array.getElem?_eq_none h]
  rfl

/-- From a cursor that has been moved, places are counted on. -/
theorem valueAt_advance (c : Cursor) (m i : Nat) :
    (c.advance m).valueAt ((c.advance m).consumed + i) = c.valueAt (c.consumed + m + i) := by
  rw [consumed_advance]
  by_cases within : c.consumed + m ≤ c.length
  · rw [Nat.min_eq_right within]
    rfl
  · -- both places are behind the last argument
    have beyond : c.length ≤ c.consumed + m := Nat.le_of_not_le within
    have moved : (c.advance m).valueAt (c.length + i) = .missing :=
      valueAt_of_le (Nat.le_add_right c.length i)
    rw [Nat.min_eq_left beyond, moved, valueAt_of_le (Nat.le_trans beyond (Nat.le_add_right _ i))]

/-- Consuming an argument hands out the value at the place of the cursor and moves it by one. -/
theorem next_eq (c : Cursor) : c.next = (c.valueAt c.consumed, c.advance 1) :=
  Prod.ext c.next_value (ext c.next_items c.next_consumed)

end Cursor

/-! ## Fields -/

/-- The number of values that a width or a precision takes. -/
def Parameter.demand : Parameter → Nat
  | absent => 0
  | given _ => 0
  | fromArgument => 1

/-- The number of a width or a precision for a given value. -/
def Parameter.number : Parameter → Value → Except Fault (Option Int)
  | absent, _ => .ok none
  | given n, _ => .ok (some n)
  | fromArgument, v => v.toInteger.map some

namespace Directive

/-- The number of values that a directive takes for itself. -/
def ownDemand (d : Directive) : Nat := if d.specifier = .percent then 0 else 1

/-- The **demand** of a directive: the number of values that it takes. -/
def demand (d : Directive) : Nat := d.width.demand + d.precision.demand + d.ownDemand

/-- The converted form of a value. -/
def convert (s : Settings) (d : Directive) (precision : Option Int) (v : Value) :
    Except Fault Pieces :=
  match d.specifier.role with
  | .percent => .ok (Pieces.ofBody ['%'])
  | .character => v.toText.map fun t => Pieces.ofBody (t.take 1)
  | .text => v.toText.map Pieces.ofBody
  | .number form => v.pieces s form d.flags (precision.map Value.whole)
  | .ignored => .ok (Pieces.ofBody [])

/-- The converted form of a value, padded to a width. A negative precision counts as absent. -/
def padded (s : Settings) (d : Directive) (width precision : Option Int) (v : Value) :
    Except Fault Text := do
  let pieces ← d.convert s (precision.filter (0 ≤ ·)) v
  if d.specifier.role = .ignored then return []
  else pieces.justify d.flags (width.getD 0)

/-- The text of a directive for a width, a precision and a value of its own. Where the width or
the precision is not left to an argument, the one given here does not matter. -/
def field (s : Settings) (d : Directive) (width precision v : Value) : Except Fault Text := do
  let width ← d.width.number width
  let precision ← d.precision.number precision
  d.padded s width precision v

/-- The number of values that have been taken when a field is written or a fault has arisen: a
width that is no number keeps the others from being taken. -/
def taken (d : Directive) (width precision : Value) : Nat :=
  match d.width.number width, d.precision.number precision with
  | .error _, _ => d.width.demand
  | .ok _, .error _ => d.width.demand + d.precision.demand
  | .ok _, .ok _ => d.demand

end Directive

section Congruence

variable {d : Directive} {v v' : Value}

/-- A width or a precision that takes no value does not depend on one. -/
theorem Parameter.number_congr {p : Parameter} (same : 0 < p.demand → v = v') :
    p.number v = p.number v' := by
  cases p with
  | absent => rfl
  | given n => rfl
  | fromArgument => rw [same Nat.one_pos]

/-- Only the percent sign stands for itself. -/
theorem Specifier.role_eq_percent_iff (s : Specifier) : s.role = .percent ↔ s = .percent := by
  cases s <;> simp [role]

/-- The converted form of a directive that takes no value of its own does not depend on one. -/
theorem Directive.convert_congr (s : Settings) (precision : Option Int)
    (same : 0 < d.ownDemand → v = v') : d.convert s precision v = d.convert s precision v' := by
  by_cases percent : d.specifier = .percent
  · have role : d.specifier.role = .percent := d.specifier.role_eq_percent_iff.2 percent
    simp only [convert, role]
  · have own : d.ownDemand = 1 := by rw [ownDemand, if_neg percent]
    rw [same (by rw [own]; exact Nat.one_pos)]

/-- **A field depends on the values that the directive takes**, and on no others. -/
theorem Directive.field_congr (s : Settings) {width width' precision precision' : Value}
    (first : 0 < d.width.demand → width = width')
    (second : 0 < d.precision.demand → precision = precision')
    (third : 0 < d.ownDemand → v = v') :
    d.field s width precision v = d.field s width' precision' v' := by
  have own (p : Option Int) : d.convert s p v = d.convert s p v' := d.convert_congr s p third
  simp only [field, padded, Parameter.number_congr first, Parameter.number_congr second, own]

end Congruence

/-! ## Rendering a directive -/

namespace Rendering

variable {α β : Type}

/-- The next argument is the value at the place of the cursor. -/
theorem run_bind_argument (f : Value → Rendering β) (c : Cursor) :
    (argument >>= f).run c = (f (c.valueAt c.consumed)).run (c.advance 1) := by
  have handed : argument.run c = (.ok (c.valueAt c.consumed), c.advance 1) := by
    rw [run_argument, c.next_eq]
  exact run_bind_of_ok handed

end Rendering

/-- A width or a precision is the number of the next value, if it takes one. -/
theorem Parameter.run_resolve (p : Parameter) (c : Cursor) :
    p.resolve.run c = (p.number (c.valueAt c.consumed), c.advance p.demand) := by
  cases p with
  | absent => rw [resolve, Rendering.run_pure, number, demand, c.advance_zero]
  | given n => rw [resolve, Rendering.run_pure, number, demand, c.advance_zero]
  | fromArgument =>
    rw [resolve, Rendering.run_bind_argument, number, demand]
    cases (c.valueAt c.consumed).toInteger with
    | error fault => rfl
    | ok n => rfl

namespace Directive

/-- The converted form of a directive is that of the next value, if it takes one. -/
theorem run_convertArgument (s : Settings) (d : Directive) (precision : Option Int) (c : Cursor) :
    (d.convertArgument s precision).run c
      = (d.convert s precision (c.valueAt c.consumed), c.advance d.ownDemand) := by
  have own : d.ownDemand = if d.specifier.role = .percent then 0 else 1 := by
    simp only [ownDemand, Specifier.role_eq_percent_iff]
  rw [own, convertArgument, convert]
  cases d.specifier.role with
  | percent => rw [if_pos rfl, c.advance_zero, Rendering.run_pure]
  | ignored => rw [Rendering.run_bind_argument]; rfl
  | number form =>
    rw [Rendering.run_bind_argument, Rendering.run_ofExcept]
    rfl
  | character =>
    rw [Rendering.run_bind_argument]
    cases (c.valueAt c.consumed).toText <;> rfl
  | text =>
    rw [Rendering.run_bind_argument]
    cases (c.valueAt c.consumed).toText <;> rfl

/-- **Rendering a directive.** Its text is the field for the next values, in order the width, the
precision and the directive's own value, and the cursor moves behind those that were taken. -/
theorem run_render (s : Settings) (d : Directive) (c : Cursor) :
    (d.render s).run c
      = (d.field s (c.valueAt c.consumed) (c.valueAt (c.consumed + d.width.demand))
          (c.valueAt (c.consumed + d.width.demand + d.precision.demand)),
        c.advance (d.taken (c.valueAt c.consumed) (c.valueAt (c.consumed + d.width.demand)))) := by
  -- each of the three steps goes on from the place where the one before it has left the cursor
  have first := d.width.run_resolve c
  have second := d.precision.run_resolve (c.advance d.width.demand)
  have place : (c.advance d.width.demand).valueAt (c.advance d.width.demand).consumed
      = c.valueAt (c.consumed + d.width.demand) := c.valueAt_advance d.width.demand 0
  rw [place, c.advance_advance] at second
  rw [render, field, taken]
  generalize c.valueAt c.consumed = width at first ⊢
  generalize c.valueAt (c.consumed + d.width.demand) = precision at second ⊢
  generalize d.width.number width = resolvedWidth at first ⊢
  generalize d.precision.number precision = resolvedPrecision at second ⊢
  cases resolvedWidth with
  | error fault => rw [Rendering.run_bind_of_error first]; rfl
  | ok width =>
    rw [Rendering.run_bind_of_ok first]
    cases resolvedPrecision with
    | error fault => rw [Rendering.run_bind_of_error second]; rfl
    | ok precision =>
      rw [Rendering.run_bind_of_ok second]
      have third := d.run_convertArgument s (precision.filter (0 ≤ ·))
        (c.advance (d.width.demand + d.precision.demand))
      have own : (c.advance (d.width.demand + d.precision.demand)).valueAt
            (c.advance (d.width.demand + d.precision.demand)).consumed
          = c.valueAt (c.consumed + d.width.demand + d.precision.demand) := by
        rw [Nat.add_assoc c.consumed]
        exact c.valueAt_advance (d.width.demand + d.precision.demand) 0
      rw [own, c.advance_advance] at third
      generalize c.valueAt (c.consumed + d.width.demand + d.precision.demand) = v at third ⊢
      change _ = (d.padded s width precision v, c.advance d.demand)
      rw [padded]
      generalize d.convert s (precision.filter (0 ≤ ·)) v = converted at third ⊢
      cases converted with
      | error fault => rw [Rendering.run_bind_of_error third]; rfl
      | ok pieces =>
        rw [Rendering.run_bind_of_ok third]
        by_cases ignored : d.specifier.role = .ignored
        · simp only [if_pos ignored]
          rfl
        · simp only [if_neg ignored]
          rfl

/-- A field is written when its width and its precision are numbers and the rest is padded. -/
theorem field_eq_ok_iff {s : Settings} {d : Directive} {width precision v : Value} {text : Text} :
    d.field s width precision v = .ok text
      ↔ ∃ w, d.width.number width = .ok w ∧ ∃ p, d.precision.number precision = .ok p
        ∧ d.padded s w p v = .ok text := by
  simp only [field, bind_eq_ok_iff]

/-- A field that is written has taken its whole demand. -/
theorem taken_of_field_eq_ok {s : Settings} {d : Directive} {width precision v : Value}
    {text : Text} (h : d.field s width precision v = .ok text) :
    d.taken width precision = d.demand := by
  obtain ⟨w, first, p, second, -⟩ := field_eq_ok_iff.1 h
  rw [taken, first, second]

/-- A directive whose argument is ignored writes nothing. -/
theorem eq_nil_of_ignored {s : Settings} {d : Directive} {width precision v : Value} {text : Text}
    (ignored : d.specifier.role = .ignored) (h : d.field s width precision v = .ok text) :
    text = [] := by
  obtain ⟨w, -, p, -, rest⟩ := field_eq_ok_iff.1 h
  obtain ⟨pieces, -, last⟩ := bind_eq_ok_iff.1 rest
  rw [if_pos ignored] at last
  exact (Except.ok.inj last).symm

end Directive

/-! ## Rendering tokens -/

/-- The number of values that a token takes. -/
def Token.demand : Token → Nat
  | literal _ => 0
  | directive occurrence => occurrence.directive.demand

/-- The number of values that tokens take. -/
def demandOf (tokens : List Token) : Nat := (tokens.map Token.demand).sum

/-- A token and others take the sum of what they take. -/
@[simp] theorem demandOf_cons (token : Token) (tokens : List Token) :
    demandOf (token :: tokens) = token.demand + demandOf tokens := by
  simp [demandOf]

/-- A token that is rendered moves the cursor by its demand. -/
theorem Token.cursor_of_ok {s : Settings} {token : Token} {c c' : Cursor} {text : Text}
    (h : (token.render s).run c = (.ok text, c')) : c' = c.advance token.demand := by
  cases token with
  | literal run =>
    obtain ⟨-, rfl⟩ := Prod.mk.inj h
    exact c.advance_zero.symm
  | directive o =>
    rw [Token.render, Directive.run_render] at h
    obtain ⟨field, rfl⟩ := Prod.mk.inj h
    rw [Directive.taken_of_field_eq_ok field]
    rfl

/-- Tokens that are rendered without a fault move the cursor by their demand. -/
theorem cursor_renderTokens {s : Settings} {tokens : List Token} {c : Cursor}
    (h : (renderTokens s tokens c).fault? = none) :
    (renderTokens s tokens c).cursor = c.advance (demandOf tokens) := by
  induction tokens generalizing c with
  | nil => exact c.advance_zero.symm
  | cons token rest ih =>
    obtain ⟨text, c', run, others⟩ := run_of_renderTokens_cons h
    rw [renderTokens_cons_of_ok rest run, demandOf_cons, ← c.advance_advance,
      ← Token.cursor_of_ok run]
    exact ih others

/-- Tokens that are rendered without a fault write one text each. -/
theorem length_written {s : Settings} {tokens : List Token} {c : Cursor}
    (h : (renderTokens s tokens c).fault? = none) :
    (renderTokens s tokens c).written.length = tokens.length := by
  induction tokens generalizing c with
  | nil => rfl
  | cons token rest ih =>
    obtain ⟨text, c', run, others⟩ := run_of_renderTokens_cons h
    rw [renderTokens_cons_of_ok rest run, List.length_cons, List.length_cons, ih others]

/-- Tokens in front of others are rendered without a fault if all of them are. -/
theorem fault?_of_append {s : Settings} {before behind : List Token} {c : Cursor}
    (h : (renderTokens s (before ++ behind) c).fault? = none) :
    (renderTokens s before c).fault? = none := by
  cases fault : (renderTokens s before c).fault? with
  | none => rfl
  | some arisen =>
    rw [renderTokens_append_of_some before behind fault, fault] at h
    contradiction

/-- A token between others is rendered from the place behind what those in front of it took. -/
theorem exists_run_of_append {s : Settings} {before behind : List Token} {token : Token}
    {c : Cursor} (h : (renderTokens s (before ++ token :: behind) c).fault? = none) :
    ∃ text, (token.render s).run (c.advance (demandOf before))
        = (.ok text, c.advance (demandOf before + token.demand))
      ∧ (renderTokens s (before ++ token :: behind) c).written[before.length]? = some text := by
  have first := fault?_of_append h
  rw [renderTokens_append_of_none before _ first, cursor_renderTokens first] at h ⊢
  obtain ⟨text, c', run, -⟩ := run_of_renderTokens_cons h
  refine ⟨text, by rw [run, Token.cursor_of_ok run, c.advance_advance], ?_⟩
  rw [renderTokens_cons_of_ok behind run, ← length_written first]
  simp

/-- **What the directives of a template receive.** An application without a fault keeps the
arguments and moves the cursor by the demand of all directives. Each directive receives the values
behind those that the directives in front of it took: first its width, then its precision, then its
own value. -/
theorem apply_receives {s : Settings} {t : Template} {c : Cursor}
    (returns : (t.apply s c).fault? = none) :
    (t.apply s c).cursor.items = c.items
      ∧ (t.apply s c).cursor.consumed = min c.length (c.consumed + demandOf t.tokens)
      ∧ (∀ before run behind, t.tokens = before ++ .literal run :: behind →
        (t.apply s c).written[before.length]? = some run)
      ∧ ∀ before o behind, t.tokens = before ++ .directive o :: behind →
        ∃ text, (t.apply s c).written[before.length]? = some text
          ∧ o.directive.field s (c.valueAt (c.consumed + demandOf before))
              (c.valueAt (c.consumed + demandOf before + o.directive.width.demand))
              (c.valueAt (c.consumed + demandOf before + o.directive.width.demand
                + o.directive.precision.demand)) = .ok text
          ∧ (o.directive.specifier.role = .ignored → text = []) := by
  have none : (renderTokens s t.tokens c).fault? = none := by
    cases fault : (renderTokens s t.tokens c).fault? with
    | none => rfl
    | some f =>
      rw [(Template.apply_of_fault fault).1] at returns
      contradiction
  rw [Template.cursor_apply, Template.written_apply, cursor_renderTokens none]
  refine ⟨rfl, rfl, fun before run behind same => ?_, fun before o behind same => ?_⟩
  · rw [same] at none ⊢
    obtain ⟨text, rendered, written⟩ := exists_run_of_append none
    obtain ⟨literal, -⟩ := Prod.mk.inj rendered
    obtain rfl := Except.ok.inj literal
    exact written
  · rw [same] at none ⊢
    obtain ⟨text, rendered, written⟩ := exists_run_of_append none
    rw [Token.render, Directive.run_render] at rendered
    obtain ⟨field, -⟩ := Prod.mk.inj rendered
    have place := c.valueAt_advance (demandOf before)
    rw [Nat.add_assoc (c.advance _).consumed, place,
      show (c.advance (demandOf before)).valueAt (c.advance (demandOf before)).consumed
        = c.valueAt (c.consumed + demandOf before) from place 0, place,
      ← Nat.add_assoc] at field
    exact ⟨text, written, field, fun ignored => Directive.eq_nil_of_ignored ignored field⟩

/-- Values for a width, a precision, a text and a count. The last directive finds none. -/
theorem apply_receives_dynamic_width :
    let noFlags := Flags.ofText []
    let first : Occurrence := ⟨⟨noFlags, .fromArgument, .fromArgument, none, .string⟩,
      Text.ofString "%*.*s", 0, 5⟩
    let second : Occurrence := ⟨⟨noFlags, .absent, .absent, none, .count⟩, Text.ofString "%n", 5, 7⟩
    let third : Occurrence := ⟨⟨noFlags, .absent, .absent, none, .string⟩, Text.ofString "%s", 7, 9⟩
    let t : Template := ⟨Text.ofString "%*.*s%n%s",
      [.directive first, .directive second, .directive third], none⟩
    let c := Cursor.ofList [.whole 3, .whole 1, .text ['x'], .null]
    Template.ofText (Text.ofString "%*.*s%n%s") = .ok t
      ∧ (t.apply Settings.initial c).fault? = none
      ∧ (t.apply Settings.initial c).cursor.consumed = 4
      ∧ (t.apply Settings.initial c).written = [[' ', ' ', 'x'], [], []]
      ∧ first.directive.field Settings.initial (.whole 3) (.whole 1) (.text ['x'])
        = .ok [' ', ' ', 'x']
      ∧ third.directive.field Settings.initial .missing .missing .missing = .ok [] := by
  intro noFlags first second third t c
  have returns : (t.apply Settings.initial c).fault? = none := rfl
  obtain ⟨-, consumed, -, receives⟩ := apply_receives returns
  obtain ⟨text, written, field, -⟩ := receives [] first [.directive second, .directive third] rfl
  obtain ⟨last, written', field', -⟩ := receives [.directive first, .directive second] third [] rfl
  refine ⟨by cbv, returns, consumed, rfl, ?_, ?_⟩
  · obtain rfl : [' ', ' ', 'x'] = text := Option.some.inj written
    exact field
  · obtain rfl : [] = last := Option.some.inj written'
    exact field'

end PercentFormat
