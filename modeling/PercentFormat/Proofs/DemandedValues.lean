import PercentFormat.Proofs.Demand

/-! # The values that a template depends on

A template depends on the values that its directives demand, and on no others. Where a list of
arguments ends too early, the missing values may as well be given as such, and what stands behind
the demanded values is never looked at.

* **`Cursor.AgreeFor`** — two cursors hand out the same next values.
* **`Directive.run_render_agree`** — a directive is rendered alike for cursors that agree for its
  demand.
* **`renderTokens_agree`** — so are tokens, also where a fault stops them.
* **`apply_demanded`** — what the arguments of an application may be replaced by. -/

namespace PercentFormat

/-! ## Cursors that agree -/

namespace Cursor

/-- Two cursors **agree for** a number of values if the next ones that they hand out are the
same. -/
def AgreeFor (n : Nat) (c d : Cursor) : Prop :=
  ∀ i < n, c.valueAt (c.consumed + i) = d.valueAt (d.consumed + i)

namespace AgreeFor

variable {c d : Cursor} {m n : Nat}

/-- Cursors that agree for some values agree for fewer ones. -/
theorem le (agree : AgreeFor n c d) (fewer : m ≤ n) : AgreeFor m c d := fun i below =>
  agree i (Nat.lt_of_lt_of_le below fewer)

/-- Behind some of the values that they agree for, cursors agree for the others. -/
theorem advance (agree : AgreeFor (m + n) c d) : AgreeFor n (c.advance m) (d.advance m) := by
  intro i below
  rw [valueAt_advance, valueAt_advance, Nat.add_assoc, Nat.add_assoc]
  exact agree (m + i) (Nat.add_lt_add_left below m)

/-- Cursors that agree for a value hand out the same one next. -/
theorem head (agree : AgreeFor n c d) (more : 0 < n) :
    c.valueAt c.consumed = d.valueAt d.consumed := agree 0 more

end AgreeFor

/-- In front of all arguments, the next values are the arguments, and missing ones behind them. -/
theorem valueAt_ofList (values : List Value) (i : Nat) :
    (ofList values).valueAt ((ofList values).consumed + i) = values.getD i .missing := by
  rw [ofList, valueAt, Nat.zero_add, List.getElem?_toArray, List.getD_eq_getElem?_getD]

end Cursor

/-! ## Rendering for cursors that agree -/

/-- A directive is rendered alike for cursors that agree for its demand. -/
theorem Directive.run_render_agree (s : Settings) {d : Directive} {c c' : Cursor}
    (agree : c.AgreeFor d.demand c') : ((d.render s).run c).1 = ((d.render s).run c').1 := by
  rw [run_render, run_render]
  refine d.field_congr s (fun width => ?_) (fun precision => ?_) fun own => ?_
  · exact agree.head (by rw [demand]; omega)
  · exact agree d.width.demand (by rw [demand]; omega)
  · rw [Nat.add_assoc, Nat.add_assoc]
    exact agree (d.width.demand + d.precision.demand) (by rw [demand]; omega)

/-- A token is rendered alike for cursors that agree for its demand. -/
theorem Token.run_render_agree (s : Settings) {token : Token} {c c' : Cursor}
    (agree : c.AgreeFor token.demand c') :
    ((token.render s).run c).1 = ((token.render s).run c').1 := by
  cases token with
  | literal run => rfl
  | directive o => exact Directive.run_render_agree s agree

/-- **Tokens are rendered alike** for cursors that agree for their demand: they write the same
texts, and a fault that stops them for one cursor stops them for the other one. -/
theorem renderTokens_agree (s : Settings) {tokens : List Token} {c c' : Cursor}
    (agree : c.AgreeFor (demandOf tokens) c') :
    (renderTokens s tokens c).written = (renderTokens s tokens c').written
      ∧ (renderTokens s tokens c).fault? = (renderTokens s tokens c').fault? := by
  induction tokens generalizing c c' with
  | nil => exact ⟨rfl, rfl⟩
  | cons token rest ih =>
    rw [demandOf_cons] at agree
    have first := Token.run_render_agree s (agree.le (Nat.le_add_right token.demand _))
    rcases token.run_cases s c with ⟨text, d, run⟩ | ⟨fault, d, run⟩
    · rcases token.run_cases s c' with ⟨text', d', run'⟩ | ⟨fault', d', run'⟩
      · rw [run, run'] at first
        obtain rfl := Except.ok.inj first
        -- both cursors move by the demand of the token
        have behind : d.AgreeFor (demandOf rest) d' := by
          rw [Token.cursor_of_ok run, Token.cursor_of_ok run']
          exact agree.advance
        obtain ⟨written, fault⟩ := ih behind
        rw [renderTokens_cons_of_ok rest run, renderTokens_cons_of_ok rest run', written, fault]
        exact ⟨rfl, rfl⟩
      · rw [run, run'] at first
        contradiction
    · rcases token.run_cases s c' with ⟨text', d', run'⟩ | ⟨fault', d', run'⟩
      · rw [run, run'] at first
        contradiction
      · rw [run, run'] at first
        obtain rfl := Except.error.inj first
        rw [renderTokens_cons_of_error rest run, renderTokens_cons_of_error rest run']
        exact ⟨rfl, rfl⟩

/-! ## Applying a template to other arguments -/

/-- What an application shows apart from its cursor: the texts that it writes, the fault that it
ends in, and the errors that it reports. -/
def Outcome.shown (o : Outcome) : List Text × Option Fault × List ParseError :=
  (o.written, o.fault?, o.log)

/-- A template is applied alike to cursors that agree for its demand. -/
theorem Template.shown_apply_agree (s : Settings) {f : Template} {c c' : Cursor}
    (agree : c.AgreeFor (demandOf f.tokens) c') : (f.apply s c).shown = (f.apply s c').shown := by
  obtain ⟨written, fault⟩ := renderTokens_agree s agree
  simp only [Outcome.shown, written_apply, fault?_apply, log_apply, written, fault]

/-- **The arguments that matter.** Let the directives of a template demand `n` values. Applied to
two lists of arguments whose first `n` values are the same, where the values behind the end of a
list are missing ones, the template writes the same texts, ends in the same fault, if any, and
reports the same. So missing values may be given as such, and nothing depends on arguments behind the
first `n` ones. -/
theorem apply_demanded (s : Settings) (f : Template) :
    (∀ args others : List Value,
      (∀ i < demandOf f.tokens, args.getD i .missing = others.getD i .missing) →
      (f.apply s (Cursor.ofList args)).shown = (f.apply s (Cursor.ofList others)).shown)
    ∧ (∀ args k, (f.apply s (Cursor.ofList (args ++ List.replicate k .missing))).shown
        = (f.apply s (Cursor.ofList args)).shown)
    ∧ ∀ args surplus, demandOf f.tokens ≤ args.length →
        (f.apply s (Cursor.ofList (args ++ surplus))).shown
          = (f.apply s (Cursor.ofList args)).shown := by
  have main (args others : List Value)
      (same : ∀ i < demandOf f.tokens, args.getD i .missing = others.getD i .missing) :
      (f.apply s (Cursor.ofList args)).shown = (f.apply s (Cursor.ofList others)).shown := by
    refine Template.shown_apply_agree s fun i below => ?_
    rw [Cursor.valueAt_ofList, Cursor.valueAt_ofList]
    exact same i below
  refine ⟨main, fun args k => main _ _ fun i below => ?_, fun args surplus enough =>
    main _ _ fun i below => ?_⟩
  · rcases Nat.lt_or_ge i args.length with within | behind
    · rw [List.getD_append _ _ _ _ within]
    · rw [List.getD_append_right _ _ _ _ behind, List.getD_eq_default _ _ behind,
        List.getD_eq_getElem?_getD, List.getElem?_getD_replicate_default_eq]
  · rw [List.getD_append _ _ _ _ (Nat.lt_of_lt_of_le below enough)]

/-- The arguments end behind a width. A precision, a value and another value are missing, and the
text of a surplus argument has too many digits. -/
theorem apply_demanded_exhausted :
    let noFlags := Flags.ofText []
    let f : Template := ⟨Text.ofString "%*.*s%%%d",
      [.directive ⟨⟨noFlags, .fromArgument, .fromArgument, none, .string⟩,
          Text.ofString "%*.*s", 0, 5⟩,
        .directive ⟨⟨noFlags, .absent, .absent, none, .percent⟩, Text.ofString "%%", 5, 7⟩,
        .directive ⟨⟨noFlags, .absent, .absent, none, .decimal⟩, Text.ofString "%d", 7, 9⟩], none⟩
    let long : Value := .whole (pow10 maxDigits)
    let others : List Value := [.whole 3, .missing, .missing, .missing, long]
    Template.ofText (Text.ofString "%*.*s%%%d") = .ok f ∧ demandOf f.tokens = 4
      ∧ (∀ i < 4, [Value.whole 3].getD i .missing = others.getD i .missing)
      ∧ long.toText = .error .tooManyDigits
      ∧ (f.apply Settings.initial (Cursor.ofList [.whole 3])).shown
        = ([[' ', ' ', ' '], ['%'], ['n', 'a', 'n']], none, [])
      ∧ (f.apply Settings.initial (Cursor.ofList others)).shown
        = ([[' ', ' ', ' '], ['%'], ['n', 'a', 'n']], none, []) := by
  intro noFlags f long others
  have read : Template.ofText (Text.ofString "%*.*s%%%d") = .ok f := by
    clear others long
    cbv
  have same : ∀ i < 4, [Value.whole 3].getD i .missing = others.getD i .missing := by
    intro i below
    interval_cases i <;> rfl
  have unshown : long.toText = .error .tooManyDigits := by
    have many : tooLong (pow10 maxDigits : Int).natAbs = true := by
      rw [Int.natAbs_natCast]
      exact decide_eq_true (Nat.le_refl _)
    change wholeText (pow10 maxDigits) = _
    rw [wholeText, if_pos many]
  have shown : (f.apply Settings.initial (Cursor.ofList [.whole 3])).shown
      = ([[' ', ' ', ' '], ['%'], ['n', 'a', 'n']], none, []) := rfl
  have alike := (apply_demanded Settings.initial f).1 [.whole 3] others same
  exact ⟨read, rfl, same, unshown, shown, alike.symm.trans shown⟩

end PercentFormat
