import PercentFormat.Proofs.NestedBindings
import PercentFormat.Proofs.RemainingValues
import PercentFormat.Proofs.StepChanges

/-! # What a cursor hands out in a run

Several templates may share a cursor, and each of them may be stopped by a fault in the middle of a
directive. Over all steps of a run, whoever takes them, the cursor hands out its values in order,
each of them once, and then missing values only.

* **`Cursor.upcoming`** — the values that a cursor hands out next, and **`Cursor.Over`**, what holds
  of a cursor over values wherever it is.
* **`Rendering.HandsOut`** — the values that a computation takes from a cursor. They are the next
  ones, and the cursor moves behind them: **`Rendering.HandsOut.takes`**.
* **`Session.cursorUse`** — what a step does with a cursor, and **`Session.HandsOut`**, the values
  that the steps of a run take from it.
* **`Session.cursor_in_run`** — the cursor behind a run, and the values that it has handed out. -/

namespace PercentFormat

/-! ## The next values of a cursor -/

namespace Cursor

/-- The values that a cursor hands out next. -/
def upcoming : Cursor → Nat → List Value
  | _, 0 => []
  | c, n + 1 => c.next.1 :: upcoming c.next.2 n

/-- Behind some values the cursor hands out the next ones. -/
theorem upcoming_add (c : Cursor) (m n : Nat) :
    c.upcoming (m + n) = c.upcoming m ++ (c.advance m).upcoming n := by
  induction m generalizing c with
  | zero => rw [Nat.zero_add, c.advance_zero, upcoming, List.nil_append]
  | succ m ih =>
    have moved : c.next.2.advance m = c.advance (m + 1) := by
      rw [c.next_eq, advance_advance, Nat.add_comm]
    rw [Nat.succ_add, upcoming, ih, moved, upcoming, List.cons_append]

/-- The next values are those that are left, and missing ones behind them. -/
theorem upcoming_eq (c : Cursor) (n : Nat) :
    c.upcoming n = c.left.take n ++ List.replicate (n - c.left.length) .missing := by
  induction n generalizing c with
  | zero => simp [upcoming]
  | succ n ih =>
    have first : c.next.1 = c.left.getD 0 .missing := by
      rw [c.next_eq, ← c.valueAt_add, Nat.add_zero]
    have rest : c.next.2.left = c.left.drop 1 := by rw [c.next_eq, left_advance]
    rw [upcoming, ih, first, rest]
    cases c.left with
    | nil => simp [List.replicate_succ]
    | cons v values => simp

/-- How many of all values have been consumed. -/
theorem consumed_advance_ofList (values : List Value) (n : Nat) :
    ((ofList values).advance n).consumed = min n values.length := by
  change min values.length (0 + n) = min n values.length
  omega

/-- A cursor in front of all values hands them out up to where it moves, and then missing ones. -/
theorem upcoming_ofList (values : List Value) (n : Nat) :
    (ofList values).upcoming n
      = values.take ((ofList values).advance n).consumed
        ++ List.replicate (n - values.length) .missing := by
  rw [upcoming_eq, left_ofList, consumed_advance_ofList, List.take_eq_take_min]

/-- A cursor is **over** values if these are its items, of which it has consumed some. -/
structure Over (values : List Value) (c : Cursor) : Prop where
  /-- The items are the values. -/
  items : c.items.toList = values
  /-- There are as many as there are values. -/
  length : c.length = values.length
  /-- No more have been consumed than there are. -/
  consumed_le : c.consumed ≤ c.length
  /-- Those that have been consumed and those that remain are all of them. -/
  consumed_add_remaining : c.consumed + c.remaining = c.length
  /-- None remain if the cursor is empty, and only then. -/
  isEmpty_iff : c.isEmpty = true ↔ c.remaining = 0

/-- A cursor in front of values is over them wherever it moves. -/
theorem over_advance_ofList (values : List Value) (n : Nat) :
    Over values ((ofList values).advance n) where
  items := rfl
  length := rfl
  consumed_le := ((ofList values).advance n).consumed_le
  consumed_add_remaining := ((ofList values).advance n).consumed_add_remaining
  isEmpty_iff := by rw [isEmpty, remaining, decide_eq_true_iff, Nat.sub_eq_zero_iff_le]

variable {values : List Value} {c : Cursor}

/-- The values that are left to a cursor over values. -/
theorem Over.left_eq (whole : Over values c) : c.left = values.drop c.consumed := by
  rw [left, whole.items]

/-- A cursor over values hands out the value at its place. -/
theorem Over.next_eq (whole : Over values c) : c.next.1 = values.getD c.consumed .missing := by
  rw [c.next_value, ← whole.items, List.getD_eq_getElem?_getD, Array.getElem?_toList]

end Cursor

/-! ## What computations take from a cursor -/

namespace Rendering

/-- A computation **hands out** values of a cursor: those that its arguments are, in order, with the
result and the cursor behind them. A fault keeps the rest of the computation from taking any. -/
inductive HandsOut : {α : Type} → Rendering α → Cursor → List Value → Except Fault α × Cursor → Prop
  /-- A result takes no argument. -/
  | ofExcept {α : Type} (r : Except Fault α) (c : Cursor) : HandsOut (ofExcept r) c [] (r, c)
  /-- An argument is the next value. -/
  | argument (c : Cursor) : HandsOut argument c [c.next.1] (.ok c.next.1, c.next.2)
  /-- What a computation takes comes in front of what the next one takes. -/
  | bind {α β : Type} {x : Rendering α} {f : α → Rendering β} {c c' : Cursor} {a : α}
      {first rest : List Value} {ended : Except Fault β × Cursor}
      (here : HandsOut x c first (.ok a, c')) (behind : HandsOut (f a) c' rest ended) :
      HandsOut (x >>= f) c (first ++ rest) ended
  /-- Behind a fault nothing is taken. -/
  | fault {α β : Type} {x : Rendering α} {c c' : Cursor} {fault : Fault} {taken : List Value}
      (f : α → Rendering β) (here : HandsOut x c taken (.error fault, c')) :
      HandsOut (x >>= f) c taken (.error fault, c')

variable {α β : Type} {x : Rendering α} {c : Cursor}

/-- Values are handed out by running the computation. -/
theorem HandsOut.run_eq {taken : List Value} {ended : Except Fault α × Cursor}
    (h : HandsOut x c taken ended) : x.run c = ended := by
  induction h with
  | ofExcept r c => exact run_ofExcept r c
  | argument c => exact run_argument c
  | bind here behind ihHere ihBehind => rw [run_bind_of_ok ihHere, ihBehind]
  | fault f here ih => exact run_bind_of_error ih

/-- **A computation takes the next values of its cursor**, in order and each of them once, and moves
the cursor behind them, whether it ends in a fault or not. -/
theorem HandsOut.takes {taken : List Value} {ended : Except Fault α × Cursor}
    (h : HandsOut x c taken ended) :
    taken = c.upcoming taken.length ∧ ended.2 = c.advance taken.length := by
  induction h with
  | ofExcept r c => exact ⟨rfl, c.advance_zero.symm⟩
  | argument c => exact ⟨rfl, by rw [c.next_eq]; rfl⟩
  | @bind _ _ _ _ c c' _ first rest ended here behind ihHere ihBehind =>
    -- the rest goes on where the first part has left the cursor
    obtain ⟨values, moved⟩ := ihHere
    obtain ⟨others, cursor⟩ := ihBehind
    obtain rfl : c' = c.advance first.length := moved
    rw [List.length_append, c.upcoming_add, ← values, ← others, cursor, c.advance_advance]
    exact ⟨rfl, rfl⟩
  | fault f here ih => exact ih

/-- A computation is **observed** if it takes arguments from the cursor only, so that for each of
them it is known which value it is. -/
def Observed (x : Rendering α) : Prop := ∀ c, ∃ taken, HandsOut x c taken (x.run c)

/-- A result takes no argument. -/
theorem observed_ofExcept (r : Except Fault α) : Observed (ofExcept r) :=
  fun c => ⟨[], .ofExcept r c⟩

/-- A value takes no argument. -/
theorem observed_pure (a : α) : Observed (pure a : Rendering α) := observed_ofExcept (.ok a)

/-- An argument is taken from the cursor. -/
theorem observed_argument : Observed argument := fun c => ⟨[c.next.1], .argument c⟩

/-- One computation behind another. -/
theorem Observed.bind {f : α → Rendering β} (first : Observed x) (rest : ∀ a, Observed (f a)) :
    Observed (x >>= f) := by
  intro c
  obtain ⟨taken, here⟩ := first c
  -- the rest takes nothing if the first part ends in a fault
  rcases run : x.run c with ⟨fault | a, c'⟩
  · rw [run] at here
    rw [run_bind_of_error run]
    exact ⟨taken, .fault f here⟩
  · rw [run] at here
    obtain ⟨others, behind⟩ := rest a c'
    rw [run_bind_of_ok run]
    exact ⟨taken ++ others, .bind here behind⟩

end Rendering

open Rendering

/-- A width or a precision takes arguments from the cursor only. -/
theorem Parameter.observed_resolve (p : Parameter) : Observed p.resolve := by
  cases p with
  | absent => exact observed_pure none
  | given n => exact observed_pure (some (n : Int))
  | fromArgument =>
    exact observed_argument.bind fun v => (observed_ofExcept _).bind fun n => observed_pure _

/-- The conversion of a directive takes arguments from the cursor only. -/
theorem Directive.observed_convertArgument (s : Settings) (d : Directive) (precision : Option Int) :
    Observed (d.convertArgument s precision) := by
  rw [convertArgument]
  cases d.specifier.role with
  | percent => exact observed_pure _
  | character =>
    exact observed_argument.bind fun v => (observed_ofExcept _).bind fun t => observed_pure _
  | text =>
    exact observed_argument.bind fun v => (observed_ofExcept _).bind fun t => observed_pure _
  | number form => exact observed_argument.bind fun v => observed_ofExcept _
  | ignored => exact observed_argument.bind fun v => observed_pure _

/-- A directive takes arguments from the cursor only. -/
theorem Directive.observed_render (s : Settings) (d : Directive) : Observed (d.render s) := by
  refine d.width.observed_resolve.bind fun width => d.precision.observed_resolve.bind
    fun precision => (d.observed_convertArgument s _).bind fun pieces => ?_
  split
  · exact observed_pure _
  · exact observed_ofExcept _

/-- A token takes arguments from the cursor only. -/
theorem Token.observed_render (s : Settings) (token : Token) : Observed (token.render s) := by
  cases token with
  | literal text => exact observed_pure text
  | directive o => exact o.directive.observed_render s

/-! ## What tokens take from a cursor -/

/-- Renders tokens in order, without keeping their texts. -/
def renderEach (s : Settings) : List Token → Rendering Unit
  | [] => return
  | token :: rest => do
    let _ ← token.render s
    renderEach s rest

/-- Rendering tokens without keeping their texts consumes what rendering them consumes, and ends in
a fault where rendering them does. -/
theorem run_renderEach (s : Settings) (tokens : List Token) (c : Cursor) :
    (renderEach s tokens).run c
      = ((renderTokens s tokens c).result.map fun _ => (), (renderTokens s tokens c).cursor) := by
  induction tokens generalizing c with
  | nil => rfl
  | cons token rest ih =>
    rw [renderEach]
    rcases token.run_cases s c with ⟨text, c', run⟩ | ⟨fault, c', run⟩
    · rw [renderTokens_cons_of_ok rest run, Progress.result_cons, run_bind_of_ok run, ih]
      cases (renderTokens s rest c').result <;> rfl
    · rw [renderTokens_cons_of_error rest run, run_bind_of_error run]
      rfl

/-- Tokens take arguments from the cursor only. -/
theorem observed_renderEach (s : Settings) (tokens : List Token) :
    Observed (renderEach s tokens) := by
  induction tokens with
  | nil => exact observed_pure ()
  | cons token rest ih => exact (token.observed_render s).bind fun _ => ih

/-! ## What the steps of a run take from a cursor -/

namespace Session

/-- The tokens that a step renders, if all that it names is there. -/
def tokensOf (session : Session) : Step → List Token
  | .apply template target _ =>
    match session.templates.find? template, session.streamNumbers.find? target with
    | some t, some _ => t.tokens
    | _, _ => []
  | .format template _ =>
    match session.source? template >>= Source.toTemplate with
    | .ok t => t.tokens
    | .error _ => []
  | _ => []

/-- What a step does with its cursor: it takes an argument, or it renders tokens. -/
def ownUse (session : Session) : Step → Rendering Unit
  | .next _ => do
    let _ ← argument
    return
  | step => renderEach session.settings (session.tokensOf step)

/-- What a step does with the cursor under a name. It leaves it alone if this is not its own. -/
def cursorUse (session : Session) (name : Text) (step : Step) : Rendering Unit :=
  if step.cursorName? = some name then session.ownUse step else return

/-- A step takes arguments from the cursor only. -/
theorem observed_cursorUse (session : Session) (name : Text) (step : Step) :
    Observed (session.cursorUse name step) := by
  unfold cursorUse
  split
  · cases step with
    | next cursor => exact observed_argument.bind fun _ => observed_pure ()
    | _ => exact observed_renderEach _ _
  · exact observed_pure ()

variable {session : Session} {name : Text} {c : Cursor}

/-- An application with a cursor leaves it where the tokens have left it. -/
theorem find?_cursors_step_apply (found : session.cursors.find? name = some c)
    (template target : Text) :
    (session.step (.apply template target (.named name))).session.cursors.find? name
      = some (renderTokens session.settings
          (session.tokensOf (.apply template target (.named name))) c).cursor := by
  simp only [Session.step, withNamed, tokensOf, cursor?, found]
  cases session.templates.find? template with
  | none => exact found
  | some t =>
    cases session.streamNumbers.find? target with
    | none => exact found
    | some number =>
      rw [← Template.cursor_apply]
      exact Table.find?_put_self _ _ _

/-- Formatting with a cursor leaves it where the tokens have left it. -/
theorem find?_cursors_step_format (found : session.cursors.find? name = some c)
    (template : TemplateRef) :
    (session.step (.format template (.named name))).session.cursors.find? name
      = some (renderTokens session.settings
          (session.tokensOf (.format template (.named name))) c).cursor := by
  simp only [Session.step, formatText, tokensOf, cursor?, found]
  cases session.source? template with
  | error fault => exact found
  | ok source =>
    change Table.find? (session.cursors.put name (source.apply session.settings c).cursor) name
      = some (renderTokens session.settings
          (match source.toTemplate with | .ok t => t.tokens | .error _ => []) c).cursor
    rw [Table.find?_put_self, Source.apply]
    -- a template that cannot be read leaves the cursor where it is
    cases source.toTemplate with
    | error fault => rfl
    | ok t => rw [Template.cursor_apply]

/-- **The cursor behind a step** is where the step's use of it has left it. -/
theorem find?_cursors_step (found : session.cursors.find? name = some c) {step : Step}
    (kept : ∀ values, step ≠ .newCursor name values) :
    (session.step step).session.cursors.find? name
      = some ((session.cursorUse name step).run c).2 := by
  unfold cursorUse
  by_cases used : step.cursorName? = some name
  · rw [if_pos used]
    rcases step.cases_of_cursorName? used with rfl | ⟨template, target, rfl⟩ | ⟨template, rfl⟩
    · simp only [ownUse, run_bind_of_ok (run_argument c), Session.step, withNamed, found]
      exact Table.find?_put_self _ _ _
    · rw [find?_cursors_step_apply found]
      exact congrArg (fun ended => some ended.2) (run_renderEach _ _ c).symm
    · rw [find?_cursors_step_format found]
      exact congrArg (fun ended => some ended.2) (run_renderEach _ _ c).symm
  · rw [if_neg used, find?_cursors_step_of_ne kept used]
    exact found

/-- The values that the steps of a run take from the cursor under a name, in order. -/
inductive HandsOut (name : Text) : Session → List Step → List Value → Prop
  /-- Without steps nothing is taken. -/
  | nil (session : Session) : HandsOut name session [] []
  /-- What a step takes comes in front of what the others take. -/
  | cons {session : Session} {step : Step} {rest : List Step} {c : Cursor}
      {first others : List Value} {ended : Except Fault Unit × Cursor}
      (found : session.cursors.find? name = some c)
      (here : Rendering.HandsOut (session.cursorUse name step) c first ended)
      (behind : HandsOut name (session.step step).session rest others) :
      HandsOut name session (step :: rest) (first ++ others)

/-- **A run takes the next values of a cursor**, in order and each of them once, and moves the
cursor behind them. -/
theorem HandsOut.takes {steps : List Step} {handed : List Value}
    (h : HandsOut name session steps handed) (found : session.cursors.find? name = some c)
    (kept : ∀ values, .newCursor name values ∉ steps) :
    handed = c.upcoming handed.length
      ∧ (session.after steps).cursors.find? name = some (c.advance handed.length) := by
  induction h generalizing c with
  | nil session =>
    rw [after_nil, found, List.length_nil, c.advance_zero]
    exact ⟨rfl, rfl⟩
  | @cons session step rest c' first others ended found' here behind ih =>
    -- the cursor that the first step takes from is the one that is found
    obtain rfl : c' = c := Option.some.inj (found'.symm.trans found)
    obtain ⟨values, moved⟩ := here.takes
    obtain ⟨other, others'⟩ := Step.forall_not_mem_cons_iff.1 kept
    have later : (session.step step).session.cursors.find? name
        = some (c'.advance first.length) := by
      rw [find?_cursors_step found other, here.run_eq, moved]
    obtain ⟨behind, cursor⟩ := ih later others'
    rw [List.length_append, c'.upcoming_add, ← values, ← behind, after_cons, cursor,
      c'.advance_advance]
    exact ⟨rfl, rfl⟩

/-- For every run it is known which values it takes from a cursor. -/
theorem exists_handsOut {steps : List Step} (found : session.cursors.find? name = some c)
    (kept : ∀ values, .newCursor name values ∉ steps) :
    ∃ handed, session.HandsOut name steps handed := by
  induction steps generalizing session c with
  | nil => exact ⟨[], .nil session⟩
  | cons step rest ih =>
    obtain ⟨other, others'⟩ := Step.forall_not_mem_cons_iff.1 kept
    obtain ⟨first, here⟩ := session.observed_cursorUse name step c
    obtain ⟨others, behind⟩ := ih (find?_cursors_step found other) others'
    exact ⟨first ++ others, .cons found here behind⟩

/-- Behind a run a cursor has moved by a number of values. -/
theorem exists_cursor_after {steps : List Step} (found : session.cursors.find? name = some c)
    (kept : ∀ values, .newCursor name values ∉ steps) :
    ∃ n, (session.after steps).cursors.find? name = some (c.advance n) := by
  obtain ⟨handed, taken⟩ := exists_handsOut found kept
  exact ⟨handed.length, (taken.takes found kept).2⟩

/-- **A cursor in a run.** Let steps be taken behind the one that makes a cursor over values,
whether they end in faults or not, and let none of them make another cursor under its name.

* At each moment the cursor is there, over the same values, and what it has consumed stays consumed.
  A step that takes an argument is given the first value that has not been consumed, and tokens are
  rendered to their text for the values that have not been consumed.
* It is known which values the steps take from the cursor.
* These are the values that have been consumed, in order and each of them once, whichever step took
  them, and behind the last value of all nothing but missing ones. -/
theorem cursor_in_run {steps : List Step} (kept : ∀ values, .newCursor name values ∉ steps)
    (start : Session) (values : List Value) :
    let made := (start.step (.newCursor name values)).session
    (∀ before behind, steps = before ++ behind →
      ∃ c d, (made.after before).cursors.find? name = some c
        ∧ (made.after steps).cursors.find? name = some d
        ∧ c.Over values ∧ c.consumed ≤ d.consumed
        ∧ ((made.after before).step (.next name)).result
          = .ok (.value (values.getD c.consumed .missing))
        ∧ ∀ s tokens, (renderTokens s tokens c).result = textFor s tokens (values.drop c.consumed))
    ∧ (∃ handed, made.HandsOut name steps handed)
    ∧ ∀ handed, made.HandsOut name steps handed →
      ∃ c missing, (made.after steps).cursors.find? name = some c
        ∧ handed = values.take c.consumed ++ List.replicate missing .missing
        ∧ (values.take c.consumed).length = c.consumed
        ∧ (0 < missing → c.consumed = values.length) := by
  intro made
  have found : made.cursors.find? name = some (Cursor.ofList values) := Table.find?_put_self _ _ _
  refine ⟨?_, exists_handsOut found kept, fun handed taken => ?_⟩
  · rintro before behind rfl
    obtain ⟨m, here⟩ := exists_cursor_after found fun others member =>
      kept others (List.mem_append_left _ member)
    obtain ⟨n, later⟩ := exists_cursor_after here fun others member =>
      kept others (List.mem_append_right _ member)
    have whole := Cursor.over_advance_ofList values m
    generalize (Cursor.ofList values).advance m = c at here later whole
    refine ⟨c, c.advance n, here, by rw [after_append]; exact later, whole, ?_, ?_, ?_⟩
    · rw [c.consumed_advance]
      exact Nat.le_min.2 ⟨c.consumed_le, Nat.le_add_right _ _⟩
    · rw [← whole.next_eq]
      simp only [Session.step, withNamed, here]
      rfl
    · intro s tokens
      rw [result_renderTokens, whole.left_eq]
  · obtain ⟨next, cursor⟩ := taken.takes found kept
    have consumed := Cursor.consumed_advance_ofList values handed.length
    refine ⟨_, handed.length - values.length, cursor, ?_, ?_, fun more => ?_⟩
    · rw [← Cursor.upcoming_ofList]
      exact next
    · rw [List.length_take, consumed]
      omega
    · omega

/-- Three values for a step that takes one, a template that is refused when it has taken one, and a
template that takes two where one is left. -/
theorem cursor_in_run_shared :
    let field : Occurrence := ⟨⟨Flags.ofText [], .absent, .absent, none, .string⟩,
      Text.ofString "%s", 0, 2⟩
    let error : ParseError := ⟨Text.ofString "%s%", 2, .incomplete⟩
    let cut : Template := ⟨Text.ofString "%s%", [.directive field], some error⟩
    let double : Template := ⟨Text.ofString "%s%s",
      [.directive field, .directive { field with start := 2, stop := 4 }], none⟩
    let start : Session :=
      { initial with
        streamNumbers := [(['s'], Streams.standardOutput)]
        templates := [(['f'], cut), (['g'], double)]
        settings := fun x => if x = .strict then .bool true else Settings.initial x }
    let values : List Value := [.text ['x'], .text ['y'], .text ['z']]
    let made := (start.step (.newCursor ['a'] values)).session
    let steps : List Step := [.next ['a'], .apply ['f'] ['s'] (.named ['a']),
      .format (.named ['g']) (.named ['a']), .next ['a']]
    (∀ others, .newCursor ['a'] others ∉ steps)
      ∧ ((made.after [.next ['a']]).step (.apply ['f'] ['s'] (.named ['a']))).result
        = .error (.malformed error)
      ∧ ∃ handed missing, made.HandsOut ['a'] steps handed
        ∧ handed = values ++ List.replicate missing .missing := by
  intro field error cut double start values made steps
  have kept : ∀ others, .newCursor ['a'] others ∉ steps := by simp [steps]
  obtain ⟨-, ⟨handed, taken⟩, law⟩ := cursor_in_run kept start values
  obtain ⟨c, missing, cursor, values', -, -⟩ := law handed taken
  -- all three values have been consumed behind these steps
  have consumed : ((made.after steps).cursors.find? ['a']).map Cursor.consumed = some 3 := by
    decide
  rw [cursor, Option.map_some] at consumed
  obtain three := Option.some.inj consumed
  rw [three] at values'
  exact ⟨kept, rfl, handed, missing, taken, values'⟩

end Session

end PercentFormat
