import Mathlib.Data.List.Induction
import Mathlib.Logic.Function.Basic
import PercentFormat.Proofs.NestedBindings

/-! # Bindings seen through one variable

What a step of a binding does to a variable depends on the variable alone: on its value, and on what
each binding of it gives to it and has kept of it. So a run can be followed for one variable, and
steps of bindings of other variables can be left out.

* **`VariableView`** — what a session shows of a variable, and **`VariableView.step`**, how a step
  changes that.
* **`Session.view_step`**, **`Session.view_after`** — a session behind steps, seen through a
  variable.
* **`Session.stepsOn`** — the steps of a run that concern a variable.
* **`Session.view_after_stepsOn`** — the other steps may be left out.
* **`VariableView.comesFrom_after`** — where the value of a variable comes from. -/

namespace PercentFormat

/-! ## Views -/

/-- A step makes, enters or exits a binding, or it has nothing to do with bindings. -/
theorem Step.cases_of_binding (step : Step) :
    (∃ name entries, step = .newBinding name entries) ∨ (∃ name, step = .enter name)
      ∨ (∃ name, step = .exit name) ∨ ∀ names, step.Spares names := by
  cases step <;> simp [Spares]

/-- The **view** of a variable: its value and what bindings hold of it. -/
structure VariableView where
  /-- The value of the variable. -/
  value : Value
  /-- For each name of a binding of the variable, the value that it gives to the variable and the
  one that it has kept when it was last entered. -/
  held : Text → Option (Value × Option Value)

namespace VariableView

variable {x : Variable} {view : VariableView} {name : Text}

/-- The view of a variable behind a step. -/
def step (x : Variable) (view : VariableView) : Step → VariableView
  | .newBinding name entries =>
    if Assignment.Admissible entries then
      { view with
        held := Function.update view.held name ((Assignment.given entries x).map (·, none)) }
    else view
  | .enter name =>
    match view.held name with
    | some (v, _) => ⟨v, Function.update view.held name (some (v, some view.value))⟩
    | none => view
  | .exit name =>
    match view.held name with
    | some (_, some before) => { view with value := before }
    | _ => view
  | _ => view

/-- The view of a variable behind several steps. -/
def after (x : Variable) (view : VariableView) (steps : List Step) : VariableView :=
  steps.foldl (step x) view

/-- Behind a step the others go on. -/
@[simp] theorem after_cons (step : Step) (steps : List Step) :
    view.after x (step :: steps) = (view.step x step).after x steps := rfl

/-- Steps behind others go on where these have ended. -/
theorem after_append (before behind : List Step) :
    view.after x (before ++ behind) = (view.after x before).after x behind := List.foldl_append

/-- One more step is taken where the others have ended. -/
theorem after_concat (steps : List Step) (step : Step) :
    view.after x (steps ++ [step]) = (view.after x steps).step x step := after_append steps [step]

/-- What an entry does depends on what the binding gives. -/
theorem step_enter (x : Variable) (view : VariableView) (name : Text) :
    view.step x (.enter name)
      = match view.held name with
        | some (v, _) => ⟨v, Function.update view.held name (some (v, some view.value))⟩
        | none => view := rfl

/-- What an exit does depends on what the binding has kept. -/
theorem step_exit (x : Variable) (view : VariableView) (name : Text) :
    view.step x (.exit name)
      = match view.held name with
        | some (_, some before) => { view with value := before }
        | _ => view := rfl

/-- An entry of a binding of the variable sets its value and keeps the one it had. -/
theorem step_enter_of_some {v : Value} {kept : Option Value}
    (held : view.held name = some (v, kept)) :
    view.step x (.enter name)
      = ⟨v, Function.update view.held name (some (v, some view.value))⟩ := by
  rw [step_enter, held]

/-- An entry of another binding leaves a view as it is. -/
theorem step_enter_of_none (unheld : view.held name = none) :
    view.step x (.enter name) = view := by
  rw [step_enter, unheld]

/-- An exit of a binding of the variable gives back the value that it has kept. -/
theorem step_exit_of_some {v before : Value} (held : view.held name = some (v, some before)) :
    view.step x (.exit name) = { view with value := before } := by
  rw [step_exit, held]

/-- An exit of a binding that keeps nothing of the variable leaves a view as it is. -/
theorem step_exit_of_none (unkept : ∀ v before, view.held name ≠ some (v, some before)) :
    view.step x (.exit name) = view := by
  rw [step_exit]
  split
  · exact absurd ‹_› (unkept _ _)
  · rfl

/-- A binding is put into a view when it is made. -/
theorem step_newBinding_of_admissible {entries : List (Text × Value)}
    (admissible : Assignment.Admissible entries) :
    view.step x (.newBinding name entries)
      = { view with
          held := Function.update view.held name
            ((Assignment.given entries x).map (·, none)) } := if_pos admissible

/-- A binding that is refused leaves a view as it is. -/
theorem step_newBinding_of_refused {entries : List (Text × Value)}
    (refused : ¬ Assignment.Admissible entries) :
    view.step x (.newBinding name entries) = view := if_neg refused

/-- A binding of other variables leaves a view as it is when it is made under a new name. -/
theorem step_newBinding_of_none {entries : List (Text × Value)} (unheld : view.held name = none)
    (ungiven : Assignment.given entries x = none) :
    view.step x (.newBinding name entries) = view := by
  by_cases admissible : Assignment.Admissible entries
  · rw [step_newBinding_of_admissible admissible, ungiven, Option.map_none, ← unheld,
      Function.update_eq_self]
  · exact step_newBinding_of_refused admissible

/-- A step that has nothing to do with bindings leaves a view as it is. -/
theorem step_of_spares {step : Step} (spares : ∀ names, step.Spares names) :
    view.step x step = view := by
  cases step with
  | newBinding name entries => exact absurd List.mem_cons_self (spares [name])
  | enter name => exact (spares []).elim
  | exit name => exact (spares []).elim
  | _ => rfl

/-! ### Where values come from -/

/-- The value of a variable behind a step is the one before it, or what an entered binding gives, or
what a binding has kept. -/
theorem value_step (view : VariableView) (x : Variable) (step : Step) :
    (view.step x step).value = view.value
    ∨ (∃ name kept, step = .enter name
      ∧ view.held name = some ((view.step x step).value, kept))
    ∨ ∃ name v, view.held name = some (v, some (view.step x step).value) := by
  rcases step.cases_of_binding with ⟨name, entries, rfl⟩ | ⟨name, rfl⟩ | ⟨name, rfl⟩ | spares
  · left
    by_cases admissible : Assignment.Admissible entries
    · rw [step_newBinding_of_admissible admissible]
    · rw [step_newBinding_of_refused admissible]
  · cases held : view.held name with
    | none => exact .inl (by rw [step_enter_of_none held])
    | some given => exact .inr (.inl ⟨name, given.2, rfl, by rw [step_enter_of_some held, held]⟩)
  · cases held : view.held name with
    | none => exact .inl (by rw [step_exit_of_none (by simp [held])])
    | some given =>
      obtain ⟨v, kept⟩ := given
      cases kept with
      | none => exact .inl (by rw [step_exit_of_none (by simp [held])])
      | some before =>
        exact .inr (.inr ⟨name, v, by rw [step_exit_of_some held, held]⟩)
  · exact .inl (by rw [step_of_spares spares])

/-- What is held under a name behind a step was held before, unless the step makes or enters the
binding of this name. -/
theorem held_step (view : VariableView) (x : Variable) (step : Step) (name : Text) :
    (view.step x step).held name = view.held name
    ∨ (∃ entries, step = .newBinding name entries
      ∧ (view.step x step).held name = (Assignment.given entries x).map (·, none))
    ∨ ∃ v kept, step = .enter name ∧ view.held name = some (v, kept)
      ∧ (view.step x step).held name = some (v, some view.value) := by
  rcases step.cases_of_binding with ⟨other, entries, rfl⟩ | ⟨other, rfl⟩ | ⟨other, rfl⟩ | spares
  · by_cases admissible : Assignment.Admissible entries
    · rw [step_newBinding_of_admissible admissible]
      by_cases same : name = other
      · subst same
        exact .inr (.inl ⟨entries, rfl, Function.update_self ..⟩)
      · exact .inl (Function.update_of_ne same ..)
    · exact .inl (by rw [step_newBinding_of_refused admissible])
  · cases held : view.held other with
    | none => exact .inl (by rw [step_enter_of_none held])
    | some given =>
      rw [step_enter_of_some held]
      by_cases same : name = other
      · subst same
        exact .inr (.inr ⟨given.1, given.2, rfl, held, Function.update_self ..⟩)
      · exact .inl (Function.update_of_ne same ..)
  · left
    rw [step_exit]
    split <;> rfl
  · exact .inl (by rw [step_of_spares spares])

/-- A value **comes from** the entries of a run if it is the one at its start, or if a binding gives
it that is entered in the run. -/
def ComesFrom (view : VariableView) (x : Variable) (steps : List Step) (v : Value) : Prop :=
  v = view.value ∨ ∃ before name behind kept, steps = before ++ .enter name :: behind
    ∧ (view.after x before).held name = some (v, kept)

/-- A value that comes from a run comes from a longer one. -/
theorem ComesFrom.append {steps : List Step} {v : Value} (comes : view.ComesFrom x steps v)
    (more : List Step) : view.ComesFrom x (steps ++ more) v := by
  rcases comes with initial | ⟨before, name, behind, kept, rfl, held⟩
  · exact .inl initial
  · exact .inr ⟨before, name, behind ++ more, kept, by simp, held⟩

/-- **Where values come from.** If nothing is kept at the start of a run, the value of a variable
behind the run, and every value that bindings have kept of it, come from the entries of the run. -/
theorem comesFrom_after (start : ∀ name v w, view.held name ≠ some (v, some w))
    (steps : List Step) :
    view.ComesFrom x steps (view.after x steps).value
      ∧ ∀ name v w, (view.after x steps).held name = some (v, some w) →
        view.ComesFrom x steps w := by
  -- an exit gives back what has been kept, so the induction has to speak of that as well
  induction steps using List.reverseRecOn with
  | nil => exact ⟨.inl rfl, fun name v w held => absurd held (start name v w)⟩
  | append_singleton steps step ih =>
    obtain ⟨value, kept⟩ := ih
    rw [after_concat]
    constructor
    · rcases value_step (view.after x steps) x step with same | ⟨name, before, rfl, held⟩ | back
      · rw [same]
        exact value.append [step]
      · exact .inr ⟨steps, name, [], before, rfl, held⟩
      · obtain ⟨name, v, held⟩ := back
        exact (kept name v _ held).append [step]
    · intro name v w held
      rcases held_step (view.after x steps) x step name with same | ⟨entries, -, made⟩
        | ⟨given, before, -, -, entered⟩
      -- a binding keeps what it kept before, or nothing when it is made, or the value at its entry
      · exact (kept name v w (same ▸ held)).append [step]
      · rw [made] at held
        simp at held
      · rw [entered] at held
        simp only [Option.some.injEq, Prod.mk.injEq] at held
        rw [← held.2]
        exact value.append [step]

/-- If no binding is there at the start of a run, what bindings give they are made with in the
run. -/
theorem exists_newBinding_of_held (start : ∀ name, view.held name = none) {steps : List Step}
    {v : Value} {kept : Option Value} (held : (view.after x steps).held name = some (v, kept)) :
    ∃ entries, .newBinding name entries ∈ steps ∧ Assignment.given entries x = some v := by
  induction steps using List.reverseRecOn generalizing v kept with
  | nil => exact absurd held (by simp [after, start])
  | append_singleton steps step ih =>
    rw [after_concat] at held
    have earlier {kept : Option Value} (held : (view.after x steps).held name = some (v, kept)) :
        ∃ entries, .newBinding name entries ∈ steps ++ [step]
          ∧ Assignment.given entries x = some v := by
      obtain ⟨entries, member, given⟩ := ih held
      exact ⟨entries, List.mem_append_left [step] member, given⟩
    rcases held_step (view.after x steps) x step name with same | ⟨entries, rfl, made⟩
      | ⟨given, before, -, present, entered⟩
    · exact earlier (same ▸ held)
    · rw [made] at held
      obtain ⟨w, given, same⟩ := Option.map_eq_some_iff.1 held
      obtain rfl := (Prod.mk.inj same).1
      exact ⟨entries, by simp, given⟩
    · rw [entered] at held
      obtain rfl := (Prod.mk.inj (Option.some.inj held)).1
      exact earlier present

end VariableView

/-! ## Views of sessions -/

/-- What a binding holds of a variable that it binds. -/
def Binding.heldFor (b : Binding) (x : Variable) : Option (Value × Option Value) :=
  (b.values x).map fun v => (v, b.before?.bind (· x))

namespace Binding

variable {b : Binding} {x : Variable}

/-- A binding holds nothing of a variable that it does not bind. -/
theorem heldFor_of_none (unbound : b.values x = none) : b.heldFor x = none := by
  rw [heldFor, unbound]
  rfl

/-- A binding holds the value that it gives to a variable, and the one that it has kept. -/
theorem heldFor_of_some {v : Value} (bound : b.values x = some v) :
    b.heldFor x = some (v, b.before?.bind (· x)) := by
  rw [heldFor, bound]
  rfl

/-- A binding that is entered keeps the value of each variable that it binds. -/
theorem heldFor_enter {v : Value} (bound : b.values x = some v) (s : Settings) :
    (b.enter s).1.heldFor x = some (v, some (s x)) := by
  simp [enter, heldFor, Assignment.saved, bound]

end Binding

/-- A binding **keeps its own** if it has kept nothing of the variables that it does not bind. -/
def Binding.KeepsOwn (b : Binding) : Prop :=
  ∀ before, b.before? = some before → ∀ x, b.values x = none → before x = none

namespace Session

variable {session : Session} {name : Text} {x : Variable}

/-- What a session shows of a variable. -/
def view (session : Session) (x : Variable) : VariableView :=
  ⟨session.settings x, fun name => (session.bindings.find? name).bind (·.heldFor x)⟩

/-- All bindings of a session keep their own. -/
def KeepsOwn (session : Session) : Prop :=
  ∀ name b, session.bindings.find? name = some b → b.KeepsOwn

/-- What the binding under a name holds of a variable. -/
theorem held_view_of_some {b : Binding} (found : session.bindings.find? name = some b) :
    (session.view x).held name = b.heldFor x := by
  simp only [view, found, Option.bind_some]

/-- Without a binding nothing is held. -/
theorem held_view_of_none (missing : session.bindings.find? name = none) :
    (session.view x).held name = none := by
  simp only [view, missing, Option.bind_none]

/-- What is held of a variable is held by a binding that gives a value to it. -/
theorem held_view_eq_some_iff {v : Value} {kept : Option Value} :
    (session.view x).held name = some (v, kept)
      ↔ ∃ b, session.bindings.find? name = some b ∧ b.values x = some v
        ∧ b.before?.bind (· x) = kept := by
  simp only [view, Option.bind_eq_some_iff, Binding.heldFor, Option.map_eq_some_iff,
    Prod.mk.injEq]
  constructor
  · rintro ⟨b, found, w, bound, rfl, saved⟩
    exact ⟨b, found, bound, saved⟩
  · rintro ⟨b, found, bound, saved⟩
    exact ⟨b, found, v, bound, rfl, saved⟩

/-- Without bindings all bindings keep their own. -/
theorem keepsOwn_of_bindings_eq_nil (none : session.bindings = []) : session.KeepsOwn := by
  intro name b found
  rw [none] at found
  exact absurd found (by simp [Table.find?])

/-- A binding that is put under a name is found there, and the others under theirs. -/
theorem find?_put_eq_some {t : Table Binding} {other : Text} {b new : Binding}
    (found : (t.put name new).find? other = some b) :
    b = new ∨ t.find? other = some b := by
  by_cases same : other = name
  · rw [same, Table.find?_put_self] at found
    exact .inl (Option.some.inj found).symm
  · rw [Table.find?_put_of_ne _ _ same] at found
    exact .inr found

/-- A binding keeps its own when it is entered. -/
theorem Binding.keepsOwn_enter (b : Binding) (s : Settings) : (b.enter s).1.KeepsOwn := by
  rintro before ⟨⟩ x unbound
  have unbound : b.values x = none := unbound
  rw [Assignment.saved, unbound]
  rfl

/-- Steps leave bindings that keep their own. -/
theorem KeepsOwn.step (own : session.KeepsOwn) (step : Step) :
    (session.step step).session.KeepsOwn := by
  intro other b found
  rcases step.cases_of_binding with ⟨name, entries, rfl⟩ | ⟨name, rfl⟩ | ⟨name, rfl⟩ | spares
  · by_cases admissible : Assignment.Admissible entries
    · rw [step_newBinding_of_admissible admissible] at found
      rcases find?_put_eq_some found with rfl | before
      · exact fun before entered => by simp [Binding.ofAssignment] at entered
      · exact own other b before
    · obtain ⟨fault, -, refused⟩ := step_newBinding_of_refused admissible session name
      rw [refused] at found
      exact own other b found
  · cases present : session.bindings.find? name with
    | none =>
      rw [step_enter_of_none present] at found
      exact own other b found
    | some entered =>
      rw [step_enter_of_some present] at found
      rcases find?_put_eq_some found with rfl | before
      · exact Binding.keepsOwn_enter entered session.settings
      · exact own other b before
  · rw [bindings_step_exit] at found
    exact own other b found
  · have keeps := keeps_of_spares (spares [other]) session
    rw [keeps.bindings other (List.mem_singleton.2 rfl)] at found
    exact own other b found

/-- Runs leave bindings that keep their own. -/
theorem KeepsOwn.after (own : session.KeepsOwn) (steps : List Step) :
    (session.after steps).KeepsOwn := by
  induction steps generalizing session with
  | nil => exact own
  | cons step rest ih => exact ih (own.step step)

/-- A session that keeps the settings and all bindings shows the same of a variable. -/
theorem view_of_keeps {after : Session} (keeps : ∀ names, Keeps names session after)
    (x : Variable) : after.view x = session.view x := by
  have bindings (name : Text) := (keeps [name]).bindings name (List.mem_singleton.2 rfl)
  simp only [view, (keeps []).settings, bindings]

/-- A session with a binding put under a name shows there what the binding holds of a variable. -/
theorem view_put (session : Session) (settings : Settings) (name : Text) (b : Binding)
    (x : Variable) :
    ({ session with settings, bindings := session.bindings.put name b } : Session).view x
      = ⟨settings x, Function.update (session.view x).held name (b.heldFor x)⟩ := by
  rw [view, VariableView.mk.injEq]
  refine ⟨rfl, funext fun other => ?_⟩
  by_cases same : other = name
  · subst same
    rw [Function.update_self, Table.find?_put_self, Option.bind_some]
  · rw [Function.update_of_ne same, Table.find?_put_of_ne _ _ same]
    rfl

/-- A session with other settings shows the same of a variable but for its value. -/
theorem view_settings (session : Session) (settings : Settings) (x : Variable) :
    ({ session with settings } : Session).view x
      = { session.view x with value := settings x } := rfl

/-- The making of a binding is seen through a variable. -/
theorem view_step_newBinding (session : Session) (x : Variable) (name : Text)
    (entries : List (Text × Value)) :
    (session.step (.newBinding name entries)).session.view x
      = (session.view x).step x (.newBinding name entries) := by
  by_cases admissible : Assignment.Admissible entries
  · rw [VariableView.step_newBinding_of_admissible admissible,
      step_newBinding_of_admissible admissible]
    exact view_put session session.settings name _ x
  · obtain ⟨fault, -, refused⟩ := step_newBinding_of_refused admissible session name
    rw [refused, VariableView.step_newBinding_of_refused admissible]
    rfl

/-- An entry is seen through a variable. -/
theorem view_step_enter (session : Session) (x : Variable) (name : Text) :
    (session.step (.enter name)).session.view x = (session.view x).step x (.enter name) := by
  cases found : session.bindings.find? name with
  | none =>
    rw [step_enter_of_none found, VariableView.step_enter_of_none (held_view_of_none found)]
  | some b =>
    have held : (session.view x).held name = b.heldFor x := held_view_of_some found
    rw [step_enter_of_some found, view_put]
    cases bound : b.values x with
    | none =>
      have unheld := held.trans (Binding.heldFor_of_none bound)
      have now : (b.enter session.settings).1.heldFor x = none := Binding.heldFor_of_none bound
      rw [VariableView.step_enter_of_none unheld, Assignment.applyTo_of_none _ bound]
      rw [now, ← unheld, Function.update_eq_self]
      rfl
    | some v =>
      have now := Binding.heldFor_enter bound session.settings
      rw [VariableView.step_enter_of_some (held.trans (Binding.heldFor_of_some bound)),
        Assignment.applyTo_of_some _ bound]
      rw [now]
      rfl

/-- An exit is seen through a variable, if the binding keeps its own. -/
theorem view_step_exit (own : session.KeepsOwn) (x : Variable) (name : Text) :
    (session.step (.exit name)).session.view x = (session.view x).step x (.exit name) := by
  cases found : session.bindings.find? name with
  | none =>
    have unheld := held_view_of_none (x := x) found
    rw [step_exit_of_none (by simp [found]), VariableView.step_exit_of_none (by simp [unheld])]
  | some b =>
    have held : (session.view x).held name = b.heldFor x := held_view_of_some found
    cases entered : b.before? with
    | none =>
      rw [step_exit_of_none (by simp [found, entered]), VariableView.step_exit_of_none]
      simp [held, Binding.heldFor, entered]
    | some before =>
      rw [step_exit_of_some found entered, view_settings]
      cases kept : before x with
      | none =>
        rw [Assignment.applyTo_of_none _ kept, VariableView.step_exit_of_none]
        · rfl
        · simp [held, Binding.heldFor, entered, kept]
      | some w =>
        -- only what the binding gives a value to is kept
        obtain ⟨v, bound⟩ : ∃ v, b.values x = some v := by
          cases bound : b.values x with
          | none => simp [own name b found before entered x bound] at kept
          | some v => exact ⟨v, rfl⟩
        have now := held.trans (Binding.heldFor_of_some bound)
        rw [entered, Option.bind_some, kept] at now
        rw [VariableView.step_exit_of_some now, Assignment.applyTo_of_some _ kept]

/-- **A step is seen through a variable** as the step of the view. -/
theorem view_step (own : session.KeepsOwn) (x : Variable) (step : Step) :
    (session.step step).session.view x = (session.view x).step x step := by
  rcases step.cases_of_binding with ⟨name, entries, rfl⟩ | ⟨name, rfl⟩ | ⟨name, rfl⟩ | spares
  · exact view_step_newBinding session x name entries
  · exact view_step_enter session x name
  · exact view_step_exit own x name
  · rw [view_of_keeps fun names => keeps_of_spares (spares names) session,
      VariableView.step_of_spares spares]

/-- **A run is seen through a variable** as the run of the view. -/
theorem view_after (own : session.KeepsOwn) (x : Variable) (steps : List Step) :
    (session.after steps).view x = (session.view x).after x steps := by
  induction steps generalizing session with
  | nil => rfl
  | cons step rest ih =>
    rw [after_cons, ih (own.step step), view_step own, VariableView.after_cons]

/-! ## Steps that concern a variable -/

/-- The binding under a name gives a value to a variable. -/
def binds (session : Session) (name : Text) (x : Variable) : Bool :=
  ((session.bindings.find? name).bind (·.values x)).isSome

/-- A step **concerns** a variable if it makes a binding of the variable, or makes one in its
place, or enters or exits it. -/
def concerns (session : Session) (x : Variable) : Step → Bool
  | .newBinding name entries => (Assignment.given entries x).isSome || session.binds name x
  | .enter name => session.binds name x
  | .exit name => session.binds name x
  | _ => false

/-- The steps of a run that concern a variable. -/
def stepsOn (x : Variable) : Session → List Step → List Step
  | _, [] => []
  | session, step :: rest =>
    let others := stepsOn x (session.step step).session rest
    if session.concerns x step then step :: others else others

/-- Of a variable that the binding under a name does not bind nothing is held there. -/
theorem held_view_of_not_binds (unbound : session.binds name x = false) :
    (session.view x).held name = none := by
  cases found : session.bindings.find? name with
  | none => exact held_view_of_none found
  | some b =>
    rw [held_view_of_some found]
    refine Binding.heldFor_of_none ?_
    simpa [binds, found] using unbound

/-- A step that does not concern a variable does not change the view of it. -/
theorem view_step_of_not_concerns (own : session.KeepsOwn) {step : Step}
    (apart : session.concerns x step = false) :
    (session.step step).session.view x = session.view x := by
  rw [view_step own]
  rcases step.cases_of_binding with ⟨name, entries, rfl⟩ | ⟨name, rfl⟩ | ⟨name, rfl⟩ | spares
  · obtain ⟨ungiven, unbound⟩ := Bool.or_eq_false_iff.1 apart
    refine VariableView.step_newBinding_of_none (held_view_of_not_binds unbound) ?_
    simpa using ungiven
  · exact VariableView.step_enter_of_none (held_view_of_not_binds apart)
  · refine VariableView.step_exit_of_none fun v before held => ?_
    rw [held_view_of_not_binds apart] at held
    contradiction
  · exact VariableView.step_of_spares spares

/-- **Steps that do not concern a variable may be left out.** From sessions that show the same of
a variable, a run and the steps of it that concern the variable lead to the same value and to the
same values held by bindings. -/
theorem view_after_stepsOn {other : Session} (own : session.KeepsOwn) (otherOwn : other.KeepsOwn)
    (same : other.view x = session.view x) (steps : List Step) :
    (other.after (session.stepsOn x steps)).view x = (session.after steps).view x := by
  -- the two sessions go on showing the same, whether or not the second one takes the step
  induction steps generalizing session other with
  | nil => exact same
  | cons step rest ih =>
    rw [stepsOn, after_cons]
    split
    · refine ih (own.step step) (otherOwn.step step) ?_
      rw [view_step own, view_step otherOwn, same]
    · rename_i apart
      refine ih (own.step step) otherOwn ?_
      rw [view_step_of_not_concerns own (Bool.eq_false_iff.2 apart), same]

end Session

end PercentFormat
