import PercentFormat.Proofs.Entries

/-! # Nested bindings

A binding sets its variables when it is entered and gives them back what they had when it is
exited. Blocks that lie in each other, each from the entry of a binding to its exit, leave all
variables as they were, whatever is formatted in between, as long as no binding is entered again
inside its own block. Entered twice, it has forgotten what the variables had at first.

* **`Session.after`** — the session behind several steps, with **`Session.getElem?_run`**.
* **`Bracketed`** — steps whose entries and exits make up blocks.
* **`Session.Keeps`** — the same settings, and the same bindings under some names.
* **`Session.settings_after_block`** — a block gives back the settings in front of it.
* **`Bracketed.settings_after`** — bracketed steps restore all settings, and so does each exit. -/

namespace PercentFormat

/-! ## Sessions behind several steps -/

namespace Session

/-- The session behind several steps. -/
def after (session : Session) (steps : List Step) : Session :=
  steps.foldl (fun session step => (session.step step).session) session

/-- Behind no steps a session is the same. -/
@[simp] theorem after_nil (session : Session) : session.after [] = session := rfl

/-- Behind a step the others go on. -/
@[simp] theorem after_cons (session : Session) (step : Step) (steps : List Step) :
    session.after (step :: steps) = (session.step step).session.after steps := rfl

/-- Steps behind others go on where these have ended. -/
theorem after_append (session : Session) (before behind : List Step) :
    session.after (before ++ behind) = (session.after before).after behind :=
  List.foldl_append

/-- The effects of a run are those of its steps, each taken behind the ones in front of it. -/
theorem getElem?_run (session : Session) (steps : List Step) (i : Nat) :
    (session.run steps)[i]? = steps[i]?.map (session.after (steps.take i)).step := by
  induction steps generalizing session i with
  | nil => rfl
  | cons step rest ih =>
    cases i with
    | zero => rfl
    | succ i => exact ih (session.step step).session i

/-! ## Steps of bindings -/

variable {session : Session} {name : Text}

/-- An entry sets the variables of the binding, which keeps what they had. -/
theorem step_enter_of_some {b : Binding} (found : session.bindings.find? name = some b) :
    (session.step (.enter name)).session
      = { session with
          settings := b.values.applyTo session.settings
          bindings := session.bindings.put name (b.enter session.settings).1 } := by
  simp only [step, withNamed, found]
  rfl

/-- Without a binding there is nothing to be entered. -/
theorem step_enter_of_none (missing : session.bindings.find? name = none) :
    (session.step (.enter name)).session = session := by
  simp only [step, withNamed, missing]
  rfl

/-- An exit gives back what the binding has kept. -/
theorem step_exit_of_some {b : Binding} {before : Assignment}
    (found : session.bindings.find? name = some b) (entered : b.before? = some before) :
    (session.step (.exit name)).session
      = { session with settings := before.applyTo session.settings } := by
  simp only [step, withNamed, found, Binding.exit, entered]
  rfl

/-- Without a binding that has been entered there is nothing to be exited. -/
theorem step_exit_of_none
    (none : ∀ b, session.bindings.find? name = some b → b.before? = Option.none) :
    (session.step (.exit name)).session = session := by
  cases found : session.bindings.find? name with
  | none =>
    simp only [step, withNamed, found]
    rfl
  | some b =>
    simp only [step, withNamed, found, Binding.exit, none b found]
    rfl

/-- An entry changes no other binding. -/
theorem find?_step_enter {other : Text} (different : other ≠ name) :
    (session.step (.enter name)).session.bindings.find? other = session.bindings.find? other := by
  cases found : session.bindings.find? name with
  | none => rw [step_enter_of_none found]
  | some b =>
    rw [step_enter_of_some found]
    exact Table.find?_put_of_ne _ _ different

/-- An exit changes no binding. -/
theorem bindings_step_exit (session : Session) (name : Text) :
    (session.step (.exit name)).session.bindings = session.bindings := by
  simp only [step, withNamed]
  split
  · split <;> rfl
  · rfl

end Session

/-! ## Blocks -/

/-- A step neither enters nor exits a binding, and makes none under the given names. -/
def Step.Spares (names : List Text) : Step → Prop
  | .enter _ => False
  | .exit _ => False
  | .newBinding name _ => name ∉ names
  | _ => True

/-- Steps are **bracketed** inside the blocks of some bindings if their entries and exits make up
blocks that lie in each other, and if no binding is made in the place of one whose block has not
ended. Unless `reentry` is allowed, no binding is entered inside its own block. -/
inductive Bracketed (reentry : Bool) : List Text → List Step → Prop where
  /-- No steps. -/
  | nil {active : List Text} : Bracketed reentry active []
  /-- A step that has nothing to do with the blocks. -/
  | other {active : List Text} {step : Step} {rest : List Step} (spares : step.Spares active)
      (behind : Bracketed reentry active rest) : Bracketed reentry active (step :: rest)
  /-- A block, from the entry of a binding to its exit. -/
  | block {active : List Text} {name : Text} {inner rest : List Step}
      (fresh : reentry = true ∨ name ∉ active) (inside : Bracketed reentry (name :: active) inner)
      (behind : Bracketed reentry active rest) :
      Bracketed reentry active (.enter name :: (inner ++ .exit name :: rest))

/-- A step that spares names spares fewer of them. -/
theorem Step.Spares.anti {fewer more : List Text} (sub : fewer ⊆ more) {step : Step}
    (spares : step.Spares more) : step.Spares fewer := by
  cases step with
  | newBinding name entries => exact fun member => spares (sub member)
  | enter name => exact spares
  | exit name => exact spares
  | _ => trivial

/-- Steps that are bracketed inside some blocks are bracketed inside fewer. -/
theorem Bracketed.anti {reentry : Bool} {fewer more : List Text} {steps : List Step}
    (bracketed : Bracketed reentry more steps) (sub : fewer ⊆ more) :
    Bracketed reentry fewer steps := by
  induction bracketed generalizing fewer with
  | nil => exact .nil
  | other spares behind ih => exact .other (spares.anti sub) (ih sub)
  | block fresh inside behind ihInside ihBehind =>
    exact .block (fresh.imp id fun new member => new (sub member))
      (ihInside (List.cons_subset_cons _ sub)) (ihBehind sub)

/-- Where an element stands between the parts of a list with another element in its middle: in the
first part, in the middle, or in the last part. -/
theorem cases_of_append_cons_eq {α : Type} {first last before behind : List α} {x y : α}
    (same : first ++ x :: last = before ++ y :: behind) :
    (∃ more, first = before ++ y :: more) ∨ (first = before ∧ x = y)
      ∨ ∃ more, before = first ++ x :: more ∧ last = more ++ y :: behind := by
  rcases List.append_eq_append_iff.1 same with ⟨more, front, back⟩ | ⟨more, front, back⟩
  · rcases List.cons_eq_append_iff.1 back with ⟨rfl, rest⟩ | ⟨more, rfl, rest⟩
    · rw [List.append_nil] at front
      exact .inr (.inl ⟨front.symm, (List.cons.inj rest).1.symm⟩)
    · exact .inr (.inr ⟨more, front, rest⟩)
  · rcases List.cons_eq_append_iff.1 back with ⟨rfl, rest⟩ | ⟨more, rfl, rest⟩
    · rw [List.append_nil] at front
      exact .inr (.inl ⟨front, (List.cons.inj rest).1⟩)
    · exact .inl ⟨more, front⟩

/-- **Each exit ends a block.** In front of it there is the entry of its binding, and the steps
between them are bracketed. -/
theorem Bracketed.exists_block {reentry : Bool} {active : List Text} {steps : List Step}
    (bracketed : Bracketed reentry active steps) {before behind : List Step} {name : Text}
    (split : steps = before ++ .exit name :: behind) :
    ∃ outside inner, before = outside ++ .enter name :: inner
      ∧ Bracketed reentry [name] inner := by
  -- the induction follows the blocks from the outside; the exit is looked for in each of them
  induction bracketed generalizing before behind name with
  | nil => simp at split
  | @other active step rest spares _ ih =>
    rcases List.cons_eq_append_iff.1 split with ⟨rfl, first⟩ | ⟨before, rfl, others⟩
    · obtain ⟨rfl, -⟩ := List.cons.inj first
      exact spares.elim
    · obtain ⟨outside, inner, rfl, inside⟩ := ih others
      exact ⟨step :: outside, inner, rfl, inside⟩
  | @block active entered inner rest _ inside _ ihInside ihBehind =>
    rcases List.cons_eq_append_iff.1 split with ⟨rfl, first⟩ | ⟨before, rfl, others⟩
    · simp at first
    · -- the exit lies in the block, or ends it, or lies behind it
      rcases cases_of_append_cons_eq others with ⟨more, within⟩ | ⟨rfl, same⟩ | ⟨more, rfl, later⟩
      · obtain ⟨outside, inner', rfl, inside'⟩ := ihInside within
        exact ⟨.enter entered :: outside, inner', rfl, inside'⟩
      · obtain rfl := Step.exit.inj same
        exact ⟨[], inner, rfl, inside.anti (by simp)⟩
      · obtain ⟨outside, inner', rfl, inside'⟩ := ihBehind later
        exact ⟨.enter entered :: (inner ++ .exit entered :: outside), inner', by simp, inside'⟩

/-! ## What bracketed steps keep -/

/-- A session **keeps** another one's settings, and what stands under some names of bindings. -/
structure Session.Keeps (names : List Text) (before after : Session) : Prop where
  /-- All variables have the same values. -/
  settings : after.settings = before.settings
  /-- The same bindings stand under these names, with what they have kept. -/
  bindings : ∀ name ∈ names, after.bindings.find? name = before.bindings.find? name

namespace Session

variable {session : Session} {name : Text}

/-- A session keeps what it has. -/
theorem Keeps.refl (names : List Text) (session : Session) : Keeps names session session :=
  ⟨rfl, fun _ _ => rfl⟩

/-- What is kept by one session and the next is kept. -/
theorem Keeps.trans {names : List Text} {first second third : Session}
    (before : Keeps names first second) (behind : Keeps names second third) :
    Keeps names first third :=
  ⟨behind.settings.trans before.settings, fun name member =>
    (behind.bindings name member).trans (before.bindings name member)⟩

/-- What is kept under some names is kept under fewer. -/
theorem Keeps.anti {fewer more : List Text} {before after : Session}
    (keeps : Keeps more before after) (sub : fewer ⊆ more) : Keeps fewer before after :=
  ⟨keeps.settings, fun name member => keeps.bindings name (sub member)⟩

/-- What is done with a named thing keeps something if it is kept for each of these things. -/
theorem keeps_withNamed {α : Type} {names : List Text} {table : Table α} {go : α → StepEffect}
    (each : ∀ x, Keeps names session (go x).session) :
    Keeps names session (session.withNamed table name go).session := by
  unfold withNamed
  split
  · exact each _
  · exact .refl names session

/-- A cursor that goes on keeps the settings and the bindings. -/
theorem keeps_keepCursor (names : List Text) (session : Session) (arguments : ArgumentsRef)
    (c : Cursor) : Keeps names session (session.keepCursor arguments c) := by
  cases arguments <;> exact ⟨rfl, fun _ _ => rfl⟩

/-- Formatting to a text keeps the settings and the bindings, whether there is a fault or not. -/
theorem keeps_formatText (names : List Text) (session : Session) (template : TemplateRef)
    (arguments : ArgumentsRef) :
    Keeps names session (session.formatText template arguments).session := by
  unfold formatText
  split
  · exact keeps_keepCursor names session arguments _
  · exact .refl names session
  · exact .refl names session

/-- Formatting to a stream keeps the settings and the bindings, whether there is a fault or not. -/
theorem keeps_formatStream (names : List Text) (session : Session) (number : Nat)
    (template : TemplateRef) (values : List Value) :
    Keeps names session (session.formatStream number template values).session := by
  unfold formatStream
  split
  · exact ⟨rfl, fun _ _ => rfl⟩
  · exact .refl names session

/-- Applying a template keeps the settings and the bindings, whether there is a fault or not. -/
theorem keeps_applyTo (names : List Text) (session : Session) (t : Template) (number : Nat)
    (arguments : ArgumentsRef) (c : Cursor) :
    Keeps names session (session.applyTo t number arguments c).session := by
  cases arguments <;> exact ⟨rfl, fun _ _ => rfl⟩

/-- **A step that has nothing to do with blocks** keeps the settings, and the bindings that it
spares. -/
theorem keeps_of_spares {names : List Text} {step : Step} (spares : step.Spares names)
    (session : Session) : Keeps names session (session.step step).session := by
  cases step with
  | newStream name => exact ⟨rfl, fun _ _ => rfl⟩
  | newCounter name under count => exact keeps_withNamed fun number => ⟨rfl, fun _ _ => rfl⟩
  | write target text => exact keeps_withNamed fun number => ⟨rfl, fun _ _ => rfl⟩
  | newCursor name values => exact ⟨rfl, fun _ _ => rfl⟩
  | next cursor => exact keeps_withNamed fun c => ⟨rfl, fun _ _ => rfl⟩
  | newTemplate name v =>
    simp only [step]
    split
    · exact ⟨rfl, fun _ _ => rfl⟩
    · exact .refl names session
  | apply template target arguments =>
    refine keeps_withNamed fun t => keeps_withNamed fun number => ?_
    split
    · exact keeps_applyTo names session t number arguments _
    · exact .refl names session
  | format template arguments => exact keeps_formatText names session template arguments
  | fprintf target template values =>
    exact keeps_withNamed fun number => keeps_formatStream names session number template values
  | newBinding name entries =>
    simp only [step]
    split
    · refine ⟨rfl, fun other member => Table.find?_put_of_ne _ _ ?_⟩
      rintro rfl
      exact spares member
    · exact .refl names session
  | enter name => exact spares.elim
  | exit name => exact spares.elim

/-- **A block** gives back the settings in front of it, if the steps in it keep the settings and the
binding. -/
theorem settings_after_block {inner : List Step}
    (inside : ∀ session : Session, Keeps [name] session (session.after inner))
    (session : Session) :
    (session.after (.enter name :: (inner ++ [.exit name]))).settings = session.settings := by
  have kept := inside (session.step (.enter name)).session
  have same := kept.bindings name (List.mem_singleton.2 rfl)
  have settings := kept.settings
  rw [after_cons, after_append, after_cons, after_nil]
  generalize (session.step (.enter name)).session.after inner = last at same settings ⊢
  cases found : session.bindings.find? name with
  | none =>
    -- neither the entry nor the exit does anything
    rw [step_enter_of_none found] at same settings
    rw [found] at same
    rw [step_exit_of_none fun b other => by simp [same] at other]
    exact settings
  | some b =>
    rw [step_enter_of_some found] at same settings
    rw [Table.find?_put_self] at same
    rw [step_exit_of_some same rfl]
    change (b.values.saved session.settings).applyTo last.settings = session.settings
    rw [settings]
    exact Assignment.saved_applyTo_applyTo b.values session.settings

/-- A block keeps the settings and the bindings other than its own. -/
theorem keeps_block {names : List Text} {inner : List Step} (fresh : name ∉ names)
    (inside : ∀ session : Session, Keeps (name :: names) session (session.after inner))
    (session : Session) :
    Keeps names session (session.after (.enter name :: (inner ++ [.exit name]))) := by
  refine ⟨settings_after_block (fun session => (inside session).anti (by simp)) session,
    fun other member => ?_⟩
  have different : other ≠ name := by
    rintro rfl
    exact fresh member
  have kept := inside (session.step (.enter name)).session
  rw [after_cons, after_append, after_cons, after_nil, bindings_step_exit,
    kept.bindings other (List.mem_cons_of_mem name member), find?_step_enter different]

end Session

/-- **Bracketed steps** keep the settings and the bindings of all blocks that they lie in, if none
of these is entered again. -/
theorem Bracketed.keeps {active : List Text} {steps : List Step}
    (bracketed : Bracketed false active steps) (session : Session) :
    Session.Keeps active session (session.after steps) := by
  -- inside a block its own binding has to be kept too, or the exit would not give back what it does
  induction bracketed generalizing session with
  | nil => exact .refl _ session
  | other spares behind ih => exact (Session.keeps_of_spares spares session).trans (ih _)
  | @block active name inner rest fresh inside behind ihInside ihBehind =>
    have new : name ∉ active := fresh.resolve_left (by simp)
    have split : Step.enter name :: (inner ++ .exit name :: rest)
        = .enter name :: (inner ++ [.exit name]) ++ rest := by simp
    rw [split, Session.after_append]
    exact (Session.keeps_block new ihInside session).trans (ihBehind _)

/-- A binding gives the same values when it has been entered. -/
@[simp] theorem Binding.values_enter (b : Binding) (s : Settings) :
    (b.enter s).1.values = b.values := rfl

/-- What was saved from the settings changes nothing in them. -/
theorem Assignment.saved_applyTo_self (a : Assignment) (s : Settings) :
    (a.saved s).applyTo s = s := by
  funext x
  cases h : a x <;> simp [applyTo, saved, h]

/-- A binding that is entered twice and exited twice leaves its own values behind: at the second
entry it forgets what its variables had before the first one. -/
theorem Session.settings_after_reentry {session : Session} {name : Text} {b : Binding}
    (found : session.bindings.find? name = some b) :
    (session.after [.enter name, .enter name, .exit name, .exit name]).settings
      = b.values.applyTo session.settings := by
  -- the second exit finds the binding's own values in place already
  have first := Assignment.saved_applyTo_applyTo b.values (b.values.applyTo session.settings)
  have second := Assignment.saved_applyTo_self b.values (b.values.applyTo session.settings)
  rw [after_cons, step_enter_of_some found, after_cons,
    step_enter_of_some (Table.find?_put_self _ name _), after_cons,
    step_exit_of_some (Table.find?_put_self _ name _) rfl, after_cons,
    step_exit_of_some (Table.find?_put_self _ name _) rfl, after_nil]
  simp only [Binding.values_enter]
  rw [first, second]

/-- **Bindings in blocks restore all variables.** Behind bracketed steps in which no binding is
entered inside its own block, every variable has the value that it had in front of them. So it has
behind each exit, where the entry of the same binding in front of the block is the one that the exit
belongs to. The condition is needed: two blocks of one binding, one in the other, are bracketed and
end with its own values. -/
theorem Bracketed.settings_after {steps : List Step} (bracketed : Bracketed false [] steps)
    (session : Session) :
    (session.after steps).settings = session.settings
    ∧ (∀ before name behind, steps = before ++ .exit name :: behind →
      ∃ outside inner, before = outside ++ .enter name :: inner ∧ Bracketed false [name] inner
        ∧ (session.after (before ++ [.exit name])).settings = (session.after outside).settings)
    ∧ ∀ name b x v, session.bindings.find? name = some b → b.values x = some v →
      Bracketed true [] [.enter name, .enter name, .exit name, .exit name]
        ∧ (session.after [.enter name, .enter name, .exit name, .exit name]).settings x = v := by
  refine ⟨(bracketed.keeps session).settings, fun before name behind split => ?_,
    fun name b x v found bound => ⟨?_, ?_⟩⟩
  · obtain ⟨outside, inner, rfl, inside⟩ := bracketed.exists_block split
    refine ⟨outside, inner, rfl, inside, ?_⟩
    rw [List.append_assoc, Session.after_append]
    exact Session.settings_after_block (fun session => inside.keeps session)
      (session.after outside)
  · have inside : Bracketed true [name] (.enter name :: ([] ++ .exit name :: [])) :=
      .block (.inl rfl) .nil .nil
    exact .block (.inl rfl) inside .nil
  · rw [Session.settings_after_reentry found]
    exact Assignment.applyTo_of_some session.settings bound

/-- Two bindings of one variable, one inside the other, with a template that is refused between
them. -/
theorem settings_after_two_bindings :
    let a := Text.ofString "a"
    let b := Text.ofString "b"
    let steps : List Step := [.newBinding a [(Variable.strict.name, .whole 1)],
      .newBinding b [(Variable.strict.name, .whole 2), (Variable.generalPrecision.name, .whole 3)],
      .enter a, .enter b, .format (.given (.text ['%'])) (.given []), .exit b, .exit a]
    Bracketed false [] steps
      ∧ (Session.initial.after (steps.take 4)).settings .strict = .whole 2
      ∧ (Session.initial.after (steps.take 6)).settings .strict = .whole 1
      ∧ (Session.initial.after steps).settings = Settings.initial := by
  intro a b steps
  have inside : Bracketed false [b] [.format (.given (.text ['%'])) (.given [])] :=
    .other trivial .nil
  have inner : Bracketed false [a]
      (.enter b :: ([.format (.given (.text ['%'])) (.given [])] ++ .exit b :: [])) :=
    .block (.inr (by decide)) (.other trivial .nil) .nil
  have outer : Bracketed false [] (steps.drop 2) := .block (.inr List.not_mem_nil) inner .nil
  have bracketed : Bracketed false [] steps :=
    .other List.not_mem_nil (.other List.not_mem_nil outer)
  obtain ⟨whole, -, -⟩ := bracketed.settings_after Session.initial
  have block := Session.settings_after_block (fun session => inside.keeps session)
    (Session.initial.after (steps.take 3))
  -- the two bindings as they are made
  have first : Assignment.Admissible [(Variable.strict.name, .whole 1)] := by decide
  have second : Assignment.Admissible [(Variable.strict.name, .whole 2),
      (Variable.generalPrecision.name, .whole 3)] := by decide
  have entered : (Session.initial.after (steps.take 3)).settings .strict = .whole 1 := by
    simp only [steps, List.take, Session.after_cons,
      Session.step_newBinding_of_admissible first, Session.step_newBinding_of_admissible second]
    rfl
  have both : (Session.initial.after (steps.take 4)).settings .strict = .whole 2 := by
    simp only [steps, List.take, Session.after_cons,
      Session.step_newBinding_of_admissible first, Session.step_newBinding_of_admissible second]
    rfl
  exact ⟨bracketed, both, (congrFun block .strict).trans entered, whole⟩

end PercentFormat
