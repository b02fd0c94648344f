import PercentFormat.Proofs.Interruption

/-! # What a step changes

A step that is refused changes nothing in a session, and any other step changes only what it is
about. So most of a session is the same behind a step.

* **`Session.Change`** — all ways in which a step can change a session, with **`Session.change`**.
* **`Session.streams_step_of_not`**, **`Session.streamNumbers_step`** — streams and their names
  behind the steps that are not about them.
* **`Session.find?_cursors_step_of_ne`**, **`Session.find?_templates_step`** — cursors and templates
  behind the steps that are not about them. -/

namespace PercentFormat

namespace Session

/-! ## Kept cursors -/

section KeepCursor

variable (session : Session) (arguments : ArgumentsRef) (c : Cursor)

/-- Keeping a cursor changes no stream. -/
@[simp] theorem streams_keepCursor :
    (session.keepCursor arguments c).streams = session.streams := by
  cases arguments <;> rfl

/-- Keeping a cursor names no stream. -/
@[simp] theorem streamNumbers_keepCursor :
    (session.keepCursor arguments c).streamNumbers = session.streamNumbers := by
  cases arguments <;> rfl

/-- Keeping a cursor changes no template. -/
@[simp] theorem templates_keepCursor :
    (session.keepCursor arguments c).templates = session.templates := by
  cases arguments <;> rfl

variable {arguments}

/-- Keeping a cursor changes none under another name. -/
theorem find?_cursors_keepCursor_of_ne {name : Text} (other : arguments ≠ .named name) :
    (session.keepCursor arguments c).cursors.find? name = session.cursors.find? name := by
  cases arguments with
  | given values => rfl
  | named present =>
    refine Table.find?_put_of_ne _ _ ?_
    rintro rfl
    exact other rfl

end KeepCursor

/-! ## Ways to change a session -/

/-- A step **changes** a session into another one: by what it does when all that it names is there,
or not at all. -/
inductive Change (session : Session) : Step → Session → Prop
  /-- A step that is refused. -/
  | refused (step : Step) : Change session step session
  /-- A plain stream is made. -/
  | newStream (name : Text) : Change session (.newStream name) (session.addStream name (.plain []))
  /-- A counter is made over a stream. -/
  | newCounter {name under : Text} {count : Int} {number : Nat}
      (found : session.streamNumbers.find? under = some number) :
      Change session (.newCounter name under count)
        (session.addStream name (.counter number count))
  /-- A text is written to a stream. -/
  | write {target text : Text} {number : Nat}
      (found : session.streamNumbers.find? target = some number) :
      Change session (.write target text)
        { session with streams := session.streams.write number text }
  /-- A cursor is made. -/
  | newCursor (name : Text) (values : List Value) :
      Change session (.newCursor name values)
        { session with cursors := session.cursors.put name (Cursor.ofList values) }
  /-- A cursor moves by one argument. -/
  | next {name : Text} {c : Cursor} (found : session.cursors.find? name = some c) :
      Change session (.next name)
        { session with cursors := session.cursors.put name c.next.2 }
  /-- A template is read. -/
  | newTemplate {name : Text} {v : Value} {t : Template} (read : Template.ofValue v = .ok t) :
      Change session (.newTemplate name v)
        { session with templates := session.templates.put name t }
  /-- A stream receives what a template writes, and a cursor moves. -/
  | apply {template target : Text} {arguments : ArgumentsRef} {t : Template} {number : Nat}
      {c : Cursor} (found : session.templates.find? template = some t)
      (stream : session.streamNumbers.find? target = some number)
      (cursor : session.cursor? arguments = .ok c) :
      Change session (.apply template target arguments)
        ({ session with
            streams := session.streams.write number (t.apply session.settings c).text }.keepCursor
          arguments (t.apply session.settings c).cursor)
  /-- A cursor moves. -/
  | format {template : TemplateRef} {arguments : ArgumentsRef} {source : Source} {c : Cursor}
      (known : session.source? template = .ok source) (cursor : session.cursor? arguments = .ok c) :
      Change session (.format template arguments)
        (session.keepCursor arguments (source.apply session.settings c).cursor)
  /-- A stream receives what a template writes. -/
  | fprintf {target : Text} {template : TemplateRef} {values : List Value} {source : Source}
      {number : Nat} (stream : session.streamNumbers.find? target = some number)
      (known : session.source? template = .ok source) :
      Change session (.fprintf target template values)
        { session with
          streams := session.streams.write number
            (source.apply session.settings (Cursor.ofList values)).text }
  /-- A binding is made. -/
  | newBinding {name : Text} {entries : List (Text × Value)} {values : Assignment}
      (made : Assignment.ofEntries session.settings entries = .ok values) :
      Change session (.newBinding name entries)
        { session with bindings := session.bindings.put name (.ofAssignment values) }
  /-- A binding is entered. -/
  | enter {name : Text} {b : Binding} (found : session.bindings.find? name = some b) :
      Change session (.enter name)
        { session with
          settings := (b.enter session.settings).2
          bindings := session.bindings.put name (b.enter session.settings).1 }
  /-- A binding is exited. -/
  | exit {name : Text} {b : Binding} {settings : Settings}
      (found : session.bindings.find? name = some b)
      (left : b.exit session.settings = .ok settings) :
      Change session (.exit name) { session with settings }

/-- **Every step** changes a session in one of these ways. -/
theorem change (session : Session) (step : Step) :
    session.Change step (session.step step).session := by
  -- a step is refused where something that it names is missing, or cannot be read or made
  cases step with
  | newStream name => exact .newStream name
  | newCounter name under count =>
    simp only [step, withNamed]
    split
    · exact .newCounter ‹_›
    · exact .refused _
  | write target text =>
    simp only [step, withNamed]
    split
    · exact .write ‹_›
    · exact .refused _
  | newCursor name values => exact .newCursor name values
  | next name =>
    simp only [step, withNamed]
    split
    · exact .next ‹_›
    · exact .refused _
  | newTemplate name v =>
    simp only [step]
    split
    · exact .newTemplate ‹_›
    · exact .refused _
  | apply template target arguments =>
    simp only [step, withNamed]
    split
    · split
      · split
        · simp only [applyTo, Source.applyTo, Streams.writeAll_eq_write]
          exact .apply ‹_› ‹_› ‹_›
        · exact .refused _
      · exact .refused _
    · exact .refused _
  | format template arguments =>
    simp only [step, formatText]
    split
    · exact .format ‹_› ‹_›
    · exact .refused _
    · exact .refused _
  | fprintf target template values =>
    simp only [step, withNamed, formatStream, fprintf_eq]
    split
    · split
      · exact .fprintf ‹_› ‹_›
      · exact .refused _
    · exact .refused _
  | newBinding name entries =>
    simp only [step]
    split
    · exact .newBinding ‹_›
    · exact .refused _
  | enter name =>
    simp only [step, withNamed]
    split
    · exact .enter ‹_›
    · exact .refused _
  | exit name =>
    simp only [step, withNamed]
    split
    · split
      · exact .exit ‹_› ‹_›
      · exact .refused _
    · exact .refused _

end Session

/-! ## What stays as it is -/

/-- A step is about **streams** if it makes one or writes to one. -/
def Step.OnStreams : Step → Prop
  | .newStream _ | .newCounter _ _ _ | .write _ _ | .apply _ _ _ | .fprintf _ _ _ => True
  | _ => False

/-- The name of the cursor that a step takes arguments from, if any. -/
def Step.cursorName? : Step → Option Text
  | .next name | .apply _ _ (.named name) | .format _ (.named name) => some name
  | _ => none

/-- The steps that take arguments from a cursor. -/
theorem Step.cases_of_cursorName? {step : Step} {name : Text}
    (used : step.cursorName? = some name) :
    step = .next name ∨ (∃ template target, step = .apply template target (.named name))
      ∨ ∃ template, step = .format template (.named name) := by
  unfold cursorName? at used
  split at used <;> simp_all

/-- There is no step of a kind in a list if there is none in front, and none behind it. -/
theorem Step.forall_not_mem_cons_iff {α : Type} {kind : α → Step} {step : Step}
    {rest : List Step} :
    (∀ x, kind x ∉ step :: rest) ↔ (∀ x, step ≠ kind x) ∧ ∀ x, kind x ∉ rest := by
  simp only [List.mem_cons, not_or, forall_and, ne_comm (a := step)]

namespace Session

/-- A step that is not about streams leaves them as they are. -/
theorem streams_step_of_not {step : Step} (other : ¬ step.OnStreams) (session : Session) :
    (session.step step).session.streams = session.streams := by
  have change := session.change step
  generalize (session.step step).session = later at change ⊢
  cases change with
  | format => exact streams_keepCursor _ _ _
  | newStream | newCounter | write | apply | fprintf => exact absurd trivial other
  | _ => rfl

/-- A step that makes no stream names none. -/
theorem streamNumbers_step {step : Step} (noStream : ∀ name, step ≠ .newStream name)
    (noCounter : ∀ name under count, step ≠ .newCounter name under count) (session : Session) :
    (session.step step).session.streamNumbers = session.streamNumbers := by
  have change := session.change step
  generalize (session.step step).session = later at change ⊢
  cases change with
  | newStream name => exact absurd rfl (noStream name)
  | newCounter => exact absurd rfl (noCounter _ _ _)
  | apply => exact streamNumbers_keepCursor _ _ _
  | format => exact streamNumbers_keepCursor _ _ _
  | _ => rfl

/-- A step that neither makes nor uses a cursor under a name leaves the one that is there. -/
theorem find?_cursors_step_of_ne {name : Text} {step : Step}
    (kept : ∀ values, step ≠ .newCursor name values) (unused : step.cursorName? ≠ some name)
    (session : Session) :
    (session.step step).session.cursors.find? name = session.cursors.find? name := by
  have change := session.change step
  generalize (session.step step).session = later at change ⊢
  cases change with
  | newCursor other values =>
    have different : name ≠ other := by
      rintro rfl
      exact kept values rfl
    exact Table.find?_put_of_ne _ _ different
  | @next other c found =>
    have different : name ≠ other := by
      rintro rfl
      exact unused rfl
    exact Table.find?_put_of_ne _ _ different
  | @apply template target arguments =>
    have different : arguments ≠ .named name := by
      rintro rfl
      exact unused rfl
    exact find?_cursors_keepCursor_of_ne _ _ different
  | @format template arguments =>
    have different : arguments ≠ .named name := by
      rintro rfl
      exact unused rfl
    exact find?_cursors_keepCursor_of_ne _ _ different
  | _ => rfl

/-- A step that reads no template under a name leaves the one that is there. -/
theorem find?_templates_step {name : Text} {step : Step} (kept : ∀ v, step ≠ .newTemplate name v)
    (session : Session) :
    (session.step step).session.templates.find? name = session.templates.find? name := by
  have change := session.change step
  generalize (session.step step).session = later at change ⊢
  cases change with
  | @newTemplate other v t read =>
    have different : name ≠ other := by
      rintro rfl
      exact kept v rfl
    exact Table.find?_put_of_ne _ _ different
  | apply => rw [templates_keepCursor]
  | format => rw [templates_keepCursor]
  | _ => rfl

end Session

end PercentFormat
