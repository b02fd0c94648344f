import PercentFormat.Proofs.HandedOut
import PercentFormat.Proofs.StreamHistory

/-! # What formatting leaves alone

Streams, counters, cursors, templates and bindings are shared by all steps of a session. A step that
formats writes to one stream and takes values from one cursor at most, and everything else is the
same behind it, also when it ends in a fault. So behind several such steps, however they are mixed,
a stream is the same unless one of them writes to it or to a counter above it, and a cursor is the
same unless one of them takes values from it.

* **`Session.Reaches`** — the streams that a step writes to, and those under them.
* **`Session.Frame`** — what formatting steps may do to a session, with **`Session.Frame.trans`**.
* **`Session.frame_step`**, **`Session.frame_after`** — one step that formats, and several.
* **`Session.formatting_frame`** — all that is the same behind steps that format. -/

namespace PercentFormat

/-! ## Steps that format -/

/-- A step **formats** if it applies a template, to a stream or to get a text. -/
def Step.Formats : Step → Prop
  | .apply _ _ _ | .format _ _ | .fprintf _ _ _ => True
  | _ => False

/-- The name of the stream that a step formats to, if any. -/
def Step.targetName? : Step → Option Text
  | .apply _ target _ | .fprintf target _ _ => some target
  | _ => none

/-- A step **reaches** a stream if it formats to this stream, or to a counter above it. -/
def Session.Reaches (session : Session) (step : Step) (j : Nat) : Prop :=
  ∃ i ∈ step.targetName?.bind session.streamNumbers.find?, session.streams.Receives i j

instance (session : Session) (step : Step) (j : Nat) : Decidable (session.Reaches step j) :=
  inferInstanceAs (Decidable (∃ i ∈ step.targetName?.bind session.streamNumbers.find?,
    session.streams.Receives i j))

/-- The **frame** of steps that format: what they may change of a session, and what they leave
alone. -/
structure Session.Frame (steps : List Step) (session later : Session) : Prop where
  /-- Nothing but streams and cursors changes. -/
  rest : later = { session with streams := later.streams, cursors := later.cursors }
  /-- No stream is made. -/
  length : later.streams.length = session.streams.length
  /-- Each stream has received some text, at its end. -/
  received : ∀ j, ∃ text,
    later.streams.find? j = (session.streams.find? j).map (Stream.receive text)
  /-- Streams that no step reaches are the same. -/
  streams : ∀ j, (∀ step ∈ steps, ¬ session.Reaches step j) →
    later.streams.find? j = session.streams.find? j
  /-- Cursors that no step takes values from are the same. -/
  cursors : ∀ name, (∀ step ∈ steps, step.cursorName? ≠ some name) →
    later.cursors.find? name = session.cursors.find? name
  /-- All streams are the same if no step formats to one. -/
  quiet : (∀ step ∈ steps, step.targetName? = none) → later.streams = session.streams

namespace Session

variable {session later last : Session} {steps : List Step}

/-! ## Frames -/

namespace Frame

/-- A session that does not change is within every frame. -/
theorem refl (steps : List Step) (session : Session) : Frame steps session session where
  rest := rfl
  length := rfl
  received := fun j => ⟨[], by cases session.streams.find? j <;> simp⟩
  streams := fun _ _ => rfl
  cursors := fun _ _ => rfl
  quiet := fun _ => rfl

/-- A frame of some steps is one of more steps. -/
theorem mono {more : List Step} (frame : Frame steps session later) (sub : steps ⊆ more) :
    Frame more session later where
  rest := frame.rest
  length := frame.length
  received := frame.received
  streams := fun j free => frame.streams j fun step member => free step (sub member)
  cursors := fun name free => frame.cursors name fun step member => free step (sub member)
  quiet := fun none => frame.quiet fun step member => none step (sub member)

/-- Within a frame the names of streams are the same. -/
theorem streamNumbers_eq (frame : Frame steps session later) :
    later.streamNumbers = session.streamNumbers := by
  rw [frame.rest]

/-- Within a frame the streams lie over each other as before. -/
theorem under?_eq (frame : Frame steps session later) (i : Nat) :
    (later.streams.find? i).bind Stream.under? = (session.streams.find? i).bind Stream.under? := by
  obtain ⟨text, same⟩ := frame.received i
  rw [same]
  cases session.streams.find? i <;> simp

/-- Within a frame each step reaches the streams that it reached before. -/
theorem reaches_iff (frame : Frame steps session later) {step : Step} {j : Nat} :
    later.Reaches step j ↔ session.Reaches step j := by
  rw [Reaches, Reaches, frame.streamNumbers_eq]
  have same (i : Nat) : later.streams.Receives i j ↔ session.streams.Receives i j :=
    ⟨.congr frame.under?_eq, .congr fun i => (frame.under?_eq i).symm⟩
  simp only [same]

/-- Frames compose: what is left alone in both of two changes is left alone. -/
theorem trans (first : Frame steps session later) (second : Frame steps later last) :
    Frame steps session last where
  rest := by rw [second.rest, first.rest]
  length := second.length.trans first.length
  received := fun j => by
    obtain ⟨text, before⟩ := first.received j
    obtain ⟨more, behind⟩ := second.received j
    refine ⟨text ++ more, ?_⟩
    rw [behind, before]
    cases session.streams.find? j <;> simp
  streams := fun j free => by
    -- a step reaches the same streams in the middle as at first
    have apart := second.streams j fun step member reaches =>
      free step member (first.reaches_iff.1 reaches)
    exact apart.trans (first.streams j free)
  cursors := fun name free => (second.cursors name free).trans (first.cursors name free)
  quiet := fun none => (second.quiet none).trans (first.quiet none)

end Frame

/-! ## Formatting within its frame -/

/-- Writing to the stream that a step formats to is within its frame. -/
theorem frame_write {step : Step} {target : Text} {i : Nat} (named : step.targetName? = some target)
    (found : session.streamNumbers.find? target = some i) (text : Text) :
    Frame [step] session { session with streams := session.streams.write i text } where
  rest := rfl
  length := session.streams.length_write i text
  received := fun j => ⟨_, session.streams.find?_write_eq i j text⟩
  streams := fun j free => by
    refine (session.streams.find?_write i j text).2 fun received => ?_
    exact free step List.mem_cons_self ⟨i, by simp [named, found], received⟩
  cursors := fun _ _ => rfl
  quiet := fun none => by
    rw [none step List.mem_cons_self] at named
    contradiction

/-- Keeping the cursor that a step takes values from is within its frame. -/
theorem frame_keepCursor {step : Step} {arguments : ArgumentsRef}
    (used : ∀ name, arguments = .named name → step.cursorName? = some name) (session : Session)
    (c : Cursor) : Frame [step] session (session.keepCursor arguments c) := by
  have streams : (session.keepCursor arguments c).streams = session.streams :=
    session.streams_keepCursor arguments c
  constructor
  · cases arguments <;> rfl
  · rw [streams]
  · rw [streams]
    exact (Frame.refl [step] session).received
  · intro j _
    rw [streams]
  · intro name free
    exact session.find?_cursors_keepCursor_of_ne c fun here =>
      free step List.mem_cons_self (used name here)
  · exact fun _ => streams

/-- **A step that formats** stays within its frame, whether it ends in a fault or not. -/
theorem frame_step {step : Step} (formats : step.Formats) (session : Session) :
    Frame [step] session (session.step step).session := by
  have change := session.change step
  generalize (session.step step).session = later at change ⊢
  cases change with
  | refused => exact .refl _ session
  | @apply template target arguments t number c found stream cursor =>
    have written : Frame [.apply template target arguments] session
        { session with
          streams := session.streams.write number (t.apply session.settings c).text } :=
      frame_write rfl stream _
    refine written.trans (frame_keepCursor ?_ _ _)
    rintro name rfl
    rfl
  | format known cursor =>
    refine frame_keepCursor ?_ _ _
    rintro name rfl
    rfl
  | fprintf stream known => exact frame_write rfl stream _
  | _ => exact formats.elim

/-- **Steps that format** stay within their frame. -/
theorem frame_after (formatting : ∀ step ∈ steps, step.Formats) (session : Session) :
    Frame steps session (session.after steps) := by
  induction steps generalizing session with
  | nil => exact .refl [] session
  | cons step rest ih =>
    have first := frame_step (formatting step List.mem_cons_self) session
    have others := ih (fun step member => formatting step (List.mem_cons_of_mem _ member))
      (session.step step).session
    exact (first.mono (by simp)).trans (others.mono (by simp))

/-- A step that formats makes no cursor. -/
theorem newCursor_notMem (formatting : ∀ step ∈ steps, step.Formats) (name : Text)
    (values : List Value) : .newCursor name values ∉ steps :=
  fun member => formatting _ member

/-- **What formatting leaves alone.** Let one or more steps be taken in any session, each of which
applies a template to a stream, formats to a text, or formats to a stream, whether it ends in a
fault or not.

* The variables, the templates with their tokens and errors, and the bindings are the same, and no
  stream is made or named.
* A stream is the same unless a step formats to it or to a counter above it. A cursor is the same
  unless a step takes values from it.
* A plain stream has kept its text, and may have collected more behind it. A counter lies where it
  did, and counts no less. A cursor has moved forward over its values, if at all.
* Steps that format to get a text change no stream. -/
theorem formatting_frame (session : Session) {steps : List Step}
    (formatting : ∀ step ∈ steps, step.Formats) :
    let last := session.after steps
    (last.settings = session.settings ∧ last.templates = session.templates
      ∧ last.bindings = session.bindings ∧ last.streamNumbers = session.streamNumbers
      ∧ last.streams.length = session.streams.length)
    ∧ (∀ j, (∀ step ∈ steps, ¬ session.Reaches step j) →
      last.streams.find? j = session.streams.find? j)
    ∧ (∀ name, (∀ step ∈ steps, step.cursorName? ≠ some name) →
      last.cursors.find? name = session.cursors.find? name)
    ∧ (∀ j before, session.streams.find? j = some (.plain before) →
      ∃ text, last.streams.find? j = some (.plain (before ++ text)))
    ∧ (∀ j under count, session.streams.find? j = some (.counter under count) →
      ∃ n : Nat, last.streams.find? j = some (.counter under (count + n)))
    ∧ (∀ name c, session.cursors.find? name = some c →
      ∃ n, last.cursors.find? name = some (c.advance n))
    ∧ ((∀ step ∈ steps, step.targetName? = none) → last.streams = session.streams) := by
  intro last
  have frame : Frame steps session last := frame_after formatting session
  refine ⟨?_, frame.streams, frame.cursors, fun j before here => ?_, fun j under count here => ?_,
    fun name c found => exists_cursor_after found (newCursor_notMem formatting name), frame.quiet⟩
  · refine ⟨?_, ?_, ?_, frame.streamNumbers_eq, frame.length⟩ <;> rw [frame.rest]
  · obtain ⟨text, same⟩ := frame.received j
    exact ⟨text, by rw [same, here]; rfl⟩
  · obtain ⟨text, same⟩ := frame.received j
    exact ⟨text.length, by rw [same, here]; rfl⟩

/-- A malformed template is refused behind a counter, and its cursor is taken on by a template that
is formatted to a text. A third template is formatted to the stream under the counter. The stream
and the cursor beside them are the same, and the text under the counter has grown. -/
theorem formatting_frame_shared_cursor :
    let field : Occurrence := ⟨⟨Flags.ofText [], .absent, .absent, none, .string⟩,
      Text.ofString "%s", 0, 2⟩
    let cut : Template := ⟨Text.ofString "%s%", [.directive field],
      some ⟨Text.ofString "%s%", 2, .incomplete⟩⟩
    let whole : Template := ⟨Text.ofString "%s", [.directive field], none⟩
    let start : Session :=
      { initial with
        streams := [.plain ['o'], .counter 1 0, .plain ['k'], .plain []]
        streamNumbers := [(['s'], 1), (['a'], 2), (['o'], 3)]
        cursors := [(['c'], Cursor.ofList [.text ['x'], .text ['y']]),
          (['d'], Cursor.ofList [.text ['z']])]
        templates := [(['f'], cut), (['g'], whole)]
        settings := fun x => if x = .strict then .bool true else Settings.initial x }
    let refused : Step := .apply ['f'] ['a'] (.named ['c'])
    let steps : List Step := [refused, .format (.named ['g']) (.named ['c']),
      .fprintf ['s'] (.named ['g']) [.text ['w']]]
    (∀ step ∈ steps, step.Formats)
      ∧ (∀ step ∈ steps, ¬ start.Reaches step 3)
      ∧ (∀ step ∈ steps, step.cursorName? ≠ some ['d'])
      ∧ (start.step refused).result = .error (.malformed ⟨Text.ofString "%s%", 2, .incomplete⟩)
      ∧ (start.after steps).settings = start.settings
      ∧ (start.after steps).templates = [(['f'], cut), (['g'], whole)]
      ∧ (start.after steps).streams.find? 3 = some (.plain ['o'])
      ∧ (start.after steps).cursors.find? ['d'] = some (Cursor.ofList [.text ['z']])
      ∧ (∃ text, (start.after steps).streams.find? 1 = some (.plain (['k'] ++ text)))
      ∧ (start.after [.format (.named ['g']) (.named ['c'])]).streams = start.streams := by
  intro field cut whole start refused steps
  have formatting : ∀ step ∈ steps, step.Formats := by simp [steps, refused, Step.Formats]
  have apart : ∀ step ∈ steps, ¬ start.Reaches step 3 := by decide
  have unused : ∀ step ∈ steps, step.cursorName? ≠ some ['d'] := by decide
  obtain ⟨⟨settings, templates, -⟩, streams, cursors, grown, -⟩ :=
    formatting_frame start formatting
  have toText : ∀ step ∈ [Step.format (.named ['g']) (.named ['c'])], step.Formats := by
    simp [Step.Formats]
  obtain ⟨-, -, -, -, -, -, quiet⟩ := formatting_frame start toText
  exact ⟨formatting, apart, unused, rfl, settings, templates, streams 3 apart,
    cursors ['d'] unused, grown 1 ['k'] rfl, quiet (by simp [Step.targetName?])⟩

end Session

end PercentFormat
