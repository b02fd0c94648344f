import PercentFormat.Proofs.StreamHistory

/-! # The ways of formatting agree

A template may be formatted to a text, or to a stream with a count, and it may be given as a text or
be read beforehand. All these ways have the same text and the same fault. A template that has been
read stays what it is, whatever is done in between, so it may be applied any number of times.

* **`fprintf_eq_format`** — formatting to a stream is formatting to a text that is then written.
* **`Session.find?_templates_after`** — a run leaves templates as they are.
* **`Session.step_format_named`**, **`Session.step_fprintf_named`**,
  **`Session.step_apply_reread`**, **`Session.step_apply_eq_step_fprintf`** — a template that has
  been read does what its text does.
* **`formatting_agrees`** — all ways of formatting. -/

namespace PercentFormat

/-! ## Calls -/

/-- Sources that are applied alike are formatted alike. -/
theorem format_congr {s : Settings} {source other : Source} {c : Cursor}
    (same : source.apply s c = other.apply s c) : format s source c = format s other c := by
  rw [format, format, same]

/-- A call ends in a fault if and only if its outcome does, whatever its value is. -/
theorem Outcome.result_call_eq_error_iff {α : Type} {o : Outcome} {value : α} {fault : Fault} :
    (o.call value).result = .error fault ↔ o.fault? = some fault := by
  cases arisen : o.fault? with
  | none => simp [call_of_none arisen]
  | some other => simp [call_of_some arisen]

/-- Formatting to a stream is formatting to a text that is then written: it gives the number of
characters, and ends in a fault where formatting to a text does. -/
theorem fprintf_eq_format (s : Settings) (streams : Streams) (target : Nat) (source : Source)
    (args : List Value) :
    (fprintf s streams target source args).1.result
      = (format s source (Cursor.ofList args)).result.map List.length := by
  rw [fprintf_eq, format]
  cases fault : (source.apply s (Cursor.ofList args)).fault? with
  | none =>
    rw [Outcome.call_of_none fault, Outcome.call_of_none fault]
    rfl
  | some arisen =>
    rw [Outcome.call_of_some fault, Outcome.call_of_some fault]
    rfl

/-- A text that formatting gives is what the template has written. -/
theorem text_apply_of_format {s : Settings} {source : Source} {c : Cursor} {text : Text}
    (returns : (format s source c).result = .ok text) : (source.apply s c).text = text := by
  rw [format] at returns
  cases fault : (source.apply s c).fault? with
  | none =>
    rw [Outcome.call_of_none fault] at returns
    exact Except.ok.inj returns
  | some arisen =>
    rw [Outcome.call_of_some fault] at returns
    contradiction

/-- When formatting gives a text, formatting to a stream gives the number of its characters, and the
stream gains the text. -/
theorem fprintf_of_format {s : Settings} {source : Source} {args : List Value} {text : Text}
    (returns : (format s source (Cursor.ofList args)).result = .ok text) (streams : Streams)
    (target : Nat) :
    (fprintf s streams target source args).1.result = .ok text.length
      ∧ streams.Gains target text (fprintf s streams target source args).2 := by
  constructor
  · rw [fprintf_eq_format, returns]
    rfl
  · rw [fprintf_eq, text_apply_of_format returns]
    exact streams.gains_write target text

/-! ## Templates that have been read -/

/-- A template that has been read is applied like its text. -/
theorem Source.apply_template {t : Text} {f : Template} (read : Template.ofText t = .ok f)
    (s : Settings) (c : Cursor) : (Source.template f).apply s c = (Source.text t).apply s c :=
  (apply_text read s c).symm

/-- Putting a thing under the name that it has changes nothing. -/
theorem Table.put_of_find? {α : Type} {t : Table α} {name : Text} {x : α}
    (found : t.find? name = some x) : t.put name x = t := by
  induction t with
  | nil => contradiction
  | cons entry rest ih =>
    obtain ⟨other, y⟩ := entry
    by_cases same : other = name
    · subst same
      obtain rfl : y = x := by simpa [find?] using found
      rw [put, if_pos rfl]
    · rw [put, if_neg same, ih]
      simpa [find?, List.lookup_cons, beq_false_of_ne (Ne.symm same)] using found

namespace Session

variable {session : Session} {name : Text} {t : Text} {f : Template}

/-- **A run leaves templates as they are**, unless others are read under their names. -/
theorem find?_templates_after {steps : List Step} (kept : ∀ v, .newTemplate name v ∉ steps)
    (session : Session) :
    (session.after steps).templates.find? name = session.templates.find? name := by
  induction steps generalizing session with
  | nil => rfl
  | cons step rest ih =>
    obtain ⟨here, behind⟩ := Step.forall_not_mem_cons_iff.1 kept
    rw [after_cons, ih behind, find?_templates_step here]

/-- A text that can be read is put under its name. -/
theorem step_newTemplate (read : Template.ofText t = .ok f) (session : Session) (name : Text) :
    (session.step (.newTemplate name (.text t))).session
      = { session with templates := session.templates.put name f } := by
  simp only [Session.step, Template.ofValue, read]
  rfl

/-- A template that has been read formats to what its text formats to. -/
theorem step_format_named (found : session.templates.find? name = some f)
    (read : Template.ofText t = .ok f) (arguments : ArgumentsRef) :
    session.step (.format (.named name) arguments)
      = session.step (.format (.given (.text t)) arguments) := by
  have named : session.source? (.named name) = .ok (.template f) := by
    simp only [source?, found]
  have given : session.source? (.given (.text t)) = .ok (.text t) := rfl
  simp only [Session.step, formatText, named, given]
  cases session.cursor? arguments with
  | error fault => rfl
  | ok c => simp only [format_congr (Source.apply_template read session.settings c)]

/-- A template that has been read formats to a stream like its text. -/
theorem step_fprintf_named (found : session.templates.find? name = some f)
    (read : Template.ofText t = .ok f) (target : Text) (values : List Value) :
    session.step (.fprintf target (.named name) values)
      = session.step (.fprintf target (.given (.text t)) values) := by
  have named : session.source? (.named name) = .ok (.template f) := by
    simp only [source?, found]
  have given : session.source? (.given (.text t)) = .ok (.text t) := rfl
  simp only [Session.step, withNamed, formatStream, named, given, fprintf_eq,
    Source.apply_template read]

/-- A template that has been read is applied as if its text were read again. -/
theorem step_apply_reread (found : session.templates.find? name = some f)
    (read : Template.ofText t = .ok f) (target : Text) (arguments : ArgumentsRef) :
    session.step (.apply name target arguments)
      = (session.step (.newTemplate name (.text t))).session.step
          (.apply name target arguments) := by
  rw [step_newTemplate read, Table.put_of_find? found]

/-- Applying a template that has been read to a stream has the effects and the faults of formatting
its text to the stream. -/
theorem step_apply_eq_step_fprintf (found : session.templates.find? name = some f)
    (read : Template.ofText t = .ok f) (target : Text) (values : List Value) :
    let applied := session.step (.apply name target (.given values))
    let formatted := session.step (.fprintf target (.given (.text t)) values)
    applied.session = formatted.session ∧ applied.log = formatted.log
      ∧ ∀ fault, applied.result = .error fault ↔ formatted.result = .error fault := by
  intro applied formatted
  cases stream : session.streamNumbers.find? target with
  | none =>
    simp [applied, formatted, Session.step, withNamed, found, stream, refuse]
  | some number =>
    have given : session.source? (.given (.text t)) = .ok (.text t) := rfl
    simp only [applied, formatted, step_fprintf stream given, Session.step, withNamed, found,
      stream, cursor?, applyTo, Source.applyTo, Streams.writeAll_eq_write, keepCursor,
      Source.apply_template read]
    refine ⟨rfl, rfl, fun fault => ?_⟩
    simp only [ended, map_eq_error_iff, Outcome.result_call_eq_error_iff]

end Session

/-! ## All ways of formatting -/

/-- **The ways of formatting agree.** When a template formats to a text, formatting to any stream,
however many counters it lies under or is, gives the number of its characters, and the stream gains
the text. When it ends in a fault, they all end in this fault. A template that has been read does
what its text does, whatever steps are taken in between: formatted to a text or to a stream, it has
the same effects, and applied to a stream it has those of formatting to the stream. -/
theorem formatting_agrees (s : Settings) (source : Source) (args : List Value) :
    (∀ text, (format s source (Cursor.ofList args)).result = .ok text →
      (sprintf s source args).result = .ok text
      ∧ (∀ streams target, (fprintf s streams target source args).1.result = .ok text.length
        ∧ streams.Gains target text (fprintf s streams target source args).2)
      ∧ ∀ streams, (printf s streams source args).1.result = .ok text.length
        ∧ streams.Gains Streams.standardOutput text (printf s streams source args).2)
    ∧ (∀ fault, (format s source (Cursor.ofList args)).result = .error fault →
      (sprintf s source args).result = .error fault
      ∧ (∀ streams target, (fprintf s streams target source args).1.result = .error fault)
      ∧ ∀ streams, (printf s streams source args).1.result = .error fault)
    ∧ ∀ (start : Session) name t f steps, Template.ofText t = .ok f →
      (∀ v, .newTemplate name v ∉ steps) →
      let later := start.after (.newTemplate name (.text t) :: steps)
      (∀ arguments, later.step (.format (.named name) arguments)
        = later.step (.format (.given (.text t)) arguments))
      ∧ (∀ target values, later.step (.fprintf target (.named name) values)
        = later.step (.fprintf target (.given (.text t)) values))
      ∧ (∀ target arguments, later.step (.apply name target arguments)
        = (later.step (.newTemplate name (.text t))).session.step (.apply name target arguments))
      ∧ ∀ target values,
        let applied := later.step (.apply name target (.given values))
        let formatted := later.step (.fprintf target (.given (.text t)) values)
        applied.session = formatted.session ∧ applied.log = formatted.log
          ∧ ∀ fault, applied.result = .error fault ↔ formatted.result = .error fault := by
  refine ⟨fun text returns => ?_, fun fault arises => ?_, ?_⟩
  · exact ⟨returns, fun streams target => fprintf_of_format returns streams target,
      fun streams => fprintf_of_format returns streams Streams.standardOutput⟩
  · have everywhere (streams : Streams) (target : Nat) :
        (fprintf s streams target source args).1.result = .error fault := by
      rw [fprintf_eq_format, arises]
      rfl
    exact ⟨arises, everywhere, fun streams => everywhere streams Streams.standardOutput⟩
  · intro start name t f steps read kept later
    have found : later.templates.find? name = some f := by
      simp only [later]
      rw [Session.after_cons, Session.find?_templates_after kept, Session.step_newTemplate read,
        Table.find?_put_self]
    exact ⟨Session.step_format_named found read, Session.step_fprintf_named found read,
      Session.step_apply_reread found read, Session.step_apply_eq_step_fprintf found read⟩

/-- A template that is refused behind two characters, and one that is formatted to a counter over a
stream and is read beforehand. -/
theorem formatting_agrees_refused_and_counted :
    let strict : Settings := fun x => if x = .strict then .bool true else Settings.initial x
    let error : ParseError := ⟨Text.ofString "a%s%", 3, .incomplete⟩
    let streams : Streams := [.counter 0 5, .plain ['z']]
    let t := Text.ofString "a%s"
    let between : List Step := [.newStream ['s'], .format (.named ['f']) (.given [.null]),
      .newTemplate ['g'] (.text ['%'])]
    let later := Session.initial.after (.newTemplate ['f'] (.text t) :: between)
    (format strict (Source.text (Text.ofString "a%s%")) (Cursor.ofList [.text ['b']])).result
        = .error (.malformed error)
      ∧ (fprintf strict streams 1 (Source.text (Text.ofString "a%s%")) [.text ['b']]).1.result
        = .error (.malformed error)
      ∧ (format strict (Source.text t) (Cursor.ofList [.text ['b']])).result = .ok ['a', 'b']
      ∧ (fprintf strict streams 1 (Source.text t) [.text ['b']]).1.result = .ok 2
      ∧ (fprintf strict streams 1 (Source.text t) [.text ['b']]).2.find? 0
        = some (.plain ['z', 'a', 'b'])
      ∧ (fprintf strict streams 1 (Source.text t) [.text ['b']]).2.find? 1 = some (.counter 0 7)
      ∧ ∃ f, Template.ofText t = .ok f ∧ later.step (.format (.named ['f']) (.given [.text ['b']]))
        = later.step (.format (.given (.text t)) (.given [.text ['b']])) := by
  intro strict error streams t between later
  have cut : Template.ofText (Text.ofString "a%s%")
      = .ok ⟨Text.ofString "a%s%", [.literal ['a'], .directive ⟨⟨Flags.ofText [], .absent, .absent,
          none, .string⟩, ['%', 's'], 1, 3⟩], some error⟩ := by cbv
  have read : Template.ofText t
      = .ok ⟨t, [.literal ['a'], .directive ⟨⟨Flags.ofText [], .absent, .absent, none, .string⟩,
          ['%', 's'], 1, 3⟩], none⟩ := by cbv
  have refused : (format strict (Source.text (Text.ofString "a%s%"))
      (Cursor.ofList [.text ['b']])).result = .error (.malformed error) := by
    rw [format, Source.apply_text cut]
    rfl
  have returns : (format strict (Source.text t) (Cursor.ofList [.text ['b']])).result
      = .ok ['a', 'b'] := by
    rw [format, Source.apply_text read]
    rfl
  obtain ⟨-, faults, -⟩ :=
    formatting_agrees strict (Source.text (Text.ofString "a%s%")) [.text ['b']]
  obtain ⟨texts, -, prepared⟩ := formatting_agrees strict (Source.text t) [.text ['b']]
  obtain ⟨count, gains⟩ := (texts _ returns).2.1 streams 1
  have under : streams.Receives 1 0 :=
    .under (show streams.find? 1 = some (.counter 0 5) from rfl) (by decide) (.self 0)
  obtain ⟨formatted, -⟩ := prepared Session.initial ['f'] t _ between read (by simp [between])
  exact ⟨refused, (faults _ refused).2.1 streams 1, returns, count,
    gains.plain 0 ['z'] under rfl, gains.counter 1 0 5 (.self 1) rfl, _, read,
    formatted (.given [.text ['b']])⟩

end PercentFormat
