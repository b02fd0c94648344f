import PercentFormat.Streams
import PercentFormat.Template.Rendering

/-! # Formatting

* **`Source`** — a template as a value, or one that has been read before.
* **`Value.directiveBetween`** — a single directive in a part of a value.
* **`Call`** — the end of a call: its result, what it consumed, and what it reported.
* **`format`**, **`sprintf`** — the text that a template makes of arguments.
* **`fprintf`**, **`printf`** — the same text, written to a stream and counted. -/

namespace PercentFormat

/-- What may be given as a template. -/
inductive Source where
  /-- A value, which has to be a text. -/
  | value (v : Value)
  /-- A template that has been read before. -/
  | template (t : Template)

/-- A template given by its text. -/
def Source.text (t : Text) : Source := .value (.text t)

/-- The template of a value, which has to be a text. -/
def Template.ofValue : Value → Except Fault Template
  | .text t => Template.ofText t
  | _ => .error .templateNotText

/-- The directive between two offsets of a value, which has to be a text. -/
def Value.directiveBetween (v : Value) (start stop : Nat) : Except Fault Occurrence :=
  match v with
  | .text t => PercentFormat.directiveBetween t start stop
  | _ => do
    checkOffsets start stop
    throw .searchedNotText

/-- The template that a source stands for. -/
def Source.toTemplate : Source → Except Fault Template
  | value v => Template.ofValue v
  | template t => .ok t

/-- Applies the template of a source. If it cannot be read, nothing is written or consumed. -/
def Source.apply (s : Settings) (source : Source) (c : Cursor) : Outcome :=
  match source.toTemplate with
  | .ok t => t.apply s c
  | .error fault => ⟨[], c, some fault, []⟩

/-- A text that can be read as a template is applied like the template. -/
theorem Source.apply_text {t : Text} {f : Template} (read : Template.ofText t = .ok f)
    (s : Settings) (c : Cursor) : (Source.text t).apply s c = f.apply s c := by
  have template : (Source.text t).toTemplate = .ok f := read
  rw [Source.apply, template]

/-- A source that is no template ends in its fault. Nothing is written or consumed. -/
theorem Source.apply_of_error {source : Source} {fault : Fault}
    (unread : source.toTemplate = .error fault) (s : Settings) (c : Cursor) :
    source.apply s c = ⟨[], c, some fault, []⟩ := by
  rw [apply, unread]

/-- A text that cannot be read as a template ends in its fault. Nothing is written or consumed. -/
theorem Source.apply_text_of_error {t : Text} {fault : Fault}
    (unread : Template.ofText t = .error fault) (s : Settings) (c : Cursor) :
    (Source.text t).apply s c = ⟨[], c, some fault, []⟩ := by
  have noTemplate : (Source.text t).toTemplate = .error fault := unread
  exact Source.apply_of_error noTemplate s c

/-- Applies the template of a source to a stream, which receives each text as it is rendered. -/
def Source.applyTo (s : Settings) (source : Source) (streams : Streams) (target : Nat)
    (c : Cursor) : Outcome × Streams :=
  let o := source.apply s c
  (o, streams.writeAll target o.written)

/-- A stream receives the text of a template that is applied to it. -/
theorem Source.streams_applyTo (s : Settings) (source : Source) (streams : Streams) (target : Nat)
    (c : Cursor) :
    (source.applyTo s streams target c).2 = streams.write target (source.apply s c).text :=
  streams.writeAll_eq_write target _

/-- The end of a call: its result, the cursor behind the arguments that have been consumed, and
the errors that have been reported. -/
structure Call (α : Type) where
  /-- A value, unless there was a fault. -/
  result : Except Fault α
  /-- The cursor behind the arguments that have been consumed. -/
  cursor : Cursor
  /-- The errors of templates that were cut off without being refused. -/
  log : List ParseError

/-- A call that applies a template and gives `value` if there is no fault. -/
def Outcome.call {α : Type} (o : Outcome) (value : α) : Call α where
  result :=
    match o.fault? with
    | some fault => .error fault
    | none => .ok value
  cursor := o.cursor
  log := o.log

/-- Without a fault a call gives its value. -/
theorem Outcome.call_of_none {α : Type} {o : Outcome} (h : o.fault? = none) (value : α) :
    o.call value = ⟨.ok value, o.cursor, o.log⟩ := by
  simp only [call, h]

/-- An outcome that ends in a fault gives no value. -/
theorem Outcome.call_of_some {α : Type} {o : Outcome} {fault : Fault} (h : o.fault? = some fault)
    (value : α) : o.call value = ⟨.error fault, o.cursor, o.log⟩ := by
  simp only [call, h]

/-- The text of a template for the arguments of a cursor. -/
def format (s : Settings) (source : Source) (c : Cursor) : Call Text :=
  let o := source.apply s c
  o.call o.text

/-- A template whose tokens are rendered formats to their text, and reports what its application
reports. -/
theorem format_of_none {s : Settings} {t : Text} {f : Template} {c : Cursor}
    (read : Template.ofText t = .ok f) (returns : (f.apply s c).fault? = none) :
    format s (.text t) c
      = ⟨.ok (renderTokens s f.tokens c).text, (renderTokens s f.tokens c).cursor,
          (f.apply s c).log⟩ := by
  rw [format, Source.apply_text read, Outcome.call_of_none returns, Template.text_apply,
    Template.cursor_apply]

/-- A template that is not cut off, and whose tokens are rendered, formats to their text. Nothing is
reported. -/
theorem format_of_complete {s : Settings} {t : Text} {f : Template} {c : Cursor}
    (read : Template.ofText t = .ok f) (complete : f.error? = none)
    (rendered : (renderTokens s f.tokens c).fault? = none) :
    format s (.text t) c
      = ⟨.ok (renderTokens s f.tokens c).text, (renderTokens s f.tokens c).cursor, []⟩ := by
  obtain ⟨returns, silent⟩ := Template.apply_of_complete rendered complete
  rw [format_of_none read returns, silent]

/-- The text of a template for a list of arguments. -/
def sprintf (s : Settings) (source : Source) (args : List Value) : Call Text :=
  format s source (Cursor.ofList args)

/-- Writes the text of a template for a list of arguments to a stream, and gives the number of
characters written. What was written before a fault stays. -/
def fprintf (s : Settings) (streams : Streams) (target : Nat) (source : Source)
    (args : List Value) : Call Nat × Streams :=
  -- a counter of its own over the stream counts what is written through it
  let (counted, counter) := streams.add (.counter target 0)
  let (o, counted) := source.applyTo s counted counter (Cursor.ofList args)
  (o.call (counted.count counter).toNat, counted.tail)

/-- The count is the length of the text, and the stream receives the text. -/
theorem fprintf_eq (s : Settings) (streams : Streams) (target : Nat) (source : Source)
    (args : List Value) :
    fprintf s streams target source args
      = ((source.apply s (Cursor.ofList args)).call
          (source.apply s (Cursor.ofList args)).text.length,
        streams.write target (source.apply s (Cursor.ofList args)).text) := by
  have counted (text : Text) :
      Streams.count (.counter target text.length :: streams.write target text) streams.length
        = text.length := by
    rw [← Streams.length_write streams target text, Streams.count_counter]
  simp only [fprintf, Source.applyTo, Streams.add, Streams.writeAll_eq_write,
    Streams.write_counter, Int.zero_add, counted, Int.toNat_natCast, List.tail_cons]
  rfl

/-- Writes the text of a template for a list of arguments to standard output. -/
def printf (s : Settings) (streams : Streams) (source : Source) (args : List Value) :
    Call Nat × Streams :=
  fprintf s streams Streams.standardOutput source args

end PercentFormat
