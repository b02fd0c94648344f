import PercentFormat.Printf
import PercentFormat.Table

/-! # Sessions

A session holds named streams, cursors, templates and bindings, and the current values of the
variables. Its steps are taken one after the other; a step that ends in a fault leaves behind
what it has written and consumed, and the session goes on.

* **`Session`** — the state of a session.
* **`Step`** — what may be done in a session, and **`Reply`**, what comes back.
* **`Session.step`**, **`Session.run`** — one step, and several. -/

namespace PercentFormat

/-! ## The state -/

/-- The state of a session. -/
structure Session where
  /-- All streams. -/
  streams : Streams
  /-- The numbers of the named streams. -/
  streamNumbers : Table Nat
  /-- The named cursors. -/
  cursors : Table Cursor
  /-- The named templates. -/
  templates : Table Template
  /-- The named bindings. -/
  bindings : Table Binding
  /-- The values of the variables. -/
  settings : Settings

/-- A session with nothing in it, and the variables at their initial values. -/
def Session.initial : Session := ⟨Streams.initial, [], [], [], [], Settings.initial⟩

/-! ## Steps -/

/-- A template in a step: a named one, or a value to be read. -/
inductive TemplateRef where
  /-- A template of the session. -/
  | named (name : Text)
  /-- A value, which has to be a text. -/
  | given (v : Value)

/-- The arguments in a step: a cursor of the session, or a list of values. -/
inductive ArgumentsRef where
  /-- A cursor of the session, which goes on from where it is. -/
  | named (name : Text)
  /-- Values under a cursor of their own. -/
  | given (values : List Value)

/-- What may be done in a session. -/
inductive Step where
  /-- Makes a plain stream. -/
  | newStream (name : Text)
  /-- Makes a counter over a stream. -/
  | newCounter (name under : Text) (count : Int)
  /-- Writes to a stream. -/
  | write (target text : Text)
  /-- Makes a cursor over values. -/
  | newCursor (name : Text) (values : List Value)
  /-- Consumes an argument. -/
  | next (cursor : Text)
  /-- Reads a template. -/
  | newTemplate (name : Text) (v : Value)
  /-- Applies a template to a stream. -/
  | apply (template target : Text) (arguments : ArgumentsRef)
  /-- Formats to a text. -/
  | format (template : TemplateRef) (arguments : ArgumentsRef)
  /-- Formats to a stream and counts the characters. -/
  | fprintf (target : Text) (template : TemplateRef) (values : List Value)
  /-- Makes a binding of values to variables. -/
  | newBinding (name : Text) (entries : List (Text × Value))
  /-- Enters a binding. -/
  | enter (name : Text)
  /-- Exits a binding. -/
  | exit (name : Text)

/-- What a step gives back. -/
inductive Reply where
  /-- Nothing. -/
  | done
  /-- A value. -/
  | value (v : Value)
  /-- A template that was read. -/
  | template (t : Template)
  /-- The cursor that a template was applied with. -/
  | cursor (c : Cursor)
  /-- A text. -/
  | text (t : Text)
  /-- A number of characters. -/
  | count (n : Nat)
  /-- A binding was entered. -/
  | entered

/-- The effect of a step. -/
structure StepEffect where
  /-- The session after the step. -/
  session : Session
  /-- What the step gives back, unless there was a fault. -/
  result : Except Fault Reply
  /-- The errors that have been reported. -/
  log : List ParseError

namespace Session

/-- A step that changes the session and ends without a fault. -/
def done (session : Session) (reply : Reply) : StepEffect := ⟨session, .ok reply, []⟩

/-- A step that ends in a fault and changes nothing. -/
def refuse (session : Session) (fault : Fault) : StepEffect := ⟨session, .error fault, []⟩

/-- Goes on with what stands under a name. -/
def withNamed {α : Type} (session : Session) (table : Table α) (name : Text)
    (go : α → StepEffect) : StepEffect :=
  match table.find? name with
  | some x => go x
  | none => session.refuse (.unknownName name)

/-- Names a new stream. -/
def addStream (session : Session) (name : Text) (s : Stream) : Session :=
  let (streams, number) := session.streams.add s
  { session with streams, streamNumbers := session.streamNumbers.put name number }

/-- The source of a template in a step, when it is there. -/
def source? (session : Session) : TemplateRef → Except Fault Source
  | .named name =>
    match session.templates.find? name with
    | some t => .ok (.template t)
    | none => .error (.unknownName name)
  | .given v => .ok (.value v)

/-- The cursor of the arguments in a step, when it is there. -/
def cursor? (session : Session) : ArgumentsRef → Except Fault Cursor
  | .named name =>
    match session.cursors.find? name with
    | some c => .ok c
    | none => .error (.unknownName name)
  | .given values => .ok (Cursor.ofList values)

/-- Keeps the cursor of a session behind what has been consumed. -/
def keepCursor (session : Session) (arguments : ArgumentsRef) (c : Cursor) : Session :=
  match arguments with
  | .named name => { session with cursors := session.cursors.put name c }
  | .given _ => session

/-- The effect of a call on a session that it leaves behind. -/
def ended {α : Type} (session : Session) (call : Call α) (reply : α → Reply) : StepEffect :=
  ⟨session, call.result.map reply, call.log⟩

/-- Applies a template to a stream. -/
def applyTo (session : Session) (t : Template) (number : Nat) (arguments : ArgumentsRef)
    (c : Cursor) : StepEffect :=
  let (o, streams) :=
    (Source.template t).applyTo session.settings session.streams number c
  ({ session with streams }.keepCursor arguments o.cursor).ended (o.call o.cursor) .cursor

/-- Formats to a text. -/
def formatText (session : Session) (template : TemplateRef) (arguments : ArgumentsRef) :
    StepEffect :=
  match session.source? template, session.cursor? arguments with
  | .ok source, .ok c =>
    let call := PercentFormat.format session.settings source c
    (session.keepCursor arguments call.cursor).ended call .text
  | .error fault, _ => session.refuse fault
  | _, .error fault => session.refuse fault

/-- Formats to a stream. -/
def formatStream (session : Session) (number : Nat) (template : TemplateRef)
    (values : List Value) : StepEffect :=
  match session.source? template with
  | .ok source =>
    let (call, streams) :=
      PercentFormat.fprintf session.settings session.streams number source values
    { session with streams }.ended call .count
  | .error fault => session.refuse fault

/-- Takes one step. -/
def step (session : Session) : Step → StepEffect
  | .newStream name => (session.addStream name (.plain [])).done .done
  | .newCounter name under count =>
    session.withNamed session.streamNumbers under fun number =>
      (session.addStream name (.counter number count)).done .done
  | .write target text =>
    session.withNamed session.streamNumbers target fun number =>
      { session with streams := session.streams.write number text }.done .done
  | .newCursor name values =>
    { session with cursors := session.cursors.put name (Cursor.ofList values) }.done .done
  | .next name =>
    session.withNamed session.cursors name fun c =>
      { session with cursors := session.cursors.put name c.next.2 }.done (.value c.next.1)
  | .newTemplate name v =>
    match Template.ofValue v with
    | .ok t => { session with templates := session.templates.put name t }.done (.template t)
    | .error fault => session.refuse fault
  | .apply template target arguments =>
    session.withNamed session.templates template fun t =>
      session.withNamed session.streamNumbers target fun number =>
        match session.cursor? arguments with
        | .ok c => session.applyTo t number arguments c
        | .error fault => session.refuse fault
  | .format template arguments => session.formatText template arguments
  | .fprintf target template values =>
    session.withNamed session.streamNumbers target fun number =>
      session.formatStream number template values
  | .newBinding name entries =>
    match Assignment.ofEntries session.settings entries with
    | .ok values =>
      { session with bindings := session.bindings.put name (.ofAssignment values) }.done .done
    | .error fault => session.refuse fault
  | .enter name =>
    session.withNamed session.bindings name fun b =>
      let (b, settings) := b.enter session.settings
      { session with settings, bindings := session.bindings.put name b }.done .entered
  | .exit name =>
    session.withNamed session.bindings name fun b =>
      match b.exit session.settings with
      | .ok settings => { session with settings }.done .done
      | .error fault => session.refuse fault

/-- Takes steps in order, and gives the effect of each. -/
def run (session : Session) : List Step → List StepEffect
  | [] => []
  | step :: rest =>
    let effect := session.step step
    effect :: run effect.session rest

end Session

end PercentFormat
