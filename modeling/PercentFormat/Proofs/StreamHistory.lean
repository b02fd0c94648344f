import PercentFormat.Proofs.NestedBindings
import PercentFormat.Proofs.StepChanges

/-! # What streams receive in a run

Counters may lie over counters to any depth, and several of them over one stream. However texts are
written to them, directly or by formatting, a plain stream collects all texts that are written to it
or to a counter above it, and a counter counts the characters of all texts that are written to it or
to a counter above it.

* **`Streams.receivers`** — the streams that receive what is written to one of them, as a list.
* **`Streams.find?_writeEach`** — what a stream becomes when texts are written to any streams.
* **`Streams.Gains`** — what one text changes.
* **`Session.madeBy`**, **`Session.history`** — the streams that a run makes, and the texts that it
  writes.
* **`Session.streams_after`** — a run leaves its streams as if all of them had been made first.
* **`Session.streams_in_run`** — the text of each plain stream and the count of each counter behind
  a run. -/

namespace PercentFormat

/-! ## Streams that receive texts -/

namespace Stream

/-- The number of the stream that a counter lies over. -/
def under? : Stream → Option Nat
  | plain _ => none
  | counter under _ => some under

/-- A stream that receives no characters stays as it is. -/
@[simp] theorem receive_nil (s : Stream) : s.receive [] = s := by
  cases s <;> simp [receive]

/-- Two texts are received like one. -/
@[simp] theorem receive_receive (s : Stream) (text more : Text) :
    (s.receive text).receive more = s.receive (text ++ more) := by
  cases s <;> simp [receive, Int.add_assoc]

/-- What a stream receives does not move it. -/
@[simp] theorem under?_receive (s : Stream) (text : Text) : (s.receive text).under? = s.under? := by
  cases s <;> rfl

end Stream

namespace Streams

/-- A stream that is not there passes nothing on. -/
theorem receives_iff_of_le {streams : Streams} {i : Nat} (beyond : streams.length ≤ i) (j : Nat) :
    streams.Receives i j ↔ j = i := by
  constructor
  · intro received
    cases received with
    | self => rfl
    | under here =>
      rw [find?_of_le beyond] at here
      contradiction
  · rintro rfl
    exact .self j

/-- The numbers of the streams that receive what is written to one of them: its own, and those of
the streams under it. -/
def receivers : Streams → Nat → List Nat
  | [], i => [i]
  | s :: earlier, i =>
    if i = earlier.length then
      match s with
      | .plain _ => [i]
      | .counter under _ => if under < earlier.length then i :: receivers earlier under else [i]
    else receivers earlier i

/-- The receivers of what is written to a stream are the streams that receive it. -/
theorem mem_receivers_iff {streams : Streams} {i j : Nat} :
    j ∈ streams.receivers i ↔ streams.Receives i j := by
  induction streams generalizing i with
  | nil => rw [receivers, List.mem_singleton, receives_iff_of_le (Nat.zero_le i)]
  | cons s earlier ih =>
    rcases Nat.lt_trichotomy i earlier.length with older | rfl | newer
    · rw [receivers.eq_def]
      simp only [if_neg (Nat.ne_of_lt older), ih, receives_cons_iff s older]
    · rw [receivers.eq_def, receives_length_iff]
      simp only [if_pos]
      cases s with
      | plain before => simp
      | counter under count =>
        by_cases before : under < earlier.length <;> simp [before, ih]
    · rw [receivers.eq_def]
      simp only [if_neg (Nat.ne_of_gt newer), ih, receives_iff_of_le (Nat.le_of_lt newer),
        receives_iff_of_le (show (s :: earlier).length ≤ i from newer)]

instance (streams : Streams) (i j : Nat) : Decidable (streams.Receives i j) :=
  decidable_of_iff _ mem_receivers_iff

/-- Which streams receive a text depends only on what lies under each of them. -/
theorem Receives.congr {streams others : Streams} {i j : Nat}
    (same : ∀ i, (streams.find? i).bind Stream.under? = (others.find? i).bind Stream.under?)
    (received : streams.Receives i j) : others.Receives i j := by
  induction received with
  | self i => exact .self i
  | @under i under count j here earlier rest ih =>
    have below := same i
    rw [here, Option.bind_some, Stream.under?, eq_comm, Option.bind_eq_some_iff] at below
    obtain ⟨s, found, lies⟩ := below
    cases s with
    | plain text => contradiction
    | counter other count =>
      obtain rfl := Option.some.inj lies
      exact .under found earlier ih

/-- A stream behind a text that is written to some stream. -/
theorem find?_write_eq (streams : Streams) (i j : Nat) (text : Text) :
    (streams.write i text).find? j
      = (streams.find? j).map (Stream.receive (if streams.Receives i j then text else [])) := by
  by_cases received : streams.Receives i j
  · rw [if_pos received, (streams.find?_write i j text).1 received]
  · rw [if_neg received, (streams.find?_write i j text).2 received]
    cases streams.find? j <;> simp

/-- Streams **gain** a text that is written to one of them if each stream that receives it has
collected it, or has counted its characters, and all others stay as they are. -/
structure Gains (streams : Streams) (i : Nat) (text : Text) (behind : Streams) : Prop where
  /-- A plain stream collects the text behind what it has. -/
  plain : ∀ j before, streams.Receives i j → streams.find? j = some (.plain before) →
    behind.find? j = some (.plain (before ++ text))
  /-- A counter counts the characters of the text. -/
  counter : ∀ j under count, streams.Receives i j →
    streams.find? j = some (.counter under count) →
    behind.find? j = some (.counter under (count + text.length))
  /-- Streams that do not receive the text stay as they are. -/
  others : ∀ j, ¬ streams.Receives i j → behind.find? j = streams.find? j

/-- Streams gain what is written to one of them. -/
theorem gains_write (streams : Streams) (i : Nat) (text : Text) :
    streams.Gains i text (streams.write i text) where
  plain := by
    intro j before received here
    rw [find?_write_eq, if_pos received, here]
    rfl
  counter := by
    intro j under count received here
    rw [find?_write_eq, if_pos received, here]
    rfl
  others := fun j => (streams.find?_write i j text).2

/-- Writing does not move streams. -/
theorem under?_write (streams : Streams) (i j : Nat) (text : Text) :
    ((streams.write i text).find? j).bind Stream.under? = (streams.find? j).bind Stream.under? := by
  rw [find?_write_eq]
  cases streams.find? j <;> simp

/-- Writing does not change which streams receive a text. -/
theorem receives_write_iff {streams : Streams} {i : Nat} {text : Text} {j k : Nat} :
    (streams.write i text).Receives j k ↔ streams.Receives j k :=
  ⟨.congr fun l => streams.under?_write i l text,
    .congr fun l => (streams.under?_write i l text).symm⟩

/-- Writes texts one after the other, each to the stream of a number. -/
def writeEach (streams : Streams) (writes : List (Nat × Text)) : Streams :=
  writes.foldl (fun streams entry => streams.write entry.1 entry.2) streams

/-- Behind a text the others are written. -/
@[simp] theorem writeEach_cons (streams : Streams) (entry : Nat × Text)
    (writes : List (Nat × Text)) :
    streams.writeEach (entry :: writes) = (streams.write entry.1 entry.2).writeEach writes := rfl

/-- Texts behind others are written behind them. -/
theorem writeEach_append (streams : Streams) (first rest : List (Nat × Text)) :
    streams.writeEach (first ++ rest) = (streams.writeEach first).writeEach rest :=
  List.foldl_append

/-- Texts that are all written to one stream. -/
theorem writeEach_map (streams : Streams) (i : Nat) (texts : List Text) :
    streams.writeEach (texts.map (i, ·)) = streams.writeAll i texts := by
  rw [writeEach, List.foldl_map]
  rfl

/-- Writing texts neither adds nor removes streams. -/
@[simp] theorem length_writeEach (streams : Streams) (writes : List (Nat × Text)) :
    (streams.writeEach writes).length = streams.length := by
  induction writes generalizing streams with
  | nil => rfl
  | cons entry writes ih => rw [writeEach_cons, ih, length_write]

/-- Writing texts does not move streams. -/
theorem under?_writeEach (streams : Streams) (writes : List (Nat × Text)) (j : Nat) :
    ((streams.writeEach writes).find? j).bind Stream.under?
      = (streams.find? j).bind Stream.under? := by
  induction writes generalizing streams with
  | nil => rfl
  | cons entry writes ih => rw [writeEach_cons, ih, under?_write]

/-- Writing texts does not change which streams receive a text. -/
theorem receives_writeEach_iff {streams : Streams} {writes : List (Nat × Text)} {j k : Nat} :
    (streams.writeEach writes).Receives j k ↔ streams.Receives j k :=
  ⟨.congr (streams.under?_writeEach writes),
    .congr fun l => (streams.under?_writeEach writes l).symm⟩

/-- Of texts that are written to streams, those that a stream receives, in order. -/
def received (streams : Streams) (j : Nat) (writes : List (Nat × Text)) : List Text :=
  (writes.filter fun entry => streams.Receives entry.1 j).map Prod.snd

/-- What a stream receives depends only on which streams receive a text. -/
theorem received_congr {streams others : Streams} {j : Nat}
    (same : ∀ i, streams.Receives i j ↔ others.Receives i j) (writes : List (Nat × Text)) :
    streams.received j writes = others.received j writes := by
  simp only [received, same]

/-- **What a stream becomes** when texts are written to any streams: it receives those that are
written to it or to a counter above it. -/
theorem find?_writeEach (streams : Streams) (writes : List (Nat × Text)) (j : Nat) :
    (streams.writeEach writes).find? j
      = (streams.find? j).map (Stream.receive (streams.received j writes).flatten) := by
  induction writes generalizing streams with
  | nil =>
    change streams.find? j = (streams.find? j).map (Stream.receive [])
    cases streams.find? j <;> simp
  | cons entry writes ih =>
    have later : (streams.write entry.1 entry.2).received j writes = streams.received j writes :=
      received_congr (fun i => receives_write_iff) writes
    rw [writeEach_cons, ih, later, find?_write_eq, Option.map_map]
    have together : Stream.receive (streams.received j writes).flatten
          ∘ Stream.receive (if streams.Receives entry.1 j then entry.2 else [])
        = Stream.receive (streams.received j (entry :: writes)).flatten := by
      funext s
      rw [Function.comp_apply, Stream.receive_receive, received, received]
      by_cases here : streams.Receives entry.1 j <;> simp [here]
    rw [together]

/-- Writing to an earlier stream leaves the later ones alone. -/
theorem write_append_of_lt (later : Streams) {streams : Streams} {i : Nat}
    (within : i < streams.length) (text : Text) :
    (later ++ streams : Streams).write i text = later ++ streams.write i text := by
  induction later with
  | nil => rfl
  | cons s later ih =>
    have other : i ≠ (later ++ streams).length := by
      rw [List.length_append]
      omega
    rw [List.cons_append, write_of_ne s _ other, ih, List.cons_append]

/-- Writing to earlier streams leaves the later ones alone. -/
theorem writeEach_append_of_lt (later : Streams) {streams : Streams} {writes : List (Nat × Text)}
    (within : ∀ entry ∈ writes, entry.1 < streams.length) :
    (later ++ streams : Streams).writeEach writes = later ++ streams.writeEach writes := by
  induction writes generalizing streams with
  | nil => rfl
  | cons entry writes ih =>
    rw [writeEach_cons, writeEach_cons, write_append_of_lt later (within entry (by simp)), ih]
    intro other member
    rw [length_write]
    exact within other (by simp [member])

/-- There is a stream under each number that is reached. -/
theorem exists_find? {streams : Streams} {i : Nat} (within : i < streams.length) :
    ∃ s, streams.find? i = some s := by
  induction streams with
  | nil => contradiction
  | cons s earlier ih =>
    rcases Nat.lt_succ_iff_lt_or_eq.1 within with older | rfl
    · rw [find?_cons_of_ne s (Nat.ne_of_lt older)]
      exact ih older
    · exact ⟨s, find?_cons_length s earlier⟩

/-- Streams are **ordered** if each counter lies over an earlier stream. -/
def Ordered (streams : Streams) : Prop :=
  ∀ i under, (streams.find? i).bind Stream.under? = some under → under < i

/-- Ordered streams stay ordered when texts are written to them. -/
theorem Ordered.writeEach {streams : Streams} (ordered : streams.Ordered)
    (writes : List (Nat × Text)) : (streams.writeEach writes).Ordered := by
  intro i under below
  rw [under?_writeEach] at below
  exact ordered i under below

/-- Ordered streams stay ordered when one is made over an earlier one. -/
theorem Ordered.cons {streams : Streams} (ordered : streams.Ordered) {s : Stream}
    (earlier : ∀ under, s.under? = some under → under < streams.length) :
    Ordered (s :: streams) := by
  intro i under below
  by_cases latest : i = streams.length
  · subst latest
    rw [find?_cons_length] at below
    exact earlier under below
  · rw [find?_cons_of_ne s latest] at below
    exact ordered i under below

/-- Exactly one plain stream receives what is written to a stream. -/
theorem Ordered.existsUnique_plain {streams : Streams} (ordered : streams.Ordered) {i : Nat}
    (within : i < streams.length) :
    ∃! j, streams.Receives i j ∧ ∃ text, streams.find? j = some (.plain text) := by
  induction i using Nat.strong_induction_on with
  | h i ih =>
    obtain ⟨s, found⟩ := exists_find? within
    cases s with
    | plain text =>
      refine ⟨i, ⟨.self i, text, found⟩, fun j ⟨received, _⟩ => ?_⟩
      cases received with
      | self => rfl
      | under here =>
        rw [found] at here
        simp at here
    | counter under count =>
      have earlier := ordered i under (by rw [found]; rfl)
      obtain ⟨j, ⟨received, plain⟩, unique⟩ := ih under earlier (Nat.lt_trans earlier within)
      refine ⟨j, ⟨.under found earlier received, plain⟩, fun k ⟨passed, text, here⟩ => ?_⟩
      cases passed with
      | self =>
        rw [found] at here
        simp at here
      | under other before rest =>
        rw [found] at other
        obtain ⟨rfl, -⟩ := Stream.counter.inj (Option.some.inj other)
        exact unique k ⟨rest, text, here⟩

end Streams

/-! ## Steps that write -/

namespace Session

/-- The stream that a step makes, if any. -/
def made (session : Session) : Step → Streams
  | .newStream _ => [.plain []]
  | .newCounter _ under count =>
    match session.streamNumbers.find? under with
    | some number => [.counter number count]
    | none => []
  | _ => []

/-- The texts that a step writes, in order, each with the number of the stream that it is written
to. -/
def writes (session : Session) : Step → List (Nat × Text)
  | .write target text =>
    match session.streamNumbers.find? target with
    | some number => [(number, text)]
    | none => []
  | .apply template target arguments =>
    match session.templates.find? template, session.streamNumbers.find? target,
      session.cursor? arguments with
    | some t, some number, .ok c => (t.apply session.settings c).written.map (number, ·)
    | _, _, _ => []
  | .fprintf target template values =>
    match session.streamNumbers.find? target, session.source? template with
    | some number, .ok source =>
      (source.apply session.settings (Cursor.ofList values)).written.map (number, ·)
    | _, _ => []
  | _ => []

/-- Applying a template to a stream writes what it renders there. -/
theorem streams_applyTo (session : Session) (t : Template) (number : Nat)
    (arguments : ArgumentsRef) (c : Cursor) :
    (session.applyTo t number arguments c).session.streams
      = session.streams.writeEach ((t.apply session.settings c).written.map (number, ·)) := by
  rw [Streams.writeEach_map]
  exact streams_keepCursor ..

/-- Formatting to a stream that is there writes the text of the template, and gives its length. -/
theorem step_fprintf {session : Session} {target : Text} {template : TemplateRef} {i : Nat}
    {source : Source} (found : session.streamNumbers.find? target = some i)
    (known : session.source? template = .ok source) (values : List Value) :
    session.step (.fprintf target template values)
      = { session with
          streams := session.streams.write i
            (source.apply session.settings (Cursor.ofList values)).text }.ended
        ((source.apply session.settings (Cursor.ofList values)).call
          (source.apply session.settings (Cursor.ofList values)).text.length) .count := by
  simp only [Session.step, withNamed, found, formatStream, known, fprintf_eq]

/-- **A step** makes at most one stream, and writes its texts to the streams that are there. -/
theorem streams_step (session : Session) (step : Step) :
    (session.step step).session.streams
      = session.made step ++ session.streams.writeEach (session.writes step) := by
  cases step with
  | newStream name => rfl
  | newCounter name under count =>
    simp only [Session.step, withNamed, made]
    cases session.streamNumbers.find? under <;> rfl
  | write target text =>
    simp only [Session.step, withNamed, made, writes]
    cases session.streamNumbers.find? target <;> rfl
  | apply template target arguments =>
    simp only [Session.step, withNamed, made, writes]
    cases session.templates.find? template with
    | none => rfl
    | some t =>
      cases session.streamNumbers.find? target with
      | none => rfl
      | some number =>
        cases session.cursor? arguments with
        | error fault => rfl
        | ok c => exact session.streams_applyTo t number arguments c
  | fprintf target template values =>
    cases found : session.streamNumbers.find? target with
    | none =>
      simp only [Session.step, withNamed, made, writes, found]
      rfl
    | some number =>
      cases known : session.source? template with
      | error fault =>
        simp only [Session.step, withNamed, formatStream, made, writes, found, known]
        rfl
      | ok source =>
        simp only [step_fprintf found known, made, writes, found, known, Streams.writeEach_map,
          Streams.writeAll_eq_write]
        rfl
  | _ => exact streams_step_of_not id session

/-- A step that makes a stream names it. All other steps leave the names of streams as they are. -/
theorem step_cases_of_made (session : Session) (step : Step) :
    (session.made step = [] ∧ (session.step step).session.streamNumbers = session.streamNumbers)
    ∨ ∃ name s, session.made step = [s]
      ∧ (session.step step).session = session.addStream name s
      ∧ ∀ number, s.under? = some number →
        ∃ under, session.streamNumbers.find? under = some number := by
  cases step with
  | newStream name => exact .inr ⟨name, .plain [], rfl, rfl, by simp [Stream.under?]⟩
  | newCounter name under count =>
    simp only [Session.step, withNamed, made]
    cases found : session.streamNumbers.find? under with
    | none => exact .inl ⟨rfl, rfl⟩
    | some number =>
      refine .inr ⟨name, .counter number count, rfl, rfl, fun other same => ?_⟩
      obtain rfl := Option.some.inj same
      exact ⟨under, found⟩
  | _ => exact .inl ⟨rfl, streamNumbers_step (by simp) (by simp) session⟩

/-- The streams of a session are **orderly** if each name stands for a stream that is there, and
each counter lies over an earlier stream. -/
structure Orderly (session : Session) : Prop where
  /-- A name stands for a stream that is there. -/
  named : ∀ name i, session.streamNumbers.find? name = some i → i < session.streams.length
  /-- A counter lies over an earlier stream. -/
  ordered : session.streams.Ordered

/-- At first there are no names, and no counters. -/
theorem orderly_initial : initial.Orderly where
  named := by
    intro name i found
    contradiction
  ordered := by
    refine Streams.Ordered.cons (fun i under below => ?_) fun under below => ?_ <;> contradiction

variable {session : Session}

/-- **A step** keeps the streams orderly. -/
theorem Orderly.step (orderly : session.Orderly) (step : Step) :
    (session.step step).session.Orderly := by
  rcases session.step_cases_of_made step with ⟨none, same⟩ | ⟨name, s, -, same, lies⟩
  · have streams := session.streams_step step
    rw [none, List.nil_append] at streams
    constructor
    · intro name i found
      rw [same] at found
      rw [streams, Streams.length_writeEach]
      exact orderly.named name i found
    · rw [streams]
      exact orderly.ordered.writeEach _
  · rw [same]
    constructor
    · intro other i found
      change i < session.streams.length + 1
      by_cases latest : other = name
      · rw [latest, addStream, Table.find?_put_self] at found
        obtain rfl := Option.some.inj found
        exact Nat.lt_succ_self _
      · rw [addStream, Table.find?_put_of_ne _ _ latest] at found
        exact Nat.lt_succ_of_lt (orderly.named other i found)
    · refine orderly.ordered.cons fun number below => ?_
      obtain ⟨under, found⟩ := lies number below
      exact orderly.named under number found

/-- A run keeps the streams orderly. -/
theorem Orderly.after (orderly : session.Orderly) (steps : List Step) :
    (session.after steps).Orderly := by
  induction steps generalizing session with
  | nil => exact orderly
  | cons step rest ih => exact ih (orderly.step step)

/-- A step writes only to streams that are there. -/
theorem Orderly.lt_of_mem_writes (orderly : session.Orderly) {step : Step} {entry : Nat × Text}
    (member : entry ∈ session.writes step) : entry.1 < session.streams.length := by
  cases step with
  | write target text =>
    simp only [writes] at member
    split at member
    · rename_i number found
      rw [List.mem_singleton.1 member]
      exact orderly.named target number found
    · simp at member
  | apply template target arguments =>
    simp only [writes] at member
    split at member
    · rename_i found _
      obtain ⟨text, -, rfl⟩ := List.mem_map.1 member
      exact orderly.named target _ found
    · simp at member
  | fprintf target template values =>
    simp only [writes] at member
    split at member
    · rename_i found _
      obtain ⟨text, -, rfl⟩ := List.mem_map.1 member
      exact orderly.named target _ found
    · simp at member
  | _ => simp [writes] at member

/-! ## Runs -/

/-- The streams that the steps of a run make, as they are made, the latest first. -/
def madeBy (session : Session) : List Step → Streams
  | [] => []
  | step :: rest => madeBy (session.step step).session rest ++ session.made step

/-- The texts that the steps of a run write, in order, each with the number of the stream that it is
written to. -/
def history (session : Session) : List Step → List (Nat × Text)
  | [] => []
  | step :: rest => session.writes step ++ history (session.step step).session rest

/-- **A run** leaves its streams as if all of them had been made first, and all texts had been
written then. -/
theorem streams_after (orderly : session.Orderly) (steps : List Step) :
    (session.after steps).streams
      = (session.madeBy steps ++ session.streams : Streams).writeEach (session.history steps) := by
  induction steps generalizing session with
  | nil => rfl
  | cons step rest ih =>
    have within : ∀ entry ∈ session.writes step, entry.1 < session.streams.length :=
      fun entry member => orderly.lt_of_mem_writes member
    rw [after_cons, ih (orderly.step step), streams_step, madeBy, history,
      Streams.writeEach_append, Streams.writeEach_append_of_lt _ within, List.append_assoc]

/-- A stream behind a run is the stream as it was made, with all that it has received. -/
theorem find?_streams_after (orderly : session.Orderly) (steps : List Step) (j : Nat) :
    (session.after steps).streams.find? j
      = ((session.madeBy steps ++ session.streams : Streams).find? j).map
        (Stream.receive
          ((session.after steps).streams.received j (session.history steps)).flatten) := by
  have streams := streams_after orderly steps
  have same : (session.after steps).streams.received j (session.history steps)
      = (session.madeBy steps ++ session.streams : Streams).received j (session.history steps) := by
    rw [streams]
    exact Streams.received_congr (fun i => Streams.receives_writeEach_iff) _
  rw [same, streams, Streams.find?_writeEach]

/-- Formatting to a stream that gives a count has written a text of this length to the stream. -/
theorem exists_write_of_count {target : Text} {template : TemplateRef} {values : List Value}
    {n : Nat} (counted : (session.step (.fprintf target template values)).result = .ok (.count n)) :
    ∃ i text, session.streamNumbers.find? target = some i ∧ text.length = n
      ∧ (session.step (.fprintf target template values)).session.streams
        = session.streams.write i text := by
  cases found : session.streamNumbers.find? target with
  | none =>
    simp only [Session.step, withNamed, found] at counted
    contradiction
  | some i =>
    cases known : session.source? template with
    | error fault =>
      simp only [Session.step, withNamed, found, formatStream, known] at counted
      contradiction
    | ok source =>
      rw [step_fprintf found known values] at counted ⊢
      obtain ⟨count, result, same⟩ := map_eq_ok_iff.1 counted
      obtain rfl := Reply.count.inj same
      refine ⟨i, _, rfl, ?_, rfl⟩
      cases fault : (source.apply session.settings (Cursor.ofList values)).fault? with
      | none =>
        rw [Outcome.call_of_none fault] at result
        exact Except.ok.inj result
      | some fault' =>
        rw [Outcome.call_of_some fault] at result
        contradiction

/-- **What streams receive in a run.** Behind any run, whether its steps end in faults or not:

* a plain stream has collected, in order, all texts that were written to it or to a counter above
  it, and nothing else;
* a counter has counted the characters of all texts that were written to it or to a counter above
  it, and nothing else, on top of its initial count;
* there are no other streams than those that were made;
* the count that formatting to a stream gives is the number of characters by which exactly one plain
  stream grows, and every counter above it that receives the text. -/
theorem streams_in_run (orderly : session.Orderly) (steps : List Step) :
    let last := session.after steps
    let made : Streams := session.madeBy steps ++ session.streams
    let received (j : Nat) := last.streams.received j (session.history steps)
    (∀ j before, made.find? j = some (.plain before) →
      last.streams.find? j = some (.plain (before ++ (received j).flatten)))
    ∧ (∀ j under count, made.find? j = some (.counter under count) →
      last.streams.find? j = some (.counter under (count + ((received j).map List.length).sum)))
    ∧ last.streams.length = made.length
    ∧ ∀ target template values n,
      (last.step (.fprintf target template values)).result = .ok (.count n) →
      ∃ i text, last.streamNumbers.find? target = some i ∧ text.length = n
        ∧ (∃! j, last.streams.Receives i j ∧ ∃ before, last.streams.find? j = some (.plain before))
        ∧ last.streams.Gains i text
          (last.step (.fprintf target template values)).session.streams := by
  intro last made received
  refine ⟨fun j before here => ?_, fun j under count here => ?_, ?_,
    fun target template values n counted => ?_⟩
  · rw [find?_streams_after orderly steps j, here]
    rfl
  · rw [find?_streams_after orderly steps j, here, ← List.length_flatten]
    rfl
  · rw [streams_after orderly steps, Streams.length_writeEach]
  · obtain ⟨i, text, found, length, streams⟩ := exists_write_of_count counted
    have reached := orderly.after steps
    refine ⟨i, text, found, length,
      reached.ordered.existsUnique_plain (reached.named target i found), ?_⟩
    rw [streams]
    exact last.streams.gains_write i text

/-- A counter over a counter, and another one beside them. A malformed template is refused when it
has written one character to the latter. -/
theorem streams_in_run_nested_and_beside :
    let field : Occurrence := ⟨⟨Flags.ofText [], .absent, .absent, none, .string⟩,
      Text.ofString "%s", 0, 2⟩
    let cut : Template := ⟨Text.ofString "%s%", [.directive field],
      some ⟨Text.ofString "%s%", 2, .incomplete⟩⟩
    let whole : Template := ⟨Text.ofString "%s", [.directive field], none⟩
    let start : Session :=
      { initial with
        templates := [(['f'], cut), (['g'], whole)]
        settings := fun x => if x = .strict then .bool true else Settings.initial x }
    let steps : List Step := [.newStream ['s'], .newCounter ['a'] ['s'] 5,
      .newCounter ['b'] ['a'] 0, .newCounter ['c'] ['s'] (-2), .write ['b'] ['x', 'y'],
      .apply ['f'] ['c'] (.given [.text ['z']]), .write ['s'] ['w']]
    start.Orderly
      ∧ (start.after steps).streams.find? 1 = some (.plain ['x', 'y', 'z', 'w'])
      ∧ (start.after steps).streams.find? 2 = some (.counter 1 7)
      ∧ (start.after steps).streams.find? 3 = some (.counter 2 2)
      ∧ (start.after steps).streams.find? 4 = some (.counter 1 (-1))
      ∧ ((start.after steps).step (.fprintf ['b'] (.named ['g']) [.text ['q', 'q']])).result
        = .ok (.count 2)
      ∧ ∃ text : Text, text.length = 2
        ∧ ((start.after steps).step
            (.fprintf ['b'] (.named ['g']) [.text ['q', 'q']])).session.streams.find? 1
          = some (.plain (['x', 'y', 'z', 'w'] ++ text)) := by
  intro field cut whole start steps
  have orderly : start.Orderly := ⟨orderly_initial.named, orderly_initial.ordered⟩
  obtain ⟨plain, counter, -, counts⟩ := streams_in_run orderly steps
  have made : (start.madeBy steps ++ start.streams : Streams)
      = [.counter 1 (-2), .counter 2 0, .counter 1 5, .plain [], .plain []] := by decide
  have history : start.history steps = [(3, ['x', 'y']), (4, ['z']), (1, ['w'])] := by
    decide
  rw [made, history] at plain counter
  have collected : (start.after steps).streams.find? 1 = some (.plain ['x', 'y', 'z', 'w']) :=
    (plain 1 [] rfl).trans (by decide)
  have inner : (start.after steps).streams.find? 2 = some (.counter 1 7) :=
    (counter 2 1 5 rfl).trans (by decide)
  have outer : (start.after steps).streams.find? 3 = some (.counter 2 2) :=
    (counter 3 2 0 rfl).trans (by decide)
  have beside : (start.after steps).streams.find? 4 = some (.counter 1 (-1)) :=
    (counter 4 1 (-2) rfl).trans (by decide)
  have target : (start.after steps).streamNumbers.find? ['b'] = some 3 := by decide
  have source : (start.after steps).source? (.named ['g']) = .ok (.template whole) := by
    have found : (start.after steps).templates.find? ['g'] = some whole := by decide
    simp only [source?, found]
  have counted : ((start.after steps).step
      (.fprintf ['b'] (.named ['g']) [.text ['q', 'q']])).result = .ok (.count 2) := by
    rw [step_fprintf target source]
    rfl
  obtain ⟨i, text, named, length, -, gains⟩ := counts _ _ _ _ counted
  rw [target] at named
  obtain rfl := Option.some.inj named
  -- the counter `b` lies over the counter `a`, and this one over the plain stream
  have bottom : (start.after steps).streams.Receives 3 1 :=
    .under outer (by decide) (.under inner (by decide) (.self 1))
  exact ⟨orderly, collected, inner, outer, beside, counted, text, length,
    gains.plain 1 _ bottom collected⟩

end Session

end PercentFormat
