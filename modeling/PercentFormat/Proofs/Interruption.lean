import PercentFormat.Proofs.Demand
import PercentFormat.Proofs.Truncation
import PercentFormat.Session

/-! # What a fault leaves behind

A fault stops a template in the middle of one token. The tokens in front of it have been written,
and nothing of the token itself or of those behind it. How many values the token has taken depends
on where the fault arose in it. A template that cannot be read writes nothing and consumes nothing.

* **`Streams.Receives`** — the streams that receive what is written to one of them, with
  **`Streams.find?_write`**.
* **`Directive.Interrupted`** — where a fault arises in a directive, and the values taken by then.
* **`renderTokens_interrupted`** — the tokens in front of a fault, and the directive it arose in.
* **`Template.ofValue_eq_error_iff`** — the values that cannot be read as templates.
* **`applyTo_fault`** — the streams, the cursor and the session behind a fault. -/

namespace PercentFormat

/-! ## Streams that receive a text -/

/-- A stream that has received a text: a plain one has collected it, a counter has counted it. -/
def Stream.receive (text : Text) : Stream → Stream
  | plain before => .plain (before ++ text)
  | counter under count => .counter under (count + text.length)

namespace Streams

/-- A stream **receives** what is written to another one if it is that stream, or lies under it. -/
inductive Receives (streams : Streams) : Nat → Nat → Prop where
  /-- Each stream receives what is written to it. -/
  | self (i : Nat) : Receives streams i i
  /-- What is written to a counter is passed on to the earlier stream under it. -/
  | under {i under : Nat} {count : Int} {j : Nat}
      (here : streams.find? i = some (.counter under count)) (earlier : under < i)
      (rest : Receives streams under j) : Receives streams i j

/-- No later stream receives what is written to a stream. -/
theorem Receives.le {streams : Streams} {i j : Nat} (received : streams.Receives i j) : j ≤ i := by
  induction received with
  | self i => exact Nat.le_refl i
  | under here earlier rest ih => exact Nat.le_trans ih (Nat.le_of_lt earlier)

/-- There is no stream under a number that is not reached yet. -/
theorem find?_of_le {streams : Streams} {i : Nat} (h : streams.length ≤ i) :
    streams.find? i = none := by
  induction streams with
  | nil => rfl
  | cons s earlier ih =>
    rw [List.length_cons] at h
    rw [find?_cons_of_ne s (by omega), ih (by omega)]

/-- Writing to a stream that is not there changes nothing. -/
theorem write_of_le {streams : Streams} {i : Nat} (h : streams.length ≤ i) (text : Text) :
    streams.write i text = streams := by
  induction streams with
  | nil => rfl
  | cons s earlier ih =>
    rw [List.length_cons] at h
    rw [write_of_ne s earlier (by omega), ih (by omega)]

/-- A later stream does not change which streams receive what is written to an earlier one. -/
theorem receives_cons_iff (s : Stream) {earlier : Streams} {i j : Nat} (h : i < earlier.length) :
    Receives (s :: earlier) i j ↔ earlier.Receives i j := by
  constructor
  · intro received
    induction received with
    | self i => exact .self i
    | under here before rest ih =>
      rw [find?_cons_of_ne s (Nat.ne_of_lt h)] at here
      exact .under here before (ih (Nat.lt_trans before h))
  · intro received
    induction received with
    | self i => exact .self i
    | under here before rest ih =>
      rw [← find?_cons_of_ne s (Nat.ne_of_lt h)] at here
      exact .under here before (ih (Nat.lt_trans before h))

/-- What is written to the latest stream is received by itself, and, if it is a counter, by the
streams that receive what is written to the one under it. -/
theorem receives_length_iff (s : Stream) (earlier : Streams) (j : Nat) :
    Receives (s :: earlier) earlier.length j
      ↔ j = earlier.length ∨ ∃ under count, s = .counter under count ∧ under < earlier.length
        ∧ earlier.Receives under j := by
  constructor
  · intro received
    cases received with
    | self => exact .inl rfl
    | under here before rest =>
      rw [find?_cons_length] at here
      exact .inr ⟨_, _, Option.some.inj here, before, (receives_cons_iff s before).1 rest⟩
  · rintro (rfl | ⟨under, count, rfl, before, rest⟩)
    · exact .self _
    · have here := find?_cons_length (.counter under count) earlier
      exact .under here before ((receives_cons_iff _ before).2 rest)

/-- The latest stream receives what is written to it. -/
theorem find?_write_length (s : Stream) (earlier : Streams) (text : Text) :
    (write (s :: earlier) earlier.length text).find? earlier.length = some (s.receive text) := by
  cases s with
  | plain before =>
    rw [write_plain, find?_cons_length]
    rfl
  | counter under count =>
    have same := find?_cons_length (.counter under (count + text.length))
      (write earlier under text)
    rw [length_write] at same
    rw [write_counter, same]
    rfl

/-- **Writing to a stream** changes the streams that receive the text, and no others. -/
theorem find?_write (streams : Streams) (i j : Nat) (text : Text) :
    (streams.Receives i j →
      (streams.write i text).find? j = (streams.find? j).map (Stream.receive text))
    ∧ (¬ streams.Receives i j → (streams.write i text).find? j = streams.find? j) := by
  induction streams generalizing i with
  | nil => exact ⟨fun _ => rfl, fun _ => rfl⟩
  | cons s earlier ih =>
    rcases Nat.lt_trichotomy i earlier.length with older | rfl | newer
    · -- the latest stream stays as it is, and it does not receive the text
      rw [write_of_ne s earlier (Nat.ne_of_lt older), receives_cons_iff s older]
      by_cases latest : j = earlier.length
      · subst latest
        have same := find?_cons_length s (write earlier i text)
        rw [length_write] at same
        rw [same, find?_cons_length]
        refine ⟨fun received => ?_, fun _ => rfl⟩
        exact absurd older (Nat.not_lt.2 received.le)
      · rw [find?_cons_of_ne s (by rwa [length_write]), find?_cons_of_ne s latest]
        exact ih i
    · rw [receives_length_iff]
      by_cases latest : j = earlier.length
      · subst latest
        rw [find?_write_length, find?_cons_length]
        exact ⟨fun _ => rfl, fun other => absurd (.inl rfl) other⟩
      · simp only [latest, false_or]
        cases s with
        | plain before =>
          rw [write_plain, find?_cons_of_ne _ latest, find?_cons_of_ne _ latest]
          simp
        | counter under count =>
          rw [write_counter, find?_cons_of_ne _ (by rwa [length_write]), find?_cons_of_ne _ latest]
          by_cases before : under < earlier.length
          · simpa [before] using ih under
          · rw [write_of_le (Nat.le_of_not_lt before)]
            simp [before]
    · -- there is no stream of this number
      have beyond : (s :: earlier).length ≤ i := newer
      rw [write_of_le beyond]
      refine ⟨fun received => ?_, fun _ => rfl⟩
      cases received with
      | self => rw [find?_of_le beyond]; rfl
      | under here before rest =>
        rw [find?_of_le beyond] at here
        contradiction

end Streams

/-! ## Faults in a directive -/

/-- A directive at a cursor is **interrupted** by a fault after a number of values: by a width that
is no number after this one value, by a precision that is no number after the values of both, and in
the conversion or the padding after its whole demand. -/
inductive Directive.Interrupted (s : Settings) (d : Directive) (c : Cursor) (fault : Fault) :
    Nat → Prop where
  /-- The value for the width is no number. -/
  | width (star : d.width = .fromArgument)
      (fails : (c.valueAt c.consumed).toInteger = .error fault) : Interrupted s d c fault 1
  /-- The value for the precision is no number. -/
  | precision {w : Option Int} (star : d.precision = .fromArgument)
      (width : d.width.number (c.valueAt c.consumed) = .ok w)
      (fails : (c.valueAt (c.consumed + d.width.demand)).toInteger = .error fault) :
      Interrupted s d c fault (d.width.demand + 1)
  /-- The value of the directive cannot be converted, or it cannot be padded. -/
  | value {w p : Option Int} (width : d.width.number (c.valueAt c.consumed) = .ok w)
      (precision : d.precision.number (c.valueAt (c.consumed + d.width.demand)) = .ok p)
      (fails : d.padded s w p (c.valueAt (c.consumed + d.width.demand + d.precision.demand))
        = .error fault) : Interrupted s d c fault d.demand

/-- A width or a precision that is no number is left to a value that is none. -/
theorem Parameter.toInteger_of_number_eq_error {p : Parameter} {v : Value} {fault : Fault}
    (h : p.number v = .error fault) : p = .fromArgument ∧ v.toInteger = .error fault := by
  cases p with
  | absent => contradiction
  | given n => contradiction
  | fromArgument => exact ⟨rfl, map_eq_error_iff.1 h⟩

/-- A directive that ends in a fault is interrupted, and the cursor moves behind the values that
were taken by then. -/
theorem Directive.interrupted_of_run {s : Settings} {d : Directive} {c c' : Cursor} {fault : Fault}
    (h : (d.render s).run c = (.error fault, c')) :
    ∃ n, d.Interrupted s c fault n ∧ c' = c.advance n := by
  rw [run_render] at h
  obtain ⟨field, rfl⟩ := Prod.mk.inj h
  refine ⟨_, ?_, rfl⟩
  rw [taken]
  rcases bind_eq_error_iff.1 field with first | ⟨w, first, field⟩
  · obtain ⟨star, fails⟩ := Parameter.toInteger_of_number_eq_error first
    rw [first, star]
    exact .width star fails
  rcases bind_eq_error_iff.1 field with second | ⟨p, second, fails⟩
  · obtain ⟨star, fails⟩ := Parameter.toInteger_of_number_eq_error second
    rw [first, second, star]
    exact .precision star first fails
  · rw [first, second]
    exact .value first second fails

/-! ## Faults in a list of tokens -/

/-- **A fault stops the tokens** at one directive. The tokens in front of it are rendered, and
nothing else is written. -/
theorem renderTokens_interrupted {s : Settings} {tokens : List Token} {c : Cursor} {fault : Fault}
    (stops : (renderTokens s tokens c).fault? = some fault) :
    ∃ before o behind n, tokens = before ++ .directive o :: behind
      ∧ (renderTokens s before c).fault? = none
      ∧ o.directive.Interrupted s (c.advance (demandOf before)) fault n
      ∧ renderTokens s tokens c
        = ⟨(renderTokens s before c).written, c.advance (demandOf before + n), some fault⟩ := by
  induction tokens generalizing c with
  | nil => simp at stops
  | cons token rest ih =>
    rcases token.run_cases s c with ⟨text, c', run⟩ | ⟨arisen, c', run⟩
    · -- the fault is in the rest, behind what the token has taken
      rw [renderTokens_cons_of_ok rest run] at stops ⊢
      obtain ⟨before, o, behind, n, same, none, interrupted, rendered⟩ := ih stops
      obtain rfl := Token.cursor_of_ok run
      rw [c.advance_advance] at interrupted rendered
      refine ⟨token :: before, o, behind, n, by rw [same, List.cons_append], ?_, ?_, ?_⟩
      · rw [renderTokens_cons_of_ok before run]
        exact none
      · rw [demandOf_cons]
        exact interrupted
      · rw [rendered, renderTokens_cons_of_ok before run, demandOf_cons, Nat.add_assoc]
    · rw [renderTokens_cons_of_error rest run] at stops ⊢
      obtain rfl := Option.some.inj stops
      cases token with
      | literal text =>
        obtain ⟨written, -⟩ := Prod.mk.inj run
        contradiction
      | directive o =>
        obtain ⟨n, interrupted, rfl⟩ := Directive.interrupted_of_run run
        refine ⟨[], o, rest, n, rfl, rfl, ?_, ?_⟩
        · rw [demandOf, List.map_nil, List.sum_nil, c.advance_zero]
          exact interrupted
        · rw [demandOf, List.map_nil, List.sum_nil, Nat.zero_add]
          rfl

/-! ## Templates that cannot be read -/

/-- A text cannot be read as a template if and only if a number in it has too many digits. -/
theorem Template.ofText_eq_error_iff {t : Text} {fault : Fault} :
    ofText t = .error fault ↔ fault = .tooManyDigits ∧ ¬ NumbersShort t := by
  rw [ofText_eq_error_iff_stop]
  exact and_congr_right fun _ => stop_eq_tooManyDigits_iff t t 0

/-- **The values that cannot be read as templates** are texts with a number of too many digits, and
all values other than texts. -/
theorem Template.ofValue_eq_error_iff {v : Value} {fault : Fault} :
    ofValue v = .error fault
      ↔ (fault = .tooManyDigits ∧ ∃ t, v = .text t ∧ ¬ NumbersShort t)
        ∨ (fault = .templateNotText ∧ ∀ t, v ≠ .text t) := by
  cases v with
  | text t => simp [ofValue, ofText_eq_error_iff]
  | _ => simp [ofValue, eq_comm]

/-! ## Effects of faults -/

/-- Keeping a cursor changes no variable. -/
@[simp] theorem Session.settings_keepCursor (session : Session) (arguments : ArgumentsRef)
    (c : Cursor) : (session.keepCursor arguments c).settings = session.settings := by
  cases arguments <;> rfl

/-- A template whose tokens are stopped by a fault ends in this fault, and reports nothing. -/
theorem Source.apply_of_fault {s : Settings} {source : Source} {f : Template} {c : Cursor}
    {fault : Fault} (read : source.toTemplate = .ok f)
    (stops : (renderTokens s f.tokens c).fault? = some fault) :
    source.apply s c
      = ⟨(renderTokens s f.tokens c).written, (renderTokens s f.tokens c).cursor, some fault,
          []⟩ := by
  rw [apply, read]
  simp only [Template.apply, stops]

/-- **What a fault leaves behind.** If a fault arises in a directive, the stream has received what
the tokens in front of the directive write, and no other streams than those under it have changed.
The cursor has moved behind the values of these tokens and those that the directive has taken,
formatting gives no text, and nothing else changes in a session. If the template cannot be read,
because it is no text or because a number in it has too many digits, nothing is written and nothing
consumed. -/
theorem applyTo_fault (s : Settings) (source : Source) (streams : Streams) (target : Nat)
    (c : Cursor) :
    (∀ f fault, source.toTemplate = .ok f → (renderTokens s f.tokens c).fault? = some fault →
      ∃ before o behind n after,
        f.tokens = before ++ .directive o :: behind
        ∧ (renderTokens s before c).fault? = none
        ∧ o.directive.Interrupted s (c.advance (demandOf before)) fault n
        ∧ source.applyTo s streams target c
          = (⟨(renderTokens s before c).written, c.advance (demandOf before + n), some fault, []⟩,
            after)
        ∧ (∀ j, streams.Receives target j → after.find? j
          = (streams.find? j).map (Stream.receive (renderTokens s before c).text))
        ∧ (∀ j, ¬ streams.Receives target j → after.find? j = streams.find? j)
        ∧ format s source c = ⟨.error fault, c.advance (demandOf before + n), []⟩
        ∧ (∀ args, Cursor.ofList args = c →
          sprintf s source args = ⟨.error fault, c.advance (demandOf before + n), []⟩
          ∧ fprintf s streams target source args
            = (⟨.error fault, c.advance (demandOf before + n), []⟩, after))
        ∧ ∀ (session : Session) arguments, session.settings = s → session.streams = streams →
          session.applyTo f target arguments c
              = ⟨{ session with streams := after }.keepCursor arguments
                  (c.advance (demandOf before + n)), .error fault, []⟩
            ∧ (session.applyTo f target arguments c).session.settings = s)
    ∧ ∀ fault, source.toTemplate = .error fault →
      (∃ v, source = .value v ∧ ((fault = .tooManyDigits ∧ ∃ t, v = .text t ∧ ¬ NumbersShort t)
        ∨ (fault = .templateNotText ∧ ∀ t, v ≠ .text t)))
      ∧ source.applyTo s streams target c = (⟨[], c, some fault, []⟩, streams)
      ∧ format s source c = ⟨.error fault, c, []⟩
      ∧ ∀ args, Cursor.ofList args = c → sprintf s source args = ⟨.error fault, c, []⟩
        ∧ fprintf s streams target source args = (⟨.error fault, c, []⟩, streams) := by
  constructor
  · intro f fault read stops
    obtain ⟨before, o, behind, n, same, none, interrupted, rendered⟩ :=
      renderTokens_interrupted stops
    have applied := Source.apply_of_fault read stops
    rw [rendered] at applied
    have direct := Source.apply_of_fault (show (Source.template f).toTemplate = _ from rfl) stops
    rw [rendered] at direct
    refine ⟨before, o, behind, n, _, same, none, interrupted, ?_,
      fun j => (streams.find?_write target j _).1, fun j => (streams.find?_write target j _).2,
      ?_, ?_, ?_⟩
    · rw [Source.applyTo, applied, Streams.writeAll_eq_write]
      rfl
    · rw [format, applied, Outcome.call_of_some rfl]
    · rintro args rfl
      rw [sprintf, format, fprintf_eq, applied, Outcome.call_of_some rfl, Outcome.call_of_some rfl]
      exact ⟨rfl, rfl⟩
    · rintro session arguments rfl rfl
      rw [Session.applyTo, Source.applyTo, direct]
      simp only [Streams.writeAll_eq_write]
      exact ⟨rfl, Session.settings_keepCursor ..⟩
  · intro fault unread
    have applied := Source.apply_of_error unread s c
    refine ⟨?_, ?_, ?_, ?_⟩
    · cases source with
      | template f => contradiction
      | value v => exact ⟨v, rfl, Template.ofValue_eq_error_iff.1 unread⟩
    · rw [Source.applyTo, applied]
      rfl
    · rw [format, applied, Outcome.call_of_some rfl]
    · rintro args rfl
      rw [sprintf, format, fprintf_eq, applied, Outcome.call_of_some rfl, Outcome.call_of_some rfl]
      exact ⟨rfl, Prod.ext rfl (streams.write_nil target)⟩

/-- A field that is too wide behind a literal and another field, written to a counter over a stream,
and a template that is no text. -/
theorem applyTo_fault_too_wide :
    let t := Text.ofString "a%s%*sb"
    let first : Occurrence := ⟨⟨Flags.ofText [], .absent, .absent, none, .string⟩,
      Text.ofString "%s", 1, 3⟩
    let second : Occurrence := ⟨⟨Flags.ofText [], .fromArgument, .absent, none, .string⟩,
      Text.ofString "%*s", 3, 6⟩
    let f : Template :=
      ⟨t, [.literal ['a'], .directive first, .directive second, .literal ['b']], none⟩
    let streams : Streams := [.counter 0 5, .plain ['z']]
    let c := Cursor.ofList [.text ['b'], .whole (2 ^ 63 + 1), .text ['x'], .null]
    Template.ofText t = .ok f
      ∧ (renderTokens Settings.initial f.tokens c).fault? = some .paddingTooWide
      ∧ (∃ before o behind n after, f.tokens = before ++ .directive o :: behind
        ∧ o.directive.Interrupted Settings.initial (c.advance (demandOf before)) .paddingTooWide n
        ∧ (Source.text t).applyTo Settings.initial streams 1 c
          = (⟨[['a'], ['b']], c.advance (demandOf before + n), some .paddingTooWide, []⟩, after)
        ∧ (c.advance (demandOf before + n)).consumed = 3
        ∧ after.find? 1 = some (.counter 0 7) ∧ after.find? 0 = some (.plain ['z', 'a', 'b']))
      ∧ (Source.value .null).toTemplate = .error .templateNotText
      ∧ (Source.value .null).applyTo Settings.initial streams 1 c
        = (⟨[], c, some .templateNotText, []⟩, streams) := by
  intro t first second f streams c
  have read : Template.ofText (Text.ofString "a%s%*sb") = .ok f := by cbv
  have stops : (renderTokens Settings.initial f.tokens c).fault? = some .paddingTooWide := by
    decide
  obtain ⟨rendering, -⟩ := applyTo_fault Settings.initial (.text t) streams 1 c
  obtain ⟨before, o, behind, n, after, same, none, interrupted, effect, received, -⟩ :=
    rendering f .paddingTooWide read stops
  -- what has been written and consumed by then
  have ended := congrArg Prod.fst effect
  rw [Source.applyTo, Source.apply_text read] at ended
  have written : (renderTokens Settings.initial before c).written = [['a'], ['b']] :=
    (congrArg Outcome.written ended).symm.trans (by decide)
  have consumed : (c.advance (demandOf before + n)).consumed = 3 :=
    (congrArg (fun o => o.cursor.consumed) ended).symm.trans (by decide)
  -- the stream under the counter receives what is written to the counter
  have under : streams.Receives 1 0 :=
    .under (show streams.find? 1 = some (.counter 0 5) from rfl) (by decide) (.self 0)
  have counted := received 1 (.self 1)
  have collected := received 0 under
  rw [Progress.text, written] at counted collected
  obtain ⟨-, reading⟩ := applyTo_fault Settings.initial (.value .null) streams 1 c
  obtain ⟨-, nothing, -⟩ := reading .templateNotText rfl
  rw [written] at effect
  exact ⟨read, stops, ⟨before, o, behind, n, after, same, interrupted, effect, consumed, counted,
    collected⟩, rfl, nothing⟩

end PercentFormat
