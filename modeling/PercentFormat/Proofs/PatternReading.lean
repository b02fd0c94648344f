import PercentFormat.Proofs.DirectivePattern

/-! # Reading by the patterns

The piece of a template at an offset is found by one pattern, and a directive between two offsets is
decomposed by the other one. Round by round this gives the tokens that reading gives. A directive
that has been found is always decomposed, so no template is refused because the second pattern does
not accept what the first one has found.

* **`directiveBetween_eq_ok_iff`** — the parts of a text that stand for a directive.
* **`nextToken`** — one round of reading by the patterns, with **`nextToken_cases`**.
* **`ReadsByPatterns`** — all rounds, with **`readsByPatterns_iff`**.
* **`DecomposedAt`** — a directive at an offset and its parts.
* **`directive_pattern_agrees`** — what the two patterns have in common. -/

namespace PercentFormat

/-! ## Parts of a text -/

/-- The code points of a text from `start` up to `stop`, or up to its end. -/
def slice (t : Text) (start stop : Nat) : Text := (t.take stop).drop start

/-- The part of a text that follows an offset. -/
theorem slice_add (t : Text) (start length : Nat) :
    slice t start (start + length) = (t.drop start).take length := by
  rw [slice, List.drop_take, Nat.add_sub_cancel_left]

/-! ## The directive that a part of a text spells -/

/-- A spelling stands for no directive if and only if one of its numbers has too many digits. -/
theorem Spelling.directive?_eq_none_iff (s : Spelling) : s.directive? = none ↔ ¬ s.Short := by
  rw [← s.exists_directive?_iff, Option.eq_none_iff_forall_ne_some, not_exists]

section Between

variable {t : Text} {start stop : Nat}

/-- Offsets below the bound are not refused. -/
theorem checkOffsets_of_lt (first : start < offsetBound) (last : stop < offsetBound) :
    checkOffsets start stop = .ok () := by
  rw [checkOffsets, if_neg]
  omega

/-- Offsets beyond the bound are refused. -/
theorem directiveBetween_of_le (beyond : offsetBound ≤ start ∨ offsetBound ≤ stop) :
    directiveBetween t start stop = .error .offsetOutOfRange := by
  rw [directiveBetween, checkOffsets, if_pos beyond]
  rfl

/-- The directive between two offsets is scanned in the part of the text. -/
theorem directiveBetween_eq (first : start < offsetBound) (last : stop < offsetBound) :
    directiveBetween t start stop
      = match Spelling.scan? (slice t start stop) with
        | some (s, []) =>
          match s.directive? with
          | some d => .ok ⟨d, slice t start stop, start, stop⟩
          | none => .error .tooManyDigits
        | _ => .error (.malformed ⟨t, start, .malformed⟩) := by
  rw [directiveBetween, checkOffsets_of_lt first last]
  rfl

/-- A part that is the text of a valid spelling stands for its directive. -/
theorem directiveBetween_of_valid (first : start < offsetBound) (last : stop < offsetBound)
    {s : Spelling} (valid : s.Valid) (same : s.text = slice t start stop) :
    directiveBetween t start stop
      = match s.directive? with
        | some d => .ok ⟨d, s.text, start, stop⟩
        | none => .error .tooManyDigits := by
  have scanned := Spelling.scan?_text_append valid []
  rw [List.append_nil, same] at scanned
  rw [directiveBetween_eq first last, scanned, same]

/-- A part that is no directive is refused. -/
theorem directiveBetween_of_not_isDirective (first : start < offsetBound)
    (last : stop < offsetBound) (other : ¬ IsDirective (slice t start stop)) :
    directiveBetween t start stop = .error (.malformed ⟨t, start, .malformed⟩) := by
  rw [directiveBetween_eq first last]
  split
  · rename_i s scanned
    have text := Spelling.scan?_text scanned
    rw [List.append_nil] at text
    exact absurd (text ▸ (Spelling.valid_of_scan? scanned).isDirective) other
  · rfl

/-- **The directive between two offsets** is the one that a valid spelling of this part stands
for. -/
theorem directiveBetween_eq_ok_iff {o : Occurrence} :
    directiveBetween t start stop = .ok o
      ↔ start < offsetBound ∧ stop < offsetBound ∧ ∃ (s : Spelling) (d : Directive), s.Valid
        ∧ s.text = slice t start stop ∧ s.directive? = some d
        ∧ o = ⟨d, slice t start stop, start, stop⟩ := by
  constructor
  · intro found
    have first : start < offsetBound := by
      by_contra beyond
      rw [directiveBetween_of_le (.inl (Nat.le_of_not_lt beyond))] at found
      contradiction
    have last : stop < offsetBound := by
      by_contra beyond
      rw [directiveBetween_of_le (.inr (Nat.le_of_not_lt beyond))] at found
      contradiction
    refine ⟨first, last, ?_⟩
    by_cases here : IsDirective (slice t start stop)
    · obtain ⟨s, valid, same⟩ := here.exists_valid
      rw [directiveBetween_of_valid first last valid same] at found
      cases known : s.directive? with
      | none => simp [known] at found
      | some d =>
        rw [known] at found
        exact ⟨s, d, valid, same, known, by rw [← same]; exact (Except.ok.inj found).symm⟩
    · rw [directiveBetween_of_not_isDirective first last here] at found
      contradiction
  · rintro ⟨first, last, s, d, valid, same, known, rfl⟩
    rw [directiveBetween_of_valid first last valid same, known, same]

end Between

/-! ## Reading by the patterns -/

/-- The piece of a template at an offset, and the offset behind it: a piece is searched for from the
offset on, and it has to be found right there. A literal is taken as it is, and a directive is
decomposed. -/
def nextToken (template : Text) (i : Nat) : Except Fault (Token × Nat) :=
  match Pattern.token.search? (template.drop i) with
  | none => .error (.malformed ⟨template, i, .incomplete⟩)
  | some (_ + 1, _) => .error (.malformed ⟨template, i, .unknown⟩)
  | some (0, w) =>
    match w.group? 1 with
    | some run => .ok (.literal run, i + w.text.length)
    | none => do
      let o ← directiveBetween template i (i + w.text.length)
      return (.directive o, i + w.text.length)

/-- The fault that reading stops with, if any. -/
def Stop.fault? : Stop → Option Fault
  | finished => none
  | malformed error => some (.malformed error)
  | tooManyDigits => some .tooManyDigits

/-- A template is **read by the patterns** from an offset on: as long as the offset is in front of
its end, the piece at the offset is a token, and reading goes on behind it, or a fault stops
reading. -/
inductive ReadsByPatterns (template : Text) : Nat → Reading → Prop where
  /-- The template is at its end. -/
  | finished {i : Nat} (done : template.length ≤ i) : ReadsByPatterns template i ⟨[], .finished⟩
  /-- The piece at the offset is a token. -/
  | token {i j : Nat} {token : Token} {r : Reading} (more : i < template.length)
      (next : nextToken template i = .ok (token, j)) (rest : ReadsByPatterns template j r) :
      ReadsByPatterns template i (r.cons token)
  /-- There is no piece at the offset, or it stands for no directive. -/
  | fault {i : Nat} {fault : Fault} {stop : Stop} (more : i < template.length)
      (next : nextToken template i = .error fault) (stops : stop.fault? = some fault) :
      ReadsByPatterns template i ⟨[], stop⟩

section Rounds

variable {t : Text} {i : Nat}

/-- A directive found in front of a text is shorter than it, and is the part behind the offset. -/
theorem slice_of_append {u rest : Text} (here : u ++ rest = t.drop i) (more : i < t.length) :
    slice t i (i + u.length) = u ∧ i + u.length ≤ t.length
      ∧ t.drop (i + u.length) = rest := by
  have lengths := congrArg List.length here
  rw [List.length_append, List.length_drop] at lengths
  refine ⟨?_, by omega, ?_⟩
  · rw [slice_add, ← here, List.take_left]
  · rw [← List.drop_drop, ← here, List.drop_left]

/-- A lexeme at the offset is the piece that is found. -/
theorem search?_token_of_lexeme? {l : Lexeme} {u rest : Text} (found : lexeme? u = some (l, rest)) :
    Pattern.token.search? u = some (0, Pattern.wayOf l rest) := by
  refine Pattern.search?_of_front? ?_
  rw [Pattern.front?_token_eq, found]
  rfl

/-- A literal at the offset is the next token. -/
theorem nextToken_of_literal {run rest : Text}
    (found : lexeme? (t.drop i) = some (.literal run, rest)) :
    nextToken t i = .ok (.literal run, i + run.length) := by
  rw [nextToken, search?_token_of_lexeme? found]
  rfl

/-- A directive at the offset is decomposed. -/
theorem nextToken_of_directive {s : Spelling} {rest : Text}
    (found : lexeme? (t.drop i) = some (.directive s, rest)) :
    nextToken t i = (directiveBetween t i (i + s.text.length)).map fun o =>
      (.directive o, i + s.text.length) := by
  rw [nextToken, search?_token_of_lexeme? found]
  rfl

/-- Where no lexeme begins, the reason is whether one begins later. -/
theorem nextToken_of_none (more : t.drop i ≠ []) (nothing : lexeme? (t.drop i) = none) :
    nextToken t i = .error (.malformed ⟨t, i, reasonAt (t.drop i)⟩) := by
  have searched := Pattern.isSome_search?_token (t.drop i)
  rw [nextToken, reasonAt]
  obtain ⟨c, u, rest⟩ := List.exists_cons_of_ne_nil more
  rw [rest] at nothing searched ⊢
  have none : Pattern.token.front? (c :: u) = none := by
    rw [Pattern.front?_token_eq, nothing, Option.map_none]
  rw [Pattern.search?_cons_of_none none] at searched ⊢
  -- what is found stands behind at least one character
  cases found : Pattern.token.search? u with
  | none =>
    rw [found, Option.map_none, Option.isSome_none] at searched
    rw [← searched]
    rfl
  | some place =>
    rw [found, Option.map_some, Option.isSome_some] at searched
    rw [← searched]
    rfl

/-- **One round of reading.** The piece at an offset is the next token, or reading stops there with
the same fault. -/
theorem nextToken_cases (few : t.length < offsetBound) (more : i < t.length) :
    (∃ token j, nextToken t i = .ok (token, j) ∧ i < j ∧ j ≤ t.length
        ∧ readFrom t i (t.drop i) = (readFrom t j (t.drop j)).cons token)
      ∨ ∃ fault stop, nextToken t i = .error fault ∧ stop.fault? = some fault
        ∧ readFrom t i (t.drop i) = ⟨[], stop⟩ := by
  have nonempty : t.drop i ≠ [] := by
    rw [Ne, List.drop_eq_nil_iff]
    omega
  cases found : lexeme? (t.drop i) with
  | none =>
    exact .inr ⟨_, .malformed _, nextToken_of_none nonempty found, rfl,
      readFrom_of_none nonempty found⟩
  | some lexed =>
    obtain ⟨l, rest⟩ := lexed
    obtain ⟨part, within, behind⟩ := slice_of_append (lexeme?_text found) more
    cases l with
    | literal run =>
      obtain ⟨some, -, -⟩ := literal_of_lexeme? found
      have positive := List.length_pos_iff.2 some
      rw [← behind] at found
      refine .inl ⟨.literal run, i + run.length, nextToken_of_literal found, by omega, within, ?_⟩
      exact readFrom_of_literal found
    | directive s =>
      have valid := valid_of_lexeme? found
      have positive : 0 < s.text.length := by
        obtain ⟨_, percent⟩ := s.text_eq_cons
        rw [percent]
        exact Nat.succ_pos _
      have last : i + s.text.length < offsetBound := by
        rw [Lexeme.text] at within
        omega
      have decomposed := directiveBetween_of_valid (by omega) last valid part.symm
      have next := nextToken_of_directive found
      rw [decomposed] at next
      cases known : s.directive? with
      | none =>
        rw [known] at next
        exact .inr ⟨.tooManyDigits, .tooManyDigits, next, rfl,
          readFrom_of_tooManyDigits found known⟩
      | some d =>
        rw [known] at next
        rw [← behind] at found
        exact .inl ⟨_, _, next, by omega, within, readFrom_of_directive found known⟩

/-- The fault that reading stops with tells how it stops. -/
theorem Stop.fault?_inj {first second : Stop} : first.fault? = second.fault? ↔ first = second := by
  cases first <;> cases second <;> simp [fault?]

/-- **Reading by the patterns** is reading: from each offset on it gives the tokens and the end that
reading gives, and nothing else. -/
theorem readsByPatterns_iff (few : t.length < offsetBound) (within : i ≤ t.length) (r : Reading) :
    ReadsByPatterns t i r ↔ r = readFrom t i (t.drop i) := by
  constructor
  · intro reads
    induction reads with
    | finished done => rw [List.drop_of_length_le done, readFrom_nil]
    | token more next rest ih =>
      rcases nextToken_cases few more with ⟨token, j, found, -, last, read⟩ | ⟨_, _, found, -, -⟩
      · rw [next] at found
        obtain ⟨rfl, rfl⟩ := Prod.mk.inj (Except.ok.inj found)
        rw [read, ih last]
      · rw [next] at found
        contradiction
    | fault more next stops =>
      rcases nextToken_cases few more with ⟨token, j, found, -⟩ | ⟨_, stop, found, same, read⟩
      · rw [next] at found
        contradiction
      · rw [next] at found
        obtain rfl := Except.error.inj found
        rw [read, Stop.fault?_inj.1 (stops.trans same.symm)]
  · rintro rfl
    -- what is left of the template becomes shorter with each token
    generalize left : t.length - i = n
    induction n using Nat.strongRecOn generalizing i with
    | _ n ih =>
      by_cases more : i < t.length
      · rcases nextToken_cases few more with
          ⟨token, j, found, first, last, read⟩ | ⟨_, _, found, same, read⟩
        · rw [read]
          exact .token more found (ih _ (by omega) last rfl)
        · rw [read]
          exact .fault more found same
      · rw [List.drop_of_length_le (by omega), readFrom_nil]
        exact .finished (by omega)

end Rounds

/-! ## The two patterns agree -/

/-- The flags of a valid spelling are all flags behind the percent sign. -/
theorem Spelling.Valid.takeWhile_flags {s : Spelling} (valid : s.Valid) (rest : Text) :
    ((s.text ++ rest).drop 1).takeWhile (· ∈ Flags.letters) = s.flags := by
  have outside := (pointed_append_outside s.precision s.length s.specifier rest).2
  rw [text_append, List.drop_one, List.tail_cons]
  exact takeWhile_append_of_startsOutside
    (fun c member => decide_eq_true (valid.flags c member))
    (width_outside valid.width valid.widthHead outside)

/-- Where no lexeme begins, the reason is another one than that a directive is malformed. -/
theorem reasonAt_ne_malformed (t : Text) : reasonAt t ≠ .malformed := by
  unfold reasonAt
  split <;> simp

/-- Reading never stops because a directive is malformed. -/
theorem reason_ne_malformed {template t : Text} {offset : Nat} {error : ParseError}
    (stops : (readFrom template offset t).stop = .malformed error) :
    error.reason ≠ .malformed := by
  induction t using lexeme_induction generalizing offset with
  | nil => simp at stops
  | stuck nonempty nothing =>
    rw [readFrom_of_none nonempty nothing] at stops
    obtain rfl := Stop.malformed.inj stops
    exact reasonAt_ne_malformed _
  | literal nonempty inside outside ih =>
    rw [readFrom_literal_append nonempty inside outside] at stops
    exact ih stops
  | @directive s rest valid ih =>
    cases known : s.directive? with
    | none => simp [readFrom_tooManyDigits_append valid known] at stops
    | some d =>
      rw [readFrom_directive_append valid known] at stops
      exact ih stops

/-- The error of a template never is that a directive is malformed. -/
theorem Template.reason_ne_malformed {t : Text} {f : Template} {error : ParseError}
    (read : ofText t = .ok f) (cut : f.error? = some error) : error.reason ≠ .malformed := by
  have reading := (ofText_eq_ok_iff.1 read).2
  rw [cut] at reading
  exact PercentFormat.reason_ne_malformed (congrArg Reading.stop reading)

/-- The text of a directive at an offset is **decomposed** into the parts of a spelling: all flags
behind the percent sign, a width, a precision, a length modifier and a specifier. They are what the
groups of the pattern of directives keep, and the directive is the one that they stand for, unless a
number has too many digits. -/
structure DecomposedAt (t : Text) (i : Nat) (text : Text) (s : Spelling) : Prop where
  /-- The parts are allowed in their places, and no zero is left in front of the width. -/
  valid : s.Valid
  /-- The parts make up the text. -/
  whole : s.text = text
  /-- The text stands at the offset. -/
  place : slice t i (i + text.length) = text
  /-- No flag is left behind the flags. -/
  flags : s.flags = (t.drop (i + 1)).takeWhile (· ∈ Flags.letters)
  /-- The pattern of directives takes the text to its end, with the parts in its groups. -/
  groups : Pattern.directive.full? (slice t i (i + text.length)) = some ⟨s.kept, text, []⟩
  /-- The text stands for the directive of its parts. -/
  directive : directiveBetween t i (i + text.length)
    = match s.directive? with
      | some d => .ok ⟨d, text, i, i + text.length⟩
      | none => .error .tooManyDigits

/-- A directive that the pattern of pieces finds at an offset is decomposed to its end. -/
theorem exists_decomposedAt {t text : Text} {i : Nat} {w : Way} (few : t.length < offsetBound)
    (found : Pattern.token.front? (t.drop i) = some w) (inGroup : w.group? 2 = some text) :
    w.text = text ∧ ∃ s, DecomposedAt t i text s := by
  rw [Pattern.front?_token_eq] at found
  obtain ⟨⟨l, rest⟩, lexed, rfl⟩ := Option.map_eq_some_iff.1 found
  cases l with
  | literal run => contradiction
  | directive s =>
    obtain rfl : s.text = text := Option.some.inj inGroup
    have valid := valid_of_lexeme? lexed
    have here : s.text ++ rest = t.drop i := lexeme?_text lexed
    have more : i < t.length := by
      by_contra beyond
      obtain ⟨_, percent⟩ := s.text_eq_cons
      rw [List.drop_of_length_le (Nat.le_of_not_lt beyond), percent] at here
      contradiction
    obtain ⟨part, within, -⟩ := slice_of_append here more
    refine ⟨rfl, s, valid, rfl, part, ?_, ?_, ?_⟩
    · rw [← List.drop_drop, ← here, valid.takeWhile_flags]
    · have scanned := Spelling.scan?_text_append valid []
      rw [List.append_nil] at scanned
      rw [part, Pattern.full?_directive_eq, scanned]
    · exact directiveBetween_of_valid (by omega) (by omega) valid part.symm

/-- Between offsets below the bound, a directive depends on the part of the text only. -/
theorem directiveBetween_congr {t u : Text} {start stop first last : Nat} {o : Occurrence}
    (found : directiveBetween t start stop = .ok o) (inRange : first < offsetBound)
    (inRange' : last < offsetBound) (same : slice u first last = slice t start stop) :
    directiveBetween u first last = .ok ⟨o.directive, o.text, first, last⟩ := by
  obtain ⟨-, -, s, d, valid, text, known, rfl⟩ := directiveBetween_eq_ok_iff.1 found
  refine directiveBetween_eq_ok_iff.2 ⟨inRange, inRange', s, d, valid, ?_, known, ?_⟩
  · rw [same, text]
  · rw [same]

/-- **The two patterns agree.** Let a template have fewer code points than there are offsets.
A directive that the pattern of pieces finds at an offset is decomposed to its end by the pattern of
directives. Reading by the two patterns is reading, and never stops because a directive is
malformed. For any offsets below the bound, the part of a text between them stands for a directive
if and only if it is the text of one with short numbers; otherwise a number in it has too many
digits, or it is malformed. The directive depends on this part only. Offsets beyond the bound are
refused. -/
theorem directive_pattern_agrees (t : Text) :
    (t.length < offsetBound →
      (∀ i w text, Pattern.token.front? (t.drop i) = some w → w.group? 2 = some text →
        w.text = text ∧ ∃ s, DecomposedAt t i text s)
      ∧ ∀ r, ReadsByPatterns t 0 r ↔ r = readTemplate t)
    ∧ (∀ error, (readTemplate t).stop = .malformed error → error.reason ≠ .malformed)
    ∧ (∀ f error, Template.ofText t = .ok f → f.error? = some error → error.reason ≠ .malformed)
    ∧ (∀ start stop, start < offsetBound → stop < offsetBound →
      ((∃ o, directiveBetween t start stop = .ok o)
          ↔ ∃ s : Spelling, s.Valid ∧ s.Short ∧ s.text = slice t start stop)
      ∧ (¬ IsDirective (slice t start stop) →
        directiveBetween t start stop = .error (.malformed ⟨t, start, .malformed⟩))
      ∧ (∀ s : Spelling, s.Valid → ¬ s.Short → s.text = slice t start stop →
        directiveBetween t start stop = .error .tooManyDigits)
      ∧ ∀ o, directiveBetween t start stop = .ok o →
        o = ⟨o.directive, slice t start stop, start, stop⟩
        ∧ ∀ u first last, first < offsetBound → last < offsetBound →
          slice u first last = slice t start stop →
          directiveBetween u first last = .ok ⟨o.directive, o.text, first, last⟩)
    ∧ ∀ start stop, offsetBound ≤ start ∨ offsetBound ≤ stop →
      directiveBetween t start stop = .error .offsetOutOfRange := by
  refine ⟨fun few => ⟨fun i w text => exists_decomposedAt few, fun r => ?_⟩,
    fun error => reason_ne_malformed, fun f error => Template.reason_ne_malformed,
    fun start stop first last => ⟨?_, directiveBetween_of_not_isDirective first last, ?_, ?_⟩,
    fun start stop => directiveBetween_of_le⟩
  · exact readsByPatterns_iff few (Nat.zero_le _) r
  · constructor
    · rintro ⟨o, found⟩
      obtain ⟨-, -, s, d, valid, text, known, -⟩ := directiveBetween_eq_ok_iff.1 found
      exact ⟨s, valid, s.exists_directive?_iff.1 ⟨d, known⟩, text⟩
    · rintro ⟨s, valid, short, text⟩
      obtain ⟨d, known⟩ := s.exists_directive?_iff.2 short
      exact ⟨_, directiveBetween_eq_ok_iff.2 ⟨first, last, s, d, valid, text, known, rfl⟩⟩
  · intro s valid long text
    rw [directiveBetween_of_valid first last valid text, s.directive?_eq_none_iff.2 long]
  · intro o found
    obtain ⟨-, -, s, d, -, -, -, rfl⟩ := directiveBetween_eq_ok_iff.1 found
    exact ⟨rfl, fun u first' last' => directiveBetween_congr found⟩

/-- Two flags and a width in front of an unknown specifier. The zero is a flag, and the part between
two other offsets is no directive. -/
theorem directive_pattern_agrees_zero_flag :
    let t := Text.ofString "a%-05d%q"
    let text := Text.ofString "%-05d"
    let d : Directive := ⟨Flags.ofText ['-', '0'], .given 5, .absent, none, .decimal⟩
    t.length < offsetBound
      ∧ Pattern.token.front? (t.drop 1) = some ⟨[(2, text)], text, ['%', 'q']⟩
      ∧ (∃ s, DecomposedAt t 1 text s ∧ s.flags = ['-', '0'])
      ∧ directiveBetween t 1 6 = .ok ⟨d, text, 1, 6⟩
      ∧ directiveBetween (text ++ ['s']) 0 5 = .ok ⟨d, text, 0, 5⟩
      ∧ directiveBetween t 0 6 = .error (.malformed ⟨t, 0, .malformed⟩)
      ∧ ReadsByPatterns t 0 (readTemplate t) := by
  intro t text d
  have few : t.length < offsetBound := by decide
  have front : Pattern.token.front? (t.drop 1) = some ⟨[(2, text)], text, ['%', 'q']⟩ := by
    decide
  have between : directiveBetween t 1 6 = .ok ⟨d, text, 1, 6⟩ := by
    have scanned : Spelling.scan? (slice t 1 6)
        = some (⟨['-', '0'], .digits ['5'], .absent, none, .decimal⟩, []) := by decide
    rw [directiveBetween_eq (by decide) (by decide), scanned]
    rfl
  obtain ⟨reading, -, -, offsets, -⟩ := directive_pattern_agrees t
  obtain ⟨-, s, decomposed⟩ := (reading few).1 1 _ text front rfl
  obtain ⟨-, -, -, only⟩ := offsets 1 6 (by decide) (by decide)
  obtain ⟨-, other, -, -⟩ := offsets 0 6 (by decide) (by decide)
  have notDirective : ¬ IsDirective (slice t 0 6) := by
    intro here
    obtain ⟨s, -, same⟩ := here.exists_valid
    obtain ⟨_, percent⟩ := s.text_eq_cons
    rw [percent] at same
    exact absurd (List.cons.inj same).1 (by decide)
  have same : slice (text ++ ['s']) 0 5 = slice t 1 6 := by decide
  have flags : s.flags = ['-', '0'] := decomposed.flags.trans (by decide)
  have moved := (only _ between).2 (text ++ ['s']) 0 5 (by decide) (by decide) same
  exact ⟨few, front, ⟨s, decomposed, flags⟩, between, moved, other notDirective,
    ((reading few).2 _).2 rfl⟩

/-- An offset beyond the bound is refused, though the part of the text in front of it is a
directive. -/
theorem directiveBetween_beyond_bound :
    (∃ s : Spelling, s.Valid ∧ s.Short ∧ s.text = slice ['%', 'd'] 0 offsetBound)
      ∧ directiveBetween ['%', 'd'] 0 offsetBound = .error .offsetOutOfRange := by
  have valid : (Spelling.ofParts [] .absent .absent none .decimal).Valid :=
    Spelling.valid_ofParts (by simp) (by simp) .absent none .decimal
  refine ⟨⟨_, valid, ⟨trivial, trivial⟩, ?_⟩, directiveBetween_of_le (.inr (Nat.le_refl _))⟩
  rw [slice, List.take_of_length_le (by decide)]
  rfl

end PercentFormat
