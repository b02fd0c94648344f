import PercentFormat.Directive.Grammar

/-! # Patterns

A pattern is matched at the front of a text, where there may be several ways to do so. They are
tried in order: the first alternative before the second one, and a part that may be repeated or left
out as often as it goes before any less often. The first way that leads to a match is taken.

* **`Pattern`** — patterns, with numbered groups whose texts are kept.
* **`Pattern.ways`** — all ways of matching a pattern at the front of a text, in order.
* **`Pattern.front?`**, **`Pattern.full?`**, **`Pattern.search?`** — the first way at the front of a
  text, the first one that takes all of it, and the first one from the first place on that has any.
* **`Pattern.plain`** — a pattern without its groups; it takes the same ways. -/

namespace PercentFormat

/-- A pattern. -/
inductive Pattern where
  /-- One character of a class. -/
  | one (p : Char → Bool)
  /-- Characters of a class, as many as there are, or fewer. -/
  | many (p : Char → Bool)
  /-- A pattern and another one behind it. -/
  | seq (first second : Pattern)
  /-- One of two patterns, the first one if possible. -/
  | either (first second : Pattern)
  /-- A pattern that may be left out, but not if it is possible. -/
  | optional (pattern : Pattern)
  /-- A pattern whose text is kept under a number. -/
  | group (number : Nat) (pattern : Pattern)

/-- A way of matching a pattern at the front of a text. -/
structure Way where
  /-- The texts that are kept under numbers, the latest first. -/
  kept : List (Nat × Text)
  /-- The text that is taken. -/
  text : Text
  /-- What follows it. -/
  rest : Text
  deriving DecidableEq

namespace Way

/-- The way that takes nothing. -/
def stay (t : Text) : Way := ⟨[], [], t⟩

/-- A way that is gone on with behind another one. -/
def append (first second : Way) : Way :=
  ⟨second.kept ++ first.kept, first.text ++ second.text, second.rest⟩

/-- Keeps the text of a way under a number. -/
def keep (number : Nat) (w : Way) : Way := { w with kept := (number, w.text) :: w.kept }

/-- The text that is kept under a number, if any. -/
def group? (w : Way) (number : Nat) : Option Text := w.kept.lookup number

/-- A way that keeps no texts. -/
def plain (w : Way) : Way := { w with kept := [] }

end Way

namespace Pattern

/-- The ways to take characters of a class from the front of a text, the longest first. -/
def runs (p : Char → Bool) : Text → List Way
  | [] => [Way.stay []]
  | c :: t =>
    (if p c then (runs p t).map fun w => { w with text := c :: w.text } else [])
      ++ [Way.stay (c :: t)]

/-- The ways of matching a pattern at the front of a text, in the order in which they are tried. -/
def ways : Pattern → Text → List Way
  | one _, [] => []
  | one p, c :: t => if p c then [⟨[], [c], t⟩] else []
  | many p, t => runs p t
  | seq first second, t =>
    (first.ways t).flatMap fun w => (second.ways w.rest).map w.append
  | either first second, t => first.ways t ++ second.ways t
  | optional pattern, t => pattern.ways t ++ [Way.stay t]
  | group number pattern, t => (pattern.ways t).map (Way.keep number)

/-- The first way at the front of a text. -/
def front? (p : Pattern) (t : Text) : Option Way := (p.ways t).head?

/-- The first way that takes all of a text. -/
def full? (p : Pattern) (t : Text) : Option Way := (p.ways t).find? fun w => w.rest = []

/-- The first place of a text where there is a way, as the number of characters in front of it, and
the first way there. -/
def search? (p : Pattern) : Text → Option (Nat × Way)
  | [] => (p.front? []).map fun w => (0, w)
  | c :: t =>
    match p.front? (c :: t) with
    | some w => some (0, w)
    | none => (search? p t).map fun (skipped, w) => (skipped + 1, w)

/-- A pattern without its groups. -/
def plain : Pattern → Pattern
  | one p => one p
  | many p => many p
  | seq first second => seq first.plain second.plain
  | either first second => either first.plain second.plain
  | optional pattern => optional pattern.plain
  | group _ pattern => pattern.plain

variable {a b : Pattern} {p : Char → Bool} {t : Text} {w : Way}

/-! ## The ways of each pattern -/

/-- The ways to take characters of a class where there is one more of them. -/
theorem runs_cons_of_mem {c : Char} (inside : p c = true) (t : Text) :
    runs p (c :: t)
      = (runs p t).map (fun w => { w with text := c :: w.text }) ++ [Way.stay (c :: t)] :=
  congrArg (· ++ [Way.stay (c :: t)]) (if_pos inside)

/-- The one way to take characters of a class where there are none. -/
theorem runs_cons_of_not_mem {c : Char} (outside : ¬ p c = true) (t : Text) :
    runs p (c :: t) = [Way.stay (c :: t)] :=
  congrArg (· ++ [Way.stay (c :: t)]) (if_neg outside)

/-- The one way to take a character of a class. -/
theorem ways_one_of_mem {c : Char} (inside : p c = true) (t : Text) :
    (one p).ways (c :: t) = [⟨[], [c], t⟩] := if_pos inside

/-- There is no way to take a character that is not of a class. -/
theorem ways_one_of_not_mem {c : Char} (outside : ¬ p c = true) (t : Text) :
    (one p).ways (c :: t) = [] := if_neg outside

/-- The ways of a pattern with another one behind it. -/
theorem ways_seq (a b : Pattern) (t : Text) :
    (seq a b).ways t = (a.ways t).flatMap fun w => (b.ways w.rest).map w.append := rfl

/-- The ways of two patterns, those of the first one before those of the second one. -/
theorem ways_either (a b : Pattern) (t : Text) :
    (either a b).ways t = a.ways t ++ b.ways t := rfl

/-- The ways of a pattern that may be left out, where this is the last one. -/
theorem ways_optional (a : Pattern) (t : Text) :
    (optional a).ways t = a.ways t ++ [Way.stay t] := rfl

/-- The ways of a pattern whose text is kept. -/
theorem ways_group (number : Nat) (a : Pattern) (t : Text) :
    (group number a).ways t = (a.ways t).map (Way.keep number) := rfl

/-! ## What the ways are -/

/-- A way behind another one. -/
theorem mem_ways_seq :
    w ∈ (seq a b).ways t ↔ ∃ first ∈ a.ways t, ∃ second ∈ b.ways first.rest,
      first.append second = w := by
  simp only [ways_seq, List.mem_flatMap, List.mem_map]

/-- A way of one of two patterns. -/
theorem mem_ways_either : w ∈ (either a b).ways t ↔ w ∈ a.ways t ∨ w ∈ b.ways t :=
  List.mem_append

/-- A way of a pattern that may be left out. -/
theorem mem_ways_optional : w ∈ (optional a).ways t ↔ w ∈ a.ways t ∨ w = Way.stay t := by
  rw [ways_optional, List.mem_append, List.mem_singleton]

/-- A way whose text is kept. -/
theorem mem_ways_group {number : Nat} :
    w ∈ (group number a).ways t ↔ ∃ v ∈ a.ways t, v.keep number = w :=
  List.mem_map

/-- A way that takes one character. -/
theorem mem_ways_one :
    w ∈ (one p).ways t ↔ ∃ c rest, p c = true ∧ t = c :: rest ∧ w = ⟨[], [c], rest⟩ := by
  cases t with
  | nil =>
    constructor
    · intro member
      exact absurd member List.not_mem_nil
    · rintro ⟨d, rest, -, same, -⟩
      exact absurd same.symm (List.cons_ne_nil d rest)
  | cons c t =>
    by_cases here : p c = true
    · rw [ways_one_of_mem here, List.mem_singleton]
      constructor
      · rintro rfl
        exact ⟨c, t, here, rfl, rfl⟩
      · rintro ⟨d, rest, -, same, rfl⟩
        obtain ⟨rfl, rfl⟩ := List.cons.inj same
        rfl
    · simp only [ways_one_of_not_mem here, List.not_mem_nil, false_iff]
      rintro ⟨d, rest, inClass, same, -⟩
      obtain ⟨rfl, -⟩ := List.cons.inj same
      exact here inClass

/-- A way to take characters of a class takes the first one and goes on, or it takes none. -/
theorem mem_runs_cons_iff {c : Char} :
    w ∈ runs p (c :: t) ↔ (p c = true ∧ ∃ v ∈ runs p t, { v with text := c :: v.text } = w)
      ∨ w = Way.stay (c :: t) := by
  by_cases inside : p c = true
  · simp only [runs_cons_of_mem inside, List.mem_append, List.mem_map, List.mem_singleton, inside,
      true_and]
  · rw [runs_cons_of_not_mem inside, List.mem_singleton]
    exact (or_iff_right fun more => inside more.1).symm

/-- Characters of a class are taken as a part of the class, and keep no texts. -/
theorem mem_ways_many (h : w ∈ (many p).ways t) : w.kept = [] ∧ ∀ c ∈ w.text, p c = true := by
  have h : w ∈ runs p t := h
  induction t generalizing w with
  | nil =>
    obtain rfl := List.mem_singleton.1 h
    exact ⟨rfl, by simp [Way.stay]⟩
  | cons c t ih =>
    rcases mem_runs_cons_iff.1 h with ⟨here, v, member, rfl⟩ | rfl
    · obtain ⟨kept, inside⟩ := ih member member
      refine ⟨kept, fun d taken => ?_⟩
      rcases List.mem_cons.1 taken with rfl | later
      · exact here
      · exact inside d later
    · exact ⟨rfl, by simp [Way.stay]⟩

/-- What is taken of a class and what follows it make up the text. -/
theorem text_append_rest_of_mem_runs (h : w ∈ runs p t) : w.text ++ w.rest = t := by
  induction t generalizing w with
  | nil =>
    obtain rfl := List.mem_singleton.1 h
    rfl
  | cons c t ih =>
    rcases mem_runs_cons_iff.1 h with ⟨-, v, member, rfl⟩ | rfl
    · exact congrArg (c :: ·) (ih member)
    · rfl

/-- What is taken and what follows it make up the text. -/
theorem text_append_rest (h : w ∈ a.ways t) : w.text ++ w.rest = t := by
  induction a generalizing t w with
  | one p =>
    obtain ⟨c, rest, -, rfl, rfl⟩ := mem_ways_one.1 h
    rfl
  | many p => exact text_append_rest_of_mem_runs h
  | seq first second hfirst hsecond =>
    obtain ⟨u, inFirst, v, inSecond, rfl⟩ := mem_ways_seq.1 h
    rw [Way.append, List.append_assoc, hsecond inSecond, hfirst inFirst]
  | either first second hfirst hsecond => exact (mem_ways_either.1 h).elim hfirst hsecond
  | optional pattern ih =>
    rcases mem_ways_optional.1 h with taken | rfl
    · exact ih taken
    · rfl
  | group number pattern ih =>
    obtain ⟨v, taken, rfl⟩ := mem_ways_group.1 h
    exact ih (w := v) taken

/-! ## The first way -/

/-- The first way of two patterns, one behind the other, if the second one goes on behind the first
way of the first one. -/
theorem front?_seq {first second : Way} (ha : a.front? t = some first)
    (hb : b.front? first.rest = some second) :
    (seq a b).front? t = some (first.append second) := by
  obtain ⟨others, ways⟩ := List.head?_eq_some_iff.1 ha
  obtain ⟨more, further⟩ := List.head?_eq_some_iff.1 hb
  rw [front?, ways_seq, ways, List.flatMap_cons, further]
  rfl

/-- The first alternative is taken if it is possible. -/
theorem front?_either_left (ha : a.front? t = some w) : (either a b).front? t = some w := by
  obtain ⟨others, ways⟩ := List.head?_eq_some_iff.1 ha
  rw [front?, ways_either, ways]
  rfl

/-- The second alternative is taken if the first one is not possible. -/
theorem front?_either_right (ha : a.ways t = []) : (either a b).front? t = b.front? t := by
  rw [front?, ways_either, ha, List.nil_append, front?]

/-- What may be left out is taken if it is possible. -/
theorem front?_optional_of_some (ha : a.front? t = some w) : (optional a).front? t = some w := by
  obtain ⟨others, ways⟩ := List.head?_eq_some_iff.1 ha
  rw [front?, ways_optional, ways]
  rfl

/-- What may be left out is left out if it is not possible. -/
theorem front?_optional_of_nil (ha : a.ways t = []) :
    (optional a).front? t = some (Way.stay t) := by
  rw [front?, ways_optional, ha]
  rfl

/-- The text of the first way is kept. -/
theorem front?_group (number : Nat) (ha : a.front? t = some w) :
    (group number a).front? t = some (w.keep number) := by
  rw [front?] at ha
  rw [front?, ways_group, List.head?_map, ha, Option.map_some]

/-- A character of a class is taken. -/
theorem front?_one {c : Char} (here : p c = true) (t : Text) :
    (one p).front? (c :: t) = some ⟨[], [c], t⟩ := by
  rw [front?, ways_one_of_mem here]
  rfl

/-- Characters of a class are taken as long as there are any. -/
theorem front?_many {run : Text} (inside : ∀ c ∈ run, p c = true)
    (outside : StartsOutside p t) : (many p).front? (run ++ t) = some ⟨[], run, t⟩ := by
  change (runs p (run ++ t)).head? = _
  induction run with
  | nil =>
    cases t with
    | nil => rfl
    | cons c t =>
      rw [List.nil_append, runs_cons_of_not_mem (Bool.eq_false_iff.1 (outside c rfl))]
      rfl
  | cons c run ih =>
    have more := ih fun d member => inside d (by simp [member])
    obtain ⟨others, ways⟩ := List.head?_eq_some_iff.1 more
    rw [List.cons_append, runs_cons_of_mem (inside c (by simp)), ways]
    rfl

/-- There is no way to take a character where the text starts outside the class. -/
theorem ways_one_eq_nil (outside : StartsOutside p t) : (one p).ways t = [] := by
  cases t with
  | nil => rfl
  | cons c t => exact ways_one_of_not_mem (Bool.eq_false_iff.1 (outside c rfl)) t

/-- Nothing is matched behind a pattern that is not. -/
theorem ways_seq_eq_nil (ha : a.ways t = []) : (seq a b).ways t = [] := by
  rw [ways_seq, ha, List.flatMap_nil]

/-! ## Groups and places -/

/-- A pattern takes the same ways without its groups. -/
theorem ways_plain (a : Pattern) (t : Text) : a.plain.ways t = (a.ways t).map Way.plain := by
  induction a generalizing t with
  | one p =>
    cases t with
    | nil => rfl
    | cons c t =>
      by_cases inside : p c = true
      · rw [plain, ways_one_of_mem inside]
        rfl
      · rw [plain, ways_one_of_not_mem inside]
        rfl
  | many p =>
    -- no way that takes a run keeps a text
    have same : ∀ w ∈ (many p).ways t, w.plain = w := by
      rintro ⟨kept, text, rest⟩ member
      obtain ⟨rfl, -⟩ := mem_ways_many member
      rfl
    rw [plain, List.map_congr_left same, List.map_id']
  | seq first second hfirst hsecond =>
    simp only [plain, ways_seq, hfirst, hsecond, List.flatMap_map, List.map_flatMap, List.map_map]
    rfl
  | either first second hfirst hsecond =>
    rw [plain, ways_either, ways_either, hfirst, hsecond, List.map_append]
  | optional pattern ih =>
    rw [plain, ways_optional, ways_optional, ih, List.map_append]
    rfl
  | group number pattern ih =>
    rw [plain, ways_group, ih, List.map_map]
    rfl

/-- A way at the front is found there. -/
theorem search?_of_front? (h : a.front? t = some w) : a.search? t = some (0, w) := by
  cases t with
  | nil => rw [search?, h, Option.map_some]
  | cons c t => rw [search?, h]

/-- Where there is no way at the front, a way is searched for behind the first character. -/
theorem search?_cons_of_none {c : Char} (h : a.front? (c :: t) = none) :
    a.search? (c :: t) = (a.search? t).map fun (skipped, w) => (skipped + 1, w) := by
  rw [search?, h]

end Pattern

end PercentFormat
