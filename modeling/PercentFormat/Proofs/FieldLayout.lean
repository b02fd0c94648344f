import PercentFormat.Proofs.ReadBack

/-! # The layout of fields

A directive writes its converted pieces in a field: as many characters as its width and the pieces
demand. The pieces are there in order, whole, and with padding in one place only. Where this place
is depends on the flags. The length of a text is the sum of the lengths of its fields and literals.

* **`Pieces.LaidOut`** — a text that pieces are laid out in, with a width and flags.
* **`Pieces.justify_eq_ok_iff`** — justified pieces are padded ones, up to the greatest padding.
* **`Part`** — what a token writes, with the length that it has.
* **`Token.run_render_part`** — a token is rendered to the text of its part.
* **`renderTokens_laidOut`** — the texts that tokens are rendered to, and their length. -/

namespace PercentFormat

/-! ## Pieces in a field -/

/-- Pieces **are laid out** in a text, with flags and a width. -/
structure Pieces.LaidOut (p : Pieces) (flags : Flags) (width : ℤ) (t : Text) : Prop where
  /-- The text is as long as the width, or as the pieces if these are longer. -/
  length : (t.length : ℤ) = max width p.length
  /-- The pieces are there in order, with padding in at most one of three places: spaces in front of
  them without the flags for the two others, zeros in front of the body with the flag for these,
  unless spaces go behind the pieces, and spaces behind with the flag for these. -/
  layout : ∃ a b c, t = Text.spaces a ++ p.sign ++ p.mark ++ Text.zeros b ++ p.body ++ p.tail
      ++ Text.spaces c
    ∧ (b = 0 ∧ c = 0 ∨ a = 0 ∧ c = 0 ∨ a = 0 ∧ b = 0)
    ∧ (0 < a → flags.zero = false ∧ flags.left = false)
    ∧ (0 < b → flags.zero = true ∧ flags.left = false)
    ∧ (0 < c → flags.left = true)

namespace Pieces

variable {p : Pieces} {flags : Flags} {width : ℤ} {t : Text}

/-- **Justified pieces** are padded by what the width leaves, unless this is too much. -/
theorem justify_eq_ok_iff :
    p.justify flags width = .ok t
      ↔ width - p.length < paddingBound ∧ p.pad flags (width - p.length).toNat = t := by
  rw [justify_eq]
  split <;> simp_all

/-- Padding is in one place, and which one the flags tell. -/
theorem exists_pad_eq (p : Pieces) (flags : Flags) (padding : ℕ) :
    ∃ a b c, p.pad flags padding = Text.spaces a ++ p.sign ++ p.mark ++ Text.zeros b ++ p.body
        ++ p.tail ++ Text.spaces c
      ∧ (b = 0 ∧ c = 0 ∨ a = 0 ∧ c = 0 ∨ a = 0 ∧ b = 0)
      ∧ (0 < a → flags.zero = false ∧ flags.left = false)
      ∧ (0 < b → flags.zero = true ∧ flags.left = false)
      ∧ (0 < c → flags.left = true) := by
  have none {P : Prop} (positive : 0 < 0) : P := absurd positive (Nat.lt_irrefl 0)
  rw [pad]
  by_cases left : flags.left = true
  · refine ⟨0, 0, padding, ?_, .inr (.inr ⟨rfl, rfl⟩), none, none, fun _ => left⟩
    simp [left, text, Text.spaces, Text.zeros]
  · have notLeft : flags.left = false := Bool.eq_false_of_not_eq_true left
    by_cases zero : flags.zero = true
    · refine ⟨0, padding, 0, ?_, .inr (.inl ⟨rfl, rfl⟩), none, fun _ => ⟨zero, notLeft⟩, none⟩
      simp [left, zero, Text.spaces]
    · have notZero : flags.zero = false := Bool.eq_false_of_not_eq_true zero
      refine ⟨padding, 0, 0, ?_, .inl ⟨rfl, rfl⟩, fun _ => ⟨notZero, notLeft⟩, none, none⟩
      simp [left, zero, text, Text.spaces, Text.zeros]

/-- Justified pieces are laid out. -/
theorem laidOut_of_justify (justified : p.justify flags width = .ok t) :
    p.LaidOut flags width t := by
  obtain ⟨-, rfl⟩ := justify_eq_ok_iff.1 justified
  refine ⟨?_, p.exists_pad_eq flags _⟩
  rw [length_pad]
  omega

end Pieces

/-! ## What tokens write -/

/-- What a token **writes**. -/
inductive Part where
  /-- The text of a literal. -/
  | literal (run : Text)
  /-- Nothing, for an argument that is ignored. -/
  | nothing
  /-- Converted pieces in a field. -/
  | field (flags : Flags) (width : ℤ) (pieces : Pieces)

namespace Part

/-- The **length** of what is written. A field is as long as its width, or as its pieces if these
are longer. -/
def length : Part → ℕ
  | literal run => run.length
  | nothing => 0
  | field _ width pieces => (max width pieces.length).toNat

/-- The text that is written, unless a field needs too much padding. -/
def text : Part → Except Fault Text
  | literal run => .ok run
  | nothing => .ok []
  | field flags width pieces => pieces.justify flags width

/-- A text **lays out** what is written: it is the text of a literal, it is empty where nothing is
written, and pieces are laid out in it. -/
def LaidOut : Part → Text → Prop
  | literal run, t => t = run
  | nothing, t => t = []
  | field flags width pieces, t => pieces.LaidOut flags width t

variable {part : Part} {t : Text}

/-- The text that is written lays it out. -/
theorem laidOut_of_text (written : part.text = .ok t) : part.LaidOut t := by
  cases part with
  | literal run => exact (Except.ok.inj written).symm
  | nothing => exact (Except.ok.inj written).symm
  | field flags width pieces => exact Pieces.laidOut_of_justify written

/-- A text that lays out what is written has its length. -/
theorem LaidOut.length_eq (laidOut : part.LaidOut t) : t.length = part.length := by
  cases part with
  | literal run => exact congrArg List.length laidOut
  | nothing => exact congrArg List.length laidOut
  | field flags width pieces =>
    have length := Pieces.LaidOut.length laidOut
    rw [Part.length, ← length, Int.toNat_natCast]

/-- Texts have the lengths of what they lay out. -/
theorem length_flatten {parts : List Part} {texts : List Text}
    (laidOut : List.Forall₂ LaidOut parts texts) :
    texts.flatten.length = (parts.map length).sum := by
  induction laidOut with
  | nil => rfl
  | cons first _ ih =>
    rw [List.flatten_cons, List.length_append, first.length_eq, ih, List.map_cons, List.sum_cons]

end Part

/-- What a directive writes for a width, a precision and a value of its own: the converted pieces of
the value in a field of the width, or nothing if the value is ignored. Without a width it is zero,
and a negative precision counts as absent. -/
def Directive.part (s : Settings) (d : Directive) (width precision v : Value) :
    Except Fault Part := do
  let width ← d.width.number width
  let precision ← d.precision.number precision
  let pieces ← d.convert s (precision.filter (0 ≤ ·)) v
  return if d.specifier.role = .ignored then .nothing else .field d.flags (width.getD 0) pieces

/-- The field of a directive is the text of its part. -/
theorem Directive.field_eq_part (s : Settings) (d : Directive) (width precision v : Value) :
    d.field s width precision v = d.part s width precision v >>= Part.text := by
  simp only [field, padded, part, bind_assoc, pure_bind]
  refine bind_congr fun width => bind_congr fun precision => bind_congr fun pieces => ?_
  split <;> rfl

/-- What a token writes from the place of a cursor on. A directive takes its values there: a width,
a precision and its own. -/
def Token.part (s : Settings) (c : Cursor) : Token → Except Fault Part
  | literal run => .ok (.literal run)
  | directive o =>
    o.directive.part s (c.valueAt c.consumed) (c.valueAt (c.consumed + o.directive.width.demand))
      (c.valueAt (c.consumed + o.directive.width.demand + o.directive.precision.demand))

/-- **A token is rendered** to the text of its part. -/
theorem Token.run_render_part (s : Settings) (token : Token) (c : Cursor) :
    ((token.render s).run c).1 = token.part s c >>= Part.text := by
  cases token with
  | literal run => rfl
  | directive o => rw [Token.render, Directive.run_render, Directive.field_eq_part]; rfl

/-- A directive whose argument is ignored writes nothing. -/
theorem Directive.part_eq_nothing {s : Settings} {d : Directive} {width precision v : Value}
    {part : Part} (ignored : d.specifier.role = .ignored)
    (known : d.part s width precision v = .ok part) : part = .nothing := by
  obtain ⟨w, -, known⟩ := bind_eq_ok_iff.1 known
  obtain ⟨p, -, known⟩ := bind_eq_ok_iff.1 known
  obtain ⟨pieces, -, known⟩ := bind_eq_ok_iff.1 known
  rw [if_pos ignored] at known
  exact (Except.ok.inj known).symm

/-! ## The layout of a text -/

/-- The texts that tokens are rendered to, up to a fault, lay out what the tokens write, each from
the place behind the values that the tokens in front of it took. -/
theorem exists_parts (s : Settings) (tokens : List Token) (c : Cursor) :
    ∃ parts : List Part,
      List.Forall₂ Part.LaidOut parts (renderTokens s tokens c).written
      ∧ (∀ (i : ℕ) (part : Part), parts[i]? = some part → ∃ token : Token, tokens[i]? = some token
        ∧ token.part s (c.advance (demandOf (tokens.take i))) = .ok part)
      ∧ ((renderTokens s tokens c).fault? = none → parts.length = tokens.length) := by
  induction tokens generalizing c with
  | nil => exact ⟨[], .nil, nofun, fun _ => rfl⟩
  | cons token rest ih =>
    rcases token.run_cases s c with ⟨text, c', run⟩ | ⟨fault, c', run⟩
    · have result := token.run_render_part s c
      rw [run] at result
      obtain ⟨part, known, written⟩ := bind_eq_ok_iff.1 result.symm
      obtain rfl := Token.cursor_of_ok run
      obtain ⟨parts, laidOut, places, all⟩ := ih (c.advance token.demand)
      rw [renderTokens_cons_of_ok rest run]
      refine ⟨part :: parts, .cons (Part.laidOut_of_text written) laidOut, fun i other member => ?_,
        fun none => congrArg Nat.succ (all none)⟩
      cases i with
      | zero =>
        obtain rfl := Option.some.inj member
        refine ⟨token, rfl, ?_⟩
        change token.part s (c.advance 0) = _
        rw [c.advance_zero]
        exact known
      | succ i =>
        obtain ⟨found, here, its⟩ := places i other member
        refine ⟨found, here, ?_⟩
        rw [List.take_succ_cons, demandOf_cons, ← c.advance_advance]
        exact its
    · rw [renderTokens_cons_of_error rest run]
      exact ⟨[], .nil, nofun, nofun⟩

/-- **The layout of a text.** Let tokens be rendered from any place of a cursor on, to their end or
up to a fault. Each text that has been written lays out what its token writes from the place behind
the values that the tokens in front of it took: the text of a literal, or the converted pieces of a
directive in a field of its width. Where an argument is ignored, nothing is written. The length of
all that has been written is the sum of these lengths. -/
theorem renderTokens_laidOut (s : Settings) (tokens : List Token) (c : Cursor) :
    ∃ parts : List Part,
      List.Forall₂ Part.LaidOut parts (renderTokens s tokens c).written
      ∧ (∀ (i : ℕ) (part : Part), parts[i]? = some part → ∃ token : Token, tokens[i]? = some token
        ∧ token.part s (c.advance (demandOf (tokens.take i))) = .ok part)
      ∧ ((renderTokens s tokens c).fault? = none → parts.length = tokens.length)
      ∧ (∀ (i : ℕ) (o : Occurrence) (text : Text), tokens[i]? = some (.directive o) →
        o.directive.specifier.role = .ignored →
        (renderTokens s tokens c).written[i]? = some text → text = [])
      ∧ (renderTokens s tokens c).text.length = (parts.map Part.length).sum := by
  obtain ⟨parts, laidOut, places, all⟩ := exists_parts s tokens c
  refine ⟨parts, laidOut, places, all, fun i o text here ignored written => ?_,
    Part.length_flatten laidOut⟩
  obtain ⟨within, rfl⟩ := List.getElem?_eq_some_iff.1 written
  have hasPart : i < parts.length := laidOut.length_eq ▸ within
  obtain ⟨token, place, known⟩ := places i parts[i] (List.getElem?_eq_getElem hasPart)
  obtain rfl := Option.some.inj (here.symm.trans place)
  have lays := laidOut.get hasPart within
  rw [List.get_eq_getElem, Directive.part_eq_nothing ignored known] at lays
  exact lays

/-- Zeros stand behind the sign and the mark of a number, and spaces behind a character. The width of
an ignored value does not matter, and a width that is no number is zero. -/
theorem renderTokens_laidOut_flags :
    let noFlags := Flags.ofText []
    let tokens : List Token :=
      [.directive ⟨⟨Flags.ofText ['+', '#', '0'], .given 8, .absent, none, .hex⟩,
          Text.ofString "%+#08x", 0, 6⟩,
        .directive ⟨⟨Flags.ofText ['-'], .fromArgument, .absent, none, .character⟩,
          Text.ofString "%-*c", 6, 10⟩,
        .directive ⟨⟨noFlags, .given 9, .absent, none, .pointer⟩, Text.ofString "%9p", 10, 13⟩,
        .directive ⟨⟨noFlags, .fromArgument, .absent, none, .string⟩, Text.ofString "%*s", 13, 16⟩]
    let args : List Value :=
      [.whole 255, .whole 3, .text ['x', 'y'], .null, .double .nan, .text ['z']]
    let p := renderTokens Settings.initial tokens (Cursor.ofList args)
    readTemplate (Text.ofString "%+#08x%-*c%9p%*s") = ⟨tokens, .finished⟩
      ∧ p.fault? = none ∧ p.written = ["+0x000ff", "x  ", "", "z"].map Text.ofString
      ∧ ∃ parts : List Part, parts.length = 4 ∧ List.Forall₂ Part.LaidOut parts p.written
        ∧ (parts.map Part.length).sum = 8 + 3 + 0 + 1 := by
  intro noFlags tokens args p
  have read : readTemplate (Text.ofString "%+#08x%-*c%9p%*s") = ⟨tokens, .finished⟩ := by
    clear p args
    cbv
  have complete : p.fault? = none := by decide
  have written : p.written = ["+0x000ff", "x  ", "", "z"].map Text.ofString := by decide
  obtain ⟨parts, laidOut, -, all, -, length⟩ :=
    renderTokens_laidOut Settings.initial tokens (Cursor.ofList args)
  refine ⟨read, complete, written, parts, all complete, laidOut, ?_⟩
  rw [← length]
  decide

end PercentFormat
