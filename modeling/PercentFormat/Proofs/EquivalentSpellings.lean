import PercentFormat.Proofs.Respelling

/-! # Spellings that mean the same

Much of how a directive is spelled makes no difference. Flags count as a set, and some flags make
others idle; a length modifier is never looked at; and there are specifiers that make the same of
their arguments. Every directive has a normal form, which keeps what rendering looks at and nothing
else, and edits of a template that keep the normal forms of its directives keep all that it does.

* **`Spelling.Edit`** — the edits of a directive that make no difference.
* **`Directive.normal`** — what rendering looks at, with **`Directive.render_normal`**.
* **`Spelling.Alike`** — spellings of directives with the same normal form, with
  **`Spelling.Alike.of_eqvGen`**.
* **`apply_edited`** — templates that are edited are applied alike. -/

namespace PercentFormat

/-! ## Edits -/

/-- Specifiers that make the same of their arguments, and one of them that is kept for both. -/
inductive Specifier.Interchanges : Specifier → Specifier → Prop where
  /-- `@` is `s`. -/
  | object : Interchanges object string
  /-- `i` is `d`. -/
  | integer : Interchanges integer decimal
  /-- `u` is `d`. -/
  | unsigned : Interchanges unsigned decimal
  /-- `n` is `p`. -/
  | count : Interchanges count pointer

/-- An **edit** of a directive that makes no difference. -/
inductive Spelling.Edit : Spelling → Spelling → Prop where
  /-- Another run of the same flags. -/
  | flags {s : Spelling} {run : Text} (same : ∀ c, c ∈ run ↔ c ∈ s.flags) :
      Edit s { s with flags := run }
  /-- `0` is dropped where there is `-`. -/
  | zero {s : Spelling} {run : Text} (left : '-' ∈ s.flags)
      (rest : ∀ c, c ∈ run ↔ c ∈ s.flags ∧ c ≠ '0') : Edit s { s with flags := run }
  /-- A space is dropped where there is `+`. -/
  | space {s : Spelling} {run : Text} (plus : '+' ∈ s.flags)
      (rest : ∀ c, c ∈ run ↔ c ∈ s.flags ∧ c ≠ ' ') : Edit s { s with flags := run }
  /-- The length modifier is added, removed or changed. -/
  | length {s : Spelling} (length : Option Length) : Edit s { s with length := length }
  /-- The specifier is exchanged for one that makes the same of its argument. -/
  | specifier {s : Spelling} {x : Specifier} (same : s.specifier.Interchanges x) :
      Edit s { s with specifier := x }

/-! ## Normal forms -/

namespace Flags

/-- The flags that take effect: a space gives way to `+`, and `0` to `-`. -/
def effective (f : Flags) : Flags :=
  { f with space := f.space && !f.plus, zero := f.zero && !f.left }

/-- A sign depends on the flags that take effect only. -/
theorem signOf_effective (f : Flags) (n : Number) : signOf f.effective n = signOf f n := by
  obtain ⟨left, plus, space, alternate, zero⟩ := f
  -- a space is looked at only where there is no plus sign
  cases plus with
  | false => simp [signOf, effective]
  | true => simp [signOf, effective]

/-- Padding depends on the flags that take effect only. -/
theorem pad_effective (p : Pieces) (f : Flags) (padding : Nat) :
    p.pad f.effective padding = p.pad f padding := by
  obtain ⟨left, plus, space, alternate, zero⟩ := f
  -- zeros are looked at only where a field is padded in front
  cases left with
  | false => simp [Pieces.pad, effective]
  | true => simp [Pieces.pad, effective]

/-- A field depends on the flags that take effect only. -/
theorem justify_effective (p : Pieces) (f : Flags) (width : Int) :
    p.justify f.effective width = p.justify f width := by
  rw [Pieces.justify, Pieces.justify]
  simp only [pad_effective]

/-- A number without its sign looks at one flag only, which always takes effect. -/
theorem unsignedPieces_effective (s : Settings) (style : Style) (f : Flags)
    (precision : Option Value) (n : Number) :
    unsignedPieces s style f.effective precision n = unsignedPieces s style f precision n := by
  cases style with
  | whole base => rfl
  | real style =>
    cases style with
    | fixed => cases precision <;> rfl
    | exponent => rfl
    | general => rfl

/-- The pieces of a value depend on the flags that take effect only. -/
theorem pieces_effective (s : Settings) (form : NumberForm) (f : Flags) (precision : Option Value)
    (v : Value) : v.pieces s form f.effective precision = v.pieces s form f precision := by
  simp only [Value.pieces, Number.pieces, unsignedPieces_effective, signOf_effective]

end Flags

/-- The specifier that is kept for those that make the same of their arguments. -/
def Specifier.representative : Specifier → Specifier
  | object => string
  | integer => decimal
  | unsigned => decimal
  | count => pointer
  | x => x

/-- The specifier that is kept makes the same of its argument. -/
theorem Specifier.role_representative (x : Specifier) : x.representative.role = x.role := by
  cases x <;> rfl

/-- Specifiers that are interchanged have the same one that is kept. -/
theorem Specifier.Interchanges.representative_eq {x y : Specifier} (same : x.Interchanges y) :
    y.representative = x.representative := by
  cases same <;> rfl

namespace Directive

/-- The **normal form** of a directive: what rendering looks at. -/
def normal (d : Directive) : Directive :=
  ⟨d.flags.effective, d.width, d.precision, none, d.specifier.representative⟩

/-- **The normal form of a directive** is rendered like the directive. -/
theorem render_normal (s : Settings) (d : Directive) : d.normal.render s = d.render s := by
  have converted (precision : Option Int) :
      d.convertArgument s precision = d.normal.convertArgument s precision :=
    convertArgument_alike d.specifier.role_representative fun form _ v =>
      (Flags.pieces_effective s form d.flags _ v).symm
  have role : d.normal.specifier.role = d.specifier.role := d.specifier.role_representative
  have justified (pieces : Pieces) (width : Int) :
      pieces.justify d.normal.flags width = pieces.justify d.flags width :=
    Flags.justify_effective pieces d.flags width
  rw [render, render]
  simp only [converted, role, justified]
  rfl

end Directive

/-! ## Spellings of one normal form -/

/-- Spellings are **alike** if they are written of the same parts, apart from what rendering does
not look at. -/
structure Spelling.Alike (a b : Spelling) : Prop where
  /-- If one of the runs of flags holds nothing else, so does the other one. -/
  letters : (∀ c ∈ b.flags, c ∈ Flags.letters) ↔ ∀ c ∈ a.flags, c ∈ Flags.letters
  /-- The same flags take effect. -/
  flags : (Flags.ofText b.flags).effective = (Flags.ofText a.flags).effective
  /-- The widths are the same. -/
  width : b.width = a.width
  /-- The precisions are the same. -/
  precision : b.precision = a.precision
  /-- The specifiers make the same of their arguments. -/
  specifier : b.specifier.representative = a.specifier.representative

namespace Spelling

namespace Alike

variable {a b c : Spelling}

/-- A spelling is alike to itself. -/
theorem refl (a : Spelling) : a.Alike a := ⟨Iff.rfl, rfl, rfl, rfl, rfl⟩

/-- Alikeness is symmetric. -/
theorem symm (h : a.Alike b) : b.Alike a :=
  ⟨h.letters.symm, h.flags.symm, h.width.symm, h.precision.symm, h.specifier.symm⟩

/-- Alikeness is transitive. -/
theorem trans (h : a.Alike b) (k : b.Alike c) : a.Alike c :=
  ⟨k.letters.trans h.letters, k.flags.trans h.flags, k.width.trans h.width,
    k.precision.trans h.precision, k.specifier.trans h.specifier⟩

end Alike

/-- Without a flag that is dropped, a run holds nothing but flags if and only if it did before. -/
theorem letters_iff_of_drop {flags run : Text} {x : Char} (letter : x ∈ Flags.letters)
    (rest : ∀ c, c ∈ run ↔ c ∈ flags ∧ c ≠ x) :
    (∀ c ∈ run, c ∈ Flags.letters) ↔ ∀ c ∈ flags, c ∈ Flags.letters := by
  constructor
  · intro inside c member
    by_cases dropped : c = x
    · rw [dropped]
      exact letter
    · exact inside c ((rest c).2 ⟨member, dropped⟩)
  · intro inside c member
    exact inside c ((rest c).1 member).1

/-- **An edit** leaves a spelling that is alike. -/
theorem Edit.alike {a b : Spelling} (edit : Edit a b) : a.Alike b := by
  cases edit with
  | flags same =>
    refine ⟨forall_congr' fun c => by rw [same c], ?_, rfl, rfl, rfl⟩
    simp only [Flags.ofText, same]
  | zero left rest =>
    refine ⟨letters_iff_of_drop (by decide) rest, ?_, rfl, rfl, rfl⟩
    simp [Flags.ofText, Flags.effective, rest, left]
  | space plus rest =>
    refine ⟨letters_iff_of_drop (by decide) rest, ?_, rfl, rfl, rfl⟩
    simp [Flags.ofText, Flags.effective, rest, plus]
  | length length => exact ⟨Iff.rfl, rfl, rfl, rfl, rfl⟩
  | specifier same => exact ⟨Iff.rfl, rfl, rfl, rfl, same.representative_eq⟩

/-- Any number of edits, made or undone, leave a spelling that is alike. -/
theorem Alike.of_eqvGen {a b : Spelling} (edits : Relation.EqvGen Edit a b) : a.Alike b := by
  induction edits with
  | rel a b edit => exact edit.alike
  | refl a => exact .refl a
  | symm a b _ ih => exact ih.symm
  | trans a b c _ _ first second => exact first.trans second

end Spelling

/-- Spellings that are alike stand for directives of one normal form. -/
theorem standFor_alike : StandFor Spelling.Alike fun d e => e.normal = d.normal := by
  intro a b valid same
  refine ⟨⟨⟨same.letters.2 valid.flags, ?_, ?_⟩, ?_⟩, ?_⟩
  · rw [same.width]; exact valid.width
  · rw [same.precision]; exact valid.precision
  · rw [same.width]; exact valid.widthHead
  · rw [Spelling.directive?, Spelling.directive?, same.width, same.precision]
    cases a.width.parameter? with
    | none => exact .none
    | some width =>
      cases a.precision.parameter? with
      | none => exact .none
      | some precision =>
        refine .some ?_
        simp only [Directive.normal, same.flags, same.specifier]

/-! ## Templates that are edited -/

/-- **Edits that make no difference.** Let directives of a template be edited, each any number of
times: their flags written in another order or number, `0` dropped where there is `-` and a space
where there is `+`, length modifiers added, removed or changed, and specifiers exchanged for ones
that make the same of their arguments. For all arguments and under all settings, the template writes
the same texts, consumes as many arguments, ends in a fault of the same kind, if any, and reports as
much. Of faults and reports nothing changes but the places in the template that they point to. -/
theorem apply_edited {t u : Text} (edited : Respelled (Relation.EqvGen Spelling.Edit) t u)
    (s : Settings) (c : Cursor) :
    ((Source.text u).apply s c).written = ((Source.text t).apply s c).written
      ∧ ((Source.text u).apply s c).cursor = ((Source.text t).apply s c).cursor
      ∧ ((Source.text u).apply s c).fault?.map Fault.kind
        = ((Source.text t).apply s c).fault?.map Fault.kind
      ∧ ((Source.text u).apply s c).unplaced = ((Source.text t).apply s c).unplaced := by
  have stand : StandFor (Relation.EqvGen Spelling.Edit) fun d e => e.normal = d.normal :=
    fun a b valid edits => standFor_alike a b valid (.of_eqvGen edits)
  have same := edited.apply stand rfl (s := s) (c := c) fun o _ d normal => by
    rw [← o.directive.render_normal, ← d.render_normal, normal]
  have written := congrArg Outcome.written same
  have cursor := congrArg Outcome.cursor same
  have kind := congrArg (·.fault?.map Fault.kind) same
  simp only [Outcome.kind_unplaced] at kind
  exact ⟨written, cursor, kind, same⟩

/-- Idle flags, a length modifier and specifiers that are exchanged, in front of a rest for which
both templates are refused, each at its own place. -/
theorem apply_edited_idle_flags :
    let t := Text.ofString "%-0 +5lu%n%@%q"
    let u := Text.ofString "%+-5i%p%s%q"
    let s : Settings := fun x => if x = .strict then .bool true else Settings.initial x
    let c := Cursor.ofList [.whole 7, .null, .text ['x']]
    Respelled (Relation.EqvGen Spelling.Edit) t u
      ∧ ((Source.text t).apply s c).written = [Text.ofString "+7   ", [], ['x']]
      ∧ ((Source.text u).apply s c).written = [Text.ofString "+7   ", [], ['x']]
      ∧ ((Source.text u).apply s c).cursor.consumed = 3
      ∧ ((Source.text t).apply s c).fault? = some (.malformed ⟨t, 12, .unknown⟩)
      ∧ ((Source.text u).apply s c).fault?.map Fault.kind = some .template := by
  intro t u s c
  let number (flags : Text) (length : Option Length) (x : Specifier) : Spelling :=
    ⟨flags, .digits ['5'], .absent, length, x⟩
  let plain (x : Specifier) : Spelling := ⟨[], .absent, .absent, none, x⟩
  have numbers : Relation.EqvGen Spelling.Edit (number ['-', '0', ' ', '+'] (some .long) .unsigned)
      (number ['+', '-'] none .integer) := by
    have zero : Spelling.Edit (number ['-', '0', ' ', '+'] (some .long) .unsigned)
        (number ['-', ' ', '+'] (some .long) .unsigned) := .zero (by decide) (by grind)
    have space : Spelling.Edit (number ['-', ' ', '+'] (some .long) .unsigned)
        (number ['-', '+'] (some .long) .unsigned) := .space (by decide) (by grind)
    have order : Spelling.Edit (number ['-', '+'] (some .long) .unsigned)
        (number ['+', '-'] (some .long) .unsigned) := .flags (by grind)
    have length : Spelling.Edit (number ['+', '-'] (some .long) .unsigned)
        (number ['+', '-'] none .unsigned) := .length none
    have unsigned : Spelling.Edit (number ['+', '-'] none .unsigned)
        (number ['+', '-'] none .decimal) := .specifier .unsigned
    have integer : Spelling.Edit (number ['+', '-'] none .integer)
        (number ['+', '-'] none .decimal) := .specifier .integer
    have flags := ((Relation.EqvGen.rel _ _ zero).trans _ _ _ (.rel _ _ space)).trans _ _ _
      (.rel _ _ order)
    have specifiers := (Relation.EqvGen.rel _ _ unsigned).trans _ _ _ (.symm _ _ (.rel _ _ integer))
    exact (flags.trans _ _ _ (.rel _ _ length)).trans _ _ _ specifiers
  have edited : Respelled (Relation.EqvGen Spelling.Edit) t u := by
    have valid : (number ['-', '0', ' ', '+'] (some .long) .unsigned).Valid :=
      ⟨⟨by simp [number, Flags.letters], ⟨by simp, List.all_eq_true.1 (by decide)⟩, trivial⟩,
        by simp [number]⟩
    have plainValid (x : Specifier) : (plain x).Valid :=
      ⟨⟨by simp [plain], trivial, trivial⟩, by simp [plain]⟩
    have rest : lexeme? (Text.ofString "%q") = none := by decide
    have edits := Respelled.directive valid numbers <|
      .directive (plainValid .count) (.rel _ (plain .pointer) (.specifier .count)) <|
      .directive (plainValid .object) (.rel _ (plain .string) (.specifier .object)) <| .rest rest
    exact edits
  have read : Template.ofText (Text.ofString "%-0 +5lu%n%@%q")
      = .ok ⟨t, [.directive ⟨⟨Flags.ofText ['-', '0', ' ', '+'], .given 5, .absent, some .long,
            .unsigned⟩, Text.ofString "%-0 +5lu", 0, 8⟩,
          .directive ⟨⟨Flags.ofText [], .absent, .absent, none, .count⟩, Text.ofString "%n", 8, 10⟩,
          .directive ⟨⟨Flags.ofText [], .absent, .absent, none, .object⟩, Text.ofString "%@", 10,
            12⟩], some ⟨t, 12, .unknown⟩⟩ := by
    clear edited s c
    cbv
  have outcome := Source.apply_text read s c
  have text : ((Source.text t).apply s c).written = [Text.ofString "+7   ", [], ['x']] := by
    rw [outcome]
    decide +kernel
  have fault : ((Source.text t).apply s c).fault? = some (.malformed ⟨t, 12, .unknown⟩) := by
    rw [outcome]
    decide +kernel
  have taken : ((Source.text t).apply s c).cursor.consumed = 3 := by
    rw [outcome]
    decide +kernel
  obtain ⟨written, cursor, kind, -⟩ := apply_edited edited s c
  refine ⟨edited, text, written.trans text, ?_, fault, ?_⟩
  · rw [cursor, taken]
  · rw [kind, fault]
    rfl

end PercentFormat
