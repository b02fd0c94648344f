import PercentFormat.Proofs.DoubleRange
import PercentFormat.Proofs.Faults

/-! # The causes of faults

Rendering a directive is a sequence of checks: of a width and of a precision that are left to
arguments, of the directive's own value, of the precision that takes effect, and of the padding. The
first check that fails says which kind of fault arises. Each check is said here by what the values
are, and not by how they are converted.

* **`FirstOf`** — the first of several checks that fails.
* **`FailsWith`** — a result is a fault of a kind.
* **`Value.HoldsLong`** — a whole number with too many digits stands in a value.
* **`Value.Uncoercible`**, **`Value.Unusable`** — values that are no numbers, and no precisions.
* **`Directive.checks`** — the checks of a directive, with **`Directive.failsWith_field_iff`**, and
  **`checksOf`** — those of the tokens of a template.
* **`apply_fault_kind_iff`** — when applying a template ends in a fault, and of which kind. -/

namespace PercentFormat

/-! ## Checks in order -/

section FirstOf

variable {α : Type}

/-- The **first of several checks that fails**, fails with `a`: all checks in front of it pass. -/
inductive FirstOf : List (α → Prop) → α → Prop where
  /-- The first check fails. -/
  | here {check : α → Prop} {checks : List (α → Prop)} {a : α} (fails : check a) :
      FirstOf (check :: checks) a
  /-- The first check passes, and a later one fails. -/
  | later {check : α → Prop} {checks : List (α → Prop)} {a : α} (passes : ∀ b, ¬ check b)
      (rest : FirstOf checks a) : FirstOf (check :: checks) a

/-- Among no checks none fails. -/
@[simp] theorem not_firstOf_nil (a : α) : ¬ FirstOf [] a := by
  intro first
  cases first

/-- Either the first check fails, or it passes and the others decide. -/
theorem firstOf_cons_iff {check : α → Prop} {checks : List (α → Prop)} {a : α} :
    FirstOf (check :: checks) a ↔ check a ∨ (∀ b, ¬ check b) ∧ FirstOf checks a := by
  constructor
  · intro first
    cases first with
    | here fails => exact .inl fails
    | later passes rest => exact .inr ⟨passes, rest⟩
  · rintro (fails | ⟨passes, rest⟩)
    · exact .here fails
    · exact .later passes rest

/-- A single check decides on its own. -/
theorem firstOf_singleton_iff {check : α → Prop} {a : α} : FirstOf [check] a ↔ check a := by
  simp [firstOf_cons_iff]

/-- Of two lists of checks the second one decides where all checks of the first one pass. -/
theorem firstOf_append_iff {checks others : List (α → Prop)} {a : α} :
    FirstOf (checks ++ others) a
      ↔ FirstOf checks a ∨ (∀ b, ¬ FirstOf checks b) ∧ FirstOf others a := by
  induction checks with
  | nil => simp
  | cons check checks ih =>
    simp only [List.cons_append, firstOf_cons_iff, ih]
    constructor
    · rintro (fails | ⟨passes, first | ⟨none, second⟩⟩)
      · exact .inl (.inl fails)
      · exact .inl (.inr ⟨passes, first⟩)
      · refine .inr ⟨?_, second⟩
        rintro b (fails | ⟨-, first⟩)
        · exact passes b fails
        · exact none b first
    · rintro ((fails | ⟨passes, first⟩) | ⟨none, second⟩)
      · exact .inl fails
      · exact .inr ⟨passes, .inl first⟩
      · have passes : ∀ b, ¬ check b := fun b fails => none b (.inl fails)
        exact .inr ⟨passes, .inr ⟨fun b first => none b (.inr ⟨passes, first⟩), second⟩⟩

end FirstOf

/-! ## Results that are faults of a kind -/

section FailsWith

variable {α β : Type} {x : Except Fault α} {kind : FaultKind}

/-- A result **fails** with a kind if it is a fault of this kind. -/
def FailsWith (x : Except Fault α) (kind : FaultKind) : Prop :=
  ∃ fault, x = .error fault ∧ fault.kind = kind

/-- A value is no fault. -/
@[simp] theorem not_failsWith_ok (a : α) : ¬ FailsWith (.ok a : Except Fault α) kind := by
  rintro ⟨fault, same, -⟩
  contradiction

/-- A fault fails with its kind. -/
@[simp] theorem failsWith_error_iff (fault : Fault) :
    FailsWith (.error fault : Except Fault α) kind ↔ fault.kind = kind := by
  constructor
  · rintro ⟨arisen, same, kind⟩
    rwa [Except.error.inj same]
  · intro kind
    exact ⟨fault, rfl, kind⟩

/-- A result is a value unless it fails with some kind. -/
theorem forall_not_failsWith_iff : (∀ kind, ¬ FailsWith x kind) ↔ ∃ a, x = .ok a := by
  constructor
  · intro passes
    cases x with
    | error fault => exact absurd ⟨fault, rfl, rfl⟩ (passes fault.kind)
    | ok a => exact ⟨a, rfl⟩
  · rintro ⟨a, rfl⟩ kind
    exact not_failsWith_ok a

/-- Two steps fail with a kind if the first one does, or the second one behind it. -/
theorem failsWith_bind_iff {f : α → Except Fault β} :
    FailsWith (x >>= f) kind ↔ FailsWith x kind ∨ ∃ a, x = .ok a ∧ FailsWith (f a) kind := by
  cases x with
  | error fault => simp [bind, Except.bind]
  | ok a => simp [bind, Except.bind]

/-- Of two steps, the second one behind the first, the checks of the first one come first. -/
theorem failsWith_bind_iff_firstOf {f : α → Except Fault β} (checks : List (FaultKind → Prop))
    {others : List (FaultKind → Prop)} (first : ∀ kind, FailsWith x kind ↔ FirstOf checks kind)
    (second : ∀ a, x = .ok a → (FailsWith (f a) kind ↔ FirstOf others kind)) :
    FailsWith (x >>= f) kind ↔ FirstOf (checks ++ others) kind := by
  have passes : (∀ kind, ¬ FirstOf checks kind) ↔ ∃ a, x = .ok a := by
    rw [← forall_not_failsWith_iff]
    exact forall_congr' fun kind => not_congr (first kind).symm
  rw [failsWith_bind_iff, firstOf_append_iff, first, passes]
  refine or_congr_right ⟨?_, ?_⟩
  · rintro ⟨a, same, fails⟩
    exact ⟨⟨a, same⟩, (second a same).1 fails⟩
  · rintro ⟨⟨a, same⟩, fails⟩
    exact ⟨a, same, (second a same).2 fails⟩

/-- A result that is changed fails with the kinds that it failed with. -/
theorem failsWith_map_iff {g : α → β} : FailsWith (x.map g) kind ↔ FailsWith x kind := by
  cases x with
  | error fault => simp [Except.map]
  | ok a => simp [Except.map]

/-- A result that is changed behind a step fails with the kinds that the step fails with. -/
theorem failsWith_bind_pure_iff {g : α → β} :
    FailsWith (x >>= fun a => pure (g a)) kind ↔ FailsWith x kind := by
  cases x with
  | error fault => simp [bind, Except.bind]
  | ok a => simp [bind, Except.bind, pure, Except.pure]

/-- Two steps that fail with one kind only fail together if one of them does. -/
theorem failsWith_bind_iff_or {f : α → Except Fault β} {only : FaultKind} {p q : Prop}
    (first : ∀ kind, FailsWith x kind ↔ kind = only ∧ p)
    (second : ∀ a kind, FailsWith (f a) kind ↔ kind = only ∧ q) :
    FailsWith (x >>= f) kind ↔ kind = only ∧ (p ∨ q) := by
  rw [failsWith_bind_iff]
  constructor
  · rintro (fails | ⟨a, -, fails⟩)
    · exact ((first kind).1 fails).imp_right .inl
    · exact ((second a kind).1 fails).imp_right .inr
  · rintro ⟨rfl, fails⟩
    by_cases passes : ∀ other, ¬ FailsWith x other
    · obtain ⟨a, same⟩ := forall_not_failsWith_iff.1 passes
      have later : q := fails.resolve_left fun fails => passes _ ((first _).2 ⟨rfl, fails⟩)
      exact .inr ⟨a, same, (second a _).2 ⟨rfl, later⟩⟩
    · -- the first step fails, and it fails with one kind only
      simp only [not_forall, not_not] at passes
      obtain ⟨other, fails⟩ := passes
      obtain ⟨rfl, -⟩ := (first other).1 fails
      exact .inl fails

end FailsWith

/-! ## Values that have no text -/

/-- A value **holds a long number** if a whole number of more than `maxDigits` digits stands in it,
on its own, in a ratio, or anywhere in a container. -/
inductive Value.HoldsLong : Value → Prop where
  /-- A whole number. -/
  | whole {n : Int} (long : pow10 maxDigits ≤ n.natAbs) : HoldsLong (.whole n)
  /-- The numerator of a ratio. -/
  | numerator {q : Rat} (long : pow10 maxDigits ≤ q.num.natAbs) : HoldsLong (.ratio q)
  /-- The denominator of a ratio. -/
  | denominator {q : Rat} (long : pow10 maxDigits ≤ q.den) : HoldsLong (.ratio q)
  /-- An item of a list. -/
  | listItem {items : List Value} {v : Value} (member : v ∈ items) (long : HoldsLong v) :
      HoldsLong (.list items)
  /-- An item of a tuple. -/
  | tupleItem {items : List Value} {v : Value} (member : v ∈ items) (long : HoldsLong v) :
      HoldsLong (.tuple items)
  /-- A key of a dictionary. -/
  | dictKey {entries : List (Value × Value)} {k v : Value} (member : (k, v) ∈ entries)
      (long : HoldsLong k) : HoldsLong (.dict entries)
  /-- A value of a dictionary. -/
  | dictValue {entries : List (Value × Value)} {k v : Value} (member : (k, v) ∈ entries)
      (long : HoldsLong v) : HoldsLong (.dict entries)

namespace Value.HoldsLong

/-- A whole number holds itself. -/
theorem whole_iff {n : Int} : HoldsLong (.whole n) ↔ pow10 maxDigits ≤ n.natAbs := by
  constructor
  · rintro ⟨long⟩
    exact long
  · exact .whole

/-- A ratio holds its numerator and its denominator. -/
theorem ratio_iff {q : Rat} :
    HoldsLong (.ratio q) ↔ pow10 maxDigits ≤ q.num.natAbs ∨ pow10 maxDigits ≤ q.den := by
  constructor
  · intro long
    cases long with
    | numerator long => exact .inl long
    | denominator long => exact .inr long
  · rintro (long | long)
    · exact .numerator long
    · exact .denominator long

/-- A list holds what its items hold. -/
theorem list_iff {items : List Value} : HoldsLong (.list items) ↔ ∃ v ∈ items, v.HoldsLong := by
  constructor
  · intro long
    cases long with
    | listItem member long => exact ⟨_, member, long⟩
  · rintro ⟨v, member, long⟩
    exact .listItem member long

/-- A tuple holds what its items hold. -/
theorem tuple_iff {items : List Value} : HoldsLong (.tuple items) ↔ ∃ v ∈ items, v.HoldsLong := by
  constructor
  · intro long
    cases long with
    | tupleItem member long => exact ⟨_, member, long⟩
  · rintro ⟨v, member, long⟩
    exact .tupleItem member long

/-- A dictionary holds what its keys and its values hold. -/
theorem dict_iff {entries : List (Value × Value)} :
    HoldsLong (.dict entries) ↔ ∃ entry ∈ entries, entry.1.HoldsLong ∨ entry.2.HoldsLong := by
  constructor
  · intro long
    cases long with
    | dictKey member long => exact ⟨_, member, .inl long⟩
    | dictValue member long => exact ⟨_, member, .inr long⟩
  · rintro ⟨⟨k, v⟩, member, long | long⟩
    · exact .dictKey member long
    · exact .dictValue member long

end Value.HoldsLong

/-- A whole number has a text unless it is long. -/
theorem failsWith_wholeText_iff {n : Int} {kind : FaultKind} :
    FailsWith (wholeText n) kind ↔ kind = .value ∧ pow10 maxDigits ≤ n.natAbs := by
  rw [wholeText]
  split
  · rename_i long
    simp only [tooLong, decide_eq_true_eq] at long
    simp [long, Fault.kind, eq_comm]
  · rename_i short
    simp only [tooLong, decide_eq_true_eq] at short
    simp [short]

namespace Value

mutual

/-- A value can be shown unless it holds a long number. -/
theorem failsWith_shown_iff (v : Value) (kind : FaultKind) :
    FailsWith v.shown kind ↔ kind = .value ∧ v.HoldsLong := by
  -- what is shown of a value are the parts that it holds, and only whole numbers can fail
  cases v with
  | whole n => rw [shown, failsWith_wholeText_iff, HoldsLong.whole_iff]
  | ratio q =>
    rw [shown, HoldsLong.ratio_iff]
    refine failsWith_bind_iff_or (fun _ => failsWith_wholeText_iff) fun _ _ => ?_
    rw [failsWith_bind_pure_iff, failsWith_wholeText_iff, Int.natAbs_natCast]
  | list items =>
    rw [shown, failsWith_bind_pure_iff, failsWith_shownItems_iff, HoldsLong.list_iff]
  | tuple items =>
    rw [shown, failsWith_bind_pure_iff, failsWith_shownItems_iff, HoldsLong.tuple_iff]
  | dict entries =>
    rw [shown, failsWith_bind_pure_iff, failsWith_shownEntries_iff, HoldsLong.dict_iff]
  | bool b =>
    have short : ¬ HoldsLong (bool b) := by rintro ⟨⟩
    cases b <;> simp [shown, short]
  | _ =>
    rw [shown]
    refine iff_of_false (not_failsWith_ok _) ?_
    rintro ⟨-, ⟨⟩⟩

/-- Items can be shown unless one of them holds a long number. -/
theorem failsWith_shownItems_iff (items : List Value) (kind : FaultKind) :
    FailsWith (shownItems items) kind ↔ kind = .value ∧ ∃ v ∈ items, v.HoldsLong := by
  cases items with
  | nil => simp [shownItems]
  | cons v rest =>
    rw [shownItems, List.exists_mem_cons_iff]
    refine failsWith_bind_iff_or (failsWith_shown_iff v) fun _ _ => ?_
    rw [failsWith_bind_pure_iff, failsWith_shownItems_iff]

/-- Entries can be shown unless a key or a value holds a long number. -/
theorem failsWith_shownEntries_iff (entries : List (Value × Value)) (kind : FaultKind) :
    FailsWith (shownEntries entries) kind
      ↔ kind = .value ∧ ∃ entry ∈ entries, entry.1.HoldsLong ∨ entry.2.HoldsLong := by
  cases entries with
  | nil => simp [shownEntries]
  | cons entry rest =>
    obtain ⟨k, v⟩ := entry
    rw [shownEntries, List.exists_mem_cons_iff, or_assoc]
    refine failsWith_bind_iff_or (failsWith_shown_iff k) fun _ _ => ?_
    refine failsWith_bind_iff_or (failsWith_shown_iff v) fun _ _ => ?_
    rw [failsWith_bind_pure_iff, failsWith_shownEntries_iff]

end

/-- A value has a text unless it holds a long number. -/
theorem failsWith_toText_iff (v : Value) (kind : FaultKind) :
    FailsWith v.toText kind ↔ kind = .value ∧ v.HoldsLong := by
  cases v with
  | text t =>
    refine iff_of_false (not_failsWith_ok _) ?_
    rintro ⟨-, ⟨⟩⟩
  | missing =>
    refine iff_of_false (not_failsWith_ok _) ?_
    rintro ⟨-, ⟨⟩⟩
  | ratio q =>
    rw [toText, HoldsLong.ratio_iff]
    refine failsWith_bind_iff_or (fun _ => failsWith_wholeText_iff) fun _ _ => ?_
    by_cases whole : q.den = 1
    · -- the denominator is not shown, and it is not long
      have short : ¬ pow10 maxDigits ≤ q.den := by
        rw [whole, Nat.not_le]
        exact Nat.lt_of_lt_of_le (by decide) (pow10_le_pow10 (show 1 ≤ maxDigits by decide))
      rw [if_pos whole]
      exact iff_of_false (not_failsWith_ok _) fun long => short long.2
    · rw [if_neg whole, failsWith_bind_pure_iff, failsWith_wholeText_iff, Int.natAbs_natCast]
  | _ => exact failsWith_shown_iff _ kind

/-! ## Values that are no numbers, and no precisions -/

/-- A value **cannot be coerced**: it is a ratio beyond the doubles, or it is no number and its text
would show a long number. -/
def Uncoercible (kind : FaultKind) : Value → Prop
  | bool _ | whole _ | double _ => False
  | ratio q => kind = .overflow ∧ overflowBound * q.den ≤ q.num.natAbs
  | v => kind = .value ∧ v.HoldsLong

/-- A value stands for a number unless it cannot be coerced. -/
theorem failsWith_toNumber_iff (v : Value) (kind : FaultKind) :
    FailsWith v.toNumber kind ↔ v.Uncoercible kind := by
  cases v with
  | bool b => exact iff_of_false (not_failsWith_ok _) id
  | whole n => exact iff_of_false (not_failsWith_ok _) id
  | double x => exact iff_of_false (not_failsWith_ok _) id
  | ratio q =>
    have none := Magnitude.ofRatio?_eq_none_iff q.num.natAbs q.den_pos
    rw [toNumber, Uncoercible, ← none]
    cases Magnitude.ofRatio? q.num.natAbs q.den with
    | none => simp [ofNearest, Fault.kind, eq_comm]
    | some x => simp [ofNearest]
  | _ =>
    -- what is no number is read from its text, and every text denotes a number
    simp only [toNumber, failsWith_map_iff, failsWith_toText_iff, Uncoercible]

/-- A value stands for a whole number unless it cannot be coerced. -/
theorem failsWith_toInteger_iff (v : Value) (kind : FaultKind) :
    FailsWith v.toInteger kind ↔ v.Uncoercible kind :=
  failsWith_map_iff.trans (failsWith_toNumber_iff v kind)

/-- A value **cannot be used as a precision**: it is no whole number, or it is out of range. -/
def Unusable (kind : FaultKind) : Value → Prop
  | bool _ => False
  | whole n => kind = .overflow ∧ ¬ (-precisionBound ≤ n ∧ n < precisionBound)
  | _ => kind = .type

/-- A value is a precision unless it cannot be used as one. -/
theorem failsWith_precision_iff (v : Value) (kind : FaultKind) :
    FailsWith v.precision kind ↔ v.Unusable kind := by
  cases v with
  | bool b => exact iff_of_false (not_failsWith_ok _) id
  | whole n =>
    rw [precision, Unusable]
    split
    · rename_i within
      simp [within]
    · rename_i beyond
      simp only [failsWith_error_iff, Fault.kind, beyond, not_false_eq_true, and_true]
      exact eq_comm
  | _ => simp only [precision, Unusable, failsWith_error_iff, Fault.kind, eq_comm]

end Value

/-! ## The precision in effect -/

/-- The precision that takes effect in a notation: the one that is given, or else the value of the
variable of this notation. Fixed notation has no variable. -/
def RealStyle.precisionInEffect (s : Settings) (given : Option Value) : RealStyle → Option Value
  | fixed => given
  | exponent => some (given.getD (s .exponentPrecision))
  | general => some (given.getD (s .generalPrecision))

/-- A double is written unless it is finite and its precision cannot be used. -/
theorem failsWith_doublePieces_iff {flags : Flags} {style : RealStyle} {precision : Value}
    {x : Double} {kind : FaultKind} :
    FailsWith (doublePieces flags style precision x) kind
      ↔ x.isFinite = true ∧ precision.Unusable kind := by
  cases x with
  | finite negative magnitude =>
    rw [doublePieces, failsWith_map_iff, Value.failsWith_precision_iff]
    simp [Double.isFinite]
  | infinite negative => simp [doublePieces, Double.isFinite]
  | nan => simp [doublePieces, Double.isFinite]

/-- A **precision check** of a number: with a fraction, a number that fits the doubles is written
with the precision in effect, which cannot be used. -/
def Number.PrecisionFails (s : Settings) (style : Style) (given : Option Value) (n : Number)
    (kind : FaultKind) : Prop :=
  ∃ real inEffect, style = .real real ∧ n.FitsDouble
    ∧ real.precisionInEffect s given = some inEffect ∧ inEffect.Unusable kind

/-- A number without its sign is written unless its precision check fails. -/
theorem failsWith_unsignedPieces_iff {s : Settings} {style : Style} {flags : Flags}
    {given : Option Value} {n : Number} {kind : FaultKind} :
    FailsWith (unsignedPieces s style flags given n) kind
      ↔ n.PrecisionFails s style given kind := by
  cases style with
  | whole base => simp [unsignedPieces, Number.PrecisionFails]
  | real real =>
    cases real with
    | fixed =>
      cases given with
      | none => simp [unsignedPieces, Number.PrecisionFails, RealStyle.precisionInEffect]
      | some precision =>
        rw [unsignedPieces, failsWith_doublePieces_iff, Number.isFinite_toDouble_iff]
        simp [Number.PrecisionFails, RealStyle.precisionInEffect]
    | exponent =>
      rw [unsignedPieces, failsWith_doublePieces_iff, Number.isFinite_toDouble_iff]
      simp [Number.PrecisionFails, RealStyle.precisionInEffect]
    | general =>
      rw [unsignedPieces, failsWith_doublePieces_iff, Number.isFinite_toDouble_iff]
      simp [Number.PrecisionFails, RealStyle.precisionInEffect]

/-! ## The checks of a directive -/

/-- The number of a width or a precision for a value, if it has one. -/
def Parameter.number? (p : Parameter) (v : Value) : Option Int := (p.number v).toOption.join

/-- A width or a precision fails if it is left to a value that cannot be coerced. -/
theorem Parameter.failsWith_number_iff {p : Parameter} {v : Value} {kind : FaultKind} :
    FailsWith (p.number v) kind ↔ p = .fromArgument ∧ v.Uncoercible kind := by
  cases p with
  | absent => simp [number]
  | given n => simp [number]
  | fromArgument => rw [number, failsWith_map_iff, Value.failsWith_toInteger_iff]; simp

namespace Directive

/-- The precision given to a directive, outright or by a value. A negative one counts as none. -/
def precisionFor (d : Directive) (precision : Value) : Option Int :=
  (d.precision.number? precision).filter (0 ≤ ·)

/-- The check of the value of a directive: a number cannot be coerced, and a text would show a long
number. -/
def ValueFails (d : Directive) (v : Value) (kind : FaultKind) : Prop :=
  match d.specifier.role with
  | .number _ => v.Uncoercible kind
  | .character => kind = .value ∧ v.HoldsLong
  | .text => kind = .value ∧ v.HoldsLong
  | .percent => False
  | .ignored => False

/-- The check of the precision of a directive that writes a number. -/
def PrecisionFails (s : Settings) (d : Directive) (precision v : Value) (kind : FaultKind) : Prop :=
  ∃ form n, d.specifier.role = .number form ∧ v.toNumber = .ok n
    ∧ n.PrecisionFails s form.style ((d.precisionFor precision).map .whole) kind

/-- The check of the padding: a directive that writes something is to be padded with more characters
than a text can have. -/
def PaddingFails (s : Settings) (d : Directive) (width precision v : Value) (kind : FaultKind) :
    Prop :=
  kind = .overflow ∧ d.specifier.role ≠ .ignored
    ∧ ∃ pieces, d.convert s (d.precisionFor precision) v = .ok pieces
      ∧ Pieces.paddingBound ≤ (d.width.number? width).getD 0 - pieces.length

/-- The **checks** of a directive for a width, a precision and a value of its own, in order. -/
def checks (s : Settings) (d : Directive) (width precision v : Value) : List (FaultKind → Prop) :=
  [fun kind => d.width = .fromArgument ∧ width.Uncoercible kind,
    fun kind => d.precision = .fromArgument ∧ precision.Uncoercible kind,
    d.ValueFails v,
    d.PrecisionFails s precision v,
    d.PaddingFails s width precision v]

/-- A value is converted unless its check or that of the precision fails. -/
theorem failsWith_convert_iff {s : Settings} {d : Directive} {precision v : Value}
    {kind : FaultKind} :
    FailsWith (d.convert s (d.precisionFor precision) v) kind
      ↔ FirstOf [d.ValueFails v, d.PrecisionFails s precision v] kind := by
  -- only numbers have a precision, so that other values pass its check
  have other (notNumber : ∀ form, d.specifier.role ≠ .number form) (kind : FaultKind) :
      ¬ d.PrecisionFails s precision v kind := by
    rintro ⟨form, n, number, -⟩
    exact notNumber form number
  rw [convert]
  cases role : d.specifier.role with
  | percent => simp [firstOf_cons_iff, ValueFails, role, other]
  | ignored => simp [firstOf_cons_iff, ValueFails, role, other]
  | character =>
    rw [failsWith_map_iff, Value.failsWith_toText_iff]
    simp [firstOf_cons_iff, ValueFails, role, other]
  | text =>
    rw [failsWith_map_iff, Value.failsWith_toText_iff]
    simp [firstOf_cons_iff, ValueFails, role, other]
  | number form =>
    refine failsWith_bind_iff_firstOf [d.ValueFails v] (fun kind => ?_) fun n same => ?_
    · rw [Value.failsWith_toNumber_iff, firstOf_singleton_iff, ValueFails, role]
    · rw [Number.pieces, failsWith_bind_pure_iff, failsWith_unsignedPieces_iff,
        firstOf_singleton_iff]
      simp [PrecisionFails, role, same]

/-- A converted value is padded unless the padding is too wide. -/
theorem failsWith_justify_iff {p : Pieces} {flags : Flags} {width : Int} {kind : FaultKind} :
    FailsWith (p.justify flags width) kind
      ↔ kind = .overflow ∧ Pieces.paddingBound ≤ width - p.length := by
  rw [p.justify_eq]
  split
  · rename_i narrow
    exact iff_of_false (not_failsWith_ok _) fun wide => Int.not_lt.2 wide.2 narrow
  · rename_i wide
    simp [Int.not_lt.1 wide, Fault.kind, eq_comm]

/-- **A field** is written unless one of the checks of the directive fails, and then the first one
that does tells the kind of the fault. -/
theorem failsWith_field_iff (s : Settings) (d : Directive) (width precision v : Value)
    (kind : FaultKind) :
    FailsWith (d.field s width precision v) kind ↔ FirstOf (d.checks s width precision v) kind := by
  refine failsWith_bind_iff_firstOf [_] (fun kind => ?_) fun w first => ?_
  · rw [Parameter.failsWith_number_iff, firstOf_singleton_iff]
  refine failsWith_bind_iff_firstOf [_] (fun kind => ?_) fun p second => ?_
  · rw [Parameter.failsWith_number_iff, firstOf_singleton_iff]
  have widthSame : d.width.number? width = w := by rw [Parameter.number?, first]; rfl
  have precisionSame : d.precisionFor precision = p.filter (0 ≤ ·) := by
    rw [precisionFor, Parameter.number?, second]
    rfl
  rw [padded, ← precisionSame]
  refine failsWith_bind_iff_firstOf [_, _] (fun kind => failsWith_convert_iff) fun pieces same => ?_
  rw [firstOf_singleton_iff, PaddingFails, widthSame, same]
  by_cases ignored : d.specifier.role = .ignored
  · rw [if_pos ignored]
    simp [ignored, pure, Except.pure]
  · rw [if_neg ignored, failsWith_justify_iff]
    simp [ignored]

end Directive

/-! ## The checks of tokens -/

/-- The checks of a token at a cursor. A literal has none. -/
def Token.checks (s : Settings) (c : Cursor) : Token → List (FaultKind → Prop)
  | literal _ => []
  | directive o =>
    o.directive.checks s (c.valueAt c.consumed) (c.valueAt (c.consumed + o.directive.width.demand))
      (c.valueAt (c.consumed + o.directive.width.demand + o.directive.precision.demand))

/-- The **checks of tokens** in order, each token behind what those in front of it take. -/
def checksOf (s : Settings) : List Token → Cursor → List (FaultKind → Prop)
  | [], _ => []
  | token :: rest, c => token.checks s c ++ checksOf s rest (c.advance token.demand)

/-- A token is rendered unless one of its checks fails. -/
theorem Token.failsWith_render_iff (s : Settings) (token : Token) (c : Cursor) (kind : FaultKind) :
    FailsWith ((token.render s).run c).1 kind ↔ FirstOf (token.checks s c) kind := by
  cases token with
  | literal run => simp [Token.run_render_literal, checks]
  | directive o =>
    rw [Token.render, Directive.run_render, checks]
    exact o.directive.failsWith_field_iff ..

/-- Tokens are rendered unless one of their checks fails, and then the first one that does tells the
kind of the fault. -/
theorem renderTokens_fault_kind_iff (s : Settings) (tokens : List Token) (c : Cursor)
    (kind : FaultKind) :
    (∃ fault, (renderTokens s tokens c).fault? = some fault ∧ fault.kind = kind)
      ↔ FirstOf (checksOf s tokens c) kind := by
  induction tokens generalizing c with
  | nil => simp [checksOf]
  | cons token rest ih =>
    have first := token.failsWith_render_iff s c
    rw [checksOf, firstOf_append_iff]
    rcases token.run_cases s c with ⟨text, c', run⟩ | ⟨arisen, c', run⟩
    · -- the token passes its checks, so the rest decides
      simp only [run, not_failsWith_ok, false_iff] at first
      rw [renderTokens_cons_of_ok rest run, ih c', Token.cursor_of_ok run]
      simp [first]
    · -- the token fails, so the checks of the rest do not count
      rw [renderTokens_cons_of_error rest run]
      simp only [run, failsWith_error_iff] at first
      simp [← first]

/-! ## Faults of applications -/

/-- No fault of rendering is of the kind of malformed templates. -/
theorem Fault.kind_ne_template_of_mem {fault : Fault} (h : fault ∈ Fault.ofRendering) :
    fault.kind ≠ .template := by
  simp only [ofRendering, ofCoercions, ofPrecisions, List.mem_append, List.mem_cons,
    List.not_mem_nil, or_false] at h
  rcases h with ((rfl | rfl) | rfl | rfl) | rfl <;> simp [kind]

/-- **When applying a template ends in a fault.** Apart from the refusal of a malformed template,
there is a fault if and only if some directive, taken in order, fails one of its checks. The first
check that fails tells the kind of the fault. -/
theorem apply_fault_kind_iff (s : Settings) (f : Template) (c : Cursor) (kind : FaultKind) :
    (kind ≠ .template ∧ ∃ fault, (f.apply s c).fault? = some fault ∧ fault.kind = kind)
      ↔ FirstOf (checksOf s f.tokens c) kind := by
  rw [← renderTokens_fault_kind_iff, Template.fault?_apply]
  constructor
  · rintro ⟨other, fault, ends, rfl⟩
    refine ⟨fault, ?_, rfl⟩
    cases rendered : (renderTokens s f.tokens c).fault? with
    | some arisen =>
      rw [rendered] at ends
      exact ends
    | none =>
      -- without a fault of a token, only a malformed template could have been refused
      rw [rendered, Option.none_or] at ends
      split at ends
      · obtain ⟨error, -, rfl⟩ := Option.map_eq_some_iff.1 ends
        exact absurd rfl other
      · contradiction
  · rintro ⟨fault, rendered, rfl⟩
    rw [rendered]
    exact ⟨Fault.kind_ne_template_of_mem (renderTokens_fault rendered), fault, rfl, rfl⟩

end PercentFormat
