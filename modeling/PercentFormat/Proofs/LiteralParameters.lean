import PercentFormat.Printf
import PercentFormat.Proofs.RemainingValues
import PercentFormat.Proofs.Spelling

/-! # Literal widths and precisions in place of stars

A width or a precision that is left to an argument may as well be written into the template, and the
argument left out. A width that asks for nothing and a negative precision are written by nothing at
all. The field is the same, and so is the text of the template, or the kind of the fault that it
ends in, although all values behind move to other places.

* **`Value.literal`** — what is written in the place of a star for a value.
* **`Directive.field_literal`** — a directive with literals has the same field.
* **`literalize`** — a template with literals, and the values that remain.
* **`StarsCoerce`** — the values that are taken for stars are numbers that may be written.
* **`format_literalize`** — a template with literals gives the same text. -/

namespace PercentFormat

/-! ## Literals -/

/-- The number that is written in the place of a star for a value. Nothing is written for a number
below `least`. The star stays for a value that is no number, and for a number of too many digits. -/
def Value.literal (least : Int) (v : Value) : Parameter :=
  match v.toInteger with
  | .error _ => .fromArgument
  | .ok n =>
    if n < least then .absent
    else if tooLong n.toNat then .fromArgument
    else .given n.toNat

/-- A width or a precision with a literal in the place of a star. -/
def Parameter.literal (least : Int) (v : Value) : Parameter → Parameter
  | fromArgument => v.literal least
  | p => p

/-- A width or a precision with a literal in the place of a star, as it is written. -/
def Written.literal (least : Int) (v : Value) : Written → Written
  | star => (v.literal least).written
  | w => w

/-- A directive with literals for the values of its width and its precision. A width has to be
positive, and a precision must not be negative. -/
def Directive.literal (d : Directive) (width precision : Value) : Directive :=
  { d with width := d.width.literal 1 width, precision := d.precision.literal 0 precision }

/-- A directive with literals for the values of its width and its precision, as it is written. -/
def Spelling.literal (s : Spelling) (width precision : Value) : Spelling :=
  { s with width := s.width.literal 1 width, precision := s.precision.literal 0 precision }

/-- A value for a star **coerces** if it stands for a whole number that is not too long to be
written. A negative number is never too long, for nothing is written for it. -/
def Parameter.Coerces (p : Parameter) (v : Value) : Prop :=
  p = .fromArgument → ∃ n, v.toInteger = .ok n ∧ n < pow10 maxDigits

/-- The literal of a value that coerces is its number, unless this is less than `least`. -/
theorem Value.literal_of_lt {v : Value} {n : Int} (whole : v.toInteger = .ok n)
    (below : n < pow10 maxDigits) (least : Int) :
    v.literal least = if n < least then .absent else .given n.toNat := by
  have positive := pow10_pos maxDigits
  have short : tooLong n.toNat = false := by
    rw [tooLong, decide_eq_false_iff_not]
    generalize pow10 maxDigits = bound at below positive ⊢
    omega
  rw [literal, whole]
  dsimp only
  rw [short]
  rfl

/-- A value that coerces leaves no star. -/
theorem Parameter.demand_literal {p : Parameter} {v : Value} (coerces : p.Coerces v) (least : Int) :
    (p.literal least v).demand = 0 := by
  cases p with
  | absent => rfl
  | given n => rfl
  | fromArgument =>
    obtain ⟨n, whole, below⟩ := coerces rfl
    rw [literal, Value.literal_of_lt whole below]
    split
    · rfl
    · rfl

/-- A literal is the number of the value in its place, or there is none for a number that is less
than `least`. -/
theorem Parameter.number_literal {p : Parameter} {v : Value} (coerces : p.Coerces v) {least : Int}
    (nonnegative : 0 ≤ least) (other : Value) :
    ∃ m n, p.number v = .ok m ∧ (p.literal least v).number other = .ok n
      ∧ (n = m ∨ n = none ∧ ∃ k, m = some k ∧ k < least) := by
  cases p with
  | absent => exact ⟨none, none, rfl, rfl, .inl rfl⟩
  | given k => exact ⟨some k, some k, rfl, rfl, .inl rfl⟩
  | fromArgument =>
    obtain ⟨n, whole, below⟩ := coerces rfl
    have resolved : fromArgument.number v = .ok (some n) := by rw [number, whole]; rfl
    rw [literal, Value.literal_of_lt whole below]
    by_cases less : n < least
    · rw [if_pos less]
      exact ⟨some n, none, resolved, rfl, .inr ⟨rfl, n, rfl, less⟩⟩
    · rw [if_neg less]
      have same : ((n.toNat : Nat) : Int) = n := Int.toNat_of_nonneg (by omega)
      exact ⟨some n, some n.toNat, resolved, rfl, .inl (by rw [same])⟩

/-- **A directive with literals** has the field that it has for the values in their places. -/
theorem Directive.field_literal {s : Settings} {d : Directive} {width precision : Value}
    (first : d.width.Coerces width) (second : d.precision.Coerces precision)
    (otherWidth otherPrecision v : Value) :
    (d.literal width precision).field s otherWidth otherPrecision v
      = d.field s width precision v := by
  obtain ⟨m, n, widthNumber, widthLiteral, widths⟩ :=
    Parameter.number_literal first (show (0 : Int) ≤ 1 by decide) otherWidth
  obtain ⟨p, q, precisionNumber, precisionLiteral, precisions⟩ :=
    Parameter.number_literal second (show (0 : Int) ≤ 0 by decide) otherPrecision
  have literal : (d.literal width precision).field s otherWidth otherPrecision v
      = (d.literal width precision).padded s n q v := by
    rw [field, Directive.literal, widthLiteral, precisionLiteral]
    rfl
  have values : d.field s width precision v = d.padded s m p v := by
    rw [field, widthNumber, precisionNumber]
    rfl
  -- a negative precision counts as none, and a width that is not positive asks for nothing
  have samePrecision : q.filter (0 ≤ ·) = p.filter (0 ≤ ·) := by
    rcases precisions with rfl | ⟨rfl, k, rfl, negative⟩
    · rfl
    · rw [Option.filter_some, if_neg (by simpa using negative)]
      rfl
  have sameWidth (pieces : Pieces) :
      pieces.justify d.flags (n.getD 0) = pieces.justify d.flags (m.getD 0) := by
    rcases widths with rfl | ⟨rfl, k, rfl, small⟩
    · rfl
    · rw [Option.getD_none, Option.getD_some, pieces.justify_of_nonpos d.flags (Int.le_refl 0),
        pieces.justify_of_nonpos d.flags (Int.lt_add_one_iff.1 small)]
  rw [literal, values, padded, padded, samePrecision]
  simp only [Directive.literal, sameWidth]
  rfl

/-! ## Literals as they are written -/

/-- A literal is short, and it is zero only where zero is not below `least`. -/
theorem Value.literal_spec (least : Int) (v : Value) :
    (v.literal least).Below (pow10 maxDigits) ∧ (0 < least → v.literal least ≠ .given 0) := by
  rw [literal]
  split
  · exact ⟨trivial, fun _ => by simp⟩
  · rename_i n _
    by_cases less : n < least
    · rw [if_pos less]
      exact ⟨trivial, fun _ => by simp⟩
    · rw [if_neg less]
      split
      · exact ⟨trivial, fun _ => by simp⟩
      · rename_i short
        rw [tooLong, decide_eq_true_eq, Nat.not_le] at short
        refine ⟨short, fun positive zero => ?_⟩
        have := Parameter.given.inj zero
        omega

/-- A short width or precision in decimal stands for its number. -/
theorem Parameter.parameter?_written {p : Parameter} (below : p.Below (pow10 maxDigits)) :
    p.written.parameter? = some p := by
  rw [Written.parameter?_eq (short_written below), denoted_written]

/-- A literal stands for its number. -/
theorem Written.parameter?_literal {w : Written} {p : Parameter} (known : w.parameter? = some p)
    (least : Int) (v : Value) : (w.literal least v).parameter? = some (p.literal least v) := by
  cases w with
  | absent =>
    obtain rfl := Option.some.inj known
    rfl
  | star =>
    obtain rfl := Option.some.inj known
    exact Parameter.parameter?_written (v.literal_spec least).1
  | digits run =>
    have same : p.literal least v = p := by
      rw [Written.parameter?] at known
      split at known
      · obtain rfl := Option.some.inj known
        rfl
      · contradiction
    rw [same]
    exact known

/-- A literal may be written. -/
theorem Written.valid_literal {w : Written} (valid : w.Valid) (least : Int) (v : Value) :
    (w.literal least v).Valid := by
  cases w with
  | absent => exact valid
  | star => exact Parameter.valid_written _
  | digits run => exact valid

namespace Spelling

/-- A directive with literals stands for the directive with these literals. -/
theorem directive?_literal {s : Spelling} {d : Directive} (known : s.directive? = some d)
    (width precision : Value) :
    (s.literal width precision).directive? = some (d.literal width precision) := by
  unfold directive? at known
  split at known
  · rename_i first second
    obtain rfl := Option.some.inj known
    simp only [literal, directive?, Written.parameter?_literal first,
      Written.parameter?_literal second, Directive.literal]
  · contradiction

/-- A directive with literals is valid: no literal width starts with a zero. -/
theorem Valid.literal {s : Spelling} (valid : s.Valid) (width precision : Value) :
    (s.literal width precision).Valid where
  flags := valid.flags
  width := Written.valid_literal valid.width 1 width
  precision := Written.valid_literal valid.precision 0 precision
  widthHead := by
    have head := valid.widthHead
    rw [Spelling.literal]
    cases written : s.width with
    | star => exact Parameter.head?_written ((width.literal_spec 1).2 (by decide))
    | absent => rw [written] at head; exact head
    | digits run => rw [written] at head; exact head

end Spelling

/-! ## Templates with literals -/

/-- The values that a directive with literals takes: its own value, and those for which its stars
stay. -/
def Directive.valuesKept (d : Directive) (values : List Value) : List Value :=
  let forPrecision := values.drop d.width.demand
  let own := forPrecision.drop d.precision.demand
  values.take (d.width.literal 1 (values.getD 0 .missing)).demand
    ++ forPrecision.take (d.precision.literal 0 (values.getD d.width.demand .missing)).demand
    ++ own.take d.ownDemand

/-- A template **with literals** in the place of its stars, for the values that are left, and the
values that remain when those in the place of which literals stand are left out. A star whose value
has no literal stays, and so does what cannot be read. -/
def literalize (t : Text) (values : List Value) : Text × List Value :=
  match _found : lexeme? t with
  | none => (t, values)
  | some (.literal run, rest) =>
    let (text, remaining) := literalize rest values
    (run ++ text, remaining)
  | some (.directive s, rest) =>
    match s.directive? with
    | none => (t, values)
    | some d =>
      let width := values.getD 0 .missing
      let precision := values.getD d.width.demand .missing
      let (text, remaining) := literalize rest (values.drop d.demand)
      ((s.literal width precision).text ++ text, d.valuesKept values ++ remaining)
termination_by t.length
decreasing_by all_goals exact length_lt_of_lexeme? _found

/-- What cannot be read stays as it is. -/
theorem literalize_of_none {t : Text} (h : lexeme? t = none) (values : List Value) :
    literalize t values = (t, values) := by
  rw [literalize]
  split <;> simp_all

/-- An empty template stays empty. -/
@[simp] theorem literalize_nil (values : List Value) : literalize [] values = ([], values) :=
  literalize_of_none rfl values

/-- A literal stays as it is. -/
theorem literalize_literal_append {run rest : Text} (nonempty : run ≠ [])
    (inside : ∀ c ∈ run, isPlain c = true) (outside : StartsOutside isPlain rest)
    (values : List Value) :
    literalize (run ++ rest) values
      = (run ++ (literalize rest values).1, (literalize rest values).2) := by
  have lexed := lexeme?_literal_append nonempty inside outside
  rw [literalize]
  split <;> simp_all

/-- A directive gets its literals. -/
theorem literalize_directive_append {s : Spelling} {d : Directive} (valid : s.Valid)
    (known : s.directive? = some d) (rest : Text) (values : List Value) :
    literalize (s.text ++ rest) values
      = ((s.literal (values.getD 0 .missing) (values.getD d.width.demand .missing)).text
            ++ (literalize rest (values.drop d.demand)).1,
          d.valuesKept values ++ (literalize rest (values.drop d.demand)).2) := by
  have lexed := lexeme?_directive_append valid rest
  rw [literalize]
  split <;> simp_all

/-- A directive with too many digits stays as it is, and so does all behind it. -/
theorem literalize_tooManyDigits_append {s : Spelling} (valid : s.Valid)
    (long : s.directive? = none) (rest : Text) (values : List Value) :
    literalize (s.text ++ rest) values = (s.text ++ rest, values) := by
  have lexed := lexeme?_directive_append valid rest
  rw [literalize]
  split <;> simp_all

/-- A template with literals starts like the template. -/
theorem head?_literalize (t : Text) (values : List Value) :
    (literalize t values).1.head? = t.head? := by
  induction t using lexeme_induction with
  | nil => rw [literalize_nil]
  | stuck nonempty nothing => rw [literalize_of_none nothing]
  | literal nonempty inside outside ih =>
    rw [literalize_literal_append nonempty inside outside,
      List.head?_append_of_ne_nil _ nonempty, List.head?_append_of_ne_nil _ nonempty]
  | @directive s rest valid ih =>
    cases known : s.directive? with
    | none => rw [literalize_tooManyDigits_append valid known]
    | some d =>
      rw [literalize_directive_append valid known]
      rfl

/-- A literal in front of a template with literals is a token of its own. -/
theorem readFrom_literalize_literal {run rest : Text} (nonempty : run ≠ [])
    (inside : ∀ c ∈ run, isPlain c = true) (outside : StartsOutside isPlain rest)
    (values : List Value) (template : Text) (offset : Nat) :
    readFrom template offset (literalize (run ++ rest) values).1
      = (readFrom template (offset + run.length) (literalize rest values).1).cons
          (.literal run) := by
  have same : StartsOutside isPlain (literalize rest values).1 := by
    rw [StartsOutside, head?_literalize]
    exact outside
  rw [literalize_literal_append nonempty inside outside,
    readFrom_literal_append nonempty inside same]

/-- A directive with literals in front of a template with literals is a token, and it stands for the
directive with these literals. -/
theorem readFrom_literalize_directive {r : Spelling} {d : Directive} (valid : r.Valid)
    (known : r.directive? = some d) (rest : Text) (values : List Value) (template : Text)
    (offset : Nat) :
    ∃ o : Occurrence, ∃ stop,
      o.directive = d.literal (values.getD 0 .missing) (values.getD d.width.demand .missing)
      ∧ readFrom template offset (literalize (r.text ++ rest) values).1
        = (readFrom template stop (literalize rest (values.drop d.demand)).1).cons
            (.directive o) := by
  rw [literalize_directive_append valid known,
    readFrom_directive_append (valid.literal _ _) (Spelling.directive?_literal known _ _)]
  exact ⟨_, _, rfl, rfl⟩

/-- Where there are no values, none remain. -/
theorem literalize_nil_right (t : Text) : (literalize t []).2 = [] := by
  induction t using lexeme_induction with
  | nil => rw [literalize_nil]
  | stuck nonempty nothing => rw [literalize_of_none nothing]
  | literal nonempty inside outside ih =>
    rw [literalize_literal_append nonempty inside outside]
    exact ih
  | @directive s rest valid ih =>
    cases known : s.directive? with
    | none => rw [literalize_tooManyDigits_append valid known]
    | some d =>
      rw [literalize_directive_append valid known]
      simp [Directive.valuesKept, ih]

/-! ## Texts of templates with literals -/

/-- All values that are taken for stars coerce. A directive takes its values only if those in front
of it have been rendered. -/
def StarsCoerce (s : Settings) : List Token → List Value → Prop
  | [], _ => True
  | .literal _ :: rest, values => StarsCoerce s rest values
  | .directive o :: rest, values =>
    o.directive.width.Coerces (values.getD 0 .missing)
      ∧ o.directive.precision.Coerces (values.getD o.directive.width.demand .missing)
      ∧ ∀ text, o.directive.fieldFor s values = .ok text →
        StarsCoerce s rest (values.drop o.directive.demand)

/-- A percent sign has no value of its own. -/
theorem Directive.field_percent {s : Settings} {d : Directive} (percent : d.specifier = .percent)
    (width precision v other : Value) :
    d.field s width precision v = d.field s width precision other := by
  have none : d.ownDemand = 0 := by rw [ownDemand, if_pos percent]
  exact field_congr s (fun _ => rfl) (fun _ => rfl) fun own => absurd own (by omega)

/-- **A directive with literals** takes its own value only, and has the same field for it. -/
theorem Directive.fieldFor_literal {s : Settings} {d : Directive} {values remaining : List Value}
    (first : d.width.Coerces (values.getD 0 .missing))
    (second : d.precision.Coerces (values.getD d.width.demand .missing))
    (exhausted : values.drop d.demand = [] → remaining = []) :
    (d.literal (values.getD 0 .missing) (values.getD d.width.demand .missing)).fieldFor s
        (d.valuesKept values ++ remaining) = d.fieldFor s values
      ∧ (d.valuesKept values ++ remaining).drop
          (d.literal (values.getD 0 .missing) (values.getD d.width.demand .missing)).demand
        = remaining := by
  have noWidth := Parameter.demand_literal first 1
  have noPrecision := Parameter.demand_literal second 0
  have kept : d.valuesKept values
      = (values.drop (d.width.demand + d.precision.demand)).take d.ownDemand := by
    rw [valuesKept]
    simp only [noWidth, noPrecision, List.take_zero, List.nil_append, List.drop_drop]
  have demand : (d.literal (values.getD 0 .missing) (values.getD d.width.demand .missing)).demand
      = d.ownDemand := by
    rw [Directive.demand]
    simp only [literal, noWidth, noPrecision, Nat.zero_add]
    rfl
  rw [fieldFor, fieldFor, field_literal first second, demand, kept]
  simp only [literal, noWidth, noPrecision, Nat.zero_add]
  by_cases percent : d.specifier = .percent
  · have none : d.ownDemand = 0 := by rw [ownDemand, if_pos percent]
    rw [none, List.take_zero, List.nil_append, List.drop_zero]
    exact ⟨field_percent percent .., rfl⟩
  · have one : d.ownDemand = 1 := by rw [ownDemand, if_neg percent]
    have own : values.getD (d.width.demand + d.precision.demand) .missing
        = (values.drop (d.width.demand + d.precision.demand)).getD 0 .missing := by
      rw [List.getD_eq_getElem?_getD, List.getD_eq_getElem?_getD, List.getElem?_drop, Nat.add_zero]
    rw [Directive.demand, one, ← List.drop_drop] at exhausted
    rw [own, one]
    cases left : values.drop (d.width.demand + d.precision.demand) with
    | nil =>
      -- the value is missing, and no values remain behind it
      rw [left] at exhausted
      rw [exhausted rfl]
      exact ⟨rfl, rfl⟩
    | cons v rest => exact ⟨rfl, rfl⟩

/-- **The text of a template with literals.** For the values that remain, it is that of the template
for all values. -/
theorem textFor_literalize (s : Settings) (t : Text) (values : List Value)
    (template other : Text) (offset place : Nat)
    (coerce : StarsCoerce s (readFrom template offset t).tokens values) :
    textFor s (readFrom other place (literalize t values).1).tokens (literalize t values).2
      = textFor s (readFrom template offset t).tokens values := by
  induction t using lexeme_induction generalizing values offset place with
  | nil => rw [literalize_nil, readFrom_nil, readFrom_nil]
  | stuck nonempty nothing =>
    rw [literalize_of_none nothing, readFrom_of_none nonempty nothing,
      readFrom_of_none nonempty nothing]
  | @literal run rest nonempty inside outside ih =>
    rw [readFrom_literal_append nonempty inside outside] at coerce ⊢
    rw [readFrom_literalize_literal nonempty inside outside,
      literalize_literal_append nonempty inside outside]
    simp only [Reading.cons, textFor]
    rw [ih values _ _ coerce]
  | @directive r rest valid ih =>
    cases known : r.directive? with
    | none =>
      rw [literalize_tooManyDigits_append valid known, readFrom_tooManyDigits_append valid known,
        readFrom_tooManyDigits_append valid known]
    | some d =>
      rw [readFrom_directive_append valid known] at coerce ⊢
      obtain ⟨first, second, behind⟩ := coerce
      have exhausted : values.drop d.demand = []
          → (literalize rest (values.drop d.demand)).2 = [] := by
        intro none
        rw [none, literalize_nil_right]
      obtain ⟨field, left⟩ := Directive.fieldFor_literal first second exhausted
      obtain ⟨o, stop, same, read⟩ :=
        readFrom_literalize_directive valid known rest values other place
      rw [read, literalize_directive_append valid known]
      simp only [Reading.cons, textFor, same]
      rw [field, left]
      cases written : d.fieldFor s values with
      | error fault => rfl
      | ok text =>
        -- the directive has been written, so the values behind it are taken
        simp only [bind, Except.bind]
        rw [ih (values.drop d.demand) _ _ (behind text written)]

/-- A directive **has no stars** if neither its width nor its precision is left to an argument. -/
def Directive.NoStars (d : Directive) : Prop :=
  d.width ≠ .fromArgument ∧ d.precision ≠ .fromArgument

/-- Literals leave no stars where the values coerce. -/
theorem Directive.noStars_literal {d : Directive} {width precision : Value}
    (first : d.width.Coerces width) (second : d.precision.Coerces precision) :
    (d.literal width precision).NoStars := by
  have noWidth := Parameter.demand_literal first 1
  have noPrecision := Parameter.demand_literal second 0
  constructor
  · intro star
    rw [show d.width.literal 1 width = .fromArgument from star] at noWidth
    contradiction
  · intro star
    rw [show d.precision.literal 0 precision = .fromArgument from star] at noPrecision
    contradiction

/-- **A template with literals has no stars** where all tokens of the template are rendered. -/
theorem noStars_literalize {s : Settings} {t text : Text} {values : List Value}
    {template : Text} {offset : Nat}
    (coerce : StarsCoerce s (readFrom template offset t).tokens values)
    (rendered : textFor s (readFrom template offset t).tokens values = .ok text)
    (other : Text) (place : Nat) {o : Occurrence}
    (member : .directive o ∈ (readFrom other place (literalize t values).1).tokens) :
    o.directive.NoStars := by
  induction t using lexeme_induction generalizing values offset place text with
  | nil =>
    rw [literalize_nil, readFrom_nil] at member
    contradiction
  | stuck nonempty nothing =>
    rw [literalize_of_none nothing, readFrom_of_none nonempty nothing] at member
    contradiction
  | @literal run rest nonempty inside outside ih =>
    rw [readFrom_literal_append nonempty inside outside] at coerce rendered
    obtain ⟨behind, written, -⟩ := map_eq_ok_iff.1 rendered
    rw [readFrom_literalize_literal nonempty inside outside] at member
    rcases List.mem_cons.1 member with same | later
    · contradiction
    · exact ih coerce written _ later
  | @directive r rest valid ih =>
    cases known : r.directive? with
    | none =>
      rw [literalize_tooManyDigits_append valid known,
        readFrom_tooManyDigits_append valid known] at member
      contradiction
    | some d =>
      rw [readFrom_directive_append valid known] at coerce rendered
      obtain ⟨first, second, behind⟩ := coerce
      obtain ⟨field, written, others⟩ := bind_eq_ok_iff.1 rendered
      obtain ⟨more, later, -⟩ := map_eq_ok_iff.1 others
      obtain ⟨p, stop, same, read⟩ :=
        readFrom_literalize_directive valid known rest values other place
      rw [read] at member
      rcases List.mem_cons.1 member with here | there
      · obtain rfl := Token.directive.inj here
        rw [same]
        exact Directive.noStars_literal first second
      · exact ih (behind field written) later _ there

/-- The kind of fault that a template ends in where reading stops, if it is refused there. -/
def Stop.kind? : Stop → Option FaultKind
  | finished => none
  | malformed _ => some .template
  | tooManyDigits => some .value

/-- Reading a template with literals stops in the same way. -/
theorem stop_literalize (t : Text) (values : List Value) (template other : Text)
    (offset place : Nat) :
    (readFrom other place (literalize t values).1).stop.kind?
      = (readFrom template offset t).stop.kind? := by
  induction t using lexeme_induction generalizing values offset place with
  | nil => rw [literalize_nil, readFrom_nil, readFrom_nil]
  | stuck nonempty nothing =>
    rw [literalize_of_none nothing, readFrom_of_none nonempty nothing,
      readFrom_of_none nonempty nothing]
    rfl
  | literal nonempty inside outside ih =>
    rw [readFrom_literalize_literal nonempty inside outside,
      readFrom_literal_append nonempty inside outside]
    exact ih ..
  | @directive r rest valid ih =>
    cases known : r.directive? with
    | none =>
      rw [literalize_tooManyDigits_append valid known, readFrom_tooManyDigits_append valid known,
        readFrom_tooManyDigits_append valid known]
    | some d =>
      obtain ⟨o, stop, -, read⟩ := readFrom_literalize_directive valid known rest values other place
      rw [read, readFrom_directive_append valid known]
      exact ih ..

/-! ## Formatting -/

/-- What callers tell apart in the end of a call: its value, or the kind of a fault. -/
def Call.ending {α : Type} (call : Call α) : Except FaultKind α := call.result.mapError Fault.kind

/-- A template that has been read is refused, if at all, as malformed. -/
theorem Template.kind?_of_eq_ok {t : Text} {f : Template} (read : ofText t = .ok f) :
    (readTemplate t).stop.kind? = f.error?.map fun _ => .template := by
  obtain ⟨-, reading⟩ := ofText_eq_ok_iff.1 read
  rw [reading]
  cases f.error? <;> rfl

/-- A text that cannot be read as a template has a number of too many digits. -/
theorem Template.kind?_of_eq_error {t : Text} {fault : Fault} (unread : ofText t = .error fault) :
    fault = .tooManyDigits ∧ (readTemplate t).stop.kind? = some .value := by
  obtain ⟨same, stop⟩ := ofText_eq_error_iff_stop.1 unread
  rw [stop]
  exact ⟨same, rfl⟩

/-- A template that has been read formats to the text of its tokens. If it is cut off, it is refused
where `strict` counts as true. -/
theorem result_format_of_read {t : Text} {f : Template} (read : Template.ofText t = .ok f)
    (s : Settings) (values : List Value) :
    (format s (.text t) (Cursor.ofList values)).result
      = (textFor s f.tokens values).bind fun text =>
        match f.error? with
        | none => .ok text
        | some error => if (s .strict).truthy then .error (.malformed error) else .ok text := by
  have rendered := result_renderTokens s f.tokens (Cursor.ofList values)
  rw [Cursor.left_ofList] at rendered
  rw [← rendered, format, Source.apply_text read, Outcome.call, Template.text_apply,
    Template.fault?_apply, Progress.result]
  cases (renderTokens s f.tokens (Cursor.ofList values)).fault? with
  | some fault => rfl
  | none =>
    cases f.error? with
    | none => cases (s .strict).truthy <;> rfl
    | some error => cases (s .strict).truthy <;> rfl

/-- A text that cannot be read as a template formats to its fault. -/
theorem result_format_of_unread {t : Text} {fault : Fault}
    (unread : Template.ofText t = .error fault) (s : Settings) (c : Cursor) :
    (format s (.text t) c).result = .error fault := by
  rw [format, Source.apply_text_of_error unread, Outcome.call_of_some rfl]

/-- Two templates end alike if reading them stops alike and their tokens have the same text. -/
theorem ending_format_congr {s : Settings} {t u : Text} {values others : List Value}
    (stops : (readTemplate u).stop.kind? = (readTemplate t).stop.kind?)
    (texts : ∀ f, Template.ofText t = .ok f →
      textFor s (readTemplate u).tokens others = textFor s (readTemplate t).tokens values) :
    (format s (.text u) (Cursor.ofList others)).ending
      = (format s (.text t) (Cursor.ofList values)).ending := by
  rw [Call.ending, Call.ending]
  cases read : Template.ofText t with
  | error fault =>
    -- neither text can be read, and no values are taken
    obtain ⟨rfl, stop⟩ := Template.kind?_of_eq_error read
    rw [stop] at stops
    cases read' : Template.ofText u with
    | error fault =>
      obtain ⟨rfl, -⟩ := Template.kind?_of_eq_error read'
      rw [result_format_of_unread read, result_format_of_unread read']
    | ok g =>
      rw [Template.kind?_of_eq_ok read'] at stops
      cases cut : g.error? <;> simp [cut] at stops
  | ok f =>
    have same := texts f read
    rw [Template.kind?_of_eq_ok read] at stops
    cases read' : Template.ofText u with
    | error fault =>
      rw [(Template.kind?_of_eq_error read').2] at stops
      cases cut : f.error? <;> simp [cut] at stops
    | ok g =>
      rw [Template.kind?_of_eq_ok read'] at stops
      rw [(Template.ofText_eq_ok_iff.1 read).2, (Template.ofText_eq_ok_iff.1 read').2] at same
      rw [result_format_of_read read, result_format_of_read read', same]
      cases textFor s f.tokens values with
      | error fault => rfl
      | ok text =>
        -- both templates are cut off, or none of them is
        cases cut : f.error? with
        | none =>
          cases cut' : g.error? with
          | none => rfl
          | some error => simp [cut, cut'] at stops
        | some error =>
          cases cut' : g.error? with
          | none => simp [cut, cut'] at stops
          | some error' =>
            simp only [Except.bind]
            split <;> rfl

/-- **Literals in the place of stars.** If all values that are taken for stars coerce, a template
with literals formats to the same text for the values that remain, or ends in a fault of the same
kind. If there is a text, the template with literals has no stars. -/
theorem format_literalize {s : Settings} {t : Text} {values : List Value}
    (coerce : ∀ f, Template.ofText t = .ok f → StarsCoerce s f.tokens values) :
    (format s (.text (literalize t values).1) (Cursor.ofList (literalize t values).2)).ending
        = (format s (.text t) (Cursor.ofList values)).ending
      ∧ ∀ text, (format s (.text t) (Cursor.ofList values)).result = .ok text →
        ∀ o, .directive o ∈ (readTemplate (literalize t values).1).tokens →
          o.directive.NoStars := by
  have coerceTokens (f : Template) (read : Template.ofText t = .ok f) :
      StarsCoerce s (readFrom t 0 t).tokens values := by
    have tokens : readFrom t 0 t = _ := (Template.ofText_eq_ok_iff.1 read).2
    rw [tokens]
    exact coerce f read
  constructor
  · refine ending_format_congr (stop_literalize t values _ _ _ _) fun f read => ?_
    exact textFor_literalize s t values _ _ _ _ (coerceTokens f read)
  · intro text formatted o member
    cases read : Template.ofText t with
    | error fault =>
      rw [result_format_of_unread read] at formatted
      contradiction
    | ok f =>
      rw [result_format_of_read read] at formatted
      obtain ⟨rendered, tokens, -⟩ := bind_eq_ok_iff.1 formatted
      have reading : readFrom t 0 t = _ := (Template.ofText_eq_ok_iff.1 read).2
      have written : textFor s (readFrom t 0 t).tokens values = .ok rendered := by
        rw [reading]
        exact tokens
      exact noStars_literalize (coerceTokens f read) written _ _ member

/-- A width and a negative precision, with a value that is left over. -/
theorem format_literalize_negative_precision :
    let t := Text.ofString "%-*.*s"
    let values : List Value := [.whole 3, .whole (-1), .text ['x'], .null]
    let o : Occurrence :=
      ⟨⟨Flags.ofText ['-'], .fromArgument, .fromArgument, none, .string⟩, t, 0, 6⟩
    Template.ofText t = .ok ⟨t, [.directive o], none⟩
      ∧ StarsCoerce Settings.initial [.directive o] values
      ∧ literalize t values = (Text.ofString "%-3s", [.text ['x'], .null])
      ∧ (format Settings.initial (.text (Text.ofString "%-3s"))
          (Cursor.ofList [.text ['x'], .null])).ending
        = (format Settings.initial (.text t) (Cursor.ofList values)).ending
      ∧ (format Settings.initial (.text t) (Cursor.ofList values)).result = .ok ['x', ' ', ' ']
      ∧ ∀ p, .directive p ∈ (readTemplate (Text.ofString "%-3s")).tokens →
        p.directive.NoStars := by
  intro t values o
  have read : Template.ofText (Text.ofString "%-*.*s") = .ok ⟨t, [.directive o], none⟩ := by cbv
  have three : (3 : Int) < pow10 maxDigits := by
    have : 3 < pow10 maxDigits :=
      Nat.lt_of_lt_of_le (by decide) (pow10_le_pow10 (show 1 ≤ maxDigits by decide))
    exact_mod_cast this
  have negative : (-1 : Int) < pow10 maxDigits := by
    have := pow10_pos maxDigits
    omega
  have coerce : StarsCoerce Settings.initial [.directive o] values :=
    ⟨fun _ => ⟨3, rfl, three⟩, fun _ => ⟨-1, rfl, negative⟩, fun _ _ => trivial⟩
  -- the template is one directive, with nothing behind it
  let r : Spelling := ⟨['-'], .star, .star, none, .string⟩
  have valid : r.Valid := ⟨⟨by simp [r, Flags.letters], trivial, trivial⟩, by simp [r]⟩
  have literals : literalize t values = (Text.ofString "%-3s", [.text ['x'], .null]) := by
    have step := literalize_directive_append valid (show r.directive? = some o.directive from rfl)
      [] values
    rw [List.append_nil, literalize_nil] at step
    have width : Value.literal 1 (.whole 3) = .given 3 := Value.literal_of_lt rfl three 1
    have precision : Value.literal 0 (.whole (-1)) = .absent := Value.literal_of_lt rfl negative 0
    have text : (r.literal (.whole 3) (.whole (-1))).text = Text.ofString "%-3s" := by
      simp only [r, Spelling.literal, Written.literal, width, precision, Parameter.written,
        Numeral.decimal_eq_inBase]
      decide
    have first : values.getD 0 .missing = .whole 3 := rfl
    have second : values.getD o.directive.width.demand .missing = .whole (-1) := rfl
    have kept : o.directive.valuesKept values = [.text ['x']] := by
      simp only [Directive.valuesKept, first, second]
      simp only [o, Parameter.literal, width, precision]
      rfl
    rw [kept, first, second, text] at step
    exact step
  have same := @format_literalize Settings.initial t values fun f found => by
    rw [read] at found
    obtain rfl := Except.ok.inj found
    exact coerce
  rw [literals] at same
  have text : (format Settings.initial (.text t) (Cursor.ofList values)).result
      = .ok ['x', ' ', ' '] := by
    rw [result_format_of_read read]
    rfl
  exact ⟨read, coerce, literals, same.1, text, same.2 _ text⟩

end PercentFormat
