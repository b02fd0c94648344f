import PercentFormat.Proofs.LiteralParameters
import PercentFormat.Proofs.Respelling

/-! # Default precisions

Where a directive in exponent or in general notation gives no precision, a variable gives it. The
precision may as well be written into the template: then the variables are not looked at, and the
text is the same.

* **`Specifier.default?`** — the precision that a variable gives.
* **`Spelling.withDefaults`**, **`Directive.withDefaults`** — a directive with this precision, as it
  is written and as it is read.
* **`Directive.render_withDefaults`** — it is rendered alike, whatever the variables are.
* **`format_withDefaults`** — a template with default precisions written into it. -/

namespace PercentFormat

/-! ## Precisions of numbers -/

/-- The bound of precisions in decimal. -/
theorem precisionBound_eq : precisionBound = 2147483648 := by decide

/-- A whole number that is not negative and below the bound asks for itself as a precision. -/
theorem Value.precision_natCast {n : Nat} (below : (n : Int) < precisionBound) :
    (whole n).precision = .ok n := by
  have within : -precisionBound ≤ n := by
    rw [precisionBound_eq]
    omega
  rw [precision, if_pos ⟨within, below⟩, Int.toNat_natCast]

/-- What a value asks for as a precision is below the bound. -/
theorem Value.precision_lt {v : Value} {n : Nat} (known : v.precision = .ok n) :
    (n : Int) < precisionBound := by
  rw [precisionBound_eq]
  unfold precision at known
  rw [precisionBound_eq] at known
  split at known
  · obtain rfl := Except.ok.inj known
    split <;> omega
  · rename_i m
    split at known
    · rename_i within
      obtain rfl := Except.ok.inj known
      omega
    · contradiction
  · contradiction

/-- What a value asks for as a precision is short enough to be written into a template. -/
theorem Value.short_of_precision {v : Value} {n : Nat} (known : v.precision = .ok n) :
    n < pow10 maxDigits := by
  have bound : 2147483648 ≤ pow10 maxDigits :=
    Nat.le_trans (by decide) (pow10_le_pow10 (show 10 ≤ maxDigits by decide))
  have below := precision_lt known
  rw [precisionBound_eq] at below
  generalize pow10 maxDigits = most at bound ⊢
  omega

/-- A double is written by the precision that a value asks for, and by nothing else of the value. -/
theorem doublePieces_congr {v w : Value} (same : v.precision = w.precision) (flags : Flags)
    (style : RealStyle) (x : Double) :
    doublePieces flags style v x = doublePieces flags style w x := by
  cases x with
  | finite negative magnitude => rw [doublePieces, doublePieces, same]
  | infinite negative => rfl
  | nan => rfl

/-- The precision of a notation where a directive gives none: `p` in exponent notation, and `q` in
general notation. All other notations do without. -/
def Style.default? (p q : Nat) : Style → Option Nat
  | real .exponent => some p
  | real .general => some q
  | _ => none

section Numbers

variable {s r : Settings} {p q : Nat} {style : Style} {flags : Flags}

/-- Without a default precision a notation does not look at the variables. -/
theorem unsignedPieces_of_default?_eq_none (none : style.default? p q = none)
    (precision : Option Value) :
    unsignedPieces s style flags precision = unsignedPieces r style flags precision := by
  funext n
  cases style with
  | whole base => rfl
  | real style =>
    cases style with
    | fixed => cases precision <;> rfl
    | exponent => contradiction
    | general => contradiction

/-- With a precision that is given no notation looks at the variables. -/
theorem unsignedPieces_some (precision : Value) :
    unsignedPieces s style flags (some precision)
      = unsignedPieces r style flags (some precision) := by
  funext n
  cases style with
  | whole base => rfl
  | real style => cases style <;> rfl

/-- A default precision may as well be given. -/
theorem unsignedPieces_default {n : Nat} (exponent : (s .exponentPrecision).precision = .ok p)
    (general : (s .generalPrecision).precision = .ok q) (known : style.default? p q = some n) :
    unsignedPieces s style flags none = unsignedPieces r style flags (some (.whole n)) := by
  have same {v : Value} {k : Nat} (asked : v.precision = .ok k) :
      v.precision = (Value.whole k).precision := by
    rw [asked, Value.precision_natCast (Value.precision_lt asked)]
  funext x
  unfold Style.default? at known
  split at known
  · obtain rfl := Option.some.inj known
    exact doublePieces_congr (same exponent) flags .exponent x.toDouble
  · obtain rfl := Option.some.inj known
    exact doublePieces_congr (same general) flags .general x.toDouble
  · contradiction

/-- The pieces of a value depend on those of numbers without their signs. -/
theorem Value.pieces_of_unsigned {form : NumberForm} {precision other : Option Value}
    (alike : unsignedPieces s form.style flags precision = unsignedPieces r form.style flags other)
    (v : Value) : v.pieces s form flags precision = v.pieces r form flags other := by
  unfold Value.pieces Number.pieces
  rw [alike]

end Numbers

/-! ## Directives with default precisions -/

/-- The precision of a specifier where a directive gives none: `p` for the letters of exponent
notation, and `q` for those of general notation. -/
def Specifier.default? (p q : Nat) : Specifier → Option Nat
  | exponent => some p
  | exponentUpper => some p
  | general => some q
  | generalUpper => some q
  | _ => none

/-- The specifiers that have a default precision. -/
def Specifier.defaulting : List Specifier := [.exponent, .exponentUpper, .general, .generalUpper]

/-- The other specifiers have no default precision. -/
theorem Specifier.default?_eq_none_iff {p q : Nat} (x : Specifier) :
    x.default? p q = none ↔ x ∉ defaulting := by
  cases x <;> simp [default?, defaulting]

/-- A default precision is one of the two. -/
theorem Specifier.eq_or_eq_of_default? {p q n : Nat} {x : Specifier}
    (known : x.default? p q = some n) : n = p ∨ n = q := by
  cases x <;> simp_all [default?]

/-- The default precision of a specifier is that of the notation in which it writes numbers. -/
theorem Specifier.default?_of_role {p q : Nat} {x : Specifier} {form : NumberForm}
    (role : x.role = .number form) : x.default? p q = form.style.default? p q := by
  cases x <;> simp_all [Specifier.role] <;> subst role <;> rfl

/-- A precision, or the default in the place of an absent one, if there is a default. -/
def Parameter.withDefault (n? : Option Nat) : Parameter → Parameter
  | absent => n?.elim absent given
  | p => p

/-- A written precision, or the default in the place of an absent one, if there is a default. -/
def Written.withDefault (n? : Option Nat) : Written → Written
  | absent => (Parameter.absent.withDefault n?).written
  | w => w

/-- Without a default nothing changes. -/
@[simp] theorem Parameter.withDefault_none (p : Parameter) : p.withDefault none = p := by
  cases p <;> rfl

/-- A precision that is given is not changed. -/
theorem Parameter.withDefault_of_ne_absent {p : Parameter} (given : p ≠ .absent)
    (n? : Option Nat) : p.withDefault n? = p := by
  cases p with
  | absent => exact absurd rfl given
  | given n => rfl
  | fromArgument => rfl

/-- A written precision may be written with its default. -/
theorem Written.valid_withDefault {w : Written} (valid : w.Valid) (n? : Option Nat) :
    (w.withDefault n?).Valid := by
  cases w with
  | absent => exact Parameter.valid_written _
  | star => exact valid
  | digits run => exact valid

/-- A short default precision is read as it is written. -/
theorem Written.parameter?_withDefault {n? : Option Nat} (short : ∀ n ∈ n?, n < pow10 maxDigits)
    (w : Written) :
    (w.withDefault n?).parameter? = w.parameter?.map (Parameter.withDefault n?) := by
  cases w with
  | absent =>
    refine Parameter.parameter?_written ?_
    cases n? with
    | none => trivial
    | some n => exact short n rfl
  | star => rfl
  | digits run =>
    rw [withDefault, parameter?]
    · split <;> rfl
    · simp

/-- A directive with its **default precision** given: `p` in exponent notation and `q` in general
notation. -/
def Directive.withDefaults (p q : Nat) (d : Directive) : Directive :=
  { d with precision := d.precision.withDefault (d.specifier.default? p q) }

/-- A directive with its **default precision** written behind the width. -/
def Spelling.withDefaults (p q : Nat) (s : Spelling) : Spelling :=
  { s with precision := s.precision.withDefault (s.specifier.default? p q) }

/-- Directives with default precisions written into them stand for the directives with these
precisions. -/
theorem standFor_withDefaults {p q : Nat} (first : p < pow10 maxDigits)
    (second : q < pow10 maxDigits) :
    StandFor (fun a b => b = a.withDefaults p q) fun d e => e = d.withDefaults p q := by
  rintro a b valid rfl
  refine ⟨⟨⟨valid.flags, valid.width, Written.valid_withDefault valid.precision _⟩,
    valid.widthHead⟩, ?_⟩
  have short : ∀ n ∈ a.specifier.default? p q, n < pow10 maxDigits := by
    intro n known
    rcases Specifier.eq_or_eq_of_default? known with rfl | rfl
    · exact first
    · exact second
  have precision := Written.parameter?_withDefault short a.precision
  simp only [Spelling.directive?, Spelling.withDefaults, precision]
  cases a.width.parameter? with
  | none => exact .none
  | some width =>
    cases a.precision.parameter? with
    | none => exact .none
    | some precision => exact .some rfl

/-! ## Rendering with default precisions -/

/-- A precision that is given in a directive is not negative. -/
theorem filter_natCast (n : Nat) : (some (n : Int)).filter (0 ≤ ·) = some (n : Int) := by
  simp

namespace Directive

variable {s r : Settings} {d : Directive}

/-- Without a star the precision of a directive takes no argument. -/
theorem render_of_resolve {n? : Option Int} (resolved : d.precision.resolve = pure n?) :
    d.render s = (do
      let width ← d.width.resolve
      let pieces ← d.convertArgument s (n?.filter (0 ≤ ·))
      if d.specifier.role = .ignored then return []
      else Rendering.ofExcept (pieces.justify d.flags (width.getD 0))) := by
  rw [render, resolved]
  simp only [pure_bind]

/-- Where a precision is given, or none is looked at, a directive does not look at the variables. -/
theorem render_of_settled
    (settled : d.specifier ∈ Specifier.defaulting →
      d.precision ≠ .absent ∧ d.precision ≠ .fromArgument) : d.render s = d.render r := by
  by_cases defaults : d.specifier ∈ Specifier.defaulting
  · obtain ⟨absent, star⟩ := settled defaults
    cases precision : d.precision with
    | absent => exact absurd precision absent
    | fromArgument => exact absurd precision star
    | given n =>
      have resolved : d.precision.resolve = pure (some (n : Int)) := by rw [precision]; rfl
      have converted :
          d.convertArgument s (some (n : Int)) = d.convertArgument r (some (n : Int)) :=
        convertArgument_alike rfl fun form _ => Value.pieces_of_unsigned (unsignedPieces_some _)
      rw [render_of_resolve resolved, render_of_resolve resolved, filter_natCast, converted]
  · have converted (n? : Option Int) : d.convertArgument s n? = d.convertArgument r n? := by
      refine convertArgument_alike rfl fun form role => ?_
      have none := (Specifier.default?_eq_none_iff (p := 0) (q := 0) _).2 defaults
      rw [Specifier.default?_of_role role] at none
      exact Value.pieces_of_unsigned (unsignedPieces_of_default?_eq_none none _)
    rw [render, render]
    simp only [converted]

/-- **A directive with its default precision** is rendered under any settings as the directive is
under those that give the default. -/
theorem render_withDefaults {p q : Nat} (exponent : (s .exponentPrecision).precision = .ok p)
    (general : (s .generalPrecision).precision = .ok q)
    (star : d.specifier ∈ Specifier.defaulting → d.precision ≠ .fromArgument) :
    d.render s = (d.withDefaults p q).render r := by
  by_cases inserted : d.specifier ∈ Specifier.defaulting ∧ d.precision = .absent
  · obtain ⟨defaults, absent⟩ := inserted
    have present := (Specifier.default?_eq_none_iff (p := p) (q := q) _).not.2 (not_not.2 defaults)
    obtain ⟨n, known⟩ := Option.ne_none_iff_exists'.1 present
    -- the precision is absent on one side, and given by its default on the other one
    have before : d.precision.resolve = pure none := by rw [absent]; rfl
    have behind : (d.withDefaults p q).precision.resolve = pure (some (n : Int)) := by
      rw [withDefaults, absent, known]
      rfl
    have converted : d.convertArgument s none
        = (d.withDefaults p q).convertArgument r (some (n : Int)) := by
      refine convertArgument_alike rfl fun form role => Value.pieces_of_unsigned ?_
      rw [Specifier.default?_of_role role] at known
      exact unsignedPieces_default exponent general known
    rw [render_of_resolve before, render_of_resolve behind, filter_natCast, Option.filter_none,
      converted]
    rfl
  · have same : d.withDefaults p q = d := by
      rw [withDefaults]
      by_cases defaults : d.specifier ∈ Specifier.defaulting
      · rw [Parameter.withDefault_of_ne_absent fun absent => inserted ⟨defaults, absent⟩]
      · rw [(Specifier.default?_eq_none_iff _).2 defaults, Parameter.withDefault_none]
    rw [same]
    exact render_of_settled fun defaults =>
      ⟨fun absent => inserted ⟨defaults, absent⟩, star defaults⟩

end Directive

/-! ## Formatting with default precisions -/

/-- The end of a call, as callers tell it apart, does not depend on the places of errors. -/
theorem Outcome.ending_call_unplaced {α : Type} (o : Outcome) (value : α) :
    (o.unplaced.call value).ending = (o.call value).ending := by
  rw [Call.ending, Call.ending, call, call, unplaced]
  cases o.fault? with
  | none => rfl
  | some fault => exact congrArg Except.error fault.kind_unplaced

/-- Outcomes that agree apart from the places of errors make calls of `format` end alike. -/
theorem ending_format_of_unplaced {s r : Settings} {source other : Source} {c d : Cursor}
    (same : (other.apply r d).unplaced = (source.apply s c).unplaced) :
    (format r other d).ending = (format s source c).ending := by
  have text : (other.apply r d).text = (source.apply s c).text := by
    change (other.apply r d).unplaced.text = _
    rw [same]
    rfl
  rw [format, format, ← Outcome.ending_call_unplaced, same, text, Outcome.ending_call_unplaced]

/-- A template is applied alike under settings in which `strict` counts for the same, if its tokens
are rendered alike. -/
theorem Template.apply_of_alike {s r : Settings} {f : Template}
    (strict : (r .strict).truthy = (s .strict).truthy)
    (alike : ∀ token ∈ f.tokens, token.render r = token.render s) (c : Cursor) :
    f.apply r c = f.apply s c := by
  rw [apply, apply, renderTokens_alike (List.forall₂_same.2 alike) c, strict]

/-- **Default precisions written into a template.** Take a template in which no precision of a
number in exponent or general notation is left to an argument.

If the variables ask for the precisions `p` and `q`, as whole numbers below the bound do that are
not negative, then the template formats to the same text as the one with `p` and `q` written where
no precision is given, whatever the variables are there, or it ends in a fault of the same kind.

If all these precisions are given, a call does not depend on the two variables at all. -/
theorem format_withDefaults {t : Text}
    (noStars : ∀ o, .directive o ∈ (readTemplate t).tokens →
      o.directive.specifier ∈ Specifier.defaulting → o.directive.precision ≠ .fromArgument) :
    (∀ (s r : Settings) (p q : Nat), (s .exponentPrecision).precision = .ok p →
      (s .generalPrecision).precision = .ok q → (r .strict).truthy = (s .strict).truthy →
      ∀ c, (format r (.text (respell (Spelling.withDefaults p q) t)) c).ending
        = (format s (.text t) c).ending)
    ∧ ((∀ o, .directive o ∈ (readTemplate t).tokens →
        o.directive.specifier ∈ Specifier.defaulting → o.directive.precision ≠ .absent) →
      ∀ s r : Settings, (r .strict).truthy = (s .strict).truthy →
        ∀ c, format r (.text t) c = format s (.text t) c) := by
  refine ⟨fun s r p q exponent general strict c => ?_, fun given s r strict c => ?_⟩
  · have stand := standFor_withDefaults (Value.short_of_precision exponent)
      (Value.short_of_precision general)
    refine ending_format_of_unplaced ((respelled_respell _ t).apply stand strict ?_ c)
    rintro o member d rfl
    exact Directive.render_withDefaults exponent general (noStars o member)
  · cases read : Template.ofText t with
    | error fault =>
      rw [format, format, Source.apply_text_of_error read, Source.apply_text_of_error read]
    | ok f =>
      have reading := (Template.ofText_eq_ok_iff.1 read).2
      rw [reading] at noStars given
      have applied : f.apply r c = f.apply s c := by
        refine Template.apply_of_alike strict (fun token member => ?_) c
        cases token with
        | literal run => rfl
        | directive o =>
          exact Directive.render_of_settled fun defaults =>
            ⟨given o member defaults, noStars o member defaults⟩
      rw [format, format, Source.apply_text read, Source.apply_text read, applied]

/-- A number in exponent notation behind a length modifier, an infinity in general notation, and a
rest that is cut off. -/
theorem format_withDefaults_length_modifier :
    let t := Text.ofString "%+10Le%g%q"
    let u := Text.ofString "%+10.2Le%.3g%q"
    let s : Settings := fun x =>
      if x = .exponentPrecision then .whole 2 else if x = .generalPrecision then .whole 3
      else Settings.initial x
    let r : Settings := fun x =>
      if x = .exponentPrecision then .text ['x'] else if x = .generalPrecision then .null
      else Settings.initial x
    let c := Cursor.ofList [.whole 12345, .double (.infinite true)]
    respell (Spelling.withDefaults 2 3) t = u
      ∧ (format s (.text t) c).ending = .ok (Text.ofString " +1.23e+04-inf")
      ∧ (format r (.text u) c).ending = .ok (Text.ofString " +1.23e+04-inf")
      ∧ format r (.text u) c = format s (.text u) c := by
  intro t u s r c
  let e : Directive := ⟨Flags.ofText ['+'], .given 10, .absent, some .longDouble, .exponent⟩
  let g : Directive := ⟨Flags.ofText [], .absent, .absent, none, .general⟩
  have read : Template.ofText (Text.ofString "%+10Le%g%q")
      = .ok ⟨t, [.directive ⟨e, Text.ofString "%+10Le", 0, 6⟩,
          .directive ⟨g, Text.ofString "%g", 6, 8⟩], some ⟨t, 8, .unknown⟩⟩ := by
    clear c r s
    cbv
  have read' : Template.ofText (Text.ofString "%+10.2Le%.3g%q")
      = .ok ⟨u, [.directive ⟨{ e with precision := .given 2 }, Text.ofString "%+10.2Le", 0, 8⟩,
          .directive ⟨{ g with precision := .given 3 }, Text.ofString "%.3g", 8, 12⟩],
          some ⟨u, 12, .unknown⟩⟩ := by
    clear read c r s
    cbv
  have tokens := (Template.ofText_eq_ok_iff.1 read).2
  have tokens' := (Template.ofText_eq_ok_iff.1 read').2
  have exponent : e.fieldFor s [.whole 12345, .double (.infinite true)]
      = .ok (Text.ofString " +1.23e+04") := by
    decide +kernel
  have text : (format s (.text t) c).ending = .ok (Text.ofString " +1.23e+04-inf") := by
    rw [Call.ending, result_format_of_read read, textFor, exponent]
    rfl
  obtain ⟨written, -⟩ := @format_withDefaults t (by
    rw [tokens]
    simp [e, g])
  obtain ⟨-, independent⟩ := @format_withDefaults u (by
    rw [tokens']
    simp [e, g])
  have inserted : respell (Spelling.withDefaults 2 3) t = u := by
    let first : Spelling := ⟨['+'], .digits ['1', '0'], .absent, some .longDouble, .exponent⟩
    let second : Spelling := ⟨[], .absent, .absent, none, .general⟩
    have valid : first.Valid :=
      ⟨⟨by simp [first, Flags.letters], ⟨by simp, List.all_eq_true.1 (by decide)⟩, trivial⟩,
        by simp [first]⟩
    have valid' : second.Valid := ⟨⟨by simp [second], trivial, trivial⟩, by simp [second]⟩
    have unread : lexeme? (Text.ofString "%q") = none := by decide
    have parts : t = first.text ++ (second.text ++ Text.ofString "%q") := by decide
    rw [parts, respell_directive_append _ valid, respell_directive_append _ valid',
      respell_of_none _ unread]
    simp only [first, second, Spelling.withDefaults, Specifier.default?, Written.withDefault,
      Parameter.withDefault, Option.elim, Parameter.written, Numeral.decimal_eq_inBase]
    decide
  have two : (s .exponentPrecision).precision = .ok 2 := Value.precision_natCast (by decide)
  have three : (s .generalPrecision).precision = .ok 3 := Value.precision_natCast (by decide)
  have alike := written s r 2 3 two three rfl c
  rw [inserted] at alike
  refine ⟨inserted, text, alike.trans text, independent ?_ s r rfl c⟩
  rw [tokens']
  simp [e, g]

end PercentFormat
