import PercentFormat.Pieces
import PercentFormat.Settings
import PercentFormat.Value.Coercion

/-! # The conversion of numbers

* **`Value.precision`** — the number of digits that a value asks for.
* **`unsignedPieces`** — a number without its sign, by its notation, flags and precision.
* **`Number.pieces`**, **`Value.pieces`** — a number, and the number that a value stands for, with
  its sign and in its case. -/

namespace PercentFormat

/-! ## Precisions -/

/-- Precisions lie below this bound and not below its negation. -/
def precisionBound : Int := pow2 31

/-- The number of digits that a value asks for as a precision. A negative one counts as zero. -/
def Value.precision : Value → Except Fault Nat
  | .bool b => .ok (if b then 1 else 0)
  | .whole n =>
    if -precisionBound ≤ n ∧ n < precisionBound then .ok n.toNat else .error .precisionOutOfRange
  | _ => .error .precisionNotWhole

/-! ## The conversion of numbers -/

/-- The sign of a number: a minus for what is below zero, else what the flags ask for. -/
def signOf (flags : Flags) (n : Number) : Text :=
  if n.isNegative then ['-']
  else if flags.plus then ['+']
  else if flags.space then [' ']
  else []

/-- The whole part of a magnitude or of a whole number without its sign. -/
def wholePart (n : Number) : Nat := n.truncate.natAbs

/-- A decimal point for a body that has none, where the flags ask for one. -/
def pointFor (flags : Flags) (body : Text) : Text :=
  if flags.alternate ∧ '.' ∉ body then ['.'] else []

/-- The numeral of a whole number in a base. -/
def Base.numeral (base : Base) (n : Nat) : Text :=
  match base with
  | .decimal => Numeral.decimal n
  | base => Numeral.inBase base.radix n

/-- The pieces of a whole number in a base. The flags may ask for the mark of the base, which
zero never has. -/
def wholePieces (flags : Flags) (base : Base) (n : Nat) : Pieces where
  sign := []
  mark := if flags.alternate ∧ n ≠ 0 then base.mark else []
  body := base.numeral n
  tail := []

/-- The pieces of digits with a decimal point, where the flags ask for one. -/
def pointedPieces (flags : Flags) (body : Text) : Pieces where
  sign := []
  mark := []
  body := body
  tail := pointFor flags body

/-- A magnitude in a notation with a precision. -/
def RealStyle.digits (style : RealStyle) (flags : Flags) (precision : Nat) (x : Magnitude) :
    Text :=
  match style with
  | fixed => x.fixed precision
  | exponent => x.exponential precision
  | general => x.general precision flags.alternate

/-- The pieces of a double without its sign in a notation with a precision. What is not finite
is written by its name, and its precision is not looked at. -/
def doublePieces (flags : Flags) (style : RealStyle) (precision : Value) :
    Double → Except Fault Pieces
  | .finite _ x =>
    precision.precision.map fun places => pointedPieces flags (style.digits flags places x)
  | x => .ok (Pieces.ofBody x.abs.text)

/-- The pieces of a number without its sign: by `finite` if it is finite, else its name. -/
def exactPieces (n : Number) (finite : Pieces) : Pieces :=
  if n.isFinite then finite else Pieces.ofBody n.toDouble.abs.text

/-- The pieces of a number without its sign, in lower case. Whole numbers in a base and numbers
in fixed notation without a precision are written to their last digit; all else is written from
the nearest double. -/
def unsignedPieces (s : Settings) (style : Style) (flags : Flags) (precision : Option Value)
    (n : Number) : Except Fault Pieces :=
  match style, precision with
  | .whole base, _ => .ok (exactPieces n (wholePieces flags base (wholePart n)))
  | .real .fixed, none => .ok (exactPieces n (pointedPieces flags n.abs.positional))
  | .real .fixed, some precision => doublePieces flags .fixed precision n.toDouble
  | .real .exponent, precision =>
    doublePieces flags .exponent (precision.getD (s .exponentPrecision)) n.toDouble
  | .real .general, precision =>
    doublePieces flags .general (precision.getD (s .generalPrecision)) n.toDouble

/-- The pieces of a number: the sign comes from the number itself, all else from its absolute
value. -/
def Number.pieces (s : Settings) (form : NumberForm) (flags : Flags) (precision : Option Value)
    (n : Number) : Except Fault Pieces := do
  let unsigned ← unsignedPieces s form.style flags precision n
  let pieces := { unsigned with sign := signOf flags n }
  return if form.upper then pieces.upper else pieces

/-- The pieces of the number that a value stands for. -/
def Value.pieces (s : Settings) (form : NumberForm) (flags : Flags) (precision : Option Value)
    (v : Value) : Except Fault Pieces := do
  let n ← v.toNumber
  n.pieces s form flags precision

end PercentFormat
