import PercentFormat.Power
import PercentFormat.Rounding

/-! # Doubles

A finite double is a sign and a magnitude, and a magnitude is a whole number of units of
`2 ^ (-1074)`, the finest spacing that doubles have. A number of units is a magnitude when 53
binary digits suffice for it and it lies below the overflow bound.

* **`Magnitude`** — the absolute value of a finite double.
* **`Magnitude.nearest?`** — the magnitude nearest to a quotient, ties to even.
* **`Double`** — a double: finite, infinite or not a number.
* **`Double.ofBits`**, **`Double.toBits`** — the interchange format of 64 bits.
* **`Double.ofRatio`**, **`Double.ofDecimal`** — correctly rounded conversions. -/

namespace PercentFormat

/-- One is `2 ^ 1074` units. -/
def unitsPerOne : Nat := pow2 1074

/-- The number of units of `2 ^ 1024`, the first magnitude that is too large. -/
def unitsBound : Nat := pow2 2098

/-- A number of units fits a double when at most 53 binary digits are significant in it and it
is below the bound. -/
def FitsDouble (units : Nat) : Prop :=
  units < unitsBound ∧ ∃ m e, m ≤ pow2 53 ∧ units = m * pow2 e

/-- The absolute value of a finite double, as a number of units. -/
structure Magnitude where
  /-- The number of units of `2 ^ (-1074)`. -/
  units : Nat
  /-- The number of units is one that a double can have. -/
  fits : FitsDouble units
  deriving DecidableEq

namespace Magnitude

/-- The magnitude zero. -/
def zero : Magnitude := ⟨0, pow2_pos _, 0, 0, Nat.zero_le _, rfl⟩

/-- The multiple of the local spacing nearest to `num / den` units. The spacing is the power of
two that leaves 53 binary digits. -/
def nearestUnits (num den : Nat) : Nat :=
  let spacing := pow2 ((num / den).log2 - 52)
  roundHalfEven num (den * spacing) * spacing

/-- A quotient is rounded to at most `2 ^ 53` times its spacing. -/
theorem roundHalfEven_spacing_le (num den : Nat) :
    roundHalfEven num (den * pow2 ((num / den).log2 - 52)) ≤ pow2 53 := by
  -- the quotient has at most 53 binary digits, and rounding adds one at most
  have whole : num / (den * pow2 ((num / den).log2 - 52)) < pow2 53 := by
    rw [← Nat.div_div_eq_div_mul, Nat.div_lt_iff_lt_mul (pow2_pos _), ← pow2_add]
    exact Nat.lt_of_lt_of_le (lt_pow2_log2 _) (pow2_le_pow2 (by omega))
  have := roundHalfEven_le num (den * pow2 ((num / den).log2 - 52))
  omega

/-- What is rounded has at most 53 significant binary digits. -/
theorem nearestUnits_eq (num den : Nat) :
    ∃ m e, m ≤ pow2 53 ∧ nearestUnits num den = m * pow2 e :=
  ⟨_, _, roundHalfEven_spacing_le num den, rfl⟩

/-- The magnitude nearest to `num / den` units, if it is below the overflow bound. -/
def nearest? (num den : Nat) : Option Magnitude :=
  if small : nearestUnits num den < unitsBound then
    some ⟨nearestUnits num den, small, nearestUnits_eq num den⟩
  else none

/-- The magnitude nearest to the number `num / den`. -/
def ofRatio? (num den : Nat) : Option Magnitude := nearest? (num * unitsPerOne) den

/-- The magnitude nearest to `digits * 10 ^ exponent`. The tests on the exponent settle numbers
far outside the range of doubles without computing their powers of ten. -/
def ofDecimal? (digits : Nat) (exponent : Int) : Option Magnitude :=
  if digits = 0 then some zero
  else if 400 < exponent then none
  else if exponent < -(digits.log2 + 400 : Nat) then some zero
  else ofRatio? (digits * pow10 exponent.toNat) (pow10 (-exponent).toNat)

/-- The whole part of a magnitude. -/
def floor (x : Magnitude) : Nat := x.units / unitsPerOne

/-- The magnitude with the decimal point moved `places` to the right, as a quotient. -/
def scaled (x : Magnitude) (places : Int) : Nat × Nat :=
  (x.units * pow10 places.toNat, unitsPerOne * pow10 (-places).toNat)

/-- The bits of a magnitude: the exponent field counts the binary digits beyond the first 53,
with one added for the implicit leading digit. -/
def toBits (x : Magnitude) : Nat :=
  let e := x.units.log2 - 52
  e * pow2 52 + x.units / pow2 e

/-- A magnitude of `m` units times a power of two. -/
def scaleBinary (m e : Nat) (small : m < pow2 53) (bounded : e ≤ 2045) : Magnitude where
  units := m * pow2 e
  fits := by
    refine ⟨?_, m, e, Nat.le_of_lt small, rfl⟩
    calc m * pow2 e < pow2 53 * pow2 e := Nat.mul_lt_mul_of_pos_right small (pow2_pos _)
      _ = pow2 (53 + e) := (pow2_add ..).symm
      _ ≤ unitsBound := pow2_le_pow2 (by omega)

end Magnitude

/-- A double. The sign of a number that is not a number is not kept. -/
inductive Double where
  /-- Not a number. -/
  | nan
  /-- One of the two infinities. -/
  | infinite (negative : Bool)
  /-- A finite number; zero comes with either sign. -/
  | finite (negative : Bool) (magnitude : Magnitude)
  deriving DecidableEq

namespace Double

/-- The positive zero. -/
def zero : Double := finite false Magnitude.zero

/-- The finite double of the given magnitude, or the infinity when there is none. -/
def ofMagnitude (negative : Bool) : Option Magnitude → Double
  | some x => finite negative x
  | none => infinite negative

/-- The double nearest to `num / den` with the given sign, ties to even. -/
def ofRatio (negative : Bool) (num den : Nat) : Double :=
  ofMagnitude negative (Magnitude.ofRatio? num den)

/-- The double nearest to `digits * 10 ^ exponent` with the given sign, ties to even. -/
def ofDecimal (negative : Bool) (digits : Nat) (exponent : Int) : Double :=
  ofMagnitude negative (Magnitude.ofDecimal? digits exponent)

/-- The double nearest to a whole number; an infinity beyond the overflow bound. -/
def ofInt (n : Int) : Double := ofRatio (n < 0) n.natAbs 1

/-- The double is a number and not an infinity. -/
def isFinite : Double → Bool
  | finite .. => true
  | _ => false

/-- The double is below zero; the negative zero is not. -/
def isNegative : Double → Bool
  | nan => false
  | infinite negative => negative
  | finite negative x => negative && x.units != 0

/-- The double equals zero, whatever its sign. -/
def isZero : Double → Bool
  | finite _ x => x.units == 0
  | _ => false

/-- The double without its sign. -/
def abs : Double → Double
  | nan => nan
  | infinite _ => infinite false
  | finite _ x => finite false x

/-- The whole number towards zero; zero where there is none. -/
def truncate : Double → Int
  | finite negative x => if negative then -(x.floor : Int) else x.floor
  | _ => 0

/-- The double with the given 64 bits: a sign, eleven of exponent, 52 of fraction. -/
def ofBits (bits : UInt64) : Double :=
  let negative := bits.toNat.testBit 63
  let exponent := bits.toNat / pow2 52 % pow2 11
  let fraction := bits.toNat % pow2 52
  have small : fraction < pow2 52 := Nat.mod_lt _ (pow2_pos _)
  have twice : pow2 53 = pow2 52 * 2 := pow2_succ 52
  if special : exponent = 2047 then
    -- the exponent is all ones
    if fraction = 0 then infinite negative else nan
  else if exponent = 0 then
    -- the implicit leading digit is zero
    finite negative (Magnitude.scaleBinary fraction 0 (by omega) (by omega))
  else
    -- the implicit leading digit is one
    have range : exponent < 2048 := Nat.mod_lt _ (pow2_pos 11)
    finite negative (Magnitude.scaleBinary (pow2 52 + fraction) (exponent - 1) (by omega)
      (by omega))

/-- The 64 bits of a double, as a number; one pattern stands for all that is not a number. -/
def toBits : Double → Nat
  | nan => 0x7ff8000000000000
  | infinite negative => (if negative then pow2 63 else 0) + 0x7ff0000000000000
  | finite negative x => (if negative then pow2 63 else 0) + x.toBits

end Double

end PercentFormat
