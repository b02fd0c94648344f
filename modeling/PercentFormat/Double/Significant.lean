import PercentFormat.Numeral
import PercentFormat.Double.Basic

/-! # Rounding a double to decimal digits

* **`Magnitude.decimalExponent`** — the exponent of the leading decimal digit.
* **`Magnitude.atPlaces`** — rounded to a number of places after the point.
* **`Magnitude.significant`** — rounded to a number of significant digits, with the exponent of
  the leading one. -/

namespace PercentFormat

namespace Magnitude

/-- The exponent of the leading decimal digit of a magnitude other than zero. Moved 324 places
to the right, the least of them is above one, so the digits of the whole part count it. -/
def decimalExponent (x : Magnitude) : Int :=
  (Numeral.digitCount (x.units * pow10 324 / unitsPerOne) : Int) - 325

/-- The whole number nearest to the magnitude times `10 ^ places`, ties to even. -/
def atPlaces (x : Magnitude) (places : Int) : Nat :=
  roundHalfEven (x.scaled places).1 (x.scaled places).2

/-- A magnitude rounded to `further + 1` significant digits: the digits as one number, and the
exponent of the leading digit. Digits that round up to a power of ten lose their last zero and
raise the exponent. Zero has only zeros. -/
def significant (x : Magnitude) (further : Nat) : Nat × Int :=
  if x.units = 0 then (0, 0)
  else
    let exponent := x.decimalExponent
    let digits := x.atPlaces (further - exponent)
    if digits = pow10 (further + 1) then (pow10 further, exponent + 1) else (digits, exponent)

end Magnitude

end PercentFormat
