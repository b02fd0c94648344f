import PercentFormat.Double.Shortest

/-! # Layouts of decimal numbers

* **`Layout.fixed`** — a whole number with its last digits behind the decimal point.
* **`Layout.positional`** — digits with a decimal point at a given position.
* **`Layout.exponentPart`** — the exponent, signed and with at least two digits.
* **`Magnitude.fixed`**, **`Magnitude.exponential`**, **`Magnitude.general`** — a magnitude
  rounded to a precision, in the three notations.
* **`Magnitude.positional`** — the shortest decimal of a magnitude, without an exponent.
* **`Double.positional`**, **`Double.text`** — a double without an exponent, and its ordinary
  text. -/

namespace PercentFormat

namespace Layout

/-- The number `m / 10 ^ places`, with exactly `places` digits behind the point and no point
where there are none. -/
def fixed (m places : Nat) : Text :=
  if places = 0 then Numeral.decimal m
  else
    let fraction := Numeral.decimal (m % pow10 places)
    Numeral.decimal (m / pow10 places) ++ '.' :: Text.zeros (places - fraction.length) ++ fraction

/-- Digits with a decimal point behind the first `point` of them; zeros fill the places
between the digits and the point. -/
def positional (digits : Text) (point : Int) : Text :=
  if point ≤ 0 then '0' :: '.' :: Text.zeros (-point).toNat ++ digits
  else if digits.length ≤ point.toNat then digits ++ Text.zeros (point.toNat - digits.length)
  else digits.take point.toNat ++ '.' :: digits.drop point.toNat

/-- The exponent as it is written: its sign and at least two digits. -/
def exponentPart (exponent : Int) : Text :=
  'e' :: (if exponent < 0 then '-' else '+') :: Numeral.padded 2 exponent.natAbs

/-- A numeral without the zeros at the end of its fraction, and without a point that is left
with nothing behind it. A numeral without a point stays as it is. -/
def trimFraction (t : Text) : Text :=
  if '.' ∈ t then
    let kept := t.reverse.dropWhile (· = '0')
    ((if kept.head? = some '.' then kept.tail else kept)).reverse
  else t

/-- A numeral with a point at its end, unless it has one already. -/
def withPoint (t : Text) : Text := if '.' ∈ t then t else t ++ ['.']

end Layout

namespace Magnitude

/-- The magnitude with `precision` digits behind the point. -/
def fixed (x : Magnitude) (precision : Nat) : Text :=
  Layout.fixed (x.atPlaces precision) precision

/-- The magnitude with one digit in front of the point, `precision` digits behind it, and an
exponent. -/
def exponential (x : Magnitude) (precision : Nat) : Text :=
  let (digits, exponent) := x.significant precision
  Layout.fixed digits precision ++ Layout.exponentPart exponent

/-- The magnitude with `precision` significant digits, at least one: positionally when the
exponent is from -4 up to the precision, with an exponent otherwise. The alternate form keeps
zeros at the end and always has a point. -/
def general (x : Magnitude) (precision : Nat) (alternate : Bool) : Text :=
  let count := max precision 1
  let (digits, exponent) := x.significant (count - 1)
  let finish := if alternate then Layout.withPoint else Layout.trimFraction
  if -4 ≤ exponent ∧ exponent < count then
    -- as many places as leave `count` significant digits
    finish (Layout.fixed digits (count - 1 - exponent).toNat)
  else
    finish (Layout.fixed digits (count - 1)) ++ Layout.exponentPart exponent

/-- The shortest decimal of the magnitude, without exponent and without an empty fraction. -/
def positional (x : Magnitude) : Text := Layout.positional x.shortest.numeral x.shortest.point

/-- The ordinary text of the magnitude: its shortest decimal, positionally with at least one
digit behind the point when the exponent is from -4 up to 15, with an exponent otherwise. -/
def text (x : Magnitude) : Text :=
  let d := x.shortest
  if -4 < d.point ∧ d.point ≤ 16 then
    let written := Layout.positional d.numeral d.point
    if '.' ∈ written then written else written ++ ['.', '0']
  else Layout.positional d.numeral 1 ++ Layout.exponentPart (d.point - 1)

end Magnitude

namespace Double

/-- The double without an exponent: the shortest digits that read back, written positionally, or
the name of what is not finite. -/
def positional : Double → Text
  | nan => Text.ofString "NaN"
  | infinite false => Text.ofString "Infinity"
  | infinite true => Text.ofString "-Infinity"
  | finite false x => x.positional
  | finite true x => '-' :: x.positional

/-- The ordinary text of a double. -/
def text : Double → Text
  | nan => Text.ofString "nan"
  | infinite false => Text.ofString "inf"
  | infinite true => Text.ofString "-inf"
  | finite false x => x.text
  | finite true x => '-' :: x.text

end Double

end PercentFormat
