import PercentFormat.Double.Layout

/-! # Numbers

A number to be converted is either a whole number of any size or a double.

* **`Number`** — whole numbers and doubles.
* **`Number.isFinite`**, **`Number.isNegative`**, **`Number.abs`** — tests and the absolute value.
* **`Number.truncate`** — the whole number towards zero.
* **`Number.toDouble`** — the nearest double.
* **`Number.positional`** — the number written without an exponent. -/

namespace PercentFormat

/-- A whole number or a double. -/
inductive Number where
  /-- A whole number of any size. -/
  | whole (n : Int)
  /-- A double. -/
  | double (x : Double)
  deriving DecidableEq

namespace Number

/-- Every whole number is finite, however large. -/
def isFinite : Number → Bool
  | whole _ => true
  | double x => x.isFinite

/-- The number is below zero. -/
def isNegative : Number → Bool
  | whole n => n < 0
  | double x => x.isNegative

/-- The number without its sign. -/
def abs : Number → Number
  | whole n => whole n.natAbs
  | double x => double x.abs

/-- The whole number towards zero; zero for what is not finite. -/
def truncate : Number → Int
  | whole n => n
  | double x => x.truncate

/-- The double nearest to the number, an infinity where it is too large for a double. -/
def toDouble : Number → Double
  | whole n => Double.ofInt n
  | double x => x

/-- The number written positionally, to its last digit or with the shortest digits that read
back. -/
def positional : Number → Text
  | whole n => (if n < 0 then ['-'] else []) ++ Numeral.decimal n.natAbs
  | double x => x.positional

end Number

end PercentFormat
