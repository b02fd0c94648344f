import PercentFormat.Text
import PercentFormat.Unicode.Printable

/-! # Quoted text

A text inside a container, or in a log line, is written in quotes: in single ones, unless it
holds a single quote and no double one. The quote itself and the backslash are escaped, as is
every character that is not printable.

* **`quoteFor`** — the quote that suits a text.
* **`escape`** — a character inside quotes.
* **`quoted`** — a text in quotes. -/

namespace PercentFormat

/-- A single quote, unless the text holds one and holds no double quote. -/
def quoteFor (t : Text) : Char := if '\'' ∈ t ∧ '"' ∉ t then '"' else '\''

/-- The code point of a character in hexadecimal, in `length` digits at least. -/
def hexCode (length : Nat) (c : Char) : Text :=
  let digits := Nat.toDigits 16 c.toNat
  Text.zeros (length - digits.length) ++ digits

/-- A character as it is written inside quotes. -/
def escape (quote c : Char) : Text :=
  if c = quote ∨ c = '\\' then ['\\', c]
  else if c = '\t' then ['\\', 't']
  else if c = '\n' then ['\\', 'n']
  else if c = '\r' then ['\\', 'r']
  else if isPrintable c then [c]
  else if c.toNat < 0x100 then '\\' :: 'x' :: hexCode 2 c
  else if c.toNat < 0x10000 then '\\' :: 'u' :: hexCode 4 c
  else '\\' :: 'U' :: hexCode 8 c

/-- A text in quotes. -/
def quoted (t : Text) : Text :=
  let quote := quoteFor t
  quote :: t.flatMap (escape quote) ++ [quote]

end PercentFormat
