import PercentFormat.Value
import PercentFormat.Number.Reading
import PercentFormat.Text.Quoted

/-! # The text of values

* **`wholeText`** — the text of a whole number, if it is not too long.
* **`Value.shown`** — a value as it is written inside a container.
* **`Value.toText`** — a value as it is written on its own: a text is written as it is. -/

namespace PercentFormat

/-- The decimal text of a whole number; a fault where it takes more than `maxDigits` digits. -/
def wholeText (n : Int) : Except Fault Text :=
  if tooLong n.natAbs then .error .tooManyDigits
  else .ok ((if n < 0 then ['-'] else []) ++ Numeral.decimal n.natAbs)

namespace Value

/-- The separator between the items of a container. -/
def itemSeparator : Text := [',', ' ']

mutual

/-- A value as it is written inside a container. -/
def shown : Value → Except Fault Text
  | null => .ok (Text.ofString "None")
  | bool true => .ok (Text.ofString "True")
  | bool false => .ok (Text.ofString "False")
  | whole n => wholeText n
  | double x => .ok x.text
  | ratio q => do
    let num ← wholeText q.num
    let den ← wholeText q.den
    return Text.ofString "Fraction(" ++ num ++ itemSeparator ++ den ++ [')']
  | text t => .ok (quoted t)
  | object t => .ok t
  | missing => .ok (Text.ofString "MISSING")
  | list items => do
    let parts ← shownItems items
    return '[' :: Text.separated itemSeparator parts ++ [']']
  | tuple items => do
    let parts ← shownItems items
    return '(' :: Text.separated itemSeparator parts
      ++ (if parts.length = 1 then [',', ')'] else [')'])
  | dict entries => do
    let parts ← shownEntries entries
    return '\x7b' :: Text.separated itemSeparator parts ++ ['\x7d']

/-- The items of a list or a tuple, each as it is written there. -/
def shownItems : List Value → Except Fault (List Text)
  | [] => .ok []
  | v :: rest => do
    let part ← shown v
    let parts ← shownItems rest
    return part :: parts

/-- The entries of a dictionary, each with a colon between key and value. -/
def shownEntries : List (Value × Value) → Except Fault (List Text)
  | [] => .ok []
  | (k, v) :: rest => do
    let key ← shown k
    let part ← shown v
    let parts ← shownEntries rest
    return (key ++ ':' :: ' ' :: part) :: parts

end

/-- A value as it is written on its own. -/
def toText : Value → Except Fault Text
  | text t => .ok t
  | missing => .ok []
  | ratio q => do
    let num ← wholeText q.num
    if q.den = 1 then return num
    let den ← wholeText q.den
    return num ++ '/' :: den
  | v => v.shown

end Value

end PercentFormat
