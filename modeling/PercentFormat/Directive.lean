import PercentFormat.Text

/-! # Directives

A directive of a template stands for one field of the output. It consists of flags, a width, a
precision, a length modifier and a specifier.

* **`Flags`** — the set of flags of a directive.
* **`Parameter`** — a width or a precision.
* **`Length`** — a length modifier, which changes nothing.
* **`Specifier`** — the letter that a directive ends with.
* **`Role`** — what a specifier makes of its argument.
* **`Style`**, **`NumberForm`** — the notations of numbers.
* **`Directive`** — a directive. -/

namespace PercentFormat

/-- The flags of a directive, as a set. -/
structure Flags where
  /-- `-`: the field is padded on its right. -/
  left : Bool
  /-- `+`: a number that is not negative gets a plus sign. -/
  plus : Bool
  /-- A space: a number that is not negative gets a space for its sign. -/
  space : Bool
  /-- `#`: the base of a number is shown, and a decimal point is always there. -/
  alternate : Bool
  /-- `0`: a number is padded with zeros behind its sign. -/
  zero : Bool
  deriving DecidableEq

namespace Flags

/-- The characters that are flags. -/
def letters : Text := ['-', '+', ' ', '#', '0']

/-- The flags that occur in a text. -/
def ofText (t : Text) : Flags where
  left := '-' ∈ t
  plus := '+' ∈ t
  space := ' ' ∈ t
  alternate := '#' ∈ t
  zero := '0' ∈ t

/-- The flags of a set, each once and in the order of their code points. -/
def toText (f : Flags) : Text :=
  (if f.space then [' '] else []) ++ (if f.alternate then ['#'] else [])
    ++ (if f.plus then ['+'] else []) ++ (if f.left then ['-'] else [])
    ++ (if f.zero then ['0'] else [])

/-- The flags of a set, written out, are that set. -/
@[simp] theorem ofText_toText (f : Flags) : ofText f.toText = f := by
  obtain ⟨left, plus, space, alternate, zero⟩ := f
  cases left <;> cases plus <;> cases space <;> cases alternate <;> cases zero <;> rfl

/-- No flags. -/
@[simp] theorem ofText_nil : ofText [] = ⟨false, false, false, false, false⟩ := rfl

end Flags

/-- A width or a precision. -/
inductive Parameter where
  /-- None is given. -/
  | absent
  /-- The number is given in the directive. -/
  | given (n : Nat)
  /-- The number is the next argument. -/
  | fromArgument
  deriving DecidableEq

/-- A length modifier. -/
inductive Length where
  /-- `h` -/
  | short
  /-- `l` -/
  | long
  /-- `L` -/
  | longDouble
  deriving DecidableEq

namespace Length

/-- The letter of a length modifier. -/
def letter : Length → Char
  | short => 'h'
  | long => 'l'
  | longDouble => 'L'

/-- The length modifier of a letter. -/
def ofLetter? : Char → Option Length
  | 'h' => some short
  | 'l' => some long
  | 'L' => some longDouble
  | _ => none

/-- A length modifier is known by its letter. -/
@[simp] theorem ofLetter?_letter (l : Length) : ofLetter? l.letter = some l := by
  cases l <;> rfl

end Length

/-- The bases in which whole numbers are written. -/
inductive Base where
  /-- Base ten. -/
  | decimal
  /-- Base eight. -/
  | octal
  /-- Base sixteen. -/
  | hex
  deriving DecidableEq

namespace Base

/-- The number of digits of a base. -/
def radix : Base → Nat
  | decimal => 10
  | octal => 8
  | hex => 16

/-- The mark that tells a numeral in a base from a decimal one. -/
def mark : Base → Text
  | decimal => []
  | octal => ['0']
  | hex => ['0', 'x']

end Base

/-- The notations of numbers with a fraction. -/
inductive RealStyle where
  /-- With a number of digits behind the decimal point. -/
  | fixed
  /-- With one digit in front of the point and an exponent. -/
  | exponent
  /-- With a number of significant digits, in the shorter one of the other two. -/
  | general
  deriving DecidableEq

/-- The notations of numbers. -/
inductive Style where
  /-- The whole part, in a base. -/
  | whole (base : Base)
  /-- With a fraction. -/
  | real (style : RealStyle)
  deriving DecidableEq

/-- How a number is written: a notation, and whether its letters are upper case. -/
structure NumberForm where
  /-- The notation. -/
  style : Style
  /-- Letters are upper case. -/
  upper : Bool
  deriving DecidableEq

/-- The notation that a letter, in either case, stands for. -/
def Style.ofLetter? (letter : Char) : Option Style :=
  match letter.toLower with
  | 'd' => some (.whole .decimal)
  | 'i' => some (.whole .decimal)
  | 'u' => some (.whole .decimal)
  | 'o' => some (.whole .octal)
  | 'x' => some (.whole .hex)
  | 'f' => some (.real .fixed)
  | 'e' => some (.real .exponent)
  | 'g' => some (.real .general)
  | _ => none

/-- The form of numbers that a letter stands for; an upper-case letter asks for upper case. -/
def NumberForm.ofLetter? (letter : Char) : Option NumberForm :=
  (Style.ofLetter? letter).map fun style => ⟨style, letter.isUpper⟩

/-- The letters that a directive may end with. -/
inductive Specifier where
  /-- `c` -/
  | character
  /-- `d` -/
  | decimal
  /-- `i` -/
  | integer
  /-- `e` -/
  | exponent
  /-- `E` -/
  | exponentUpper
  /-- `f` -/
  | fixed
  /-- `g` -/
  | general
  /-- `G` -/
  | generalUpper
  /-- `o` -/
  | octal
  /-- `s` -/
  | string
  /-- `u` -/
  | unsigned
  /-- `x` -/
  | hex
  /-- `X` -/
  | hexUpper
  /-- `p` -/
  | pointer
  /-- `n` -/
  | count
  /-- `%` -/
  | percent
  /-- `@` -/
  | object
  deriving DecidableEq

/-- What a specifier makes of its argument. -/
inductive Role where
  /-- It takes no argument and stands for a percent sign. -/
  | percent
  /-- It writes the first character of the argument's text. -/
  | character
  /-- It writes the argument's text. -/
  | text
  /-- It takes an argument and writes nothing. -/
  | ignored
  /-- It writes the argument's number. -/
  | number (form : NumberForm)
  deriving DecidableEq

namespace Specifier

/-- The letter of a specifier. -/
def letter : Specifier → Char
  | character => 'c'
  | decimal => 'd'
  | integer => 'i'
  | exponent => 'e'
  | exponentUpper => 'E'
  | fixed => 'f'
  | general => 'g'
  | generalUpper => 'G'
  | octal => 'o'
  | string => 's'
  | unsigned => 'u'
  | hex => 'x'
  | hexUpper => 'X'
  | pointer => 'p'
  | count => 'n'
  | percent => '%'
  | object => '@'

/-- The specifier of a letter. -/
def ofLetter? : Char → Option Specifier
  | 'c' => some character
  | 'd' => some decimal
  | 'i' => some integer
  | 'e' => some exponent
  | 'E' => some exponentUpper
  | 'f' => some fixed
  | 'g' => some general
  | 'G' => some generalUpper
  | 'o' => some octal
  | 's' => some string
  | 'u' => some unsigned
  | 'x' => some hex
  | 'X' => some hexUpper
  | 'p' => some pointer
  | 'n' => some count
  | '%' => some percent
  | '@' => some object
  | _ => none

/-- A specifier is known by its letter. -/
@[simp] theorem ofLetter?_letter (s : Specifier) : ofLetter? s.letter = some s := by
  cases s <;> rfl

/-- What a specifier makes of its argument. -/
def role : Specifier → Role
  | character => .character
  | decimal => .number ⟨.whole .decimal, false⟩
  | integer => .number ⟨.whole .decimal, false⟩
  | exponent => .number ⟨.real .exponent, false⟩
  | exponentUpper => .number ⟨.real .exponent, true⟩
  | fixed => .number ⟨.real .fixed, false⟩
  | general => .number ⟨.real .general, false⟩
  | generalUpper => .number ⟨.real .general, true⟩
  | octal => .number ⟨.whole .octal, false⟩
  | string => .text
  | unsigned => .number ⟨.whole .decimal, false⟩
  | hex => .number ⟨.whole .hex, false⟩
  | hexUpper => .number ⟨.whole .hex, true⟩
  | pointer => .ignored
  | count => .ignored
  | percent => .percent
  | object => .text

/-- The form in which a specifier writes numbers is the one that its letter stands for. -/
theorem ofLetter?_of_role {s : Specifier} {form : NumberForm} (h : s.role = .number form) :
    NumberForm.ofLetter? s.letter = some form := by
  cases s <;> simp_all [role] <;> subst h <;> rfl

end Specifier

/-- The word for what a directive makes of its argument. -/
def Role.name : Role → Text
  | percent => Text.ofString "Percent"
  | character => Text.ofString "Character"
  | text => Text.ofString "String"
  | ignored => Text.ofString "Ignore"
  | number _ => Text.ofString "Numeric"

/-- A directive of a template. -/
structure Directive where
  /-- The set of its flags. -/
  flags : Flags
  /-- The least length of the field. -/
  width : Parameter
  /-- The number of digits of a number, if its notation has a choice. -/
  precision : Parameter
  /-- The length modifier. -/
  length : Option Length
  /-- The letter that tells what becomes of the argument. -/
  specifier : Specifier
  deriving DecidableEq

end PercentFormat
