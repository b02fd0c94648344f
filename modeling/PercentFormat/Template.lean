import PercentFormat.Directive.Spelling
import PercentFormat.Fault
import PercentFormat.Power
import PercentFormat.Text.Quoted

/-! # Templates

A template is read from left to right as a sequence of literals and directives, up to the first
place where neither begins.

* **`lexeme?`** — the literal or the directive at the front of a text.
* **`Token`** — a literal, or a directive with the place where it stands.
* **`Reading`** — the tokens that were read and why reading stopped.
* **`directiveBetween`** — the one directive that a part of a text spells.
* **`Template`** — a template that has been read, with the error where it was cut off. -/

namespace PercentFormat

/-! ## Lexemes -/

/-- A piece of a template as it is written. -/
inductive Lexeme where
  /-- A run of characters other than the percent sign. -/
  | literal (text : Text)
  /-- A directive. -/
  | directive (spelling : Spelling)
  deriving DecidableEq

/-- The text of a lexeme. -/
def Lexeme.text : Lexeme → Text
  | literal text => text
  | directive spelling => spelling.text

/-- A character of a literal. -/
def isPlain (c : Char) : Bool := c != '%'

/-- The longest literal or the directive at the front of a text, and what follows it. -/
def lexeme? : Text → Option (Lexeme × Text)
  | [] => none
  | c :: rest =>
    if isPlain c then
      some (.literal (c :: rest.takeWhile isPlain), rest.dropWhile isPlain)
    else (Spelling.scan? (c :: rest)).map fun (spelling, left) => (.directive spelling, left)

/-- A lexeme and what follows it make up the text. -/
theorem lexeme?_text {t rest : Text} {l : Lexeme} (h : lexeme? t = some (l, rest)) :
    l.text ++ rest = t := by
  unfold lexeme? at h
  split at h
  · simp at h
  · split at h
    · obtain ⟨rfl, rfl⟩ := Prod.mk.inj (Option.some.inj h)
      simp [Lexeme.text]
    · obtain ⟨⟨spelling, left⟩, found, same⟩ := Option.map_eq_some_iff.1 h
      obtain ⟨rfl, rfl⟩ := Prod.mk.inj same
      exact Spelling.scan?_text found

/-- A lexeme takes at least one character from the text. -/
theorem length_lt_of_lexeme? {t rest : Text} {l : Lexeme} (h : lexeme? t = some (l, rest)) :
    rest.length < t.length := by
  unfold lexeme? at h
  split at h
  · simp at h
  · rename_i c tail
    split at h
    · obtain ⟨rfl, rfl⟩ := Prod.mk.inj (Option.some.inj h)
      exact Nat.lt_succ_of_le (List.dropWhile_suffix isPlain).length_le
    · obtain ⟨⟨spelling, left⟩, found, same⟩ := Option.map_eq_some_iff.1 h
      obtain ⟨rfl, rfl⟩ := Prod.mk.inj same
      exact Spelling.length_lt_of_scan? found

/-- A lexeme begins somewhere in the text. -/
def hasLexeme : Text → Bool
  | [] => false
  | c :: rest => (lexeme? (c :: rest)).isSome || hasLexeme rest

/-- Why no lexeme begins at the front of a text: nothing can be read in all of it, or something
can be read further on. -/
def reasonAt (t : Text) : Reason := if hasLexeme t then .unknown else .incomplete

/-! ## Tokens -/

/-- A directive with the place where it stands. -/
structure Occurrence where
  /-- The directive. -/
  directive : Directive
  /-- The text of the directive. -/
  text : Text
  /-- The number of code points in front of it. -/
  start : Nat
  /-- The number of code points up to its end. -/
  stop : Nat
  deriving DecidableEq

/-- A description of a directive: what it makes of its argument, and its text. -/
def Occurrence.describe (o : Occurrence) : Text :=
  '<' :: o.directive.specifier.role.name ++ ' ' :: quoted o.text ++ ['>']

/-- A piece of a template. -/
inductive Token where
  /-- Text that stands for itself. -/
  | literal (text : Text)
  /-- A directive. -/
  | directive (occurrence : Occurrence)
  deriving DecidableEq

/-- The text of a token. -/
def Token.text : Token → Text
  | literal text => text
  | directive occurrence => occurrence.text

/-! ## Reading -/

/-- Why reading a template stopped. -/
inductive Stop where
  /-- The template is at its end. -/
  | finished
  /-- Neither a literal nor a directive begins where reading stopped. -/
  | malformed (error : ParseError)
  /-- A literal width or precision has too many digits. -/
  | tooManyDigits
  deriving DecidableEq

/-- The tokens that were read from a template, and why reading stopped. -/
structure Reading where
  /-- The tokens, in order. -/
  tokens : List Token
  /-- Why there are no more. -/
  stop : Stop
  deriving DecidableEq

/-- A reading with one more token in front. -/
def Reading.cons (token : Token) (r : Reading) : Reading := ⟨token :: r.tokens, r.stop⟩

/-- Reads the rest of a template. The first `offset` code points of it have been read. -/
def readFrom (template : Text) (offset : Nat) (rest : Text) : Reading :=
  if rest = [] then ⟨[], .finished⟩
  else
    match _found : lexeme? rest with
    | none => ⟨[], .malformed ⟨template, offset, reasonAt rest⟩⟩
    | some (.literal text, left) =>
      (readFrom template (offset + text.length) left).cons (.literal text)
    | some (.directive spelling, left) =>
      match spelling.directive? with
      | none => ⟨[], .tooManyDigits⟩
      | some directive =>
        let text := spelling.text
        let stop := offset + text.length
        (readFrom template stop left).cons (.directive ⟨directive, text, offset, stop⟩)
termination_by rest.length
decreasing_by all_goals exact length_lt_of_lexeme? _found

/-- At the end of a template reading is finished. -/
@[simp] theorem readFrom_nil (template : Text) (offset : Nat) :
    readFrom template offset [] = ⟨[], .finished⟩ := by
  rw [readFrom, if_pos rfl]

/-- Where no lexeme begins, reading stops with an error. -/
theorem readFrom_of_none {template rest : Text} {offset : Nat} (nonempty : rest ≠ [])
    (h : lexeme? rest = none) :
    readFrom template offset rest
      = ⟨[], .malformed ⟨template, offset, reasonAt rest⟩⟩ := by
  rw [readFrom, if_neg nonempty]
  split <;> simp_all

/-- A literal is a token, and reading goes on behind it. -/
theorem readFrom_of_literal {template rest text left : Text} {offset : Nat}
    (h : lexeme? rest = some (.literal text, left)) :
    readFrom template offset rest
      = (readFrom template (offset + text.length) left).cons (.literal text) := by
  have nonempty : rest ≠ [] := by rintro rfl; simp [lexeme?] at h
  rw [readFrom, if_neg nonempty]
  split <;> simp_all

/-- A directive is a token, and reading goes on behind it. -/
theorem readFrom_of_directive {template rest left : Text} {offset : Nat} {s : Spelling}
    {d : Directive} (h : lexeme? rest = some (.directive s, left)) (known : s.directive? = some d) :
    readFrom template offset rest
      = (readFrom template (offset + s.text.length) left).cons
        (.directive ⟨d, s.text, offset, offset + s.text.length⟩) := by
  have nonempty : rest ≠ [] := by rintro rfl; simp [lexeme?] at h
  rw [readFrom, if_neg nonempty]
  split <;> simp_all

/-- A directive with too many digits stops reading. -/
theorem readFrom_of_tooManyDigits {template rest left : Text} {offset : Nat} {s : Spelling}
    (h : lexeme? rest = some (.directive s, left)) (long : s.directive? = none) :
    readFrom template offset rest = ⟨[], .tooManyDigits⟩ := by
  have nonempty : rest ≠ [] := by rintro rfl; simp [lexeme?] at h
  rw [readFrom, if_neg nonempty]
  split <;> simp_all

/-- Reads a template. -/
def readTemplate (template : Text) : Reading := readFrom template 0 template

/-- Offsets lie below this bound. -/
def offsetBound : Nat := pow2 63

/-- Refuses offsets that are not below the bound. -/
def checkOffsets (start stop : Nat) : Except Fault Unit :=
  if offsetBound ≤ start ∨ offsetBound ≤ stop then .error .offsetOutOfRange else .ok ()

/-- The directive that the code points of a text from `start` up to `stop` spell. A `stop`
beyond the end of the text is taken for its end. -/
def directiveBetween (template : Text) (start stop : Nat) : Except Fault Occurrence := do
  checkOffsets start stop
  let slice := (template.take stop).drop start
  match Spelling.scan? slice with
  | some (spelling, []) =>
    match spelling.directive? with
    | some directive => .ok ⟨directive, slice, start, stop⟩
    | none => .error .tooManyDigits
  | _ => .error (.malformed ⟨template, start, .malformed⟩)

/-! ## Templates -/

/-- A template that has been read, as far as that was possible. -/
structure Template where
  /-- The text of the template. -/
  text : Text
  /-- What was read. -/
  tokens : List Token
  /-- The error that cut the template off, if any. -/
  error? : Option ParseError
  deriving DecidableEq

/-- How reading ends with the given error, if any. -/
def Stop.ofError? : Option ParseError → Stop
  | none => finished
  | some error => malformed error

namespace Template

/-- Reads a template, up to where it is malformed. Only a literal width or precision with too
many digits prevents that. -/
def ofText (text : Text) : Except Fault Template :=
  match readTemplate text with
  | ⟨tokens, .finished⟩ => .ok ⟨text, tokens, none⟩
  | ⟨tokens, .malformed error⟩ => .ok ⟨text, tokens, some error⟩
  | ⟨_, .tooManyDigits⟩ => .error .tooManyDigits

/-- A text is read as a template with its tokens and the error that reading ended with. -/
theorem ofText_eq_ok_iff {t : Text} {f : Template} :
    ofText t = .ok f ↔ f.text = t ∧ readTemplate t = ⟨f.tokens, .ofError? f.error?⟩ := by
  obtain ⟨text, tokens, error?⟩ := f
  unfold ofText
  generalize readTemplate t = reading
  obtain ⟨read, ended⟩ := reading
  cases ended with
  | finished => cases error? <;> simp [Stop.ofError?, eq_comm]
  | malformed error => cases error? <;> simp [Stop.ofError?, eq_comm]
  | tooManyDigits => cases error? <;> simp [Stop.ofError?]

/-- A text cannot be read as a template if and only if reading stops at a number of too many
digits. -/
theorem ofText_eq_error_iff_stop {t : Text} {fault : Fault} :
    ofText t = .error fault ↔ fault = .tooManyDigits ∧ (readTemplate t).stop = .tooManyDigits := by
  unfold ofText
  generalize readTemplate t = reading
  obtain ⟨read, ended⟩ := reading
  cases ended <;> simp [eq_comm]

/-- The template was cut off by an error. -/
def truncated (t : Template) : Bool := t.error?.isSome

end Template

end PercentFormat
