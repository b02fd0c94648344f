import PercentFormat.Printf

/-! # Messages

* **`ParseError.message`** — an error in a template, with a caret under the place where it is.
* **`ParseError.logLine`** — the line that reports a template that was cut off.
* **`Fault.message?`** — the message of a fault that has one. -/

namespace PercentFormat

namespace ParseError

/-- The template of messages: a reason, a quoted template, and a caret that ends a field. -/
def messageTemplate : Text := Text.ofString "%s\n  \"%s\"\n%*s"

/-- The message of an error: its reason, the template in quotes, and a caret under the character
at the offset. The quotes are indented by two, so the caret ends a field of four more than the
offset. -/
def message (s : Settings) (e : ParseError) : Text :=
  ((Source.text messageTemplate).apply s (Cursor.ofList
    [.text e.reason.text, .text e.template, .whole (e.offset + 4), .text ['^']])).text

/-- The line that reports a template that was cut off. -/
def logLine (e : ParseError) : Text :=
  Text.ofString "DEBUG: output truncated at offset " ++ Numeral.decimal e.offset
    ++ Text.ofString " of " ++ quoted e.template ++ ':' :: ' ' :: e.reason.text

end ParseError

/-- The message of names that are no names of the variables with the given title. -/
def unknownVariablesMessage (title : Text) (names : List Text) : Text :=
  title ++ Text.ofString " has no variable" ++ (if names.length > 1 then ['s'] else [])
    ++ ' ' :: Text.separated [',', ' '] names

/-- The message of a fault that has one: of templates, of unknown names, and of an exit without an
entry. -/
def Fault.message? (s : Settings) : Fault → Option Text
  | malformed e => some (e.message s)
  | templateNotText => some (Text.ofString "template must be a string")
  | unknownVariables title names => some (unknownVariablesMessage title names)
  | neverEntered =>
    some (Text.ofString "'bindings' object has no attribute 'old_bindings'")
  | _ => none

end PercentFormat
