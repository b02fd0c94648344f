import PercentFormat.Value.Text

/-! # Variables

Three variables influence how templates are applied, and one more is the title under which
messages speak of them. Bindings give them other values for a while.

* **`Variable`** — the variables, with **`Variable.options`**, those that templates look at.
* **`Settings`** — a value for every variable, with **`Settings.initial`** to start from.
* **`Assignment`** — values for some of the variables.
* **`Binding`** — an assignment to be entered and exited, with what it has to restore. -/

namespace PercentFormat

/-- The variables. -/
inductive Variable where
  /-- The number of digits behind the point in exponent notation, where a directive gives
  none. -/
  | exponentPrecision
  /-- The number of significant digits in general notation, where a directive gives none. -/
  | generalPrecision
  /-- Whether a malformed template is an error. -/
  | strict
  /-- The title of the variables, by which a message calls them. -/
  | title
  deriving DecidableEq

namespace Variable

/-- The variables that influence how templates are applied. -/
def options : List Variable := [exponentPrecision, generalPrecision, strict]

/-- All variables. -/
def all : List Variable := options ++ [title]

/-- The name of a variable. -/
def name : Variable → Text
  | exponentPrecision => Text.ofString "exponent_precision"
  | generalPrecision => Text.ofString "general_precision"
  | strict => Text.ofString "strict"
  | title => Text.ofString "__name__"

/-- The variable of a name. -/
def ofName? (name : Text) : Option Variable := all.find? fun x => x.name = name

/-- A variable is known by its name. -/
@[simp] theorem ofName?_name (x : Variable) : ofName? x.name = some x := by
  cases x <;> rfl

end Variable

/-- A value for every variable. -/
abbrev Settings := Variable → Value

/-- The values that the variables start with. -/
def Settings.initial : Settings
  | .exponentPrecision => .whole 21
  | .generalPrecision => .whole 6
  | .strict => .bool false
  | .title => .text (Text.ofString "printfvars")

/-- Values for some of the variables. -/
abbrev Assignment := Variable → Option Value

namespace Assignment

/-- No values. -/
def empty : Assignment := fun _ => none

/-- The settings with the values of an assignment in place of their own. -/
def applyTo (a : Assignment) (s : Settings) : Settings := fun x => (a x).getD (s x)

/-- The values that the settings have for the variables of an assignment. -/
def saved (a : Assignment) (s : Settings) : Assignment :=
  fun x => (a x).map fun _ => s x

/-- An assignment determines the variables that it has a value for. -/
theorem applyTo_of_some {a : Assignment} {x : Variable} {v : Value} (s : Settings)
    (h : a x = some v) : a.applyTo s x = v := by simp [applyTo, h]

/-- An assignment leaves the other variables as they are. -/
theorem applyTo_of_none {a : Assignment} {x : Variable} (s : Settings) (h : a x = none) :
    a.applyTo s x = s x := by simp [applyTo, h]

/-- What was saved from the settings restores them. -/
theorem saved_applyTo_applyTo (a : Assignment) (s : Settings) :
    (a.saved s).applyTo (a.applyTo s) = s := by
  funext x
  cases h : a x <;> simp [applyTo, saved, h]

/-- Names that no entry may have: a binding has its own use for them. -/
def takenNames : List Text := [Text.ofString "self", Text.ofString "namespace"]

/-- Names that stand beside the variables without being looked at: an entry may have them, and
gives no value to a variable. -/
def idleNames : List Text :=
  ["__doc__", "__package__", "__loader__", "__spec__", "__file__", "__cached__",
    "__builtins__"].map Text.ofString

/-- An entry of this name would be for something that does not exist. -/
def isUnknown (name : Text) : Bool := (Variable.ofName? name).isNone && name ∉ idleNames

/-- The unknown names among those of the entries, in the order of their code points. -/
def unknownNames (entries : List (Text × Value)) : List Text :=
  ((entries.map Prod.fst).filter isUnknown).mergeSort Text.precedes

/-- The assignment of values to names; of several values for one name the last one counts.
Unknown names are refused, with the title that the variables have at the time. -/
def ofEntries (s : Settings) (entries : List (Text × Value)) : Except Fault Assignment := do
  if entries.any fun entry => entry.1 ∈ takenNames then throw .nameTaken
  match unknownNames entries with
  | [] =>
    -- from the back, so that the last value of a name is found first
    return fun x => (entries.reverse.find? fun entry => entry.1 = x.name).map Prod.snd
  | names =>
    let title ← (s .title).toText
    throw (.unknownVariables title names)

end Assignment

/-- An assignment that can be entered and exited. -/
structure Binding where
  /-- The values that it gives to its variables. -/
  values : Assignment
  /-- The values that these variables had when it was last entered. -/
  before? : Option Assignment

namespace Binding

/-- A binding that has not been entered. -/
def ofAssignment (values : Assignment) : Binding := ⟨values, none⟩

/-- Sets the variables of a binding and keeps the values that they had. -/
def enter (b : Binding) (s : Settings) : Binding × Settings :=
  (⟨b.values, some (b.values.saved s)⟩, b.values.applyTo s)

/-- Gives the variables of a binding the values back that they had when it was last entered. -/
def exit (b : Binding) (s : Settings) : Except Fault Settings :=
  match b.before? with
  | some before => .ok (before.applyTo s)
  | none => .error .neverEntered

/-- An exit right after an entry restores the settings. -/
theorem exit_enter (b : Binding) (s : Settings) :
    (b.enter s).1.exit (b.enter s).2 = .ok s := by
  simp [enter, exit, Assignment.saved_applyTo_applyTo]

end Binding

end PercentFormat
