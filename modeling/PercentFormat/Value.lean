import PercentFormat.Number
import PercentFormat.Fault

/-! # Values

* **`Value`** — what may be given as an argument, as the value of a variable, as a width or a
  precision.
* **`Value.truthy`** — whether a value counts as true. -/

namespace PercentFormat

/-- A dynamic value. -/
inductive Value where
  /-- The absence of a value. -/
  | null
  /-- A truth value; as a number, zero or one. -/
  | bool (b : Bool)
  /-- A whole number of any size. -/
  | whole (n : Int)
  /-- A double. -/
  | double (x : Double)
  /-- An exact ratio in lowest terms. -/
  | ratio (q : Rat)
  /-- A text. -/
  | text (t : Text)
  /-- Something of which only its text is known. -/
  | object (shown : Text)
  /-- What is read from a list of arguments that is used up. -/
  | missing
  /-- A list. -/
  | list (items : List Value)
  /-- A tuple. -/
  | tuple (items : List Value)
  /-- A dictionary, with its entries in order. -/
  | dict (entries : List (Value × Value))

/-- A value counts as true unless it is null, false, a zero, or empty. -/
def Value.truthy : Value → Bool
  | null => false
  | bool b => b
  | whole n => n != 0
  | double x => !x.isZero
  | ratio q => q.num != 0
  | text t => !t.isEmpty
  | object _ => true
  | missing => true
  | list items => !items.isEmpty
  | tuple items => !items.isEmpty
  | dict entries => !entries.isEmpty

instance : Inhabited Value := ⟨.null⟩

end PercentFormat
