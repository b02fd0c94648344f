import PercentFormat.Value

/-! # Argument cursors

* **`Cursor`** — a list of arguments, of which some have been consumed. It moves forward only.
* **`Cursor.next`** — consumes one argument. Beyond the end there is always a missing value.

The items are kept in an array, so that each step takes the same time. -/

namespace PercentFormat

/-- A list of arguments with the number of those that have been consumed. -/
structure Cursor where
  /-- All arguments. -/
  items : Array Value
  /-- The number of arguments that have been consumed. -/
  consumed : Nat
  /-- No more are consumed than there are. -/
  consumed_le : consumed ≤ items.size

namespace Cursor

/-- A cursor in front of all arguments. -/
def ofList (items : List Value) : Cursor := ⟨items.toArray, 0, Nat.zero_le _⟩

/-- The number of arguments. -/
def length (c : Cursor) : Nat := c.items.size

/-- The number of arguments that have not been consumed. -/
def remaining (c : Cursor) : Nat := c.length - c.consumed

/-- All arguments have been consumed. -/
def isEmpty (c : Cursor) : Bool := c.length ≤ c.consumed

/-- The next argument, and the cursor behind it. -/
def next (c : Cursor) : Value × Cursor :=
  if more : c.consumed < c.items.size then
    (c.items[c.consumed], ⟨c.items, c.consumed + 1, more⟩)
  else (.missing, c)

/-- The arguments stay as they are. -/
@[simp] theorem next_items (c : Cursor) : c.next.2.items = c.items := by
  unfold next
  split <;> rfl

/-- Each step consumes one argument, as long as there are some. -/
theorem next_consumed (c : Cursor) :
    c.next.2.consumed = min c.items.size (c.consumed + 1) := by
  have := c.consumed_le
  unfold next
  split <;> simp <;> omega

/-- The value handed out is the next item, or the missing value behind the last one. -/
theorem next_value (c : Cursor) : c.next.1 = c.items[c.consumed]?.getD .missing := by
  unfold next
  split
  · rename_i more
    simp [more]
  · rename_i none
    simp [Array.getElem?_eq_none (Nat.le_of_not_lt none)]

/-- What is consumed and what remains make up the arguments. -/
theorem consumed_add_remaining (c : Cursor) : c.consumed + c.remaining = c.length :=
  Nat.add_sub_cancel' c.consumed_le

end Cursor

end PercentFormat
