import PercentFormat.Text

/-! # Tables

* **`Table`** — things under names.
* **`Table.find?`**, **`Table.put`** — looking a name up, and putting a thing under it. -/

namespace PercentFormat

/-- Things under names, each name once. -/
abbrev Table (α : Type) := List (Text × α)

namespace Table

/-- The thing under a name. -/
def find? {α : Type} (t : Table α) (name : Text) : Option α := List.lookup name t

/-- Puts a thing under a name, in the place of what was there. -/
def put {α : Type} : Table α → Text → α → Table α
  | [], name, x => [(name, x)]
  | (other, y) :: rest, name, x =>
    if other = name then (name, x) :: rest else (other, y) :: put rest name x

/-- What was put under a name is found there. -/
@[simp] theorem find?_put_self {α : Type} (t : Table α) (name : Text) (x : α) :
    (put t name x).find? name = some x := by
  induction t with
  | nil => simp [put, find?]
  | cons entry rest ih =>
    obtain ⟨other, y⟩ := entry
    by_cases h : other = name
    · simp [put, find?, h]
    · simp only [put, if_neg h]
      simpa [find?, List.lookup_cons, beq_false_of_ne (Ne.symm h)] using ih

/-- Putting a thing under a name changes nothing under other names. -/
theorem find?_put_of_ne {α : Type} (t : Table α) {name other : Text} (x : α)
    (h : other ≠ name) : (put t name x).find? other = t.find? other := by
  induction t with
  | nil => simp [put, find?, List.lookup_cons, beq_false_of_ne h]
  | cons entry rest ih =>
    obtain ⟨present, y⟩ := entry
    by_cases same : present = name
    · subst same
      simp [put, find?, List.lookup_cons, beq_false_of_ne h]
    · simp only [put, if_neg same]
      simp only [find?, List.lookup_cons] at ih ⊢
      rw [ih]

end Table

end PercentFormat
