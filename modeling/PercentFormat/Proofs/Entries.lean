import PercentFormat.Session

/-! # Entries of bindings

A binding is made of entries, each a name and a value. The names alone decide whether it is made:
those of variables are given their values, some other names are idle, and a name that is unknown, or
that bindings have a use of their own for, is refused.

* **`Assignment.Admissible`**, **`Assignment.given`** — entries that are not refused, and the
  assignment that they make up.
* **`Assignment.ofEntries_of_taken`**, **`Assignment.ofEntries_of_admissible`**,
  **`Assignment.ofEntries_of_unknown`** — an equation for each way in which making a binding ends.
* **`Session.step_newBinding_of_admissible`**, **`Session.step_newBinding_of_refused`** — a session
  behind the making of a binding. -/

namespace PercentFormat

namespace Assignment

variable {entries : List (Text × Value)}

/-- The assignment that entries make up; of several values for one name the last one counts. -/
def given (entries : List (Text × Value)) : Assignment :=
  fun x => (entries.reverse.find? fun entry => entry.1 = x.name).map Prod.snd

/-- Entries are **admissible** if none of their names is unknown. -/
def Admissible (entries : List (Text × Value)) : Prop :=
  ∀ entry ∈ entries, isUnknown entry.1 = false

instance (entries : List (Text × Value)) : Decidable (Admissible entries) :=
  inferInstanceAs (Decidable (∀ entry ∈ entries, isUnknown entry.1 = false))

/-- A name that bindings have a use of their own for is no name of a variable. -/
theorem isUnknown_of_mem_takenNames {name : Text} (taken : name ∈ takenNames) :
    isUnknown name = true := by
  simp only [takenNames, List.mem_cons, List.not_mem_nil, or_false] at taken
  rcases taken with rfl | rfl <;> decide

/-- Admissible entries are those without unknown names. -/
theorem unknownNames_eq_nil_iff : unknownNames entries = [] ↔ Admissible entries := by
  rw [unknownNames, ← List.length_eq_zero_iff, List.length_mergeSort, List.length_eq_zero_iff,
    List.filter_eq_nil_iff]
  simp [Admissible]

/-- An entry with a taken name refuses all of them, whatever the other names are. -/
theorem ofEntries_of_taken (taken : ∃ entry ∈ entries, entry.1 ∈ takenNames) (s : Settings) :
    ofEntries s entries = .error .nameTaken := by
  have any : (entries.any fun entry => entry.1 ∈ takenNames) = true := by simpa using taken
  rw [ofEntries, any]
  rfl

/-- Without a taken name, unknown names are looked for. -/
theorem ofEntries_of_untaken (untaken : ¬ ∃ entry ∈ entries, entry.1 ∈ takenNames)
    (s : Settings) :
    ofEntries s entries
      = match unknownNames entries with
        | [] => .ok (given entries)
        | names => (s .title).toText.bind fun title => .error (.unknownVariables title names) := by
  have any : (entries.any fun entry => entry.1 ∈ takenNames) = false := by
    simpa using untaken
  rw [ofEntries, any]
  rfl

/-- Admissible entries make up their assignment, whatever values the variables have. -/
theorem ofEntries_of_admissible (admissible : Admissible entries) (s : Settings) :
    ofEntries s entries = .ok (given entries) := by
  -- taken names are unknown as well, so admissible entries have none of them
  have untaken : ¬ ∃ entry ∈ entries, entry.1 ∈ takenNames := by
    rintro ⟨entry, member, taken⟩
    have unknown := isUnknown_of_mem_takenNames taken
    rw [admissible entry member] at unknown
    contradiction
  rw [ofEntries_of_untaken untaken, unknownNames_eq_nil_iff.2 admissible]

/-- Unknown names are refused together, with the title of the variables in front. -/
theorem ofEntries_of_unknown (unknown : ¬ Admissible entries)
    (untaken : ¬ ∃ entry ∈ entries, entry.1 ∈ takenNames) (s : Settings) :
    ofEntries s entries
      = (s .title).toText.bind fun title =>
          .error (.unknownVariables title (unknownNames entries)) := by
  rw [ofEntries_of_untaken untaken]
  split
  · rename_i none
    exact absurd (unknownNames_eq_nil_iff.1 none) unknown
  · rfl

/-- Entries that are not admissible are refused. -/
theorem exists_ofEntries_eq_error (unknown : ¬ Admissible entries) (s : Settings) :
    ∃ fault, ofEntries s entries = .error fault := by
  by_cases taken : ∃ entry ∈ entries, entry.1 ∈ takenNames
  · exact ⟨_, ofEntries_of_taken taken s⟩
  · rw [ofEntries_of_unknown unknown taken]
    cases (s .title).toText with
    | error fault => exact ⟨fault, rfl⟩
    | ok title => exact ⟨_, rfl⟩

/-- A value that is given to a variable comes from an entry of its name. -/
theorem mem_of_given_eq_some {x : Variable} {v : Value} (value : given entries x = some v) :
    (x.name, v) ∈ entries := by
  obtain ⟨⟨name, w⟩, found, rfl⟩ := Option.map_eq_some_iff.1 value
  have same : name = x.name := by simpa using List.find?_some found
  rw [← same]
  exact List.mem_reverse.1 (List.mem_of_find?_eq_some found)

end Assignment

namespace Session

variable {entries : List (Text × Value)}

/-- Admissible entries make a binding that has not been entered. -/
theorem step_newBinding_of_admissible (admissible : Assignment.Admissible entries)
    (session : Session) (name : Text) :
    session.step (.newBinding name entries)
      = ({ session with
            bindings := session.bindings.put name
              (.ofAssignment (Assignment.given entries)) }).done .done := by
  simp only [step, Assignment.ofEntries_of_admissible admissible]

/-- Other entries are refused, and the session stays as it is. -/
theorem step_newBinding_of_refused (refused : ¬ Assignment.Admissible entries) (session : Session)
    (name : Text) :
    ∃ fault, Assignment.ofEntries session.settings entries = .error fault
      ∧ session.step (.newBinding name entries) = session.refuse fault := by
  obtain ⟨fault, error⟩ := Assignment.exists_ofEntries_eq_error refused session.settings
  exact ⟨fault, error, by simp only [step, error]⟩

end Session

end PercentFormat
