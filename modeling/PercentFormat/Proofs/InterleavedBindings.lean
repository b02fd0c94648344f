import Mathlib.Data.Set.Basic
import PercentFormat.Proofs.Causes
import PercentFormat.Proofs.VariableViews

/-! # Interleaved bindings

Bindings may be made, entered and exited in any order. Each variable follows the bindings of its
own, so bindings of other variables do not matter for it, and the steps of bindings that have no
variable in common may be taken in any interleaving.

* **`Interleaved`** — the interleavings of two lists.
* **`Step.On`**, **`Session.Confined`** — steps and bindings that are confined to some variables.
* **`VariableView.after_interleaved`** — a variable does not see the steps of other bindings.
* **`Session.view_after_interleaved`** — all interleavings show the same.
* **`Assignment.Refused`** — the ways in which entries are refused.
* **`Session.view_after_bindings`** — what runs of bindings do to the variables. -/

namespace PercentFormat

/-! ## Interleavings -/

/-- A list is an **interleaving** of two others if it is made up of both, each in its order. -/
inductive Interleaved {α : Type} : List α → List α → List α → Prop where
  /-- Nothing is made up of nothing. -/
  | nil : Interleaved [] [] []
  /-- The next element is from the first list. -/
  | left {a : α} {first second whole : List α} (rest : Interleaved first second whole) :
      Interleaved (a :: first) second (a :: whole)
  /-- The next element is from the second list. -/
  | right {a : α} {first second whole : List α} (rest : Interleaved first second whole) :
      Interleaved first (a :: second) (a :: whole)

namespace Interleaved

variable {α : Type} {first second whole : List α}

/-- Either list may be the first one. -/
theorem swap (interleaved : Interleaved first second whole) : Interleaved second first whole := by
  induction interleaved with
  | nil => exact .nil
  | left rest ih => exact .right ih
  | right rest ih => exact .left ih

/-- One list behind the other is an interleaving of them. -/
theorem append (first second : List α) : Interleaved first second (first ++ second) := by
  induction first with
  | nil =>
    induction second with
    | nil => exact .nil
    | cons a second ih => exact .right ih
  | cons a first ih => exact .left ih

end Interleaved

/-! ## Steps of bindings of some variables -/

/-- A step is one of a binding under one of the names, which gives values to variables of a domain
only. -/
def Step.On (names : Set Text) (domain : Set Variable) : Step → Prop
  | .newBinding name entries =>
    name ∈ names ∧ ∀ x v, Assignment.given entries x = some v → x ∈ domain
  | .enter name => name ∈ names
  | .exit name => name ∈ names
  | _ => False

/-- The bindings under the names give values to variables of a domain only. -/
def Session.Confined (session : Session) (names : Set Text) (domain : Set Variable) : Prop :=
  ∀ name ∈ names, ∀ b, session.bindings.find? name = some b →
    ∀ x v, b.values x = some v → x ∈ domain

namespace VariableView

variable {x : Variable} {view : VariableView} {names others : Set Text}
  {domain otherDomain : Set Variable}

/-- A step of a binding leaves what is held under other names. -/
theorem held_step_of_not_mem {step : Step} (on : step.On names domain) {name : Text}
    (apart : name ∉ names) : (view.step x step).held name = view.held name := by
  rcases held_step view x step name with same | ⟨entries, rfl, -⟩ | ⟨v, kept, rfl, -⟩
  · exact same
  · exact absurd on.1 apart
  · exact absurd on apart

/-- A step of a binding of other variables leaves a view as it is. -/
theorem step_of_on {step : Step} (on : step.On names domain) (apart : x ∉ domain)
    (unheld : ∀ name ∈ names, view.held name = none) : view.step x step = view := by
  cases step with
  | newBinding name entries =>
    refine step_newBinding_of_none (unheld name on.1) ?_
    exact Option.eq_none_iff_forall_ne_some.2 fun v given => apart (on.2 x v given)
  | enter name => exact step_enter_of_none (unheld name on)
  | exit name => exact step_exit_of_none (by simp [unheld name on])
  | _ => exact on.elim

/-- **A variable does not see the steps of other bindings**: behind any interleaving it is as behind
the steps of its own bindings alone. -/
theorem after_interleaved {first second whole : List Step}
    (interleaved : Interleaved first second whole)
    (firstOn : ∀ step ∈ first, step.On names domain)
    (secondOn : ∀ step ∈ second, step.On others otherDomain) (disjoint : Disjoint names others)
    (apart : x ∉ otherDomain) (unheld : ∀ name ∈ others, view.held name = none) :
    view.after x whole = view.after x first := by
  -- the first steps leave the other names alone, so nothing of the variable is ever held there
  induction interleaved generalizing view with
  | nil => rfl
  | @left step first second whole rest ih =>
    have on := firstOn step List.mem_cons_self
    refine ih (fun step member => firstOn step (List.mem_cons_of_mem _ member)) secondOn ?_
    intro name member
    rw [held_step_of_not_mem on (Set.disjoint_right.1 disjoint member), unheld name member]
  | @right step first second whole rest ih =>
    have on := secondOn step List.mem_cons_self
    rw [after_cons, step_of_on on apart unheld]
    exact ih firstOn (fun step member => secondOn step (List.mem_cons_of_mem _ member)) unheld

end VariableView

namespace Session

variable {session : Session} {names others : Set Text} {domain otherDomain : Set Variable}

/-- Confined bindings hold nothing of other variables. -/
theorem Confined.held_view (confined : session.Confined names domain) {x : Variable}
    (apart : x ∉ domain) : ∀ name ∈ names, (session.view x).held name = none := by
  intro name member
  refine Option.eq_none_iff_forall_ne_some.2 fun ⟨v, kept⟩ held => ?_
  obtain ⟨b, found, bound, -⟩ := held_view_eq_some_iff.1 held
  exact apart (confined name member b found x v bound)

/-- **All interleavings show the same**, if the steps are those of bindings under different names
and their domains have no variable in common. -/
theorem view_after_interleaved (own : session.KeepsOwn) {first second whole : List Step}
    (interleaved : Interleaved first second whole)
    (firstOn : ∀ step ∈ first, step.On names domain)
    (secondOn : ∀ step ∈ second, step.On others otherDomain)
    (firstConfined : session.Confined names domain)
    (secondConfined : session.Confined others otherDomain) (disjoint : Disjoint names others)
    (apart : Disjoint domain otherDomain) (x : Variable) :
    (session.after whole).view x = (session.after (first ++ second)).view x := by
  rw [view_after own, view_after own]
  by_cases member : x ∈ domain
  · -- only the first steps are seen
    have outside : x ∉ otherDomain := Set.disjoint_left.1 apart member
    have unheld := secondConfined.held_view outside
    rw [VariableView.after_interleaved interleaved firstOn secondOn disjoint outside unheld,
      VariableView.after_interleaved (.append first second) firstOn secondOn disjoint outside
        unheld]
  · -- only the second steps are seen, if any
    have unheld := firstConfined.held_view member
    rw [VariableView.after_interleaved interleaved.swap secondOn firstOn disjoint.symm member
        unheld,
      VariableView.after_interleaved (Interleaved.append first second).swap secondOn firstOn
        disjoint.symm member unheld]

end Session

/-! ## Entries that are refused -/

/-- The **refusals** of entries: a name that bindings have a use of their own for, or else a title
of the variables without a text, or else the unknown names under this title. -/
inductive Assignment.Refused (title : Value) (entries : List (Text × Value)) : Fault → Prop where
  /-- A name is taken. -/
  | taken (taken : ∃ entry ∈ entries, entry.1 ∈ takenNames) : Refused title entries .nameTaken
  /-- No name is taken, and the title holds a number that is too long. -/
  | title (untaken : ¬ ∃ entry ∈ entries, entry.1 ∈ takenNames) (long : title.HoldsLong) :
      Refused title entries .tooManyDigits
  /-- No name is taken, and the title has a text. -/
  | unknown (untaken : ¬ ∃ entry ∈ entries, entry.1 ∈ takenNames) {text : Text}
      (shown : title.toText = .ok text) :
      Refused title entries (.unknownVariables text (unknownNames entries))

/-- With a title that is too long, entries are refused for the title, unless a name is taken. -/
theorem Assignment.Refused.kind_of_long {title : Value} {entries : List (Text × Value)}
    {fault : Fault} (refused : Refused title entries fault)
    (untaken : ¬ ∃ entry ∈ entries, entry.1 ∈ takenNames) (long : title.HoldsLong) :
    fault.kind = .value := by
  cases refused with
  | taken taken => exact absurd taken untaken
  | title => rfl
  | unknown _ shown =>
    obtain ⟨fault, error, -⟩ := (title.failsWith_toText_iff .value).2 ⟨rfl, long⟩
    rw [error] at shown
    cases shown

/-- Entries with unknown names are refused. -/
theorem Assignment.exists_refused {entries : List (Text × Value)} (unknown : ¬ Admissible entries)
    (s : Settings) :
    ∃ fault, ofEntries s entries = .error fault ∧ Refused (s .title) entries fault := by
  by_cases taken : ∃ entry ∈ entries, entry.1 ∈ takenNames
  · exact ⟨_, ofEntries_of_taken taken s, .taken taken⟩
  · rw [ofEntries_of_unknown unknown taken]
    cases text : (s .title).toText with
    | error fault =>
      have long := ((s .title).failsWith_toText_iff .value).1
        ⟨fault, text, by rw [Value.toText_fault text]; rfl⟩
      obtain rfl := Value.toText_fault text
      exact ⟨_, rfl, .title taken long.2⟩
    | ok title => exact ⟨_, rfl, .unknown taken text⟩

/-- **Variables neither appear nor vanish**: entries are refused for the same names in any session,
which then stays as it is. -/
theorem Session.step_newBinding (session : Session) (name : Text) (entries : List (Text × Value)) :
    (Assignment.Admissible entries →
      (session.step (.newBinding name entries)).result = .ok .done)
    ∧ (¬ Assignment.Admissible entries →
      (session.step (.newBinding name entries)).session = session
        ∧ ∃ fault, (session.step (.newBinding name entries)).result = .error fault
          ∧ Assignment.Refused (session.settings .title) entries fault) := by
  constructor
  · intro admissible
    rw [step_newBinding_of_admissible admissible]
    rfl
  · intro unknown
    obtain ⟨fault, error, refused⟩ := Assignment.exists_refused unknown session.settings
    have step : session.step (.newBinding name entries) = session.refuse fault := by
      simp only [Session.step, error]
    rw [step]
    exact ⟨rfl, fault, rfl, refused⟩

/-! ## Runs of bindings -/

namespace Session

/-- **Where the values of variables come from.** In a run that starts without bindings, a variable
has its value from the start, or one that an entry of a binding has given to it, and that was among
the entries that the binding was made of. -/
theorem settings_comesFrom {start : Session} (empty : start.bindings = []) (steps : List Step)
    (x : Variable) :
    (start.after steps).settings x = start.settings x
    ∨ ∃ before name behind b entries, steps = before ++ .enter name :: behind
      ∧ (start.after before).bindings.find? name = some b
      ∧ b.values x = some ((start.after steps).settings x)
      ∧ .newBinding name entries ∈ before ∧ (x.name, (start.after steps).settings x) ∈ entries := by
  have own := keepsOwn_of_bindings_eq_nil empty
  have unheld (name : Text) : (start.view x).held name = none :=
    held_view_of_none (by rw [empty]; rfl)
  have comes : (start.view x).ComesFrom x steps ((start.view x).after x steps).value :=
    (VariableView.comesFrom_after (by simp [unheld]) steps).1
  rw [← view_after own] at comes
  rcases comes with initial | ⟨before, name, behind, kept, split, held⟩
  · exact .inl initial
  · obtain ⟨entries, made, given⟩ := VariableView.exists_newBinding_of_held unheld held
    rw [← view_after own] at held
    obtain ⟨b, found, bound, -⟩ := held_view_eq_some_iff.1 held
    exact .inr ⟨before, name, behind, b, entries, split, found, bound, made,
      Assignment.mem_of_given_eq_some given⟩

/-- **What runs of bindings do to the variables.** In a run that starts without bindings, for each
variable:

* its value behind the run, and what bindings have kept of it, are as behind the steps that concern
  the variable alone;
* in all interleavings of steps of different bindings, whose domains have no variable in common,
  they are the same, wherever in a run these steps stand;
* entries are refused for the same names behind any run, and this changes nothing;
* the value is the one at the start, or one that an entered binding was made with for it. -/
theorem view_after_bindings {start : Session} (empty : start.bindings = []) :
    (∀ steps x, (start.after (start.stepsOn x steps)).view x = (start.after steps).view x)
    ∧ (∀ (names others : Set Text) (domain otherDomain : Set Variable)
        (before first second whole behind : List Step), Interleaved first second whole →
      (∀ step ∈ first, step.On names domain) → (∀ step ∈ second, step.On others otherDomain) →
      (start.after before).Confined names domain →
      (start.after before).Confined others otherDomain →
      Disjoint names others → Disjoint domain otherDomain →
      ∀ x, (start.after (before ++ whole ++ behind)).view x
        = (start.after (before ++ (first ++ second) ++ behind)).view x)
    ∧ (∀ steps name entries,
      (Assignment.Admissible entries →
        ((start.after steps).step (.newBinding name entries)).result = .ok .done)
      ∧ (¬ Assignment.Admissible entries →
        ((start.after steps).step (.newBinding name entries)).session = start.after steps
        ∧ ∃ fault, ((start.after steps).step (.newBinding name entries)).result = .error fault
          ∧ Assignment.Refused ((start.after steps).settings .title) entries fault))
    ∧ ∀ steps x, (start.after steps).settings x = start.settings x
      ∨ ∃ before name behind b entries, steps = before ++ .enter name :: behind
        ∧ (start.after before).bindings.find? name = some b
        ∧ b.values x = some ((start.after steps).settings x)
        ∧ .newBinding name entries ∈ before
        ∧ (x.name, (start.after steps).settings x) ∈ entries := by
  have own := keepsOwn_of_bindings_eq_nil empty
  refine ⟨fun steps x => view_after_stepsOn own own rfl steps, ?_,
    fun steps name entries => step_newBinding (start.after steps) name entries,
    fun steps x => settings_comesFrom empty steps x⟩
  intro names others domain otherDomain before first second whole behind interleaved firstOn
    secondOn firstConfined secondConfined disjoint apart x
  have reached := own.after before
  have same := view_after_interleaved reached interleaved firstOn secondOn firstConfined
    secondConfined disjoint apart x
  rw [after_append, after_append, after_append, after_append start before,
    view_after (reached.after whole), view_after (reached.after (first ++ second)), same]

/-- Two bindings of one variable, exited in the order in which they were entered. The second one
gives back what it has kept of the first. A variable of the second one alone does not see the
first. -/
theorem view_after_bindings_overlapping :
    let a := Text.ofString "a"
    let b := Text.ofString "b"
    let second : Step := .newBinding b
      [(Variable.strict.name, .whole 2), (Variable.generalPrecision.name, .whole 3)]
    let steps : List Step := [.newBinding a [(Variable.strict.name, .whole 1)], second, .enter a,
      .enter b, .exit a, .exit b]
    initial.bindings = []
      ∧ (initial.after steps).settings .strict = .whole 1
      ∧ initial.stepsOn .generalPrecision steps = [second, .enter b, .exit b]
      ∧ (initial.after [second, .enter b, .exit b]).view .generalPrecision
        = (initial.after steps).view .generalPrecision := by
  intro a b second steps
  have firstAdmissible : Assignment.Admissible [(Variable.strict.name, .whole 1)] := by decide
  have secondAdmissible : Assignment.Admissible [(Variable.strict.name, .whole 2),
      (Variable.generalPrecision.name, .whole 3)] := by decide
  have strict : (initial.after steps).settings .strict = .whole 1 := by
    simp only [steps, second, after_cons, step_newBinding_of_admissible firstAdmissible,
      step_newBinding_of_admissible secondAdmissible]
    rfl
  have concerned : initial.stepsOn .generalPrecision steps = [second, .enter b, .exit b] := by
    simp only [steps, second, stepsOn, step_newBinding_of_admissible firstAdmissible,
      step_newBinding_of_admissible secondAdmissible]
    rfl
  have empty : initial.bindings = [] := rfl
  obtain ⟨alone, -⟩ := view_after_bindings empty
  exact ⟨empty, strict, concerned, concerned ▸ alone steps .generalPrecision⟩

/-- Unknown names are not always refused as such: a taken name comes first, and so does a title
that is too long. -/
theorem step_newBinding_other_kinds :
    let b := Text.ofString "b"
    let taken : List (Text × Value) := [(Text.ofString "self", .whole 1)]
    let unknown : List (Text × Value) := [(Text.ofString "nope", .whole 1)]
    let titled : List Step := [.newBinding b [(Variable.title.name, .whole (pow10 maxDigits))],
      .enter b]
    ¬ Assignment.Admissible taken ∧ ¬ Assignment.Admissible unknown
      ∧ (∃ fault, (initial.step (.newBinding b taken)).result = .error fault
        ∧ fault.kind = .type)
      ∧ ∃ fault, ((initial.after titled).step (.newBinding b unknown)).result = .error fault
        ∧ fault.kind = .value := by
  intro b taken unknown titled
  have noneTaken : ¬ ∃ entry ∈ unknown, entry.1 ∈ Assignment.takenNames := by decide
  have admissible (v : Value) : Assignment.Admissible [(Variable.title.name, v)] := by
    intro entry member
    rw [List.mem_singleton.1 member]
    exact show Assignment.isUnknown Variable.title.name = false by decide
  have title : (initial.after titled).settings .title = .whole (pow10 maxDigits) := by
    simp only [titled, after_cons, step_newBinding_of_admissible (admissible _)]
    rfl
  have long : (Value.whole (pow10 maxDigits)).HoldsLong :=
    .whole (Nat.le_of_eq (Int.natAbs_natCast _).symm)
  refine ⟨by decide, by decide, ⟨.nameTaken, ?_, rfl⟩, ?_⟩
  · have error : Assignment.ofEntries initial.settings taken = .error .nameTaken :=
      Assignment.ofEntries_of_taken (by decide) initial.settings
    simp only [step, error]
    rfl
  · obtain ⟨fault, error, refused⟩ :=
      ((step_newBinding (initial.after titled) b unknown).2 (by decide)).2
    rw [title] at refused
    exact ⟨fault, error, refused.kind_of_long noneTaken long⟩

end Session

end PercentFormat
