import PercentFormat.Printf
import PercentFormat.Template.WellFormed

/-! # Doubled percent signs

A text with each percent sign doubled is a template that stands for the text itself. Whatever stands
beside a run of percent signs, they are read in pairs, and each pair stands for one of them.

* **`Text.doubled`** — a text with each percent sign doubled.
* **`run_induction`** — induction along the runs of plain characters and the percent signs.
* **`Reading.Echoes`** — a reading that is rendered to a given text, whatever the arguments are.
* **`echoes_readFrom_doubled`** — reading a doubled text gives such a reading of the text.
* **`format_doubled`** — a doubled text formats to the text. -/

namespace PercentFormat

/-! ## Doubling -/

/-- A text with each percent sign **doubled**. -/
def Text.doubled (t : Text) : Text := t.flatMap fun c => if c = '%' then ['%', '%'] else [c]

namespace Text

/-- Nothing is doubled in the empty text. -/
@[simp] theorem doubled_nil : doubled [] = [] := rfl

/-- A percent sign is doubled. -/
theorem doubled_percent_cons (t : Text) : doubled ('%' :: t) = '%' :: '%' :: doubled t := rfl

/-- Texts are doubled one by one. -/
theorem doubled_append (s t : Text) : doubled (s ++ t) = doubled s ++ doubled t :=
  List.flatMap_append

/-- Plain characters stay as they are. -/
theorem doubled_of_plain {run : Text} (inside : ∀ c ∈ run, isPlain c = true) :
    doubled run = run := by
  induction run with
  | nil => rfl
  | cons c run ih =>
    have here : c ≠ '%' := by simpa [isPlain] using inside c List.mem_cons_self
    have rest := ih fun d member => inside d (List.mem_cons_of_mem c member)
    rw [doubled, List.flatMap_cons, if_neg here, ← doubled, rest]
    rfl

/-- A text that starts with a percent sign or is empty is one that does so when it is doubled. -/
theorem startsOutside_doubled {t : Text} (outside : StartsOutside isPlain t) :
    StartsOutside isPlain (doubled t) := by
  cases t with
  | nil => exact outside
  | cons c t =>
    have percent : c = '%' := by simpa [isPlain] using outside c rfl
    subst percent
    exact startsOutside_cons rfl

end Text

/-- **Induction along runs and percent signs.** A text is empty, or it starts with a run of plain
characters that does not go on, or with a percent sign. -/
@[elab_as_elim]
theorem run_induction {motive : Text → Prop} (nil : motive [])
    (run : ∀ {run rest : Text}, run ≠ [] → (∀ c ∈ run, isPlain c = true) →
      StartsOutside isPlain rest → motive rest → motive (run ++ rest))
    (percent : ∀ {rest : Text}, motive rest → motive ('%' :: rest)) (t : Text) : motive t := by
  match t with
  | [] => exact nil
  | c :: t =>
    by_cases plain : isPlain c = true
    · have shorter := (List.dropWhile_suffix (l := t) isPlain).length_le
      have whole : c :: t = (c :: t.takeWhile isPlain) ++ t.dropWhile isPlain := by simp
      have behind := run_induction nil run percent (t.dropWhile isPlain)
      rw [whole]
      refine run (List.cons_ne_nil _ _) (fun d member => ?_)
        (Spelling.startsOutside_dropWhile isPlain t) behind
      rcases List.mem_cons.1 member with rfl | later
      · exact plain
      · exact List.all_eq_true.1 List.all_takeWhile d later
    · obtain rfl : c = '%' := by simpa [isPlain] using plain
      exact percent (run_induction nil run percent t)
termination_by t.length

/-! ## Reading and rendering -/

/-- The spelling of a pair of percent signs. -/
def Spelling.percent : Spelling := ⟨[], .absent, .absent, none, .percent⟩

/-- A pair of percent signs is scanned as such. -/
theorem Spelling.valid_percent : percent.Valid :=
  ⟨⟨by simp [percent], trivial, trivial⟩, by simp [percent]⟩

/-- A reading **echoes** a text if it is finished, and its tokens are rendered to the text without
consuming anything. -/
structure Reading.Echoes (r : Reading) (t : Text) : Prop where
  /-- Reading came to the end. -/
  finished : r.stop = .finished
  /-- The tokens write the text and consume nothing. -/
  renders : ∀ (s : Settings) (c : Cursor),
    ∃ written, renderTokens s r.tokens c = ⟨written, c, none⟩ ∧ written.flatten = t

/-- A token that is rendered to a text and consumes nothing goes in front of an echo. -/
theorem Reading.Echoes.cons {r : Reading} {t text : Text} {token : Token}
    (run : ∀ (s : Settings) (c : Cursor), (token.render s).run c = (.ok text, c))
    (echoes : r.Echoes t) : (r.cons token).Echoes (text ++ t) := by
  refine ⟨echoes.finished, fun s c => ?_⟩
  obtain ⟨written, rendered, flatten⟩ := echoes.renders s c
  refine ⟨text :: written, ?_, by rw [List.flatten_cons, flatten]⟩
  rw [Reading.cons, renderTokens_cons_of_ok r.tokens (run s c), rendered]

/-- **Reading a doubled text** echoes the text. -/
theorem echoes_readFrom_doubled (template : Text) (offset : Nat) (t : Text) :
    (readFrom template offset t.doubled).Echoes t := by
  induction t using run_induction generalizing offset with
  | nil => exact ⟨by simp, fun s c => ⟨[], by simp, rfl⟩⟩
  | run nonempty inside outside ih =>
    rw [Text.doubled_append, Text.doubled_of_plain inside,
      readFrom_literal_append nonempty inside (Text.startsOutside_doubled outside)]
    exact (ih _).cons fun s c => Token.run_render_literal s _ c
  | percent ih =>
    rename_i rest
    have pair : Text.doubled ('%' :: rest) = Spelling.percent.text ++ rest.doubled :=
      Text.doubled_percent_cons rest
    rw [pair, readFrom_directive_append Spelling.valid_percent rfl]
    exact Reading.Echoes.cons (fun s c => show _ = (Except.ok ['%'], c) from rfl) (ih _)

/-- A template whose reading echoes a text formats to this text. -/
theorem format_of_echoes {template t : Text} (echoes : (readTemplate template).Echoes t)
    (s : Settings) (c : Cursor) : format s (Source.text template) c = ⟨.ok t, c, []⟩ := by
  have read : Template.ofText template
      = .ok ⟨template, (readTemplate template).tokens, none⟩ := by
    refine Template.ofText_eq_ok_iff.2 ⟨rfl, ?_⟩
    rw [Stop.ofError?, ← echoes.finished]
  obtain ⟨written, rendered, flatten⟩ := echoes.renders s c
  rw [format_of_complete read rfl (by rw [rendered]), rendered, Progress.text, flatten]

/-- **Doubling is undone by formatting.** A text with each percent sign doubled formats to the text
itself, under all settings and whatever the arguments are: there is no fault, nothing is consumed,
and nothing is reported. In particular a text without percent signs formats to itself. -/
theorem format_doubled (s : Settings) (t : Text) (c : Cursor) :
    format s (Source.text t.doubled) c = ⟨.ok t, c, []⟩
      ∧ ('%' ∉ t → format s (Source.text t) c = ⟨.ok t, c, []⟩) := by
  have main := format_of_echoes (echoes_readFrom_doubled t.doubled 0 t) s c
  refine ⟨main, fun none => ?_⟩
  have plain : t.doubled = t := Text.doubled_of_plain fun c member => by
    simpa [isPlain] using ne_of_mem_of_not_mem member none
  rwa [plain] at main

/-- Two percent signs in front of what would be a directive, and one behind it. The settings are
strict, and the argument is not consumed. -/
theorem format_doubled_pair :
    let strict : Settings := fun x => if x = .strict then .bool true else Settings.initial x
    let c := Cursor.ofList [.whole 7]
    Text.doubled (Text.ofString "%%5d%") = Text.ofString "%%%%5d%%"
      ∧ format strict (Source.text (Text.ofString "%%%%5d%%")) c
        = ⟨.ok (Text.ofString "%%5d%"), c, []⟩
      ∧ '%' ∉ Text.ofString "5d"
      ∧ format strict (Source.text (Text.ofString "5d")) c = ⟨.ok (Text.ofString "5d"), c, []⟩ := by
  intro strict c
  have none : '%' ∉ Text.ofString "5d" := by decide
  exact ⟨rfl, (format_doubled strict (Text.ofString "%%5d%") c).1, none,
    (format_doubled strict (Text.ofString "5d") c).2 none⟩

end PercentFormat
