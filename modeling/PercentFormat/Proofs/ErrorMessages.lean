import PercentFormat.Proofs.Agreement
import PercentFormat.Proofs.FieldLayout

/-! # The messages of errors in templates

The message of an error is made by the formatter itself, from a template of its own. The malformed
template is an argument there, so none of its directives is looked at. The message has three lines:
the reason, the malformed template in quotes, and a caret under the percent sign where reading
stopped.

* **`stop_eq_malformed_iff`** — the error that reading a text stops with.
* **`ParseError.exists_split`** — a percent sign stands at the offset of an error.
* **`ParseError.textFor_messageTokens`** — what the template of messages makes of its arguments.
* **`ParseError.message_points`** — the text of a message, and the place that its caret points at. -/

namespace PercentFormat

/-! ## The errors of templates -/

/-- What cannot be read of a text begins with a percent sign. -/
theorem exists_unread_eq_cons {t : Text} (left : unread t ≠ []) :
    ∃ rest, unread t = '%' :: rest := by
  obtain ⟨c, rest, starts⟩ := List.exists_cons_of_ne_nil left
  have nothing := lexeme?_unread t
  rw [starts, lexeme?] at nothing
  split at nothing
  · contradiction
  · rename_i special
    have percent : c = '%' := by simpa [isPlain] using special
    exact ⟨rest, by rw [starts, percent]⟩

/-- **Reading stops with an error** if and only if the text has short numbers and is not read to its
end. The error lies behind the longest well-formed prefix. -/
theorem stop_eq_malformed_iff {t : Text} {e : ParseError} :
    (readTemplate t).stop = .malformed e
      ↔ NumbersShort t ∧ unread t ≠ [] ∧ e = ⟨t, wellFormedLength t, reasonAt (unread t)⟩ := by
  by_cases short : NumbersShort t
  · have reading : readTemplate t = _ := readFrom_eq short t t 0
    rw [reading, endAt, Nat.zero_add]
    by_cases left : unread t = [] <;> simp [short, left, eq_comm]
  · have stop : (readTemplate t).stop = .tooManyDigits := (stop_eq_tooManyDigits_iff t t 0).2 short
    simp [stop, short]

/-- A template keeps the error that reading its text stopped with. -/
theorem Template.error?_eq_some_iff {t : Text} {f : Template} (read : ofText t = .ok f)
    {e : ParseError} : f.error? = some e ↔ (readTemplate t).stop = .malformed e := by
  rw [(ofText_eq_ok_iff.1 read).2]
  cases f.error? <;> simp [Stop.ofError?]

/-- A percent sign stands at the offset of an error. -/
theorem ParseError.exists_split {t : Text} {e : ParseError}
    (stop : (readTemplate t).stop = .malformed e) :
    e.template = t ∧ ∃ before behind, t = before ++ '%' :: behind ∧ before.length = e.offset := by
  obtain ⟨-, left, rfl⟩ := stop_eq_malformed_iff.1 stop
  obtain ⟨behind, starts⟩ := exists_unread_eq_cons left
  refine ⟨rfl, t.take (wellFormedLength t), behind, ?_,
    List.length_take_of_le (wellFormedLength_le t)⟩
  rw [← starts, take_append_unread]

/-- The wording of a reason is one line. -/
theorem Reason.newline_notMem_text (r : Reason) : '\n' ∉ r.text := by
  cases r <;> decide

/-! ## The template of messages -/

/-- What is rendered without a fault is its result. -/
theorem Progress.result_eq_ok_iff {p : Progress} {text : Text} :
    p.result = .ok text ↔ p.fault? = none ∧ p.text = text := by
  rw [result]
  cases p.fault? <;> simp

/-- A template that is not cut off formats to the text that its tokens make of the arguments, and
nothing is reported. -/
theorem sprintf_of_textFor {s : Settings} {t text : Text} {tokens : List Token} {args : List Value}
    (read : Template.ofText t = .ok ⟨t, tokens, none⟩) (made : textFor s tokens args = .ok text) :
    sprintf s (.text t) args
      = ⟨.ok text, (Cursor.ofList args).advance (demandOf tokens), []⟩ := by
  have result := result_renderTokens s tokens (Cursor.ofList args)
  rw [Cursor.left_ofList, made] at result
  obtain ⟨complete, written⟩ := Progress.result_eq_ok_iff.1 result
  rw [sprintf, format_of_complete read rfl complete, written, cursor_renderTokens complete]

namespace ParseError

/-- The directives of the template of messages: a text with a width, without flags. -/
def messageDirective (width : Parameter) : Directive :=
  ⟨Flags.ofText [], width, .absent, none, .string⟩

/-- The tokens of the template of messages. -/
def messageTokens : List Token :=
  [.directive ⟨messageDirective .absent, ['%', 's'], 0, 2⟩, .literal (Text.ofString "\n  \""),
    .directive ⟨messageDirective .absent, ['%', 's'], 6, 8⟩, .literal (Text.ofString "\"\n"),
    .directive ⟨messageDirective .fromArgument, ['%', '*', 's'], 10, 13⟩]

/-- The template of messages is read to its end. -/
theorem ofText_messageTemplate :
    Template.ofText messageTemplate = .ok ⟨messageTemplate, messageTokens, none⟩ := by
  cbv

/-- Without a width, a text is written as it is. -/
theorem fieldFor_messageDirective (s : Settings) (t : Text) (rest : List Value) :
    (messageDirective .absent).fieldFor s (.text t :: rest) = .ok t := by
  have field : (messageDirective .absent).fieldFor s (.text t :: rest)
      = (Pieces.ofBody t).justify (Flags.ofText []) 0 := rfl
  rw [field, Pieces.justify_of_nonpos _ _ (Int.le_refl 0), Pieces.text]
  exact congrArg Except.ok (List.append_nil t)

/-- A width that is left to an argument is that of the field. -/
theorem fieldFor_messageDirective_fromArgument (s : Settings) (width : Int) (t : Text)
    (rest : List Value) :
    (messageDirective .fromArgument).fieldFor s (.whole width :: .text t :: rest)
      = (Pieces.ofBody t).justify (Flags.ofText []) width := rfl

/-- **The template of messages** puts its first two arguments where they belong, whatever they are,
and its last one in a field of the width in front of it. -/
theorem textFor_messageTokens (s : Settings) (reason template mark : Text) (width : Int) :
    textFor s messageTokens [.text reason, .text template, .whole width, .text mark]
      = ((Pieces.ofBody mark).justify (Flags.ofText []) width).map fun field =>
          reason ++ (Text.ofString "\n  \"" ++ (template ++ (Text.ofString "\"\n" ++ field))) := by
  simp only [messageTokens, textFor, fieldFor_messageDirective]
  have taken : (messageDirective .absent).demand = 1 := rfl
  simp only [taken, List.drop_succ_cons, List.drop_zero, fieldFor_messageDirective,
    fieldFor_messageDirective_fromArgument]
  cases (Pieces.ofBody mark).justify (Flags.ofText []) width with
  | error fault => rfl
  | ok field => simp [Except.map, bind, Except.bind]

/-- A mark of one character stands at the end of its field. -/
theorem justify_mark {width : Int} {padding : Nat} (wide : width = padding + 1)
    (fits : padding < Pieces.paddingBound) (c : Char) :
    (Pieces.ofBody [c]).justify (Flags.ofText []) width = .ok (Text.spaces padding ++ [c]) := by
  have length : width - (Pieces.ofBody [c]).length = padding := by
    rw [wide]
    exact Int.add_sub_cancel _ 1
  refine Pieces.justify_eq_ok_iff.2 ?_
  rw [length, Int.toNat_natCast]
  exact ⟨Int.ofNat_lt.2 fits, rfl⟩

/-- The arguments of a message: the reason, the template, and a caret with the width of its field. -/
def messageArguments (e : ParseError) : List Value :=
  [.text e.reason.text, .text e.template, .whole (e.offset + 4), .text ['^']]

/-- The lines of a message: the reason, the template in quotes, and a caret under the character at
the offset. -/
def lines (e : ParseError) : List Text :=
  [e.reason.text, Text.ofString "  \"" ++ e.template ++ ['"'], Text.spaces (e.offset + 3) ++ ['^']]

/-- **A message** is made without a fault or a report, under all settings, and it consists of its
lines. -/
theorem message_eq_lines (s : Settings) {e : ParseError}
    (fits : e.offset + 3 < Pieces.paddingBound) :
    sprintf s (.text messageTemplate) e.messageArguments
        = ⟨.ok (e.message s), (Cursor.ofList e.messageArguments).advance 4, []⟩
      ∧ e.message s = ['\n'].intercalate e.lines := by
  have made := textFor_messageTokens s e.reason.text e.template ['^'] (e.offset + 4)
  have wide : (e.offset + 4 : Int) = (e.offset + 3 : Nat) + 1 := by omega
  rw [justify_mark wide fits] at made
  have formatted := sprintf_of_textFor ofText_messageTemplate made
  have written := text_apply_of_format (congrArg Call.result formatted)
  refine ⟨formatted.trans ?_, written.trans ?_⟩
  · rw [← written]
    rfl
  · simp [lines, List.intercalate, Text.ofString]

/-- If there is no newline in the template, the lines of a message are its lines. -/
theorem splitOn_message (s : Settings) {e : ParseError} (fits : e.offset + 3 < Pieces.paddingBound)
    (oneLine : '\n' ∉ e.template) : (e.message s).splitOn '\n' = e.lines := by
  rw [(message_eq_lines s fits).2]
  refine List.splitOn_intercalate '\n' (fun line member => ?_) (List.cons_ne_nil _ _)
  simp only [lines, List.mem_cons, List.not_mem_nil, or_false] at member
  rcases member with rfl | rfl | rfl
  · exact e.reason.newline_notMem_text
  · simp [Text.ofString, oneLine]
  · simp [Text.spaces]

/-- **The message of an error** in a template, whether reading the template stops with it or the
template keeps it. Under all settings it is made without a fault, and nothing is reported. It
consists of the reason, the template in quotes as it is, and a caret behind three more spaces than
the offset of the error. If there is no newline in the template, the caret is the end of the third
line, and stands right under a percent sign of the template, the one where reading stopped. The
bound on the offset holds for every text that can be kept in memory. -/
theorem message_points (s : Settings) {t : Text} {e : ParseError}
    (arises : (readTemplate t).stop = .malformed e
      ∨ ∃ f, Template.ofText t = .ok f ∧ f.error? = some e)
    (fits : e.offset + 3 < Pieces.paddingBound) :
    sprintf s (.text messageTemplate) e.messageArguments
        = ⟨.ok (e.message s), (Cursor.ofList e.messageArguments).advance 4, []⟩
      ∧ e.message s = e.reason.text ++ '\n' :: ' ' :: ' ' :: '"' :: t
          ++ '"' :: '\n' :: Text.spaces (e.offset + 3) ++ ['^']
      ∧ ∃ before behind, t = before ++ '%' :: behind ∧ before.length = e.offset
        ∧ ('\n' ∉ t → (e.message s).splitOn '\n'
          = [e.reason.text, ' ' :: ' ' :: '"' :: before ++ '%' :: behind ++ ['"'],
            Text.spaces (' ' :: ' ' :: '"' :: before).length ++ ['^']]) := by
  have stop : (readTemplate t).stop = .malformed e := by
    rcases arises with stop | ⟨f, read, kept⟩
    · exact stop
    · exact (Template.error?_eq_some_iff read).1 kept
  obtain ⟨rfl, before, behind, split, offset⟩ := exists_split stop
  obtain ⟨made, text⟩ := message_eq_lines s fits
  refine ⟨made, ?_, before, behind, split, offset, fun oneLine => ?_⟩
  · rw [text]
    simp [lines, List.intercalate, Text.ofString]
  · rw [splitOn_message s fits oneLine, lines, split, ← offset]
    simp [Text.ofString]

/-- A template with a width that is left to an argument is quoted as it is, and the settings are
strict. The caret stands under the last percent sign. -/
theorem message_points_strict :
    let t := Text.ofString "%*s%%5d %q"
    let e : ParseError := ⟨t, 8, .unknown⟩
    let strict : Settings := fun x => if x = .strict then .bool true else Settings.initial x
    ((readTemplate t).stop = .malformed e
        ∨ ∃ f, Template.ofText t = .ok f ∧ f.error? = some e)
      ∧ e.offset + 3 < Pieces.paddingBound
      ∧ (sprintf strict (.text messageTemplate) e.messageArguments).result = .ok (e.message strict)
      ∧ e.message strict
        = Text.ofString "unknown format directive\n  \"%*s%%5d %q\"\n           ^"
      ∧ (e.message strict).splitOn '\n'
        = ["unknown format directive", "  \"%*s%%5d %q\"", "           ^"].map Text.ofString := by
  have stop : (readTemplate (Text.ofString "%*s%%5d %q")).stop
      = .malformed ⟨Text.ofString "%*s%%5d %q", 8, .unknown⟩ := by cbv
  intro t e strict
  have fits : e.offset + 3 < Pieces.paddingBound := by decide
  obtain ⟨made, text, before, behind, split, offset, pointing⟩ :=
    message_points strict (.inl stop) fits
  have cut : Text.ofString "%*s%%5d " ++ ['%', 'q'] = before ++ '%' :: behind := split
  obtain ⟨rfl, rest⟩ := List.append_inj cut (offset.symm ▸ rfl)
  obtain ⟨-, rfl⟩ := List.cons.inj rest
  exact ⟨.inl stop, fits, congrArg Call.result made, text, pointing (by decide)⟩

end ParseError

end PercentFormat
