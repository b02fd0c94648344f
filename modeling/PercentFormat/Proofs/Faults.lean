import PercentFormat.Proofs.Demand

/-! # The faults of rendering

Each step that renders a directive can end in few faults only. None of them says that a template is
malformed: such a fault comes from a template itself, when it is refused.

* **`Fault.ofCoercions`**, **`Fault.ofPrecisions`**, **`Fault.ofRendering`** — the faults of the
  steps.
* **`Value.toText_fault`**, **`Value.toNumber_fault`**, **`Value.pieces_fault`**,
  **`Pieces.justify_fault`** — which of them a step ends in.
* **`renderTokens_fault`** — the faults that stop rendering. -/

namespace PercentFormat

/-! ## Kinds of faults -/

namespace Fault

/-- The faults of values that are not the numbers that they should be. -/
def ofCoercions : List Fault := [tooManyDigits, ratioTooLarge]

/-- The faults of precisions. -/
def ofPrecisions : List Fault := [precisionOutOfRange, precisionNotWhole]

/-- The faults that may stop the rendering of a directive. -/
def ofRendering : List Fault := ofCoercions ++ ofPrecisions ++ [paddingTooWide]

/-- No rendering ends in a malformed template. -/
theorem ne_malformed_of_mem {fault : Fault} (h : fault ∈ ofRendering) (error : ParseError) :
    fault ≠ .malformed error := by
  rintro rfl
  simp [ofRendering, ofCoercions, ofPrecisions] at h

end Fault

/-! ## Texts and numbers of values -/

/-- A whole number has a text unless it has too many digits. -/
theorem wholeText_fault {n : Int} {fault : Fault} (h : wholeText n = .error fault) :
    fault = .tooManyDigits := by
  unfold wholeText at h
  split at h
  · exact (Except.error.inj h).symm
  · simp at h

namespace Value

mutual

/-- A value can be shown unless it holds a whole number with too many digits. -/
theorem shown_fault {v : Value} {fault : Fault} (h : v.shown = .error fault) :
    fault = .tooManyDigits := by
  -- only whole numbers can fail, so each container passes on the fault of a part
  cases v with
  | whole n =>
    rw [shown] at h
    exact wholeText_fault h
  | ratio q =>
    rw [shown] at h
    rcases bind_eq_error_iff.1 h with num | ⟨num, -, h⟩
    · exact wholeText_fault num
    rcases bind_eq_error_iff.1 h with den | ⟨den, -, h⟩
    · exact wholeText_fault den
    · simp [pure, Except.pure] at h
  | list items =>
    rw [shown] at h
    rcases bind_eq_error_iff.1 h with parts | ⟨parts, -, h⟩
    · exact shownItems_fault parts
    · simp [pure, Except.pure] at h
  | tuple items =>
    rw [shown] at h
    rcases bind_eq_error_iff.1 h with parts | ⟨parts, -, h⟩
    · exact shownItems_fault parts
    · simp [pure, Except.pure] at h
  | dict entries =>
    rw [shown] at h
    rcases bind_eq_error_iff.1 h with parts | ⟨parts, -, h⟩
    · exact shownEntries_fault parts
    · simp [pure, Except.pure] at h
  | bool b => cases b <;> simp [shown] at h
  | _ => simp [shown] at h

/-- Items can be shown unless one of them cannot. -/
theorem shownItems_fault {items : List Value} {fault : Fault}
    (h : shownItems items = .error fault) : fault = .tooManyDigits := by
  cases items with
  | nil => simp [shownItems] at h
  | cons v rest =>
    rw [shownItems] at h
    rcases bind_eq_error_iff.1 h with part | ⟨part, -, h⟩
    · exact shown_fault part
    rcases bind_eq_error_iff.1 h with parts | ⟨parts, -, h⟩
    · exact shownItems_fault parts
    · simp [pure, Except.pure] at h

/-- Entries can be shown unless a key or a value cannot. -/
theorem shownEntries_fault {entries : List (Value × Value)} {fault : Fault}
    (h : shownEntries entries = .error fault) : fault = .tooManyDigits := by
  cases entries with
  | nil => simp [shownEntries] at h
  | cons entry rest =>
    obtain ⟨k, v⟩ := entry
    rw [shownEntries] at h
    rcases bind_eq_error_iff.1 h with key | ⟨key, -, h⟩
    · exact shown_fault key
    rcases bind_eq_error_iff.1 h with part | ⟨part, -, h⟩
    · exact shown_fault part
    rcases bind_eq_error_iff.1 h with parts | ⟨parts, -, h⟩
    · exact shownEntries_fault parts
    · simp [pure, Except.pure] at h

end

/-- A value has a text unless it holds a whole number with too many digits. -/
theorem toText_fault {v : Value} {fault : Fault} (h : v.toText = .error fault) :
    fault = .tooManyDigits := by
  cases v with
  | text t => simp [toText] at h
  | missing => simp [toText] at h
  | ratio q =>
    rw [toText] at h
    rcases bind_eq_error_iff.1 h with num | ⟨num, -, h⟩
    · exact wholeText_fault num
    · split at h
      · simp [pure, Except.pure] at h
      · rcases bind_eq_error_iff.1 h with den | ⟨den, -, h⟩
        · exact wholeText_fault den
        · simp [pure, Except.pure] at h
  | _ => exact shown_fault h

/-- A ratio has a nearest double unless it is beyond the doubles. -/
theorem ofNearest_fault {negative : Bool} {nearest : Option Magnitude} {fault : Fault}
    (h : ofNearest negative nearest = .error fault) : fault = .ratioTooLarge := by
  cases nearest with
  | none => exact (Except.error.inj h).symm
  | some x => contradiction

/-- A value stands for a number unless it has no text or is a ratio beyond the doubles. -/
theorem toNumber_fault {v : Value} {fault : Fault} (h : v.toNumber = .error fault) :
    fault ∈ Fault.ofCoercions := by
  unfold toNumber at h
  split at h
  · simp at h
  · simp at h
  · simp at h
  · rw [ofNearest_fault h]
    simp [Fault.ofCoercions]
  · rw [toText_fault (map_eq_error_iff.1 h)]
    simp [Fault.ofCoercions]

/-- A value stands for a whole number unless it stands for no number. -/
theorem toInteger_fault {v : Value} {fault : Fault} (h : v.toInteger = .error fault) :
    fault ∈ Fault.ofCoercions :=
  toNumber_fault (map_eq_error_iff.1 h)

/-- A value is a precision unless it is no whole number or out of range. -/
theorem precision_fault {v : Value} {fault : Fault} (h : v.precision = .error fault) :
    fault ∈ Fault.ofPrecisions := by
  unfold precision at h
  split at h
  · simp at h
  · split at h
    · simp at h
    · obtain rfl := Except.error.inj h
      simp [Fault.ofPrecisions]
  · obtain rfl := Except.error.inj h
    simp [Fault.ofPrecisions]

end Value

/-! ## Fields -/

/-- A double can be written unless its precision is none. -/
theorem doublePieces_fault {flags : Flags} {style : RealStyle} {precision : Value} {x : Double}
    {fault : Fault} (h : doublePieces flags style precision x = .error fault) :
    fault ∈ Fault.ofPrecisions := by
  cases x with
  | finite negative magnitude => exact Value.precision_fault (map_eq_error_iff.1 h)
  | _ => simp [doublePieces] at h

/-- A number without its sign can be written unless its precision is none. -/
theorem unsignedPieces_fault {s : Settings} {style : Style} {flags : Flags}
    {precision : Option Value} {n : Number} {fault : Fault}
    (h : unsignedPieces s style flags precision n = .error fault) :
    fault ∈ Fault.ofPrecisions := by
  unfold unsignedPieces at h
  split at h
  · simp at h
  · simp at h
  · exact doublePieces_fault h
  · exact doublePieces_fault h
  · exact doublePieces_fault h

/-- A value can be written as a number unless it stands for none or its precision is none. -/
theorem Value.pieces_fault {s : Settings} {form : NumberForm} {flags : Flags}
    {precision : Option Value} {v : Value} {fault : Fault}
    (h : v.pieces s form flags precision = .error fault) :
    fault ∈ Fault.ofCoercions ++ Fault.ofPrecisions := by
  rcases bind_eq_error_iff.1 h with number | ⟨n, -, h⟩
  · exact List.mem_append_left _ (toNumber_fault number)
  · rcases bind_eq_error_iff.1 h with unsigned | ⟨unsigned, -, h⟩
    · exact List.mem_append_right _ (unsignedPieces_fault unsigned)
    · simp [pure, Except.pure] at h

/-- Pieces can be padded unless the padding is too wide. -/
theorem Pieces.justify_fault {p : Pieces} {flags : Flags} {width : Int} {fault : Fault}
    (h : p.justify flags width = .error fault) : fault = .paddingTooWide := by
  unfold justify at h
  dsimp only at h
  split at h
  · simp at h
  · split at h
    · exact (Except.error.inj h).symm
    · simp at h

/-- A width or a precision is a number unless its value stands for none. -/
theorem Parameter.number_fault {p : Parameter} {v : Value} {fault : Fault}
    (h : p.number v = .error fault) : fault ∈ Fault.ofCoercions := by
  cases p with
  | absent => contradiction
  | given n => contradiction
  | fromArgument => exact Value.toInteger_fault (map_eq_error_iff.1 h)

namespace Directive

/-- A value can be converted unless it has no text, stands for no number, or its precision is
none. -/
theorem convert_fault {s : Settings} {d : Directive} {precision : Option Int} {v : Value}
    {fault : Fault} (h : d.convert s precision v = .error fault) :
    fault ∈ Fault.ofCoercions ++ Fault.ofPrecisions := by
  unfold convert at h
  split at h
  · simp at h
  · rw [Value.toText_fault (map_eq_error_iff.1 h)]
    simp [Fault.ofCoercions]
  · rw [Value.toText_fault (map_eq_error_iff.1 h)]
    simp [Fault.ofCoercions]
  · exact Value.pieces_fault h
  · simp at h

/-- The faults of a field. -/
theorem field_fault {s : Settings} {d : Directive} {width precision v : Value} {fault : Fault}
    (h : d.field s width precision v = .error fault) : fault ∈ Fault.ofRendering := by
  have coercion {fault : Fault} (h : fault ∈ Fault.ofCoercions) : fault ∈ Fault.ofRendering :=
    List.mem_append_left _ (List.mem_append_left _ h)
  rcases bind_eq_error_iff.1 h with first | ⟨w, -, h⟩
  · exact coercion (Parameter.number_fault first)
  rcases bind_eq_error_iff.1 h with second | ⟨p, -, h⟩
  · exact coercion (Parameter.number_fault second)
  rcases bind_eq_error_iff.1 h with converted | ⟨pieces, -, h⟩
  · exact List.mem_append_left _ (convert_fault converted)
  · split at h
    · simp [pure, Except.pure] at h
    · rw [Pieces.justify_fault h]
      simp [Fault.ofRendering]

end Directive

/-! ## Tokens -/

/-- The faults of a token. -/
theorem Token.render_fault {s : Settings} {token : Token} {c c' : Cursor} {fault : Fault}
    (h : (token.render s).run c = (.error fault, c')) : fault ∈ Fault.ofRendering := by
  cases token with
  | literal run =>
    obtain ⟨none, -⟩ := Prod.mk.inj h
    contradiction
  | directive o =>
    rw [Token.render, Directive.run_render] at h
    exact Directive.field_fault (Prod.mk.inj h).1

/-- **The faults that stop rendering** are those of values, of precisions and of padding. -/
theorem renderTokens_fault {s : Settings} {tokens : List Token} {c : Cursor} {fault : Fault}
    (h : (renderTokens s tokens c).fault? = some fault) : fault ∈ Fault.ofRendering := by
  induction tokens generalizing c with
  | nil => simp at h
  | cons token rest ih =>
    rcases token.run_cases s c with ⟨text, c', run⟩ | ⟨arisen, c', run⟩
    · rw [renderTokens_cons_of_ok rest run] at h
      exact ih h
    · rw [renderTokens_cons_of_error rest run] at h
      obtain rfl := Option.some.inj h
      exact Token.render_fault run

end PercentFormat
