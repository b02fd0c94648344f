import PercentFormat.Proofs.Pattern
import PercentFormat.Proofs.Spelling

/-! # The patterns of pieces and of directives

One pattern cuts a template into pieces, and another one splits a directive into its parts. Flags
are tried as long a run as possible, so a zero in front of a width is tried as a flag first, and
where that leads to a directive, no other way is taken. Where it does not, no other way leads to one
either, since a text begins with one directive at most.

* **`Pattern.token`**, **`Pattern.directive`** — the two patterns.
* **`Pattern.front?_directive_eq`** — a directive is taken first with the parts that are scanned.
* **`Pattern.full?_directive_eq`** — the texts that are taken to their ends.
* **`Pattern.front?_token_eq`** — a piece is taken first as its lexeme.
* **`Pattern.isSome_search?_token`** — a piece is found where some lexeme begins. -/

namespace PercentFormat

/-! ## The two patterns -/

/-- The letters of length modifiers. -/
def Length.letters : Text := ['h', 'l', 'L']

/-- The letters of specifiers. -/
def Specifier.letters : Text :=
  ['c', 'd', 'i', 'e', 'E', 'f', 'g', 'G', 'o', 's', 'u', 'x', 'X', 'p', 'n', '%', '@']

namespace Pattern

/-- A run of digits, or a star. -/
def number : Pattern :=
  either (seq (one isDecimalDigit) (many isDecimalDigit)) (one (· == '*'))

/-- The pattern of a piece of a template: a literal, which is group 1, or a directive, which is
group 2. -/
def token : Pattern :=
  either (group 1 (seq (one isPlain) (many isPlain)))
    (group 2 (seq (one (· == '%')) (seq (many (· ∈ Flags.letters))
      (seq (optional number) (seq (optional (seq (one (· == '.')) number))
        (seq (optional (one (· ∈ Length.letters))) (one (· ∈ Specifier.letters))))))))

/-- The pattern of a directive. Its groups are the flags, the width, the precision, the length
modifier and the specifier. -/
def directive : Pattern :=
  seq (one (· == '%')) (seq (group 1 (many (· ∈ Flags.letters)))
    (seq (optional (group 2 number)) (seq (optional (seq (one (· == '.')) (group 3 number)))
      (seq (group 4 (optional (one (· ∈ Length.letters))))
        (group 5 (one (· ∈ Specifier.letters)))))))

/-- Without its groups, the pattern of a directive is the one in the pattern of a piece. -/
theorem token_eq :
    token = either (group 1 (seq (one isPlain) (many isPlain))) (group 2 directive.plain) := rfl

end Pattern

/-- The letters of length modifiers are those that stand for one. -/
theorem Length.mem_letters_iff (c : Char) : c ∈ letters ↔ ∃ l : Length, l.letter = c := by
  constructor
  · intro member
    have known : ∀ c ∈ letters, c = 'h' ∨ c = 'l' ∨ c = 'L' := by simp [letters]
    rcases known c member with rfl | rfl | rfl
    · exact ⟨.short, rfl⟩
    · exact ⟨.long, rfl⟩
    · exact ⟨.longDouble, rfl⟩
  · rintro ⟨l, rfl⟩
    cases l <;> decide

/-- The letters of specifiers are those that stand for one. -/
theorem Specifier.mem_letters_iff (c : Char) : c ∈ letters ↔ ∃ s : Specifier, s.letter = c := by
  constructor
  · intro member
    have known : ∀ c ∈ letters, (ofLetter? c).isSome = true :=
      List.all_eq_true.1 rfl
    obtain ⟨s, found⟩ := Option.isSome_iff_exists.1 (known c member)
    exact ⟨s, letter_of_ofLetter? found⟩
  · rintro ⟨s, rfl⟩
    cases s <;> decide

/-! ## What the groups keep -/

/-- A width or a precision as it is kept under a number. -/
def Written.kept (number : Nat) : Written → List (Nat × Text)
  | absent => []
  | w => [(number, w.text)]

/-- The text of a length modifier that may be left out. -/
def Length.textOf (length : Option Length) : Text := (length.map letter).toList

/-- The parts of a spelling as the groups keep them. -/
def Spelling.kept (s : Spelling) : List (Nat × Text) :=
  (5, [s.specifier.letter]) :: (4, Length.textOf s.length)
    :: (s.precision.kept 3 ++ s.width.kept 2 ++ [(1, s.flags)])

namespace Pattern

variable {t : Text} {w : Way}

/-- There is no width or precision where a text starts with no digit and no star. -/
theorem ways_number_eq_nil
    (outside : StartsOutside (fun c => isDecimalDigit c || c == '*') t) : number.ways t = [] := by
  have noDigit : StartsOutside isDecimalDigit t := fun c first =>
    (Bool.or_eq_false_iff.1 (outside c first)).1
  have noStar : StartsOutside (· == '*') t := fun c first =>
    (Bool.or_eq_false_iff.1 (outside c first)).2
  rw [number, ways_either, ways_seq_eq_nil (ways_one_eq_nil noDigit), ways_one_eq_nil noStar,
    List.append_nil]

/-- A width or a precision is taken to its end. -/
theorem front?_number {v : Written} (valid : v.Valid) (present : v ≠ .absent)
    (outside : StartsOutside (fun c => isDecimalDigit c || c == '*') t) :
    number.front? (v.text ++ t) = some ⟨[], v.text, t⟩ := by
  cases v with
  | absent => exact absurd rfl present
  | star =>
    -- a star is no digit, so the second alternative is left
    have noDigit : StartsOutside isDecimalDigit ('*' :: t) :=
      startsOutside_cons isDecimalDigit_star
    change number.front? ('*' :: t) = _
    rw [number, front?_either_right (ways_seq_eq_nil (ways_one_eq_nil noDigit))]
    exact front?_one (by decide) t
  | digits run =>
    obtain ⟨nonempty, inside⟩ := valid
    cases run with
    | nil => exact absurd rfl nonempty
    | cons c run =>
      have noDigit : StartsOutside isDecimalDigit t := fun c first =>
        (Bool.or_eq_false_iff.1 (outside c first)).1
      have first := front?_one (inside c (by simp)) (run ++ t)
      have digits : ∀ d ∈ run, isDecimalDigit d = true := fun d member =>
        inside d (List.mem_cons_of_mem c member)
      have rest := front?_many digits noDigit
      exact front?_either_left (front?_seq first rest)

/-- What is taken as a width or a precision may be written. -/
theorem exists_of_mem_ways_number (h : w ∈ number.ways t) :
    ∃ v : Written, v.Valid ∧ v ≠ .absent ∧ w.kept = [] ∧ w.text = v.text := by
  rcases mem_ways_either.1 h with digits | star
  · obtain ⟨first, here, others, more, rfl⟩ := mem_ways_seq.1 digits
    obtain ⟨c, rest, digit, -, rfl⟩ := mem_ways_one.1 here
    obtain ⟨kept, inside⟩ := mem_ways_many more
    refine ⟨.digits (c :: others.text), ⟨by simp, fun d member => ?_⟩, by simp, ?_, rfl⟩
    · rcases List.mem_cons.1 member with rfl | later
      · exact digit
      · exact inside d later
    · rw [Way.append, kept]
      rfl
  · obtain ⟨c, rest, isStar, -, rfl⟩ := mem_ways_one.1 star
    obtain rfl := eq_of_beq isStar
    exact ⟨.star, trivial, by simp, rfl, rfl⟩

/-- A width that may be left out is taken to its end. -/
theorem front?_optional_group_number {v : Written} (valid : v.Valid) (k : Nat)
    (outside : StartsOutside (fun c => isDecimalDigit c || c == '*') t) :
    (optional (group k number)).front? (v.text ++ t) = some ⟨v.kept k, v.text, t⟩ := by
  by_cases absent : v = .absent
  · subst absent
    have nothing : (group k number).ways t = [] := by
      rw [ways_group, ways_number_eq_nil outside, List.map_nil]
    exact front?_optional_of_nil nothing
  · have taken := front?_optional_of_some (front?_group k (front?_number valid absent outside))
    rw [taken]
    cases v with
    | absent => exact absurd rfl absent
    | star => rfl
    | digits run => rfl

/-- A precision that may be left out is taken to its end. -/
theorem front?_optional_precision {v : Written} (valid : v.Valid) (k : Nat)
    (outside : StartsOutside (fun c => isDecimalDigit c || c == '*') t)
    (noPoint : StartsOutside (· == '.') t) :
    (optional (seq (one (· == '.')) (group k number))).front? (Spelling.pointed v ++ t)
      = some ⟨v.kept k, Spelling.pointed v, t⟩ := by
  by_cases absent : v = .absent
  · subst absent
    exact front?_optional_of_nil (ways_seq_eq_nil (ways_one_eq_nil noPoint))
  · have point := front?_one (p := (· == '.')) (c := '.') rfl (v.text ++ t)
    have taken := front?_optional_of_some
      (front?_seq point (front?_group k (front?_number valid absent outside)))
    cases v with
    | absent => exact absurd rfl absent
    | star => exact taken
    | digits run => exact taken

/-- What is taken as a width that may be left out may be written. -/
theorem exists_of_mem_ways_optional {k : Nat} (h : w ∈ (optional (group k number)).ways t) :
    ∃ v : Written, v.Valid ∧ w.kept = v.kept k ∧ w.text = v.text := by
  rcases mem_ways_optional.1 h with taken | rfl
  · obtain ⟨u, here, rfl⟩ := mem_ways_group.1 taken
    obtain ⟨v, valid, present, kept, text⟩ := exists_of_mem_ways_number here
    refine ⟨v, valid, ?_, text⟩
    rw [Way.keep, kept, text]
    cases v with
    | absent => exact absurd rfl present
    | star => rfl
    | digits run => rfl
  · exact ⟨.absent, trivial, rfl, rfl⟩

/-- What is taken as a precision that may be left out may be written, behind a point. -/
theorem exists_of_mem_ways_precision {k : Nat}
    (h : w ∈ (optional (seq (one (· == '.')) (group k number))).ways t) :
    ∃ v : Written, v.Valid ∧ w.kept = v.kept k ∧ w.text = Spelling.pointed v := by
  rcases mem_ways_optional.1 h with taken | rfl
  · obtain ⟨point, here, behind, more, rfl⟩ := mem_ways_seq.1 taken
    obtain ⟨c, rest, isPoint, -, rfl⟩ := mem_ways_one.1 here
    obtain rfl := eq_of_beq isPoint
    obtain ⟨u, inNumber, rfl⟩ := mem_ways_group.1 more
    obtain ⟨v, valid, present, kept, text⟩ := exists_of_mem_ways_number inNumber
    refine ⟨v, valid, ?_, ?_⟩
    · rw [Way.append, Way.keep, kept, text]
      cases v with
      | absent => exact absurd rfl present
      | star => rfl
      | digits run => rfl
    · rw [Way.append, Way.keep, text]
      cases v with
      | absent => exact absurd rfl present
      | star => rfl
      | digits run => rfl
  · exact ⟨.absent, trivial, rfl, rfl⟩

/-! ## Directives -/

/-- The end of a directive is taken with its length modifier and its specifier. -/
theorem front?_ending (length : Option Length) (specifier : Specifier) (rest : Text) :
    (seq (group 4 (optional (one (· ∈ Length.letters))))
        (group 5 (one (· ∈ Specifier.letters)))).front? (Spelling.ending length specifier rest)
      = some ⟨[(5, [specifier.letter]), (4, Length.textOf length)],
          Length.textOf length ++ [specifier.letter], rest⟩ := by
  have inLetters : decide (specifier.letter ∈ Specifier.letters) = true :=
    decide_eq_true ((Specifier.mem_letters_iff _).2 ⟨specifier, rfl⟩)
  have last := front?_group 5 (front?_one (p := (· ∈ Specifier.letters)) inLetters rest)
  cases length with
  | none =>
    -- no specifier is a length modifier
    have other : StartsOutside (fun c => decide (c ∈ Length.letters)) (specifier.letter :: rest) :=
      startsOutside_cons (by cases specifier <;> decide)
    exact front?_seq (front?_group 4 (front?_optional_of_nil (ways_one_eq_nil other))) last
  | some l =>
    have inLength : decide (l.letter ∈ Length.letters) = true :=
      decide_eq_true ((Length.mem_letters_iff _).2 ⟨l, rfl⟩)
    have first := front?_one (p := (· ∈ Length.letters)) inLength (specifier.letter :: rest)
    exact front?_seq (front?_group 4 (front?_optional_of_some first)) last

/-- The text of a valid spelling is taken as a directive first, with its parts in the groups. -/
theorem front?_directive {s : Spelling} (valid : s.Valid) (rest : Text) :
    directive.front? (s.text ++ rest) = some ⟨s.kept, s.text, rest⟩ := by
  obtain ⟨continues, flag⟩ :=
    Spelling.pointed_append_outside s.precision s.length s.specifier rest
  have flagsEnd := Spelling.width_outside valid.width valid.widthHead flag
  have inFlags : ∀ c ∈ s.flags, decide (c ∈ Flags.letters) = true := fun c member =>
    decide_eq_true (valid.flags c member)
  -- the end of a directive continues no precision, and there is no second point
  obtain ⟨c, t, same, digit, -, point⟩ := Spelling.exists_ending s.length s.specifier rest
  have endOutside : StartsOutside (fun c => isDecimalDigit c || c == '*')
      (Spelling.ending s.length s.specifier rest) := same ▸ startsOutside_cons digit
  have noPoint : StartsOutside (· == '.') (Spelling.ending s.length s.specifier rest) :=
    same ▸ startsOutside_cons (beq_false_of_ne point)
  have ending := front?_ending s.length s.specifier rest
  have precision := front?_seq (front?_optional_precision valid.precision 3 endOutside noPoint)
    ending
  have width := front?_seq (front?_optional_group_number valid.width 2 continues) precision
  have flags := front?_seq (front?_group 1 (front?_many inFlags flagsEnd)) width
  have percent := front?_seq (front?_one (p := (· == '%')) (c := '%') rfl _) flags
  rw [s.text_append]
  refine percent.trans (congrArg some ?_)
  simp [Way.append, Way.keep, Spelling.kept, Spelling.text, Length.textOf]

/-- What is taken as a directive is one, with its parts in the groups. -/
theorem exists_of_mem_ways_directive (h : w ∈ directive.ways t) :
    ∃ s : Spelling, s.Grammatical ∧ w.kept = s.kept ∧ w.text = s.text := by
  obtain ⟨percent, isPercent, behindPercent, inParts, rfl⟩ := mem_ways_seq.1 h
  obtain ⟨flags, inFlags, behindFlags, inNumbers, rfl⟩ := mem_ways_seq.1 inParts
  obtain ⟨width, inWidth, behindWidth, inRest, rfl⟩ := mem_ways_seq.1 inNumbers
  obtain ⟨precision, inPrecision, ending, inEnding, rfl⟩ := mem_ways_seq.1 inRest
  obtain ⟨length, inLength, specifier, inSpecifier, rfl⟩ := mem_ways_seq.1 inEnding
  obtain ⟨c, _, here, -, rfl⟩ := mem_ways_one.1 isPercent
  obtain rfl := eq_of_beq here
  obtain ⟨run, inRun, rfl⟩ := mem_ways_group.1 inFlags
  obtain ⟨runKept, letters⟩ := mem_ways_many inRun
  obtain ⟨v, validWidth, widthKept, widthText⟩ := exists_of_mem_ways_optional inWidth
  obtain ⟨u, validPrecision, precisionKept, precisionText⟩ :=
    exists_of_mem_ways_precision inPrecision
  obtain ⟨m, lengthKept, lengthText⟩ : ∃ m : Option Length,
      length.kept = [(4, Length.textOf m)] ∧ length.text = Length.textOf m := by
    obtain ⟨l, inOptional, rfl⟩ := mem_ways_group.1 inLength
    rcases mem_ways_optional.1 inOptional with taken | rfl
    · obtain ⟨c, _, member, -, rfl⟩ := mem_ways_one.1 taken
      obtain ⟨m, rfl⟩ := (Length.mem_letters_iff c).1 (of_decide_eq_true member)
      exact ⟨some m, rfl, rfl⟩
    · exact ⟨none, rfl, rfl⟩
  obtain ⟨last, inLast, rfl⟩ := mem_ways_group.1 inSpecifier
  obtain ⟨d, _, member, -, rfl⟩ := mem_ways_one.1 inLast
  obtain ⟨k, rfl⟩ := (Specifier.mem_letters_iff d).1 (of_decide_eq_true member)
  refine ⟨⟨run.text, v, u, m, k⟩,
    ⟨fun c taken => of_decide_eq_true (letters c taken), validWidth, validPrecision⟩, ?_, ?_⟩
  · simp [Way.append, Way.keep, Spelling.kept, runKept, widthKept, precisionKept, lengthKept]
  · simp [Way.append, Way.keep, Spelling.text, widthText, precisionText, lengthText, Length.textOf]

/-- What is taken as a directive is scanned as one that ends at the same place. -/
theorem exists_scan?_of_mem_ways (h : w ∈ directive.ways t) :
    ∃ s : Spelling, Spelling.scan? t = some (s, w.rest) := by
  obtain ⟨s, allowed, -, text⟩ := exists_of_mem_ways_directive h
  have whole := text_append_rest h
  rw [text, ← s.text_canonical] at whole
  rw [← whole]
  exact ⟨s.canonical, Spelling.scan?_text_append allowed.valid_canonical w.rest⟩

/-- A directive is taken first as it is scanned. -/
theorem front?_directive_eq (t : Text) :
    directive.front? t = (Spelling.scan? t).map fun (s, rest) => ⟨s.kept, s.text, rest⟩ := by
  cases scanned : Spelling.scan? t with
  | none =>
    have nothing : directive.ways t = [] := by
      refine List.eq_nil_iff_forall_not_mem.2 fun w taken => ?_
      obtain ⟨s, found⟩ := exists_scan?_of_mem_ways taken
      rw [scanned] at found
      contradiction
    rw [front?, nothing]
    rfl
  | some found =>
    obtain ⟨s, rest⟩ := found
    rw [Option.map_some, ← Spelling.scan?_text scanned]
    exact front?_directive (Spelling.valid_of_scan? scanned) rest

/-- All of a text is taken as a directive if it is scanned to its end. -/
theorem full?_directive_eq (t : Text) :
    directive.full? t
      = match Spelling.scan? t with
        | some (s, []) => some ⟨s.kept, t, []⟩
        | _ => none := by
  cases full : directive.full? t with
  | none =>
    split
    · rename_i s scanned
      -- the first way takes all of the text
      have first := front?_directive_eq t
      rw [scanned] at first
      have none := List.find?_eq_none.1 full _ (List.mem_of_mem_head? first)
      simp at none
    · rfl
  | some w =>
    have ends : w.rest = [] := by simpa using List.find?_some full
    obtain ⟨s, scanned⟩ := exists_scan?_of_mem_ways (List.mem_of_find?_eq_some full)
    have first := front?_directive_eq t
    rw [ends] at scanned
    rw [scanned] at first ⊢
    obtain ⟨others, ways⟩ := List.head?_eq_some_iff.1 first
    rw [full?, ways, List.find?_cons_of_pos (by simp)] at full
    have text := Spelling.scan?_text scanned
    rw [List.append_nil] at text
    simp only [← full, text]

/-! ## Pieces of a template -/

/-- The way of taking a lexeme. -/
def wayOf : Lexeme → Text → Way
  | .literal run, rest => ⟨[(1, run)], run, rest⟩
  | .directive s, rest => ⟨[(2, s.text)], s.text, rest⟩

/-- A piece of a template is taken first as its lexeme. -/
theorem front?_token_eq (t : Text) :
    token.front? t = (lexeme? t).map fun (l, rest) => wayOf l rest := by
  rw [token_eq]
  cases t with
  | nil => rfl
  | cons c t =>
    rw [lexeme?]
    by_cases plain : isPlain c = true
    · have inside : ∀ d ∈ t.takeWhile isPlain, isPlain d = true := fun d member =>
        List.all_eq_true.1 List.all_takeWhile d member
      have more := front?_many inside (Spelling.startsOutside_dropWhile isPlain t)
      rw [List.takeWhile_append_dropWhile] at more
      rw [if_pos plain]
      exact front?_either_left (front?_group 1 (front?_seq (front?_one plain t) more))
    · -- no literal starts with a percent sign
      have noLiteral : (group 1 (seq (one isPlain) (many isPlain))).ways (c :: t) = [] := by
        have outside : StartsOutside isPlain (c :: t) :=
          startsOutside_cons (Bool.eq_false_iff.2 plain)
        rw [ways_group, ways_seq_eq_nil (ways_one_eq_nil outside), List.map_nil]
      have same : (group 2 directive.plain).front? (c :: t)
          = (directive.front? (c :: t)).map fun w => w.plain.keep 2 := by
        rw [front?, ways_group, ways_plain, List.head?_map, List.head?_map, Option.map_map]
        rfl
      rw [if_neg plain, front?_either_right noLiteral, same, front?_directive_eq, Option.map_map,
        Option.map_map]
      rfl

/-- A piece is found if and only if a lexeme begins somewhere in the text. -/
theorem isSome_search?_token (t : Text) : (token.search? t).isSome = hasLexeme t := by
  induction t with
  | nil => rfl
  | cons c t ih =>
    rw [hasLexeme]
    cases found : lexeme? (c :: t) with
    | none =>
      have none : token.front? (c :: t) = none := by rw [front?_token_eq, found, Option.map_none]
      rw [search?_cons_of_none none, Option.isSome_map, ih]
      rfl
    | some lexed =>
      have first := front?_token_eq (c :: t)
      rw [found, Option.map_some] at first
      rw [search?_of_front? first]
      rfl

end Pattern

end PercentFormat
