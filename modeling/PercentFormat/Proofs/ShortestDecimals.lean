import PercentFormat.Proofs.FixedNotation
import PercentFormat.Proofs.NearestMagnitude

/-! # The shortest decimals of doubles

The shortest decimal of a magnitude is searched for among the two neighbours of the magnitude with
one digit, with two digits, and so on. This does not miss any decimal, since what lies between a
decimal and the magnitude that it is rounded to is rounded to it as well. So of all decimals that
are rounded to the magnitude, the shortest one has the fewest digits, and of those with as few it is
the nearest one.

* **`Decimal.toRat`** — the number that a decimal is.
* **`Decimal.ReadsBack.of_between`** — what lies between a decimal and its magnitude.
* **`Magnitude.exists_readingBack?_eq`** — what is found with so many places.
* **`Magnitude.readsBack_seventeen`** — seventeen digits always suffice.
* **`Magnitude.readsBack_shortest`** — the shortest decimal is rounded to its magnitude.
* **`Magnitude.shortest_fewest`** — it has the fewest digits.
* **`Magnitude.isReduced_shortest`** — it has no zeros at its end. -/

namespace PercentFormat

/-! ## Decimals as numbers -/

namespace Decimal

/-- The **number that a decimal is**. -/
def toRat (d : Decimal) : ℚ := d.digits * 10 ^ d.exponent

/-- A decimal is **reduced** if its last digit is no zero, or if it is the plain zero. -/
def IsReduced (d : Decimal) : Prop := d.digits % 10 ≠ 0 ∨ d = ⟨0, 0⟩

/-- A decimal is rounded to a magnitude if this is the nearest one, and if it is not too large. -/
theorem readsBack_iff {d : Decimal} {x : Magnitude} :
    d.ReadsBack x ↔ x.IsNearest d.toRat ∧ d.toRat < overflowBound :=
  Magnitude.ofDecimal?_eq_some_iff

/-- Zeros at the end of its digits do not change what a decimal is. -/
theorem toRat_dropZeros (d : Decimal) : d.dropZeros.toRat = d.toRat := by
  induction d using dropZeros.induct with
  | case1 d zero ih =>
    have digits : d.digits / 10 * 10 = d.digits :=
      Nat.div_mul_cancel (Nat.dvd_of_mod_eq_zero zero.2)
    rw [dropZeros, dif_pos zero, ih, toRat, toRat, zpow10_add, zpow_one]
    nth_rewrite 2 [← digits]
    push_cast
    ring
  | case2 d other => rw [dropZeros, dif_neg other]

/-- Without these zeros the last digit is no zero, unless there is no other. -/
theorem dropZeros_digits (d : Decimal) :
    d.dropZeros.digits % 10 ≠ 0 ∨ d.dropZeros.digits = 0 := by
  induction d using dropZeros.induct with
  | case1 d zero ih => rwa [dropZeros, dif_pos zero]
  | case2 d other =>
    rw [dropZeros, dif_neg other]
    omega

/-- Without zeros at their end, digits are no more than before. -/
theorem digits_dropZeros_le (d : Decimal) : d.dropZeros.digits ≤ d.digits := by
  induction d using dropZeros.induct with
  | case1 d zero ih =>
    rw [dropZeros, dif_pos zero]
    exact ih.trans (Nat.div_le_self _ _)
  | case2 d other => rw [dropZeros, dif_neg other]

/-- Without zeros at its end, a decimal of no more than a power of ten has as few digits as the
numbers below it. -/
theorem length_numeral_dropZeros_le {d : Decimal} {further : ℕ}
    (few : d.digits ≤ pow10 (further + 1)) : d.dropZeros.numeral.length ≤ further + 1 := by
  refine (Numeral.length_decimal_le_iff (Nat.succ_pos further)).2 ?_
  refine lt_of_le_of_ne (d.digits_dropZeros_le.trans few) fun same => ?_
  have power : pow10 (further + 1) % 10 = 0 := by rw [pow10_succ, Nat.mul_mod_left]
  have positive := pow10_pos (further + 1)
  rcases d.dropZeros_digits with other | zero
  · rw [same] at other
    exact other power
  · rw [zero] at same
    exact absurd same positive.ne

/-- At one exponent, decimals are ordered as their digits are. -/
theorem toRat_le_toRat {m n : ℕ} {e : ℤ} (le : m ≤ n) :
    (⟨m, e⟩ : Decimal).toRat ≤ (⟨n, e⟩ : Decimal).toRat :=
  mul_le_mul_of_nonneg_right (Nat.cast_le.2 le) (zpow10_pos e).le

/-- A power of ten as a decimal. -/
theorem toRat_pow10 (k : ℕ) (e : ℤ) : (⟨pow10 k, e⟩ : Decimal).toRat = 10 ^ (k + e) := by
  rw [toRat, cast_pow10, ← zpow_natCast, ← zpow10_add]

end Decimal

/-! ## Between a decimal and a magnitude -/

namespace Magnitude

/-- The overflow bound in units, for so many units for one. -/
theorem overflowUnits_eq : overflowUnits = overflowBound * unitsPerOne := by
  rw [overflowUnits, overflowBound, unitsPerOne, Nat.sub_mul, ← pow2_add, ← pow2_add]

/-- The greatest magnitude is half its spacing below the overflow bound. -/
theorem units_add_le_overflowUnits (x : Magnitude) : x.units + pow2 2044 ≤ overflowUnits := by
  have first : pow2 2098 = pow2 53 * pow2 2045 := pow2_add 53 2045
  have second : pow2 2045 = pow2 2044 * 2 := pow2_succ 2044
  have third : pow2 2098 = pow2 2097 * 2 := pow2_succ 2097
  have less : pow2 2044 ≤ pow2 2096 := pow2_le_pow2 (by decide)
  have more : pow2 2097 = pow2 2096 * 2 := pow2_succ 2096
  have bound : x.units < pow2 2098 := x.fits.1
  rw [overflowUnits]
  -- in the last binary order of doubles the magnitudes are multiples of the last spacing
  rcases dvd_or_lt_of_fitsDouble x.fits 2045 with ⟨j, grid⟩ | small
  · rw [grid, Nat.mul_comm, first] at bound
    have most : j + 1 ≤ pow2 53 := Nat.lt_of_mul_lt_mul_right bound
    have top := Nat.mul_le_mul_right (pow2 2045) most
    rw [grid, Nat.mul_comm, first]
    rw [Nat.succ_mul] at top
    omega
  · have small' : x.units < pow2 2097 := small
    omega

/-- A magnitude is below the overflow bound. -/
theorem toRat_lt_overflowBound (x : Magnitude) : x.toRat < overflowBound := by
  rw [toRat, div_lt_iff₀ (Nat.cast_pos.2 unitsPerOne_pos), ← Nat.cast_mul, ← overflowUnits_eq]
  have room := x.units_add_le_overflowUnits
  have half := pow2_pos 2044
  exact Nat.cast_lt.2 (by omega)

end Magnitude

/-- A decimal between another one and its magnitude is rounded to the magnitude as well. -/
theorem Decimal.ReadsBack.of_between {d r : Decimal} {x : Magnitude} (rounded : d.ReadsBack x)
    (between : r.toRat ∈ Set.uIcc d.toRat x.toRat) : r.ReadsBack x := by
  obtain ⟨near, fits⟩ := readsBack_iff.1 rounded
  refine readsBack_iff.2 ⟨near.of_between between, ?_⟩
  rcases Set.mem_uIcc.1 between with ⟨-, le⟩ | ⟨-, le⟩
  · exact le.trans_lt x.toRat_lt_overflowBound
  · exact le.trans_lt fits

/-! ## Neighbours -/

namespace Magnitude

variable {x : Magnitude} {places : ℤ}

/-- The two neighbours lie on either side of the magnitude, one unit of the last place apart. -/
theorem exists_neighbours_eq (x : Magnitude) (places : ℤ) :
    ∃ floor other, x.neighbours places = [⟨x.atPlaces places, -places⟩, ⟨other, -places⟩]
      ∧ (x.atPlaces places = floor ∧ other = floor + 1
        ∨ x.atPlaces places = floor + 1 ∧ other = floor)
      ∧ (floor : ℚ) * 10 ^ (-places) ≤ x.toRat
      ∧ x.toRat < ((floor + 1 : ℕ) : ℚ) * 10 ^ (-places) := by
  have positive : 0 < (x.scaled places).2 :=
    Nat.mul_pos unitsPerOne_pos (pow10_pos (-places).toNat)
  have unit : (0 : ℚ) < (x.scaled places).2 := Nat.cast_pos.2 positive
  have power := zpow10_pos places
  have quotient := x.scaled_div places
  refine ⟨(x.scaled places).1 / (x.scaled places).2, _, rfl, ?_, ?_, ?_⟩
  · rcases roundHalfEven_eq_or (x.scaled places).1 (x.scaled places).2 with down | up
    · exact .inl ⟨down, if_pos down⟩
    · refine .inr ⟨up, if_neg ?_⟩
      rw [atPlaces, up]
      exact Nat.succ_ne_self _
  · rw [zpow_neg, ← div_eq_mul_inv, div_le_iff₀ power, ← quotient, le_div_iff₀ unit]
    exact_mod_cast Nat.div_mul_le_self _ _
  · rw [zpow_neg, ← div_eq_mul_inv, lt_div_iff₀ power, ← quotient, div_lt_iff₀ unit]
    exact_mod_cast Nat.lt_mul_of_div_lt (Nat.lt_succ_self _) positive

/-- The distance of a magnitude from a decimal with so many places. -/
theorem abs_sub_decimal (x : Magnitude) (places : ℤ) (c : ℕ) :
    |x.toRat - (⟨c, -places⟩ : Decimal).toRat|
      = |x.toRat * 10 ^ places - c| * 10 ^ (-places) := by
  rw [← abs_of_pos (zpow10_pos (-places)), ← abs_mul, sub_mul, mul_assoc, ← zpow10_add,
    add_neg_cancel, zpow_zero, mul_one, Decimal.toRat]

/-- Of the decimals with so many places, none is nearer than the nearer neighbour. -/
theorem abs_sub_atPlaces_le (x : Magnitude) (places : ℤ) (c : ℕ) :
    |x.toRat - (⟨x.atPlaces places, -places⟩ : Decimal).toRat|
      ≤ |x.toRat - (⟨c, -places⟩ : Decimal).toRat| := by
  rw [abs_sub_decimal, abs_sub_decimal]
  have nearest := (x.isNearestEven_atPlaces places).nearest c
  exact mul_le_mul_of_nonneg_right nearest (zpow10_pos _).le

/-- If any decimal with so many places is rounded to a magnitude, one is found, and **none of them
is nearer**. -/
theorem exists_readingBack?_eq {c : ℕ} (rounded : Decimal.ReadsBack ⟨c, -places⟩ x) :
    ∃ r, x.readingBack? places = some r
      ∧ |x.toRat - r.toRat| ≤ |x.toRat - (⟨c, -places⟩ : Decimal).toRat| := by
  obtain ⟨floor, other, neighbours, sides, below, above⟩ := x.exists_neighbours_eq places
  rw [readingBack?, neighbours]
  by_cases nearer : Decimal.ReadsBack ⟨x.atPlaces places, -places⟩ x
  · exact ⟨_, List.find?_cons_of_pos (decide_eq_true nearer), x.abs_sub_atPlaces_le places c⟩
  · -- then the other neighbour lies between the magnitude and the decimal
    have between : (⟨other, -places⟩ : Decimal).toRat
        ∈ Set.uIcc (⟨c, -places⟩ : Decimal).toRat x.toRat := by
      rcases sides with ⟨low, rfl⟩ | ⟨high, rfl⟩
      · rcases Nat.lt_or_ge floor c with more | less
        · exact Set.mem_uIcc_of_ge above.le (Decimal.toRat_le_toRat more)
        · rw [low] at nearer
          exact (nearer (rounded.of_between
            (Set.mem_uIcc_of_le (Decimal.toRat_le_toRat less) below))).elim
      · rcases Nat.lt_or_ge other c with more | less
        · rw [high] at nearer
          exact (nearer (rounded.of_between
            (Set.mem_uIcc_of_ge above.le (Decimal.toRat_le_toRat more)))).elim
        · exact Set.mem_uIcc_of_le (Decimal.toRat_le_toRat less) below
    refine ⟨_, ?_, Set.abs_sub_right_of_mem_uIcc between⟩
    rw [List.find?_cons_of_neg (by simpa using nearer)]
    exact List.find?_cons_of_pos (decide_eq_true (rounded.of_between between))

/-- A decimal of so many digits that is rounded to a magnitude has one at the exponent of the
magnitude that is no farther, and that is rounded to it as well. -/
theorem exists_atExponent (some : x.units ≠ 0) {d : Decimal} (rounded : d.ReadsBack x)
    {further : ℕ} (le : pow10 further ≤ d.digits) (lt : d.digits < pow10 (further + 1)) :
    ∃ c : ℕ, Decimal.ReadsBack ⟨c, -(further - x.decimalExponent)⟩ x
      ∧ |x.toRat - (⟨c, -(further - x.decimalExponent)⟩ : Decimal).toRat|
        ≤ |x.toRat - d.toRat| := by
  obtain ⟨least, less⟩ := pow_decimalExponent_bounds some
  generalize x.decimalExponent = e at least less ⊢
  have low : (10 : ℚ) ^ (further + d.exponent) ≤ d.toRat := by
    rw [zpow10_add, zpow_natCast, ← cast_pow10]
    exact mul_le_mul_of_nonneg_right (Nat.cast_le.2 le) (zpow10_pos _).le
  have high : d.toRat < 10 ^ (further + 1 + d.exponent) := by
    rw [zpow10_add, ← Nat.cast_succ, zpow_natCast, ← cast_pow10]
    exact mul_lt_mul_of_pos_right (Nat.cast_lt.2 lt) (zpow10_pos _)
  rcases lt_trichotomy (further + d.exponent) e with smaller | same | greater
  · -- the least number of so many digits lies between the decimal and the magnitude
    have between : (⟨pow10 further, -(further - e)⟩ : Decimal).toRat
        ∈ Set.uIcc d.toRat x.toRat := by
      rw [Decimal.toRat_pow10, neg_sub, add_sub_cancel]
      exact Set.mem_uIcc_of_le (high.le.trans (zpow10_le_zpow10 (by omega))) least
    exact ⟨_, rounded.of_between between, Set.abs_sub_right_of_mem_uIcc between⟩
  · have exponent : -((further : ℤ) - e) = d.exponent := by omega
    rw [exponent]
    exact ⟨d.digits, rounded, le_rfl⟩
  · -- the least number of more digits lies between the magnitude and the decimal
    have between : (⟨pow10 (further + 1), -(further - e)⟩ : Decimal).toRat
        ∈ Set.uIcc d.toRat x.toRat := by
      rw [Decimal.toRat_pow10, Nat.cast_succ, neg_sub, add_right_comm, add_sub_cancel]
      exact Set.mem_uIcc_of_ge less.le ((zpow10_le_zpow10 (by omega)).trans low)
    exact ⟨_, rounded.of_between between, Set.abs_sub_right_of_mem_uIcc between⟩

/-- What is found with so many digits has no more, unless its digits are those of a power of ten. -/
theorem digits_le_of_readingBack? {further : ℕ} {r : Decimal} (some : x.units ≠ 0)
    (found : x.readingBack? (further - x.decimalExponent) = .some r) :
    r.digits ≤ pow10 (further + 1) := by
  obtain ⟨-, less⟩ := pow_decimalExponent_bounds some
  obtain ⟨floor, other, neighbours, sides, below, -⟩ :=
    x.exists_neighbours_eq (further - x.decimalExponent)
  have few : floor < pow10 (further + 1) := by
    by_contra many
    have bound := (Decimal.toRat_le_toRat (Nat.not_lt.1 many)).trans below
    rw [Decimal.toRat_pow10] at bound
    refine absurd (bound.trans_lt less) (not_lt.2 (zpow10_le_zpow10 ?_))
    push_cast
    omega
  rw [readingBack?, neighbours] at found
  have member := List.mem_of_find?_eq_some found
  rw [List.mem_pair] at member
  rcases member with rfl | rfl <;> dsimp only <;> omega

/-! ## Seventeen digits -/

/-- What is so near to a magnitude is below the overflow bound. -/
theorem lt_overflowBound_of_mul_abs_sub_lt {x : Magnitude} {q : ℚ}
    (near : 2 ^ 54 * |q - x.toRat| < x.toRat) : q < overflowBound := by
  have one : (0 : ℚ) < unitsPerOne := Nat.cast_pos.2 unitsPerOne_pos
  have room : (x.units + pow2 2044 : ℚ) ≤ overflowBound * unitsPerOne := by
    rw [← Nat.cast_mul, ← overflowUnits_eq]
    exact_mod_cast x.units_add_le_overflowUnits
  have top : (x.units : ℚ) < 2 ^ 54 * pow2 2044 := by
    have bound : x.units < pow2 54 * pow2 2044 := by
      rw [← pow2_add]
      exact x.fits.1
    rw [← cast_pow2]
    exact_mod_cast bound
  have above := le_abs_self (q - x.toRat)
  have units : x.toRat * unitsPerOne = x.units := div_mul_cancel₀ _ one.ne'
  generalize (pow2 2044 : ℚ) = half at room top
  refine lt_of_mul_lt_mul_right ?_ one.le
  have scaled : 2 ^ 54 * (q - x.toRat) * unitsPerOne < x.toRat * unitsPerOne :=
    mul_lt_mul_of_pos_right (by linarith) one
  rw [units, mul_assoc, sub_mul, units] at scaled
  linarith

/-- A magnitude and its nearer neighbour are at most half a unit of the last place apart. -/
theorem two_mul_abs_sub_atPlaces_le (x : Magnitude) (places : ℤ) :
    2 * |x.toRat - (⟨x.atPlaces places, -places⟩ : Decimal).toRat| ≤ 10 ^ (-places) := by
  have positive : 0 < (x.scaled places).2 :=
    Nat.mul_pos unitsPerOne_pos (pow10_pos (-places).toNat)
  have half := abs_sub_roundHalfEven_le (x.scaled places).1 positive
  rw [x.scaled_div] at half
  rw [abs_sub_decimal, ← mul_assoc]
  refine mul_le_of_le_one_left (zpow10_pos _).le ?_
  rw [atPlaces]
  linarith

/-- **Seventeen digits** always suffice. -/
theorem readsBack_seventeen (some : x.units ≠ 0) :
    Decimal.ReadsBack ⟨x.atPlaces (16 - x.decimalExponent), -(16 - x.decimalExponent)⟩ x := by
  obtain ⟨least, -⟩ := pow_decimalExponent_bounds some
  have half := x.two_mul_abs_sub_atPlaces_le (16 - x.decimalExponent)
  rw [abs_sub_comm] at half
  have near : 2 ^ 54 * |(⟨x.atPlaces (16 - x.decimalExponent), -(16 - x.decimalExponent)⟩ :
      Decimal).toRat - x.toRat| < x.toRat := by
    have power := zpow10_pos (-(16 - x.decimalExponent))
    have moved : (10 : ℚ) ^ x.decimalExponent
        = 10 ^ 16 * 10 ^ (-(16 - x.decimalExponent)) := by
      rw [neg_sub, ← zpow_natCast, ← zpow10_add]
      congr 1
      push_cast
      ring
    rw [moved] at least
    linarith
  exact Decimal.readsBack_iff.2
    ⟨isNearest_of_mul_abs_sub_lt near, lt_overflowBound_of_mul_abs_sub_lt near⟩

/-! ## The search -/

/-- What is found first among the numbers below a bound is found at the least of them. -/
theorem exists_least_of_findSome?_range {α : Type} {f : ℕ → Option α} {n : ℕ} {r : α}
    (found : (List.range n).findSome? f = .some r) :
    ∃ least, f least = .some r ∧ ∀ k, f k ≠ none → least ≤ k := by
  obtain ⟨before, least, behind, range, hit, missed⟩ := List.findSome?_eq_some_iff.1 found
  refine ⟨least, hit, fun k other => ?_⟩
  by_contra less
  have below : least ∈ List.range n := by
    rw [range]
    exact List.mem_append_right _ List.mem_cons_self
  have member : k ∈ before ++ least :: behind := by
    rw [← range, List.mem_range]
    rw [List.mem_range] at below
    omega
  have ordered := List.pairwise_lt_range (n := n)
  rw [range, List.pairwise_append, List.pairwise_cons] at ordered
  rcases List.mem_append.1 member with earlier | later
  · exact other (missed k earlier)
  · rcases List.mem_cons.1 later with same | later
    · omega
    · have greater := ordered.2.1.1 k later
      omega

/-- The shortest decimal is what is found with **the least number of digits** for which one is found
at all. -/
theorem exists_shortest_eq_dropZeros (some : x.units ≠ 0) :
    ∃ (least : ℕ) (r : Decimal), x.shortest = r.dropZeros
      ∧ x.readingBack? (least - x.decimalExponent) = .some r
      ∧ ∀ further : ℕ, x.readingBack? (further - x.decimalExponent) ≠ none → least ≤ further := by
  let search : ℕ → Option Decimal := fun further => x.readingBack? (further - x.decimalExponent)
  have shortest : x.shortest = (((List.range 17).findSome? search).getD x.exactDecimal).dropZeros :=
    if_neg some
  cases found : (List.range 17).findSome? search with
  | none =>
    obtain ⟨r, hit, -⟩ := exists_readingBack?_eq (readsBack_seventeen some)
    rw [List.findSome?_eq_none_iff] at found
    have missed := found 16 (by simp)
    cases missed.symm.trans hit
  | some r =>
    obtain ⟨least, hit, first⟩ := exists_least_of_findSome?_range found
    rw [found] at shortest
    exact ⟨least, r, shortest, hit, first⟩

/-! ## The shortest decimal -/

/-- A neighbour that is found is rounded to the magnitude. -/
theorem readsBack_of_readingBack?_eq_some {x : Magnitude} {places : ℤ} {d : Decimal}
    (found : x.readingBack? places = some d) : d.ReadsBack x := by
  rw [readingBack?] at found
  have hit := List.find?_some found
  rwa [decide_eq_true_eq] at hit

/-- Zero is its own shortest decimal. -/
theorem shortest_of_units_eq_zero {x : Magnitude} (none : x.units = 0) : x.shortest = ⟨0, 0⟩ :=
  if_pos none

/-- A decimal without digits is rounded to zero. -/
theorem readsBack_zero_iff {x : Magnitude} {exponent : ℤ} :
    Decimal.ReadsBack ⟨0, exponent⟩ x ↔ x = zero := by
  rw [Decimal.ReadsBack, ofDecimal?, if_pos rfl, Option.some_inj, eq_comm]

/-- **The shortest decimal** of a magnitude **is rounded to it**. -/
theorem readsBack_shortest (x : Magnitude) : x.shortest.ReadsBack x := by
  by_cases none : x.units = 0
  · rw [shortest_of_units_eq_zero none, readsBack_zero_iff]
    exact eq_zero_of_units_eq_zero none
  · obtain ⟨least, r, shortest, found, -⟩ := exists_shortest_eq_dropZeros none
    rw [shortest, Decimal.readsBack_iff, Decimal.toRat_dropZeros, ← Decimal.readsBack_iff]
    exact readsBack_of_readingBack?_eq_some found

/-- A decimal that is rounded to a magnitude other than zero has digits. -/
theorem digits_ne_zero_of_readsBack (some : x.units ≠ 0) {d : Decimal} (rounded : d.ReadsBack x) :
    d.digits ≠ 0 := by
  intro zero
  have pair : d = ⟨0, d.exponent⟩ := by rw [← zero]
  rw [pair, readsBack_zero_iff] at rounded
  refine some ?_
  rw [rounded]
  rfl

/-- The shortest decimal of a magnitude is reduced. -/
theorem isReduced_shortest (x : Magnitude) : x.shortest.IsReduced := by
  by_cases none : x.units = 0
  · exact .inr (shortest_of_units_eq_zero none)
  · have digits := digits_ne_zero_of_readsBack none x.readsBack_shortest
    obtain ⟨least, r, shortest, -⟩ := exists_shortest_eq_dropZeros none
    rw [shortest] at digits ⊢
    exact .inl (r.dropZeros_digits.resolve_right digits)

/-- **The shortest decimal** of a magnitude: of all decimals that are rounded to it, none has fewer
digits, and of those with as many none is nearer to it. -/
theorem shortest_fewest (x : Magnitude) {d : Decimal} (rounded : d.ReadsBack x) :
    x.shortest.numeral.length ≤ d.numeral.length
      ∧ (d.numeral.length ≤ x.shortest.numeral.length →
        |x.toRat - x.shortest.toRat| ≤ |x.toRat - d.toRat|) := by
  by_cases none : x.units = 0
  · have zero : x.shortest.toRat = x.toRat := by
      rw [toRat_eq_zero_iff.2 none, shortest_of_units_eq_zero none, Decimal.toRat, Nat.cast_zero,
        zero_mul]
    have one : x.shortest.numeral.length = 1 := by
      rw [shortest_of_units_eq_zero none, Decimal.numeral, Numeral.decimal_zero,
        List.length_singleton]
    rw [one, zero, sub_self, abs_zero]
    exact ⟨List.length_pos_iff.2 (Numeral.decimal_ne_nil _), fun _ => abs_nonneg _⟩
  · obtain ⟨least, r, shortest, found, first⟩ := exists_shortest_eq_dropZeros none
    have positive := Nat.pos_of_ne_zero (digits_ne_zero_of_readsBack none rounded)
    obtain ⟨further, count, le, lt⟩ := Numeral.exists_digitCount_eq positive
    obtain ⟨c, atExponent, nearer⟩ := exists_atExponent none rounded le lt
    obtain ⟨r', found', nearest⟩ := exists_readingBack?_eq atExponent
    have length : d.numeral.length = further + 1 := count
    have few := Decimal.length_numeral_dropZeros_le (digits_le_of_readingBack? none found)
    have earlier := first further (by rw [found']; exact Option.some_ne_none _)
    rw [shortest, length, Decimal.toRat_dropZeros]
    refine ⟨few.trans (by omega), fun as => ?_⟩
    -- then the decimal was found with as many digits as the other one has
    obtain rfl : further = least := by omega
    obtain rfl : r = r' := Option.some.inj (found.symm.trans found')
    exact nearest.trans nearer

end Magnitude

end PercentFormat
