/-! # Rounding a quotient to a whole number

* **`roundHalfEven`** — the whole number nearest to a quotient, the even one of two that are
  equally near. -/

namespace PercentFormat

/-- The whole number nearest to `num / den`; halfway between two, the even one. -/
def roundHalfEven (num den : Nat) : Nat :=
  let floor := num / den
  let double := 2 * (num % den)
  if double < den then floor
  else if den < double then floor + 1
  else if floor % 2 = 0 then floor
  else floor + 1

/-- Rounding goes to the whole number below or to the one above. -/
theorem roundHalfEven_eq_or (num den : Nat) :
    roundHalfEven num den = num / den ∨ roundHalfEven num den = num / den + 1 := by
  unfold roundHalfEven
  dsimp only
  split
  · exact Or.inl rfl
  · split
    · exact Or.inr rfl
    · split
      · exact Or.inl rfl
      · exact Or.inr rfl

/-- Rounding never goes below the whole part. -/
theorem div_le_roundHalfEven (num den : Nat) : num / den ≤ roundHalfEven num den := by
  rcases roundHalfEven_eq_or num den with h | h <;> omega

/-- Rounding goes up by at most one. -/
theorem roundHalfEven_le (num den : Nat) : roundHalfEven num den ≤ num / den + 1 := by
  rcases roundHalfEven_eq_or num den with h | h <;> omega

/-- The quotient lies at most half a unit above what it is rounded to. -/
theorem two_mul_le_roundHalfEven (num : Nat) {den : Nat} (positive : 0 < den) :
    2 * num ≤ (2 * roundHalfEven num den + 1) * den := by
  have whole := Nat.div_add_mod num den
  have below := Nat.mul_comm den (num / den)
  unfold roundHalfEven
  dsimp only
  split
  · rw [Nat.add_mul, Nat.one_mul, Nat.mul_assoc]
    omega
  · split
    · have rest : num % den < den := Nat.mod_lt _ positive
      rw [Nat.mul_add, Nat.add_mul, Nat.add_mul, Nat.one_mul, Nat.mul_assoc]
      omega
    · split
      · rw [Nat.add_mul, Nat.one_mul, Nat.mul_assoc]
        omega
      · rw [Nat.mul_add, Nat.add_mul, Nat.add_mul, Nat.one_mul, Nat.mul_assoc]
        omega

/-- The quotient lies at most half a unit below what it is rounded to. -/
theorem roundHalfEven_mul_le (num den : Nat) :
    2 * roundHalfEven num den * den ≤ 2 * num + den := by
  have whole := Nat.div_add_mod num den
  have below := Nat.mul_comm den (num / den)
  unfold roundHalfEven
  dsimp only
  split
  · rw [Nat.mul_assoc]
    omega
  · split
    · rw [Nat.mul_add, Nat.add_mul, Nat.mul_assoc]
      omega
    · split
      · rw [Nat.mul_assoc]
        omega
      · rw [Nat.mul_add, Nat.add_mul, Nat.mul_assoc]
        omega

/-- Halfway between two whole numbers the even one is taken. -/
theorem roundHalfEven_even_of_tie {num den : Nat} (h : 2 * (num % den) = den) :
    roundHalfEven num den % 2 = 0 := by
  unfold roundHalfEven
  dsimp only
  rw [if_neg (by omega), if_neg (by omega)]
  split <;> omega

end PercentFormat
