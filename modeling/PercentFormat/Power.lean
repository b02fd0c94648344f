/-! # Powers of two and of ten

Doubles are spaced by powers of two and written by powers of ten.

* **`pow2`**, **`pow10`** — the two powers, with their laws. -/

namespace PercentFormat

/-- Two to the power `n`. -/
def pow2 (n : Nat) : Nat := Nat.pow 2 n

/-- Ten to the power `n`. -/
def pow10 (n : Nat) : Nat := Nat.pow 10 n

/-- The power zero of two is one. -/
@[simp] theorem pow2_zero : pow2 0 = 1 := rfl

/-- The next power of two is twice as large. -/
theorem pow2_succ (n : Nat) : pow2 (n + 1) = pow2 n * 2 := Nat.pow_succ 2 n

/-- A power of two is positive. -/
theorem pow2_pos (n : Nat) : 0 < pow2 n := Nat.two_pow_pos n

/-- Powers of two multiply by adding their exponents. -/
theorem pow2_add (m n : Nat) : pow2 (m + n) = pow2 m * pow2 n := Nat.pow_add 2 m n

/-- Powers of two grow with their exponents. -/
theorem pow2_le_pow2 {m n : Nat} (h : m ≤ n) : pow2 m ≤ pow2 n :=
  Nat.pow_le_pow_right (by decide) h

/-- A number has as many binary digits as its logarithm says. -/
theorem lt_pow2_log2 (n : Nat) : n < pow2 (n.log2 + 1) := Nat.lt_log2_self

/-- The power zero of ten is one. -/
@[simp] theorem pow10_zero : pow10 0 = 1 := rfl

/-- The next power of ten is ten times as large. -/
theorem pow10_succ (n : Nat) : pow10 (n + 1) = pow10 n * 10 := Nat.pow_succ 10 n

/-- A power of ten is positive. -/
theorem pow10_pos (n : Nat) : 0 < pow10 n := Nat.pow_pos (by decide)

/-- Powers of ten multiply by adding their exponents. -/
theorem pow10_add (m n : Nat) : pow10 (m + n) = pow10 m * pow10 n := Nat.pow_add 10 m n

/-- Powers of ten grow with their exponents. -/
theorem pow10_le_pow10 {m n : Nat} (h : m ≤ n) : pow10 m ≤ pow10 n :=
  Nat.pow_le_pow_right (by decide) h

end PercentFormat
