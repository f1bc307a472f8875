/-!
# Powers of two and of ten

The factors by which binary and decimal notation scale a number, and the ends of the
64-bit ranges that they give.

## Main results

* `twoPow_pos`, `tenPow_pos`: a power is never zero.
* `twoPow_add`, `tenPow_add`: adding exponents multiplies powers.
-/

namespace RiskTally

/-- Two to a power. -/
def twoPow (k : Nat) : Nat :=
  Nat.pow 2 k

/-- Ten to a power. -/
def tenPow (k : Nat) : Nat :=
  Nat.pow 10 k

theorem twoPow_pos (k : Nat) : 0 < twoPow k :=
  Nat.pow_pos (by decide)

theorem tenPow_pos (k : Nat) : 0 < tenPow k :=
  Nat.pow_pos (by decide)

theorem twoPow_add (j k : Nat) : twoPow (j + k) = twoPow j * twoPow k :=
  Nat.pow_add 2 j k

theorem tenPow_add (j k : Nat) : tenPow (j + k) = tenPow j * tenPow k :=
  Nat.pow_add 10 j k

/-- The integer is within the range of 64 bits with a sign. -/
def inRange (n : Int) : Bool :=
  -9223372036854775808 ≤ n && n ≤ 9223372036854775807

theorem inRange_iff {n : Int} :
    inRange n = true ↔ -(twoPow 63 : Int) ≤ n ∧ n < (twoPow 63 : Int) := by
  have : (twoPow 63 : Int) = 9223372036854775808 := by decide
  simp only [inRange, Bool.and_eq_true, decide_eq_true_eq, this]
  omega

end RiskTally
