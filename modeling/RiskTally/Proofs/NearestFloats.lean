import RiskTally.Proofs.Rounding

/-!
# Arithmetic on the nearest numbers

A product and a quotient of two numbers are exact values that are rounded once, so they are the
numbers whose intervals these values lie in.  A value that is a number lies in the interval of
that number, and whole numbers below `2 ^ 53` are such values.

## Main results

* `Binary.readsAs_of_near`, `Binary.readsAs_value`: what is near enough to a number is in its
  interval.
* `Binary.unpacked_ofNat`: a whole number below `2 ^ 53` is a number.
* `Binary.mul_eq`, `Binary.div_eq`: a product and a quotient are rounded once.
-/

namespace RiskTally.Binary

open Float.Model (Format UnpackedFloat totalExponent)
open Float.Model.UnpackedFloat

/-! ## Values that are numbers -/

/-- A value is read as a number if it is at most half a unit away, and less than that if the
mantissa is odd.  Below a power of two the next number is nearer. -/
theorem readsAs_of_near {mantissa : Nat} (hpos : 0 < mantissa) {exponent : Int} {x : ℚ}
    (hlow : ((mantissa : ℚ) - 1 / 2) * 2 ^ exponent ≤ x)
    (hhigh : x ≤ ((mantissa : ℚ) + 1 / 2) * 2 ^ exponent)
    (hodd : mantissa % 2 = 1 → ((mantissa : ℚ) - 1 / 2) * 2 ^ exponent < x ∧
      x < ((mantissa : ℚ) + 1 / 2) * 2 ^ exponent)
    (hpower : mantissa = twoPow 52 → ((mantissa : ℚ) - 1 / 4) * 2 ^ exponent ≤ x) :
    ReadsAs mantissa exponent x := by
  unfold ReadsAs
  rw [highEnd_eq]
  by_cases hnear : mantissa = twoPow 52 ∧ -1074 < exponent
  · have heven : mantissa % 2 = 0 := by
      rw [hnear.1, twoPow_52]
    have hend : value (Shortest.lowEnd mantissa exponent) (exponent - 2) =
        ((mantissa : ℚ) - 1 / 4) * 2 ^ exponent := by
      rw [value_quarters, Shortest.lowEnd, if_pos hnear, Nat.cast_sub (by omega)]
      push_cast
      ring
    rw [if_pos heven, hend]
    exact ⟨hpower hnear.1, hhigh⟩
  · have hend : value (Shortest.lowEnd mantissa exponent) (exponent - 2) =
        ((mantissa : ℚ) - 1 / 2) * 2 ^ exponent := by
      rw [value_quarters, Shortest.lowEnd, if_neg hnear, Nat.cast_sub (by omega)]
      push_cast
      ring
    rw [hend]
    split
    · exact ⟨hlow, hhigh⟩
    · exact hodd (by omega)

/-- The value of a number is in its interval. -/
theorem readsAs_value {mantissa : Nat} (hpos : 0 < mantissa) (exponent : Int) :
    ReadsAs mantissa exponent (value mantissa exponent) := by
  have hbelow : ∀ part : ℚ, 0 < part →
      ((mantissa : ℚ) - part) * 2 ^ exponent < value mantissa exponent := by
    intro part hpart
    rw [value]
    gcongr
    linarith
  have habove : value mantissa exponent < ((mantissa : ℚ) + 1 / 2) * 2 ^ exponent := by
    rw [value]
    gcongr
    linarith
  exact readsAs_of_near hpos (hbelow _ one_half_pos).le habove.le
    (fun _ => ⟨hbelow _ one_half_pos, habove⟩) fun _ => (hbelow _ (by norm_num)).le

/-- The mantissa of a whole number below `2 ^ 53`, moved up to 53 bits. -/
def wholeMantissa (n : Nat) : Nat :=
  n * twoPow (52 - n.log2)

/-- The power of two that goes with it. -/
def wholeExponent (n : Nat) : Int :=
  n.log2 - 52

theorem wholeMantissa_pos {n : Nat} (hpos : 0 < n) : 0 < wholeMantissa n :=
  Nat.mul_pos hpos (twoPow_pos _)

/-- A mantissa of all bits is at its target exponent or above. -/
theorem le_target_of_full {mantissa : Nat} (h : twoPow 52 ≤ mantissa) (exponent : Int) :
    exponent ≤ target mantissa exponent := by
  have hlog : 52 ≤ mantissa.log2 :=
    (Nat.le_log2 (Nat.ne_of_gt ((twoPow_pos 52).trans_le h))).2 h
  unfold target
  omega

/-- An exact value of all bits is rounded to the number whose interval it is in. -/
theorem roundWithAccuracy_exact {sign : Sign} {given : Nat} (hgiven : twoPow 52 ≤ given)
    {start : Int} {mantissa : Nat} {exponent : Int} (hpos : 0 < mantissa)
    (hcanonical : Canonical mantissa exponent)
    (h : ReadsAs mantissa exponent (value given start)) :
    roundWithAccuracy Format.binary64 sign given start .exact =
      .finite sign mantissa exponent hpos := by
  refine roundWithAccuracy_eq ?_ (le_target_of_full hgiven start) hpos hcanonical h
  rw [value, mul_div_cancel_right₀ _ (by positivity)]
  exact represents_exact given

section Whole

variable {n : Nat} (hpos : 0 < n) (hlt : n < twoPow 53)
include hpos hlt

theorem log2_le_of_lt : n.log2 ≤ 52 :=
  Nat.le_of_lt_succ ((Nat.log2_lt hpos.ne').2 hlt)

theorem twoPow_52_eq : twoPow 52 = twoPow n.log2 * twoPow (52 - n.log2) := by
  rw [← twoPow_add, Nat.add_sub_cancel' (log2_le_of_lt hpos hlt)]

/-- A whole number below `2 ^ 53` has canonical parts. -/
theorem canonical_whole : Canonical (wholeMantissa n) (wholeExponent n) := by
  have hsplit := twoPow_52_eq hpos hlt
  have hlow : twoPow n.log2 ≤ n := Nat.log2_self_le hpos.ne'
  have hhigh : n < 2 * twoPow n.log2 := by
    have hnext : n < twoPow (n.log2 + 1) := Nat.lt_log2_self
    rw [twoPow_add, Nat.mul_comm] at hnext
    exact hnext
  have hfull : twoPow 52 ≤ wholeMantissa n := by
    rw [hsplit]
    exact Nat.mul_le_mul_right _ hlow
  have hmost : wholeMantissa n < twoPow 53 := by
    have hdouble : twoPow 53 = 2 * twoPow n.log2 * twoPow (52 - n.log2) := by
      rw [Nat.mul_assoc, ← hsplit]
      rfl
    rw [hdouble]
    exact Nat.mul_lt_mul_of_pos_right hhigh (twoPow_pos _)
  exact ⟨hmost, by unfold wholeExponent; omega, .inl hfull⟩

theorem full_whole : twoPow 52 ≤ wholeMantissa n :=
  (canonical_whole hpos hlt).full.resolve_right (by unfold wholeExponent; omega)

theorem value_whole : value (wholeMantissa n) (wholeExponent n) = n := by
  have hlog := log2_le_of_lt hpos hlt
  have hexponent : ((52 - n.log2 : Nat) : Int) + wholeExponent n = 0 := by
    unfold wholeExponent
    omega
  rw [value, wholeMantissa, Nat.cast_mul, cast_twoPow, mul_assoc, ← zpow_natCast,
    ← zpow_add₀ two_ne_zero, hexponent, zpow_zero, mul_one]

/-- A whole number below `2 ^ 53` is a number. -/
theorem unpacked_ofNat : UnpackedFloat.ofNat Format.binary64 n =
    .finite .positive (wholeMantissa n) (wholeExponent n) (wholeMantissa_pos hpos) := by
  have hlog := log2_le_of_lt hpos hlt
  have hcompare : compare (n : Int) 0 = .gt := compare_gt_iff_gt.2 (by omega)
  have htarget : target n 0 = wholeExponent n := by
    unfold target wholeExponent
    omega
  have hdecrease : decreaseExponent n 0 (wholeExponent n) =
      (wholeMantissa n, wholeExponent n) := by
    have hcount : (0 - wholeExponent n).toNat = 52 - n.log2 := by
      unfold wholeExponent
      omega
    rw [decreaseExponent, hcount, Nat.shiftLeft_eq]
    refine Prod.ext rfl ?_
    simp only [wholeExponent]
    omega
  have hround : UnpackedFloat.round Format.binary64 .positive n 0 =
      roundWithAccuracy Format.binary64 .positive (wholeMantissa n) (wholeExponent n) .exact := by
    rw [UnpackedFloat.round, targetExponent_eq, htarget, hdecrease]
  rw [UnpackedFloat.ofNat, UnpackedFloat.ofInt, UnpackedFloat.normalize, hcompare]
  exact hround.trans (roundWithAccuracy_exact (full_whole hpos hlt) (wholeMantissa_pos hpos)
    (canonical_whole hpos hlt) (readsAs_value (wholeMantissa_pos hpos) (wholeExponent n)))

end Whole

/-! ## Products and quotients -/

theorem value_mul (mantissa other : Nat) (exponent power : Int) :
    value (mantissa * other) (exponent + power) = value mantissa exponent * value other power := by
  rw [value, value, value, Nat.cast_mul, zpow_add₀ two_ne_zero]
  ring

/-- A product is rounded once. -/
theorem mul_eq {left right : Nat} {start power : Int} (hleft : 0 < left) (hright : 0 < right)
    (hfull : twoPow 52 ≤ left * right) {mantissa : Nat} {exponent : Int} (hpos : 0 < mantissa)
    (hcanonical : Canonical mantissa exponent)
    (h : ReadsAs mantissa exponent (value left start * value right power)) :
    UnpackedFloat.mul Format.binary64 (.finite .positive left start hleft)
        (.finite .positive right power hright) =
      .finite .positive mantissa exponent hpos := by
  rw [← value_mul] at h
  exact roundWithAccuracy_exact hfull hpos hcanonical h

/-- A part of one is represented by the side of the half that it is on. -/
theorem represents_part (mantissa : Nat) {part : ℚ} (hpos : 0 < part) (hlt : part < 1) :
    Represents (.ofMantissaAndAccuracy mantissa (.inexact (compare part (1 / 2))))
      (mantissa + part) := by
  have hmore : (mantissa : ℚ) + part ≠ mantissa := ne_of_gt (lt_add_of_pos_right _ hpos)
  rcases lt_trichotomy part (1 / 2) with hbelow | rfl | habove
  · rw [compare_lt_iff_lt.2 hbelow]
    exact ⟨le_add_of_nonneg_right hpos.le, add_lt_add_right hlt _,
      iff_of_false Bool.false_ne_true (not_le.2 (add_lt_add_right hbelow _)),
      iff_of_true rfl ⟨hmore, ne_of_lt (add_lt_add_right hbelow _)⟩⟩
  · rw [compare_eq_iff_eq.2 rfl]
    exact ⟨le_add_of_nonneg_right hpos.le, add_lt_add_right hlt _, iff_of_true rfl le_rfl,
      iff_of_false Bool.false_ne_true fun hne => hne.2 rfl⟩
  · rw [compare_gt_iff_gt.2 habove]
    exact ⟨le_add_of_nonneg_right hpos.le, add_lt_add_right hlt _,
      iff_of_true rfl (add_le_add_right habove.le _),
      iff_of_true rfl ⟨hmore, ne_of_gt (add_lt_add_right habove _)⟩⟩

/-- Twice a numerator is to the denominator as the fraction is to the half. -/
theorem compare_fraction (rest : Nat) {whole : Nat} (hwhole : (0 : ℚ) < whole) :
    compare (2 * rest) whole = compare ((rest : ℚ) / whole) (1 / 2) := by
  rcases lt_trichotomy (2 * rest) whole with hlt | heq | hlt
  · have hhalf : (rest : ℚ) / whole < 1 / 2 := by
      rw [div_lt_div_iff₀ hwhole two_pos, mul_comm, one_mul]
      exact_mod_cast hlt
    rw [compare_lt_iff_lt.2 hlt, compare_lt_iff_lt.2 hhalf]
  · have hhalf : (rest : ℚ) / whole = 1 / 2 := by
      rw [div_eq_div_iff hwhole.ne' two_ne_zero, mul_comm, one_mul]
      exact_mod_cast heq
    rw [compare_eq_iff_eq.2 heq, compare_eq_iff_eq.2 hhalf]
  · have hhalf : 1 / 2 < (rest : ℚ) / whole := by
      rw [div_lt_div_iff₀ two_pos hwhole, one_mul, mul_comm]
      exact_mod_cast hlt
    rw [compare_gt_iff_gt.2 hlt, compare_gt_iff_gt.2 hhalf]

/-- A mantissa and a fraction are represented by the mantissa and the place of the fraction. -/
theorem represents_fraction (mantissa : Nat) {rest whole : Nat} (h : rest < whole) :
    Represents (.ofMantissaAndAccuracy mantissa (accuracyOfFraction rest whole))
      (mantissa + rest / whole) := by
  have hwhole : (0 : ℚ) < whole := by exact_mod_cast Nat.zero_lt_of_lt h
  have hbelow : (rest : ℚ) / whole < 1 := by
    rw [div_lt_one hwhole]
    exact_mod_cast h
  unfold accuracyOfFraction
  by_cases hzero : rest = 0
  · rw [if_pos hzero, hzero, Nat.cast_zero, zero_div, add_zero]
    exact represents_exact mantissa
  · have hrest : (0 : ℚ) < rest := by exact_mod_cast Nat.pos_of_ne_zero hzero
    rw [if_neg hzero, compare_fraction rest hwhole]
    exact represents_part mantissa (by positivity) hbelow

/-- A quotient is its whole part and what is left over. -/
theorem cast_div_add_mod (dividend : Nat) {divisor : Nat} (hpos : 0 < divisor) :
    ((dividend / divisor : Nat) : ℚ) + (dividend % divisor : Nat) / divisor =
      dividend / divisor := by
  have hdivisor : (divisor : ℚ) ≠ 0 := by exact_mod_cast hpos.ne'
  have hcast : (divisor : ℚ) * (dividend / divisor : Nat) + (dividend % divisor : Nat) =
      dividend := by
    exact_mod_cast Nat.div_add_mod dividend divisor
  rw [eq_div_iff hdivisor, add_mul, div_mul_cancel₀ _ hdivisor, mul_comm, hcast]

/-- The exponent of a quotient, low enough for all bits of its mantissa. -/
def quotientExponent (left : Nat) (start : Int) (right : Nat) (power : Int) : Int :=
  min (start - power) (max (left.log2 + start - (right.log2 + power) - 53) (-1074))

theorem divCore_eq (left : Nat) (start : Int) (right : Nat) (power : Int) :
    divCore Format.binary64 left start right power =
      let moved := left <<< (start - power - quotientExponent left start right power).toNat
      (moved / right, quotientExponent left start right power,
        accuracyOfFraction (moved % right) right) := by
  have hbits : (Format.binary64.mantissaBits : Int) = 53 := rfl
  have hleast : Format.binary64.minExponent = -1074 := rfl
  have htarget : min (start - power) (Format.binary64.targetExponent
      (totalExponent left start - totalExponent right power)) =
        quotientExponent left start right power := by
    simp only [Format.targetExponent, totalExponent, quotientExponent, hbits, hleast]
    omega
  unfold divCore
  rw [htarget]

/-- A quotient has all bits of its mantissa, or the smallest exponent. -/
theorem le_target_quotient {left right : Nat} (hleft : 0 < left) (hright : 0 < right)
    (start power : Int) :
    let low := quotientExponent left start right power
    low ≤ target (left <<< (start - power - low).toNat / right) low := by
  intro low
  by_cases hleast : low ≤ -1074
  · exact hleast.trans (le_max_right _ _)
  · obtain ⟨count, hcount⟩ : ∃ count, count = (start - power - low).toNat := ⟨_, rfl⟩
    have hbits : right.log2 + 53 ≤ left.log2 + count := by
      have hlow : low = quotientExponent left start right power := rfl
      unfold quotientExponent at hlow
      omega
    rw [← hcount]
    refine le_target_of_full ?_ low
    rw [Nat.le_div_iff_mul_le hright, Nat.shiftLeft_eq]
    calc twoPow 52 * right ≤ twoPow 52 * twoPow (right.log2 + 1) :=
          Nat.mul_le_mul_left _ Nat.lt_log2_self.le
      _ = twoPow (right.log2 + 53) := by
          rw [← twoPow_add]
          congr 1
          omega
      _ ≤ twoPow (left.log2 + count) := Nat.pow_le_pow_right two_pos hbits
      _ = twoPow left.log2 * twoPow count := twoPow_add _ _
      _ ≤ left * twoPow count := Nat.mul_le_mul_right _ (Nat.log2_self_le hleft.ne')

/-- A quotient is rounded once. -/
theorem div_eq {left right : Nat} {start power : Int} (hleft : 0 < left) (hright : 0 < right)
    {mantissa : Nat} {exponent : Int} (hpos : 0 < mantissa)
    (hcanonical : Canonical mantissa exponent)
    (h : ReadsAs mantissa exponent (value left start / value right power)) :
    UnpackedFloat.div Format.binary64 (.finite .positive left start hleft)
        (.finite .positive right power hright) =
      .finite .positive mantissa exponent hpos := by
  have hstart := le_target_quotient hleft hright start power
  obtain ⟨low, hlow⟩ : ∃ low, low = quotientExponent left start right power := ⟨_, rfl⟩
  obtain ⟨count, hcount⟩ : ∃ count, count = (start - power - low).toNat := ⟨_, rfl⟩
  have hexponent : (count : Int) + low = start - power := by
    have hle : low ≤ start - power := hlow ▸ min_le_left _ _
    omega
  dsimp only at hstart
  rw [← hlow, ← hcount] at hstart
  have hquotient : value left start / value right power / 2 ^ low =
      ((left <<< count / right : Nat) : ℚ) + (left <<< count % right : Nat) / right := by
    have hstart' : start = count + low + power := by omega
    rw [cast_div_add_mod _ hright, Nat.shiftLeft_eq, Nat.cast_mul, value, value, hstart',
      zpow_add₀ two_ne_zero, zpow_add₀ two_ne_zero, zpow_natCast]
    field_simp
    push_cast
    ring
  have hrep := represents_fraction (left <<< count / right)
    (Nat.mod_lt (left <<< count) hright)
  rw [← hquotient] at hrep
  have hround : UnpackedFloat.div Format.binary64 (.finite .positive left start hleft)
        (.finite .positive right power hright) =
      roundWithAccuracy Format.binary64 .positive (left <<< count / right) low
        (accuracyOfFraction (left <<< count % right) right) := by
    simp only [UnpackedFloat.div, divCore_eq, ← hlow, ← hcount]
    rfl
  rw [hround]
  exact roundWithAccuracy_eq hrep hstart hpos hcanonical h

end RiskTally.Binary
