import RiskTally.Proofs.Decimals

/-!
# Shortest digits

The digits of a number are looked for on finer and finer decimal grids.  Which points of a grid
read back is decided in whole numbers, and says of their values that they lie in the interval of
the number.  With seventeen digits a grid is finer than that interval, so the search ends, and
what it ends with reads back.

## Main results

* `Shortest.readsBack_iff`: a point reads back if its value is read as the number.
* `Shortest.magnitude_bounds`: the power of ten that a number begins at.
* `Shortest.gridPoint?_isSome_of_fine`: a fine grid is not passed over.
* `exists_shortest`: the digits of a number are those of a point that is read as it.
-/

namespace RiskTally

open Binary (Canonical ReadsAs value)

namespace Shortest

/-! ## Grids -/

theorem ten_zpow_pos (k : Int) : (0 : ℚ) < 10 ^ k := by
  positivity

theorem denominator_pos (q k : Int) : 0 < denominator q k :=
  Nat.mul_pos (twoPow_pos _) (tenPow_pos _)

/-- The numerator counts quarters of the power of two in units of the grid. -/
theorem numerator_mul (n : Nat) (q k : Int) :
    (numerator n q k : ℚ) * 10 ^ k = value n (q - 2) * denominator q k := by
  have htwo := Binary.zpow_mul_toNat two_ne_zero (q - 2)
  have hten := Binary.zpow_mul_toNat (show (10 : ℚ) ≠ 0 by norm_num) k
  have hneg : -(q - 2) = 2 - q := by omega
  rw [hneg] at htwo
  simp only [numerator, denominator, value, Nat.cast_mul, Binary.cast_twoPow, Binary.cast_tenPow]
  rw [← htwo, ← hten]
  ring

/-- A point is on the same side of the numerator as its value of the number of quarters. -/
theorem numerator_compare (n c : Nat) (q k : Int) :
    (numerator n q k ≤ c * denominator q k ↔ value n (q - 2) ≤ c * 10 ^ k) ∧
      (c * denominator q k ≤ numerator n q k ↔ c * 10 ^ k ≤ value n (q - 2)) := by
  have hgrid := ten_zpow_pos k
  have hdenominator : (0 : ℚ) < denominator q k := by exact_mod_cast denominator_pos q k
  have hnumerator := numerator_mul n q k
  have hpoint : ((c * denominator q k : Nat) : ℚ) * 10 ^ k = c * 10 ^ k * denominator q k := by
    push_cast
    ring
  constructor
  · rw [← Nat.cast_le (α := ℚ), ← mul_le_mul_iff_left₀ hgrid, hnumerator, hpoint,
      mul_le_mul_iff_left₀ hdenominator]
  · rw [← Nat.cast_le (α := ℚ), ← mul_le_mul_iff_left₀ hgrid, hnumerator, hpoint,
      mul_le_mul_iff_left₀ hdenominator]

/-- A point reads back if its value is read as the number. -/
theorem readsBack_iff {m c : Nat} {q k : Int} :
    readsBack m q k c = true ↔ ReadsAs m q (c * 10 ^ k) := by
  obtain ⟨hlow, hlow'⟩ := numerator_compare (lowEnd m q) c q k
  obtain ⟨hhigh', hhigh⟩ := numerator_compare (highEnd m) c q k
  unfold readsBack ReadsAs
  dsimp only
  split
  · rw [Bool.and_eq_true, decide_eq_true_eq, decide_eq_true_eq, hlow, hhigh]
  · rw [Bool.and_eq_true, decide_eq_true_eq, decide_eq_true_eq, ← not_le, ← not_le, ← not_le,
      ← not_le, hlow', hhigh']

/-- The point of the grid below the number, and the next one above it. -/
theorem floor_bounds (m : Nat) (q k : Int) :
    ((numerator (4 * m) q k / denominator q k : Nat) : ℚ) * 10 ^ k ≤ value m q ∧
      value m q < ((numerator (4 * m) q k / denominator q k : Nat) + 1) * 10 ^ k := by
  have hquarters : value (4 * m) (q - 2) = value m q := by
    rw [Binary.value_quarters, value]
    push_cast
    ring
  rw [← hquarters]
  constructor
  · rw [← (numerator_compare _ _ _ _).2]
    exact Nat.div_mul_le_self _ _
  · have habove : ¬ (numerator (4 * m) q k / denominator q k + 1) * denominator q k ≤
        numerator (4 * m) q k :=
      not_le.2 ((Nat.div_lt_iff_lt_mul (denominator_pos q k)).1 (Nat.lt_succ_self _))
    rw [(numerator_compare _ _ _ _).2, not_le] at habove
    exact_mod_cast habove

/-- A grid is not passed over if one of the two points beside the number reads back. -/
theorem gridPoint?_isSome_of_beside {tie : Tie} {m : Nat} {q k : Int} {c : Nat}
    (hc : c = numerator (4 * m) q k / denominator q k)
    (h : ReadsAs m q (c * 10 ^ k) ∨ ReadsAs m q ((c + 1 : Nat) * 10 ^ k)) :
    (gridPoint? tie m q k).isSome = true := by
  rw [← readsBack_iff, ← readsBack_iff, hc] at h
  simp only [gridPoint?]
  split
  · rfl
  · rfl
  · rfl
  · simp_all

/-! ## Seventeen digits -/

/-- A grid of which `10 ^ 16` units fit below the number is finer than its interval. -/
theorem gridPoint?_isSome_of_fine {tie : Tie} {m : Nat} {q k : Int} (hpos : 0 < m)
    (hlt : m < twoPow 53) (h : (10 : ℚ) ^ k * 10 ^ 16 ≤ value m q) :
    (gridPoint? tie m q k).isSome = true := by
  obtain ⟨hbelow, habove⟩ := floor_bounds m q k
  obtain ⟨c, hc⟩ : ∃ c, c = numerator (4 * m) q k / denominator q k := ⟨_, rfl⟩
  refine gridPoint?_isSome_of_beside hc ?_
  rw [← hc] at hbelow habove
  unfold value at hbelow habove h
  -- In units of the power of two the grid is finer than one, and than a half below `2 ^ 52`.
  have hnext : (m : ℚ) * 2 ^ q < (c + 1 : Nat) * 10 ^ k := by exact_mod_cast habove
  by_cases hnear : (c + 1 : Nat) * (10 : ℚ) ^ k < (m + 1 / 2) * 2 ^ q
  · right
    exact Binary.readsAs_of_near hpos (by linarith) hnear.le
      (fun _ => ⟨by linarith, hnear⟩) fun _ => by linarith
  · left
    have hnear' := not_lt.1 hnear
    push_cast at hnear'
    have hmost : (m : ℚ) * 2 ^ q ≤ twoPow 53 * 2 ^ q := by
      gcongr
    rw [Binary.twoPow_53] at hmost
    push_cast at hmost
    refine Binary.readsAs_of_near hpos (by linarith) (by linarith)
      (fun _ => ⟨by linarith, by linarith⟩) fun hpower => ?_
    rw [hpower, Binary.twoPow_52] at h hnear' ⊢
    push_cast at h hnear' ⊢
    linarith

/-- The power of ten that a number begins at. -/
theorem magnitude_bounds {m : Nat} {q : Int} (h : (10 : ℚ) ^ (-330 : Int) ≤ value m q) :
    (10 : ℚ) ^ (magnitude m q - 1) ≤ value m q ∧ value m q < 10 ^ magnitude m q := by
  obtain ⟨scaled, hscaled⟩ : ∃ scaled,
    scaled = m * twoPow q.toNat * tenPow 330 / twoPow (-q).toNat := ⟨_, rfl⟩
  have hunit : (0 : ℚ) < twoPow (-q).toNat := by exact_mod_cast twoPow_pos _
  have hfactor : (0 : ℚ) < tenPow 330 := by exact_mod_cast tenPow_pos 330
  have hshift : ∀ e : Int, (10 : ℚ) ^ (e - 330) * tenPow 330 = 10 ^ e := by
    intro e
    rw [Binary.cast_tenPow, ← zpow_natCast, ← zpow_add₀ (by norm_num)]
    congr 1
    omega
  -- Scaled by `10 ^ 330` and rounded down, the number has as many digits.
  have hvalue : value m q * tenPow 330 * twoPow (-q).toNat =
      ((m * twoPow q.toNat * tenPow 330 : Nat) : ℚ) := by
    have htwo := Binary.zpow_mul_toNat two_ne_zero q
    simp only [value, Nat.cast_mul, Binary.cast_twoPow]
    rw [← htwo]
    ring
  have hbelow : (scaled : ℚ) ≤ value m q * tenPow 330 := by
    rw [← mul_le_mul_iff_left₀ hunit, hvalue, hscaled]
    exact_mod_cast Nat.div_mul_le_self _ _
  have habove : value m q * tenPow 330 < (scaled : ℚ) + 1 := by
    rw [← mul_lt_mul_iff_left₀ hunit, hvalue, hscaled]
    exact_mod_cast (Nat.div_lt_iff_lt_mul (twoPow_pos _)).1 (Nat.lt_succ_self _)
  have hpos : 0 < scaled := by
    have hone : (1 : ℚ) ≤ value m q * tenPow 330 := by
      have hleast := hshift 0
      rw [zpow_zero] at hleast
      rw [← hleast]
      gcongr
      exact h
    have hcast : (0 : ℚ) < scaled := by linarith
    exact_mod_cast hcast
  obtain ⟨hleast, hmost⟩ := Binary.length_natText_bounds hpos
  have hlength : 0 < (natText scaled).length := Nat.length_toDigits_pos
  have hmagnitude : magnitude m q = (natText scaled).length - 330 := by
    rw [hscaled]
    rfl
  constructor
  · have hsplit : magnitude m q - 1 = (((natText scaled).length - 1 : Nat) : Int) - 330 := by omega
    have hdigits : (10 : ℚ) ^ (((natText scaled).length - 1 : Nat) : Int) ≤ scaled := by
      rw [zpow_natCast, ← Binary.cast_tenPow]
      exact_mod_cast hleast
    rw [hsplit, ← mul_le_mul_iff_left₀ hfactor, hshift]
    exact hdigits.trans hbelow
  · have hdigits : (scaled : ℚ) + 1 ≤ 10 ^ ((natText scaled).length : Int) := by
      rw [zpow_natCast, ← Binary.cast_tenPow]
      exact_mod_cast hmost
    rw [hmagnitude, ← mul_lt_mul_iff_left₀ hfactor, hshift]
    exact habove.trans_le hdigits

end Shortest

/-- The digits of a number are those of a point that is read as it. -/
theorem exists_shortest (tie : Tie) {m : Nat} {q : Int} (hpos : 0 < m) (h : Canonical m q) :
    ∃ c k, shortest tie m q = Shortest.digitsOf c k ∧ ReadsAs m q (c * 10 ^ k) := by
  have hvalue : (10 : ℚ) ^ (-330 : Int) ≤ value m q :=
    calc (10 : ℚ) ^ (-330 : Int) ≤ 10 ^ (-324 : Int) :=
          zpow_le_zpow_right₀ (by norm_num) (by omega)
      _ ≤ 1 / 2 * 2 ^ (-1074 : Int) := Binary.tenPow_lt_half_least.le
      _ ≤ value m q := Binary.half_least_le (Binary.readsAs_value hpos q) hpos h.least
  obtain ⟨hbegins, -⟩ := Shortest.magnitude_bounds hvalue
  have hfine : (10 : ℚ) ^ (Shortest.magnitude m q - (17 : Nat)) * 10 ^ 16 ≤ value m q := by
    rw [← zpow_natCast, ← zpow_add₀ (by norm_num)]
    refine le_trans (le_of_eq ?_) hbegins
    congr 1
    omega
  obtain ⟨attempt, hattempt⟩ : ∃ attempt : Nat → Option Digits, attempt = fun count : Nat =>
    (Shortest.gridPoint? tie m q (Shortest.magnitude m q - count)).map
      (Shortest.digitsOf · (Shortest.magnitude m q - count)) := ⟨_, rfl⟩
  have hlast : (attempt 17).isSome = true := by
    rw [hattempt, Option.isSome_map]
    exact Shortest.gridPoint?_isSome_of_fine hpos h.lt hfine
  obtain ⟨digits, hdigits⟩ := Option.isSome_iff_exists.1
    (List.findSome?_isSome_iff.2 ⟨17, by decide, hlast⟩ :
      ((List.range' 1 17).findSome? attempt).isSome = true)
  obtain ⟨count, -, hcount⟩ := List.exists_of_findSome?_eq_some hdigits
  rw [hattempt] at hcount
  obtain ⟨c, hpoint, rfl⟩ := Option.map_eq_some_iff.1 hcount
  refine ⟨c, Shortest.magnitude m q - count, ?_,
    Shortest.readsBack_iff.1 (Shortest.between_gridPoint? hpoint)⟩
  show ((List.range' 1 17).findSome? _).getD (⟨[], 0⟩ : Digits) = _
  rw [← hattempt, hdigits]
  rfl

end RiskTally
