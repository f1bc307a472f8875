import RiskTally.Proofs.BinaryValues
import RiskTally.Number.Shortest

/-!
# Rounding to the nearest number

Arithmetic on floating-point numbers rounds an exact value.  On the way the value is kept as
a mantissa with two bits for what it drops (`Represents`), and shifting keeps that.  The
result is the one number whose interval the value lies in: halfway to the next number on
either side, the ends included if the mantissa is even (`ReadsAs`).  That is the interval in
which the shortest digits of a number are looked for.

## Main results

* `Binary.Represents.shiftRight`: shifting halves what is represented.
* `Binary.Represents.roundedMantissa_eq`: the two bits round to the nearest, a tie to even.
* `Binary.roundWithAccuracy_eq`: a value is rounded to the number whose interval it is in.
-/

namespace RiskTally.Binary

open Float.Model (Format UnpackedFloat totalExponent)
open Float.Model.UnpackedFloat

/-- The value is read as the number: it lies between the halfway points to the next numbers,
and on one of them only if the mantissa is even. -/
def ReadsAs (mantissa : Nat) (exponent : Int) (x : ℚ) : Prop :=
  let low := value (Shortest.lowEnd mantissa exponent) (exponent - 2)
  let high := value (Shortest.highEnd mantissa) (exponent - 2)
  if mantissa % 2 = 0 then low ≤ x ∧ x ≤ high else low < x ∧ x < high

/-! ## Mantissas with two more bits -/

/-- The mantissa and its two bits stand for the value: the bits say whether the half is
reached, and whether there is anything besides it. -/
structure Represents (extended : ExtendedMantissa) (y : ℚ) : Prop where
  le : extended.mantissa ≤ y
  lt : y < extended.mantissa + 1
  half : extended.roundBit = true ↔ extended.mantissa + 1 / 2 ≤ y
  rest : extended.stickyBit = true ↔ y ≠ extended.mantissa ∧ y ≠ extended.mantissa + 1 / 2

theorem represents_exact (mantissa : Nat) :
    Represents (.ofMantissaAndAccuracy mantissa .exact) mantissa where
  le := le_refl _
  lt := by simp [ExtendedMantissa.ofMantissaAndAccuracy]
  half := by simp [ExtendedMantissa.ofMantissaAndAccuracy]
  rest := by simp [ExtendedMantissa.ofMantissaAndAccuracy]

/-- One of the bits is set if anything is dropped. -/
theorem Represents.half_or_rest {extended : ExtendedMantissa} {y : ℚ}
    (h : Represents extended y) :
    (extended.roundBit || extended.stickyBit) = true ↔ y ≠ extended.mantissa := by
  rw [Bool.or_eq_true, h.half, h.rest]
  constructor
  · rintro (hhalf | hrest)
    · exact ne_of_gt (by linarith)
    · exact hrest.1
  · intro hne
    by_cases hhalf : (extended.mantissa : ℚ) + 1 / 2 ≤ y
    · exact .inl hhalf
    · exact .inr ⟨hne, ne_of_lt (not_le.1 hhalf)⟩

/-- Shifting by one bit halves what is represented. -/
theorem Represents.shiftRightOne {extended : ExtendedMantissa} {y : ℚ}
    (h : Represents extended y) : Represents extended.shiftRightOne (y / 2) := by
  have hbits := h.half_or_rest
  have hle := h.le
  have hlt := h.lt
  have hsplit : (extended.mantissa : ℚ) =
      2 * (extended.mantissa / 2 : Nat) + (extended.mantissa % 2 : Nat) := by
    exact_mod_cast (Nat.div_add_mod extended.mantissa 2).symm
  rcases Nat.mod_two_eq_zero_or_one extended.mantissa with heven | hodd
  · rw [heven, Nat.cast_zero, add_zero] at hsplit
    refine ⟨?_, ?_, ?_, ?_⟩
    · simp only [ExtendedMantissa.shiftRightOne]
      linarith
    · simp only [ExtendedMantissa.shiftRightOne]
      linarith
    · have hbelow : ¬ (extended.mantissa / 2 : Nat) + 1 / 2 ≤ y / 2 := not_le.2 (by linarith)
      simp only [ExtendedMantissa.shiftRightOne, heven]
      exact iff_of_false (by decide) hbelow
    · simp only [ExtendedMantissa.shiftRightOne, hbits]
      rw [hsplit]
      constructor
      · intro hne
        exact ⟨fun heq => hne (by linarith), ne_of_lt (by linarith)⟩
      · rintro ⟨hne, -⟩ heq
        exact hne (by linarith)
  · rw [hodd, Nat.cast_one] at hsplit
    refine ⟨?_, ?_, ?_, ?_⟩
    · simp only [ExtendedMantissa.shiftRightOne]
      linarith
    · simp only [ExtendedMantissa.shiftRightOne]
      linarith
    · have hreached : (extended.mantissa / 2 : Nat) + 1 / 2 ≤ y / 2 := by linarith
      simp only [ExtendedMantissa.shiftRightOne, hodd]
      exact iff_of_true (by decide) hreached
    · simp only [ExtendedMantissa.shiftRightOne, hbits]
      rw [hsplit]
      constructor
      · intro hne
        exact ⟨ne_of_gt (by linarith), fun heq => hne (by linarith)⟩
      · rintro ⟨-, hne⟩ heq
        exact hne (by linarith)

/-- Shifting halves what is represented as often. -/
theorem Represents.shiftRight {extended : ExtendedMantissa} {y : ℚ}
    (h : Represents extended y) (count : Nat) :
    Represents (extended >>> count) (y / 2 ^ count) := by
  induction count with
  | zero =>
      rw [pow_zero, div_one]
      exact h
  | succ count ih =>
      have hstep := ih.shiftRightOne
      rw [div_div, ← pow_succ] at hstep
      exact hstep

/-- Natural numbers less than one apart, on one side, are equal. -/
theorem eq_of_cast_lt {a b : Nat} (hab : (a : ℚ) < b + 1) (hba : (b : ℚ) < a + 1) : a = b := by
  have h : a < b + 1 := by exact_mod_cast hab
  have h' : b < a + 1 := by exact_mod_cast hba
  omega

/-- The two bits round to the nearest mantissa, and to an even one from halfway. -/
theorem Represents.roundedMantissa_eq {extended : ExtendedMantissa} {y : ℚ}
    (h : Represents extended y) {nearest : Nat} (hlow : (nearest : ℚ) - 1 / 2 ≤ y)
    (hhigh : y ≤ nearest + 1 / 2)
    (htie : nearest % 2 = 1 → (nearest : ℚ) - 1 / 2 < y ∧ y < nearest + 1 / 2) :
    extended.roundedMantissa = nearest := by
  obtain ⟨mantissa, half, rest⟩ := extended
  obtain ⟨hle, hlt, hhalf, hrest⟩ := h
  dsimp only at hle hlt hhalf hrest
  unfold ExtendedMantissa.roundedMantissa
  cases half with
  | false =>
      have hbelow : y < mantissa + 1 / 2 := not_le.1 fun hreached => by simpa using hhalf.2 hreached
      have hkept : mantissa = nearest := eq_of_cast_lt (by linarith) (by linarith)
      cases rest <;> exact hkept
  | true =>
      have hreached := hhalf.1 rfl
      cases rest with
      | false =>
          have htied : y = mantissa + 1 / 2 := by
            by_contra hne
            have hany := hrest.2 ⟨ne_of_gt (by linarith), hne⟩
            simp at hany
          have hbelow : nearest < mantissa + 2 := by
            have hcast : (nearest : ℚ) < mantissa + 2 := by linarith
            exact_mod_cast hcast
          have habove : mantissa < nearest + 1 := by
            have hcast : (mantissa : ℚ) < nearest + 1 := by linarith
            exact_mod_cast hcast
          have heven : nearest % 2 = 0 := by
            by_contra hodd
            obtain ⟨hlow', hhigh'⟩ := htie (by omega)
            have hover : nearest < mantissa + 1 := by
              have hcast : (nearest : ℚ) < mantissa + 1 := by linarith
              exact_mod_cast hcast
            have hunder : mantissa < nearest := by
              have hcast : (mantissa : ℚ) < nearest := by linarith
              exact_mod_cast hcast
            omega
          show mantissa + mantissa % 2 = nearest
          omega
      | true =>
          have hpast : (mantissa : ℚ) + 1 / 2 < y := lt_of_le_of_ne hreached (hrest.1 rfl).2.symm
          have hnext : mantissa + 1 = nearest :=
            eq_of_cast_lt (by push_cast; linarith) (by push_cast; linarith)
          exact hnext

/-! ## Shifting to the exponent -/

/-- The exponent at which a mantissa has 53 bits, or the smallest one. -/
def target (mantissa : Nat) (exponent : Int) : Int :=
  max (mantissa.log2 + exponent - 52) (-1074)

theorem targetExponent_eq (mantissa : Nat) (exponent : Int) :
    Format.binary64.targetExponent (totalExponent mantissa exponent) =
      target mantissa exponent := by
  have hbits : (Format.binary64.mantissaBits : Int) = 53 := rfl
  have hleast : Format.binary64.minExponent = -1074 := rfl
  simp only [Format.targetExponent, totalExponent, target, hbits, hleast]
  omega

/-- At its target exponent a value has 53 bits before the point, unless the exponent is the
smallest one. -/
theorem bounds_at_target {mantissa : Nat} {exponent : Int} {x : ℚ}
    (hle : mantissa ≤ x / 2 ^ exponent) (hlt : x / 2 ^ exponent < mantissa + 1)
    (h : exponent ≤ target mantissa exponent) :
    x / 2 ^ target mantissa exponent < twoPow 53 ∧
      (twoPow 52 ≤ x / 2 ^ target mantissa exponent ∨ target mantissa exponent = -1074) := by
  have hpower : (0 : ℚ) < 2 ^ exponent := by positivity
  rw [le_div_iff₀ hpower] at hle
  rw [div_lt_iff₀ hpower] at hlt
  have hbelow : x < 2 ^ ((mantissa.log2 + 1 : Nat) + exponent) := by
    have hmantissa : (mantissa : ℚ) + 1 ≤ 2 ^ (mantissa.log2 + 1) := by
      exact_mod_cast Nat.lt_log2_self
    calc x < (mantissa + 1) * 2 ^ exponent := hlt
      _ ≤ 2 ^ (mantissa.log2 + 1) * 2 ^ exponent := by gcongr
      _ = 2 ^ ((mantissa.log2 + 1 : Nat) + exponent) := by
        rw [zpow_add₀ two_ne_zero, zpow_natCast]
  have hreach : mantissa.log2 + exponent - 52 ≤ target mantissa exponent := le_max_left _ _
  constructor
  · rw [div_lt_iff₀ (by positivity), cast_twoPow, ← zpow_natCast, ← zpow_add₀ two_ne_zero]
    refine hbelow.trans_le (zpow_le_zpow_right₀ one_le_two ?_)
    omega
  · by_cases hleast : target mantissa exponent = -1074
    · exact .inr hleast
    · left
      have htarget : target mantissa exponent = mantissa.log2 + exponent - 52 := by
        unfold target at hleast ⊢
        omega
      have hne : mantissa ≠ 0 := by
        rintro rfl
        simp only [Nat.log2_zero] at htarget
        omega
      have hlog : (2 : ℚ) ^ mantissa.log2 ≤ mantissa := by
        exact_mod_cast Nat.log2_self_le hne
      rw [le_div_iff₀ (by positivity), cast_twoPow, ← zpow_natCast, ← zpow_add₀ two_ne_zero,
        htarget]
      calc (2 : ℚ) ^ (((52 : Nat) : Int) + (mantissa.log2 + exponent - 52))
          = 2 ^ (mantissa.log2 : Int) * 2 ^ exponent := by
            rw [← zpow_add₀ two_ne_zero]
            congr 1
            omega
        _ ≤ mantissa * 2 ^ exponent := by
            rw [zpow_natCast]
            gcongr
        _ ≤ x := hle

/-! ## The interval of a number -/

theorem value_quarters (count : Nat) (exponent : Int) :
    value count (exponent - 2) = count / 4 * 2 ^ exponent := by
  rw [value, zpow_sub₀ two_ne_zero]
  ring

theorem half_below_le_lowEnd {mantissa : Nat} (hpos : 0 < mantissa) (exponent : Int) :
    ((mantissa : ℚ) - 1 / 2) * 2 ^ exponent ≤
      value (Shortest.lowEnd mantissa exponent) (exponent - 2) := by
  have hquarters : 4 * mantissa ≤ Shortest.lowEnd mantissa exponent + 2 := by
    unfold Shortest.lowEnd
    split <;> omega
  have hcast : 4 * (mantissa : ℚ) ≤ Shortest.lowEnd mantissa exponent + 2 := by
    exact_mod_cast hquarters
  rw [value_quarters]
  gcongr
  linarith

theorem highEnd_eq (mantissa : Nat) (exponent : Int) :
    value (Shortest.highEnd mantissa) (exponent - 2) =
      ((mantissa : ℚ) + 1 / 2) * 2 ^ exponent := by
  rw [value_quarters, Shortest.highEnd]
  push_cast
  ring

namespace ReadsAs

variable {mantissa : Nat} {exponent : Int} {x : ℚ} (h : ReadsAs mantissa exponent x)
include h

theorem low_le : value (Shortest.lowEnd mantissa exponent) (exponent - 2) ≤ x := by
  unfold ReadsAs at h
  split at h
  · exact h.1
  · exact h.1.le

theorem le_high : x ≤ value (Shortest.highEnd mantissa) (exponent - 2) := by
  unfold ReadsAs at h
  split at h
  · exact h.2
  · exact h.2.le

theorem lt_of_odd (hodd : mantissa % 2 = 1) :
    value (Shortest.lowEnd mantissa exponent) (exponent - 2) < x ∧
      x < value (Shortest.highEnd mantissa) (exponent - 2) := by
  unfold ReadsAs at h
  rw [if_neg (by omega)] at h
  exact h

end ReadsAs

/-- At its own exponent a value rounds to the mantissa of the number whose interval it is in. -/
theorem roundedMantissa_of_readsAs {mantissa : Nat} (hpos : 0 < mantissa) {exponent : Int}
    {x : ℚ} (h : ReadsAs mantissa exponent x) {extended : ExtendedMantissa}
    (hrep : Represents extended (x / 2 ^ exponent)) : extended.roundedMantissa = mantissa := by
  have hpower : (0 : ℚ) < 2 ^ exponent := by positivity
  have hhalf := half_below_le_lowEnd hpos exponent
  refine hrep.roundedMantissa_eq ?_ ?_ fun hodd => ⟨?_, ?_⟩
  · rw [le_div_iff₀ hpower]
    exact hhalf.trans h.low_le
  · rw [div_le_iff₀ hpower, ← highEnd_eq]
    exact h.le_high
  · rw [lt_div_iff₀ hpower]
    exact hhalf.trans_lt (h.lt_of_odd hodd).1
  · rw [div_lt_iff₀ hpower, ← highEnd_eq]
    exact (h.lt_of_odd hodd).2

/-- The exponent at which a value has 53 bits is that of the number whose interval it is in,
or one less where it lies below a power of two that it is rounded to. -/
theorem target_cases {mantissa : Nat} (hpos : 0 < mantissa) {exponent power : Int} {x : ℚ}
    (hcanonical : Canonical mantissa exponent) (h : ReadsAs mantissa exponent x)
    (hleast : -1074 ≤ power) (hlt : x / 2 ^ power < twoPow 53)
    (hfull : twoPow 52 ≤ x / 2 ^ power ∨ power = -1074) :
    power = exponent ∨
      (power = exponent - 1 ∧ mantissa = twoPow 52 ∧ -1074 < exponent ∧
        (twoPow 53 : ℚ) - 1 / 2 ≤ x / 2 ^ power) := by
  have hpower : (0 : ℚ) < 2 ^ power := by positivity
  rw [div_lt_iff₀ hpower] at hlt
  rcases lt_trichotomy power exponent with hbelow | hsame | habove
  · right
    have hexponent : -1074 < exponent := by omega
    have hlow := h.low_le
    have hfloor : twoPow 52 ≤ mantissa := hcanonical.full.resolve_right (by omega)
    have hceiling : x < twoPow 52 * 2 ^ exponent := by
      have hstep : (2 : ℚ) ^ power ≤ 2 ^ (exponent - 1) :=
        zpow_le_zpow_right₀ one_le_two (by omega)
      calc x < twoPow 53 * 2 ^ power := hlt
        _ ≤ twoPow 53 * 2 ^ (exponent - 1) := by gcongr
        _ = twoPow 52 * 2 ^ exponent := by rw [twoPow_53_mul, sub_add_cancel]
    have hmantissa : mantissa = twoPow 52 := by
      by_contra hne
      have hmore : (twoPow 52 : ℚ) + 1 ≤ mantissa := by
        have hnext : twoPow 52 + 1 ≤ mantissa := by omega
        exact_mod_cast hnext
      have hhalf := (half_below_le_lowEnd hpos exponent).trans hlow
      have hover : (twoPow 52 : ℚ) * 2 ^ exponent ≤ ((mantissa : ℚ) - 1 / 2) * 2 ^ exponent := by
        gcongr
        linarith
      linarith
    have hquarter : ((twoPow 52 : ℚ) - 1 / 4) * 2 ^ exponent ≤ x := by
      refine le_trans (le_of_eq ?_) hlow
      rw [value_quarters, Shortest.lowEnd, if_pos ⟨hmantissa, hexponent⟩, hmantissa, twoPow_52]
      norm_num
    have hnext : power = exponent - 1 := by
      by_contra hne
      have hstep : (2 : ℚ) ^ power ≤ 2 ^ (exponent - 2) :=
        zpow_le_zpow_right₀ one_le_two (by omega)
      have hfar : x < value (twoPow 53) (exponent - 2) := by
        calc x < twoPow 53 * 2 ^ power := hlt
          _ ≤ twoPow 53 * 2 ^ (exponent - 2) := by gcongr
      rw [value_quarters] at hfar
      have hunder : (twoPow 53 : ℚ) / 4 * 2 ^ exponent ≤
          ((twoPow 52 : ℚ) - 1 / 4) * 2 ^ exponent := by
        gcongr
        rw [twoPow_52, twoPow_53]
        norm_num
      linarith
    refine ⟨hnext, hmantissa, hexponent, ?_⟩
    rw [le_div_iff₀ hpower]
    calc ((twoPow 53 : ℚ) - 1 / 2) * 2 ^ power
        = ((twoPow 52 : ℚ) - 1 / 4) * 2 ^ exponent := by
          rw [hnext, zpow_sub_one₀ two_ne_zero, twoPow_52, twoPow_53]
          ring
      _ ≤ x := hquarter
  · exact .inl hsame
  · exfalso
    have hreach : (twoPow 52 : ℚ) * 2 ^ power ≤ x := by
      have hbits := hfull.resolve_right (by have := hcanonical.least; omega)
      rwa [le_div_iff₀ hpower] at hbits
    have hstep : (2 : ℚ) ^ (exponent + 1) ≤ 2 ^ power :=
      zpow_le_zpow_right₀ one_le_two (by omega)
    have hfloor : (twoPow 53 : ℚ) * 2 ^ exponent ≤ x := by
      calc (twoPow 53 : ℚ) * 2 ^ exponent = twoPow 52 * 2 ^ (exponent + 1) :=
            twoPow_53_mul exponent
        _ ≤ twoPow 52 * 2 ^ power := by gcongr
        _ ≤ x := hreach
    have hhigh := h.le_high
    rw [highEnd_eq] at hhigh
    have hmost : (mantissa : ℚ) + 1 ≤ twoPow 53 := by
      exact_mod_cast hcanonical.lt
    have hunder : ((mantissa : ℚ) + 1 / 2) * 2 ^ exponent < twoPow 53 * 2 ^ exponent := by
      gcongr
      linarith
    linarith

theorem mantissa_ofMantissaAndAccuracy (mantissa : Nat) (accuracy : Accuracy) :
    (ExtendedMantissa.ofMantissaAndAccuracy mantissa accuracy).mantissa = mantissa := by
  cases accuracy with
  | exact => rfl
  | inexact ordering => cases ordering <;> rfl

theorem shiftToTargetExponent_eq (mantissa : Nat) (exponent : Int) (accuracy : Accuracy) :
    shiftToTargetExponent Format.binary64 mantissa exponent accuracy =
      (ExtendedMantissa.ofMantissaAndAccuracy mantissa accuracy >>>
          (target mantissa exponent - exponent).toNat,
        max exponent (target mantissa exponent)) := by
  unfold shiftToTargetExponent shiftToExponent
  rw [targetExponent_eq]
  refine Prod.ext rfl ?_
  show exponent + ((target mantissa exponent - exponent).toNat : Int) = _
  omega

/-- Canonical parts are where they shall be. -/
theorem shiftToTargetExponent_of_canonical {mantissa : Nat} {exponent : Int} (hpos : 0 < mantissa)
    (h : Canonical mantissa exponent) :
    shiftToTargetExponent Format.binary64 mantissa exponent .exact =
      (.ofMantissaAndAccuracy mantissa .exact, exponent) := by
  have hlog : mantissa.log2 < 53 := (Nat.log2_lt hpos.ne').2 h.lt
  have hleast := h.least
  have htarget : target mantissa exponent ≤ exponent := by
    unfold target
    omega
  rw [shiftToTargetExponent_eq, max_eq_left htarget, Int.toNat_of_nonpos (by omega)]
  rfl

/-- A mantissa that was rounded up to 54 bits is halved. -/
theorem shiftToTargetExponent_of_overflow {exponent : Int} (h : -1074 < exponent) :
    shiftToTargetExponent Format.binary64 (twoPow 53) (exponent - 1) .exact =
      (.ofMantissaAndAccuracy (twoPow 52) .exact, exponent) := by
  have hlog : (twoPow 53).log2 = 53 := Nat.log2_two_pow
  have htarget : target (twoPow 53) (exponent - 1) = exponent := by
    unfold target
    omega
  have hone : exponent - (exponent - 1) = 1 := by omega
  rw [shiftToTargetExponent_eq, htarget, max_eq_right (by omega), hone]
  rfl

/-- What is rounded at its target exponent is put there for good. -/
theorem roundWithAccuracy_of_shift {sign : Sign} {given rounded mantissa : Nat}
    {start exponent : Int} {accuracy : Accuracy} (hstart : start ≤ target given start)
    (hrounded : (ExtendedMantissa.ofMantissaAndAccuracy given accuracy >>>
      (target given start - start).toNat).roundedMantissa = rounded)
    (hshift : shiftToTargetExponent Format.binary64 rounded (target given start) .exact =
      (.ofMantissaAndAccuracy mantissa .exact, exponent)) (hpos : 0 < mantissa) :
    roundWithAccuracy Format.binary64 sign given start accuracy =
      .finite sign mantissa exponent hpos := by
  have hfirst := shiftToTargetExponent_eq given start accuracy
  rw [max_eq_right hstart] at hfirst
  unfold roundWithAccuracy
  simp only [hfirst, hrounded, hshift, mantissa_ofMantissaAndAccuracy]
  exact dif_neg hpos.ne'

/-- A value is rounded to the number whose interval it is in. -/
theorem roundWithAccuracy_eq {sign : Sign} {given : Nat} {start : Int} {accuracy : Accuracy}
    {x : ℚ} (hrep : Represents (.ofMantissaAndAccuracy given accuracy) (x / 2 ^ start))
    (hstart : start ≤ target given start) {mantissa : Nat} {exponent : Int} (hpos : 0 < mantissa)
    (hcanonical : Canonical mantissa exponent) (h : ReadsAs mantissa exponent x) :
    roundWithAccuracy Format.binary64 sign given start accuracy =
      .finite sign mantissa exponent hpos := by
  have hle := hrep.le
  have hlt := hrep.lt
  rw [mantissa_ofMantissaAndAccuracy] at hle hlt
  obtain ⟨hbelow, hfull⟩ := bounds_at_target hle hlt hstart
  have hshifted : Represents (ExtendedMantissa.ofMantissaAndAccuracy given accuracy >>>
      (target given start - start).toNat) (x / 2 ^ target given start) := by
    have hcount := hrep.shiftRight (target given start - start).toNat
    have htogether : start + ((target given start - start).toNat : Int) = target given start := by
      omega
    rwa [div_div, ← zpow_natCast, ← zpow_add₀ two_ne_zero, htogether] at hcount
  have hleast : -1074 ≤ target given start := le_max_right _ _
  rcases target_cases hpos hcanonical h hleast hbelow hfull with
    hsame | ⟨hnext, hpower, hnormal, hhigh⟩
  · have hrounded := roundedMantissa_of_readsAs hpos h (hsame ▸ hshifted)
    refine roundWithAccuracy_of_shift hstart (hsame ▸ hrounded) ?_ hpos
    rw [hsame]
    exact shiftToTargetExponent_of_canonical hpos hcanonical
  · have heven : twoPow 53 % 2 ≠ 1 := by
      rw [twoPow_53]
      decide
    have hrounded : (ExtendedMantissa.ofMantissaAndAccuracy given accuracy >>>
        (target given start - start).toNat).roundedMantissa = twoPow 53 :=
      hshifted.roundedMantissa_eq hhigh (hbelow.le.trans (by linarith))
        fun hodd => absurd hodd heven
    refine roundWithAccuracy_of_shift hstart hrounded ?_ hpos
    rw [hnext, hpower]
    exact shiftToTargetExponent_of_overflow hnormal

end RiskTally.Binary
