import RiskTally.Proofs.NearestFloats

/-!
# Decimals and the numbers nearest to them

A decimal `mantissa · 10 ^ exponent` becomes the number whose interval it lies in.  Where the
mantissa and the power of ten are numbers themselves, one product or quotient of the two is
rounded; else an exact product or quotient of whole numbers is.  The guards against large
powers of ten only turn away what is outside of every interval.

## Main results

* `Binary.ReadsAs.bounds`: the intervals of numbers lie between two powers of ten.
* `Binary.ofFloat_ofScientific`: a decimal becomes the number whose interval it is in.
* `Binary.ofFloat_ofScientific_ne_nan`: no decimal becomes what is no number.
* `Numeral.ofFloat_nearest`: the same for the decimals of texts.
* `Numeral.ofFloat_toFloat_eq_nan_iff`: only the word for it becomes what is no number.
-/

namespace RiskTally.Binary

open Float.Model (Format UnpackedFloat)
open Float.Model.UnpackedFloat

/-! ## Powers of ten -/

theorem cast_tenPow (k : Nat) : (tenPow k : ℚ) = 10 ^ k :=
  Nat.cast_pow 10 k

theorem half_least_le {mantissa : Nat} {exponent least : Int} {x : ℚ}
    (h : ReadsAs mantissa exponent x) (hpos : 0 < mantissa) (hleast : least ≤ exponent) :
    1 / 2 * 2 ^ least ≤ x := by
  have hhalf : (1 : ℚ) / 2 ≤ mantissa - 1 / 2 := by
    have hone : (1 : ℚ) ≤ mantissa := by exact_mod_cast hpos
    linarith
  have hpower : (2 : ℚ) ^ least ≤ 2 ^ exponent := zpow_le_zpow_right₀ one_le_two hleast
  calc 1 / 2 * (2 : ℚ) ^ least ≤ (mantissa - 1 / 2) * 2 ^ exponent := by gcongr
    _ ≤ x := (half_below_le_lowEnd hpos exponent).trans h.low_le

theorem le_greatest {mantissa : Nat} {exponent most : Int} {x : ℚ}
    (h : ReadsAs mantissa exponent x) (hlt : mantissa < twoPow 53) (hmost : exponent ≤ most) :
    x ≤ twoPow 53 * 2 ^ most := by
  have hhalf : (mantissa : ℚ) + 1 / 2 ≤ twoPow 53 := by
    have hmantissa : (mantissa : ℚ) + 1 ≤ twoPow 53 := by exact_mod_cast hlt
    linarith
  have hpower : (2 : ℚ) ^ exponent ≤ 2 ^ most := zpow_le_zpow_right₀ one_le_two hmost
  calc x ≤ (mantissa + 1 / 2) * 2 ^ exponent := (highEnd_eq mantissa exponent) ▸ h.le_high
    _ ≤ twoPow 53 * 2 ^ most := by gcongr

/-- Half of the smallest number is past this power of ten. -/
theorem tenPow_lt_half_least : (10 : ℚ) ^ (-324 : Int) < 1 / 2 * 2 ^ (-1074 : Int) := by
  have hpowers : (twoPow 1075 : ℚ) < tenPow 324 := by
    have hnat : twoPow 1075 < tenPow 324 := by decide +kernel
    exact_mod_cast hnat
  have hten : (10 : ℚ) ^ (-324 : Int) = 1 / tenPow 324 := by
    rw [cast_tenPow, one_div, ← zpow_natCast, ← zpow_neg, Nat.cast_ofNat]
  have htwo : (1 : ℚ) / 2 * 2 ^ (-1074 : Int) = 1 / twoPow 1075 := by
    have hsplit : (-1074 : Int) = -((1075 : Nat) : Int) + 1 := rfl
    rw [cast_twoPow, one_div (2 ^ 1075), ← zpow_natCast, ← zpow_neg, hsplit,
      zpow_add_one₀ two_ne_zero]
    ring
  rw [hten, htwo]
  exact one_div_lt_one_div_of_lt (by exact_mod_cast twoPow_pos 1075) hpowers

/-- The greatest number is below this power of ten. -/
theorem greatest_lt_tenPow : (twoPow 53 : ℚ) * 2 ^ (971 : Int) < 10 ^ (309 : Int) := by
  have hpowers : (twoPow 53 * twoPow 971 : ℚ) < tenPow 309 := by
    have hnat : twoPow 53 * twoPow 971 < tenPow 309 := by decide +kernel
    exact_mod_cast hnat
  rw [cast_twoPow 971, cast_tenPow] at hpowers
  exact hpowers

/-- Intervals of numbers lie between two powers of ten. -/
theorem ReadsAs.bounds {mantissa : Nat} {exponent : Int} {x : ℚ}
    (h : ReadsAs mantissa exponent x) (hpos : 0 < mantissa)
    (hcanonical : Canonical mantissa exponent) (hmost : exponent ≤ 971) :
    (10 : ℚ) ^ (-324 : Int) < x ∧ x < 10 ^ (309 : Int) :=
  ⟨tenPow_lt_half_least.trans_le (half_least_le h hpos hcanonical.least),
    (le_greatest h hcanonical.lt hmost).trans_lt greatest_lt_tenPow⟩

/-! ## Decimals -/

theorem value_exponent_zero (mantissa : Nat) : value mantissa 0 = mantissa := by
  rw [value, zpow_zero, mul_one]

/-- The powers of ten that are not computed are outside of every interval. -/
theorem ReadsAs.power_bounds {given : Nat} (hgiven : 0 < given) {power : Int} {mantissa : Nat}
    {exponent : Int} (h : ReadsAs mantissa exponent (given * 10 ^ power)) (hpos : 0 < mantissa)
    (hcanonical : Canonical mantissa exponent) (hmost : exponent ≤ 971) :
    power < 309 ∧ -325 - (given.log2 : Int) < power := by
  obtain ⟨hlow, hhigh⟩ := h.bounds hpos hcanonical hmost
  have hten : (1 : ℚ) < 10 := by norm_num
  constructor
  · have hone : (1 : ℚ) ≤ given := by exact_mod_cast hgiven
    have hreach : (10 : ℚ) ^ power ≤ given * 10 ^ power :=
      le_mul_of_one_le_left (by positivity) hone
    exact (zpow_lt_zpow_iff_right₀ hten).1 (hreach.trans_lt hhigh)
  · have hdigits : (given : ℚ) ≤ 10 ^ ((given.log2 + 1 : Nat) : Int) := by
      have hnat : given ≤ 10 ^ (given.log2 + 1) :=
        Nat.lt_log2_self.le.trans (Nat.pow_le_pow_left (by decide) _)
      exact_mod_cast hnat
    have hreach : (given : ℚ) * 10 ^ power ≤ 10 ^ (((given.log2 + 1 : Nat) : Int) + power) := by
      rw [zpow_add₀ (by norm_num)]
      gcongr
    have hpower := (zpow_lt_zpow_iff_right₀ hten).1 (hlow.trans_le hreach)
    omega

/-- A decimal becomes the number whose interval it is in. -/
theorem unpacked_ofScientific {given : Nat} (hgiven : 0 < given) {power : Int} {mantissa : Nat}
    {exponent : Int} (hpos : 0 < mantissa) (hcanonical : Canonical mantissa exponent)
    (hmost : exponent ≤ 971) (h : ReadsAs mantissa exponent (given * 10 ^ power)) :
    UnpackedFloat.ofScientific Format.binary64 given power =
      .finite .positive mantissa exponent hpos := by
  obtain ⟨hover, hunder⟩ := h.power_bounds hgiven hpos hcanonical hmost
  have hguard : (2 ^ Format.binary64.exponentBits : Int) = 2048 := rfl
  have hsmall : ¬ power > 2 ^ Format.binary64.exponentBits := by omega
  have hlarge : ¬ power < -((2 ^ Format.binary64.exponentBits : Int) + given.log2) := by omega
  unfold UnpackedFloat.ofScientific
  rw [dif_neg hgiven.ne', if_neg hsmall, if_neg hlarge]
  by_cases hsign : 0 ≤ power
  · have hleft : value (given <<< 53) (-53) = given := by
      rw [value, Nat.shiftLeft_eq, Nat.cast_mul, Nat.cast_pow, mul_assoc, Nat.cast_two,
        ← zpow_natCast, ← zpow_add₀ two_ne_zero]
      norm_num
    have hright : value (10 ^ power.toNat) 0 = 10 ^ power := by
      rw [value_exponent_zero, Nat.cast_pow, ← zpow_natCast, Int.toNat_of_nonneg hsign]
      rfl
    have hfull : twoPow 52 ≤ given <<< 53 * 10 ^ power.toNat := by
      rw [Nat.shiftLeft_eq]
      have hten : 0 < 10 ^ power.toNat := Nat.pow_pos (by decide)
      have htwo : twoPow 52 ≤ 1 * 2 ^ 53 * 1 := by decide
      exact htwo.trans (Nat.mul_le_mul (Nat.mul_le_mul_right _ hgiven) hten)
    rw [if_pos hsign]
    rw [← hleft, ← hright] at h
    exact mul_eq _ _ hfull hpos hcanonical h
  · have hleft : value given 0 = given := value_exponent_zero given
    have hright : value (10 ^ (-power).toNat) 0 = 10 ^ (-power) := by
      rw [value_exponent_zero, Nat.cast_pow, ← zpow_natCast, Int.toNat_of_nonneg (by omega)]
      rfl
    rw [if_neg hsign]
    have hquotient : (given : ℚ) * 10 ^ power =
        value given 0 / value (10 ^ (-power).toNat) 0 := by
      rw [hleft, hright, zpow_neg, div_inv_eq_mul]
    rw [hquotient] at h
    exact div_eq _ _ hpos hcanonical h

/-- A number with a mantissa is unpacked to its parts. -/
theorem unpack_of_ofFloat {f : Float} {mantissa : Nat} {exponent : Int} (hpos : 0 < mantissa)
    (h : ofFloat f = finite false mantissa exponent) :
    f.toModel.unpack = .finite .positive mantissa exponent hpos := by
  rw [ofFloat_eq] at h
  obtain ⟨sign, hsign, ⟨-, hzero⟩ | ⟨hpos, hunpack⟩⟩ := ofUnpacked_eq_finite h
  · exact absurd hzero hpos.ne'
  · cases sign with
    | negative => simp [isNegative] at hsign
    | positive => exact hunpack

/-- The table of powers of ten holds what it says. -/
theorem powersOfTen_fin : ∀ e : Fin 23, ∃ mantissa exponent, ∃ hpos : 0 < mantissa,
    Float.exactlyRepresentablePowersOfTen[e].toModel.unpack =
        .finite .positive mantissa exponent hpos ∧
      whole? mantissa exponent = some (tenPow e) := by
  intro e
  fin_cases e
  all_goals exact ⟨_, _, _, rfl, by decide +kernel⟩

theorem powersOfTen {power : Nat} (h : power < Float.exactlyRepresentablePowersOfTen.size) :
    ∃ mantissa exponent, ∃ hpos : 0 < mantissa,
      Float.exactlyRepresentablePowersOfTen[power].toModel.unpack =
          .finite .positive mantissa exponent hpos ∧
        value mantissa exponent = 10 ^ power := by
  obtain ⟨mantissa, exponent, hpos, hunpack, hwhole⟩ := powersOfTen_fin ⟨power, h⟩
  exact ⟨mantissa, exponent, hpos, hunpack,
    (whole?_eq_some_iff_value.1 hwhole).trans (cast_tenPow power)⟩

/-- A whole number below `2 ^ 53`, as a number of 64 bits. -/
theorem ofFloat_toFloat {n : Nat} (hpos : 0 < n) (hlt : n < twoPow 53) :
    ofFloat n.toUInt64.toFloat = finite false (wholeMantissa n) (wholeExponent n) := by
  have hword : n.toUInt64.toNat = n := by
    rw [twoPow_53] at hlt
    exact Nat.mod_eq_of_lt (by omega)
  have hmodel : n.toUInt64.toFloat = ⟨Float.Model.pack (.finite .positive (wholeMantissa n)
      (wholeExponent n) (wholeMantissa_pos hpos))⟩ := by
    show Float.ofModel (Float.Model.pack (UnpackedFloat.ofNat Format.binary64 n.toUInt64.toNat)) = _
    rw [hword, unpacked_ofNat hpos hlt]
  have hlog := log2_le_of_lt hpos hlt
  rw [hmodel, ofFloat_pack _ (canonical_whole hpos hlt) (by unfold wholeExponent; omega)]
  rfl

/-- A decimal becomes the number whose interval it is in. -/
theorem ofFloat_ofScientific {given : Nat} (hgiven : 0 < given) {down : Bool} {power : Nat}
    {mantissa : Nat} {exponent : Int} (hpos : 0 < mantissa)
    (hcanonical : Canonical mantissa exponent) (hmost : exponent ≤ 971)
    (h : ReadsAs mantissa exponent
      (given * 10 ^ (if down then -(power : Int) else (power : Int)))) :
    ofFloat (Float.ofScientific given down power) = finite false mantissa exponent := by
  have hpacked : ofFloat ⟨Float.Model.pack (.finite .positive mantissa exponent hpos)⟩ =
      finite false mantissa exponent := ofFloat_pack hpos hcanonical hmost
  unfold Float.ofScientific
  by_cases hfast : given < 2 ^ 53 ∧ power ≤ 22
  · rw [dif_pos hfast]
    have hsize : power < Float.exactlyRepresentablePowersOfTen.size := Nat.lt_succ_of_le hfast.2
    obtain ⟨factor, scale, hfactor, htable, hten⟩ := powersOfTen hsize
    have hunpack := unpack_of_ofFloat (wholeMantissa_pos hgiven)
      (ofFloat_toFloat hgiven hfast.1)
    have hwhole := value_whole hgiven hfast.1
    cases down with
    | false =>
        have hfull : twoPow 52 ≤ wholeMantissa given * factor :=
          (full_whole hgiven hfast.1).trans (Nat.le_mul_of_pos_right _ hfactor)
        have hproduct : value (wholeMantissa given) (wholeExponent given) * value factor scale =
            given * 10 ^ (power : Int) := by
          rw [hwhole, hten, zpow_natCast]
        have hmul : ∀ a b : Float, a * b = ⟨Float.Model.pack
            (UnpackedFloat.mul Format.binary64 a.toModel.unpack b.toModel.unpack)⟩ :=
          fun _ _ => rfl
        rw [if_neg Bool.false_ne_true] at h
        dsimp only
        rw [if_neg Bool.false_ne_true, hmul, hunpack, htable,
          mul_eq _ _ hfull hpos hcanonical (hproduct ▸ h), hpacked]
    | true =>
        have hquotient : value (wholeMantissa given) (wholeExponent given) / value factor scale =
            given * 10 ^ (-(power : Int)) := by
          rw [hwhole, hten, zpow_neg, zpow_natCast, div_eq_mul_inv]
        have hdiv : ∀ a b : Float, a / b = ⟨Float.Model.pack
            (UnpackedFloat.div Format.binary64 a.toModel.unpack b.toModel.unpack)⟩ :=
          fun _ _ => rfl
        rw [if_pos rfl] at h
        dsimp only
        rw [if_pos rfl, hdiv, hunpack, htable,
          div_eq _ _ hpos hcanonical (hquotient ▸ h), hpacked]
  · rw [dif_neg hfast]
    have hmodel : ∀ e : Int, Float.ofModel (Float.Model.ofScientific given e) =
        ⟨Float.Model.pack (UnpackedFloat.ofScientific Format.binary64 given e)⟩ := fun _ => rfl
    have hexponent : (if down then Int.negOfNat power else Int.ofNat power) =
        if down then -(power : Int) else (power : Int) := by
      rw [Int.negOfNat_eq]
      rfl
    dsimp only
    rw [hexponent, hmodel, unpacked_ofScientific hgiven hpos hcanonical hmost h, hpacked]

/-! ## Decimals that are numbers -/

theorem roundWithAccuracy_ne_nan (sign : Sign) (given : Nat) (start : Int)
    (accuracy : Accuracy) :
    roundWithAccuracy Format.binary64 sign given start accuracy ≠ .notANumber := by
  unfold roundWithAccuracy
  dsimp only
  split <;> simp

/-- Products and quotients of a zero or a finite number and a finite number are numbers. -/
theorem mul_div_ne_nan {left right : UnpackedFloat}
    (hleft : left = .zero .positive ∨ ∃ mantissa exponent hpos,
      left = .finite .positive mantissa exponent hpos)
    (hright : ∃ mantissa exponent hpos, right = .finite .positive mantissa exponent hpos) :
    UnpackedFloat.mul Format.binary64 left right ≠ .notANumber ∧
      UnpackedFloat.div Format.binary64 left right ≠ .notANumber := by
  obtain ⟨other, power, hpos', rfl⟩ := hright
  rcases hleft with rfl | ⟨mantissa, exponent, hpos, rfl⟩
  · exact ⟨by simp [UnpackedFloat.mul], by simp [UnpackedFloat.div]⟩
  · exact ⟨roundWithAccuracy_ne_nan _ _ _ _, roundWithAccuracy_ne_nan _ _ _ _⟩

theorem unpacked_ofScientific_ne_nan (given : Nat) (power : Int) :
    UnpackedFloat.ofScientific Format.binary64 given power ≠ .notANumber := by
  unfold UnpackedFloat.ofScientific
  split
  · simp
  · split
    · simp
    · split
      · simp
      · split
        · exact (mul_div_ne_nan (.inr ⟨_, _, _, rfl⟩) ⟨_, _, _, rfl⟩).1
        · exact (mul_div_ne_nan (.inr ⟨_, _, _, rfl⟩) ⟨_, _, _, rfl⟩).2

/-- No decimal becomes what is no number. -/
theorem ofFloat_ofScientific_ne_nan (given : Nat) (down : Bool) (power : Nat) :
    ofFloat (Float.ofScientific given down power) ≠ nan := by
  unfold Float.ofScientific
  by_cases hfast : given < 2 ^ 53 ∧ power ≤ 22
  · rw [dif_pos hfast]
    obtain ⟨factor, scale, hfactor, htable, -⟩ := powersOfTen (Nat.lt_succ_of_le hfast.2)
    have hgiven : given.toUInt64.toFloat.toModel.unpack = .zero .positive ∨
        ∃ mantissa exponent hpos, given.toUInt64.toFloat.toModel.unpack =
          .finite .positive mantissa exponent hpos := by
      rcases Nat.eq_zero_or_pos given with rfl | hpos
      · exact .inl rfl
      · exact .inr ⟨_, _, _, unpack_of_ofFloat (wholeMantissa_pos hpos)
          (ofFloat_toFloat hpos hfast.1)⟩
    obtain ⟨hmul, hdiv⟩ := mul_div_ne_nan hgiven ⟨factor, scale, hfactor, htable⟩
    cases down with
    | false => exact ofFloat_pack_ne_nan hmul
    | true => exact ofFloat_pack_ne_nan hdiv
  · rw [dif_neg hfast]
    exact ofFloat_pack_ne_nan (unpacked_ofScientific_ne_nan given _)

/-- The decimal digits of a number count its powers of ten. -/
theorem length_natText_bounds {n : Nat} (hpos : 0 < n) :
    tenPow ((natText n).length - 1) ≤ n ∧ n < tenPow (natText n).length := by
  have hlength : 0 < (natText n).length := Nat.length_toDigits_pos
  refine ⟨?_, (Nat.length_toDigits_le_iff (by decide) hlength).1 le_rfl⟩
  by_cases hone : (natText n).length = 1
  · rw [hone]
    exact hpos
  · by_contra hlt
    have hshort : (natText n).length ≤ (natText n).length - 1 :=
      (Nat.length_toDigits_le_iff (by decide) (by omega)).2 (not_le.1 hlt)
    omega

/-- The digits of a decimal, moved by its exponent, are its powers of ten. -/
theorem decimal_bounds {n : Nat} (hpos : 0 < n) (exponent : Int) :
    (10 : ℚ) ^ ((natText n).length + exponent - 1) ≤ n * 10 ^ exponent ∧
      (n : ℚ) * 10 ^ exponent < 10 ^ ((natText n).length + exponent) := by
  obtain ⟨hlow, hhigh⟩ := length_natText_bounds hpos
  have hlength : 0 < (natText n).length := Nat.length_toDigits_pos
  have hten : (10 : ℚ) ≠ 0 := by norm_num
  constructor
  · have hsplit : ((natText n).length : Int) + exponent - 1 =
        ((natText n).length - 1 : Nat) + exponent := by omega
    rw [hsplit, zpow_add₀ hten, zpow_natCast, ← cast_tenPow]
    gcongr
  · rw [zpow_add₀ hten, zpow_natCast, ← cast_tenPow]
    gcongr

end RiskTally.Binary

namespace RiskTally.Numeral

open Binary (Canonical ReadsAs)

/-- A decimal in text becomes the number whose interval it is in. -/
theorem ofFloat_nearest {given : Nat} (hgiven : 0 < given) {power : Int} {mantissa : Nat}
    {exponent : Int} (hpos : 0 < mantissa) (hcanonical : Canonical mantissa exponent)
    (hmost : exponent ≤ 971) (h : ReadsAs mantissa exponent (given * 10 ^ power)) :
    Binary.ofFloat (nearest given power) = .finite false mantissa exponent := by
  obtain ⟨hlow, hhigh⟩ := h.bounds hpos hcanonical hmost
  obtain ⟨hleast, hgreatest⟩ := Binary.decimal_bounds hgiven power
  have hten : (1 : ℚ) < 10 := by norm_num
  have hbelow : (natText given).length + power - 1 < 309 :=
    (zpow_lt_zpow_iff_right₀ hten).1 (hleast.trans_lt hhigh)
  have habove : -324 < (natText given).length + power :=
    (zpow_lt_zpow_iff_right₀ hten).1 (hlow.trans hgreatest)
  have hexponent : (if decide (power < 0) then -(power.natAbs : Int) else (power.natAbs : Int)) =
      power := by
    by_cases hneg : power < 0
    · rw [if_pos (decide_eq_true hneg)]
      omega
    · rw [if_neg (by simp [hneg])]
      omega
  rw [nearest, if_neg hgiven.ne', if_neg (by omega), if_neg (by omega)]
  exact Binary.ofFloat_ofScientific hgiven hpos hcanonical hmost (hexponent.symm ▸ h)

/-- No decimal in text becomes what is no number. -/
theorem ofFloat_nearest_ne_nan (given : Nat) (power : Int) :
    Binary.ofFloat (nearest given power) ≠ .nan := by
  have hzero : Binary.ofFloat 0.0 ≠ .nan := by decide +kernel
  have hinfinite : Binary.ofFloat (1.0 / 0.0) ≠ .nan := by decide +kernel
  unfold nearest
  dsimp only
  split
  · exact hzero
  · split
    · exact hinfinite
    · split
      · exact hzero
      · exact Binary.ofFloat_ofScientific_ne_nan _ _ _

/-- Only the word for it becomes what is no number. -/
theorem ofFloat_toFloat_eq_nan_iff (numeral : Numeral) :
    Binary.ofFloat numeral.toFloat = .nan ↔ numeral = nan := by
  cases numeral with
  | nan => exact iff_of_true (by decide +kernel) rfl
  | infinite negative =>
      refine iff_of_false ?_ (by simp)
      cases negative <;> decide +kernel
  | finite negative given power =>
      have hnearest := ofFloat_nearest_ne_nan given power
      refine iff_of_false ?_ (by simp)
      cases negative with
      | false => exact hnearest
      | true =>
          show Binary.ofFloat (-nearest given power) ≠ .nan
          rw [Binary.ofFloat_neg]
          cases hparts : Binary.ofFloat (nearest given power) with
          | nan => contradiction
          | infinite negative => simp [Binary.neg]
          | finite negative mantissa exponent => simp [Binary.neg]

end RiskTally.Numeral
