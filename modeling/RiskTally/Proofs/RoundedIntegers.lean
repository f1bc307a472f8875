import RiskTally.Proofs.Decimals
import RiskTally.Proofs.ColumnTypes

/-!
# Integers as floating-point numbers

Floating-point numbers have 53 bits.  A longer integer becomes a multiple of a power of two,
the nearest one, and halfway between two the even one.  That moves integers together but never
past each other, and up to `2 ^ 53` it moves none.  So the order of the numbers is that of the
integers as soon as one of the two is short enough.

## Main results

* `nearestInt_mono`: rounding keeps the order.
* `Comparison.relates_nearestInt_iff`: comparisons with a short integer are exact.
* `Comparison.relates_nearestInt`, `Comparison.relates_of_nearestInt`: what is left of the
  others.
* `Binary.denotes_ofInt`: the number that an integer becomes.
* `Binary.denotes_of_readInteger?`: the number that is read from the digits of an integer.
-/

namespace RiskTally

/-! ## Rounding to 53 bits -/

/-- How far apart the numbers of 53 bits around a number are. -/
def spacing (n : Nat) : Nat :=
  twoPow (n.log2 - 52)

/-- The nearest number of 53 bits; halfway between two the one that is even in its last bit. -/
def nearestNat (n : Nat) : Nat :=
  if 2 * (n % spacing n) < spacing n ∨
      2 * (n % spacing n) = spacing n ∧ n / spacing n % 2 = 0 then
    n / spacing n * spacing n
  else (n / spacing n + 1) * spacing n

/-- The nearest integer of 53 bits besides its sign. -/
def nearestInt (i : Int) : Int :=
  if i < 0 then -nearestNat i.natAbs else nearestNat i.natAbs

theorem spacing_pos (n : Nat) : 0 < spacing n :=
  twoPow_pos _

theorem spacing_of_lt {n : Nat} (h : n < twoPow 53) : spacing n = 1 := by
  have hlog : n.log2 < 53 := by
    rcases Nat.eq_zero_or_pos n with rfl | hpos
    · decide
    · exact (Nat.log2_lt hpos.ne').2 h
  have hbits : n.log2 - 52 = 0 := by omega
  rw [spacing, hbits]
  rfl

/-- A number of 53 bits stays as it is. -/
theorem nearestNat_of_lt {n : Nat} (h : n < twoPow 53) : nearestNat n = n := by
  simp [nearestNat, spacing_of_lt h, Nat.mod_one]

/-- The next multiple of the spacing, or the one after it. -/
theorem nearestNat_cases (n : Nat) :
    nearestNat n = n / spacing n * spacing n ∨ nearestNat n = (n / spacing n + 1) * spacing n := by
  unfold nearestNat
  split
  · exact .inl rfl
  · exact .inr rfl

/-- The powers of two around a long number are multiples of its spacing. -/
theorem twoPow_log2_eq {n : Nat} (h : twoPow 53 ≤ n) :
    twoPow n.log2 = twoPow 52 * spacing n ∧ twoPow (n.log2 + 1) = twoPow 53 * spacing n := by
  have hlog : 53 ≤ n.log2 := (Nat.le_log2 (Nat.ne_of_gt ((twoPow_pos 53).trans_le h))).2 h
  constructor
  · rw [spacing, ← twoPow_add]
    congr 1
    omega
  · rw [spacing, ← twoPow_add]
    congr 1
    omega

/-- A long number holds its spacing as often as a mantissa of all bits says. -/
theorem div_spacing_bounds {n : Nat} (h : twoPow 53 ≤ n) :
    twoPow 52 ≤ n / spacing n ∧ n / spacing n < twoPow 53 := by
  obtain ⟨hbelow, habove⟩ := twoPow_log2_eq h
  rw [Nat.le_div_iff_mul_le (spacing_pos n), Nat.div_lt_iff_lt_mul (spacing_pos n), ← hbelow,
    ← habove]
  exact ⟨Nat.log2_self_le (Nat.ne_of_gt ((twoPow_pos 53).trans_le h)), Nat.lt_log2_self⟩

/-- Rounding stays between the same powers of two. -/
theorem nearestNat_bounds {n : Nat} (hpos : 0 < n) :
    twoPow n.log2 ≤ nearestNat n ∧ nearestNat n ≤ twoPow (n.log2 + 1) := by
  by_cases hshort : n < twoPow 53
  · rw [nearestNat_of_lt hshort]
    exact ⟨Nat.log2_self_le hpos.ne', Nat.lt_log2_self.le⟩
  · have hlong := Nat.le_of_not_lt hshort
    obtain ⟨hlow, hhigh⟩ := div_spacing_bounds hlong
    rw [(twoPow_log2_eq hlong).1, (twoPow_log2_eq hlong).2]
    rcases nearestNat_cases n with hbelow | habove
    · rw [hbelow]
      exact ⟨Nat.mul_le_mul_right _ hlow, Nat.mul_le_mul_right _ hhigh.le⟩
    · rw [habove]
      exact ⟨Nat.mul_le_mul_right _ (Nat.le_succ_of_le hlow), Nat.mul_le_mul_right _ hhigh⟩

/-- Rounding keeps the order. -/
theorem nearestNat_mono {n m : Nat} (h : n ≤ m) : nearestNat n ≤ nearestNat m := by
  rcases Nat.eq_zero_or_pos n with rfl | hpos
  · rw [nearestNat_of_lt (twoPow_pos 53)]
    exact Nat.zero_le _
  · have hlog : n.log2 ≤ m.log2 :=
      (Nat.le_log2 (Nat.ne_of_gt (hpos.trans_le h))).2 ((Nat.log2_self_le hpos.ne').trans h)
    rcases Nat.lt_or_eq_of_le hlog with hless | hsame
    · -- A power of two lies between them.
      calc nearestNat n ≤ twoPow (n.log2 + 1) := (nearestNat_bounds hpos).2
        _ ≤ twoPow m.log2 := Nat.pow_le_pow_right two_pos hless
        _ ≤ nearestNat m := (nearestNat_bounds (hpos.trans_le h)).1
    · have hspacing : spacing m = spacing n := by rw [spacing, spacing, hsame]
      have hquotient : n / spacing n ≤ m / spacing n := Nat.div_le_div_right h
      rcases Nat.lt_or_eq_of_le hquotient with hless | heq
      · -- A multiple of the spacing lies between them.
        have hbelow : nearestNat n ≤ (n / spacing n + 1) * spacing n := by
          rcases nearestNat_cases n with hcase | hcase
          · rw [hcase]
            exact Nat.mul_le_mul_right _ (Nat.le_succ _)
          · exact hcase.le
        have habove : m / spacing n * spacing n ≤ nearestNat m := by
          rcases nearestNat_cases m with hcase | hcase
          · rw [hcase, hspacing]
          · rw [hcase, hspacing]
            exact Nat.mul_le_mul_right _ (Nat.le_succ _)
        exact hbelow.trans ((Nat.mul_le_mul_right _ hless).trans habove)
      · -- They lie between the same two multiples, and the greater one is not rounded lower.
        have hrest : n % spacing n ≤ m % spacing n := by
          have hn := Nat.div_add_mod n (spacing n)
          have hm := Nat.div_add_mod m (spacing n)
          rw [heq] at hn
          omega
        unfold nearestNat
        rw [hspacing, ← heq]
        split
        · split
          · exact le_rfl
          · exact Nat.mul_le_mul_right _ (Nat.le_succ _)
        · rw [if_neg (by omega)]

theorem nearestInt_of_natAbs_lt {i : Int} (h : i.natAbs < twoPow 53) : nearestInt i = i := by
  rw [nearestInt, nearestNat_of_lt h]
  omega

theorem nearestInt_natCast (n : Nat) : nearestInt n = nearestNat n := by
  rw [nearestInt, if_neg (by omega), Int.natAbs_natCast]

theorem nearestInt_neg_natCast (n : Nat) : nearestInt (-n) = -nearestNat n := by
  rw [nearestInt, Int.natAbs_neg, Int.natAbs_natCast]
  rcases Nat.eq_zero_or_pos n with rfl | hpos
  · rw [nearestNat_of_lt (twoPow_pos 53)]
    rfl
  · exact if_pos (by omega)

/-- Rounding keeps the order of integers. -/
theorem nearestInt_mono {i j : Int} (h : i ≤ j) : nearestInt i ≤ nearestInt j := by
  unfold nearestInt
  by_cases hi : i < 0
  · by_cases hj : j < 0
    · have hle : nearestNat j.natAbs ≤ nearestNat i.natAbs := nearestNat_mono (by omega)
      rw [if_pos hi, if_pos hj]
      omega
    · rw [if_pos hi, if_neg hj]
      omega
  · have hle : nearestNat i.natAbs ≤ nearestNat j.natAbs := nearestNat_mono (by omega)
    rw [if_neg hi, if_neg (by omega)]
    exact_mod_cast hle

example : nearestInt 9007199254740993 = 9007199254740992 := by decide +kernel
example : nearestInt (-9007199254740995) = -9007199254740996 := by decide +kernel

/-- The first power of two past 53 bits stays as it is. -/
theorem nearestInt_twoPow_53 :
    nearestInt (twoPow 53) = twoPow 53 ∧ nearestInt (-twoPow 53) = -twoPow 53 := by
  decide +kernel

/-- A short integer and its neighbours stay as they are, so the others stay on their sides. -/
theorem nearestInt_lt_iff {n : Int} (h : n.natAbs < twoPow 53) (i : Int) :
    (nearestInt i < n ↔ i < n) ∧ (n < nearestInt i ↔ n < i) := by
  obtain ⟨htop, hbottom⟩ := nearestInt_twoPow_53
  have hkept : ∀ j : Int, j.natAbs ≤ twoPow 53 → nearestInt j = j := by
    intro j hj
    rcases Nat.lt_or_eq_of_le hj with hlt | heq
    · exact nearestInt_of_natAbs_lt hlt
    · rcases Int.natAbs_eq j with hsign | hsign
      · rw [hsign, heq, htop]
      · rw [hsign, heq, hbottom]
  have hbelow := hkept (n - 1) (by omega)
  have habove := hkept (n + 1) (by omega)
  have hself := hkept n h.le
  refine ⟨⟨fun hless => ?_, fun hless => ?_⟩, fun hless => ?_, fun hless => ?_⟩
  · by_contra hge
    have hmono : nearestInt n ≤ nearestInt i := nearestInt_mono (by omega)
    omega
  · have hmono : nearestInt i ≤ nearestInt (n - 1) := nearestInt_mono (by omega)
    omega
  · by_contra hge
    have hmono : nearestInt i ≤ nearestInt n := nearestInt_mono (by omega)
    omega
  · have hmono : nearestInt (n + 1) ≤ nearestInt i := nearestInt_mono (by omega)
    omega

namespace Comparison

/-- A comparison allows equality. -/
def isWeak : Comparison → Bool
  | eq | ge | le => true
  | gt | lt => false

/-- Comparisons with a short integer are exact. -/
theorem relates_nearestInt_iff (op : Comparison) {n : Int} (h : n.natAbs < twoPow 53) (i : Int) :
    op.Relates (nearestInt i) (nearestInt n) ↔ op.Relates i n := by
  obtain ⟨hless, hmore⟩ := nearestInt_lt_iff h i
  rw [nearestInt_of_natAbs_lt h]
  cases op <;> simp only [Relates] <;> omega

/-- What allows equality is true after rounding if it was before. -/
theorem relates_nearestInt {op : Comparison} (hop : op.isWeak = true) {i n : Int}
    (h : op.Relates i n) : op.Relates (nearestInt i) (nearestInt n) := by
  cases op with
  | eq => exact congrArg nearestInt h
  | ge => exact nearestInt_mono h
  | le => exact nearestInt_mono h
  | gt => contradiction
  | lt => contradiction

/-- What excludes equality was true before rounding if it is after. -/
theorem relates_of_nearestInt {op : Comparison} (hop : op.isWeak = false) {i n : Int}
    (h : op.Relates (nearestInt i) (nearestInt n)) : op.Relates i n := by
  cases op with
  | eq => contradiction
  | ge => contradiction
  | le => contradiction
  | gt => exact Int.not_le.1 fun hle => Int.not_lt.2 (nearestInt_mono hle) h
  | lt => exact Int.not_le.1 fun hle => Int.not_lt.2 (nearestInt_mono hle) h

theorem relates_cast (op : Comparison) (a b : Int) :
    op.Relates (a : ℚ) (b : ℚ) ↔ op.Relates a b := by
  cases op <;> simp [Relates]

end Comparison

/-! ## The numbers that integers become -/

/-- An integer is read from a sign and digits. -/
theorem exists_magnitude_of_readInteger? {text : Text} {n : Int64}
    (h : readInteger? text = some n) : ∃ magnitude : Nat,
    readDigits? (splitSign text).2 = some magnitude ∧
      n.toInt = if (splitSign text).1 then -(magnitude : Int) else magnitude := by
  unfold readInteger? at h
  cases hdigits : readDigits? (splitSign text).2 with
  | none => simp [hdigits] at h
  | some magnitude =>
      simp only [hdigits, Option.ite_none_right_eq_some, Option.some.injEq] at h
      obtain ⟨hrange, rfl⟩ := h
      simp only [inRange, Bool.and_eq_true, decide_eq_true_eq] at hrange
      exact ⟨magnitude, rfl, Int64.toInt_ofInt_of_le (by omega) (by omega)⟩

namespace Binary

/-- The nearest number of 53 bits is a multiple of the spacing, at most half of it away, and
less than that if the multiple is odd. -/
theorem exists_multiple (n : Nat) : ∃ count, nearestNat n = count * spacing n ∧
    n / spacing n ≤ count ∧ count ≤ n / spacing n + 1 ∧
    2 * (count * spacing n) ≤ 2 * n + spacing n ∧ 2 * n ≤ 2 * (count * spacing n) + spacing n ∧
    (count % 2 = 1 → 2 * (count * spacing n) < 2 * n + spacing n ∧
      2 * n < 2 * (count * spacing n) + spacing n) := by
  have hsplit := Nat.div_add_mod n (spacing n)
  have hrest := Nat.mod_lt n (spacing_pos n)
  have hnext : (n / spacing n + 1) * spacing n = spacing n * (n / spacing n) + spacing n := by
    ring
  rw [Nat.mul_comm] at hsplit
  rw [Nat.mul_comm (spacing n)] at hnext
  by_cases hdown : 2 * (n % spacing n) < spacing n ∨
      2 * (n % spacing n) = spacing n ∧ n / spacing n % 2 = 0
  · exact ⟨n / spacing n, if_pos hdown, by omega, by omega, by omega, by omega,
      fun _ => by omega⟩
  · refine ⟨n / spacing n + 1, if_neg hdown, by omega, by omega, ?_⟩
    rw [hnext]
    exact ⟨by omega, by omega, fun _ => by omega⟩

/-- A long number is read as the parts of the nearest number of 53 bits. -/
theorem exists_readsAs_of_le {n : Nat} (h : twoPow 53 ≤ n) :
    ∃ mantissa exponent, 0 < mantissa ∧ Canonical mantissa exponent ∧
      exponent ≤ (n.log2 : Int) - 51 ∧ ReadsAs mantissa exponent n ∧
      value mantissa exponent = nearestNat n := by
  obtain ⟨hlow, hhigh⟩ := div_spacing_bounds h
  have hlog : 53 ≤ n.log2 := (Nat.le_log2 (Nat.ne_of_gt ((twoPow_pos 53).trans_le h))).2 h
  have hunit : (2 : ℚ) ^ ((n.log2 : Int) - 52) = spacing n := by
    rw [spacing, cast_twoPow, ← zpow_natCast]
    congr 1
    omega
  obtain ⟨count, hnearest, hleast, hmost, hbelow, habove, hodd⟩ := exists_multiple n
  have hbelow' : 2 * (count * spacing n : ℚ) ≤ 2 * n + spacing n := by exact_mod_cast hbelow
  have habove' : 2 * (n : ℚ) ≤ 2 * (count * spacing n) + spacing n := by exact_mod_cast habove
  rw [hnearest, Nat.cast_mul]
  by_cases hfits : count < twoPow 53
  · refine ⟨count, n.log2 - 52, (twoPow_pos 52).trans_le (hlow.trans hleast),
      ⟨hfits, by omega, .inl (hlow.trans hleast)⟩, by omega, ?_, by rw [value, hunit]⟩
    refine readsAs_of_near ((twoPow_pos 52).trans_le (hlow.trans hleast)) ?_ ?_ ?_ ?_
    · rw [hunit]
      linarith
    · rw [hunit]
      linarith
    · intro hcount
      obtain ⟨hstrict, hstrict'⟩ := hodd hcount
      have hcast : 2 * (count * spacing n : ℚ) < 2 * n + spacing n := by exact_mod_cast hstrict
      have hcast' : 2 * (n : ℚ) < 2 * (count * spacing n) + spacing n := by
        exact_mod_cast hstrict'
      rw [hunit]
      exact ⟨by linarith, by linarith⟩
    · -- The multiple is the one below the number, since that has 53 bits already.
      intro hcount
      have hfloor : count * spacing n ≤ n := by
        have hsame : count = n / spacing n := by omega
        rw [hsame]
        exact Nat.div_mul_le_self n (spacing n)
      have hcast : (count * spacing n : ℚ) ≤ n := by exact_mod_cast hfloor
      rw [hunit]
      linarith
  · have hcount : count = twoPow 53 := by omega
    have hdouble : (2 : ℚ) ^ ((n.log2 : Int) - 51) = 2 * spacing n := by
      have hnext : (n.log2 : Int) - 51 = (n.log2 : Int) - 52 + 1 := by omega
      rw [hnext, zpow_add_one₀ two_ne_zero, hunit, mul_comm]
    have hhalf : (twoPow 53 : ℚ) = 2 * twoPow 52 := by
      rw [cast_twoPow, cast_twoPow]
      ring
    rw [hcount, hhalf] at hbelow' habove'
    refine ⟨twoPow 52, n.log2 - 51, twoPow_pos 52, ⟨by decide, by omega, .inl le_rfl⟩, le_rfl,
      readsAs_of_near (twoPow_pos 52) ?_ ?_ ?_ fun _ => ?_, ?_⟩
    · rw [hdouble]
      linarith
    · rw [hdouble]
      linarith
    · intro hbit
      exact absurd hbit (by rw [twoPow_52]; decide)
    · rw [hdouble]
      linarith
    · rw [value, hdouble, hcount, hhalf]
      ring

/-- A number is read as the parts of the nearest number of 53 bits. -/
theorem exists_readsAs {n : Nat} (hpos : 0 < n) :
    ∃ mantissa exponent, 0 < mantissa ∧ Canonical mantissa exponent ∧
      exponent ≤ (n.log2 : Int) - 51 ∧ ReadsAs mantissa exponent n ∧
      value mantissa exponent = nearestNat n := by
  by_cases hshort : n < twoPow 53
  · have hvalue := value_whole hpos hshort
    refine ⟨wholeMantissa n, wholeExponent n, wholeMantissa_pos hpos,
      canonical_whole hpos hshort, by unfold wholeExponent; omega, ?_, ?_⟩
    · rw [← hvalue]
      exact readsAs_value (wholeMantissa_pos hpos) _
    · rw [hvalue, nearestNat_of_lt hshort]
  · exact exists_readsAs_of_le (Nat.le_of_not_lt hshort)

/-- The number that a natural number becomes. -/
theorem denotes_ofNat {n : Nat} (h : n < twoPow 64) : Denotes (Float.ofNat n) (nearestNat n) := by
  rcases Nat.eq_zero_or_pos n with rfl | hpos
  · rw [nearestNat_of_lt (twoPow_pos 53)]
    exact ⟨false, 0, -1074, by decide +kernel, by simp⟩
  · obtain ⟨mantissa, exponent, hmantissa, hcanonical, hexponent, hreads, hvalue⟩ :=
      exists_readsAs hpos
    have hlog : n.log2 < 64 := (Nat.log2_lt hpos.ne').2 h
    have hdecimal : (n : ℚ) =
        n * 10 ^ (if false then -((0 : Nat) : Int) else ((0 : Nat) : Int)) := by
      simp
    rw [hdecimal] at hreads
    exact ⟨false, mantissa, exponent,
      ofFloat_ofScientific hpos hmantissa hcanonical (by omega) hreads, hvalue⟩

/-- The number that an integer becomes. -/
theorem denotes_ofInt {i : Int} (h : i.natAbs < twoPow 64) :
    Denotes (Float.ofInt i) (nearestInt i) := by
  have hnat := denotes_ofNat h
  cases i with
  | ofNat n => exact hnat
  | negSucc n =>
      have hneg := hnat.neg
      rw [nearestInt, if_pos (Int.negSucc_lt_zero n), Int.cast_neg, Int.cast_natCast]
      exact hneg

theorem denotes_ofInt64 (i : Int64) : Denotes (Float.ofInt i.toInt) (nearestInt i.toInt) := by
  have hlow := i.le_toInt
  have hhigh := i.toInt_lt
  have htop : twoPow 64 = 18446744073709551616 := rfl
  exact denotes_ofInt (by omega)

/-- The digits of a natural number of 64 bits are read as the number that it becomes. -/
theorem nearest_exponent_zero {n : Nat} (h : n < twoPow 64) :
    Numeral.nearest n 0 = Float.ofNat n := by
  rcases Nat.eq_zero_or_pos n with rfl | hpos
  · exact ofFloat_injective (by decide +kernel)
  · have hlength : (natText n).length ≤ 20 :=
      (Nat.length_toDigits_le_iff (by decide) (by decide)).2 (h.trans (by decide))
    rw [Numeral.nearest, if_neg hpos.ne', if_neg (by omega), if_neg (by omega)]
    rfl

/-- The number that is read from the digits of an integer. -/
theorem denotes_of_readInteger? {text : Text} {n : Int64} (h : readInteger? text = some n) :
    ∃ f, readFloat? text = some f ∧ Denotes f (nearestInt n.toInt) := by
  obtain ⟨magnitude, hdigits, hvalue⟩ := exists_magnitude_of_readInteger? h
  have hsmall : magnitude < twoPow 64 := by
    have hlow := n.le_toInt
    have hhigh := n.toInt_lt
    have htop : twoPow 64 = 18446744073709551616 := rfl
    split at hvalue <;> omega
  have hnat := denotes_ofNat hsmall
  refine ⟨_, by rw [readFloat?, Numeral.read?_of_readDigits? hdigits]; rfl, ?_⟩
  rw [Numeral.toFloat, nearest_exponent_zero hsmall, hvalue]
  cases (splitSign text).1 with
  | false =>
      rw [if_neg Bool.false_ne_true, if_neg Bool.false_ne_true, nearestInt_natCast]
      exact hnat
  | true =>
      rw [if_pos rfl, if_pos rfl, nearestInt_neg_natCast, Int.cast_neg, Int.cast_natCast]
      exact hnat.neg

end Binary

end RiskTally
