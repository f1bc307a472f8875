import RiskTally.Proofs.BinaryParts
import RiskTally.Expression.Predicate

/-!
# The values of floating-point numbers

A finite floating-point number has a rational value.  Canonical parts are ordered like their
values: the powers of two decide first, because every mantissa above the smallest power has
all of its bits.  So comparing two finite numbers compares their values.

## Main results

* `Binary.value_lt_of_lt`: a higher power of two makes a greater value.
* `Binary.compare_unpacked`: finite numbers are compared by value.
* `Comparison.holds_iff_relates`: what a comparison of finite numbers says.
* `Comparison.holds_nan`: nothing compares with what is no number.
* `Binary.beq_self_iff`: a number is equal to itself, what is no number is not.
* `Binary.holds_iff_of_denotes`: comparing numbers compares their values.
* `Binary.Denotes.eq_of_ne_zero`: a number that is not zero is known by its value.
-/

namespace RiskTally

open Float.Model (Format UnpackedFloat)
open Float.Model.UnpackedFloat

/-- How a comparison relates two values. -/
def Comparison.Relates {α : Type} [LE α] [LT α] (op : Comparison) (a b : α) : Prop :=
  match op with
  | eq => a = b
  | ge => b ≤ a
  | le => a ≤ b
  | gt => b < a
  | lt => a < b

namespace Binary

/-! ## Values -/

/-- The value of `mantissa · 2 ^ exponent`. -/
def value (mantissa : Nat) (exponent : Int) : ℚ :=
  mantissa * 2 ^ exponent

/-- The value with its sign. -/
def signedValue (negative : Bool) (mantissa : Nat) (exponent : Int) : ℚ :=
  if negative then -value mantissa exponent else value mantissa exponent

theorem value_pos {mantissa : Nat} (h : 0 < mantissa) (exponent : Int) :
    0 < value mantissa exponent := by
  unfold value
  positivity

theorem value_nonneg (mantissa : Nat) (exponent : Int) : 0 ≤ value mantissa exponent := by
  unfold value
  positivity

@[simp] theorem value_zero (exponent : Int) : value 0 exponent = 0 := by
  simp [value]

/-- At one power of two the mantissas decide. -/
theorem value_lt_iff {mantissa other : Nat} {exponent : Int} :
    value mantissa exponent < value other exponent ↔ mantissa < other := by
  have hpos : (0 : ℚ) < 2 ^ exponent := by positivity
  rw [value, value, mul_lt_mul_iff_left₀ hpos, Nat.cast_lt]

theorem cast_twoPow (k : Nat) : (twoPow k : ℚ) = 2 ^ k :=
  Nat.cast_pow 2 k

/-- A power is a whole number or one over a whole number. -/
theorem zpow_mul_toNat {a : ℚ} (ha : a ≠ 0) (e : Int) : a ^ e * a ^ (-e).toNat = a ^ e.toNat := by
  rw [← zpow_natCast, ← zpow_natCast, ← zpow_add₀ ha]
  congr 1
  omega

/-- A magnitude is whole if its value is a whole number. -/
theorem whole?_eq_some_iff_value {mantissa n : Nat} {exponent : Int} :
    whole? mantissa exponent = some n ↔ value mantissa exponent = n := by
  have hunit : (2 : ℚ) ^ (-exponent).toNat ≠ 0 := by positivity
  rw [whole?_eq_some_iff, value, ← mul_left_inj' hunit, mul_assoc, zpow_mul_toNat two_ne_zero,
    ← cast_twoPow, ← cast_twoPow]
  norm_cast

/-- A mantissa of 54 bits is even, and half of it has 53 bits. -/
theorem twoPow_53_mul (exponent : Int) :
    (twoPow 53 : ℚ) * 2 ^ exponent = twoPow 52 * 2 ^ (exponent + 1) := by
  rw [cast_twoPow, cast_twoPow, zpow_add_one₀ two_ne_zero]
  ring

/-- A higher power of two makes a greater value. -/
theorem value_lt_of_lt {mantissa other : Nat} {exponent higher : Int}
    (h : Canonical mantissa exponent) (h' : Canonical other higher) (hlt : exponent < higher) :
    value mantissa exponent < value other higher := by
  have hleast := h.least
  have hfull : twoPow 52 ≤ other := h'.full.resolve_right (by omega)
  have hpower : (2 : ℚ) ^ (exponent + 1) ≤ 2 ^ higher :=
    zpow_le_zpow_right₀ one_le_two (by omega)
  calc value mantissa exponent < value (twoPow 53) exponent := value_lt_iff.2 h.lt
    _ = twoPow 52 * 2 ^ (exponent + 1) := twoPow_53_mul exponent
    _ ≤ twoPow 52 * 2 ^ higher := by gcongr
    _ ≤ other * 2 ^ higher := by gcongr

/-- Canonical parts are ordered like their values. -/
theorem compare_parts {mantissa other : Nat} {exponent power : Int}
    (h : Canonical mantissa exponent) (h' : Canonical other power) :
    (compare exponent power).then (compare mantissa other) =
      compare (value mantissa exponent) (value other power) := by
  rcases lt_trichotomy exponent power with hlt | rfl | hlt
  · rw [compare_lt_iff_lt.2 hlt, compare_lt_iff_lt.2 (value_lt_of_lt h h' hlt)]
    rfl
  · have hself : compare exponent exponent = .eq := compare_eq_iff_eq.2 rfl
    rw [hself, Ordering.eq_then]
    rcases lt_trichotomy mantissa other with hlt | rfl | hlt
    · rw [compare_lt_iff_lt.2 hlt, compare_lt_iff_lt.2 (value_lt_iff.2 hlt)]
    · rw [compare_eq_iff_eq.2 rfl, compare_eq_iff_eq.2 rfl]
    · rw [compare_gt_iff_gt.2 hlt, compare_gt_iff_gt.2 (value_lt_iff.2 hlt)]
  · rw [compare_gt_iff_gt.2 hlt, compare_gt_iff_gt.2 (value_lt_of_lt h' h hlt)]
    rfl

/-- Canonical parts are known by their value. -/
theorem Canonical.eq_of_value {mantissa other : Nat} {exponent power : Int}
    (h : Canonical mantissa exponent) (h' : Canonical other power)
    (hvalue : value mantissa exponent = value other power) :
    mantissa = other ∧ exponent = power := by
  have hcompare := compare_parts h h'
  rw [compare_eq_iff_eq.2 hvalue, Ordering.then_eq_eq, compare_eq_iff_eq,
    compare_eq_iff_eq] at hcompare
  exact ⟨hcompare.2, hcompare.1⟩

/-! ## Comparing numbers -/

@[simp] theorem signedValue_zero (negative : Bool) (exponent : Int) :
    signedValue negative 0 exponent = 0 := by
  simp [signedValue]

@[simp] theorem signedValue_negative (mantissa : Nat) (exponent : Int) :
    signedValue (isNegative .negative) mantissa exponent = -value mantissa exponent := rfl

@[simp] theorem signedValue_positive (mantissa : Nat) (exponent : Int) :
    signedValue (isNegative .positive) mantissa exponent = value mantissa exponent := rfl

/-- Signed values that are equal and not zero have one sign and one magnitude. -/
theorem signedValue_inj {negative negative' : Bool} {mantissa other : Nat} {exponent power : Int}
    (hne : signedValue negative' other power ≠ 0)
    (h : signedValue negative mantissa exponent = signedValue negative' other power) :
    negative = negative' ∧ value mantissa exponent = value other power := by
  have hleft := value_nonneg mantissa exponent
  have hright := value_nonneg other power
  cases negative with
  | true =>
      cases negative' with
      | true => exact ⟨rfl, neg_inj.1 h⟩
      | false =>
          have hsum : -value mantissa exponent = value other power := h
          have hzero : value other power = 0 := by linarith
          exact absurd hzero hne
  | false =>
      cases negative' with
      | true =>
          have hsum : value mantissa exponent = -value other power := h
          have hzero : value other power = 0 := by linarith
          exact absurd (neg_eq_zero.2 hzero) hne
      | false => exact ⟨rfl, h⟩

/-- A comparison turns around with both signs. -/
theorem swap_compare (a b : ℚ) : (compare a b).swap = compare (-a) (-b) := by
  rcases lt_trichotomy a b with hlt | rfl | hlt
  · rw [compare_lt_iff_lt.2 hlt, compare_gt_iff_gt.2 (neg_lt_neg hlt)]
    rfl
  · rw [compare_eq_iff_eq.2 rfl, compare_eq_iff_eq.2 rfl]
    rfl
  · rw [compare_gt_iff_gt.2 hlt, compare_lt_iff_lt.2 (neg_lt_neg hlt)]
    rfl

/-- The parts of a finite number are those of a zero or those that it is made of. -/
theorem ofUnpacked_eq_finite {unpacked : UnpackedFloat} {negative : Bool} {mantissa : Nat}
    {exponent : Int} (h : ofUnpacked unpacked = finite negative mantissa exponent) :
    ∃ sign, negative = isNegative sign ∧
      ((unpacked = .zero sign ∧ mantissa = 0) ∨
        ∃ hpos, unpacked = .finite sign mantissa exponent hpos) := by
  cases unpacked with
  | notANumber => simp [ofUnpacked] at h
  | infinity sign => simp [ofUnpacked] at h
  | zero sign =>
      obtain ⟨rfl, rfl, -⟩ := finite.inj h
      exact ⟨sign, rfl, .inl ⟨rfl, rfl⟩⟩
  | finite sign mantissa exponent hpos =>
      obtain ⟨rfl, rfl, rfl⟩ := finite.inj h
      exact ⟨sign, rfl, .inr ⟨hpos, rfl⟩⟩

theorem beq_iff (f g : Float) :
    (f == g) = true ↔ f.toModel.unpack.compare g.toModel.unpack = some .eq := by
  show (f.toModel.unpack.compare g.toModel.unpack == some .eq) = true ↔ _
  rw [beq_iff_eq]

theorem lt_iff (f g : Float) :
    f < g ↔ f.toModel.unpack.compare g.toModel.unpack = some .lt := by
  show decide ((f.toModel.unpack.compare g.toModel.unpack == some .lt) = true) = true ↔ _
  rw [decide_eq_true_eq, beq_iff_eq]

theorem le_iff (f g : Float) :
    f ≤ g ↔ (f.toModel.unpack.compare g.toModel.unpack).any (·.isLE) = true := by
  show decide ((f.toModel.unpack.compare g.toModel.unpack).any (·.isLE) = true) = true ↔ _
  rw [decide_eq_true_eq]

/-- Finite numbers are compared by value. -/
theorem compare_unpacked {left right : UnpackedFloat} {negative negative' : Bool}
    {mantissa other : Nat} {exponent power : Int}
    (hleft : ofUnpacked left = finite negative mantissa exponent)
    (hright : ofUnpacked right = finite negative' other power)
    (h : Canonical mantissa exponent) (h' : Canonical other power) :
    left.compare right = some (compare (signedValue negative mantissa exponent)
      (signedValue negative' other power)) := by
  have hparts := compare_parts h h'
  obtain ⟨sign, rfl, ⟨rfl, rfl⟩ | ⟨hpos, rfl⟩⟩ := ofUnpacked_eq_finite hleft
  · obtain ⟨sign', rfl, ⟨rfl, rfl⟩ | ⟨hpos', rfl⟩⟩ := ofUnpacked_eq_finite hright
    · rw [signedValue_zero, signedValue_zero, compare_eq_iff_eq.2 rfl]
      rfl
    · have hvalue := value_pos hpos' power
      rw [signedValue_zero]
      cases sign' with
      | negative =>
          rw [signedValue_negative, compare_gt_iff_gt.2 (neg_neg_of_pos hvalue)]
          rfl
      | positive =>
          rw [signedValue_positive, compare_lt_iff_lt.2 hvalue]
          rfl
  · have hvalue := value_pos hpos exponent
    obtain ⟨sign', rfl, ⟨rfl, rfl⟩ | ⟨hpos', rfl⟩⟩ := ofUnpacked_eq_finite hright
    · rw [signedValue_zero]
      cases sign with
      | negative =>
          rw [signedValue_negative, compare_lt_iff_lt.2 (neg_neg_of_pos hvalue)]
          rfl
      | positive =>
          rw [signedValue_positive, compare_gt_iff_gt.2 hvalue]
          rfl
    · have hvalue' := value_pos hpos' power
      cases sign with
      | negative =>
          cases sign' with
          | negative =>
              rw [signedValue_negative, signedValue_negative, ← swap_compare, ← hparts]
              rfl
          | positive =>
              rw [signedValue_negative, signedValue_positive,
                compare_lt_iff_lt.2 ((neg_neg_of_pos hvalue).trans hvalue')]
              rfl
      | positive =>
          cases sign' with
          | negative =>
              rw [signedValue_negative, signedValue_positive,
                compare_gt_iff_gt.2 ((neg_neg_of_pos hvalue').trans hvalue)]
              rfl
          | positive =>
              rw [signedValue_positive, signedValue_positive, ← hparts]
              rfl

end Binary

namespace Comparison

/-- What a comparison of finite numbers says. -/
theorem holds_iff_relates (op : Comparison) {f g : Float} {negative negative' : Bool}
    {mantissa other : Nat} {exponent power : Int}
    (hf : Binary.ofFloat f = .finite negative mantissa exponent)
    (hg : Binary.ofFloat g = .finite negative' other power) :
    op.holds f g = true ↔ op.Relates (Binary.signedValue negative mantissa exponent)
      (Binary.signedValue negative' other power) := by
  have hcompare := Binary.compare_unpacked ((Binary.ofFloat_eq f).symm.trans hf)
    ((Binary.ofFloat_eq g).symm.trans hg) (Binary.canonical_of_ofFloat hf).1
    (Binary.canonical_of_ofFloat hg).1
  have hcompare' := Binary.compare_unpacked ((Binary.ofFloat_eq g).symm.trans hg)
    ((Binary.ofFloat_eq f).symm.trans hf) (Binary.canonical_of_ofFloat hg).1
    (Binary.canonical_of_ofFloat hf).1
  cases op with
  | eq =>
      rw [holds, Binary.beq_iff, hcompare, Option.some.injEq, compare_eq_iff_eq]
      rfl
  | ge =>
      rw [holds, decide_eq_true_eq, Binary.le_iff, hcompare', Option.any_some,
        ← Ordering.ne_gt_iff_isLE, ← ne_eq, compare_le_iff_le]
      rfl
  | le =>
      rw [holds, decide_eq_true_eq, Binary.le_iff, hcompare, Option.any_some,
        ← Ordering.ne_gt_iff_isLE, ← ne_eq, compare_le_iff_le]
      rfl
  | gt =>
      rw [holds, decide_eq_true_eq, Binary.lt_iff, hcompare', Option.some.injEq,
        compare_lt_iff_lt]
      rfl
  | lt =>
      rw [holds, decide_eq_true_eq, Binary.lt_iff, hcompare, Option.some.injEq,
        compare_lt_iff_lt]
      rfl

/-- Nothing compares with what is no number. -/
theorem holds_nan (op : Comparison) (f : Float) {g : Float} (hg : Binary.ofFloat g = .nan) :
    op.holds f g = false := by
  have hunpack : g.toModel.unpack = .notANumber :=
    Binary.ofUnpacked_injective ((Binary.ofFloat_eq g).symm.trans hg)
  have hleft : UnpackedFloat.compare .notANumber f.toModel.unpack = none := rfl
  have hright : f.toModel.unpack.compare .notANumber = none := by
    cases f.toModel.unpack <;> rfl
  rw [← Bool.not_eq_true]
  cases op with
  | eq => simp [holds, Binary.beq_iff, hunpack, hright]
  | ge => simp [holds, Binary.le_iff, hunpack, hleft]
  | le => simp [holds, Binary.le_iff, hunpack, hright]
  | gt => simp [holds, Binary.lt_iff, hunpack, hleft]
  | lt => simp [holds, Binary.lt_iff, hunpack, hright]

end Comparison

namespace Binary

/-- A number is equal to itself, and what is no number is not. -/
theorem beq_self_iff (f : Float) : (f == f) = true ↔ ofFloat f ≠ nan := by
  rw [Float.beq_self_iff, ne_eq, ne_eq, ofFloat_eq_nan_iff]

/-! ## Numbers and their values -/

/-- The number is finite and has the value. -/
def Denotes (f : Float) (x : ℚ) : Prop :=
  ∃ negative mantissa exponent, ofFloat f = finite negative mantissa exponent ∧
    signedValue negative mantissa exponent = x

theorem Denotes.neg {f : Float} {x : ℚ} (h : Denotes f x) : Denotes (-f) (-x) := by
  obtain ⟨negative, mantissa, exponent, hparts, rfl⟩ := h
  refine ⟨!negative, mantissa, exponent, by rw [ofFloat_neg, hparts]; rfl, ?_⟩
  cases negative <;> simp [signedValue]

/-- Comparing numbers compares their values. -/
theorem holds_iff_of_denotes (op : Comparison) {f g : Float} {x y : ℚ} (hf : Denotes f x)
    (hg : Denotes g y) : op.holds f g = true ↔ op.Relates x y := by
  obtain ⟨negative, mantissa, exponent, hf, rfl⟩ := hf
  obtain ⟨negative', other, power, hg, rfl⟩ := hg
  exact op.holds_iff_relates hf hg

/-- A number that is not zero is known by its value. -/
theorem Denotes.eq_of_ne_zero {f g : Float} {x : ℚ} (hf : Denotes f x) (hg : Denotes g x)
    (hx : x ≠ 0) : f = g := by
  obtain ⟨negative, mantissa, exponent, hf, hvalue⟩ := hf
  obtain ⟨negative', other, power, hg, rfl⟩ := hg
  have hcanonical := (canonical_of_ofFloat hf).1
  have hcanonical' := (canonical_of_ofFloat hg).1
  obtain ⟨hsign, hmagnitude⟩ := signedValue_inj hx hvalue
  obtain ⟨rfl, rfl⟩ := hcanonical.eq_of_value hcanonical' hmagnitude
  rw [hsign] at hf
  exact ofFloat_injective (hf.trans hg.symm)

theorem Denotes.ne_nan {f : Float} {x : ℚ} (h : Denotes f x) : ofFloat f ≠ nan := by
  obtain ⟨negative, mantissa, exponent, hparts, -⟩ := h
  simp [hparts]

end Binary

end RiskTally
