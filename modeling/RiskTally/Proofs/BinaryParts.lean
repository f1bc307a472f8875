import Mathlib
import RiskTally.Number.Decimal

/-!
# The parts of a floating-point number

A floating-point number is known by its parts: what is no number and the two infinities
apart, a sign, a mantissa and a power of two.  The parts that numbers have are canonical:
the mantissa has 53 bits, or fewer at the smallest power.  A number with canonical parts can
be put together again, and two numbers with the same parts are the same.

## Main results

* `Binary.ofFloat_eq`: the parts of a number are those of its logical model.
* `Binary.canonical_of_ofFloat`: the parts of a number are canonical.
* `Binary.ofFloat_injective`: a number is known by its parts.
* `Binary.ofFloat_pack`: canonical parts are those of some number.
* `Binary.ofFloat_pack_ne_nan`: what is a number stays one when it is put together.
-/

namespace RiskTally

open Float.Model (Format UnpackedFloat)
open Float.Model.UnpackedFloat

namespace Binary

/-! ## The fields of a bit pattern -/

theorem twoPow_52 : twoPow 52 = 4503599627370496 := rfl

theorem twoPow_53 : twoPow 53 = 9007199254740992 := rfl

section Fields

variable (b : BitVec Format.binary64.numBits)

theorem toNat_unpackMantissa : (unpackMantissa b).toNat = b.toNat % twoPow 52 := by
  simp only [unpackMantissa, BitVec.toNat_cast, BitVec.extractLsb_toNat]
  rfl

theorem toNat_unpackExponent : (unpackExponent b).toNat = b.toNat / twoPow 52 % twoPow 11 := by
  simp only [unpackExponent, BitVec.toNat_cast, BitVec.extractLsb_toNat,
    Nat.shiftRight_eq_div_pow]
  rfl

theorem toNat_unpackSign : (unpackSign b).toNat = b.toNat / twoPow 63 % 2 := by
  simp only [unpackSign, BitVec.toNat_cast, BitVec.extractLsb_toNat, Nat.shiftRight_eq_div_pow]
  rfl

end Fields

/-- The sign is a minus. -/
def isNegative : Sign → Bool
  | .negative => true
  | .positive => false

/-- The parts of an unpacked number. -/
def ofUnpacked : UnpackedFloat → Binary
  | .notANumber => nan
  | .infinity sign => infinite (isNegative sign)
  | .zero sign => finite (isNegative sign) 0 (-1074)
  | .finite sign mantissa exponent _ => finite (isNegative sign) mantissa exponent

theorem isNegative_ofBitVec (v : BitVec 1) : isNegative (Sign.ofBitVec v) = (v.toNat == 1) := by
  revert v
  decide

theorem toNat_implicit (v : BitVec 52) : (1#1 ++ v).toNat = twoPow 52 + v.toNat := by
  show 2 ^ 52 ||| v.toNat = _
  rw [Nat.or_comm, Nat.or_two_pow_eq_add_of_lt v.isLt, Nat.add_comm]
  rfl

/-- The parts of a bit pattern are those of the unpacked number. -/
theorem ofBits_eq (b : BitVec Format.binary64.numBits) :
    ofBits b.toNat = ofUnpacked (unpack Format.binary64 b) := by
  have hmantissa := toNat_unpackMantissa b
  have hexponent := toNat_unpackExponent b
  have hsign := isNegative_ofBitVec (unpackSign b)
  rw [toNat_unpackSign] at hsign
  have hfull : unpackExponent b = -1#_ ↔ b.toNat / twoPow 52 % twoPow 11 = 2047 := by
    rw [← BitVec.toNat_inj, hexponent]
    rfl
  have hempty : unpackExponent b = 0#_ ↔ b.toNat / twoPow 52 % twoPow 11 = 0 := by
    rw [← BitVec.toNat_inj, hexponent]
    rfl
  have hzero : unpackMantissa b = 0#_ ↔ b.toNat % twoPow 52 = 0 := by
    rw [← BitVec.toNat_inj, hmantissa]
    rfl
  have hbias : ((Format.binary64.exponentBias : Int) +
      (Format.binary64.mantissaBitsWithoutImplicit : Int)) = 1075 := rfl
  unfold ofBits unpack
  simp only [hfull, hempty, hzero, hexponent, hbias, ← hsign]
  by_cases hall : b.toNat / twoPow 52 % twoPow 11 = 2047
  · by_cases hnone : b.toNat % twoPow 52 = 0 <;> simp [hall, hnone, ofUnpacked]
  · rw [if_neg hall, if_neg hall]
    by_cases hlowest : b.toNat / twoPow 52 % twoPow 11 = 0
    · by_cases hnone : b.toNat % twoPow 52 = 0
      · simp [hlowest, hnone, ofUnpacked]
      · simp [hlowest, hnone, ofUnpacked, hmantissa]
    · rw [if_neg hlowest, if_neg hlowest, ofUnpacked, toNat_implicit, hmantissa]

theorem ofFloat_eq (f : Float) : ofFloat f = ofUnpacked f.toModel.unpack :=
  ofBits_eq f.toModel.toBits.toBitVec

/-! ## Canonical parts -/

/-- A mantissa of 53 bits, or of fewer at the smallest power of two. -/
structure Canonical (mantissa : Nat) (exponent : Int) : Prop where
  lt : mantissa < twoPow 53
  least : -1074 ≤ exponent
  full : twoPow 52 ≤ mantissa ∨ exponent = -1074

/-- The parts that the fields of a bit pattern stand for. -/
def ofFields (negative : Bool) (field fraction : Nat) : Binary :=
  if field = 2047 then
    if fraction = 0 then infinite negative else nan
  else if field = 0 then finite negative fraction (-1074)
  else finite negative (twoPow 52 + fraction) ((field : Int) - 1075)

theorem ofFields_eq_finite_iff {negative negative' : Bool} {field fraction mantissa : Nat}
    {exponent : Int} (hfield : field < 2048) :
    ofFields negative field fraction = finite negative' mantissa exponent ↔
      negative = negative' ∧ ((field = 0 ∧ mantissa = fraction ∧ exponent = -1074) ∨
        (0 < field ∧ field < 2047 ∧ mantissa = twoPow 52 + fraction ∧
          exponent = (field : Int) - 1075)) := by
  unfold ofFields
  by_cases hall : field = 2047
  · by_cases hnone : fraction = 0 <;> simp [hall, hnone]
  · rw [if_neg hall]
    by_cases hlowest : field = 0
    · simp [hlowest, eq_comm]
    · rw [if_neg hlowest]
      simp only [finite.injEq, hlowest, false_and, false_or]
      constructor
      · rintro ⟨hnegative, hmantissa, hexponent⟩
        exact ⟨hnegative, by omega, by omega, hmantissa.symm, hexponent.symm⟩
      · rintro ⟨hnegative, -, -, hmantissa, hexponent⟩
        exact ⟨hnegative, hmantissa.symm, hexponent.symm⟩

theorem ofFields_eq_nan_iff {negative : Bool} {field fraction : Nat} :
    ofFields negative field fraction = nan ↔ field = 2047 ∧ fraction ≠ 0 := by
  unfold ofFields
  split
  · split <;> simp [*]
  · split <;> simp [*]

theorem ofFloat_eq_ofFields (f : Float) : ofFloat f = ofFields
    (f.toBits.toNat / twoPow 63 % 2 == 1) (f.toBits.toNat / twoPow 52 % twoPow 11)
    (f.toBits.toNat % twoPow 52) := rfl

/-- The parts of a number are canonical. -/
theorem canonical_of_ofFloat {f : Float} {negative : Bool} {mantissa : Nat} {exponent : Int}
    (h : ofFloat f = finite negative mantissa exponent) :
    Canonical mantissa exponent ∧ exponent ≤ 971 := by
  have hfield : f.toBits.toNat / twoPow 52 % twoPow 11 < 2048 := Nat.mod_lt _ (by decide)
  have hfraction : f.toBits.toNat % twoPow 52 < twoPow 52 := Nat.mod_lt _ (by decide)
  have h52 := twoPow_52
  have h53 := twoPow_53
  rw [ofFloat_eq_ofFields, ofFields_eq_finite_iff hfield] at h
  obtain ⟨-, ⟨-, rfl, rfl⟩ | ⟨hpos, hlt, rfl, rfl⟩⟩ := h
  · exact ⟨⟨by omega, by omega, .inr rfl⟩, by omega⟩
  · exact ⟨⟨by omega, by omega, .inl (Nat.le_add_right _ _)⟩, by omega⟩

/-! ## Numbers from their parts -/

theorem isNegative_injective : Function.Injective isNegative := by
  intro sign sign' h
  cases sign <;> cases sign' <;> first | rfl | contradiction

/-- An unpacked number is known by its parts: only a zero has the mantissa zero. -/
theorem ofUnpacked_injective : Function.Injective ofUnpacked := by
  intro left right h
  cases left with
  | notANumber => cases right <;> simp_all [ofUnpacked]
  | infinity sign => cases right <;> simp_all [ofUnpacked, isNegative_injective.eq_iff]
  | zero sign =>
      cases right with
      | finite sign' mantissa exponent hpos =>
          have hzero := (finite.inj h).2.1
          omega
      | _ => simp_all [ofUnpacked, isNegative_injective.eq_iff]
  | finite sign mantissa exponent hpos =>
      cases right with
      | zero sign' =>
          have hzero := (finite.inj h).2.1
          omega
      | _ => simp_all [ofUnpacked, isNegative_injective.eq_iff]

/-- A number is known by its parts. -/
theorem ofFloat_injective {f g : Float} (h : ofFloat f = ofFloat g) : f = g := by
  rw [ofFloat_eq, ofFloat_eq] at h
  have hbits := (unpack_inj_of_valid f.toModel.valid g.toModel.valid).1 (ofUnpacked_injective h)
  exact Float.toBits_inj.1 (UInt64.toBitVec_inj.1 hbits)

theorem ofFloat_nan : ofFloat Float.nan = nan := by
  decide +kernel

theorem ofFloat_eq_nan_iff {f : Float} : ofFloat f = nan ↔ f = Float.nan := by
  rw [← ofFloat_nan]
  exact ⟨ofFloat_injective, congrArg ofFloat⟩

/-- The parts of the number that fields are packed into. -/
theorem ofFloat_of_pack {packed : UnpackedFloat} {sign : Sign} {field : BitVec 11}
    {fraction : BitVec 52} (h : pack Format.binary64 packed =
      packComponents Format.binary64 sign field fraction) :
    ofFloat ⟨Float.Model.pack packed⟩ =
      ofFields (isNegative sign) field.toNat fraction.toNat := by
  have hbits : (Float.ofModel (Float.Model.pack packed)).toBits.toNat =
      (packComponents Format.binary64 sign field fraction).toNat := by
    rw [← h]
    rfl
  have hnegative : isNegative sign = (sign.toBitVec.toNat == 1) := by
    cases sign <;> rfl
  rw [ofFloat_eq_ofFields, hbits, ← toNat_unpackSign, ← toNat_unpackExponent,
    ← toNat_unpackMantissa, unpackSign_packComponents, unpackExponent_packComponents,
    unpackMantissa_packComponents, hnegative]

theorem log2_add_one_eq_iff {mantissa : Nat} (hpos : 0 < mantissa)
    (h : mantissa < twoPow 53) :
    mantissa.log2 + 1 = Format.binary64.mantissaBits ↔ twoPow 52 ≤ mantissa := by
  have hlow : 52 ≤ mantissa.log2 ↔ twoPow 52 ≤ mantissa := Nat.le_log2 (Nat.ne_of_gt hpos)
  have hhigh : mantissa.log2 < 53 := (Nat.log2_lt (Nat.ne_of_gt hpos)).2 h
  have hbits : Format.binary64.mantissaBits = 53 := rfl
  omega

/-- The fields that a finite number is packed into. -/
theorem pack_finite (sign : Sign) (mantissa : Nat) (exponent : Int) (hpos : 0 < mantissa) :
    pack Format.binary64 (.finite sign mantissa exponent hpos) =
      if twoPow 11 ≤ (exponent + 1075).toNat + 1 then
        packComponents Format.binary64 sign (-1#11) 0#52
      else if mantissa.log2 + 1 = Format.binary64.mantissaBits then
        packComponents Format.binary64 sign (BitVec.ofNat 11 (exponent + 1075).toNat)
          (BitVec.ofNat 52 mantissa)
      else packComponents Format.binary64 sign 0#11 (BitVec.ofNat 52 mantissa) := by
  have hbias : exponent + (Format.binary64.exponentBias : Int) +
      (Format.binary64.mantissaBitsWithoutImplicit : Int) = exponent + 1075 :=
    Int.add_assoc exponent 1023 52
  rw [pack, hbias]
  rfl

/-- Canonical parts are those of some number. -/
theorem ofFloat_pack {sign : Sign} {mantissa : Nat} {exponent : Int} (hpos : 0 < mantissa)
    (h : Canonical mantissa exponent) (hmost : exponent ≤ 971) :
    ofFloat ⟨Float.Model.pack (.finite sign mantissa exponent hpos)⟩ =
      finite (isNegative sign) mantissa exponent := by
  have hpack := pack_finite sign mantissa exponent hpos
  have hlog := log2_add_one_eq_iff hpos h.lt
  have hfits : ¬ twoPow 11 ≤ (exponent + 1075).toNat + 1 := by
    have h11 : twoPow 11 = 2048 := rfl
    omega
  have hleast := h.least
  have hlt := h.lt
  have h52 := twoPow_52
  have h53 := twoPow_53
  rw [if_neg hfits] at hpack
  by_cases hfull : twoPow 52 ≤ mantissa
  · rw [if_pos (hlog.2 hfull)] at hpack
    have hfield : (BitVec.ofNat 11 (exponent + 1075).toNat).toNat = (exponent + 1075).toNat := by
      rw [BitVec.toNat_ofNat]
      omega
    have hfraction : (BitVec.ofNat 52 mantissa).toNat = mantissa - twoPow 52 := by
      rw [BitVec.toNat_ofNat]
      omega
    rw [ofFloat_of_pack hpack, hfield, hfraction, ofFields_eq_finite_iff (by omega)]
    exact ⟨rfl, .inr ⟨by omega, by omega, by omega, by omega⟩⟩
  · rw [if_neg (mt hlog.1 hfull)] at hpack
    have hfraction : (BitVec.ofNat 52 mantissa).toNat = mantissa := by
      rw [BitVec.toNat_ofNat]
      omega
    rw [ofFloat_of_pack hpack, hfraction, ofFields_eq_finite_iff (by decide)]
    exact ⟨rfl, .inl ⟨rfl, rfl, h.full.resolve_left hfull⟩⟩

/-- What is a number stays one when it is packed. -/
theorem ofFloat_pack_ne_nan {packed : UnpackedFloat} (h : packed ≠ .notANumber) :
    ofFloat ⟨Float.Model.pack packed⟩ ≠ nan := by
  have hfields : ∃ (sign : Sign) (field : BitVec 11) (fraction : BitVec 52),
      pack Format.binary64 packed = packComponents Format.binary64 sign field fraction ∧
        (field.toNat = 2047 → fraction.toNat = 0) := by
    cases packed with
    | notANumber => contradiction
    | infinity sign => exact ⟨sign, -1#11, 0#52, rfl, fun _ => rfl⟩
    | zero sign => exact ⟨sign, 0#11, 0#52, rfl, fun _ => rfl⟩
    | finite sign mantissa exponent hpos =>
        have hpack := pack_finite sign mantissa exponent hpos
        split at hpack
        · exact ⟨sign, _, _, hpack, fun _ => rfl⟩
        · rename_i hfits
          split at hpack
          · refine ⟨sign, _, _, hpack, fun hfield => ?_⟩
            have h11 : twoPow 11 = 2048 := rfl
            rw [BitVec.toNat_ofNat] at hfield
            omega
          · exact ⟨sign, _, _, hpack, fun hfield => absurd hfield (by decide)⟩
  obtain ⟨sign, field, fraction, hpack, hzero⟩ := hfields
  rw [ofFloat_of_pack hpack, ne_eq, ofFields_eq_nan_iff, not_and, Decidable.not_not]
  exact hzero

/-! ## The other sign -/

/-- The parts with the other sign. -/
def neg : Binary → Binary
  | nan => nan
  | infinite negative => infinite !negative
  | finite negative mantissa exponent => finite (!negative) mantissa exponent

theorem isNegative_neg (sign : Sign) : isNegative (-sign) = !isNegative sign := by
  cases sign <;> rfl

theorem ofFloat_neg (f : Float) : ofFloat (-f) = (ofFloat f).neg := by
  have hneg : -f = ⟨Float.Model.pack f.toModel.unpack.neg⟩ := rfl
  have hparts := ofFloat_eq f
  rw [hneg]
  cases hunpacked : f.toModel.unpack with
  | notANumber =>
      rw [hunpacked] at hparts
      rw [hparts]
      decide +kernel
  | infinity sign =>
      rw [hunpacked] at hparts
      rw [hparts]
      cases sign <;> decide +kernel
  | zero sign =>
      rw [hunpacked] at hparts
      rw [hparts]
      cases sign <;> decide +kernel
  | finite sign mantissa exponent hpos =>
      rw [hunpacked] at hparts
      obtain ⟨hcanonical, hmost⟩ := canonical_of_ofFloat hparts
      rw [hparts, UnpackedFloat.neg, ofFloat_pack hpos hcanonical hmost, isNegative_neg]
      rfl

end Binary

end RiskTally
