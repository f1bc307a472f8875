import RiskTally.Number.Integer

/-!
# Floating-point numbers as exact values

A 64-bit floating-point number is taken apart into its sign, a whole mantissa and a
power of two. Text forms, keys and truncation are computed from these parts in exact
integer arithmetic.

## Main results

* `Binary.whole?_eq_some_iff`: a magnitude is whole exactly when some natural number
  is its value.
-/

namespace RiskTally

/-- The value of a floating-point number: `mantissa · 2 ^ exponent` where it is finite. -/
inductive Binary where
  | nan
  | infinite (negative : Bool)
  | finite (negative : Bool) (mantissa : Nat) (exponent : Int)
  deriving DecidableEq, Repr

namespace Binary

/-- The parts of a 64-bit pattern: one sign bit, eleven exponent bits, 52 fraction bits. -/
def ofBits (bits : Nat) : Binary :=
  let negative := bits / twoPow 63 % 2 == 1
  let field : Nat := bits / twoPow 52 % twoPow 11
  let fraction := bits % twoPow 52
  if field = 2047 then
    if fraction = 0 then infinite negative else nan
  else if field = 0 then finite negative fraction (-1074)
  else finite negative (twoPow 52 + fraction) ((field : Int) - 1075)

/-- The parts of a floating-point number. -/
def ofFloat (f : Float) : Binary :=
  ofBits f.toBits.toNat

/-- The whole part of `mantissa · 2 ^ exponent`. -/
def truncate (mantissa : Nat) (exponent : Int) : Nat :=
  mantissa * twoPow exponent.toNat / twoPow (-exponent).toNat

/-- The value of `mantissa · 2 ^ exponent`, when it is whole. -/
def whole? (mantissa : Nat) (exponent : Int) : Option Nat :=
  if mantissa * twoPow exponent.toNat % twoPow (-exponent).toNat = 0 then
    some (truncate mantissa exponent)
  else none

theorem whole?_eq_some_iff {mantissa n : Nat} {exponent : Int} :
    whole? mantissa exponent = some n ↔
      mantissa * twoPow exponent.toNat = n * twoPow (-exponent).toNat := by
  have hpos := twoPow_pos (-exponent).toNat
  unfold whole? truncate
  constructor
  · intro h
    split at h
    · rename_i hmod
      obtain rfl := Option.some.inj h
      exact (Nat.div_mul_cancel (Nat.dvd_of_mod_eq_zero hmod)).symm
    · exact absurd h (by simp)
  · intro h
    rw [h, Nat.mul_mod_left, if_pos rfl, Nat.mul_div_cancel _ hpos]

/-- The sign applied to a magnitude. -/
def signed (negative : Bool) (n : Nat) : Int :=
  if negative then -n else n

example : ofFloat 1.5 = finite false (3 * 2 ^ 51) (-52) := by decide +kernel
example : ofFloat (-0.0) = finite true 0 (-1074) := by decide +kernel
example : whole? (3 * 2 ^ 51) (-51) = some 3 := by decide
example : whole? (3 * 2 ^ 51) (-52) = none := by decide

end Binary

end RiskTally
