import RiskTally.Number.Power
import RiskTally.Text.Basic

/-!
# Integers in text, and sums that saturate

Weights, scores and integer cells are 64-bit. They are read from plain decimal digits
with an optional sign, and added so that a sum past either end stays at that end.

## Main results

* `readInteger?_intText`: every 64-bit integer is read back from its decimal digits.
* `toInt_satAdd`: the saturating sum is the integer sum, clamped to the range.
* `toInt_satAdd_of_inRange`: within the range it is the integer sum.
* `satAdd_mono`: it does not fall when what is added does not.
-/

namespace RiskTally

/-! ## Reading -/

/-- The value of an ASCII decimal digit. -/
def digit? (c : Char) : Option Nat :=
  if '0' ≤ c ∧ c ≤ '9' then some (c.toNat - '0'.toNat) else none

/-- The value of a run of digits that continues the number `acc`. -/
def readDigitsFrom : (acc : Nat) → Text → Option Nat
  | acc, [] => some acc
  | acc, c :: text =>
    match digit? c with
    | some d => readDigitsFrom (10 * acc + d) text
    | none => none

/-- The value of a nonempty text of decimal digits. -/
def readDigits? : Text → Option Nat
  | [] => none
  | text => readDigitsFrom 0 text

/-- A text splits into its sign, true for a minus, and what follows it. -/
def splitSign : Text → Bool × Text
  | '-' :: text => (true, text)
  | '+' :: text => (false, text)
  | text => (false, text)

/-- A signed decimal integer within the 64-bit range. -/
def readInteger? (text : Text) : Option Int64 :=
  let (negative, digits) := splitSign text
  match readDigits? digits with
  | some n =>
    let value : Int := if negative then -n else n
    if inRange value then some (Int64.ofInt value) else none
  | none => none

/-- A decimal count of at most 64 bits, with an optional plus sign. -/
def readCount? (text : Text) : Option Nat :=
  let digits := match text with
    | '+' :: rest => rest
    | _ => text
  match readDigits? digits with
  | some n => if n < twoPow 64 then some n else none
  | none => none

/-! ## Writing -/

/-- The decimal digits of a number. -/
def natText (n : Nat) : Text :=
  Nat.toDigits 10 n

/-- The decimal digits of an integer, after a minus when it is negative. -/
def intText (n : Int) : Text :=
  if n < 0 then '-' :: natText n.natAbs else natText n.natAbs

/-! ## What is written can be read -/

theorem digit?_digitChar {d : Nat} (h : d < 10) : digit? d.digitChar = some d := by
  have hall : ∀ d < 10, digit? d.digitChar = some d := by decide
  exact hall d h

theorem readDigitsFrom_append (acc : Nat) (text rest : Text) :
    readDigitsFrom acc (text ++ rest) =
      (readDigitsFrom acc text).bind fun value => readDigitsFrom value rest := by
  induction text generalizing acc with
  | nil => rfl
  | cons c text ih =>
    rw [List.cons_append, readDigitsFrom, readDigitsFrom]
    cases digit? c with
    | none => rfl
    | some d => exact ih (10 * acc + d)

theorem readDigitsFrom_natText (n : Nat) : readDigitsFrom 0 (natText n) = some n := by
  unfold natText
  induction n using Nat.strongRecOn with
  | _ n ih =>
    by_cases hsmall : n < 10
    · rw [Nat.toDigits_of_lt_base hsmall, readDigitsFrom, digit?_digitChar hsmall]
      simp [readDigitsFrom]
    · have hdigit := digit?_digitChar (Nat.mod_lt n (show 0 < 10 by decide))
      rw [Nat.toDigits_of_base_le (by decide) (by omega), readDigitsFrom_append,
        ih (n / 10) (by omega), Option.bind_some, readDigitsFrom, hdigit]
      show some (10 * (n / 10) + n % 10) = some n
      rw [Nat.div_add_mod]

theorem natText_ne_nil (n : Nat) : natText n ≠ [] :=
  Nat.toDigits_ne_nil

theorem isDigit_of_mem_natText {c : Char} {n : Nat} (h : c ∈ natText n) : c.isDigit = true :=
  Nat.isDigit_of_mem_toDigits (by decide) (by decide) h

theorem readDigits?_natText (n : Nat) : readDigits? (natText n) = some n := by
  have hread := readDigitsFrom_natText n
  cases hdigits : natText n with
  | nil => exact absurd hdigits (natText_ne_nil n)
  | cons c digits =>
    rw [hdigits] at hread
    exact hread

theorem splitSign_natText (n : Nat) : splitSign (natText n) = (false, natText n) := by
  cases hdigits : natText n with
  | nil => rfl
  | cons c digits =>
    have hc : c.isDigit = true := isDigit_of_mem_natText (n := n) (by simp [hdigits])
    unfold splitSign
    split
    · rename_i heq
      obtain ⟨rfl, -⟩ := List.cons.inj heq
      contradiction
    · rename_i heq
      obtain ⟨rfl, -⟩ := List.cons.inj heq
      contradiction
    · rfl

/-- Every 64-bit integer is read back from its decimal digits. -/
theorem readInteger?_intText (value : Int64) : readInteger? (intText value.toInt) = some value := by
  have hlow := value.le_toInt
  have hhigh := value.toInt_lt
  have hrange : inRange value.toInt = true := by
    simp only [inRange, Bool.and_eq_true, decide_eq_true_eq]
    omega
  by_cases hneg : value.toInt < 0
  · have habs : -(value.toInt.natAbs : Int) = value.toInt := by omega
    rw [intText, if_pos hneg, readInteger?, splitSign]
    simp only [readDigits?_natText, if_true, habs, hrange, Int64.ofInt_toInt]
  · have habs : (value.toInt.natAbs : Int) = value.toInt := by omega
    rw [intText, if_neg hneg, readInteger?, splitSign_natText]
    simp only [readDigits?_natText, Bool.false_eq_true, if_false, habs, hrange, if_true,
      Int64.ofInt_toInt]

example : readInteger? "-007".toList = some (-7) := by decide
example : readInteger? "+7".toList = some 7 := by decide
example : readInteger? " 7".toList = none := by decide
example : readInteger? "7.0".toList = none := by decide
example : readInteger? "-".toList = none := by decide
example : readInteger? "-9223372036854775808".toList = some Int64.minValue := by decide
example : readInteger? "9223372036854775808".toList = none := by decide
example : readCount? "+18446744073709551615".toList = some 18446744073709551615 := by decide
example : readCount? "-0".toList = none := by decide
example : intText (-45000) = "-45000".toList := by decide

/-! ## Saturating sums -/

/-- The sum, held at the end of the 64-bit range that it would pass. -/
def satAdd (a b : Int64) : Int64 :=
  Int64.ofIntClamp (a.toInt + b.toInt)

/-- The saturating sum of a list, taken from the left. -/
def satSum (scores : List Int64) : Int64 :=
  scores.foldl satAdd 0

private theorem toInt_minValue : Int64.minValue.toInt = -9223372036854775808 := by decide

private theorem toInt_maxValue : Int64.maxValue.toInt = 9223372036854775807 := by decide

theorem toInt_satAdd (a b : Int64) :
    (satAdd a b).toInt =
      max Int64.minValue.toInt (min (a.toInt + b.toInt) Int64.maxValue.toInt) := by
  have hmin := toInt_minValue
  have hmax := toInt_maxValue
  by_cases low : Int64.minValue.toInt ≤ a.toInt + b.toInt
  · by_cases high : a.toInt + b.toInt ≤ Int64.maxValue.toInt
    · rw [satAdd, Int64.toInt_ofIntClamp low high]
      omega
    · rw [satAdd, Int64.ofIntClamp, dif_pos low, dif_neg high]
      omega
  · rw [satAdd, Int64.ofIntClamp, dif_neg low]
    omega

theorem toInt_satAdd_of_inRange {a b : Int64} (h : inRange (a.toInt + b.toInt) = true) :
    (satAdd a b).toInt = a.toInt + b.toInt := by
  simp only [inRange, Bool.and_eq_true, decide_eq_true_eq] at h
  rw [toInt_satAdd, toInt_minValue, toInt_maxValue]
  omega

theorem satAdd_mono {a b c d : Int64} (hab : a ≤ b) (hcd : c ≤ d) :
    satAdd a c ≤ satAdd b d := by
  rw [Int64.le_iff_toInt_le] at hab hcd ⊢
  rw [toInt_satAdd, toInt_satAdd]
  omega

theorem le_satAdd {a amount : Int64} (h : 0 ≤ amount) : a ≤ satAdd a amount := by
  have hlow := a.le_toInt
  have hhigh := a.toInt_lt
  rw [Int64.le_iff_toInt_le, Int64.toInt_zero] at h
  rw [Int64.le_iff_toInt_le, toInt_satAdd, toInt_minValue, toInt_maxValue]
  omega

theorem satAdd_le {a amount : Int64} (h : amount ≤ 0) : satAdd a amount ≤ a := by
  have hlow := a.le_toInt
  have hhigh := a.toInt_lt
  rw [Int64.le_iff_toInt_le, Int64.toInt_zero] at h
  rw [Int64.le_iff_toInt_le, toInt_satAdd, toInt_minValue, toInt_maxValue]
  omega

theorem satSum_append (left right : List Int64) :
    satSum (left ++ right) = right.foldl satAdd (satSum left) :=
  List.foldl_append

theorem satSum_concat (amounts : List Int64) (amount : Int64) :
    satSum (amounts ++ [amount]) = satAdd (satSum amounts) amount :=
  satSum_append amounts [amount]

end RiskTally
