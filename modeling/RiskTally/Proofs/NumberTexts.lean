import RiskTally.Cell
import RiskTally.Proofs.ColumnTypes
import RiskTally.Proofs.ShortestDigits

/-!
# The text of a number says the number

The text of a number is its sign, digits with a point in them, and nothing else, or a word.
Reading such a text puts the digits together again: zeros before and after them only move the
point.  So the value that is read is the point of the grid that was chosen for the number, and
the number nearest to that is the number itself.

## Main results

* `Digits.readMagnitude?_positional`: what placed digits are read as.
* `Numeral.ofFloat_eq_nan_iff`: which texts say that there is no number.
* `Cell.readFloat?_floatText`: every number is read back from its text.
-/

namespace RiskTally

open Binary (ReadsAs)

/-! ## Zeros -/

theorem readDigitsFrom_zero (acc : Nat) (text : Text) :
    readDigitsFrom acc ('0' :: text) = readDigitsFrom (10 * acc) text :=
  rfl

/-- Zeros at the beginning change nothing. -/
theorem readDigitsFrom_zeros_append (count : Nat) (text : Text) :
    readDigitsFrom 0 (Digits.zeros count ++ text) = readDigitsFrom 0 text := by
  induction count with
  | zero => rfl
  | succ count ih =>
      rw [Digits.zeros, List.replicate_succ, List.cons_append, readDigitsFrom_zero]
      exact ih

/-- Zeros at the end are powers of ten. -/
theorem readDigitsFrom_zeros (acc count : Nat) :
    readDigitsFrom acc (Digits.zeros count) = some (acc * tenPow count) := by
  induction count generalizing acc with
  | zero => exact congrArg some (Nat.mul_one acc).symm
  | succ count ih =>
      rw [Digits.zeros, List.replicate_succ, readDigitsFrom_zero]
      refine (ih (10 * acc)).trans (congrArg some ?_)
      rw [Nat.add_comm, tenPow_add, ← Nat.mul_assoc, Nat.mul_comm acc]
      rfl

theorem isDigit_of_mem_zeros {c : Char} {count : Nat} (h : c ∈ Digits.zeros count) :
    Numeral.isDigit c = true := by
  rw [(List.mem_replicate.1 h).2]
  rfl

theorem readDigits?_of_ne_nil {text : Text} (h : text ≠ []) :
    readDigits? text = readDigitsFrom 0 text := by
  cases text with
  | nil => contradiction
  | cons c text => rfl

/-- A text is what is left of it without the zeros at its end, and the zeros. -/
theorem exists_zeros (text : Text) :
    ∃ count, text = Text.trimEnd (· == '0') text ++ Digits.zeros count := by
  obtain ⟨dropped, hdropped⟩ : ∃ dropped, dropped = text.reverse.takeWhile (· == '0') := ⟨_, rfl⟩
  have hzeros : dropped = Digits.zeros dropped.length := by
    refine List.eq_replicate_of_mem fun c hc => ?_
    rw [hdropped] at hc
    simpa using List.mem_takeWhile_imp hc
  have hparts : dropped ++ text.reverse.dropWhile (· == '0') = text.reverse := by
    rw [hdropped]
    exact List.takeWhile_append_dropWhile
  refine ⟨dropped.length, ?_⟩
  have htext := congrArg List.reverse hparts
  rw [List.reverse_reverse, List.reverse_append, hzeros, Digits.zeros,
    List.reverse_replicate] at htext
  exact htext.symm

/-- The digits of a number without the zeros at their end, and the zeros. -/
theorem exists_kept_digits {n : Nat} (hpos : 0 < n) : ∃ kept count,
    readDigits? (Text.trimEnd (· == '0') (natText n)) = some kept ∧ n = kept * tenPow count ∧
      (natText n).length = (Text.trimEnd (· == '0') (natText n)).length + count := by
  obtain ⟨count, hsplit⟩ := exists_zeros (natText n)
  have hread := readDigitsFrom_natText n
  rw [hsplit, readDigitsFrom_append, Option.bind_eq_some_iff] at hread
  obtain ⟨kept, hkept, hcount⟩ := hread
  rw [readDigitsFrom_zeros, Option.some.injEq] at hcount
  have hne : Text.trimEnd (· == '0') (natText n) ≠ [] := by
    intro hnil
    rw [hnil] at hkept
    obtain rfl := Option.some.inj hkept
    omega
  refine ⟨kept, count, ?_, hcount.symm, ?_⟩
  · rw [readDigits?_of_ne_nil hne, hkept]
  · have hlength := congrArg List.length hsplit
    rwa [List.length_append, Digits.zeros, List.length_replicate] at hlength

/-! ## Placed digits -/

namespace Numeral

/-- Digits with a point in them are those digits and the places after the point. -/
theorem readMagnitude?_point {whole fraction : Text} {n : Nat}
    (hwhole : ∀ c ∈ whole, isDigit c = true) (hfraction : ∀ c ∈ fraction, isDigit c = true)
    (h : readDigits? (whole ++ fraction) = some n) :
    readMagnitude? (whole ++ '.' :: fraction) = some (n, -(fraction.length : Int)) := by
  have hpoint : isDigit '.' = false := rfl
  have htake : (whole ++ '.' :: fraction).takeWhile isDigit = whole := by
    rw [List.takeWhile_append_of_pos hwhole, List.takeWhile_cons_of_neg (by simp [hpoint]),
      List.append_nil]
  have hdrop : (whole ++ '.' :: fraction).dropWhile isDigit = '.' :: fraction := by
    rw [List.dropWhile_append_of_pos hwhole, List.dropWhile_cons_of_neg (by simp [hpoint])]
  have htake' : fraction.takeWhile isDigit = fraction := List.takeWhile_eq_self_iff.2 hfraction
  have hdrop' : fraction.dropWhile isDigit = [] := List.dropWhile_eq_nil_iff.2 hfraction
  unfold readMagnitude?
  simp [htake, hdrop, htake', hdrop', h]

/-- A number without a sign begins with none. -/
theorem splitSign_of_readMagnitude? {body : Text} {magnitude : Nat × Int}
    (h : readMagnitude? body = some magnitude) : splitSign body = (false, body) := by
  unfold splitSign
  split
  · simp [readMagnitude?, isDigit, digit?, readDigits?] at h
  · simp [readMagnitude?, isDigit, digit?, readDigits?] at h
  · rfl

/-- A sign before a number belongs to it. -/
theorem read?_signed {body : Text} {mantissa : Nat} {exponent : Int}
    (h : readMagnitude? body = some (mantissa, exponent)) (negative : Bool) :
    read? ((if negative then ['-'] else []) ++ body) =
      some (finite negative mantissa exponent) := by
  have hsplit : splitSign ((if negative then ['-'] else []) ++ body) = (negative, body) := by
    cases negative with
    | false => exact splitSign_of_readMagnitude? h
    | true => rfl
  unfold read?
  simp [hsplit, h]

end Numeral

/-- What placed digits are read as: the value of the digits, moved to the point. -/
theorem Digits.readMagnitude?_positional {d : Digits} {n : Nat}
    (h : readDigits? d.digits = some n) : ∃ mantissa exponent,
    Numeral.readMagnitude? d.positional = some (mantissa, exponent) ∧
      (mantissa : ℚ) * 10 ^ exponent = n * 10 ^ (d.point - d.digits.length) := by
  have hdigits : ∀ c ∈ d.digits, Numeral.isDigit c = true := Numeral.isDigit_of_readDigits? h
  have hne : d.digits ≠ [] := by
    intro hnil
    rw [hnil] at h
    contradiction
  rw [readDigits?_of_ne_nil hne] at h
  unfold positional
  by_cases hsmall : d.point ≤ 0
  · have hread : readDigits? (['0'] ++ (zeros (-d.point).toNat ++ d.digits)) = some n := by
      rw [List.singleton_append, readDigits?_of_ne_nil (List.cons_ne_nil _ _),
        readDigitsFrom_zero, readDigitsFrom_zeros_append, h]
    have hfraction : ∀ c ∈ zeros (-d.point).toNat ++ d.digits, Numeral.isDigit c = true := by
      intro c hc
      rcases List.mem_append.1 hc with hc | hc
      · exact isDigit_of_mem_zeros hc
      · exact hdigits c hc
    have hmagnitude := Numeral.readMagnitude?_point (by decide) hfraction hread
    rw [if_pos hsmall]
    refine ⟨_, _, hmagnitude, ?_⟩
    rw [List.length_append, zeros, List.length_replicate]
    congr 2
    omega
  · rw [if_neg hsmall]
    by_cases hlarge : (d.digits.length : Int) ≤ d.point
    · obtain ⟨count, hcount⟩ : ∃ count, count = d.point.toNat - d.digits.length := ⟨_, rfl⟩
      have hread : readDigits? (d.digits ++ zeros count) = some (n * tenPow count) := by
        rw [readDigits?_of_ne_nil (List.append_ne_nil_of_left_ne_nil hne _),
          readDigitsFrom_append, h]
        exact readDigitsFrom_zeros n count
      have hexponent : d.point - d.digits.length = (count : Int) := by omega
      rw [if_pos hlarge, ← hcount]
      refine ⟨_, _, Numeral.readMagnitude?_of_readDigits? hread, ?_⟩
      rw [hexponent, zpow_zero, mul_one, zpow_natCast, Nat.cast_mul, Binary.cast_tenPow]
    · have hread : readDigits? (d.digits.take d.point.toNat ++ d.digits.drop d.point.toNat) =
          some n := by
        rw [List.take_append_drop, readDigits?_of_ne_nil hne, h]
      have hmagnitude := Numeral.readMagnitude?_point
        (fun c hc => hdigits c (List.mem_of_mem_take hc))
        (fun c hc => hdigits c (List.mem_of_mem_drop hc)) hread
      rw [if_neg hlarge, List.append_assoc]
      refine ⟨_, _, hmagnitude, ?_⟩
      rw [List.length_drop]
      congr 2
      omega

/-! ## Texts of numbers -/

namespace Numeral

/-- Signed digits are read as the number whose magnitude they are. -/
theorem readFloat?_signed {f : Float} {negative : Bool} {m : Nat} {q : Int}
    (hparts : Binary.ofFloat f = .finite negative m q) {body : Text} {mantissa : Nat}
    {exponent : Int} (hbody : readMagnitude? body = some (mantissa, exponent))
    (h : Binary.ofFloat (nearest mantissa exponent) = .finite false m q) :
    readFloat? ((if negative then ['-'] else []) ++ body) = some f := by
  rw [readFloat?, read?_signed hbody]
  refine congrArg some (Binary.ofFloat_injective ?_)
  rw [hparts]
  cases negative with
  | false => exact h
  | true =>
      show Binary.ofFloat (-nearest mantissa exponent) = _
      rw [Binary.ofFloat_neg, h]
      rfl

theorem toLower_of_isDigit {c : Char} (h : isDigit c = true) : c.toLower = c := by
  rw [isDigit_iff, Char.isDigit, Bool.and_eq_true, decide_eq_true_eq, decide_eq_true_eq] at h
  refine dif_neg fun hupper => ?_
  exact absurd (UInt32.le_trans hupper.1 h.2) (by decide)

/-- A word does not begin like a number. -/
theorem readMagnitude?_of_asciiLower {body : Text} (h : asciiLower body = "nan".toList) :
    readMagnitude? body = none := by
  cases body with
  | nil => contradiction
  | cons c rest =>
      have hfirst : c.toLower = 'n' := (List.cons.inj h).1
      have hdigit : isDigit c = false := by
        by_contra hdigit
        have hdigit' : isDigit c = true := by simpa using hdigit
        rw [toLower_of_isDigit hdigit'] at hfirst
        rw [hfirst] at hdigit'
        contradiction
      have hpoint : c ≠ '.' := by
        rintro rfl
        contradiction
      simp [readMagnitude?, hdigit, hpoint, readDigits?]

/-- The text is the word for no number, with or without a sign and in any case. -/
def IsNan (text : Text) : Prop :=
  asciiLower (splitSign text).2 = "nan".toList

instance (text : Text) : Decidable (IsNan text) :=
  inferInstanceAs (Decidable (asciiLower (splitSign text).2 = "nan".toList))

/-- Only the word for it says that there is no number. -/
theorem read?_eq_nan_iff (text : Text) : read? text = some nan ↔ IsNan text := by
  unfold read? IsNan
  dsimp only
  constructor
  · intro h
    split at h
    · simp at h
    · split at h
      · assumption
      · split at h <;> simp at h
  · intro h
    rw [readMagnitude?_of_asciiLower h]
    simp [h]

/-- What is read is no number only if the text is the word for it. -/
theorem ofFloat_eq_nan_iff {text : Text} {f : Float} (h : readFloat? text = some f) :
    Binary.ofFloat f = .nan ↔ IsNan text := by
  obtain ⟨numeral, hread, rfl⟩ := Option.map_eq_some_iff.1 h
  rw [ofFloat_toFloat_eq_nan_iff, ← read?_eq_nan_iff, hread, Option.some.injEq]

end Numeral

/-- Zero is in the interval of no other number. -/
theorem Binary.ReadsAs.pos_of_decimal {m c : Nat} {q k : Int} (h : ReadsAs m q (c * 10 ^ k))
    (hpos : 0 < m) (hcanonical : Binary.Canonical m q) (hmost : q ≤ 971) : 0 < c := by
  have hbound := (h.bounds hpos hcanonical hmost).1
  have hleast := Shortest.ten_zpow_pos (-324)
  rcases Nat.eq_zero_or_pos c with rfl | hgiven
  · rw [Nat.cast_zero, zero_mul] at hbound
    linarith
  · exact hgiven

namespace Cell

/-- A number that is not zero is read back from decimals in its interval. -/
theorem readFloat?_of_readsAs {f : Float} {negative : Bool} {m : Nat} {q : Int}
    (hparts : Binary.ofFloat f = .finite negative m q) (hpos : 0 < m) {body : Text}
    {mantissa : Nat} {exponent : Int}
    (hbody : Numeral.readMagnitude? body = some (mantissa, exponent))
    (h : ReadsAs m q (mantissa * 10 ^ exponent)) :
    readFloat? ((if negative then ['-'] else []) ++ body) = some f := by
  obtain ⟨hcanonical, hmost⟩ := Binary.canonical_of_ofFloat hparts
  have hgiven := h.pos_of_decimal hpos hcanonical hmost
  exact Numeral.readFloat?_signed hparts hbody
    (Numeral.ofFloat_nearest hgiven hpos hcanonical hmost h)

/-- Whole numbers are read back from their digits and one decimal. -/
theorem readFloat?_whole {f : Float} {negative : Bool} {m n : Nat} {q : Int}
    (hparts : Binary.ofFloat f = .finite negative m q) (h : Binary.whole? m q = some n) :
    readFloat? ((if negative then ['-'] else []) ++ (natText n ++ ".0".toList)) = some f := by
  have hread : readDigits? (natText n ++ ['0']) = some (10 * n) := by
    rw [readDigits?_of_ne_nil (List.append_ne_nil_of_left_ne_nil (natText_ne_nil n) _),
      readDigitsFrom_append, readDigitsFrom_natText]
    rfl
  have hbody := Numeral.readMagnitude?_point
    (fun c hc => Numeral.isDigit_iff.2 (isDigit_of_mem_natText hc)) (by decide) hread
  rcases Nat.eq_zero_or_pos m with rfl | hpos
  · -- Of zero the sign and nothing else is left to read.
    obtain rfl : n = 0 := by
      rw [Binary.whole?_eq_some_iff, Nat.zero_mul] at h
      have hunit := twoPow_pos (-q).toNat
      exact (Nat.mul_eq_zero.1 h.symm).resolve_right hunit.ne'
    have hleast := (Binary.canonical_of_ofFloat hparts).1.full.resolve_left (by decide)
    refine Numeral.readFloat?_signed hparts hbody ?_
    rw [hleast]
    decide +kernel
  · refine readFloat?_of_readsAs hparts hpos hbody ?_
    have hvalue : ((10 * n : Nat) : ℚ) * 10 ^ (-((['0'] : Text).length : Int)) =
        Binary.value m q := by
      rw [Binary.whole?_eq_some_iff_value.1 h, List.length_singleton, Nat.cast_one, zpow_neg_one]
      push_cast
      ring
    rw [hvalue]
    exact Binary.readsAs_value hpos q

/-- Numbers are read back from their shortest digits. -/
theorem readFloat?_positional {f : Float} {negative : Bool} {m : Nat} {q : Int}
    (hparts : Binary.ofFloat f = .finite negative m q) (hpos : 0 < m) (tie : Tie) :
    readFloat? ((if negative then ['-'] else []) ++ (shortest tie m q).positional) = some f := by
  obtain ⟨hcanonical, hmost⟩ := Binary.canonical_of_ofFloat hparts
  obtain ⟨c, k, hshortest, hreads⟩ := exists_shortest tie hpos hcanonical
  obtain ⟨kept, count, hkept, hcount, hlength⟩ :=
    exists_kept_digits (hreads.pos_of_decimal hpos hcanonical hmost)
  obtain ⟨mantissa, exponent, hbody, hvalue⟩ :=
    Digits.readMagnitude?_positional (d := Shortest.digitsOf c k) hkept
  rw [hshortest]
  refine readFloat?_of_readsAs hparts hpos hbody ?_
  have hexponent : (Shortest.digitsOf c k).point - (Shortest.digitsOf c k).digits.length =
      count + k := by
    simp only [Shortest.digitsOf]
    omega
  rw [hvalue, hexponent, zpow_add₀ (by norm_num), zpow_natCast, ← Binary.cast_tenPow,
    ← mul_assoc, ← Nat.cast_mul, ← hcount]
  exact hreads

/-- Every number is read back from its text. -/
theorem readFloat?_floatText {f : Float} (h : Binary.ofFloat f ≠ .nan) :
    readFloat? (floatText f) = some f := by
  unfold floatText
  cases hparts : Binary.ofFloat f with
  | nan => contradiction
  | infinite negative =>
      have hread : ∀ g : Float, Binary.ofFloat g = .infinite negative → some g = some f :=
        fun g hg => congrArg some (Binary.ofFloat_injective (hg.trans hparts.symm))
      cases negative with
      | false => exact hread _ (by decide +kernel)
      | true => exact hread _ (by decide +kernel)
  | finite negative m q =>
      have hzero : Binary.whole? 0 q = some 0 := by
        rw [Binary.whole?_eq_some_iff, Nat.zero_mul, Nat.zero_mul]
      dsimp only
      split
      · rename_i n hwhole
        split
        · rw [List.append_assoc]
          exact readFloat?_whole hparts hwhole
        · rename_i hlarge
          refine readFloat?_positional hparts (Nat.pos_of_ne_zero ?_) .up
          rintro rfl
          obtain rfl := Option.some.inj (hzero.symm.trans hwhole)
          exact hlarge (tenPow_pos 16)
      · rename_i hwhole
        refine readFloat?_positional hparts (Nat.pos_of_ne_zero ?_) .up
        rintro rfl
        rw [hzero] at hwhole
        contradiction

end Cell

end RiskTally
