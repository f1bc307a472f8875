import Mathlib.Algebra.BigOperators.Group.List.Basic
import Mathlib.Algebra.Ring.Int.Defs
import Mathlib.Algebra.Ring.Nat
import Mathlib.Data.List.Infix
import RiskTally.Number.Integer

/-!
# Saturating sums of many amounts

A saturating sum is held at an end of the 64-bit range each time that it would pass it.
It is the integer sum as long as it never gets there.  Amounts of one sign meet one end
at most, so that holding along the way is holding at the end.  With both signs the order
decides: what was cut off above is not given back below.

## Main results

* `toInt_satSum_of_partialSums`: within the range the saturating sum is the integer sum.
* `toInt_foldl_of_oneSign`: amounts of one sign are held once.
* `satSum_eq_of_perm`: amounts that are `OrderFree` have one sum in every order.
* `orderFree_of_magnitudeSum`: amounts that cannot leave the range in any order are
  `OrderFree`.
* `orderFree_of_satSum_eq`: amounts whose sum is the same with the gains first as with
  the losses first are `OrderFree`.
-/

namespace RiskTally

/-- The sum of amounts as integers. -/
def integerSum (amounts : List Int64) : Int :=
  (amounts.map Int64.toInt).sum

theorem integerSum_cons (amount : Int64) (amounts : List Int64) :
    integerSum (amount :: amounts) = amount.toInt + integerSum amounts := by
  simp [integerSum]

theorem integerSum_append (left right : List Int64) :
    integerSum (left ++ right) = integerSum left + integerSum right := by
  simp [integerSum]

theorem integerSum_perm {left right : List Int64} (h : left.Perm right) :
    integerSum left = integerSum right :=
  (h.map _).sum_eq

theorem toInt_nonneg_iff {amount : Int64} : 0 ≤ amount ↔ 0 ≤ amount.toInt := by
  rw [Int64.le_iff_toInt_le, Int64.toInt_zero]

theorem toInt_nonpos_iff {amount : Int64} : amount ≤ 0 ↔ amount.toInt ≤ 0 := by
  rw [Int64.le_iff_toInt_le, Int64.toInt_zero]

theorem integerSum_nonneg {amounts : List Int64} (h : ∀ amount ∈ amounts, 0 ≤ amount) :
    0 ≤ integerSum amounts := by
  induction amounts with
  | nil => exact Int.le_refl 0
  | cons amount amounts ih =>
      have hamount := toInt_nonneg_iff.1 (h amount (by simp))
      have hamounts := ih fun other hother => h other (by simp [hother])
      rw [integerSum_cons]
      omega

theorem integerSum_nonpos {amounts : List Int64} (h : ∀ amount ∈ amounts, amount ≤ 0) :
    integerSum amounts ≤ 0 := by
  induction amounts with
  | nil => exact Int.le_refl 0
  | cons amount amounts ih =>
      have hamount := toInt_nonpos_iff.1 (h amount (by simp))
      have hamounts := ih fun other hother => h other (by simp [hother])
      rw [integerSum_cons]
      omega

/-! ## Sums that stay within the range -/

/-- Every partial sum, taken from the left, is within the 64-bit range. -/
def PartialSumsInRange (amounts : List Int64) : Prop :=
  ∀ part ∈ amounts.inits, inRange (integerSum part) = true

instance (amounts : List Int64) : Decidable (PartialSumsInRange amounts) :=
  inferInstanceAs (Decidable (∀ part ∈ amounts.inits, inRange (integerSum part) = true))

theorem PartialSumsInRange.whole {amounts : List Int64} (h : PartialSumsInRange amounts) :
    inRange (integerSum amounts) = true :=
  h amounts ((List.mem_inits _ _).2 (List.prefix_refl _))

/-- Without a partial sum out of the range the saturating sum is the integer sum. -/
theorem toInt_satSum_of_partialSums {amounts : List Int64} (h : PartialSumsInRange amounts) :
    (satSum amounts).toInt = integerSum amounts := by
  induction amounts using List.reverseRecOn with
  | nil => rfl
  | append_singleton amounts amount ih =>
      have hinit : PartialSumsInRange amounts := by
        intro part hpart
        have hlead := (List.mem_inits part amounts).1 hpart
        exact h part ((List.mem_inits _ _).2 (hlead.trans (List.prefix_append _ _)))
      have hwhole := h.whole
      have hsum : integerSum (amounts ++ [amount]) = (satSum amounts).toInt + amount.toInt := by
        rw [integerSum_append, ih hinit, integerSum_cons]
        simp [integerSum]
      rw [hsum] at hwhole
      rw [satSum_concat, toInt_satAdd_of_inRange hwhole, hsum]

/-! ## Amounts of one sign -/

/-- A sum held at the ends of the 64-bit range. -/
def held (sum : Int) : Int :=
  max Int64.minValue.toInt (min sum Int64.maxValue.toInt)

theorem held_eq (sum : Int) : held sum = max (-2 ^ 63) (min sum (2 ^ 63 - 1)) := by
  rw [held, Int64.toInt_minValue, Int64.toInt_maxValue]

theorem held_of_inRange {sum : Int} (h : inRange sum = true) : held sum = sum := by
  simp only [inRange, Bool.and_eq_true, decide_eq_true_eq] at h
  rw [held_eq]
  omega

theorem held_toInt (amount : Int64) : held amount.toInt = amount.toInt := by
  have hlow := amount.le_toInt
  have hhigh := amount.toInt_lt
  rw [held_eq]
  omega

/-- Not both a gain and a loss are among the amounts. -/
def OneSign (amounts : List Int64) : Prop :=
  (∀ amount ∈ amounts, 0 ≤ amount) ∨ ∀ amount ∈ amounts, amount ≤ 0

theorem OneSign.of_cons {amount : Int64} {amounts : List Int64} (h : OneSign (amount :: amounts)) :
    OneSign amounts :=
  h.imp (fun hall other hother => hall other (by simp [hother]))
    fun hall other hother => hall other (by simp [hother])

/-- Amounts of one sign move the sum one way, so that it is held at one end at most, and
holding it at every step is holding it once. -/
theorem toInt_foldl_of_oneSign {amounts : List Int64} (h : OneSign amounts) (start : Int64) :
    (amounts.foldl satAdd start).toInt = held (start.toInt + integerSum amounts) := by
  induction amounts generalizing start with
  | nil =>
      rw [show integerSum [] = 0 from rfl, Int.add_zero]
      exact (held_toInt start).symm
  | cons amount amounts ih =>
      have hlow := start.le_toInt
      have hhigh := start.toInt_lt
      have hsign : 0 ≤ amount.toInt ∧ 0 ≤ integerSum amounts ∨
          amount.toInt ≤ 0 ∧ integerSum amounts ≤ 0 := by
        rcases h with hall | hall
        · exact .inl ⟨toInt_nonneg_iff.1 (hall amount (by simp)),
            integerSum_nonneg fun other hother => hall other (by simp [hother])⟩
        · exact .inr ⟨toInt_nonpos_iff.1 (hall amount (by simp)),
            integerSum_nonpos fun other hother => hall other (by simp [hother])⟩
      have hstep : (satAdd start amount).toInt = held (start.toInt + amount.toInt) :=
        toInt_satAdd start amount
      rw [List.foldl_cons, ih h.of_cons, hstep, integerSum_cons, held_eq, held_eq, held_eq]
      omega

theorem toInt_satSum_of_oneSign {amounts : List Int64} (h : OneSign amounts) :
    (satSum amounts).toInt = held (integerSum amounts) := by
  rw [satSum, toInt_foldl_of_oneSign h, Int64.toInt_zero, Int.zero_add]

/-- Amounts of one sign and after them amounts of one sign are held twice. -/
theorem toInt_satSum_append_of_oneSign {left right : List Int64} (hleft : OneSign left)
    (hright : OneSign right) :
    (satSum (left ++ right)).toInt = held (held (integerSum left) + integerSum right) := by
  rw [satSum_append, toInt_foldl_of_oneSign hright, toInt_satSum_of_oneSign hleft]

/-! ## Orders -/

/-- The amounts that are not negative. -/
def gains (amounts : List Int64) : List Int64 :=
  amounts.filter fun amount => 0 ≤ amount

/-- The amounts that are negative. -/
def losses (amounts : List Int64) : List Int64 :=
  amounts.filter fun amount => !decide (0 ≤ amount)

/-- The order of the amounts does not matter: there is nothing to gain, or nothing to
lose, or both what is gained and what is lost in all are within the range. -/
def OrderFree (amounts : List Int64) : Prop :=
  integerSum (gains amounts) = 0 ∨ integerSum (losses amounts) = 0 ∨
    inRange (integerSum (gains amounts)) = true ∧ inRange (integerSum (losses amounts)) = true

instance (amounts : List Int64) : Decidable (OrderFree amounts) :=
  inferInstanceAs (Decidable (_ ∨ _ ∨ _ ∧ _))

theorem gains_nonneg (amounts : List Int64) : ∀ amount ∈ gains amounts, 0 ≤ amount := by
  intro amount h
  simpa using List.of_mem_filter h

theorem losses_neg (amounts : List Int64) : ∀ amount ∈ losses amounts, amount.toInt < 0 := by
  intro amount h
  have hneg := List.of_mem_filter h
  simp only [Bool.not_eq_true', decide_eq_false_iff_not, toInt_nonneg_iff] at hneg
  omega

theorem losses_nonpos (amounts : List Int64) : ∀ amount ∈ losses amounts, amount ≤ 0 := by
  intro amount h
  have hneg := losses_neg amounts amount h
  rw [toInt_nonpos_iff]
  omega

theorem gains_append (left right : List Int64) :
    gains (left ++ right) = gains left ++ gains right :=
  List.filter_append ..

theorem losses_append (left right : List Int64) :
    losses (left ++ right) = losses left ++ losses right :=
  List.filter_append ..

theorem gains_append_losses_perm (amounts : List Int64) :
    (gains amounts ++ losses amounts).Perm amounts :=
  List.filter_append_perm _ _

theorem integerSum_eq_gains_add_losses (amounts : List Int64) :
    integerSum amounts = integerSum (gains amounts) + integerSum (losses amounts) := by
  rw [← integerSum_perm (gains_append_losses_perm amounts), integerSum_append]

theorem gains_perm {left right : List Int64} (h : left.Perm right) :
    integerSum (gains left) = integerSum (gains right) :=
  integerSum_perm (h.filter _)

theorem losses_perm {left right : List Int64} (h : left.Perm right) :
    integerSum (losses left) = integerSum (losses right) :=
  integerSum_perm (h.filter _)

theorem oneSign_of_gains_eq_zero {amounts : List Int64} (h : integerSum (gains amounts) = 0) :
    OneSign amounts := by
  refine .inr fun amount hamount => ?_
  by_cases hpos : 0 ≤ amount
  · have hmem : amount ∈ gains amounts := List.mem_filter.2 ⟨hamount, by simpa⟩
    obtain ⟨before, after, hsplit⟩ := List.append_of_mem hmem
    have hnonneg := gains_nonneg amounts
    rw [hsplit] at h hnonneg
    have hbefore := integerSum_nonneg fun other (hother : other ∈ before) =>
      hnonneg other (by simp [hother])
    have hafter := integerSum_nonneg fun other (hother : other ∈ after) =>
      hnonneg other (by simp [hother])
    rw [integerSum_append, integerSum_cons] at h
    rw [toInt_nonpos_iff]
    omega
  · rw [toInt_nonneg_iff] at hpos
    rw [toInt_nonpos_iff]
    omega

theorem oneSign_of_losses_eq_zero {amounts : List Int64} (h : integerSum (losses amounts) = 0) :
    OneSign amounts := by
  have hnil : losses amounts = [] := by
    cases hlosses : losses amounts with
    | nil => rfl
    | cons amount rest =>
        have hneg := losses_neg amounts
        have hnonpos := losses_nonpos amounts
        rw [hlosses] at h hneg hnonpos
        have hfirst := hneg amount (by simp)
        have hrest := integerSum_nonpos fun other (hother : other ∈ rest) =>
          hnonpos other (by simp [hother])
        rw [integerSum_cons] at h
        omega
  refine .inl fun amount hamount => ?_
  have hmem := List.filter_eq_nil_iff.1 hnil amount hamount
  simpa using hmem

/-- What is gained and lost in all bounds every partial sum. -/
theorem partialSumsInRange_of_gains_of_losses {amounts : List Int64}
    (hgains : inRange (integerSum (gains amounts)) = true)
    (hlosses : inRange (integerSum (losses amounts)) = true) : PartialSumsInRange amounts := by
  intro part hpart
  obtain ⟨rest, rfl⟩ := (List.mem_inits _ _).1 hpart
  have hgained := integerSum_nonneg (gains_nonneg part)
  have hlost := integerSum_nonpos (losses_nonpos part)
  have hgainedAfter := integerSum_nonneg (gains_nonneg rest)
  have hlostAfter := integerSum_nonpos (losses_nonpos rest)
  rw [gains_append, integerSum_append] at hgains
  rw [losses_append, integerSum_append] at hlosses
  rw [integerSum_eq_gains_add_losses part]
  simp only [inRange, Bool.and_eq_true, decide_eq_true_eq] at hgains hlosses ⊢
  omega

theorem OrderFree.perm {left right : List Int64} (h : left.Perm right) (hfree : OrderFree left) :
    OrderFree right := by
  rwa [OrderFree, ← gains_perm h, ← losses_perm h]

/-- The sum of order-free amounts is the integer sum, held at the ends once. -/
theorem OrderFree.toInt_satSum {amounts : List Int64} (h : OrderFree amounts) :
    (satSum amounts).toInt = held (integerSum amounts) := by
  rcases h with hgains | hlosses | ⟨hgains, hlosses⟩
  · exact toInt_satSum_of_oneSign (oneSign_of_gains_eq_zero hgains)
  · exact toInt_satSum_of_oneSign (oneSign_of_losses_eq_zero hlosses)
  · have hfit := partialSumsInRange_of_gains_of_losses hgains hlosses
    rw [toInt_satSum_of_partialSums hfit, held_of_inRange hfit.whole]

/-- Order-free amounts have one sum in every order. -/
theorem satSum_eq_of_perm {left right : List Int64} (h : left.Perm right)
    (hfree : OrderFree left) : satSum left = satSum right := by
  rw [← Int64.toInt_inj, hfree.toInt_satSum, (hfree.perm h).toInt_satSum, integerSum_perm h]

/-- The sum of the amounts, each without its sign. -/
def magnitudeSum (amounts : List Int64) : Nat :=
  (amounts.map fun amount => amount.toInt.natAbs).sum

theorem natAbs_integerSum_le (amounts : List Int64) :
    (integerSum amounts).natAbs ≤ magnitudeSum amounts := by
  induction amounts with
  | nil => exact Nat.le_refl 0
  | cons amount amounts ih =>
      have hsign := Int.natAbs_add_le amount.toInt (integerSum amounts)
      show (integerSum (amount :: amounts)).natAbs ≤ amount.toInt.natAbs + magnitudeSum amounts
      rw [integerSum_cons]
      omega

theorem magnitudeSum_le_of_sublist {left right : List Int64} (h : left.Sublist right) :
    magnitudeSum left ≤ magnitudeSum right := by
  induction h with
  | slnil => exact Nat.le_refl 0
  | cons amount _ ih =>
      show _ ≤ amount.toInt.natAbs + magnitudeSum _
      omega
  | cons_cons amount _ ih =>
      show amount.toInt.natAbs + magnitudeSum _ ≤ amount.toInt.natAbs + magnitudeSum _
      omega

/-- Where the amounts without their signs sum up within the range, no order leaves it. -/
theorem orderFree_of_magnitudeSum {amounts : List Int64}
    (h : (magnitudeSum amounts : Int) ≤ Int64.maxValue.toInt) : OrderFree amounts := by
  have hpart : ∀ part : List Int64, part.Sublist amounts → inRange (integerSum part) = true := by
    intro part hsub
    have hsum := natAbs_integerSum_le part
    have hmagnitude := magnitudeSum_le_of_sublist hsub
    rw [Int64.toInt_maxValue] at h
    simp only [inRange, Bool.and_eq_true, decide_eq_true_eq]
    omega
  exact .inr (.inr ⟨hpart _ List.filter_sublist, hpart _ List.filter_sublist⟩)

/-- Amounts whose sum is the same whether the gains or the losses come first have it in
every order. -/
theorem orderFree_of_satSum_eq {amounts : List Int64}
    (h : satSum (gains amounts ++ losses amounts) = satSum (losses amounts ++ gains amounts)) :
    OrderFree amounts := by
  have hgains := integerSum_nonneg (gains_nonneg amounts)
  have hlosses := integerSum_nonpos (losses_nonpos amounts)
  have hsums := congrArg Int64.toInt h
  have hup : OneSign (gains amounts) := .inl (gains_nonneg amounts)
  have hdown : OneSign (losses amounts) := .inr (losses_nonpos amounts)
  rw [toInt_satSum_append_of_oneSign hup hdown, toInt_satSum_append_of_oneSign hdown hup,
    held_eq, held_eq, held_eq, held_eq] at hsums
  simp only [OrderFree, inRange, Bool.and_eq_true, decide_eq_true_eq]
  omega

end RiskTally
