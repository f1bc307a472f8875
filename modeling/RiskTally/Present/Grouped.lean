import RiskTally.Number.Integer

/-!
# Grouped integers

Large integers are shown with a comma before every third digit from the right.

## Main results

* `filter_groupDigits`: without the commas the digits are what they were.
-/

namespace RiskTally

/-- Digits read from the right with a comma after every third one but the last. -/
def groupDigits : Text → Text
  | a :: b :: c :: rest =>
    if rest = [] then [a, b, c] else a :: b :: c :: ',' :: groupDigits rest
  | short => short

/-- An integer with its digits in groups of three. -/
def groupedText (n : Int64) : Text :=
  let digits := (groupDigits (natText n.toInt.natAbs).reverse).reverse
  if n.toInt < 0 then '-' :: digits else digits

theorem filter_groupDigits {digits : Text} (h : ',' ∉ digits) :
    (groupDigits digits).filter (· ≠ ',') = digits := by
  fun_induction groupDigits digits with
  | case1 a b c =>
    simp only [List.mem_cons, not_or] at h
    simp [Ne.symm h.1, Ne.symm h.2.1, Ne.symm h.2.2.1]
  | case2 a b c rest hrest ih =>
    simp only [List.mem_cons, not_or] at h
    simpa [Ne.symm h.1, Ne.symm h.2.1, Ne.symm h.2.2.1] using ih h.2.2.2
  | case3 digits _ =>
    refine List.filter_eq_self.2 fun c hc => ?_
    simp only [ne_eq, decide_not, Bool.not_eq_true', decide_eq_false_iff_not]
    rintro rfl
    exact h hc

example : groupedText 1234567 = "1,234,567".toList := by decide
example : groupedText (-45000) = "-45,000".toList := by decide
example : groupedText 999 = "999".toList := by decide
example : groupedText Int64.minValue = "-9,223,372,036,854,775,808".toList := by decide

end RiskTally
