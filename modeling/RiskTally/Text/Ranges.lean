/-!
# Ranges of code points

A property of characters is given by the ranges of code points that have it, both ends
included.

## Main results

* `inRanges_of_mem`: the code points of a range are found in every list that holds it.
-/

namespace RiskTally.Text

/-- The code point lies in one of the ranges. -/
def inRanges (ranges : List (Nat × Nat)) (n : Nat) : Bool :=
  ranges.any fun range => range.1 ≤ n && n ≤ range.2

theorem inRanges_of_mem {ranges : List (Nat × Nat)} {first last n : Nat}
    (h : (first, last) ∈ ranges) (hfirst : first ≤ n) (hlast : n ≤ last) :
    inRanges ranges n = true :=
  List.any_eq_true.2 ⟨(first, last), h, by simp [hfirst, hlast]⟩

end RiskTally.Text
