/-!
# Masks

A mask says of every row whether it is selected.

## Main results

* `Mask.length_zipInto`: folding a mask into another keeps the length of the first.
* `Mask.zipInto_eq_zipWith`: masks of one length are folded entry by entry.
-/

namespace RiskTally

/-- One entry per row, true where the row is selected. -/
abbrev Mask := List Bool

namespace Mask

/-- The same entry for every row. -/
def all (rows : Nat) (value : Bool) : Mask :=
  List.replicate rows value

/-- The number of selected rows. -/
def count (mask : Mask) : Nat :=
  List.count true mask

/-- The first mask with the entries of the second combined into it, as far as it reaches. -/
def zipInto (op : Bool → Bool → Bool) : Mask → Mask → Mask
  | [], _ => []
  | a :: left, [] => a :: left
  | a :: left, b :: right => op a b :: zipInto op left right

theorem length_zipInto (op : Bool → Bool → Bool) (left right : Mask) :
    (zipInto op left right).length = left.length := by
  induction left generalizing right with
  | nil => rfl
  | cons a left ih => cases right <;> simp [zipInto, ih]

theorem zipInto_eq_zipWith (op : Bool → Bool → Bool) {left right : Mask}
    (h : left.length = right.length) : zipInto op left right = List.zipWith op left right := by
  induction left generalizing right with
  | nil => simp [zipInto]
  | cons a left ih =>
    cases right with
    | nil => simp at h
    | cons b right => simp [zipInto, ih (by simpa using h)]

end Mask

end RiskTally
