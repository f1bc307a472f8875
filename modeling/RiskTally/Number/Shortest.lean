import RiskTally.Number.Binary
import RiskTally.Text.Blank

/-!
# The fewest digits that read back

A positive number `m · 2 ^ q` is written with the fewest decimal digits that lie closer
to it than to its neighbours, and of those with the nearest. For one digit, two digits
and so on, the two points of that decimal grid beside the number are tried in exact
integer arithmetic; the ends of the interval of readings belong to it when `m` is even.

The one choice left is an exact tie between two points of the same grid: some formats
round it up and some to the even digit.

## Main results

* `Shortest.between_gridPoint?`: a point that is chosen reads back as the number.
* `Shortest.gridPoint?_isSome`: a grid is passed over only when neither neighbour of the
  number on it reads back.
-/

namespace RiskTally

/-- What to do with a number halfway between two decimal neighbours. -/
inductive Tie where
  | up
  | toEven
  deriving DecidableEq, Repr

/-- The digits of a number without trailing zeros, and how many of them stand before
the decimal point; a negative count means zeros after it. -/
structure Digits where
  digits : Text
  point : Int
  deriving DecidableEq, Repr

namespace Shortest

/-- The numerator of `n · 2 ^ (q - 2)` in units of `10 ^ k`, over `denominator q k`. -/
def numerator (n : Nat) (q k : Int) : Nat :=
  n * twoPow (q - 2).toNat * tenPow (-k).toNat

/-- The common denominator of the quarter units of `2 ^ q` in units of `10 ^ k`. -/
def denominator (q k : Int) : Nat :=
  twoPow (2 - q).toNat * tenPow k.toNat

/-- The lower end of the numbers that read back as `m · 2 ^ q`, in quarters of `2 ^ q`.
Below a power of two the next number is only half as far away. -/
def lowEnd (m : Nat) (q : Int) : Nat :=
  if m = twoPow 52 ∧ -1074 < q then 4 * m - 1 else 4 * m - 2

/-- The upper end of the numbers that read back as `m · 2 ^ q`, in quarters of `2 ^ q`. -/
def highEnd (m : Nat) : Nat :=
  4 * m + 2

/-- The decimal `c · 10 ^ k` reads back as `m · 2 ^ q`. -/
def readsBack (m : Nat) (q k : Int) (c : Nat) : Bool :=
  let low := numerator (lowEnd m q) q k
  let high := numerator (highEnd m) q k
  let x := c * denominator q k
  if m % 2 = 0 then low ≤ x && x ≤ high else low < x && x < high

/-- The neighbour that is nearer, between `c` and `c + 1`, to `c + rest / unit`. -/
def nearer (tie : Tie) (c rest unit : Nat) : Nat :=
  if 2 * rest < unit then c
  else if unit < 2 * rest then c + 1
  else match tie with
    | .up => c + 1
    | .toEven => if c % 2 = 0 then c else c + 1

/-- The point of the grid of multiples of `10 ^ k` that stands for `m · 2 ^ q`. -/
def gridPoint? (tie : Tie) (m : Nat) (q k : Int) : Option Nat :=
  let value := numerator (4 * m) q k
  let unit := denominator q k
  let c := value / unit
  match readsBack m q k c, readsBack m q k (c + 1) with
  | true, true => some (nearer tie c (value % unit) unit)
  | true, false => some c
  | false, true => some (c + 1)
  | false, false => none

theorem between_gridPoint? {tie : Tie} {m c : Nat} {q k : Int} (h : gridPoint? tie m q k = some c) :
    readsBack m q k c = true := by
  simp only [gridPoint?] at h
  split at h
  · obtain rfl := Option.some.inj h
    unfold nearer
    split
    · assumption
    · split
      · assumption
      · split
        · assumption
        · split <;> assumption
  · obtain rfl := Option.some.inj h
    assumption
  · obtain rfl := Option.some.inj h
    assumption
  · exact absurd h (by simp)

theorem gridPoint?_isSome {tie : Tie} {m : Nat} {q k : Int}
    (h : readsBack m q k (numerator (4 * m) q k / denominator q k) = true) :
    (gridPoint? tie m q k).isSome = true := by
  simp only [gridPoint?, h]
  split <;> simp_all

/-- The power of ten just above `m · 2 ^ q`, found from the digits of the number times
`10 ^ 330`, which is past one for every positive number. -/
def magnitude (m : Nat) (q : Int) : Int :=
  (natText (m * twoPow q.toNat * tenPow 330 / twoPow (-q).toNat)).length - 330

/-- The digits of the multiple `c` of `10 ^ k`. -/
def digitsOf (c : Nat) (k : Int) : Digits where
  digits := Text.trimEnd (· == '0') (natText c)
  point := (natText c).length + k

end Shortest

/-- The fewest digits that read back as the positive number `m · 2 ^ q`. Seventeen
always do. -/
def shortest (tie : Tie) (m : Nat) (q : Int) : Digits :=
  let top := Shortest.magnitude m q
  let attempt (count : Nat) : Option Digits :=
    (Shortest.gridPoint? tie m q (top - count)).map (Shortest.digitsOf · (top - count))
  ((List.range' 1 17).findSome? attempt).getD ⟨[], 0⟩

/-! ## Placing the point -/

namespace Digits

/-- A run of zeros. -/
def zeros (count : Nat) : Text :=
  List.replicate count '0'

/-- The digits with the point in place and no exponent; a whole number has no point. -/
def positional (d : Digits) : Text :=
  if d.point ≤ 0 then "0.".toList ++ zeros (-d.point).toNat ++ d.digits
  else if (d.digits.length : Int) ≤ d.point then
    d.digits ++ zeros (d.point.toNat - d.digits.length)
  else d.digits.take d.point.toNat ++ ['.'] ++ d.digits.drop d.point.toNat

/-- One digit, the point and the other digits, and the power of ten after an `e`. -/
def scientific (d : Digits) : Text :=
  let lead := match d.digits with
    | first :: second :: rest => first :: '.' :: second :: rest
    | digits => digits
  lead ++ 'e' :: intText (d.point - 1)

end Digits

example : shortest .up 1 (-1074) = ⟨"5".toList, -323⟩ := by decide +kernel
example : (shortest .up (2 ^ 52) (-77)).digits = "29802322387695313".toList := by decide +kernel
example : (shortest .toEven (2 ^ 52) (-77)).digits = "29802322387695312".toList := by
  decide +kernel
example : (shortest .up 7205759403792794 (-56)).positional = "0.1".toList := by decide +kernel
example : (shortest .up (2 ^ 53 - 1) 971).scientific = "1.7976931348623157e308".toList := by
  decide +kernel

end RiskTally
