import RiskTally.Number.Shortest
import RiskTally.Number.Decimal

/-!
# Cells

A cell of a table holds a text, a 64-bit integer, a floating-point number, a truth value
or nothing. Rules look at a cell in three ways: at its text form, at its number, and at
its key, under which equal values are counted.

## Main results

* `isMissing_iff_key`: a cell is missing exactly when its key is the missing one.
* `toText?_eq_none_iff`: only an empty cell has no text form.
* `key_integer_eq_iff`: integers share a key only when they are equal.
-/

namespace RiskTally

/-- One value of a table. -/
inductive Cell where
  | text (value : Text)
  | integer (value : Int64)
  | float (value : Float)
  | boolean (value : Bool)
  | null

namespace Cell

/-- The identity of a value when duplicates and distinct values are counted. -/
inductive Key where
  | text (value : Text)
  | integer (value : Int)
  | float (bits : Nat)
  | boolean (value : Bool)
  | missing
  deriving DecidableEq, Repr

/-- The cell is empty. -/
def isNull : Cell → Bool
  | null => true
  | _ => false

/-- The cell is empty, or a number that is not a number. -/
def isMissing : Cell → Bool
  | null => true
  | float f => Binary.ofFloat f == .nan
  | _ => false

/-- The content of a text cell. -/
def asText? : Cell → Option Text
  | text s => some s
  | _ => none

/-! ## The number of a cell -/

/-- The number that a cell stands for: texts are read without the blanks around them,
and a truth value counts as one or zero. -/
def toNumber? : Cell → Option Float
  | integer i => some (Float.ofInt i.toInt)
  | float f => some f
  | boolean b => some (if b then 1.0 else 0.0)
  | text s => readFloat? (Text.trim s)
  | null => none

/-! ## The text form of a cell -/

/-- A number as rules see it: whole numbers below `10 ^ 16` with one decimal, all others
with the fewest digits that read back, a tie going up, and never with an exponent. -/
def floatText (f : Float) : Text :=
  match Binary.ofFloat f with
  | .nan => "nan".toList
  | .infinite negative => if negative then "-inf".toList else "inf".toList
  | .finite negative mantissa exponent =>
    let sign := if negative then ['-'] else []
    match Binary.whole? mantissa exponent with
    | some n =>
      if n < tenPow 16 then sign ++ natText n ++ ".0".toList
      else sign ++ (shortest .up mantissa exponent).positional
    | none => sign ++ (shortest .up mantissa exponent).positional

/-- The text that rules compare and tables export. -/
def toText? : Cell → Option Text
  | text s => some s
  | integer i => some (intText i.toInt)
  | float f => some (floatText f)
  | boolean b => some (if b then "True".toList else "False".toList)
  | null => none

/-- The text form, empty for an empty cell. -/
def textOrEmpty (cell : Cell) : Text :=
  cell.toText?.getD []

/-! ## The key of a cell -/

/-- A whole number of the 64-bit range has the key of that integer, any other number
that of its bits; what is not a number counts as missing. -/
def floatKey (f : Float) : Key :=
  match Binary.ofFloat f with
  | .nan => .missing
  | .infinite _ => .float f.toBits.toNat
  | .finite negative mantissa exponent =>
    match (Binary.whole? mantissa exponent).map (Binary.signed negative) with
    | some n => if inRange n then .integer n else .float f.toBits.toNat
    | none => .float f.toBits.toNat

/-- The identity under which a cell is counted. -/
def key : Cell → Key
  | text s => .text s
  | integer i => .integer i.toInt
  | float f => floatKey f
  | boolean b => .boolean b
  | null => .missing

theorem isMissing_iff_key (cell : Cell) : cell.isMissing = true ↔ cell.key = .missing := by
  cases cell with
  | float f =>
    simp only [isMissing, key, floatKey, beq_iff_eq]
    cases Binary.ofFloat f with
    | finite negative mantissa exponent =>
      simp only [reduceCtorEq, false_iff]
      split
      · split <;> simp
      · simp
    | _ => simp
  | _ => simp [isMissing, key]

theorem toText?_eq_none_iff (cell : Cell) : cell.toText? = none ↔ cell.isNull = true := by
  cases cell <;> simp [toText?, isNull]

theorem key_integer_eq_iff {i j : Int64} : (integer i).key = (integer j).key ↔ i = j := by
  simp [key, Int64.toInt_inj]

example : floatText 2.5 = "2.5".toList := by decide +kernel
example : floatText (-0.0) = "-0.0".toList := by decide +kernel
example : floatText 1e15 = "1000000000000000.0".toList := by decide +kernel
example : floatText 1e16 = "10000000000000000".toList := by decide +kernel
example : floatText 1e-7 = "0.0000001".toList := by decide +kernel
example : (float 3.0).key = (integer 3).key := by decide +kernel
example : (float (-0.0)).key = (integer 0).key := by decide +kernel

end Cell

end RiskTally
