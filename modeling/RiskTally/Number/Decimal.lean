import RiskTally.Number.Binary

/-!
# Decimal numbers in text

A number in a cell or a literal is an optional sign, digits with at most one point and
at least one digit, and an optional power of ten; or one of the words `inf`, `infinity`
and `nan` in any case. Blanks and digit separators are not part of a number. Its value
is the floating-point number nearest to it.

The examples at the end fix the grammar.
-/

namespace RiskTally

/-- What a number in text says, before rounding: `mantissa · 10 ^ exponent` where it is finite. -/
inductive Numeral where
  | nan
  | infinite (negative : Bool)
  | finite (negative : Bool) (mantissa : Nat) (exponent : Int)
  deriving DecidableEq, Repr

namespace Numeral

/-- The character is an ASCII decimal digit. -/
def isDigit (c : Char) : Bool :=
  (digit? c).isSome

/-- The power of ten that follows an `e`: digits with an optional sign. -/
def readExponent? (text : Text) : Option Int :=
  let (negative, digits) := splitSign text
  (readDigits? digits).map (Binary.signed negative)

/-- The mantissa and exponent of a number without sign. -/
def readMagnitude? (text : Text) : Option (Nat × Int) :=
  let whole := text.takeWhile isDigit
  let afterWhole := text.dropWhile isDigit
  let (fraction, afterFraction) := match afterWhole with
    | '.' :: rest => (rest.takeWhile isDigit, rest.dropWhile isDigit)
    | rest => ([], rest)
  match readDigits? (whole ++ fraction) with
  | none => none
  | some mantissa =>
    match afterFraction with
    | [] => some (mantissa, -fraction.length)
    | 'e' :: rest | 'E' :: rest =>
      (readExponent? rest).map fun exponent => (mantissa, exponent - fraction.length)
    | _ => none

/-- The text with its ASCII capitals made small. -/
def asciiLower (text : Text) : Text :=
  text.map Char.toLower

/-- The number that a text says. -/
def read? (text : Text) : Option Numeral :=
  let (negative, body) := splitSign text
  match readMagnitude? body with
  | some (mantissa, exponent) => some (finite negative mantissa exponent)
  | none =>
    let word := asciiLower body
    if word = "nan".toList then some nan
    else if word = "inf".toList || word = "infinity".toList then some (infinite negative)
    else none

/-- The positive number nearest to `mantissa · 10 ^ exponent`. Past `10 ^ 310` that is
infinity and below `10 ^ -330` it is zero, so that no power beyond is computed. -/
def nearest (mantissa : Nat) (exponent : Int) : Float :=
  if mantissa = 0 then 0.0
  else
    let top := (natText mantissa).length + exponent
    if 310 < top then 1.0 / 0.0
    else if top < -330 then 0.0
    else Float.ofScientific mantissa (exponent < 0) exponent.natAbs

/-- The floating-point number nearest to a number. -/
def toFloat : Numeral → Float
  | nan => 0.0 / 0.0
  | infinite negative => if negative then -(1.0 / 0.0) else 1.0 / 0.0
  | finite negative mantissa exponent =>
    if negative then -nearest mantissa exponent else nearest mantissa exponent

end Numeral

/-- The floating-point number that a text says. -/
def readFloat? (text : Text) : Option Float :=
  (Numeral.read? text).map Numeral.toFloat

namespace Numeral

example : read? "12.50".toList = some (finite false 1250 (-2)) := by decide
example : read? "-.5e+3".toList = some (finite true 5 2) := by decide
example : read? "1.".toList = some (finite false 1 0) := by decide
example : read? "-Infinity".toList = some (infinite true) := by decide
example : read? "+NaN".toList = some nan := by decide
example : read? ".".toList = none := by decide
example : read? "1e".toList = none := by decide
example : read? "1_0".toList = none := by decide
example : read? " 1".toList = none := by decide

end Numeral

end RiskTally
