import RiskTally.Text.LowercaseTable
import RiskTally.Text.CasedTable
import RiskTally.Text.Ranges

/-!
# Small letters

The full Unicode lowercase form of a text. Only the capital sigma looks at its
neighbours: it becomes `ς` at the end of a word and `σ` elsewhere. A sigma ends a word
when the nearest character before it that is not case-ignorable is cased, and the
nearest such character after it is not.
-/

namespace RiskTally.Text

/-- The first character that is not case-ignorable is cased. -/
def meetsCased (text : Text) : Bool :=
  match text.find? (fun c => !inRanges caseIgnorableRanges c.toNat) with
  | some c => inRanges casedRanges c.toNat
  | none => false

/-- The small form of a character between the reversed text before it and the text after it. -/
def lowerChar (before : Text) (c : Char) (rest : Text) : Text :=
  if c = 'Σ' then
    if meetsCased before && !meetsCased rest then ['ς'] else ['σ']
  else mapChar lowercaseRuns lowercaseExpansions c

/-- The small form of what follows the reversed text `before`. -/
def lowerFrom : (before : Text) → Text → Text
  | _, [] => []
  | before, c :: rest => lowerChar before c rest ++ lowerFrom (c :: before) rest

/-- The small form of a text. -/
def lower (text : Text) : Text :=
  lowerFrom [] text

example : lower "Full_Name".toList = "full_name".toList := by decide +kernel
example : lower "ΟΔΟΣ ΣΑΣ Σ".toList = "οδος σας σ".toList := by decide +kernel
example : lower "İΑΣ.Α ΑΣ.".toList = "i\u0307ασ.α ας.".toList := by decide +kernel

end RiskTally.Text
