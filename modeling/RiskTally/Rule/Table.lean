import RiskTally.Rule.Basic
import RiskTally.Text.Blank

/-!
# Tables of rules

Rules are written as the rows of a table whose cells stand between vertical bars:
expression, weight, description. Lines that do not begin with a bar are prose. The
first line that does is the header. A row with fewer than two cells, or without an
integer in the second one, is no rule.

## Main results

* `Rule.ofTable_eq_nil`: a text without a second table row holds no rule.
-/

namespace RiskTally.Rule

/-- The list without a first empty text. -/
def dropEmptyFirst : List Text → List Text
  | [] :: cells => cells
  | cells => cells

/-- The list without a last empty text. -/
def dropEmptyLast (cells : List Text) : List Text :=
  (dropEmptyFirst cells.reverse).reverse

/-- The cells of a table row, trimmed, without the empty ones outside the outer bars. -/
def rowCells (line : Text) : List Text :=
  dropEmptyLast (dropEmptyFirst ((line.splitOn '|').map Text.trim))

/-- The rule that the cells of a row make. -/
def ofCells? : List Text → Option Rule
  | expression :: weight :: rest =>
    (readInteger? weight).map fun weight => ⟨expression, weight, rest.head?.getD []⟩
  | _ => none

/-- The lines of a text that are rows of a table, trimmed. -/
def tableRows (text : Text) : List Text :=
  ((text.splitOn '\n').map Text.trim).filter fun line => line.head? == some '|'

/-- The rules of a text: those of its table rows below the first. -/
def ofTable (text : Text) : Rules :=
  ((tableRows text).drop 1).filterMap fun line => ofCells? (rowCells line)

theorem ofTable_eq_nil {text : Text} (h : (tableRows text).length ≤ 1) : ofTable text = [] := by
  simp [ofTable, List.drop_eq_nil_of_le h]

example : (ofTable "# Rules\n\n| rule | w |\n|---|---|\n| Age > 60 | 25 | old |\n|x|-5|".toList).map
    (fun rule => (rule.expression, rule.weight, rule.description)) =
    [("Age > 60".toList, 25, "old".toList), ("x".toList, -5, [])] := by decide

end RiskTally.Rule
