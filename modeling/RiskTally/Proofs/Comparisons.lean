import RiskTally.Proofs.CellTests
import RiskTally.Proofs.ColumnTexts
import RiskTally.Proofs.NamePaths

/-!
# Comparisons as they are written

A column, an operator and a literal select the rows whose cell compares with the literal.  It
is the literal alone that decides how: one that is a number is compared with the numbers of
the cells, any other with their texts.

## Main results

* `Expression.selects_comparison`: the rows that a written comparison selects.
* `Predicate.compareTest_of_number`, `Predicate.compareTest_of_text`: the two ways to compare.
-/

namespace RiskTally

namespace Predicate

/-- A literal that is a number is compared with the number of the cell. -/
theorem compareTest_of_number (op : Comparison) {literal : Text} {number : Float}
    (h : readFloat? literal = some number) (cell : Cell) :
    compareTest op.symbol literal cell = true ↔
      ∃ value, cell.toNumber? = some value ∧ op.holds value number = true := by
  rw [compareTest, Comparison.read_symbol]
  cases hvalue : cell.toNumber? <;> simp [cellCompares, h, hvalue]

/-- Any other literal is compared with the text of the cell. -/
theorem compareTest_of_text {literal : Text} (h : readFloat? literal = none) (cell : Cell) :
    compareTest Comparison.eq.symbol literal cell = true ↔ cell.toText? = some literal := by
  rw [compareTest, Comparison.read_symbol]
  simp [cellCompares, h]

end Predicate

namespace Expression

/-- A literal that a comparison reads as it stands. -/
structure Operand where
  text : Text
  ne_nil : text ≠ []
  line : '\n' ∉ text
  trimmed : Text.trim text = text
  first : ∀ quote ∈ quoteMarks, text.head? ≠ some quote
  last : ∀ quote ∈ quoteMarks, text.getLast? ≠ some quote
  noBar : '|' ∉ text
  noAnd : ¬ "AND".toList <:+: text

/-- There are no blanks and no quotes around an operand. -/
theorem Operand.unquote_text (operand : Operand) : unquote operand.text = operand.text := by
  have hkept : ∀ quote ∈ quoteMarks,
      Text.trimOf (· == quote) operand.text = operand.text := by
    intro quote hquote
    refine Text.trimOf_eq_self_iff.2 ⟨fun c hc => ?_, fun c hc => ?_⟩
    · exact beq_eq_false_iff_ne.2 fun heq => operand.first quote hquote (heq ▸ hc)
    · exact beq_eq_false_iff_ne.2 fun heq => operand.last quote hquote (heq ▸ hc)
  rw [unquote, operand.trimmed, hkept '"' (by decide), hkept '\'' (by decide)]

/-- A column, an operator and a literal, with blanks around the operator. -/
def comparisonText (column : ColumnName) (gap : Text) (op : Comparison) (gap' literal : Text) :
    Text :=
  column.text ++ (gap ++ (op.symbol ++ (gap' ++ literal)))

/-- The rows that a written comparison selects.  After `>` and `<` an equals sign would belong
to the operator. -/
theorem selects_comparison {context : Context} (h : context.Rectangular) (column : ColumnName)
    {gap gap' : Text} (hgap : ∀ c ∈ gap, Text.isBlank c = true)
    (hgap' : ∀ c ∈ gap', Text.isBlank c = true) (op : Comparison) (operand : Operand)
    (hop : op = .gt ∨ op = .lt → (gap' ++ operand.text).head? ≠ some '=') :
    Selects context (comparisonText column gap op gap' operand.text) fun row =>
      ∃ cell, context.dataset.cellAt? column.text row = some cell ∧
        Predicate.compareTest op.symbol operand.text cell = true := by
  have htrim : Text.trim (comparisonText column gap op gap' operand.text) =
      comparisonText column gap op gap' operand.text := by
    have hends := Text.trimOf_append column.trimmed operand.trimmed column.ne_nil operand.ne_nil
      (gap ++ (op.symbol ++ gap'))
    simpa [Text.trim, comparisonText, List.append_assoc] using hends
  have hfirst : ∀ c ∈ operand.text.head?, Text.isBlank c = false :=
    (Text.trimOf_eq_self_iff.1 operand.trimmed).1
  have hparse := parse_comparison column op hgap hgap' operand.ne_nil hfirst operand.line
    operand.noBar operand.noAnd hop
  rw [← comparisonText, ← htrim, operand.unquote_text] at hparse
  exact selects_of_mask h hparse fun row => Predicate.getElem?_mask_iff h rfl row

end Expression

end RiskTally
