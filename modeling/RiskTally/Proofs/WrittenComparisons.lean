import RiskTally.Proofs.Comparisons

/-!
# Where a comparison is cut

A comparison is written as a column, an operator and a value, with any blanks around the
operator.  Nothing marks where one part ends and the next begins: the value may hold further
operators, blanks, quotes and the words of other predicates.  There is one cut all the same.
The column ends at the first character that no name has, the operator is the longest that stands
there, and the value begins after the blanks.

## Main results

* `Expression.gap_inj`: blanks before what is not blank are told apart from it.
* `Expression.WrittenComparison.comparison?_text`: the operator is the longest that stands there.
* `Expression.WrittenComparison.text_injective`: a text is a written comparison in one way.
* `Predicate.compareTest_iff`: what a comparison asks of a cell.
* `Expression.selectText_comparison`: a written comparison selects what it asks for.
-/

namespace RiskTally

/-! ## What a comparison asks of a cell -/

namespace Predicate

/-- The cell compares with the literal: its number does if the literal is a number, and its text
is the literal if it is not.  Texts can only be equal. -/
inductive Compares (op : Comparison) (literal : Text) (cell : Cell) : Prop where
  | numbers {value number : Float} (literal_eq : readFloat? literal = some number)
      (cell_eq : cell.toNumber? = some value) (holds : op.holds value number = true)
  | texts (literal_eq : readFloat? literal = none) (op_eq : op = .eq)
      (cell_eq : cell.toText? = some literal)

theorem compareTest_iff {op : Comparison} {literal : Text} {cell : Cell} :
    compareTest op.symbol literal cell = true ↔ Compares op literal cell := by
  cases hliteral : readFloat? literal with
  | some number =>
      rw [compareTest_of_number op hliteral]
      constructor
      · rintro ⟨value, hvalue, hholds⟩
        exact .numbers hliteral hvalue hholds
      · rintro (⟨hnumber, hvalue, hholds⟩ | ⟨hnone, -, -⟩)
        · obtain rfl := Option.some.inj (hliteral.symm.trans hnumber)
          exact ⟨_, hvalue, hholds⟩
        · exact absurd (hliteral.symm.trans hnone) (by simp)
  | none =>
      constructor
      · intro htest
        by_cases hop : op = .eq
        · rw [hop, compareTest_of_text hliteral] at htest
          exact .texts hliteral hop htest
        · rw [compareTest, Comparison.read_symbol] at htest
          simp [hliteral, hop] at htest
      · rintro (⟨hnumber, -, -⟩ | ⟨-, rfl, htext⟩)
        · exact absurd (hliteral.symm.trans hnumber) (by simp)
        · exact (compareTest_of_text hliteral cell).2 htext

end Predicate

/-! ## One cut -/

theorem Comparison.symbol_injective {op other : Comparison} (h : op.symbol = other.symbol) :
    op = other := by
  have hread := read_symbol op
  rw [h, read_symbol] at hread
  exact (Except.ok.inj hread).symm

namespace Expression

/-- Blanks and what does not begin with one are told apart. -/
theorem gap_inj {gap gap' value value' : Text} (hgap : ∀ c ∈ gap, Text.isBlank c = true)
    (hgap' : ∀ c ∈ gap', Text.isBlank c = true) (hvalue : ∀ c ∈ value.head?, Text.isBlank c = false)
    (hvalue' : ∀ c ∈ value'.head?, Text.isBlank c = false) (h : gap ++ value = gap' ++ value') :
    gap = gap' ∧ value = value' := by
  have hsame : value = value' := by rw [← dropWhile_gap hgap hvalue, h, dropWhile_gap hgap' hvalue']
  exact ⟨List.append_cancel_right (hsame ▸ h), hsame⟩

/-- A comparison as it is written: the value is on one line, without connectives, and no equals
sign at its beginning could belong to the operator. -/
structure WrittenComparison where
  column : ColumnName
  before : Text
  op : Comparison
  after : Text
  value : Text
  before_blank : ∀ c ∈ before, Text.isBlank c = true
  after_blank : ∀ c ∈ after, Text.isBlank c = true
  ne_nil : value ≠ []
  first : ∀ c ∈ value.head?, Text.isBlank c = false
  line : '\n' ∉ value
  noBar : '|' ∉ value
  noAnd : ¬ "AND".toList <:+: value
  noEquals : op = .gt ∨ op = .lt → value.head? ≠ some '='

namespace WrittenComparison

variable (written : WrittenComparison)

/-- What follows the operator. -/
def tail : Text :=
  written.after ++ written.value

/-- The written comparison. -/
def text : Text :=
  comparisonText written.column written.before written.op written.after written.value

/-- What the cells are compared with. -/
def literal : Text :=
  unquote written.value

/-- After `>` and `<` no equals sign follows at once. -/
theorem head?_tail (hop : written.op = .gt ∨ written.op = .lt) :
    written.tail.head? ≠ some '=' := by
  cases hafter : written.after with
  | nil => simpa [tail, hafter] using written.noEquals hop
  | cons c after =>
      have hblank := written.after_blank c (by simp [hafter])
      intro hequals
      obtain rfl : c = '=' := by simpa [tail, hafter] using hequals
      exact absurd hblank (by decide)

theorem parse_text :
    parse written.text = atom (.compare written.column.text written.op.symbol written.literal) :=
  parse_comparison written.column written.op written.before_blank written.after_blank written.ne_nil
    written.first written.line written.noBar written.noAnd written.head?_tail

/-- The operator is the longest that stands where it does. -/
theorem comparison?_text : Predicate.comparison? (written.op.symbol ++ written.tail) =
    some (written.op.symbol, written.literal) :=
  comparison?_symbol_append written.op
    (operand?_append written.after_blank written.ne_nil written.first written.line)
    written.head?_tail

/-- A text is a written comparison in one way at most. -/
theorem text_injective {written other : WrittenComparison} (h : other.text = written.text) :
    other = written := by
  obtain ⟨hcolumn, hrest⟩ := column_inj
    (head?_operator other.before_blank other.op other.tail)
    (head?_operator written.before_blank written.op written.tail) h
  obtain ⟨hbefore, hoperator⟩ := gap_inj other.before_blank written.before_blank
    (not_blank_operator other.op other.tail) (not_blank_operator written.op written.tail) hrest
  have hread := other.comparison?_text
  rw [hoperator, written.comparison?_text] at hread
  have hop : other.op = written.op :=
    Comparison.symbol_injective (congrArg Prod.fst (Option.some.inj hread)).symm
  rw [hop] at hoperator
  obtain ⟨hafter, hvalue⟩ := gap_inj other.after_blank written.after_blank other.first written.first
    (List.append_cancel_left hoperator)
  obtain ⟨⟨_, _, _⟩, _, _, _, _⟩ := other
  obtain ⟨⟨_, _, _⟩, _, _, _, _⟩ := written
  subst hcolumn hbefore hop hafter hvalue
  rfl

end WrittenComparison

/-- A written comparison is read as one, in the only way in which it is written, and selects the
rows whose cell compares with the literal by its operator.  No row of a lacking column does. -/
theorem selectText_comparison (written : WrittenComparison) :
    parse written.text =
        atom (.compare written.column.text written.op.symbol written.literal) ∧
      (∀ other : WrittenComparison, other.text = written.text → other = written) ∧
      (∀ context, selectText context written.text =
        .ok (Predicate.overColumn context written.column.text
          (Predicate.comparing context written.op written.literal))) ∧
      ∀ context : Context, context.Rectangular →
        ∃ mask, selectText context written.text = .ok mask ∧ mask.length = context.rows ∧
          ∀ row : Nat, mask[row]? = some true ↔
            ∃ cell, context.dataset.cellAt? written.column.text row = some cell ∧
              Predicate.Compares written.op written.literal cell := by
  have hparse := written.parse_text
  refine ⟨hparse, fun _ => WrittenComparison.text_injective, fun context => ?_,
    fun context hcontext => ?_⟩
  · rw [selectText_eq_ok, maskOf, hparse]
    simp [mask, Predicate.mask]
  · refine ⟨_, selectText_eq_ok context written.text, length_mask hcontext _, fun row => ?_⟩
    have hrow := Predicate.getElem?_mask_iff hcontext
      (show (Predicate.compare written.column.text written.op.symbol written.literal).test? = _
        from rfl) row
    rw [maskOf, hparse, mask, hrow]
    simp only [Predicate.compareTest_iff]

/-- A value with an operator, blanks and quotes of its own, right after the operator. -/
theorem selectText_comparison_quoted_operator :
    ∃ (written : WrittenComparison) (context : Context), context.Rectangular ∧
      written.text = "Note\t=='a >= b'".toList ∧ written.literal = "a >= b".toList ∧
      (∀ other : WrittenComparison, other.text = "Note\t=='a >= b'".toList → other = written) ∧
      selectText context written.text = .ok [true, false] ∧
      ∀ row : Nat, [true, false][row]? = some true ↔
        ∃ cell, context.dataset.cellAt? written.column.text row = some cell ∧
          Predicate.Compares written.op written.literal cell := by
  let written : WrittenComparison :=
    { column := ⟨"Note".toList, by decide, by decide⟩
      before := ['\t']
      op := .eq
      after := []
      value := "'a >= b'".toList
      before_blank := by decide
      after_blank := by decide
      ne_nil := by decide
      first := by
        rintro c ⟨⟩
        decide
      line := by decide
      noBar := by decide
      noAnd := by decide
      noEquals := by decide }
  let context : Context :=
    { dataset :=
        { columns := [("Note".toList, [.text "a >= b".toList, .text "b".toList])]
          sources := List.replicate 2 "a.csv".toList }
      names := ["ANA".toList, "JAN".toList]
      settings := .default }
  have hcontext : context.Rectangular :=
    ⟨by simp [Dataset.Rectangular, Dataset.rows, context], rfl⟩
  obtain ⟨-, hone, hselect, hrows⟩ := selectText_comparison written
  obtain ⟨mask, hmask, -, hmask'⟩ := hrows context hcontext
  have hselected : selectText context written.text = .ok [true, false] :=
    (hselect context).trans (congrArg Except.ok (by decide +kernel))
  obtain rfl := Except.ok.inj (hmask.symm.trans hselected)
  exact ⟨written, context, hcontext, rfl, by decide, hone, hselected, hmask'⟩

end Expression

end RiskTally
