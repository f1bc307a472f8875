import RiskTally.Proofs.Comparisons
import RiskTally.Proofs.Duplicates
import RiskTally.Proofs.RoundedIntegers

/-!
# Comparing integers

A column of integers is compared with an integer as floating-point numbers, so both are rounded
to 53 bits first.  With a literal of up to 53 bits that changes no comparison, whatever the
column holds.  With a longer one the rounding shows: what excludes equality may miss a row, and
what allows it may select one too many.  Duplicates are counted by the integers themselves.

## Main results

* `Expression.selects_duplicate`: the rows whose value occurs in another row.
* `Expression.integer_comparisons`: what a comparison with an integer selects.
-/

namespace RiskTally

/-- The row holds an integer, and after both are turned into other integers it relates to the
number. -/
def Dataset.RelatesTo (dataset : Dataset) (column : Text) (op : Comparison) (turned : Int → Int)
    (n : Int) (row : Nat) : Prop :=
  ∃ i : Int64, dataset.cellAt? column row = some (.integer i) ∧
    op.Relates (turned i.toInt) (turned n)

/-! ## Duplicates -/

namespace Expression

/-- A column in a call of `duplicate`. -/
def duplicateText (column : ColumnName) : Text :=
  (Written.duplicate column).text

/-- The rows whose value occurs in another row. -/
theorem selects_duplicate {context : Context} (h : context.Rectangular) (column : ColumnName) :
    Selects context (duplicateText column) fun row =>
      ∃ cell, context.dataset.cellAt? column.text row = some cell ∧
        ∃ other, other ≠ row ∧
          ∃ cell', context.dataset.cellAt? column.text other = some cell' ∧
            cell'.key = cell.key :=
  selects_duplicateCall column.ne_nil column.trimmed (column.not_mem (by decide)) h

/-! ## Integers as literals -/

/-- The digits of an integer hold nothing that an expression would take for its own. -/
theorem plain_of_readInteger? {text : Text} {n : Int64} (h : readInteger? text = some n) :
    ∀ c ∈ text, Text.isBlank c = false ∧ c ∉ ['\n', '"', '\'', '|', 'A', '='] := by
  obtain ⟨magnitude, hdigits, -⟩ := exists_magnitude_of_readInteger? h
  have hsigns : ∀ c ∈ text, c ∈ (splitSign text).2 ∨ c ∈ ['-', '+'] := by
    unfold splitSign
    split
    · simp +contextual
    · simp +contextual
    · exact fun c hc => .inl hc
  have hplain : ∀ c ∈ ['-', '+'],
      Text.isBlank c = false ∧ c ∉ ['\n', '"', '\'', '|', 'A', '='] := by decide
  intro c hc
  rcases hsigns c hc with hdigit | hsign
  · have hdigit' := Numeral.isDigit_of_readDigits? hdigits c hdigit
    refine ⟨isBlank_of_isNameChar (isNameChar_of_isDigit (Numeral.isDigit_iff.1 hdigit')), ?_⟩
    have hothers : ∀ c ∈ ['\n', '"', '\'', '|', 'A', '='], Numeral.isDigit c = false := by decide
    exact fun hmem => by simp [hothers c hmem] at hdigit'
  · exact hplain c hsign

theorem not_plain_of_quoteMark :
    ∀ quote ∈ quoteMarks, quote ∈ ['\n', '"', '\'', '|', 'A', '='] := by
  decide

/-- The digits of an integer are read as they stand. -/
def integerOperand {text : Text} {n : Int64} (h : readInteger? text = some n) : Operand where
  text := text
  ne_nil := by
    rintro rfl
    contradiction
  line hmem := absurd (plain_of_readInteger? h _ hmem).2 (by decide)
  trimmed := Text.trimOf_eq_self_iff.2
    ⟨fun c hc => (plain_of_readInteger? h c (List.mem_of_mem_head? hc)).1,
      fun c hc => (plain_of_readInteger? h c (List.mem_of_getLast? hc)).1⟩
  first quote hquote hc := by
    have hplain := (plain_of_readInteger? h quote (List.mem_of_head? hc)).2
    exact hplain (not_plain_of_quoteMark quote hquote)
  last quote hquote hc := by
    have hplain := (plain_of_readInteger? h quote (List.mem_of_getLast? hc)).2
    exact hplain (not_plain_of_quoteMark quote hquote)
  noBar hmem := absurd (plain_of_readInteger? h _ hmem).2 (by decide)
  noAnd hoccurs := absurd (plain_of_readInteger? h 'A' (hoccurs.subset (by decide))).2 (by decide)

/-! ## Comparisons with integers -/

section Compared

variable {context : Context} (h : context.Rectangular) (column : ColumnName)
  (honly : ∀ row cell, context.dataset.cellAt? column.text row = some cell →
    cell = .null ∨ ∃ i, cell = .integer i)
  {literal : Text} {n : Int64} (hread : readInteger? literal = some n)
  {gap gap' : Text} (hgap : ∀ c ∈ gap, Text.isBlank c = true)
  (hgap' : ∀ c ∈ gap', Text.isBlank c = true)
include h honly hread hgap hgap'

/-- An integer is compared with the cells after both were rounded. -/
theorem selects_integer_comparison (op : Comparison) :
    Selects context (comparisonText column gap op gap' literal)
      (context.dataset.RelatesTo column.text op nearestInt n.toInt) := by
  have hequals : '=' ∉ gap' ++ literal := by
    rw [List.mem_append, not_or]
    exact ⟨fun hmem => absurd (hgap' _ hmem) (by decide),
      fun hmem => absurd (plain_of_readInteger? hread _ hmem).2 (by decide)⟩
  obtain ⟨mask, hmask, hlength, hrows⟩ := selects_comparison h column hgap hgap' op
    (integerOperand hread) fun _ hfirst => hequals (List.mem_of_head? hfirst)
  refine ⟨mask, hmask, hlength, fun row => (hrows row).trans ?_⟩
  obtain ⟨number, hnumber, hvalue⟩ := Binary.denotes_of_readInteger? hread
  constructor
  · rintro ⟨cell, hcell, htest⟩
    obtain ⟨value, hnumber', hholds⟩ := (Predicate.compareTest_of_number op hnumber cell).1 htest
    rcases honly row cell hcell with rfl | ⟨i, rfl⟩
    · contradiction
    · obtain rfl := Option.some.inj hnumber'
      rw [Binary.holds_iff_of_denotes op (Binary.denotes_ofInt64 i) hvalue,
        Comparison.relates_cast] at hholds
      exact ⟨i, hcell, hholds⟩
  · rintro ⟨i, hcell, hrelates⟩
    refine ⟨.integer i, hcell, (Predicate.compareTest_of_number op hnumber _).2 ⟨_, rfl, ?_⟩⟩
    rw [Binary.holds_iff_of_denotes op (Binary.denotes_ofInt64 i) hvalue,
      Comparison.relates_cast]
    exact hrelates

/-- A comparison of a column of integers with an integer selects the rows whose integer, rounded
to 53 bits, relates to the rounded literal.  Operators that allow equality miss no row by that,
and those that exclude it select no wrong one.  With a literal of less than 54 bits nothing is
lost: the rows are those whose integer relates to the literal, and two of them that are equal to
it hold the same integer, so that both are duplicates. -/
theorem integer_comparisons (op : Comparison) :
    Selects context (comparisonText column gap op gap' literal)
        (context.dataset.RelatesTo column.text op nearestInt n.toInt) ∧
      (op.isWeak = true → ∀ row, context.dataset.RelatesTo column.text op id n.toInt row →
        context.dataset.RelatesTo column.text op nearestInt n.toInt row) ∧
      (op.isWeak = false → ∀ row, context.dataset.RelatesTo column.text op nearestInt n.toInt row →
        context.dataset.RelatesTo column.text op id n.toInt row) ∧
      (n.toInt.natAbs < twoPow 53 →
        Selects context (comparisonText column gap op gap' literal)
            (context.dataset.RelatesTo column.text op id n.toInt) ∧
          ∃ equal flagged,
            evaluate (comparisonText column gap .eq gap' literal) context = .ok equal ∧
            evaluate (duplicateText column) context = .ok flagged ∧
            ∀ row other : Nat, row ≠ other → equal[row]? = some true →
              equal[other]? = some true →
                (∃ i, context.dataset.cellAt? column.text row = some (.integer i) ∧
                  context.dataset.cellAt? column.text other = some (.integer i)) ∧
                flagged[row]? = some true ∧ flagged[other]? = some true) := by
  have hrounded := selects_integer_comparison h column honly hread hgap hgap'
  refine ⟨hrounded op, ?_, ?_, fun hshort => ⟨?_, ?_⟩⟩
  · rintro hweak row ⟨i, hcell, hrelates⟩
    exact ⟨i, hcell, Comparison.relates_nearestInt hweak hrelates⟩
  · rintro hstrict row ⟨i, hcell, hrelates⟩
    exact ⟨i, hcell, Comparison.relates_of_nearestInt hstrict hrelates⟩
  · obtain ⟨mask, hmask, hlength, hrows⟩ := hrounded op
    refine ⟨mask, hmask, hlength, fun row => (hrows row).trans ?_⟩
    exact exists_congr fun i => and_congr_right fun _ =>
      Comparison.relates_nearestInt_iff op hshort i.toInt
  · obtain ⟨equal, hequal, -, hequals⟩ := hrounded .eq
    obtain ⟨flagged, hflagged, -, hflags⟩ := selects_duplicate h column
    have hsame : ∀ row : Nat, equal[row]? = some true →
        context.dataset.cellAt? column.text row = some (.integer n) := by
      intro row hrow
      obtain ⟨i, hcell, hrelates⟩ := (hequals row).1 hrow
      have hint := (Comparison.relates_nearestInt_iff .eq hshort i.toInt).1 hrelates
      rw [hcell, Int64.toInt_inj.1 hint]
    refine ⟨equal, flagged, hequal, hflagged, fun row other hne hrow hother => ⟨⟨n, hsame row hrow,
      hsame other hother⟩, (hflags row).2 ?_, (hflags other).2 ?_⟩⟩
    · exact ⟨_, hsame row hrow, other, hne.symm, _, hsame other hother, rfl⟩
    · exact ⟨_, hsame other hother, row, hne, _, hsame row hrow, rfl⟩

end Compared

/-- A column of card numbers, one of them missing and one past 53 bits, and a literal. -/
theorem integer_comparisons_four_rows :
    ∃ (context : Context) (column : ColumnName) (n : Int64), context.Rectangular ∧
      (∀ row cell, context.dataset.cellAt? column.text row = some cell →
        cell = .null ∨ ∃ i, cell = .integer i) ∧
      readInteger? "-7".toList = some n ∧ n.toInt.natAbs < twoPow 53 ∧
      comparisonText column [' '] .ge [' '] "-7".toList = "Card >= -7".toList ∧
      Selects context "Card >= -7".toList (context.dataset.RelatesTo "Card".toList .ge id (-7)) ∧
      evaluate "Card >= -7".toList context = .ok [true, false, true, true] := by
  let card : ColumnName := ⟨"Card".toList, by decide, by decide⟩
  let context : Context :=
    { dataset :=
        { columns := [("Card".toList,
            [.integer (-7), .null, .integer 9007199254740993, .integer (-7)])]
          sources := List.replicate 4 "a.csv".toList }
      names := List.replicate 4 "ANA".toList
      settings := .default }
  have hcontext : context.Rectangular :=
    ⟨by simp [Dataset.Rectangular, Dataset.rows, context], rfl⟩
  have honly : ∀ row cell, context.dataset.cellAt? card.text row = some cell →
      cell = .null ∨ ∃ i, cell = .integer i := by
    intro row cell hcell
    have hmem : cell ∈ [.integer (-7), .null, .integer 9007199254740993, .integer (-7)] :=
      List.mem_of_getElem? hcell
    simp only [List.mem_cons, List.not_mem_nil, or_false] at hmem
    rcases hmem with rfl | rfl | rfl | rfl <;> simp
  have hread : readInteger? "-7".toList = some (-7) := by decide
  have hblank : ∀ c ∈ [' '], Text.isBlank c = true := by decide
  have hshort : (-7 : Int64).toInt.natAbs < twoPow 53 := by decide
  obtain ⟨-, -, -, hexact⟩ := integer_comparisons hcontext card honly hread hblank hblank .ge
  have hmask : evaluate "Card >= -7".toList context = .ok [true, false, true, true] := by
    rw [evaluate_eq_ok hcontext, maskOf, parse_eq_conjunction]
    exact congrArg Except.ok (by decide +kernel)
  exact ⟨context, card, -7, hcontext, honly, hread, hshort, rfl, (hexact hshort).1, hmask⟩

/-- Two numbers that differ in their 54th bit are both equal to the second one, and neither is
a duplicate. -/
theorem integer_comparisons_inexact :
    ∃ (context : Context) (column : ColumnName) (n : Int64), context.Rectangular ∧
      (∀ row cell, context.dataset.cellAt? column.text row = some cell →
        cell = .null ∨ ∃ i, cell = .integer i) ∧
      intText n.toInt = "9007199254740993".toList ∧
      comparisonText column [' '] .eq [' '] (intText n.toInt) =
        "c == 9007199254740993".toList ∧
      evaluate "c == 9007199254740993".toList context = .ok [true, true] ∧
      evaluate "duplicate(c)".toList context = .ok [false, false] ∧
      ¬ Selects context "c == 9007199254740993".toList
        (context.dataset.RelatesTo column.text .eq id n.toInt) := by
  let column : ColumnName := ⟨"c".toList, by decide, by decide⟩
  let context : Context :=
    { dataset :=
        { columns := [("c".toList, [.integer 9007199254740992, .integer 9007199254740993])]
          sources := List.replicate 2 "a.csv".toList }
      names := List.replicate 2 "ANA".toList
      settings := .default }
  have hcontext : context.Rectangular :=
    ⟨by simp [Dataset.Rectangular, Dataset.rows, context], rfl⟩
  have honly : ∀ row cell, context.dataset.cellAt? column.text row = some cell →
      cell = .null ∨ ∃ i, cell = .integer i := by
    intro row cell hcell
    have hmem : cell ∈ [.integer 9007199254740992, .integer 9007199254740993] :=
      List.mem_of_getElem? hcell
    simp only [List.mem_cons, List.not_mem_nil, or_false] at hmem
    rcases hmem with rfl | rfl <;> simp
  have hdigits : intText (9007199254740993 : Int64).toInt = "9007199254740993".toList := by
    decide +kernel
  have hequal : evaluate "c == 9007199254740993".toList context = .ok [true, true] := by
    rw [evaluate_eq_ok hcontext, maskOf, parse_eq_conjunction]
    exact congrArg Except.ok (by decide +kernel)
  have hflagged : evaluate "duplicate(c)".toList context = .ok [false, false] := by
    rw [evaluate_eq_ok hcontext, maskOf, parse_eq_conjunction]
    exact congrArg Except.ok (by decide +kernel)
  refine ⟨context, column, 9007199254740993, hcontext, honly, hdigits, by rw [hdigits]; rfl,
    hequal, hflagged, ?_⟩
  rintro ⟨mask, hmask, -, hrows⟩
  obtain rfl := Except.ok.inj (hequal.symm.trans hmask)
  obtain ⟨i, hcell, hrelates⟩ := (hrows 0).1 rfl
  have hfirst : i = 9007199254740992 := by
    have hfirst : some (Cell.integer 9007199254740992) = some (.integer i) := hcell
    injection hfirst with hcells
    injection hcells with hint
    exact hint.symm
  rw [hfirst] at hrelates
  have hequals : (9007199254740992 : Int64).toInt = (9007199254740993 : Int64).toInt := hrelates
  exact absurd hequals (by decide)

end Expression

end RiskTally
