import RiskTally.Proofs.Comparisons
import RiskTally.Proofs.NumberTexts
import RiskTally.Proofs.RoundedIntegers

/-!
# Equality finds its own cell

The text form of a cell, put behind `==`, selects the row of the cell.  A text that is no number
is looked for among the texts.  A text that is one is compared as a number, and then the cell
must be that number as well: a text cell holds the same text, an integer is rounded like its
digits, and a floating-point number is read back from its text.

The word `nan` is the exception.  As a text it says that there is no number, and that is equal to
nothing, so a name that happens to be this word is not found by an equality.

## Main results

* `Cell.equals_own_text`: how a cell compares with the number that its text says.
* `Expression.equality_finds_own_cell`: an equality with the text of a cell.
-/

namespace RiskTally

/-- The text of an integer is read as that integer. -/
theorem exists_denotes_intText (i : Int64) {number : Float}
    (h : readFloat? (intText i.toInt) = some number) :
    Binary.Denotes number (nearestInt i.toInt) := by
  obtain ⟨f, hread, hvalue⟩ := Binary.denotes_of_readInteger? (readInteger?_intText i)
  rw [h, Option.some.injEq] at hread
  exact hread ▸ hvalue

namespace Cell

/-- The number of a cell is equal to the one that its text says, unless that is no number. -/
theorem equals_own_text {cell : Cell} (hpresent : cell.isMissing = false) {text : Text}
    (htext : cell.toText? = some text) (htrim : Text.trim text = text) {number : Float}
    (hnumber : readFloat? text = some number) :
    ∃ value, cell.toNumber? = some value ∧
      ((value == number) = true ↔ Binary.ofFloat number ≠ .nan) := by
  cases cell with
  | text s =>
      obtain rfl := Option.some.inj htext
      refine ⟨number, ?_, Binary.beq_self_iff number⟩
      rw [toNumber?, htrim, hnumber]
  | integer i =>
      obtain rfl := Option.some.inj htext
      have hvalue := exists_denotes_intText i hnumber
      refine ⟨_, rfl, iff_of_true ?_ hvalue.ne_nan⟩
      exact (Binary.holds_iff_of_denotes .eq (Binary.denotes_ofInt64 i) hvalue).2 rfl
  | float f =>
      obtain rfl := Option.some.inj htext
      have hfloat : Binary.ofFloat f ≠ .nan := by simpa [isMissing] using hpresent
      rw [readFloat?_floatText hfloat, Option.some.injEq] at hnumber
      exact ⟨f, rfl, hnumber ▸ Binary.beq_self_iff f⟩
  | boolean b =>
      obtain rfl := Option.some.inj htext
      cases b with
      | false => contradiction
      | true => contradiction
  | null => contradiction

/-- Only of texts the word for no number is the text. -/
theorem exists_text_of_isNan {cell : Cell} (hpresent : cell.isMissing = false) {text : Text}
    (htext : cell.toText? = some text) (h : Numeral.IsNan text) : cell = .text text := by
  cases cell with
  | text s => rw [Option.some.inj htext]
  | integer i =>
      obtain rfl := Option.some.inj htext
      obtain ⟨f, hread, hvalue⟩ := Binary.denotes_of_readInteger? (readInteger?_intText i)
      exact absurd ((Numeral.ofFloat_eq_nan_iff hread).2 h) hvalue.ne_nan
  | float f =>
      obtain rfl := Option.some.inj htext
      have hfloat : Binary.ofFloat f ≠ .nan := by simpa [isMissing] using hpresent
      exact absurd ((Numeral.ofFloat_eq_nan_iff (readFloat?_floatText hfloat)).2 h) hfloat
  | boolean b =>
      obtain rfl := Option.some.inj htext
      cases b with
      | false => exact absurd h (by decide)
      | true => exact absurd h (by decide)
  | null => contradiction

end Cell

namespace Expression

/-- An equality with the text of a cell selects its row, unless the text is the word for no
number.  Then the cell is a text, and no row is selected. -/
theorem equality_finds_own_cell {context : Context} (h : context.Rectangular)
    (column : ColumnName) (row : Nat) {cell : Cell}
    (hcell : context.dataset.cellAt? column.text row = some cell)
    (hpresent : cell.isMissing = false) (operand : Operand)
    (htext : cell.toText? = some operand.text) {gap gap' : Text}
    (hgap : ∀ c ∈ gap, Text.isBlank c = true) (hgap' : ∀ c ∈ gap', Text.isBlank c = true) :
    ∃ mask, evaluate (comparisonText column gap .eq gap' operand.text) context = .ok mask ∧
      (mask[row]? = some true ↔ ¬ Numeral.IsNan operand.text) ∧
      (Numeral.IsNan operand.text → cell = .text operand.text ∧
        ∀ other : Nat, mask[other]? ≠ some true) := by
  obtain ⟨mask, hmask, -, hrows⟩ :=
    selects_comparison h column hgap hgap' .eq operand (by simp)
  refine ⟨mask, hmask, ?_, fun hnan => ⟨Cell.exists_text_of_isNan hpresent htext hnan, ?_⟩⟩
  · have hown : mask[row]? = some true ↔
        Predicate.compareTest Comparison.eq.symbol operand.text cell = true := by
      rw [hrows row]
      constructor
      · rintro ⟨other, hother, htest⟩
        rw [hcell, Option.some.injEq] at hother
        exact hother ▸ htest
      · exact fun htest => ⟨cell, hcell, htest⟩
    rw [hown]
    cases hnumber : readFloat? operand.text with
    | none =>
        have hword : ¬ Numeral.IsNan operand.text := by
          intro hnan
          rw [readFloat?, (Numeral.read?_eq_nan_iff _).2 hnan] at hnumber
          contradiction
        rw [Predicate.compareTest_of_text hnumber]
        exact iff_of_true htext hword
    | some number =>
        obtain ⟨value, hvalue, hequal⟩ :=
          Cell.equals_own_text hpresent htext operand.trimmed hnumber
        rw [Predicate.compareTest_of_number .eq hnumber, ← Numeral.ofFloat_eq_nan_iff hnumber,
          ← ne_eq, ← hequal]
        simp [hvalue, Comparison.holds]
  · intro other hother
    obtain ⟨cell', -, htest⟩ := (hrows other).1 hother
    have hread := (Numeral.read?_eq_nan_iff _).2 hnan
    have hnumber : readFloat? operand.text = some (Numeral.toFloat .nan) := by
      rw [readFloat?, hread]
      rfl
    obtain ⟨value, -, hholds⟩ := (Predicate.compareTest_of_number .eq hnumber cell').1 htest
    rw [Comparison.holds_nan .eq value ((Numeral.ofFloat_eq_nan_iff hnumber).2 hnan)] at hholds
    contradiction

/-- A tenth is found by its text, and so is a text that says the same number. -/
theorem equality_finds_own_cell_tenth :
    ∃ (context : Context) (column : ColumnName) (operand : Operand) (cell : Cell),
      context.Rectangular ∧ context.dataset.cellAt? column.text 0 = some cell ∧
      cell.isMissing = false ∧ cell.toText? = some operand.text ∧
      comparisonText column [' '] .eq [' '] operand.text = "Share == 0.1".toList ∧
      (∃ mask, evaluate "Share == 0.1".toList context = .ok mask ∧ mask[0]? = some true) ∧
      evaluate "Share == 0.1".toList context = .ok [true, true, false, false] := by
  let column : ColumnName := ⟨"Share".toList, by decide, by decide⟩
  let operand : Operand :=
    { text := "0.1".toList, ne_nil := by decide, line := by decide, trimmed := by decide
      first := by decide, last := by decide, noBar := by decide, noAnd := by decide }
  let context : Context :=
    { dataset :=
        { columns := [("Share".toList,
            [.float 0.1, .text " 1e-1 ".toList, .text "nan".toList, .null])]
          sources := List.replicate 4 "a.csv".toList }
      names := List.replicate 4 "ANA".toList
      settings := .default }
  have hcontext : context.Rectangular :=
    ⟨by simp [Dataset.Rectangular, Dataset.rows, context], rfl⟩
  have hpresent : (Cell.float 0.1).isMissing = false := by decide +kernel
  have htext : (Cell.float 0.1).toText? = some operand.text := by decide +kernel
  have hblank : ∀ c ∈ [' '], Text.isBlank c = true := by decide
  obtain ⟨mask, hmask, hown, -⟩ :=
    equality_finds_own_cell hcontext column 0 rfl hpresent operand htext hblank hblank
  have hrows : evaluate "Share == 0.1".toList context = .ok [true, true, false, false] := by
    rw [evaluate_eq_ok hcontext, maskOf, parse_eq_conjunction]
    exact congrArg Except.ok (by decide +kernel)
  exact ⟨context, column, operand, _, hcontext, rfl, hpresent, htext, rfl,
    ⟨mask, hmask, hown.2 (by decide)⟩, hrows⟩

/-- A person called Nan is not found by an equality, though by a list of values. -/
theorem equality_misses_own_cell :
    ∃ (context : Context) (column : ColumnName) (operand : Operand),
      context.Rectangular ∧ operand.text = "Nan".toList ∧
      context.dataset.cellAt? column.text 0 = some (.text operand.text) ∧
      comparisonText column [' '] .eq [' '] operand.text = "Name == Nan".toList ∧
      evaluate "Name == Nan".toList context = .ok [false, false] ∧
      evaluate "Name in [Nan]".toList context = .ok [true, false] := by
  let column : ColumnName := ⟨"Name".toList, by decide, by decide⟩
  let operand : Operand :=
    { text := "Nan".toList, ne_nil := by decide, line := by decide, trimmed := by decide
      first := by decide, last := by decide, noBar := by decide, noAnd := by decide }
  let context : Context :=
    { dataset :=
        { columns := [("Name".toList, [.text "Nan".toList, .text "Ana".toList])]
          sources := List.replicate 2 "a.csv".toList }
      names := List.replicate 2 "ANA".toList
      settings := .default }
  have hcontext : context.Rectangular :=
    ⟨by simp [Dataset.Rectangular, Dataset.rows, context], rfl⟩
  have hequal : evaluate "Name == Nan".toList context = .ok [false, false] := by
    rw [evaluate_eq_ok hcontext, maskOf, parse_eq_conjunction]
    exact congrArg Except.ok (by decide +kernel)
  have hlisted : evaluate "Name in [Nan]".toList context = .ok [true, false] := by
    rw [evaluate_eq_ok hcontext, maskOf, parse_eq_conjunction]
    exact congrArg Except.ok (by decide +kernel)
  exact ⟨context, column, operand, hcontext, rfl, rfl, rfl, hequal, hlisted⟩

end Expression

end RiskTally
