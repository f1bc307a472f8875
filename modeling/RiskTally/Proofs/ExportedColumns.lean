import Mathlib.Data.Finset.Lattice.Fold
import RiskTally.Proofs.TypedCells

/-!
# The types of exported columns

The type in which a column is exported is the join of the types of its cells, a column without
values being one of texts.  So only the set of these types has a say in it, and neither the
order of the cells nor how often one of them is repeated.  An exported type can hold every value
whose own type is at or below it; a value of another type would be left empty.  A column is
written in a type above all of its cells, so that an empty cell is written for an empty one
alone.

## Main results

* `ExportKind.ofCells_eq`: the type of an exported column as a join.
* `ExportKind.ofCells_typeCells`: a column that was read is exported in the type it was given.
* `ExportValues.empties_ofCellsAs_iff`: the types that leave no value out.
* `ExportValues.map_integers_of_ofCells`, `ExportValues.map_booleans_of_ofCells`: the cells come
  back from their values.
* `ExportValues.ofCells_drops_nothing`: what an exported column holds.
-/

namespace RiskTally

/-! ## Types of columns -/

/-- The types that occur among the cells of a column. -/
def Cell.kinds (cells : List Cell) : Finset ColumnKind :=
  (cells.map Cell.kind).toFinset

theorem Cell.kind_le_integer_iff {cell : Cell} :
    cell.kind ≤ .integer ↔ cell = .null ∨ ∃ i, cell = .integer i := by
  cases cell <;> simp [kind, ColumnKind.le_iff_join, ColumnKind.join]

theorem Cell.kind_le_boolean_iff {cell : Cell} :
    cell.kind ≤ .boolean ↔ cell = .null ∨ ∃ b, cell = .boolean b := by
  cases cell <;> simp [kind, ColumnKind.le_iff_join, ColumnKind.join]

theorem Cell.kind_le_float_iff {cell : Cell} :
    cell.kind ≤ .float ↔ cell = .null ∨ (∃ i, cell = .integer i) ∨ ∃ f, cell = .float f := by
  cases cell <;> simp [kind, ColumnKind.le_iff_join, ColumnKind.join]

theorem Cell.mem_kinds {cells : List Cell} {kind : ColumnKind} :
    kind ∈ kinds cells ↔ ∃ cell ∈ cells, cell.kind = kind := by
  simp [kinds]

namespace ColumnKind

/-- Every type but that of an empty column adds itself to a join where it occurs. -/
theorem sup_kinds (kinds : Finset ColumnKind) :
    kinds.sup id =
      (if integer ∈ kinds then integer else ⊥) ⊔ (if float ∈ kinds then float else ⊥) ⊔
        (if boolean ∈ kinds then boolean else ⊥) ⊔ (if text ∈ kinds then text else ⊥) := by
  have hle : ∀ kind, (if kind ∈ kinds then kind else ⊥) ≤ kinds.sup id := by
    intro kind
    split
    · rename_i hmem
      exact Finset.le_sup (f := id) hmem
    · exact bot_le
  refine le_antisymm (Finset.sup_le fun kind hmem => ?_)
    (sup_le (sup_le (sup_le (hle _) (hle _)) (hle _)) (hle _))
  cases kind with
  | empty => exact bot_le
  | integer =>
      rw [if_pos hmem]
      exact le_sup_of_le_left (le_sup_of_le_left le_sup_left)
  | float =>
      rw [if_pos hmem]
      exact le_sup_of_le_left (le_sup_of_le_left le_sup_right)
  | boolean =>
      rw [if_pos hmem]
      exact le_sup_of_le_left le_sup_right
  | text =>
      rw [if_pos hmem]
      exact le_sup_right

end ColumnKind

namespace ExportKind

/-- The type in which a column is exported whose own type is known; a column without values is
written as texts. -/
def ofKind : ColumnKind → ExportKind
  | .integer => integer
  | .float => float
  | .boolean => boolean
  | .text => text
  | .empty => text

/-- The type of the cells that an exported column holds. -/
def toKind : ExportKind → ColumnKind
  | integer => .integer
  | float => .float
  | boolean => .boolean
  | text => .text

theorem le_toKind_ofKind (kind : ColumnKind) : kind ≤ (ofKind kind).toKind := by
  cases kind <;> decide

/-- A column is exported in the join of the types of its cells. -/
theorem ofCells_eq (cells : List Cell) : ofCells cells = ofKind ((Cell.kinds cells).sup id) := by
  have hany : ∀ (kind : ColumnKind) (test : Cell → Bool),
      (∀ cell, test cell = true ↔ cell.kind = kind) →
        cells.any test = decide (kind ∈ Cell.kinds cells) := by
    intro kind test htest
    rw [Bool.eq_iff_iff, List.any_eq_true, decide_eq_true_eq, Cell.mem_kinds]
    exact exists_congr fun cell => and_congr_right fun _ => htest cell
  unfold ofCells
  dsimp only
  rw [hany .integer _ ?_, hany .float _ ?_, hany .boolean _ ?_, hany .text _ ?_,
    ColumnKind.sup_kinds]
  · by_cases hinteger : ColumnKind.integer ∈ Cell.kinds cells <;>
    by_cases hfloat : ColumnKind.float ∈ Cell.kinds cells <;>
    by_cases hboolean : ColumnKind.boolean ∈ Cell.kinds cells <;>
    by_cases htext : ColumnKind.text ∈ Cell.kinds cells <;>
    simp only [hinteger, hfloat, hboolean, htext, decide_true, decide_false, if_true, if_false] <;>
    rfl
  all_goals
    intro cell
    cases cell <;> simp [Cell.kind]

/-- Columns with the same types of cells are exported in the same type. -/
theorem ofCells_congr {cells others : List Cell}
    (h : ∀ kind, (∃ cell ∈ others, cell.kind = kind) ↔ ∃ cell ∈ cells, cell.kind = kind) :
    ofCells others = ofCells cells := by
  have hkinds : Cell.kinds others = Cell.kinds cells :=
    Finset.ext fun kind => by rw [Cell.mem_kinds, Cell.mem_kinds, h]
  rw [ofCells_eq, ofCells_eq, hkinds]

/-- Every cell of a column is of a type that the exported column holds. -/
theorem kind_le_toKind_ofCells {cells : List Cell} {cell : Cell} (h : cell ∈ cells) :
    cell.kind ≤ (ofCells cells).toKind := by
  have hmem : cell.kind ∈ Cell.kinds cells := Cell.mem_kinds.2 ⟨cell, h, rfl⟩
  rw [ofCells_eq]
  exact (Finset.le_sup (f := id) hmem).trans (le_toKind_ofKind _)

/-- A column that was read from a file is exported in the type that it was given there. -/
theorem ofCells_typeCells (settings : ReadSettings) (cells : List (Option Text)) :
    ofCells (typeCells settings cells) = ofKind (inferKind settings cells) := by
  have hle : (Cell.kinds (typeCells settings cells)).sup id ≤ inferKind settings cells := by
    refine Finset.sup_le fun kind hkind => ?_
    obtain ⟨cell, hcell, rfl⟩ := Cell.mem_kinds.1 hkind
    obtain ⟨raw, hraw, rfl⟩ := List.mem_map.1 hcell
    by_cases hnull : typeCell settings (inferKind settings cells) raw = .null
    · rw [hnull]
      exact bot_le
    · exact (kind_typeCell hraw hnull).1.le
  have hge : inferKind settings cells ≤ (Cell.kinds (typeCells settings cells)).sup id := by
    refine ColumnKind.infer_le_iff.2 fun text htext => ?_
    obtain ⟨raw, hraw, hpresent⟩ := List.mem_filterMap.1 htext
    have hcell := typeCell_of_present hraw hpresent
    have hmem : inferKind settings cells ∈ Cell.kinds (typeCells settings cells) :=
      Cell.mem_kinds.2 ⟨_, List.mem_map_of_mem hraw, hcell.1⟩
    have hsame := le_antisymm hle (Finset.le_sup (f := id) hmem)
    rw [hsame]
    exact holds_inferKind hraw hpresent
  rw [ofCells_eq, le_antisymm hle hge]

end ExportKind

/-! ## Values of columns -/

namespace ExportValues

/-- Which of the values are empty cells. -/
def empties : ExportValues → List Bool
  | integers values => values.map Option.isNone
  | floats values => values.map Option.isNone
  | booleans values => values.map Option.isNone
  | texts values => values.map Option.isNone

/-- A cell is left empty in a column of a type. -/
def leavesEmpty (kind : ExportKind) (cell : Cell) : Bool :=
  match kind with
  | .integer => (integer? cell).isNone
  | .float => (float? cell).isNone
  | .boolean => (boolean? cell).isNone
  | .text => cell.toText?.isNone

theorem empties_ofCellsAs (kind : ExportKind) (cells : List Cell) :
    (ofCellsAs kind cells).empties = cells.map (leavesEmpty kind) := by
  cases kind <;> exact List.map_map

/-- A type leaves a value empty exactly if the type of the value is not at or below it. -/
theorem leavesEmpty_eq_isNull_iff {kind : ExportKind} {cell : Cell} :
    leavesEmpty kind cell = cell.isNull ↔ cell.kind ≤ kind.toKind := by
  cases kind <;> cases cell <;>
    simp [leavesEmpty, Cell.isNull, integer?, float?, boolean?, Cell.toNumber?, Cell.toText?,
      Cell.kind, ExportKind.toKind, ColumnKind.le_iff_join, ColumnKind.join]

/-- In a type the empty cells of a column are the only ones to be left empty exactly if it is
above the types of all cells. -/
theorem empties_ofCellsAs_iff {kind : ExportKind} {cells : List Cell} :
    (ofCellsAs kind cells).empties = cells.map Cell.isNull ↔
      ∀ cell ∈ cells, cell.kind ≤ kind.toKind := by
  rw [empties_ofCellsAs, List.map_inj_left]
  exact forall₂_congr fun cell _ => leavesEmpty_eq_isNull_iff

theorem kind_ofCells (cells : List Cell) : (ofCells cells).kind = ExportKind.ofCells cells := by
  unfold ofCells ofCellsAs
  cases ExportKind.ofCells cells <;> rfl

/-- Where every cell is empty or made of a value, the values that are read give the cells
back. -/
theorem map_elim_of_onlyOf {α : Type} {value : α → Cell} {cells : List Cell}
    (h : ExportTable.OnlyOf value cells) {value? : Cell → Option α} (hnull : value? .null = none)
    (hvalue : ∀ a, value? (value a) = some a) :
    (cells.map value?).map (fun read => read.elim .null value) = cells := by
  rw [List.map_map]
  refine (List.map_congr_left fun cell hcell => ?_).trans (List.map_id cells)
  rcases h cell hcell with rfl | ⟨a, rfl⟩
  · simp [hnull]
  · simp [hvalue]

/-- A column that is exported as numbers holds the numbers of its cells. -/
theorem map_float?_of_le {cells : List Cell} (h : ∀ cell ∈ cells, cell.kind ≤ .float) :
    cells.map float? = cells.map Cell.toNumber? := by
  refine List.map_congr_left fun cell hcell => ?_
  rcases Cell.kind_le_float_iff.1 (h cell hcell) with rfl | ⟨i, rfl⟩ | ⟨f, rfl⟩
  · rfl
  · rfl
  · rfl

/-- What is exported in a type is written in that type, and every cell is at or below it. -/
theorem ofCells_of_kind {cells : List Cell} {kind : ExportKind} (h : (ofCells cells).kind = kind) :
    ofCells cells = ofCellsAs kind cells ∧ ∀ cell ∈ cells, cell.kind ≤ kind.toKind := by
  rw [kind_ofCells] at h
  subst h
  exact ⟨rfl, fun cell hcell => ExportKind.kind_le_toKind_ofCells hcell⟩

/-- Exported integers give the cells back. -/
theorem map_integers_of_ofCells {cells : List Cell} {integers : List (Option Int64)}
    (h : ofCells cells = .integers integers) :
    integers.map (fun read => read.elim .null .integer) = cells := by
  obtain ⟨hread, hle⟩ := ofCells_of_kind (congrArg ExportValues.kind h)
  obtain rfl := ExportValues.integers.inj (h.symm.trans hread)
  have honly : ExportTable.OnlyOf .integer cells := fun cell hcell =>
    Cell.kind_le_integer_iff.1 (hle cell hcell)
  exact map_elim_of_onlyOf honly rfl fun _ => rfl

/-- Exported truth values give the cells back. -/
theorem map_booleans_of_ofCells {cells : List Cell} {booleans : List (Option Bool)}
    (h : ofCells cells = .booleans booleans) :
    booleans.map (fun read => read.elim .null .boolean) = cells := by
  obtain ⟨hread, hle⟩ := ofCells_of_kind (congrArg ExportValues.kind h)
  obtain rfl := ExportValues.booleans.inj (h.symm.trans hread)
  have honly : ExportTable.OnlyOf .boolean cells := fun cell hcell =>
    Cell.kind_le_boolean_iff.1 (hle cell hcell)
  exact map_elim_of_onlyOf honly rfl fun _ => rfl

/-- An exported column is as long as the column of cells.  It has an empty cell exactly where
the column has one, in a column of integers or truth values every other cell is the value that
stood there, in a column of numbers its number, and in a column of texts its text.  The type of
the column goes by the set of the types that occur in it: another column of the same types, and
so one of the same cells in another order or repeated, is exported in the same type. -/
theorem ofCells_drops_nothing (cells : List Cell) :
    let values := ofCells cells
    values.kind = ExportKind.ofCells cells ∧
    values.length = cells.length ∧
    (∀ place : Nat, values.empties[place]? = some true ↔ cells[place]? = some .null) ∧
    (∀ integers, values = .integers integers →
      integers.map (fun read => read.elim .null .integer) = cells) ∧
    (∀ booleans, values = .booleans booleans →
      booleans.map (fun read => read.elim .null .boolean) = cells) ∧
    (∀ floats, values = .floats floats → floats = cells.map Cell.toNumber?) ∧
    (∀ texts, values = .texts texts → texts = cells.map Cell.toText?) ∧
    (∀ others : List Cell,
      (∀ kind, (∃ cell ∈ others, cell.kind = kind) ↔ ∃ cell ∈ cells, cell.kind = kind) →
        ExportKind.ofCells others = ExportKind.ofCells cells) ∧
    ∀ others : List Cell, (∀ cell, cell ∈ others ↔ cell ∈ cells) →
      ExportKind.ofCells others = ExportKind.ofCells cells := by
  intro values
  refine ⟨kind_ofCells cells, length_ofCells cells, ?_, fun _ => map_integers_of_ofCells,
    fun _ => map_booleans_of_ofCells, ?_, ?_, ?_, ?_⟩
  · intro place
    have hempties : values.empties = cells.map Cell.isNull :=
      empties_ofCellsAs_iff.2 fun cell hcell => ExportKind.kind_le_toKind_ofCells hcell
    rw [hempties, List.getElem?_map, Option.map_eq_some_iff]
    simp [Cell.isNull_iff]
  · intro floats hfloats
    obtain ⟨hread, hle⟩ := ofCells_of_kind (congrArg ExportValues.kind hfloats)
    obtain rfl := ExportValues.floats.inj (hfloats.symm.trans hread)
    exact map_float?_of_le hle
  · intro texts htexts
    obtain ⟨hread, -⟩ := ofCells_of_kind (congrArg ExportValues.kind htexts)
    exact ExportValues.texts.inj (htexts.symm.trans hread)
  · intro others hothers
    exact ExportKind.ofCells_congr hothers
  · intro others hothers
    exact ExportKind.ofCells_congr fun kind => by simp [hothers]

/-- Integers with an empty cell between them, exported in any order and repeated as integers, and
the same beside a truth value as texts. -/
theorem ofCells_drops_nothing_two_columns :
    let cells : List Cell := [.integer 7, .null, .integer (-3)]
    let mixed : List Cell := .boolean true :: cells
    [some 7, none, some (-3)].map (fun read => read.elim .null .integer) = cells ∧
    (ofCells cells).empties[1]? = some true ∧
    ExportKind.ofCells (.integer (-3) :: cells.reverse) = .integer ∧
    [some "True".toList, some "7".toList, none, some "-3".toList] = mixed.map Cell.toText? := by
  intro cells mixed
  obtain ⟨-, -, hempty, hintegers, -, -, -, -, hothers⟩ := ofCells_drops_nothing cells
  obtain ⟨-, -, -, -, -, -, htexts, -, -⟩ := ofCells_drops_nothing mixed
  have hsame : ∀ cell, cell ∈ Cell.integer (-3) :: cells.reverse ↔ cell ∈ cells := by
    intro cell
    simp only [cells, List.mem_cons, List.mem_reverse, List.not_mem_nil, or_false]
    tauto
  exact ⟨hintegers _ rfl, (hempty 1).2 rfl, hothers _ hsame, htexts _ rfl⟩

end ExportValues

end RiskTally
