import RiskTally.Proofs.ColumnTypes

/-!
# What becomes of the cells of a column

The cells of a raw column are read twice: once to find the type that all of them have, and once
more, each for itself, in that type.  A cell that could not be read the second time would become
an empty cell.  None does, since both times the same cells are left out, and the type that was
found reads all the others.  So a cell is empty exactly if nothing was there or a token for
nothing, and every other one is a value of the type of its column.

## Main results

* `ColumnKind.read?_eq_some_iff`: the values of a type and the texts they are read from.
* `exists_read?_of_mem`: the type that was found reads every cell that is there.
* `typeCell_eq_null_iff`, `kind_typeCell`: which cells of a column are empty, and what the
  others are.
* `typeCells_loses_nothing`: a whole column, place by place.
-/

namespace RiskTally

/-! ## Values and their texts -/

namespace Cell

/-- The type of a column of this one cell. -/
def kind : Cell → ColumnKind
  | text _ => .text
  | integer _ => .integer
  | float _ => .float
  | boolean _ => .boolean
  | null => .empty

/-- The cell is what a raw text says: that text itself, the number that it holds between blanks,
or the truth value that it is a word for. -/
def IsReadFrom : Cell → Text → Prop
  | text s, raw => s = raw
  | integer i, raw => readInteger? (Text.trim raw) = some i
  | float f, raw => readFloat? (Text.trim raw) = some f
  | boolean b, raw => ColumnKind.readBoolean? raw = some b
  | null, _ => False

theorem isNull_iff {cell : Cell} : cell.isNull = true ↔ cell = .null := by
  cases cell <;> simp [isNull]

theorem kind_eq_empty_iff {cell : Cell} : cell.kind = .empty ↔ cell = .null := by
  cases cell <;> simp [kind]

end Cell

/-- A text is read in a type as the value of that type that it says. -/
theorem ColumnKind.read?_eq_some_iff {kind : ColumnKind} (hkind : kind ≠ .empty) {raw : Text}
    {cell : Cell} : kind.read? raw = some cell ↔ cell.kind = kind ∧ cell.IsReadFrom raw := by
  cases kind with
  | empty => exact absurd rfl hkind
  | text => cases cell <;> simp [read?, Cell.kind, Cell.IsReadFrom, eq_comm]
  | _ => cases cell <;> simp [read?, Cell.kind, Cell.IsReadFrom]

/-! ## Cells that are there -/

theorem present?_eq_some_iff {settings : ReadSettings} {raw : Option Text} {text : Text} :
    present? settings raw = some text ↔ raw = some text ∧ settings.isEmptyToken text = false := by
  simp [present?, Option.filter_eq_some_iff]

theorem present?_eq_none_iff {settings : ReadSettings} {raw : Option Text} :
    present? settings raw = none ↔
      raw = none ∨ ∃ token, raw = some token ∧ settings.isEmptyToken token = true := by
  cases raw <;> simp [present?, Option.filter_eq_none_iff]

section Column

variable {settings : ReadSettings} {cells : List (Option Text)} {raw : Option Text} {text : Text}

/-- The type of a column is one in which every cell that is there is a value. -/
theorem holds_inferKind (hraw : raw ∈ cells) (hpresent : present? settings raw = some text) :
    (inferKind settings cells).Holds text :=
  ColumnKind.infer_le_iff.1 le_rfl text (List.mem_filterMap.2 ⟨raw, hraw, hpresent⟩)

/-- No cell that is there fails to be read in the type of its column. -/
theorem exists_read?_of_mem (hraw : raw ∈ cells) (hpresent : present? settings raw = some text) :
    ∃ cell, (inferKind settings cells).read? text = some cell :=
  Option.isSome_iff_exists.1 (holds_inferKind hraw hpresent).2

/-- A cell that is there becomes what it says in the type of its column. -/
theorem typeCell_of_present (hraw : raw ∈ cells) (hpresent : present? settings raw = some text) :
    let cell := typeCell settings (inferKind settings cells) raw
    cell.kind = inferKind settings cells ∧ cell.IsReadFrom text := by
  intro cell
  obtain ⟨value, hvalue⟩ := exists_read?_of_mem hraw hpresent
  have hcell : cell = value := by
    show typeCell settings (inferKind settings cells) raw = value
    rw [typeCell, hpresent]
    exact congrArg (Option.getD · .null) hvalue
  rw [hcell]
  exact (ColumnKind.read?_eq_some_iff (holds_inferKind hraw hpresent).1).1 hvalue

/-- A cell of a column becomes empty exactly if nothing is there or a token for nothing. -/
theorem typeCell_eq_null_iff (hraw : raw ∈ cells) :
    typeCell settings (inferKind settings cells) raw = .null ↔
      raw = none ∨ ∃ token, raw = some token ∧ settings.isEmptyToken token = true := by
  rw [← present?_eq_none_iff]
  cases hpresent : present? settings raw with
  | none => simp [typeCell, hpresent]
  | some text =>
      have hread := (typeCell_of_present hraw hpresent).2
      refine iff_of_false (fun hnull => ?_) (by simp)
      rw [hnull] at hread
      exact hread

/-- A cell that does not become empty gets the type of its column. -/
theorem kind_typeCell (hraw : raw ∈ cells)
    (hcell : typeCell settings (inferKind settings cells) raw ≠ .null) :
    (typeCell settings (inferKind settings cells) raw).kind = inferKind settings cells ∧
      ∃ text, raw = some text ∧
        (typeCell settings (inferKind settings cells) raw).IsReadFrom text := by
  cases hpresent : present? settings raw with
  | none => exact absurd ((typeCell_eq_null_iff hraw).2 (present?_eq_none_iff.1 hpresent)) hcell
  | some text =>
      obtain ⟨hkind, hread⟩ := typeCell_of_present hraw hpresent
      exact ⟨hkind, text, (present?_eq_some_iff.1 hpresent).1, hread⟩

end Column

/-! ## Columns -/

/-- A raw column is typed cell by cell, and none is lost: at every place stands an empty cell
exactly if nothing was there or a token for nothing, and else a value of the one type of the
column, which is what the raw text says.  Every cell that is there can be read in that type, and
a column of no type holds empty cells alone. -/
theorem typeCells_loses_nothing (settings : ReadSettings) (cells : List (Option Text)) :
    let kind := inferKind settings cells
    let typed := typeCells settings cells
    typed.length = cells.length ∧
    (∀ (place : Nat) (raw : Option Text) (cell : Cell),
      cells[place]? = some raw → typed[place]? = some cell →
        (cell = .null ↔
          raw = none ∨ ∃ token, raw = some token ∧ settings.isEmptyToken token = true) ∧
        (cell ≠ .null → cell.kind = kind ∧ ∃ text, raw = some text ∧ cell.IsReadFrom text)) ∧
    (∀ text, some text ∈ cells → settings.isEmptyToken text = false →
      ∃ cell, kind.read? text = some cell) ∧
    (kind = .empty → ∀ cell ∈ typed, cell = .null) := by
  intro kind typed
  refine ⟨length_typeCells settings cells, ?_, ?_, ?_⟩
  · intro place raw cell hraw hcell
    have htyped : typed[place]? = (cells[place]?).map (typeCell settings kind) :=
      List.getElem?_map
    rw [hraw, hcell] at htyped
    obtain rfl := Option.some.inj htyped
    have hmem : raw ∈ cells := List.mem_of_getElem? hraw
    exact ⟨typeCell_eq_null_iff hmem, kind_typeCell hmem⟩
  · intro text htext htoken
    exact exists_read?_of_mem htext (present?_eq_some_iff.2 ⟨rfl, htoken⟩)
  · intro hempty cell hcell
    obtain ⟨raw, hraw, rfl⟩ := List.mem_map.1 hcell
    by_contra hnull
    exact hnull (Cell.kind_eq_empty_iff.1 ((kind_typeCell hraw hnull).1.trans hempty))

/-- A column of numbers that are all whole but one past the 64-bit range, with a token, a cell
that is not there and one of blanks alone, which is a text. -/
theorem typeCells_loses_nothing_two_columns :
    let numbers := [some " 70".toList, some "NA".toList, none, some "9223372036854775808".toList]
    let texts := [some "+7".toList, some " ".toList, some "null".toList]
    inferKind .default numbers = .float ∧
    (∀ cell, (typeCells .default numbers)[0]? = some cell → cell ≠ .null ∧ cell.kind = .float) ∧
    (typeCells .default numbers)[1]? = some .null ∧
    (typeCells .default numbers)[2]? = some .null ∧
    (typeCells .default texts)[0]? = some (.text "+7".toList) ∧
    ∃ cell, (inferKind .default texts).read? " ".toList = some cell := by
  intro numbers texts
  obtain ⟨-, hnumbers, -, -⟩ := typeCells_loses_nothing .default numbers
  obtain ⟨-, -, htexts, -⟩ := typeCells_loses_nothing .default texts
  have hkind : inferKind .default numbers = .float := by decide
  refine ⟨hkind, ?_, rfl, rfl, rfl, htexts " ".toList (by decide) (by decide)⟩
  intro cell hcell
  obtain ⟨hempty, hvalue⟩ := hnumbers 0 (some " 70".toList) cell rfl hcell
  have hnull : cell ≠ .null := by
    intro hnull
    rcases hempty.1 hnull with hnone | ⟨token, htoken, hnothing⟩
    · exact absurd hnone (by decide)
    · obtain rfl := Option.some.inj htoken
      exact absurd hnothing (by decide)
  exact ⟨hnull, (hvalue hnull).1.trans hkind⟩

end RiskTally
