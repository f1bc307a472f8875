import RiskTally.Export.Sheet
import RiskTally.Proofs.Renderings
import RiskTally.Proofs.RuleTable
import RiskTally.Proofs.Utf8RoundTrip

/-!
# Tables come back from their sheets

The sheet of a table is read as the header and the fields that were written, whatever
texts stand in them, as long as the names of the columns differ.  What the reader makes
of the fields is another matter: it goes by their texts alone and knows nothing of the
types that the columns had.  Integers and truth values find their type again.  For
numbers the text is left open: nothing here hangs on how a number is written.

## Main results

* `ExportTable.ofBytes_sheetBy`: the sheet of a table is read in UTF-8, no record skipped.
* `ExportTable.rawColumn_rawSheet`: the raw cells of a column are the fields written.
* `ExportTable.column?_ofSheet`: under every name stands its own column.
* `ColumnKind.typeCells_of_says`: fields that say their cells are typed as those cells.
* `ExportTable.typeCells_integers`, `ExportTable.typeCells_booleans`: columns of integers or
  of truth values come back as they were.
-/

namespace RiskTally

/-! ## Tables of names that differ -/

namespace Keyed

variable {α : Type}

theorem put_of_not_mem {name : Text} {table : Keyed α} (h : name ∉ table.keys) (value : α) :
    put name value table = table ++ [(name, value)] := by
  induction table with
  | nil => rfl
  | cons entry table ih =>
      obtain ⟨key, old⟩ := entry
      simp only [keys, List.map_cons, List.mem_cons, not_or] at h
      rw [put, if_neg (Ne.symm h.1), ih h.2]
      rfl

theorem putAll_of_nodup {table : Keyed α} {entries : List (Text × α)}
    (h : (table.keys ++ entries.map Prod.fst).Nodup) : putAll table entries = table ++ entries := by
  induction entries generalizing table with
  | nil => exact (List.append_nil table).symm
  | cons entry entries ih =>
      obtain ⟨name, value⟩ := entry
      have hname : name ∉ table.keys := fun hmem =>
        (List.nodup_append.1 h).2.2 name hmem name (by simp) rfl
      show putAll (put name value table) entries = _
      rw [put_of_not_mem hname, ih (by simpa [keys] using h), List.append_assoc]
      rfl

/-- Values under names that all differ stay as they are. -/
theorem ofList_of_nodup {entries : List (Text × α)} (h : (entries.map Prod.fst).Nodup) :
    ofList entries = entries := by
  have hstart : (keys ([] : Keyed α) ++ entries.map Prod.fst).Nodup := h
  exact putAll_of_nodup hstart

theorem get?_of_mem {table : Keyed α} (h : table.keys.Nodup) {name : Text} {value : α}
    (hmem : (name, value) ∈ table) : table.get? name = some value := by
  induction table with
  | nil => simp at hmem
  | cons entry table ih =>
      obtain ⟨key, old⟩ := entry
      obtain ⟨hkey, hrest⟩ := List.nodup_cons.1 h
      rcases List.mem_cons.1 hmem with heq | hmem
      · obtain ⟨rfl, rfl⟩ := Prod.mk.inj heq
        exact if_pos rfl
      · have hne : key ≠ name := by
          rintro rfl
          exact hkey (List.mem_map.2 ⟨_, hmem, rfl⟩)
        rw [get?, if_neg hne]
        exact ih hrest hmem

end Keyed

/-! ## The first character of a sheet -/

/-- The first name of a header begins the sheet, unless a quote or a comma does. -/
theorem Csv.head?_print_ne {mark : Char} (hquote : mark ≠ '"') (hcomma : mark ≠ ',')
    {name next : Text} (hname : name.head? ≠ some mark) (header : List Text)
    (records : List (List Text)) :
    (print ((name :: next :: header) :: records)).head? ≠ some mark := by
  have hprint : print ((name :: next :: header) :: records) = printField name ++
      (',' :: ([','].intercalate ((next :: header).map printField) ++ '\n' :: print records)) := by
    simp [print, printRecord, List.intercalate_cons_cons]
  rw [hprint, printField]
  split
  · simpa using Ne.symm hquote
  · cases name with
    | nil => simpa using Ne.symm hcomma
    | cons c name => simpa using hname

theorem Encoding.dropMark_eq_self {text : Text} (h : text.head? ≠ some byteOrderMark) :
    dropMark text = text := by
  cases text with
  | nil => rfl
  | cons c text => exact if_neg fun hc => h (by rw [hc]; rfl)

/-- A text without a mark at its start is read back from its bytes. -/
theorem Encoding.decode_utf8_encode {text : Text} (h : text.head? ≠ some byteOrderMark) :
    utf8.decode (Utf8.encode text) = .ok text := by
  rw [decode, Utf8.decode_encode]
  exact congrArg Except.ok (dropMark_eq_self h)

/-! ## Columns that find their type again -/

namespace ColumnKind

/-- A field says a cell: it means nothing and the cell is empty, or it is read as the cell. -/
def Says (settings : ReadSettings) (kind : ColumnKind) (cell : Cell) (field : Text) : Prop :=
  (cell = .null ∧ settings.isEmptyToken field = true) ∨
    (settings.isEmptyToken field = false ∧ kind.read? field = some cell)

/-- Fields that say their cells in a type are typed as those cells, if they are enough to
find the type. -/
theorem typeCells_of_says {settings : ReadSettings} {kind : ColumnKind} {field : Cell → Text}
    {cells : List Cell} (hcells : ∀ cell ∈ cells, Says settings kind cell (field cell))
    (hkind : ∀ texts, texts ≠ [] → kind.admits texts = true → infer texts = kind) :
    typeCells settings ((cells.map field).map some) = cells := by
  have hpresent : ∀ text, RiskTally.present? settings (some text) =
      if settings.isEmptyToken text then none else some text := by
    intro text
    by_cases hempty : settings.isEmptyToken text = true
    · simp [RiskTally.present?, hempty]
    · simp [RiskTally.present?, hempty]
  have hadmits : kind.admits (((cells.map field).map some).filterMap
      (RiskTally.present? settings)) = true := by
    refine List.all_eq_true.2 fun text htext => ?_
    obtain ⟨_, hraw, hsome⟩ := List.mem_filterMap.1 htext
    obtain ⟨_, hfield, rfl⟩ := List.mem_map.1 hraw
    obtain ⟨cell, hcell, rfl⟩ := List.mem_map.1 hfield
    rw [hpresent] at hsome
    rcases hcells cell hcell with ⟨-, hempty⟩ | ⟨hempty, hread⟩
    · simp [hempty] at hsome
    · obtain rfl : field cell = text := by simpa [hempty] using hsome
      rw [hread]
      rfl
  rw [typeCells, List.map_map, List.map_map]
  refine (List.map_congr_left fun cell hcell => ?_).trans (List.map_id cells)
  show typeCell settings (inferKind settings _) (some (field cell)) = cell
  rw [typeCell, hpresent]
  rcases hcells cell hcell with ⟨rfl, hempty⟩ | ⟨hempty, hread⟩
  · rw [if_pos hempty]
  · have hsome : field cell ∈ ((cells.map field).map some).filterMap
        (RiskTally.present? settings) :=
      List.mem_filterMap.2 ⟨some (field cell), by simpa using ⟨cell, hcell, rfl⟩,
        by simp [hpresent, hempty]⟩
    rw [if_neg (by simp [hempty]), inferKind, hkind _ (List.ne_nil_of_mem hsome) hadmits]
    simp [hread]

theorem infer_integer {texts : List Text} (hne : texts ≠ [])
    (hadmits : integer.admits texts = true) : infer texts = integer := by
  rw [infer, if_neg hne, if_pos hadmits]

/-- What is read as a truth value is no number. -/
theorem read?_of_boolean {text : Text} (h : (boolean.read? text).isSome = true) :
    integer.read? text = none ∧ float.read? text = none := by
  have hnumber : ∀ word ∈ ["true", "True", "TRUE", "false", "False", "FALSE"].map String.toList,
      readInteger? (Text.trim word) = none ∧ Numeral.read? (Text.trim word) = none := by
    decide
  have hword : text ∈ ["true", "True", "TRUE", "false", "False", "FALSE"].map String.toList := by
    refine Decidable.byContradiction fun hnone => ?_
    simp only [List.map_cons, List.map_nil, List.mem_cons, List.not_mem_nil, or_false,
      not_or] at hnone
    simp only [read?, Option.isSome_map, readBoolean?, hnone, decide_false, Bool.or_self,
      Bool.false_eq_true, if_false, Option.isSome_none] at h
  obtain ⟨hinteger, hfloat⟩ := hnumber text hword
  simp [read?, readFloat?, hinteger, hfloat]

theorem infer_boolean {texts : List Text} (hne : texts ≠ [])
    (hadmits : boolean.admits texts = true) : infer texts = boolean := by
  obtain ⟨text, rest, rfl⟩ := List.exists_cons_of_ne_nil hne
  obtain ⟨hinteger, hfloat⟩ := read?_of_boolean (List.all_eq_true.1 hadmits text (by simp))
  have hintegers : integer.admits (text :: rest) = false := by simp [admits, hinteger]
  have hfloats : float.admits (text :: rest) = false := by simp [admits, hfloat]
  rw [infer, if_neg hne, hintegers, hfloats, hadmits]
  rfl

end ColumnKind

namespace ExportTable

/-! ## Rows and columns -/

theorem length_of_mem_transpose {rows : Nat} {columns : List (List Text)} {row : List Text}
    (h : row ∈ transpose rows columns) : row.length = columns.length := by
  induction rows generalizing columns with
  | zero => simp [transpose] at h
  | succ rows ih =>
      rcases List.mem_cons.1 h with rfl | h
      · exact List.length_map _
      · exact (ih h).trans (List.length_map _)

/-- The entries of the rows at the place of a column are the column. -/
theorem map_getElem?_transpose {rows : Nat} {columns : List (List Text)} {place : Nat}
    {column : List Text} (hplace : columns[place]? = some column) (hlength : column.length = rows) :
    (transpose rows columns).map (fun row => row[place]?) = column.map some := by
  induction rows generalizing columns column with
  | zero =>
      rw [List.eq_nil_of_length_eq_zero hlength]
      rfl
  | succ rows ih =>
      obtain ⟨entry, column, rfl⟩ := List.exists_cons_of_length_eq_add_one hlength
      have hrest : (columns.map List.tail)[place]? = some column := by
        rw [List.getElem?_map, hplace]
        rfl
      rw [transpose, List.map_cons, ih hrest (by simpa using hlength), List.getElem?_map, hplace]
      rfl

/-! ## Sheets with numbers written in any way -/

variable (number : Float → Text)

/-- The fields of a column, with numbers as `number` writes them. -/
def fieldsBy : ExportValues → List Text
  | .floats values => values.map fun value => (value.map number).getD []
  | values => fields values

/-- The header and the rows of a table, with numbers as `number` writes them. -/
def recordsBy (table : ExportTable) : List (List Text) :=
  table.columns.map ExportColumn.name ::
    transpose table.rows (table.columns.map fun column => fieldsBy number column.values)

/-- The sheet of a table, with numbers as `number` writes them. -/
def sheetBy (table : ExportTable) : Text :=
  Csv.print (recordsBy number table)

theorem fieldsBy_floatText : fieldsBy floatText = fields := by
  funext values
  cases values <;> rfl

theorem sheetBy_floatText (table : ExportTable) : sheetBy floatText table = table.sheet := by
  rw [sheetBy, recordsBy, fieldsBy_floatText]
  rfl

theorem length_fieldsBy (values : ExportValues) :
    (fieldsBy number values).length = values.length := by
  cases values <;> simp [fieldsBy, fields, ExportValues.length]

/-- The table can be told from its sheet: it has two columns or more, all of one length,
whose names differ, and the sheet does not begin with a byte-order mark. -/
structure Readable (table : ExportTable) : Prop where
  wide : 2 ≤ table.columns.length
  distinct : (table.columns.map ExportColumn.name).Nodup
  lengths : ∀ column ∈ table.columns, column.values.length = table.rows
  unmarked : ∀ column ∈ table.columns.head?, column.name.head? ≠ some Encoding.byteOrderMark

/-- What is read from the sheet of a table: every field is there, the empty ones as empty
texts. -/
def rawSheet (table : ExportTable) : Csv.Sheet where
  header := table.columns.map ExportColumn.name
  rows := (transpose table.rows (table.columns.map fun column =>
    fieldsBy number column.values)).map fun row => row.map some
  skipped := 0

variable {number} {table : ExportTable}

/-- The sheet of a table is read as what was written. -/
theorem read_sheetBy (h : table.Readable) :
    Csv.Sheet.read (sheetBy number table) = .ok (rawSheet number table) := by
  have hwidth : ∀ row ∈ transpose table.rows (table.columns.map fun column =>
      fieldsBy number column.values),
      row.length = (table.columns.map ExportColumn.name).length := by
    intro row hrow
    rw [length_of_mem_transpose hrow, List.length_map, List.length_map]
  have hlength : ∀ fields ∈ recordsBy number table, 2 ≤ fields.length := by
    intro fields hfields
    have hsame : fields.length = (table.columns.map ExportColumn.name).length := by
      rcases List.mem_cons.1 hfields with rfl | hrow
      · rfl
      · exact hwidth fields hrow
    rw [hsame, List.length_map]
    exact h.wide
  have hfull : ∀ fields ∈ recordsBy number table, fields ≠ [] := by
    rintro fields hfields rfl
    exact absurd (hlength _ hfields) (by decide)
  have hblank : ∀ fields ∈ recordsBy number table, fields ≠ [[]] := by
    rintro fields hfields rfl
    exact absurd (hlength _ hfields) (by decide)
  have hread := Csv.Sheet.read_sheetText (Csv.sheetText_print hfull) hblank h.distinct
  refine hread.trans (congrArg Except.ok ?_)
  rw [rawSheet, Csv.Sheet.mk.injEq]
  refine ⟨rfl, ?_, ?_⟩
  · rw [List.filter_eq_self.2 fun row hrow => by simpa using Nat.le_of_eq (hwidth row hrow)]
    refine List.map_congr_left fun row hrow => ?_
    rw [Csv.padTo, hwidth row hrow, Nat.sub_self]
    exact List.append_nil _
  · rw [List.countP_eq_zero]
    intro row hrow
    simpa using Nat.le_of_eq (hwidth row hrow)

/-- The raw cells of a column are its fields. -/
theorem rawColumn_rawSheet (h : table.Readable) {place : Nat} {column : ExportColumn}
    (hplace : table.columns[place]? = some column) :
    Frame.rawColumn (rawSheet number table).rows place =
      (fieldsBy number column.values).map some := by
  have hfields : (table.columns.map fun column => fieldsBy number column.values)[place]? =
      some (fieldsBy number column.values) := by
    rw [List.getElem?_map, hplace]
    rfl
  have hlength : (fieldsBy number column.values).length = table.rows := by
    rw [length_fieldsBy]
    exact h.lengths column (List.mem_of_getElem? hplace)
  rw [← map_getElem?_transpose hfields hlength, Frame.rawColumn, rawSheet, List.map_map]
  refine List.map_congr_left fun row _ => ?_
  show ((row.map some)[place]?).join = row[place]?
  rw [List.getElem?_map]
  cases row[place]? <;> rfl

/-! ## Frames of sheets -/

/-- The columns of the frame, in order. -/
theorem columns_ofSheet (h : table.Readable) (settings : ReadSettings) :
    (Frame.ofSheet settings (rawSheet number table)).columns =
      table.columns.map fun column =>
        (column.name, typeCells settings ((fieldsBy number column.values).map some)) := by
  have hplaces : ((table.columns.map ExportColumn.name).zipIdx.map fun entry =>
      (entry.1, typeCells settings (Frame.rawColumn (rawSheet number table).rows entry.2))) =
        table.columns.map fun column =>
          (column.name, typeCells settings ((fieldsBy number column.values).map some)) := by
    apply List.ext_getElem?
    intro place
    rw [List.getElem?_map, List.getElem?_zipIdx, List.getElem?_map, List.getElem?_map]
    cases hplace : table.columns[place]? with
    | none => rfl
    | some column =>
        simp only [Option.map_some, Nat.zero_add]
        rw [rawColumn_rawSheet h hplace]
  refine (congrArg Keyed.ofList hplaces).trans ?_
  exact Keyed.ofList_of_nodup (by simpa [Function.comp_def] using h.distinct)

/-- The names of the frame are those of the table. -/
theorem keys_ofSheet (h : table.Readable) (settings : ReadSettings) :
    (Frame.ofSheet settings (rawSheet number table)).columns.keys =
      table.columns.map ExportColumn.name := by
  rw [columns_ofSheet h, Keyed.keys, List.map_map]
  rfl

/-- Under every name stands the column of that name, typed by its fields. -/
theorem column?_ofSheet (h : table.Readable) (settings : ReadSettings) {column : ExportColumn}
    (hcolumn : column ∈ table.columns) :
    (Frame.ofSheet settings (rawSheet number table)).column? column.name =
      some (typeCells settings ((fieldsBy number column.values).map some)) := by
  have hkeys : (Frame.ofSheet settings (rawSheet number table)).columns.keys = _ :=
    keys_ofSheet h settings
  refine Keyed.get?_of_mem (hkeys ▸ h.distinct) ?_
  rw [columns_ofSheet h]
  exact List.mem_map.2 ⟨column, hcolumn, rfl⟩

theorem head?_sheetBy_ne (h : table.Readable) :
    (sheetBy number table).head? ≠ some Encoding.byteOrderMark := by
  have hwide := h.wide
  have hfirst := h.unmarked
  unfold sheetBy recordsBy
  match hcolumns : table.columns with
  | [] => simp [hcolumns] at hwide
  | [_] => simp [hcolumns] at hwide
  | first :: second :: rest =>
      exact Csv.head?_print_ne (by decide) (by decide) (hfirst first (by simp [hcolumns])) _ _

/-- The file of a table is read in UTF-8, and no record is skipped. -/
theorem ofBytes_sheetBy (h : table.Readable) {settings : ReadSettings}
    {encodings : List Encoding} (hfirst : settings.encodings = .utf8 :: encodings) :
    FileRead.ofBytes settings (Utf8.encode (sheetBy number table)) =
      .ok ⟨Frame.ofSheet settings (rawSheet number table), .utf8, 0⟩ := by
  rw [FileRead.ofBytes, hfirst, FileRead.firstOf, FileRead.attempt,
    Encoding.decode_utf8_encode (head?_sheetBy_ne h)]
  dsimp only
  rw [read_sheetBy h]
  rfl

/-! ## Columns of a dataset -/

/-- The field of a cell in a column of a type. -/
def fieldAs (number : Float → Text) (kind : ExportKind) (cell : Cell) : Text :=
  match kind with
  | .integer => ((ExportValues.integer? cell).map fun i => intText i.toInt).getD []
  | .float => ((ExportValues.float? cell).map number).getD []
  | .boolean =>
    ((ExportValues.boolean? cell).map fun b => if b then "true".toList else "false".toList).getD []
  | .text => cell.toText?.getD []

/-- The fields of a column of a dataset are told cell by cell. -/
theorem fieldsBy_ofCells (number : Float → Text) (cells : List Cell) :
    fieldsBy number (.ofCells cells) = cells.map (fieldAs number (.ofCells cells)) := by
  unfold ExportValues.ofCells ExportValues.ofCellsAs
  cases ExportKind.ofCells cells <;> exact List.map_map

theorem fieldAs_null (number : Float → Text) (kind : ExportKind) :
    fieldAs number kind .null = [] := by
  cases kind <;> rfl

/-- Every cell is empty or of one type. -/
def OnlyOf {α : Type} (value : α → Cell) (cells : List Cell) : Prop :=
  ∀ cell ∈ cells, cell = .null ∨ ∃ a, cell = value a

theorem any_eq_false_of_onlyOf {α : Type} {value : α → Cell} {cells : List Cell}
    (h : OnlyOf value cells) (test : Cell → Bool) (hnull : test .null = false)
    (hvalue : ∀ a, test (value a) = false) : cells.any test = false := by
  refine List.any_eq_false.2 fun cell hcell => ?_
  rcases h cell hcell with rfl | ⟨a, rfl⟩
  · simp [hnull]
  · simp [hvalue]

theorem kind_of_integer {cells : List Cell} (h : OnlyOf .integer cells) {i : Int64}
    (hmem : .integer i ∈ cells) : ExportKind.ofCells cells = .integer := by
  have hnone := any_eq_false_of_onlyOf h
  have hsome : ∀ test : Cell → Bool, test (.integer i) = true → cells.any test = true :=
    fun test htest => List.any_eq_true.2 ⟨_, hmem, htest⟩
  unfold ExportKind.ofCells
  dsimp only
  rw [hsome, hnone, hnone, hnone] <;> intros <;> rfl

theorem kind_of_boolean {cells : List Cell} (h : OnlyOf .boolean cells) {b : Bool}
    (hmem : .boolean b ∈ cells) : ExportKind.ofCells cells = .boolean := by
  have hnone := any_eq_false_of_onlyOf h
  have hsome : ∀ test : Cell → Bool, test (.boolean b) = true → cells.any test = true :=
    fun test htest => List.any_eq_true.2 ⟨_, hmem, htest⟩
  unfold ExportKind.ofCells
  dsimp only
  rw [hnone, hnone, hsome, hnone] <;> intros <;> rfl

/-- No integer means nothing. -/
theorem isEmptyToken_intText (i : Int64) :
    ReadSettings.default.isEmptyToken (intText i.toInt) = false := by
  have htokens : ∀ token ∈ ReadSettings.defaultEmptyTokens, readInteger? token = none := by
    decide
  refine Bool.eq_false_iff.2 fun hempty => ?_
  have hmem : intText i.toInt ∈ ReadSettings.defaultEmptyTokens := by
    simpa [ReadSettings.isEmptyToken, ReadSettings.default] using hempty
  simpa [readInteger?_intText] using htokens _ hmem

theorem says_integer (i : Int64) :
    ColumnKind.Says .default .integer (.integer i) (intText i.toInt) := by
  refine .inr ⟨isEmptyToken_intText i, ?_⟩
  rw [ColumnKind.read?, (Rule.isCell_intText i.toInt).trimmed, readInteger?_intText]
  rfl

theorem says_null (number : Float → Text) (exported : ExportKind) (kind : ColumnKind) :
    ColumnKind.Says .default kind .null (fieldAs number exported .null) := by
  refine .inl ⟨rfl, ?_⟩
  rw [fieldAs_null]
  exact ReadSettings.isEmptyToken_nil

/-- A column of integers comes back as it was. -/
theorem typeCells_integers (number : Float → Text) {cells : List Cell} (h : OnlyOf .integer cells) :
    typeCells .default ((fieldsBy number (.ofCells cells)).map some) = cells := by
  rw [fieldsBy_ofCells]
  refine ColumnKind.typeCells_of_says (fun cell hcell => ?_) fun _ => ColumnKind.infer_integer
  rcases h cell hcell with rfl | ⟨i, rfl⟩
  · exact says_null ..
  · rw [kind_of_integer h hcell]
    exact says_integer i

/-- Integers that were written without empty cells come back as they were. -/
theorem typeCells_map_some (number : Float → Text) (values : List Int64) :
    typeCells .default ((fieldsBy number (.integers (values.map some))).map some) =
      values.map .integer := by
  have hfields : fieldsBy number (.integers (values.map some)) =
      (values.map Cell.integer).map Cell.textOrEmpty := by
    show (values.map some).map _ = _
    rw [List.map_map, List.map_map]
    rfl
  rw [hfields]
  refine ColumnKind.typeCells_of_says (fun cell hcell => ?_) fun _ => ColumnKind.infer_integer
  obtain ⟨i, -, rfl⟩ := List.mem_map.1 hcell
  exact says_integer i

/-- A column of truth values comes back as it was. -/
theorem typeCells_booleans (number : Float → Text) {cells : List Cell} (h : OnlyOf .boolean cells) :
    typeCells .default ((fieldsBy number (.ofCells cells)).map some) = cells := by
  rw [fieldsBy_ofCells]
  refine ColumnKind.typeCells_of_says (fun cell hcell => ?_) fun _ => ColumnKind.infer_boolean
  rcases h cell hcell with rfl | ⟨b, rfl⟩
  · exact says_null ..
  · rw [kind_of_boolean h hcell]
    cases b with
    | true =>
        have hword : ReadSettings.default.isEmptyToken "true".toList = false := by decide
        exact .inr ⟨hword, rfl⟩
    | false =>
        have hword : ReadSettings.default.isEmptyToken "false".toList = false := by decide
        exact .inr ⟨hword, rfl⟩

end ExportTable

end RiskTally
