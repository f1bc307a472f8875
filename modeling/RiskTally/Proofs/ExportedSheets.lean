import RiskTally.Proofs.AddedFiles
import RiskTally.Proofs.TableSheets

/-!
# Exports can be loaded again

What was loaded and scored is exported as a sheet, and the sheet can be loaded as any
other file.  The names of the columns are those of the dataset and up to four more, which
a header of the dataset must not use; a name that begins with a byte-order mark would lose
it if it came first.

## Main results

* `Dataset.nodup_unionNames`: the columns of files put together have names that differ.
* `ExportTable.columns_of_ofReport`: the columns of an exported table.
* `ExportTable.readable_of_ofReport`: an exported table can be told from its sheet.
* `Report.export_reads_back`: the sheet of a report, loaded again.
-/

namespace RiskTally

/-! ## The names of a dataset -/

namespace Dataset

theorem nodup_addNames {names : List Text} (h : names.Nodup) (more : List Text) :
    (addNames names more).Nodup := by
  induction more generalizing names with
  | nil => exact h
  | cons name more ih =>
      show (addNames (if name = sourceColumn || names.contains name then names
        else names ++ [name]) more).Nodup
      refine ih ?_
      split
      · exact h
      · rename_i hnew
        have hfresh : name ∉ names := by
          simp only [Bool.or_eq_true, decide_eq_true_eq, List.contains_iff_mem, not_or] at hnew
          exact hnew.2
        refine List.nodup_append.2 ⟨h, by simp, fun a ha b hb => ?_⟩
        rintro rfl
        exact hfresh (List.mem_singleton.1 hb ▸ ha)

/-- Put together, the columns of files have names that all differ. -/
theorem nodup_unionNames (files : List (Text × Frame)) : (unionNames files).Nodup := by
  have hfold : ∀ names : List Text, names.Nodup →
      (files.foldl (fun names file => addNames names file.2.columns.keys) names).Nodup := by
    induction files with
    | nil => exact fun _ h => h
    | cons file files ih => exact fun names h => ih _ (nodup_addNames h _)
  exact hfold [] List.nodup_nil

theorem columnNames_concat (files : List (Text × Frame)) :
    (concat files).columnNames = unionNames files := by
  simp [columnNames, Keyed.keys, concat, Function.comp_def]

/-- No column of a file stands under the name of the file column. -/
theorem sourceColumn_not_mem (files : List (Text × Frame)) :
    sourceColumn ∉ (concat files).columnNames := by
  rw [columnNames_concat, mem_unionNames]
  exact fun h => h.1 rfl

end Dataset

/-! ## The table of a report -/

namespace ExportTable

/-- The columns that a report adds to those of its dataset. -/
def addedColumns (report : Report) : List ExportColumn :=
  [⟨Dataset.sourceColumn, false, .texts (report.sources.map some)⟩,
    ⟨scoreColumn, false, .integers (report.scores.map some)⟩,
    ⟨levelColumn, false, .texts ((report.levels.map Level.label).map some)⟩] ++
  (report.names.map fun names => ⟨nameColumn, false, .texts (names.map some)⟩).toList

variable {dataset : Dataset} {report : Report} {table : ExportTable}

/-- The columns of the dataset come first, in order, then those of the report. -/
theorem zipWith_column (dataset : Dataset) (report : Report) :
    List.zipWith column (fieldsOf dataset report) (valuesOf dataset report) =
      dataset.columns.map (fun column => ⟨column.1, true, .ofCells column.2⟩) ++
        addedColumns report := by
  unfold fieldsOf valuesOf addedColumns
  rw [List.append_assoc, List.append_assoc, List.zipWith_append (by simp), List.zipWith_map,
    List.zipWith_self]
  cases report.names <;> rfl

theorem columns_of_ofReport (h : ofReport dataset report = .ok table) :
    table.columns = dataset.columns.map (fun column => ⟨column.1, true, .ofCells column.2⟩) ++
      addedColumns report := by
  obtain ⟨-, rfl⟩ := ofReport_eq_ok_iff.1 h
  exact zipWith_column dataset report

/-- All columns of an exported table are as long as it has rows. -/
theorem length_of_ofReport (h : ofReport dataset report = .ok table) {entry : ExportColumn}
    (hentry : entry ∈ table.columns) : entry.values.length = table.rows := by
  obtain ⟨hsame, rfl⟩ := ofReport_eq_ok_iff.1 h
  generalize fieldsOf dataset report = fields at *
  generalize valuesOf dataset report = values at *
  match fields, values with
  | [], _ => simp at hentry
  | _ :: _, [] => simp at hentry
  | field :: fields, first :: rest =>
      show entry.values.length = first.length
      rcases List.mem_cons.1 hentry with rfl | hentry
      · rfl
      · obtain ⟨place, hplace, rfl⟩ := List.mem_iff_getElem.1 hentry
        rw [List.getElem_zipWith]
        exact beq_iff_eq.1 (List.all_eq_true.1 hsame _ (List.getElem_mem _))

/-- An exported table has as many rows as the report has files. -/
theorem rows_of_ofReport (h : ofReport dataset report = .ok table) :
    table.rows = report.sources.length := by
  have hsource : ⟨Dataset.sourceColumn, false, .texts (report.sources.map some)⟩ ∈
      table.columns := by
    rw [columns_of_ofReport h, addedColumns]
    simp
  rw [← length_of_ofReport h hsource]
  exact List.length_map _

/-- The names of the columns of an exported table. -/
theorem names_of_ofReport (h : ofReport dataset report = .ok table) :
    table.columns.map ExportColumn.name =
      dataset.columnNames ++ [Dataset.sourceColumn, scoreColumn, levelColumn] ++
        (report.names.map fun _ => nameColumn).toList := by
  rw [columns_of_ofReport h, addedColumns, List.append_assoc, List.map_append, List.map_append,
    List.map_map]
  cases report.names <;> rfl

/-- A table can be told from its sheet if the names of its dataset differ from each other
and from those that the report adds, and none is marked that comes first. -/
theorem readable_of_ofReport (h : ofReport dataset report = .ok table)
    (hdistinct : dataset.columnNames.Nodup)
    (hfree : ∀ name ∈ [Dataset.sourceColumn, scoreColumn, levelColumn, nameColumn],
      name ∉ dataset.columnNames)
    (hfirst : ∀ name ∈ dataset.columnNames.head?, name.head? ≠ some Encoding.byteOrderMark) :
    table.Readable where
  wide := by
    rw [columns_of_ofReport h, addedColumns]
    simp only [List.length_append, List.length_cons]
    omega
  distinct := by
    have hadded : ([Dataset.sourceColumn, scoreColumn, levelColumn] ++
        (report.names.map fun _ => nameColumn).toList).Sublist
          [Dataset.sourceColumn, scoreColumn, levelColumn, nameColumn] := by
      cases report.names with
      | none => simp
      | some names => exact .refl _
    rw [names_of_ofReport h, List.append_assoc, List.nodup_append]
    refine ⟨hdistinct, hadded.nodup (by decide), fun name hname added hmem => ?_⟩
    rintro rfl
    exact hfree name (hadded.subset hmem) hname
  lengths _ hentry := length_of_ofReport h hentry
  unmarked := by
    intro entry hentry
    have hname : (table.columns.map ExportColumn.name).head? = some entry.name := by
      rw [List.head?_map, Option.mem_def.1 hentry]
      rfl
    rw [names_of_ofReport h, List.append_assoc] at hname
    cases hnames : dataset.columnNames with
    | nil =>
        rw [hnames] at hname
        rw [← show Dataset.sourceColumn = entry.name from Option.some.inj hname]
        decide
    | cons first rest =>
        rw [hnames] at hname
        rw [← show first = entry.name from Option.some.inj hname]
        exact hfirst _ (by simp [hnames])

end ExportTable

/-! ## Loading an export -/

/-- What is loaded from the sheet of a report, with numbers as `number` writes them: the
names of the dataset and of the report, the fields that were written, and the columns that
find their type again. -/
structure ExportTable.ReadsBack (number : Float → Text) (dataset : Dataset) (report : Report)
    (table : ExportTable) (read : FileRead) (sheet : Csv.Sheet) : Prop where
  loaded : FileRead.ofBytes .default (Utf8.encode (sheetBy number table)) = .ok read
  encoding : read.encoding = .utf8
  skipped : read.skipped = 0
  raw : Csv.Sheet.read (sheetBy number table) = .ok sheet
  frame : read.frame = Frame.ofSheet .default sheet
  rows : read.frame.rows = dataset.rows
  header : sheet.header = dataset.columnNames ++
    [Dataset.sourceColumn, scoreColumn, levelColumn] ++
    (report.names.map fun _ => nameColumn).toList
  keys : read.frame.columns.keys = sheet.header
  /-- What was written are the columns of the dataset and those of the report. -/
  columns : table.columns =
    dataset.columns.map (fun column => ⟨column.1, true, .ofCells column.2⟩) ++ addedColumns report
  /-- Every raw cell is the text that was written. -/
  fields : ∀ (place : Nat) (column : ExportColumn), table.columns[place]? = some column →
    Frame.rawColumn sheet.rows place = (fieldsBy number column.values).map some
  /-- That is, of a cell of the dataset its text in the type of its column. -/
  cells : ∀ (place : Nat) (name : Text) (cells : List Cell),
    dataset.columns[place]? = some (name, cells) →
    Frame.rawColumn sheet.rows place =
      cells.map fun cell => some (fieldAs number (.ofCells cells) cell)
  /-- Of an empty cell an empty text was written. -/
  empty : ∀ (place row : Nat) (name : Text) (cells : List Cell),
    dataset.columns[place]? = some (name, cells) → cells[row]? = some .null →
    (Frame.rawColumn sheet.rows place)[row]? = some (some [])
  typed : ∀ (name : Text) (cells : List Cell), (name, cells) ∈ dataset.columns →
    OnlyOf Cell.integer cells ∨ OnlyOf Cell.boolean cells → read.frame.column? name = some cells
  scores : read.frame.column? scoreColumn = some (report.scores.map .integer)

/-- The sheet of a table that can be told from it is loaded as its columns and fields. -/
theorem ExportTable.readsBack_of_readable {dataset : Dataset} {report : Report}
    {table : ExportTable} (h : ofReport dataset report = .ok table) (hreadable : table.Readable)
    (hsources : report.sources.length = dataset.rows) (number : Float → Text) :
    ∃ read sheet, ReadsBack number dataset report table read sheet := by
  have hcolumns := columns_of_ofReport h
  have htyped : ∀ column ∈ table.columns,
      (Frame.ofSheet .default (rawSheet number table)).column? column.name =
        some (typeCells .default ((fieldsBy number column.values).map some)) :=
    fun column hcolumn => column?_ofSheet hreadable .default hcolumn
  have hdata : ∀ (place : Nat) (name : Text) (cells : List Cell),
      dataset.columns[place]? = some (name, cells) →
        table.columns[place]? = some ⟨name, true, .ofCells cells⟩ := by
    intro place name cells hplace
    have hlt := (List.getElem?_eq_some_iff.1 hplace).1
    rw [hcolumns, List.getElem?_append_left (by simpa using hlt), List.getElem?_map, hplace]
    rfl
  have hcells : ∀ (place : Nat) (name : Text) (cells : List Cell),
      dataset.columns[place]? = some (name, cells) →
        Frame.rawColumn (rawSheet number table).rows place =
          cells.map fun cell => some (fieldAs number (.ofCells cells) cell) := by
    intro place name cells hplace
    rw [rawColumn_rawSheet hreadable (hdata place name cells hplace), fieldsBy_ofCells,
      List.map_map]
    rfl
  refine ⟨_, _, {
    loaded := ofBytes_sheetBy hreadable rfl
    encoding := rfl
    skipped := rfl
    raw := read_sheetBy hreadable
    frame := rfl
    rows := ?_
    header := names_of_ofReport h
    keys := keys_ofSheet hreadable .default
    columns := hcolumns
    fields := fun place column hplace => rawColumn_rawSheet hreadable hplace
    cells := hcells
    empty := fun place row name cells hplace hnull => ?_
    typed := fun name cells hmem htype => ?_
    scores := ?_ }⟩
  · show ((transpose _ _).map _).length = _
    rw [List.length_map, length_transpose, rows_of_ofReport h, hsources]
  · rw [hcells place name cells hplace, List.getElem?_map, hnull, Option.map_some, fieldAs_null]
  · obtain ⟨place, hplace⟩ := List.mem_iff_getElem?.1 hmem
    have hcolumn := htyped _ (List.mem_of_getElem? (hdata place name cells hplace))
    rcases htype with hintegers | hbooleans
    · exact hcolumn.trans (congrArg some (typeCells_integers number hintegers))
    · exact hcolumn.trans (congrArg some (typeCells_booleans number hbooleans))
  · have hcolumn : ⟨scoreColumn, false, .integers (report.scores.map some)⟩ ∈ table.columns := by
      rw [hcolumns, addedColumns]
      simp
    exact (htyped _ hcolumn).trans (congrArg some (typeCells_map_some number report.scores))

/-- What was loaded and scored is exported as a sheet that can be loaded again, if no column
is named as one that the report adds and the first name does not begin with a byte-order
mark.  It is UTF-8 and no record is skipped; the names are those of the dataset, in order,
and those that the report adds; every raw cell is the field that was written, and an empty
cell an empty text; columns of integers and of truth values come back as they were, and so
do the scores.  None of this hangs on how numbers are written. -/
theorem Report.export_reads_back (files : List (Text × Frame))
    (h : (Dataset.concat files).Rectangular) (settings : ScoringSettings)
    (evaluator : Evaluator) (rules : Rules) (watchlist : Watchlist)
    (hfree : ∀ name ∈ [ExportTable.scoreColumn, ExportTable.levelColumn, ExportTable.nameColumn],
      name ∉ (Dataset.concat files).columnNames)
    (hfirst : ∀ name ∈ (Dataset.concat files).columnNames.head?,
      name.head? ≠ some Encoding.byteOrderMark) :
    let dataset := Dataset.concat files
    let report := scoreWith settings evaluator dataset rules watchlist
    ∃ table, ExportTable.ofReport dataset report = .ok table ∧
      report.exportAs dataset .csv = .ok (dataset.rows, .sheet table.sheet) ∧
      table.sheet = ExportTable.sheetBy ExportTable.floatText table ∧
      ∀ number, ∃ read sheet, ExportTable.ReadsBack number dataset report table read sheet := by
  intro dataset report
  have hfits : ExportTable.Fits (ExportTable.fieldsOf dataset report) _ :=
    ExportTable.fits_of_aligned h (length_scores ..) (length_levels ..) rfl
      fun names hnames => length_of_mem_names h hnames
  obtain ⟨table, htable⟩ : ∃ table, ExportTable.ofReport dataset report = .ok table :=
    ExportTable.assemble_of_fits hfits
  have hrows : table.rows = dataset.rows := ExportTable.rows_of_ofReport htable
  have hdistinct : dataset.columnNames.Nodup :=
    (Dataset.columnNames_concat files).symm ▸ Dataset.nodup_unionNames files
  have hfree' : ∀ name ∈ [Dataset.sourceColumn, ExportTable.scoreColumn,
      ExportTable.levelColumn, ExportTable.nameColumn], name ∉ dataset.columnNames :=
    List.forall_mem_cons.2 ⟨Dataset.sourceColumn_not_mem files, hfree⟩
  have hreadable := ExportTable.readable_of_ofReport htable hdistinct hfree' hfirst
  refine ⟨table, htable, ?_, (ExportTable.sheetBy_floatText table).symm,
    ExportTable.readsBack_of_readable htable hreadable rfl⟩
  rw [exportAs, htable, ← hrows]

/-- Two files with a quoted header, a text of all that must be quoted, the ends of the
64-bit range, a column of truth values and one without values. -/
theorem Report.export_reads_back_two_files :
    ∃ (files : List (Text × Frame)) (report : Report) (table : ExportTable) (read : FileRead),
      (Dataset.concat files).Rectangular ∧
      report.exportAs (Dataset.concat files) .csv = .ok (3, .sheet table.sheet) ∧
      FileRead.ofBytes .default (Utf8.encode table.sheet) = .ok read ∧
      read.encoding = .utf8 ∧ read.skipped = 0 ∧
      read.frame.columns.keys = ["name".toList, "a,\"b\"".toList, "paid".toList, "none".toList,
        Dataset.sourceColumn, ExportTable.scoreColumn, ExportTable.levelColumn,
        ExportTable.nameColumn] ∧
      read.frame.column? "a,\"b\"".toList =
        some [.integer Int64.minValue, .null, .integer Int64.maxValue] ∧
      read.frame.column? "paid".toList = some [.boolean true, .boolean false, .null] ∧
      read.frame.column? "none".toList = some [.null, .null, .null] ∧
      read.frame.column? ExportTable.scoreColumn =
        some [.integer (-7), .integer 0, .integer (-7)] := by
  let files : List (Text × Frame) :=
    [("x.csv".toList,
      ⟨[("name".toList, [.text "Ana,\r\n\"\u00e9\"".toList, .null]),
        ("a,\"b\"".toList, [.integer Int64.minValue, .null]),
        ("paid".toList, [.boolean true, .boolean false])], 2⟩),
    ("y.csv".toList,
      ⟨[("none".toList, [.null]), ("a,\"b\"".toList, [.integer Int64.maxValue])], 1⟩)]
  let rules : Rules := [⟨"some".toList, -7, []⟩]
  let evaluator : Evaluator := fun _ _ => .ok [true, false, true]
  have hdataset : (Dataset.concat files).Rectangular := by
    refine Dataset.rectangular_concat ?_
    show ∀ file ∈ files, ∀ column ∈ file.2.columns, column.2.length = file.2.rows
    decide
  obtain ⟨table, htable, hexport, hsheet, hreads⟩ :=
    export_reads_back files hdataset .default evaluator rules [] (by decide) (by decide)
  obtain ⟨read, sheet, hread⟩ := hreads ExportTable.floatText
  have hloaded := hread.loaded
  rw [← hsheet] at hloaded
  refine ⟨files, _, table, read, hdataset, hexport, hloaded, hread.encoding, hread.skipped,
    ?_, ?_, ?_, ?_, ?_⟩
  · rw [hread.keys, hread.header]
    decide +kernel
  · refine hread.typed _ _ (List.mem_of_getElem? (i := 1) rfl) (.inl ?_)
    simp [ExportTable.OnlyOf]
  · refine hread.typed _ _ (List.mem_of_getElem? (i := 2) rfl) (.inr ?_)
    simp [ExportTable.OnlyOf]
  · refine hread.typed _ _ (List.mem_of_getElem? (i := 3) rfl) (.inl ?_)
    simp [ExportTable.OnlyOf]
  · have hscores : (scoreWith .default evaluator (Dataset.concat files) rules []).scores =
        [-7, 0, -7] := by
      decide +kernel
    rw [hread.scores, hscores]
    rfl

end RiskTally
