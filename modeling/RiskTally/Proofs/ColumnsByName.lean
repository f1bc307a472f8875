import RiskTally.Proofs.ExportedSheets

/-!
# Exported columns by name

A table may hold two columns of one name, and whoever looks a column up finds the first.  The
columns that a report adds come after those of its dataset, so that a column of a file stands
before them.  The file column alone is safe: no dataset has a column of that name.  The others
are found, and all names differ, exactly if no file has a column that is named as one of them.

## Main results

* `ExportTable.firstNamed?_columns`: what stands first under a name.
* `ExportTable.nodup_names_iff`: when the names of an exported table differ.
* `Report.export_by_name`: which columns of an export are found under their names.
* `Report.score_column_of_file`: a file whose own column is found in place of the scores.
-/

namespace RiskTally

namespace ExportTable

/-- The first column under a name. -/
def firstNamed? (columns : List ExportColumn) (name : Text) : Option ExportColumn :=
  columns.find? fun column => column.name = name

/-- A column of a dataset as it is exported. -/
def dataColumn (entry : Text × List Cell) : ExportColumn :=
  ⟨entry.1, true, .ofCells entry.2⟩

/-- The assembler takes all columns that are what their fields say, if there are any, and its
tables hold them in order. -/
def Assembler.Keeps {ε α : Type} (assembler : Assembler ε α)
    (columns : α → List ExportColumn) : Prop :=
  ∀ fields values, fields ≠ [] → Fits fields values →
    ∃ table, assembler fields values = .ok table ∧ columns table = List.zipWith column fields values

/-- The library's own assembler does. -/
theorem assemble_keeps : Assembler.Keeps assemble ExportTable.columns := by
  intro fields values _ hfits
  obtain ⟨table, htable⟩ := assemble_of_fits hfits
  refine ⟨table, htable, ?_⟩
  unfold assemble at htable
  split at htable
  · exact congrArg columns (Except.ok.inj htable).symm
  · exact absurd htable (by simp)

/-! ## What stands first -/

/-- Among the columns of a dataset a name finds the column that the dataset has under it. -/
theorem firstNamed?_dataColumn (table : Keyed (List Cell)) (name : Text) :
    firstNamed? (table.map dataColumn) name =
      (table.get? name).map fun cells => dataColumn (name, cells) := by
  induction table with
  | nil => rfl
  | cons entry table ih =>
      obtain ⟨key, cells⟩ := entry
      by_cases hkey : key = name
      · simp [firstNamed?, Keyed.get?, dataColumn, hkey]
      · simpa [firstNamed?, Keyed.get?, dataColumn, hkey] using ih

/-- Under a name stands first the column of the dataset, if it has one, and else the column
that the report adds. -/
theorem firstNamed?_columns (dataset : Dataset) (report : Report) (name : Text) :
    firstNamed? (dataset.columns.map dataColumn ++ addedColumns report) name =
      ((dataset.columns.get? name).map fun cells => dataColumn (name, cells)).or
        (firstNamed? (addedColumns report) name) := by
  rw [← firstNamed?_dataColumn]
  exact List.find?_append

/-- The names of the columns that reports add. -/
theorem names_addedColumns (report : Report) :
    (addedColumns report).map ExportColumn.name =
      [Dataset.sourceColumn, scoreColumn, levelColumn] ++
        (report.names.map fun _ => nameColumn).toList := by
  unfold addedColumns
  cases report.names <;> rfl

theorem nodup_names_addedColumns (report : Report) :
    ((addedColumns report).map ExportColumn.name).Nodup := by
  rw [names_addedColumns]
  cases report.names with
  | none => exact (by decide : [Dataset.sourceColumn, scoreColumn, levelColumn].Nodup)
  | some names =>
      exact (by decide : [Dataset.sourceColumn, scoreColumn, levelColumn, nameColumn].Nodup)

/-- Columns whose names differ are found under their names. -/
theorem firstNamed?_of_mem {columns : List ExportColumn}
    (h : (columns.map ExportColumn.name).Nodup) {column : ExportColumn} (hmem : column ∈ columns) :
    firstNamed? columns column.name = some column := by
  induction columns with
  | nil => simp at hmem
  | cons first columns ih =>
      obtain ⟨hfirst, hrest⟩ := List.nodup_cons.1 h
      rcases List.mem_cons.1 hmem with rfl | hmem
      · exact List.find?_cons_of_pos (decide_eq_true rfl)
      · have hne : first.name ≠ column.name := by
          intro hsame
          exact hfirst (hsame ▸ List.mem_map_of_mem hmem)
        exact (List.find?_cons_of_neg (by simpa using hne)).trans (ih hrest hmem)

theorem nullable_of_mem_addedColumns {report : Report} {column : ExportColumn}
    (h : column ∈ addedColumns report) : column.nullable = false := by
  rcases List.mem_append.1 h with h | h
  · simp only [List.mem_cons, List.not_mem_nil, or_false] at h
    rcases h with rfl | rfl | rfl <;> rfl
  · obtain ⟨names, -, rfl⟩ := Option.map_eq_some_iff.1 (Option.mem_toList.1 h)
    rfl

/-- A column that a report adds stands first under its name exactly if the dataset has no
column of that name. -/
theorem firstNamed?_eq_some_iff {dataset : Dataset} {report : Report} {column : ExportColumn}
    (hcolumn : column ∈ addedColumns report) :
    firstNamed? (dataset.columns.map dataColumn ++ addedColumns report) column.name = some column ↔
      column.name ∉ dataset.columnNames := by
  have hnone : dataset.columns.get? column.name = none ↔ column.name ∉ dataset.columnNames :=
    Keyed.get?_eq_none_iff
  rw [firstNamed?_columns, firstNamed?_of_mem (nodup_names_addedColumns report) hcolumn, ← hnone]
  cases dataset.columns.get? column.name with
  | none => simp
  | some cells =>
      -- Columns of a dataset may have empty cells, and those of a report may not.
      have hdata : dataColumn (column.name, cells) ≠ column := by
        intro hsame
        have hnullable := nullable_of_mem_addedColumns hcolumn
        rw [← hsame] at hnullable
        exact absurd hnullable (by simp [dataColumn])
      simpa using hdata

/-- The names of an exported table differ exactly if the dataset has no column that is named
as one that the report adds. -/
theorem nodup_names_iff {dataset : Dataset} (h : dataset.columnNames.Nodup) (report : Report) :
    ((dataset.columns.map dataColumn ++ addedColumns report).map ExportColumn.name).Nodup ↔
      ∀ column ∈ addedColumns report, column.name ∉ dataset.columnNames := by
  have hdata : (dataset.columns.map dataColumn).map ExportColumn.name = dataset.columnNames := by
    rw [List.map_map]
    rfl
  rw [List.map_append, hdata, List.nodup_append]
  constructor
  · rintro ⟨-, -, hdisjoint⟩ column hcolumn hmem
    exact hdisjoint _ hmem _ (List.mem_map_of_mem hcolumn) rfl
  · intro hfree
    refine ⟨h, nodup_names_addedColumns report, ?_⟩
    rintro name hname added hadded rfl
    obtain ⟨column, hcolumn, rfl⟩ := List.mem_map.1 hadded
    exact hfree column hcolumn hname

/-- The columns of a rectangular dataset and of its report are what their fields say. -/
theorem fits_scoreWith {dataset : Dataset} (h : dataset.Rectangular) (settings : ScoringSettings)
    (evaluator : Evaluator) (rules : Rules) (watchlist : Watchlist) :
    Fits (fieldsOf dataset (.scoreWith settings evaluator dataset rules watchlist))
      (valuesOf dataset (.scoreWith settings evaluator dataset rules watchlist)) :=
  fits_of_aligned h (Report.length_scores ..) (Report.length_levels ..) rfl
    fun _ hnames => Report.length_of_mem_names h hnames

theorem exists_ofReport {dataset : Dataset} (h : dataset.Rectangular) (settings : ScoringSettings)
    (evaluator : Evaluator) (rules : Rules) (watchlist : Watchlist) :
    ∃ table, ofReport dataset (.scoreWith settings evaluator dataset rules watchlist) = .ok table :=
  assemble_of_fits (fits_scoreWith h settings evaluator rules watchlist)

end ExportTable

/-! ## The export of a report -/

/-- In the export of what was loaded and scored, made by any assembler that keeps the columns,
the file column is found under its name.  The scores, the levels and, if there are any, the
names of the rows are found under theirs exactly if no file has a column of that name; else
the column of the file is found.  All names differ exactly if no file has any of the three. -/
theorem Report.export_by_name {files : List (Text × Frame)}
    (h : (Dataset.concat files).Rectangular) (settings : ScoringSettings) (evaluator : Evaluator)
    (rules : Rules) (watchlist : Watchlist) {ε α : Type}
    {assembler : ExportTable.Assembler ε α} {columns : α → List ExportColumn}
    (hassembler : assembler.Keeps columns) :
    let dataset := Dataset.concat files
    let report := scoreWith settings evaluator dataset rules watchlist
    ∃ table, ExportTable.ofReportBy assembler dataset report = .ok table ∧
      let first := ExportTable.firstNamed? (columns table)
      first Dataset.sourceColumn =
        some ⟨Dataset.sourceColumn, false, .texts (report.sources.map some)⟩ ∧
      (first ExportTable.scoreColumn =
          some ⟨ExportTable.scoreColumn, false, .integers (report.scores.map some)⟩ ↔
        ExportTable.scoreColumn ∉ dataset.columnNames) ∧
      (first ExportTable.levelColumn =
          some ⟨ExportTable.levelColumn, false, .texts ((report.levels.map Level.label).map some)⟩ ↔
        ExportTable.levelColumn ∉ dataset.columnNames) ∧
      (∀ names, report.names = some names →
        (first ExportTable.nameColumn =
            some ⟨ExportTable.nameColumn, false, .texts (names.map some)⟩ ↔
          ExportTable.nameColumn ∉ dataset.columnNames)) ∧
      (∀ name cells, dataset.columns.get? name = some cells →
        first name = some ⟨name, true, .ofCells cells⟩) ∧
      (((columns table).map ExportColumn.name).Nodup ↔
        ExportTable.scoreColumn ∉ dataset.columnNames ∧
        ExportTable.levelColumn ∉ dataset.columnNames ∧
        (report.names.isSome → ExportTable.nameColumn ∉ dataset.columnNames)) := by
  intro dataset report
  obtain ⟨table, htable, hkept⟩ :=
    hassembler _ _ (ExportTable.fieldsOf_ne_nil dataset report)
      (ExportTable.fits_scoreWith h settings evaluator rules watchlist)
  have hcolumns : columns table =
      dataset.columns.map ExportTable.dataColumn ++ ExportTable.addedColumns report :=
    hkept.trans (ExportTable.zipWith_column dataset report)
  have hsource : Dataset.sourceColumn ∉ dataset.columnNames := Dataset.sourceColumn_not_mem files
  have hdistinct : dataset.columnNames.Nodup :=
    (Dataset.columnNames_concat files).symm ▸ Dataset.nodup_unionNames files
  have hfound : ∀ column ∈ ExportTable.addedColumns report,
      (ExportTable.firstNamed? (columns table) column.name = some column ↔
        column.name ∉ dataset.columnNames) := by
    rw [hcolumns]
    exact fun column hcolumn => ExportTable.firstNamed?_eq_some_iff hcolumn
  refine ⟨table, htable, ?_, ?_, ?_, fun names hnames => ?_, fun name cells hcells => ?_, ?_⟩
  · exact (hfound ⟨Dataset.sourceColumn, _, _⟩ (List.mem_append_left _ (by simp))).2 hsource
  · exact hfound ⟨ExportTable.scoreColumn, _, _⟩ (List.mem_append_left _ (by simp))
  · exact hfound ⟨ExportTable.levelColumn, _, _⟩ (List.mem_append_left _ (by simp))
  · refine hfound ⟨ExportTable.nameColumn, _, _⟩ (List.mem_append_right _ ?_)
    rw [hnames]
    exact List.mem_singleton.2 rfl
  · rw [hcolumns, ExportTable.firstNamed?_columns, hcells]
    rfl
  · have hnames := List.forall_mem_map (f := ExportColumn.name)
      (l := ExportTable.addedColumns report) (P := (· ∉ dataset.columnNames))
    rw [hcolumns, ExportTable.nodup_names_iff hdistinct, ← hnames, ExportTable.names_addedColumns]
    cases report.names <;> simp [hsource]

/-- Two files with names, one of them with a column for the files and one for the levels. -/
theorem Report.export_by_name_two_files :
    ∃ (files : List (Text × Frame)) (evaluator : Evaluator) (rules : Rules) (table : ExportTable),
      (Dataset.concat files).Rectangular ∧
      ExportTable.Assembler.Keeps ExportTable.assemble ExportTable.columns ∧
      (Dataset.concat files).columnNames = ["name".toList, ExportTable.levelColumn] ∧
      ExportTable.ofReport (Dataset.concat files)
        (scoreWith .default evaluator (Dataset.concat files) rules []) = .ok table ∧
      ExportTable.firstNamed? table.columns Dataset.sourceColumn =
        some ⟨Dataset.sourceColumn, false, .texts [some "a.csv".toList, some "b.csv".toList]⟩ ∧
      ExportTable.firstNamed? table.columns ExportTable.scoreColumn =
        some ⟨ExportTable.scoreColumn, false, .integers [some 70, some 0]⟩ ∧
      ExportTable.firstNamed? table.columns ExportTable.levelColumn =
        some ⟨ExportTable.levelColumn, true, .booleans [some true, none]⟩ ∧
      ExportTable.firstNamed? table.columns ExportTable.nameColumn =
        some ⟨ExportTable.nameColumn, false, .texts [some "ANA".toList, some "JAN".toList]⟩ ∧
      ¬ (table.columns.map ExportColumn.name).Nodup := by
  let files : List (Text × Frame) :=
    [("a.csv".toList,
      ⟨[("name".toList, [.text "Ana".toList]), (Dataset.sourceColumn, [.text "b.csv".toList]),
        (ExportTable.levelColumn, [.boolean true])], 1⟩),
      ("b.csv".toList, ⟨[("name".toList, [.text "Jan".toList])], 1⟩)]
  let evaluator : Evaluator := fun _ _ => .ok [true, false]
  let rules : Rules := [⟨"some".toList, 70, []⟩]
  have hdataset : (Dataset.concat files).Rectangular := by
    refine Dataset.rectangular_concat ?_
    show ∀ file ∈ files, ∀ column ∈ file.2.columns, column.2.length = file.2.rows
    decide
  have hcolumns :
      (Dataset.concat files).columnNames = ["name".toList, ExportTable.levelColumn] := by
    decide +kernel
  let report := scoreWith .default evaluator (Dataset.concat files) rules []
  have hsources : report.sources = ["a.csv".toList, "b.csv".toList] := by decide +kernel
  have hscores : report.scores = [70, 0] := by decide +kernel
  have hrows : report.names = some ["ANA".toList, "JAN".toList] := by decide +kernel
  obtain ⟨table, htable, hsource, hscore, -, hname, hdata, hnames⟩ :=
    export_by_name hdataset .default evaluator rules [] ExportTable.assemble_keeps
  rw [hsources] at hsource
  rw [hcolumns, hscores] at hscore
  rw [hcolumns] at hname hnames
  refine ⟨files, evaluator, rules, table, hdataset, ExportTable.assemble_keeps, hcolumns, htable,
    hsource, hscore.2 (by decide), hdata _ [.boolean true, .null] rfl,
    (hname _ hrows).2 (by decide), fun hnodup => ?_⟩
  exact absurd (hnames.1 hnodup).2.1 (by decide)

/-- A file with a column for the scores, such as an export that was put among the files: under
the name of the scores the column of the file is found, and two columns have that name. -/
theorem Report.score_column_of_file :
    ∃ (files : List (Text × Frame)) (table : ExportTable),
      (Dataset.concat files).Rectangular ∧
      ExportTable.ofReport (Dataset.concat files) (score .default (Dataset.concat files) [] []) =
        .ok table ∧
      (score .default (Dataset.concat files) [] []).scores = [0, 0] ∧
      ExportTable.firstNamed? table.columns ExportTable.scoreColumn =
        some ⟨ExportTable.scoreColumn, true, .integers [some 7, some 8]⟩ ∧
      ¬ (table.columns.map ExportColumn.name).Nodup := by
  let files : List (Text × Frame) :=
    [("a.csv".toList, ⟨[("x".toList, [.integer 1, .integer 2]),
      (ExportTable.scoreColumn, [.integer 7, .integer 8])], 2⟩)]
  have hdataset : (Dataset.concat files).Rectangular := by
    refine Dataset.rectangular_concat ?_
    show ∀ file ∈ files, ∀ column ∈ file.2.columns, column.2.length = file.2.rows
    decide
  have hcolumns : (Dataset.concat files).columnNames = ["x".toList, ExportTable.scoreColumn] := by
    decide +kernel
  let report := score .default (Dataset.concat files) [] []
  obtain ⟨table, htable⟩ :
      ∃ table, ExportTable.ofReport (Dataset.concat files) report = .ok table :=
    ExportTable.exists_ofReport hdataset .default Expression.evaluate [] []
  refine ⟨files, table, hdataset, htable, by decide +kernel, ?_, ?_⟩
  · rw [ExportTable.columns_of_ofReport htable]
    rfl
  · rw [ExportTable.names_of_ofReport htable, hcolumns]
    exact fun hnodup => absurd (List.nodup_append.1 (List.nodup_append.1 hnodup).1).2.2 (by decide)

end RiskTally
