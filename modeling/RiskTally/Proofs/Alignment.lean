import Mathlib.Data.List.Forall2
import RiskTally.Command.Run

/-!
# Alignment of rows

Everything that is said of the rows of a loaded folder has one entry per row.  The
invariant is `Rectangular`: it holds of the frame of every file that was read, is kept
when frames are put together, and is handed on to names, masks, scores and the columns
of an export.  So no stage that follows a successful load can meet a fault: no rule is
ignored, no query looks past the end of a column, and no export is refused.

## Main results

* `Dataset.rectangular_concat`: rectangular frames make a rectangular dataset.
* `Loading.rectangular_of_load`: the dataset of a folder is rectangular.
* `Tally.ignored_applyAll`: rules that can be evaluated leave no ignored rule.
* `Profile.query_eq_ok`: a report with aligned columns answers every query.
* `ExportTable.fits_of_aligned`: aligned columns are what their fields say.
* `Loading.no_fault_after_load`: all of this for a loaded folder.
-/

namespace RiskTally

/-! ## Frames and datasets -/

/-- A file that was read in some encoding has a rectangular frame. -/
theorem FileRead.rectangular_of_firstOf {settings : ReadSettings} {bytes : Bytes}
    {fault : ReadFault} {encodings : List Encoding} {read : FileRead}
    (h : firstOf settings bytes fault encodings = .ok read) : read.frame.Rectangular := by
  induction encodings generalizing fault with
  | nil => simp [firstOf] at h
  | cons encoding encodings ih =>
      rw [firstOf] at h
      split at h
      · rename_i first hattempt
        obtain rfl := Except.ok.inj h
        unfold attempt at hattempt
        split at hattempt
        · simp at hattempt
        · split at hattempt
          · simp at hattempt
          · obtain rfl := Except.ok.inj hattempt
            exact Frame.rectangular_ofSheet _ _
      · exact ih h

namespace Dataset

/-- A rectangular file has one cell per row in every column of the union. -/
theorem length_cellsIn {file : Text × Frame} (h : file.2.Rectangular) (name : Text) :
    (cellsIn name file).length = file.2.rows := by
  unfold cellsIn Frame.column?
  cases hcells : file.2.columns.get? name with
  | none => simp
  | some cells => exact h (name, cells) (Keyed.mem_of_get? hcells)

/-- Putting rectangular frames together gives a rectangular dataset. -/
theorem rectangular_concat {files : List (Text × Frame)}
    (h : ∀ file ∈ files, file.2.Rectangular) : (concat files).Rectangular := by
  intro column hcolumn
  obtain ⟨name, -, rfl⟩ := List.mem_map.1 hcolumn
  show (files.flatMap (cellsIn name)).length = (concat files).rows
  clear hcolumn
  induction files with
  | nil => rfl
  | cons file files ih =>
      have hfile := length_cellsIn (h file (by simp)) name
      have hfiles := ih fun other hother => h other (by simp [hother])
      rw [List.flatMap_cons, List.length_append, hfile, hfiles, rows_concat_cons]

end Dataset

namespace Loading

/-- Every frame of a folder comes from a file that was read. -/
theorem rectangular_of_mem_frames {settings : ReadSettings} {files : List (Text × Bytes)}
    {file : Text × Frame} (h : file ∈ frames (reports settings files)) :
    file.2.Rectangular := by
  obtain ⟨report, hreport, hframe⟩ := List.mem_filterMap.1 h
  obtain ⟨⟨name, contents⟩, -, rfl⟩ := List.mem_map.1 hreport
  unfold Report.frame? outcome at hframe
  dsimp only at hframe
  split at hframe
  · rename_i read hread
    obtain rfl := Option.some.inj hframe
    split at hread
    · split at hread
      · rename_i first hfirst
        split at hread
        · simp at hread
        · obtain rfl := Outcome.loaded.inj hread
          exact FileRead.rectangular_of_firstOf hfirst
      · simp at hread
    · simp at hread
  · simp at hframe

/-- The dataset of a folder is rectangular. -/
theorem rectangular_of_load {settings : ReadSettings} {folder : Text}
    {files : List (Text × Bytes)} {loaded : Loaded}
    (h : load settings folder files = .ok loaded) : loaded.dataset.Rectangular := by
  have hfiles : ∀ file ∈ frames (reports settings files), file.2.Rectangular :=
    fun file hfile => rectangular_of_mem_frames hfile
  unfold load at h
  dsimp only at h
  split at h
  · simp at h
  · rename_i first rest hframes
    obtain rfl := Except.ok.inj h
    exact Dataset.rectangular_concat (hframes ▸ hfiles)

/-- A folder with a file that has rows can be loaded. -/
theorem exists_load {settings : ReadSettings} {folder : Text} {files : List (Text × Bytes)}
    {file : Text × Bytes} (hfile : file ∈ files) {read : FileRead}
    (h : outcome settings file.1 file.2 = .loaded read) :
    ∃ loaded, load settings folder files = .ok loaded := by
  have hreport : ⟨file.1, outcome settings file.1 file.2⟩ ∈ reports settings files :=
    List.mem_map.2 ⟨file, List.mem_mergeSort.2 hfile, rfl⟩
  have hframe : (file.1, read.frame) ∈ frames (reports settings files) :=
    List.mem_filterMap.2 ⟨_, hreport, by rw [Report.frame?, h]⟩
  cases hload : load settings folder files with
  | ok loaded => exact ⟨loaded, rfl⟩
  | error fault =>
      have hnone := (load_eq_error_iff.1 hload).2
      rw [hnone] at hframe
      simp at hframe

end Loading

/-! ## Rules -/

/-- What rules see of a rectangular dataset is rectangular. -/
theorem Report.rectangular_contextOf {dataset : Dataset} (h : dataset.Rectangular)
    (settings : ScoringSettings) : (contextOf settings dataset).Rectangular :=
  ⟨h, length_fullNames h _⟩

/-- Over a rectangular context every text has a mask with one entry per row. -/
theorem Expression.exists_mask {context : Context} (h : context.Rectangular) (text : Text) :
    ∃ mask, evaluate text context = .ok mask ∧ mask.length = context.rows :=
  ⟨maskOf context (Text.trim text), evaluate_eq_ok h text, length_mask h _⟩

/-- Rules that can all be evaluated leave the list of ignored rules as it is. -/
theorem Tally.ignored_applyAll {evaluator : Evaluator} {context : Context} {rules : Rules}
    (h : ∀ rule ∈ rules, ∃ mask, evaluator rule.expression context = .ok mask) (tally : Tally) :
    (applyAll evaluator context rules tally).ignored = tally.ignored := by
  induction rules generalizing tally with
  | nil => rfl
  | cons rule rules ih =>
      obtain ⟨mask, hmask⟩ := h rule (by simp)
      have hrule : (apply evaluator context tally rule).ignored = tally.ignored := by
        simp only [apply, applyResult, hmask]
        split <;> rfl
      have hrules := ih (fun other hother => h other (by simp [hother]))
        (apply evaluator context tally rule)
      exact hrules.trans hrule

/-- The watchlist ignores no rule. -/
theorem Tally.ignored_applyWatchlist (watchlist : Watchlist) (names : List Text)
    (tally : Tally) : (applyWatchlist watchlist names tally).ignored = tally.ignored := by
  unfold applyWatchlist
  dsimp only
  split <;> rfl

/-- Scoring a rectangular dataset with the rule language ignores no rule. -/
theorem Report.ignored_score {dataset : Dataset} (h : dataset.Rectangular)
    (settings : ScoringSettings) (rules : Rules) (watchlist : Watchlist) :
    (score settings dataset rules watchlist).ignored = [] := by
  have hmask : ∀ rule ∈ rules, ∃ mask,
      Expression.evaluate rule.expression (contextOf settings dataset) = .ok mask := by
    intro rule _
    obtain ⟨mask, hmask, -⟩ :=
      Expression.exists_mask (rectangular_contextOf h settings) rule.expression
    exact ⟨mask, hmask⟩
  have hrules := Tally.ignored_applyAll hmask (Tally.start dataset.rows)
  show (tally settings Expression.evaluate dataset rules watchlist).ignored = []
  unfold tally
  dsimp only
  split
  · rw [Tally.ignored_applyWatchlist, hrules]
    rfl
  · rw [hrules]
    rfl

/-- A report names as many rows as its dataset has. -/
theorem Report.length_of_mem_names {dataset : Dataset} (h : dataset.Rectangular)
    {settings : ScoringSettings} {evaluator : Evaluator} {rules : Rules} {watchlist : Watchlist}
    {names : List Text}
    (hnames : (scoreWith settings evaluator dataset rules watchlist).names = some names) :
    names.length = dataset.rows := by
  obtain ⟨source, -, rfl⟩ := Option.map_eq_some_iff.1 hnames
  exact length_fullNames h _

/-! ## Queries -/

namespace Profile

/-- A report whose columns are as long as its names answers every query: the profile of a
person is read off rows that are there. -/
theorem query_eq_ok {report : Report} {names : List Text} (hnames : report.names = some names)
    (hscores : names.length ≤ report.scores.length)
    (hsources : names.length ≤ report.sources.length) (name : Text) (watchlist : Watchlist) :
    ∃ profile, query report name watchlist = .ok profile := by
  unfold query
  rw [hnames]
  dsimp only
  cases report.identity? (normalizeName name) with
  | none => exact ⟨_, rfl⟩
  | some identity =>
      have hknown : ∃ profile, known name identity names report = .ok profile := by
        unfold known
        dsimp only
        rw [mapM_entryAt_placesOf hscores, mapM_entryAt_placesOf hsources]
        exact ⟨_, rfl⟩
      obtain ⟨profile, hprofile⟩ := hknown
      dsimp only
      rw [hprofile]
      exact ⟨_, rfl⟩

end Profile

/-! ## Exports -/

/-- Some value is missing. -/
def ExportValues.hasEmpty : ExportValues → Bool
  | integers values => values.any Option.isNone
  | floats values => values.any Option.isNone
  | booleans values => values.any Option.isNone
  | texts values => values.any Option.isNone

/-- The values are what the field says of them: of its type, one per row, and none of them
missing unless the field allows it. -/
structure ExportField.Admits (rows : Nat) (field : ExportField) (values : ExportValues) :
    Prop where
  kind : values.kind = field.kind
  length : values.length = rows
  filled : field.nullable = false → values.hasEmpty = false

namespace ExportTable

/-- Fields and values agree one by one, over one number of rows. -/
def Fits (fields : List ExportField) (values : List ExportValues) : Prop :=
  ∃ rows, List.Forall₂ (ExportField.Admits rows) fields values

/-- A column of a dataset is exported in the type that its field announces. -/
theorem kind_ofCells (cells : List Cell) :
    (ExportValues.ofCells cells).kind = ExportKind.ofCells cells := by
  unfold ExportValues.ofCells
  cases ExportKind.ofCells cells <;> rfl

theorem admits_texts (name : Text) (texts : List Text) :
    ExportField.Admits texts.length ⟨name, .text, false⟩ (.texts (texts.map some)) where
  kind := rfl
  length := by simp [ExportValues.length]
  filled _ := by simp [ExportValues.hasEmpty]

theorem admits_integers (name : Text) (integers : List Int64) :
    ExportField.Admits integers.length ⟨name, .integer, false⟩
      (.integers (integers.map some)) where
  kind := rfl
  length := by simp [ExportValues.length]
  filled _ := by simp [ExportValues.hasEmpty]

/-- A rectangular dataset and a report with an entry per row make columns that are what
their fields say. -/
theorem fits_of_aligned {dataset : Dataset} (h : dataset.Rectangular) {report : Report}
    (hscores : report.scores.length = dataset.rows)
    (hlevels : report.levels.length = dataset.rows)
    (hsources : report.sources.length = dataset.rows)
    (hnames : ∀ names, report.names = some names → names.length = dataset.rows) :
    Fits (fieldsOf dataset report) (valuesOf dataset report) := by
  refine ⟨dataset.rows, ?_⟩
  have hcolumns : List.Forall₂ (ExportField.Admits dataset.rows)
      (dataset.columns.map fun column => (⟨column.1, .ofCells column.2, true⟩ : ExportField))
      (dataset.columns.map fun column => ExportValues.ofCells column.2) := by
    rw [List.forall₂_map_left_iff, List.forall₂_map_right_iff, List.forall₂_same]
    intro column hcolumn
    exact ⟨kind_ofCells _, (ExportValues.length_ofCells _).trans (h column hcolumn), by simp⟩
  have hadded : List.Forall₂ (ExportField.Admits dataset.rows)
      [⟨Dataset.sourceColumn, .text, false⟩, ⟨scoreColumn, .integer, false⟩,
        ⟨levelColumn, .text, false⟩]
      [.texts (report.sources.map some), .integers (report.scores.map some),
        .texts ((report.levels.map Level.label).map some)] := by
    have hlabels : (report.levels.map Level.label).length = dataset.rows := by
      rw [List.length_map, hlevels]
    exact .cons (hsources ▸ admits_texts _ _) (.cons (hscores ▸ admits_integers _ _)
      (.cons (hlabels ▸ admits_texts _ _) .nil))
  have hnamed : List.Forall₂ (ExportField.Admits dataset.rows)
      (report.names.map fun _ => (⟨nameColumn, .text, false⟩ : ExportField)).toList
      (report.names.map fun names => ExportValues.texts (names.map some)).toList := by
    cases hopt : report.names with
    | none => exact .nil
    | some names => exact .cons (hnames names hopt ▸ admits_texts _ _) .nil
  exact List.rel_append (List.rel_append hcolumns hadded) hnamed

/-- An export has columns: that of the files is always among them. -/
theorem fieldsOf_ne_nil (dataset : Dataset) (report : Report) : fieldsOf dataset report ≠ [] := by
  simp [fieldsOf]

/-- The library's own assembler takes all columns that are what their fields say. -/
theorem assemble_of_fits {fields : List ExportField} {values : List ExportValues}
    (h : Fits fields values) : ∃ table, assemble fields values = .ok table := by
  obtain ⟨rows, hfits⟩ := h
  have hlength : ∀ column ∈ values, column.length = rows := by
    induction hfits with
    | nil => simp
    | cons hfirst _ ih =>
        intro column hcolumn
        rcases List.mem_cons.1 hcolumn with rfl | hrest
        · exact hfirst.length
        · exact ih column hrest
  have hsame : sameLength values = true := by
    cases values with
    | nil => rfl
    | cons first rest =>
        simp only [sameLength, List.all_eq_true, beq_iff_eq]
        intro column hcolumn
        rw [hlength column (by simp [hcolumn]), hlength first (by simp)]
  exact ⟨_, if_pos hsame⟩

end ExportTable

/-! ## After a load -/

/-- Once a folder has been loaded nothing fails: every rule text has a mask of one entry
per row, so that no rule is ignored; the columns of the report have one entry per row; a
query gives a profile unless there are no names; and the columns are exported by every
assembler that takes fields and values which agree, if there are any. -/
theorem Loading.no_fault_after_load {settings : ReadSettings} {folder : Text}
    {files : List (Text × Bytes)} {loaded : Loaded}
    (hload : load settings folder files = .ok loaded) (scoring : ScoringSettings)
    (rules : Rules) (watchlist : Watchlist) {ε α : Type}
    {assembler : ExportTable.Assembler ε α}
    (hassembler : ∀ fields values, fields ≠ [] → ExportTable.Fits fields values →
      ∃ table, assembler fields values = .ok table) :
    let dataset := loaded.dataset
    let report := Report.score scoring dataset rules watchlist
    (∀ text, ∃ mask, Expression.evaluate text (Report.contextOf scoring dataset) = .ok mask ∧
      mask.length = dataset.rows) ∧
    report.ignored = [] ∧
    report.scores.length = dataset.rows ∧
    report.levels.length = dataset.rows ∧
    report.sources.length = dataset.rows ∧
    (∀ names, report.names = some names → names.length = dataset.rows) ∧
    (∀ name listed, match report.names with
      | none => Profile.query report name listed = .error .noNameColumns
      | some _ => ∃ profile, Profile.query report name listed = .ok profile) ∧
    ∃ table, ExportTable.ofReportBy assembler dataset report = .ok table := by
  intro dataset report
  have hdataset : dataset.Rectangular := rectangular_of_load hload
  have hscores : report.scores.length = dataset.rows := Report.length_scores ..
  have hlevels : report.levels.length = dataset.rows := Report.length_levels ..
  have hsources : report.sources.length = dataset.rows := rfl
  have hnames : ∀ names, report.names = some names → names.length = dataset.rows :=
    fun names h => Report.length_of_mem_names hdataset h
  refine ⟨fun text => ?_, Report.ignored_score hdataset .., hscores, hlevels, hsources, hnames,
    fun name listed => ?_, ?_⟩
  · exact Expression.exists_mask (Report.rectangular_contextOf hdataset scoring) text
  · cases h : report.names with
    | none => exact Profile.query_of_names_eq_none h name listed
    | some names =>
        have hlength := hnames names h
        exact Profile.query_eq_ok h (by omega) (by omega) name listed
  · exact hassembler _ _ (ExportTable.fieldsOf_ne_nil dataset report)
      (ExportTable.fits_of_aligned hdataset hscores hlevels hsources hnames)

/-- Two sheets with different columns, a short record and a byte that is not UTF-8. -/
theorem Loading.no_fault_after_load_two_sheets :
    ∃ loaded, load .default "dataset".toList
        [("b.csv".toList, Utf8.encode "name,Age\nAna,70\nJan\n".toList),
          ("a.csv".toList, [0x43, 0x69, 0x74, 0x79, 0x0A, 0xE9])] = .ok loaded ∧
      (Report.score .default loaded.dataset [⟨"Age > 60 || City == x".toList, 50, []⟩]
        []).ignored = [] ∧
      ∃ table, ExportTable.ofReportBy ExportTable.assemble loaded.dataset
        (Report.score .default loaded.dataset [⟨"Age > 60 || City == x".toList, 50, []⟩] []) =
          .ok table := by
  have hloaded : ∃ loaded, load .default "dataset".toList
      [("b.csv".toList, Utf8.encode "name,Age\nAna,70\nJan\n".toList),
        ("a.csv".toList, [0x43, 0x69, 0x74, 0x79, 0x0A, 0xE9])] = .ok loaded :=
    exists_load (List.mem_cons_self ..) rfl
  obtain ⟨loaded, hload⟩ := hloaded
  have h := no_fault_after_load hload .default [⟨"Age > 60 || City == x".toList, 50, []⟩] []
    fun _ _ _ => ExportTable.assemble_of_fits
  exact ⟨loaded, hload, h.2.1, h.2.2.2.2.2.2.2⟩

end RiskTally
