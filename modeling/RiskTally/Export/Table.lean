import RiskTally.Report

/-!
# Export tables

A scored dataset is exported as a table of typed columns: the columns of the dataset,
then the file, score, level and, if there are names, canonical name of every row. A
column of the dataset keeps integers, numbers or truth values where all its values are
such; any other column becomes text.

## Main results

* `ExportValues.length_ofCells`: an exported column keeps its length.
* `ExportTable.ofReport_eq_ok_iff`: the export fails exactly when the columns differ in
  length.
-/

namespace RiskTally

/-- The format of an export. -/
inductive ExportFormat where
  | csv
  | parquet
  deriving DecidableEq, Repr

namespace ExportFormat

/-- The format written unless another is asked for. -/
def default : ExportFormat := csv

/-- The format of a name, in any case of its letters. -/
def ofName? (name : Text) : Option ExportFormat :=
  let name := Numeral.asciiLower name
  if name = "csv".toList then some csv
  else if name = "parquet".toList then some parquet
  else none

/-- The name of a format. -/
def name : ExportFormat → Text
  | csv => "csv".toList
  | parquet => "parquet".toList

theorem ofName?_name (format : ExportFormat) : ofName? format.name = some format := by
  cases format <;> decide

end ExportFormat

/-- Why the system would not write a file. -/
inductive WriteFault where
  | notFound
  | fileExists
  | notFolder
  | isFolder
  | nameTooLong
  deriving DecidableEq, Repr

/-- The wording of a fault, with the number the system gives it. -/
def WriteFault.message : WriteFault → Text
  | notFound => "No such file or directory (os error 2)".toList
  | fileExists => "File exists (os error 17)".toList
  | notFolder => "Not a directory (os error 20)".toList
  | isFolder => "Is a directory (os error 21)".toList
  | nameTooLong => "File name too long (os error 36)".toList

/-- Why a report could not be exported. -/
inductive ExportFault where
  | unequalColumns
  | unwritable (fault : WriteFault)
  | unknownFormat (name : Text)
  deriving DecidableEq, Repr

namespace ExportFault

/-- What is said of columns of different lengths. -/
def unequalText : Text :=
  "Invalid argument error: all columns in a record batch must have the same length".toList

/-- The wording of a fault. -/
def message : ExportFault → Text
  | unequalColumns => "Arrow conversion error: ".toList ++ unequalText
  | unwritable fault => "I/O error: ".toList ++ fault.message
  | unknownFormat name =>
    "unknown export format '".toList ++ name ++ "' (expected csv or parquet)".toList

/-- The fault that lies under a fault, where there is one. -/
def cause? : ExportFault → Option Text
  | unequalColumns => some unequalText
  | unwritable fault => some fault.message
  | unknownFormat _ => none

end ExportFault

/-! ## Typed values -/

/-- The type of an exported column. -/
inductive ExportKind where
  | integer
  | float
  | boolean
  | text
  deriving DecidableEq, Repr

/-- The values of an exported column; `none` is an empty cell. -/
inductive ExportValues where
  | integers (values : List (Option Int64))
  | floats (values : List (Option Float))
  | booleans (values : List (Option Bool))
  | texts (values : List (Option Text))

namespace ExportKind

/-- The type in which a column is exported. -/
def ofCells (cells : List Cell) : ExportKind :=
  let integers := cells.any fun | .integer _ => true | _ => false
  let floats := cells.any fun | .float _ => true | _ => false
  let booleans := cells.any fun | .boolean _ => true | _ => false
  let texts := cells.any fun | .text _ => true | _ => false
  match integers, floats, booleans, texts with
  | true, false, false, false => integer
  | _, true, false, false => float
  | false, false, true, false => boolean
  | _, _, _, _ => text

end ExportKind

namespace ExportValues

/-- A cell of a column of integers. -/
def integer? : Cell → Option Int64
  | .integer i => some i
  | _ => none

/-- A cell of a column of numbers. -/
def float? : Cell → Option Float
  | .integer i => (Cell.integer i).toNumber?
  | .float f => some f
  | _ => none

/-- A cell of a column of truth values. -/
def boolean? : Cell → Option Bool
  | .boolean b => some b
  | _ => none

/-- The values of a column in a type. A value that is not of the type is left empty. -/
def ofCellsAs (kind : ExportKind) (cells : List Cell) : ExportValues :=
  match kind with
  | .integer => integers (cells.map integer?)
  | .float => floats (cells.map float?)
  | .boolean => booleans (cells.map boolean?)
  | .text => texts (cells.map Cell.toText?)

/-- The values of a column in its own type. -/
def ofCells (cells : List Cell) : ExportValues :=
  ofCellsAs (ExportKind.ofCells cells) cells

/-- The type of the values. -/
def kind : ExportValues → ExportKind
  | integers _ => .integer
  | floats _ => .float
  | booleans _ => .boolean
  | texts _ => .text

/-- The number of values. -/
def length : ExportValues → Nat
  | integers values => values.length
  | floats values => values.length
  | booleans values => values.length
  | texts values => values.length

theorem length_ofCells (cells : List Cell) : (ofCells cells).length = cells.length := by
  unfold ofCells ofCellsAs
  split <;> simp [length]

end ExportValues

/-! ## Tables -/

/-- What an exported table says of a column: its name, its type and whether it may have
empty cells. -/
structure ExportField where
  name : Text
  kind : ExportKind
  nullable : Bool
  deriving DecidableEq, Repr

/-- A column of an exported table. -/
structure ExportColumn where
  name : Text
  /-- The column may have empty cells. -/
  nullable : Bool
  values : ExportValues

/-- The columns of an exported table, all of one length. -/
structure ExportTable where
  columns : List ExportColumn

namespace ExportTable

/-- The column of the score of a row. -/
def scoreColumn : Text := "__risk_score".toList

/-- The column of the level of a row. -/
def levelColumn : Text := "__risk_level".toList

/-- The column of the canonical name of a row. -/
def nameColumn : Text := "__full_name".toList

/-- What a table says of the columns of a dataset and its report. Only those of the
dataset may have empty cells. -/
def fieldsOf (dataset : Dataset) (report : Report) : List ExportField :=
  dataset.columns.map (fun column => ⟨column.1, .ofCells column.2, true⟩) ++
  [⟨Dataset.sourceColumn, .text, false⟩, ⟨scoreColumn, .integer, false⟩,
    ⟨levelColumn, .text, false⟩] ++
  (report.names.map fun _ => ⟨nameColumn, .text, false⟩).toList

/-- The values of the columns of a dataset and its report. -/
def valuesOf (dataset : Dataset) (report : Report) : List ExportValues :=
  dataset.columns.map (fun column => .ofCells column.2) ++
  [.texts (report.sources.map some), .integers (report.scores.map some),
    .texts ((report.levels.map Level.label).map some)] ++
  (report.names.map fun names => .texts (names.map some)).toList

/-- A way to make a table of fields and values. -/
abbrev Assembler (ε α : Type) :=
  List ExportField → List ExportValues → Except ε α

/-- The table of a dataset and its report, made by an assembler. -/
def ofReportBy {ε α : Type} (assembler : Assembler ε α) (dataset : Dataset) (report : Report) :
    Except ε α :=
  assembler (fieldsOf dataset report) (valuesOf dataset report)

/-- A field with the values under it. -/
def column (field : ExportField) (values : ExportValues) : ExportColumn :=
  ⟨field.name, field.nullable, values⟩

/-- All columns have the length of the first one. -/
def sameLength : List ExportValues → Bool
  | [] => true
  | first :: rest => rest.all fun values => values.length == first.length

/-- Puts the values under their fields, which takes columns of one length. -/
def assemble : Assembler ExportFault ExportTable := fun fields values =>
  if sameLength values then .ok ⟨List.zipWith column fields values⟩ else .error .unequalColumns

/-- The table of a dataset and its report. -/
def ofReport (dataset : Dataset) (report : Report) : Except ExportFault ExportTable :=
  ofReportBy assemble dataset report

/-- The number of rows. -/
def rows (table : ExportTable) : Nat :=
  (table.columns.head?.map fun column => column.values.length).getD 0

theorem ofReport_eq_ok_iff {dataset : Dataset} {report : Report} {table : ExportTable} :
    ofReport dataset report = .ok table ↔
      sameLength (valuesOf dataset report) = true ∧
        table = ⟨List.zipWith column (fieldsOf dataset report) (valuesOf dataset report)⟩ := by
  unfold ofReport ofReportBy assemble
  cases h : sameLength (valuesOf dataset report) with
  | false => simp
  | true => simp [eq_comm]

end ExportTable

/-- What is noted of a run beside its table. -/
def Report.metadata (report : Report) : List (Text × Text) :=
  [("riskscore.rows".toList, natText report.rows),
    ("riskscore.activations".toList, natText report.activations.length),
    ("riskscore.ignored_rules".toList, natText report.ignored.length),
    ("riskscore.identities".toList, natText report.identities.length)] ++
  (report.nameSource.map fun source => ("riskscore.name_source".toList, source.label)).toList

end RiskTally
