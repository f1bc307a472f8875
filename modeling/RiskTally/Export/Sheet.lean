import RiskTally.Csv.Printer
import RiskTally.Export.Table

/-!
# Exported sheets

An exported table as comma-separated text: a header, then a line per row. An empty cell
is an empty field, truth values are `true` and `false`, and numbers have the fewest
digits that read back, with an exponent only where the point would lie far off.

## Main results

* `ExportTable.length_records`: a table is written as a line per row below the header.
-/

namespace RiskTally

namespace ExportTable

/-- A number as it is written in an exported sheet. A tie between two digits goes to the
even one. The point is placed from four zeros after it up to sixteen digits before it;
whole numbers end in `.0`. -/
def floatText (f : Float) : Text :=
  match Binary.ofFloat f with
  | .nan => "NaN".toList
  | .infinite negative => if negative then "-inf".toList else "inf".toList
  | .finite negative mantissa exponent =>
    let sign := if negative then ['-'] else []
    if mantissa = 0 then sign ++ "0.0".toList
    else
      let d := shortest .toEven mantissa exponent
      if -5 < d.point ∧ d.point ≤ 16 then
        if (d.digits.length : Int) ≤ d.point then sign ++ d.positional ++ ".0".toList
        else sign ++ d.positional
      else sign ++ d.scientific

/-- The fields of a column. -/
def fields : ExportValues → List Text
  | .integers values => values.map fun value => (value.map fun i => intText i.toInt).getD []
  | .floats values => values.map fun value => (value.map floatText).getD []
  | .booleans values => values.map fun value =>
    (value.map fun b => if b then "true".toList else "false".toList).getD []
  | .texts values => values.map fun value => value.getD []

/-- The rows of columns, as many as are asked for. -/
def transpose : (rows : Nat) → List (List Text) → List (List Text)
  | 0, _ => []
  | rows + 1, columns =>
    (columns.map fun column => column.head?.getD []) :: transpose rows (columns.map List.tail)

/-- The header and the rows of a table. -/
def records (table : ExportTable) : List (List Text) :=
  table.columns.map ExportColumn.name ::
    transpose table.rows (table.columns.map fun column => fields column.values)

/-- The sheet of a table. -/
def sheet (table : ExportTable) : Text :=
  Csv.print table.records

theorem length_transpose (rows : Nat) (columns : List (List Text)) :
    (transpose rows columns).length = rows := by
  induction rows generalizing columns with
  | zero => rfl
  | succ rows ih => simp [transpose, ih]

theorem length_records (table : ExportTable) : table.records.length = table.rows + 1 := by
  simp [records, length_transpose]

example : floatText 1000.0 = "1000.0".toList := by decide +kernel
example : floatText 0.00001 = "0.00001".toList := by decide +kernel
example : floatText 0.0000001234 = "1.234e-7".toList := by decide +kernel
example : floatText 1e16 = "1e16".toList := by decide +kernel
example : floatText 9999999999999998.0 = "9999999999999998.0".toList := by decide +kernel
example : floatText (-0.0) = "-0.0".toList := by decide +kernel

end ExportTable

/-- What an export leaves in its file: a sheet, or a typed table with its metadata. -/
inductive Exported where
  | sheet (text : Text)
  | table (table : ExportTable) (metadata : List (Text × Text))

/-- What a scored dataset is exported as, and its number of rows. -/
def Report.exportAs (dataset : Dataset) (report : Report) (format : ExportFormat) :
    Except ExportFault (Nat × Exported) :=
  match ExportTable.ofReport dataset report with
  | .error fault => .error fault
  | .ok table =>
    match format with
    | .csv => .ok (table.rows, .sheet table.sheet)
    | .parquet => .ok (table.rows, .table table report.metadata)

end RiskTally
