import RiskTally.Frame

/-!
# Datasets

A dataset is the rows of several files under one header: the union of their columns, in
the order in which they first appear. A row has nothing in the columns that its file
lacks. The file of every row is kept beside the columns and can be read as a column of
its own, which no column of a file can replace.

## Main results

* `Dataset.rows_concat_cons`: every file adds its rows to the dataset.
* `Dataset.column?_sourceColumn`: the file column always reads as the files of the rows.
-/

namespace RiskTally

/-- The rows of several files. -/
structure Dataset where
  columns : Keyed (List Cell)
  /-- The file of every row. -/
  sources : List Text

namespace Dataset

/-- The name under which the file of a row is read. -/
def sourceColumn : Text :=
  "__source_file".toList

/-- The number of rows. -/
def rows (dataset : Dataset) : Nat :=
  dataset.sources.length

/-- The names of the columns. -/
def columnNames (dataset : Dataset) : List Text :=
  dataset.columns.keys

/-- The cells of a column, or the files of the rows. -/
def column? (dataset : Dataset) (name : Text) : Option (List Cell) :=
  if name = sourceColumn then some (dataset.sources.map .text) else dataset.columns.get? name

/-- The name is that of a column or that of the file column. -/
def hasColumn (dataset : Dataset) (name : Text) : Bool :=
  (dataset.column? name).isSome

/-- Every column is as long as the dataset has rows. -/
def Rectangular (dataset : Dataset) : Prop :=
  ∀ column ∈ dataset.columns, column.2.length = dataset.rows

/-! ## Putting files together -/

/-- The names with those of `more` that are new. -/
def addNames (names more : List Text) : List Text :=
  more.foldl (fun names name =>
    if name = sourceColumn || names.contains name then names else names ++ [name]) names

/-- The column names of all files, in the order of their first appearance. -/
def unionNames (files : List (Text × Frame)) : List Text :=
  files.foldl (fun names file => addNames names file.2.columns.keys) []

/-- The cells that a file has in a column. -/
def cellsIn (name : Text) (file : Text × Frame) : List Cell :=
  (file.2.column? name).getD (List.replicate file.2.rows .null)

/-- The rows of the files, in order. -/
def concat (files : List (Text × Frame)) : Dataset where
  columns := (unionNames files).map fun name => (name, files.flatMap (cellsIn name))
  sources := files.flatMap fun file => List.replicate file.2.rows file.1

/-- A dataset of the given columns, all from one file. The first one gives the number of
rows; of several under one name the last one counts. -/
def ofColumns (columns : List (Text × List Cell)) (source : Text) : Dataset :=
  concat [(source, Frame.ofColumns columns none)]

theorem rows_concat_nil : (concat []).rows = 0 := rfl

theorem rows_concat_cons (file : Text × Frame) (files : List (Text × Frame)) :
    (concat (file :: files)).rows = file.2.rows + (concat files).rows := by
  simp [rows, concat]

theorem column?_sourceColumn (dataset : Dataset) :
    dataset.column? sourceColumn = some (dataset.sources.map .text) := by
  simp [column?]

end Dataset

end RiskTally
