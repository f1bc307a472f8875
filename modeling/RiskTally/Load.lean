import RiskTally.Dataset

/-!
# Loading a folder

The regular files of a folder are taken in ascending order of their names. Every file
whose extension is `csv` is read; those with at least one row make up the dataset. A
file that cannot be read, or has no row, is left out and reported.

## Main results

* `Loading.names_reports`: every file is reported once, in ascending order of names.
* `Loading.load_eq_error_iff`: loading fails exactly when no file has a row.
-/

namespace RiskTally

/-- Why a dataset, a rules file or a watchlist could not be loaded. -/
inductive LoadFault where
  | folderMissing (path : Text)
  | noUsableFile (folder : Text)
  | rulesMissing (path : Text)
  | rulesNotUtf8
  | unreadable (fault : ReadFault)
  deriving DecidableEq, Repr

namespace LoadFault

/-- What the system says of a text file that is not UTF-8. -/
def notUtf8Text : Text :=
  "stream did not contain valid UTF-8".toList

/-- The wording of a fault. -/
def message : LoadFault → Text
  | folderMissing path => "Dataset directory not found: ".toList ++ path
  | noUsableFile folder => "No valid CSV files found in ".toList ++ folder
  | rulesMissing path => "Rules file not found: ".toList ++ path
  | rulesNotUtf8 => "IO error: ".toList ++ notUtf8Text
  | unreadable fault => "Decode error: ".toList ++ fault.message

/-- The fault of the system that lies under a fault, where there is one. -/
def cause? : LoadFault → Option Text
  | rulesNotUtf8 => some notUtf8Text
  | _ => none

end LoadFault

namespace Loading

/-- What became of one file of the folder. -/
inductive Outcome where
  /-- The file contributes its rows. -/
  | loaded (read : FileRead)
  /-- The name does not end in `.csv`. -/
  | notCsv
  /-- The file is a sheet without rows. -/
  | noRows
  /-- The file is no sheet in any of the encodings. -/
  | failed (fault : ReadFault)

/-- A file and what became of it. -/
structure Report where
  file : Text
  outcome : Outcome

/-- What follows the last point of a file name, unless that point begins the name. -/
def extension? (name : Text) : Option Text :=
  match name.reverse.dropWhile (· != '.') with
  | _ :: _ :: _ => some (name.reverse.takeWhile (· != '.')).reverse
  | _ => none

/-- The extension of the file name is `csv`, in any case. -/
def isCsv (name : Text) : Bool :=
  match extension? name with
  | some extension => Numeral.asciiLower extension == "csv".toList
  | none => false

/-- What becomes of a file of the given name and contents. -/
def outcome (settings : ReadSettings) (name : Text) (contents : Bytes) : Outcome :=
  if isCsv name then
    match FileRead.ofBytes settings contents with
    | .ok read => if read.frame.isEmpty then .noRows else .loaded read
    | .error fault => .failed fault
  else .notCsv

/-- The files in ascending order of their names. -/
def inOrder (files : List (Text × Bytes)) : List (Text × Bytes) :=
  files.mergeSort fun a b => Text.precedes a.1 b.1

/-- What became of every file, in ascending order of names. -/
def reports (settings : ReadSettings) (files : List (Text × Bytes)) : List Report :=
  (inOrder files).map fun file => ⟨file.1, outcome settings file.1 file.2⟩

/-- The frame of a file that was loaded. -/
def Report.frame? (report : Report) : Option (Text × Frame) :=
  match report.outcome with
  | .loaded read => some (report.file, read.frame)
  | _ => none

/-- The frames of the files that were loaded. -/
def frames (reports : List Report) : List (Text × Frame) :=
  reports.filterMap Report.frame?

/-- What is said of a file that should have been read and was left out. -/
def Report.fault? (report : Report) : Option Text :=
  match report.outcome with
  | .noRows => some "empty file".toList
  | .failed fault => some (LoadFault.unreadable fault).message
  | _ => none

/-- A line about every file that should have been read and was left out. -/
def warnings (reports : List Report) : List Text :=
  reports.filterMap fun report =>
    report.fault?.map fun fault => report.file ++ ": ".toList ++ fault

end Loading

/-- A dataset and what became of every file of its folder. -/
structure Loaded where
  dataset : Dataset
  reports : List Loading.Report

namespace Loading

/-- The dataset of the regular files of a folder, given in any order. -/
def load (settings : ReadSettings) (folder : Text) (files : List (Text × Bytes)) :
    Except LoadFault Loaded :=
  let reports := reports settings files
  match frames reports with
  | [] => .error (.noUsableFile folder)
  | frame :: frames => .ok ⟨Dataset.concat (frame :: frames), reports⟩

theorem names_reports (settings : ReadSettings) (files : List (Text × Bytes)) :
    (reports settings files).map Report.file = (inOrder files).map Prod.fst := by
  simp [reports]

theorem load_eq_error_iff {settings : ReadSettings} {folder : Text} {files : List (Text × Bytes)}
    {fault : LoadFault} :
    load settings folder files = .error fault ↔
      fault = .noUsableFile folder ∧ frames (reports settings files) = [] := by
  unfold load
  cases h : frames (reports settings files) with
  | nil => simp [h, eq_comm]
  | cons frame frames => simp [h]

example : isCsv "claims.CSV".toList = true := by decide
example : isCsv "d.x.csv".toList = true := by decide
example : isCsv ".csv".toList = false := by decide
example : isCsv "csv".toList = false := by decide

end Loading

end RiskTally
