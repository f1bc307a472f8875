import RiskTally.Column
import RiskTally.Csv.Sheet
import RiskTally.Keyed

/-!
# Frames

A frame is the typed columns of one file. A file is read in the first of the configured
encodings in which it is a sheet.

## Main results

* `Frame.rectangular_ofSheet`: the columns of a frame that was read are as long as it
  has rows.
-/

namespace RiskTally

/-- The typed columns of one file and its number of rows. -/
structure Frame where
  columns : Keyed (List Cell)
  rows : Nat

namespace Frame

/-- The frame has no rows. -/
def isEmpty (frame : Frame) : Bool :=
  frame.rows == 0

/-- The cells of a column. -/
def column? (frame : Frame) (name : Text) : Option (List Cell) :=
  frame.columns.get? name

/-- Every column is as long as the frame has rows. -/
def Rectangular (frame : Frame) : Prop :=
  ∀ column ∈ frame.columns, column.2.length = frame.rows

/-- The raw cells of the column at a place. -/
def rawColumn (rows : List (List (Option Text))) (place : Nat) : List (Option Text) :=
  rows.map fun row => (row[place]?).join

/-- The columns of a sheet, typed. -/
def ofSheet (settings : ReadSettings) (sheet : Csv.Sheet) : Frame where
  columns := Keyed.ofList (sheet.header.zipIdx.map fun (name, place) =>
    (name, typeCells settings (rawColumn sheet.rows place)))
  rows := sheet.rows.length

/-- A frame of columns, the first of which gives the number of rows unless it is given. -/
def ofColumns (columns : List (Text × List Cell)) (rows : Option Nat) : Frame where
  columns := Keyed.ofList columns
  rows := rows.getD ((columns.head?.map fun column => column.2.length).getD 0)

end Frame

/-- A file that was read: its frame, the encoding in which it was a sheet, and the number
of its records that were skipped. -/
structure FileRead where
  frame : Frame
  encoding : Encoding
  skipped : Nat

namespace FileRead

/-- Reads a file in one encoding. -/
def attempt (settings : ReadSettings) (bytes : Bytes) (encoding : Encoding) :
    Except ReadFault FileRead :=
  match encoding.decode bytes with
  | .error fault => .error (.badUtf8 fault)
  | .ok text =>
    match Csv.Sheet.read text with
    | .error fault => .error fault
    | .ok sheet => .ok ⟨Frame.ofSheet settings sheet, encoding, sheet.skipped⟩

/-- Reads a file in the first encoding in which it is a sheet; when there is none, the
fault is that of the last attempt. -/
def firstOf (settings : ReadSettings) (bytes : Bytes) (fault : ReadFault) :
    List Encoding → Except ReadFault FileRead
  | [] => .error fault
  | encoding :: encodings =>
    match attempt settings bytes encoding with
    | .ok read => .ok read
    | .error fault => firstOf settings bytes fault encodings

/-- Reads a file in the configured encodings. -/
def ofBytes (settings : ReadSettings) (bytes : Bytes) : Except ReadFault FileRead :=
  firstOf settings bytes .noEncodings settings.encodings

end FileRead

/-! ## Shape -/

theorem Frame.rectangular_ofSheet (settings : ReadSettings) (sheet : Csv.Sheet) :
    (Frame.ofSheet settings sheet).Rectangular := by
  refine Keyed.forall_mem_ofList (P := fun cells : List Cell => cells.length = sheet.rows.length) ?_
  intro entry h
  obtain ⟨⟨name, place⟩, _, rfl⟩ := List.mem_map.1 h
  simp [length_typeCells, Frame.rawColumn]

end RiskTally
