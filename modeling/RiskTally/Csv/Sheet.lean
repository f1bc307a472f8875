import RiskTally.Csv.Record
import RiskTally.Csv.Header
import RiskTally.Text.Utf8

/-!
# Sheets

A sheet is a header and rows as wide as the header. The first record that is not blank
is the header. A later record that is too long, or whose last quote was never closed, is
skipped and counted; a short one is padded with absent cells.

## Main results

* `Sheet.length_of_mem_rows`: every row is as wide as the header.
-/

namespace RiskTally

/-- Why a file could not be read as a sheet. -/
inductive ReadFault where
  | badUtf8 (fault : Utf8.Fault)
  | unterminatedHeader
  | noColumns
  | noEncodings
  deriving DecidableEq, Repr

/-- The wording of a fault. -/
def ReadFault.message : ReadFault → Text
  | badUtf8 (.invalid length index) =>
    "invalid UTF-8: invalid utf-8 sequence of ".toList ++ natText length ++
      " bytes from index ".toList ++ natText index
  | badUtf8 (.incomplete index) =>
    "invalid UTF-8: incomplete utf-8 byte sequence from index ".toList ++ natText index
  | unterminatedHeader => "unterminated quote in header".toList
  | noColumns => "no columns to parse from file".toList
  | noEncodings => "no encodings configured".toList

namespace Csv

/-- The header and the rows of a comma-separated text. -/
structure Sheet where
  header : List Text
  /-- The cells of each row; an absent cell pads a short record. -/
  rows : List (List (Option Text))
  /-- How many records were too long or never closed. -/
  skipped : Nat
  deriving DecidableEq, Repr

/-- The record is complete and no wider than the header. -/
def Record.fits (width : Nat) (record : Record) : Bool :=
  record.complete && record.fields.length ≤ width

/-- The fields followed by absent cells up to the width. -/
def padTo (width : Nat) (fields : List Text) : List (Option Text) :=
  fields.map some ++ List.replicate (width - fields.length) none

/-- The sheet of a header record and the records below it. -/
def Sheet.ofRecords : List Record → Except ReadFault Sheet
  | [] => .error .noColumns
  | header :: records =>
    if header.complete then
      let width := header.fields.length
      let (kept, dropped) := records.partition (·.fits width)
      .ok ⟨distinct header.fields, kept.map fun record => padTo width record.fields, dropped.length⟩
    else .error .unterminatedHeader

/-- The sheet that a text holds. -/
def Sheet.read (text : Text) : Except ReadFault Sheet :=
  Sheet.ofRecords (records text)

theorem length_padTo {width : Nat} {fields : List Text} (h : fields.length ≤ width) :
    (padTo width fields).length = width := by
  simp [padTo]
  omega

theorem Sheet.length_of_mem_rows {text : Text} {sheet : Sheet} (h : Sheet.read text = .ok sheet)
    {row : List (Option Text)} (hrow : row ∈ sheet.rows) : row.length = sheet.header.length := by
  unfold Sheet.read Sheet.ofRecords at h
  split at h
  · exact absurd h (by simp)
  · split at h
    · simp only [List.partition_eq_filter_filter, Except.ok.injEq] at h
      subst h
      obtain ⟨record, hrecord, rfl⟩ := List.mem_map.1 hrow
      have hfits := (List.mem_filter.1 hrecord).2
      simp only [Record.fits, Bool.and_eq_true, decide_eq_true_eq] at hfits
      rw [length_padTo hfits.2, length_distinct]
    · exact absurd h (by simp)

end Csv

end RiskTally
