import Mathlib.Data.List.Nodup
import Mathlib.Data.List.Perm.Subperm
import RiskTally.Proofs.ColumnTypes

/-!
# The columns of a sheet

The names of a header differ once the repeated ones have been renamed: one more repetition is
tried than names are taken, so that one of them is free.  Hence every column of a frame stands
under its own name, and its cells are told row by row from the raw cells at its place and from
one type, which all rows have a say in.

## Main results

* `Csv.freshName_not_mem`, `Csv.nodup_distinct`: a renamed column has a name of its own.
* `FileRead.frame_ofBytes`: what is read from a file is the frame of its sheet.
* `Frame.column?_ofSheet`: the column under a name, row by row.
* `FileRead.sheet?_encode_append`: a line at the end of a file is one more row of its sheet.
-/

namespace RiskTally

/-! ## Names of columns -/

namespace Csv

theorem natText_injective {i j : Nat} (h : natText i = natText j) : i = j := by
  have hread := readDigits?_natText i
  rw [h, readDigits?_natText] at hread
  exact (Option.some.inj hread).symm

theorem suffixed_injective (name : Text) : Function.Injective (suffixed name) := by
  intro i j h
  have hdigits : '.' :: natText i = '.' :: natText j := List.append_cancel_left h
  exact natText_injective (List.cons.inj hdigits).2

/-- Of one more repetition than names are taken some one is free. -/
theorem exists_free (taken : List Text) (name : Text) :
    ∃ candidate ∈ (List.range' 1 (taken.length + 1)).map (suffixed name), candidate ∉ taken := by
  by_contra hnone
  push Not at hnone
  have hnodup : ((List.range' 1 (taken.length + 1)).map (suffixed name)).Nodup :=
    (List.nodup_range' 1).map (suffixed_injective name)
  have hlength := (hnodup.subperm hnone).length_le
  rw [List.length_map, List.length_range'] at hlength
  omega

theorem freshName_not_mem (taken : List Text) (name : Text) : freshName taken name ∉ taken := by
  unfold freshName
  by_cases htaken : taken.contains name = true
  · rw [if_pos htaken]
    dsimp only
    obtain ⟨candidate, hcandidate, hfree⟩ := exists_free taken name
    cases hfound : ((List.range' 1 (taken.length + 1)).map (suffixed name)).find?
        fun candidate => !taken.contains candidate with
    | none => exact absurd (List.find?_eq_none.1 hfound candidate hcandidate) (by simpa using hfree)
    | some found => simpa using List.find?_some hfound
  · rw [if_neg htaken]
    simpa using htaken

theorem nodup_distinctFrom {taken : List Text} (h : taken.Nodup) (names : List Text) :
    (taken ++ distinctFrom taken names).Nodup := by
  induction names generalizing taken with
  | nil => simpa [distinctFrom] using h
  | cons name names ih =>
      have hfresh := freshName_not_mem taken name
      have htaken : (taken ++ [freshName taken name]).Nodup :=
        List.nodup_append.2 ⟨h, by simp, fun a ha b hb hab =>
          hfresh (List.mem_singleton.1 hb ▸ hab ▸ ha)⟩
      simpa [distinctFrom] using ih htaken

/-- The names of a header differ. -/
theorem nodup_distinct (names : List Text) : (distinct names).Nodup :=
  nodup_distinctFrom List.nodup_nil names

namespace Sheet

theorem nodup_header {text : Text} {sheet : Sheet} (h : read text = .ok sheet) :
    sheet.header.Nodup := by
  unfold read ofRecords at h
  split at h
  · exact absurd h (by simp)
  · split at h
    · obtain rfl := Except.ok.inj h
      exact nodup_distinct _
    · exact absurd h (by simp)

/-! ## Cells by name -/

/-- The raw cell that a row has under a name, absent if the header lacks it. -/
def cellUnder (header : List Text) (name : Text) (row : List (Option Text)) : Option Text :=
  (header.idxOf? name).bind fun place => row[place]?.join

/-- The type of the column under a name. -/
def kindUnder (settings : ReadSettings) (sheet : Sheet) (name : Text) : ColumnKind :=
  inferKind settings (sheet.rows.map (cellUnder sheet.header name))

/-- The value that a row has under a name. -/
def valueUnder (settings : ReadSettings) (sheet : Sheet) (name : Text)
    (row : List (Option Text)) : Cell :=
  typeCell settings (sheet.kindUnder settings name) (cellUnder sheet.header name row)

theorem valueUnder_of_not_mem {settings : ReadSettings} {sheet : Sheet} {name : Text}
    (h : name ∉ sheet.header) (row : List (Option Text)) :
    sheet.valueUnder settings name row = .null := by
  rw [valueUnder, cellUnder, List.idxOf?_eq_none_iff.2 h]
  rfl

/-- The sheet with one more row. -/
def addRow (sheet : Sheet) (row : List (Option Text)) : Sheet :=
  { sheet with rows := sheet.rows ++ [row] }

/-- One more row joins the type of its own cell to that of a column. -/
theorem kindUnder_addRow (settings : ReadSettings) (sheet : Sheet) (row : List (Option Text))
    (name : Text) :
    (sheet.addRow row).kindUnder settings name =
      sheet.kindUnder settings name ⊔ inferKind settings [cellUnder sheet.header name row] := by
  unfold kindUnder addRow
  dsimp only
  rw [List.map_append, inferKind_append]
  rfl

end Sheet

end Csv

/-! ## Columns of a frame -/

namespace Frame

variable (settings : ReadSettings) {sheet : Csv.Sheet}

/-- Under names that differ no column takes the place of another. -/
theorem columns_ofSheet (h : sheet.header.Nodup) :
    (ofSheet settings sheet).columns = sheet.header.zipIdx.map fun entry =>
      (entry.1, typeCells settings (rawColumn sheet.rows entry.2)) := by
  refine Keyed.ofList_of_nodup ?_
  rw [List.map_map]
  exact (List.zipIdx_map_fst 0 sheet.header).symm ▸ h

theorem keys_ofSheet (h : sheet.header.Nodup) :
    (ofSheet settings sheet).columns.keys = sheet.header := by
  rw [columns_ofSheet settings h, Keyed.keys, List.map_map]
  exact List.zipIdx_map_fst 0 sheet.header

/-- The column at a place is found under the name at that place. -/
theorem column?_of_place (h : sheet.header.Nodup) {place : Nat} {name : Text}
    (hplace : sheet.header[place]? = some name) :
    (ofSheet settings sheet).column? name =
      some (typeCells settings (rawColumn sheet.rows place)) := by
  have hdistinct : (ofSheet settings sheet).columns.keys.Nodup := by
    rwa [keys_ofSheet settings h]
  have hmem : (name, place) ∈ sheet.header.zipIdx := List.mem_zipIdx_iff_getElem?.2 hplace
  refine Keyed.get?_of_mem hdistinct ?_
  rw [columns_ofSheet settings h]
  exact List.mem_map_of_mem hmem

/-- The column under a name, if the header has it. -/
theorem column?_ofSheet (h : sheet.header.Nodup) (name : Text) :
    (ofSheet settings sheet).column? name =
      if name ∈ sheet.header then some (sheet.rows.map (sheet.valueUnder settings name))
      else none := by
  cases hfirst : sheet.header.idxOf? name with
  | none =>
      have hname : name ∉ sheet.header := List.idxOf?_eq_none_iff.1 hfirst
      rw [if_neg hname]
      exact Keyed.get?_eq_none_iff.2 (by rwa [keys_ofSheet settings h])
  | some place =>
      obtain ⟨hlt, hentry, -⟩ := List.idxOf?_eq_some_iff.1 hfirst
      have hname : name ∈ sheet.header := hentry ▸ List.getElem_mem hlt
      have hplace : sheet.header[place]? = some name :=
        List.getElem?_eq_some_iff.2 ⟨hlt, hentry⟩
      have hcells : rawColumn sheet.rows place =
          sheet.rows.map (Csv.Sheet.cellUnder sheet.header name) :=
        List.map_congr_left fun row _ => by
          rw [Csv.Sheet.cellUnder, hfirst]
          rfl
      rw [if_pos hname, column?_of_place settings h hplace, hcells]
      exact congrArg some (List.map_map ..)

end Frame

/-! ## The sheet of a file -/

/-- The sheet that bytes hold in an encoding. -/
def Encoding.sheet? (bytes : Bytes) (encoding : Encoding) : Option Csv.Sheet :=
  match encoding.decode bytes with
  | .ok text => (Csv.Sheet.read text).toOption
  | .error _ => none

namespace FileRead

/-- The sheet of a file, in the first of the configured encodings in which it is one. -/
def sheet? (settings : ReadSettings) (bytes : Bytes) : Option Csv.Sheet :=
  settings.encodings.findSome? (Encoding.sheet? bytes)

theorem frame_attempt (settings : ReadSettings) (bytes : Bytes) (encoding : Encoding) :
    (attempt settings bytes encoding).toOption.map FileRead.frame =
      (encoding.sheet? bytes).map (Frame.ofSheet settings) := by
  unfold attempt Encoding.sheet?
  cases encoding.decode bytes with
  | error fault => rfl
  | ok text =>
      dsimp only
      cases Csv.Sheet.read text <;> rfl

theorem frame_firstOf (settings : ReadSettings) (bytes : Bytes) (fault : ReadFault)
    (encodings : List Encoding) :
    (firstOf settings bytes fault encodings).toOption.map FileRead.frame =
      (encodings.findSome? (Encoding.sheet? bytes)).map (Frame.ofSheet settings) := by
  induction encodings generalizing fault with
  | nil => rfl
  | cons encoding encodings ih =>
      have hattempt := frame_attempt settings bytes encoding
      rw [firstOf, List.findSome?_cons]
      cases hsheet : encoding.sheet? bytes with
      | none =>
          rw [hsheet] at hattempt
          cases hread : attempt settings bytes encoding with
          | ok read => simp [hread, Except.toOption] at hattempt
          | error fault => exact ih fault
      | some sheet =>
          rw [hsheet] at hattempt
          cases hread : attempt settings bytes encoding with
          | ok read => rwa [hread] at hattempt
          | error fault => simp [hread, Except.toOption] at hattempt

/-- A file is read as the frame of its sheet, if it has one. -/
theorem frame_ofBytes (settings : ReadSettings) (bytes : Bytes) :
    (ofBytes settings bytes).toOption.map FileRead.frame =
      (sheet? settings bytes).map (Frame.ofSheet settings) :=
  frame_firstOf settings bytes .noEncodings settings.encodings

theorem nodup_header {settings : ReadSettings} {bytes : Bytes} {sheet : Csv.Sheet}
    (h : sheet? settings bytes = some sheet) : sheet.header.Nodup := by
  obtain ⟨encoding, -, hsheet⟩ := List.exists_of_findSome?_eq_some h
  unfold Encoding.sheet? at hsheet
  cases hdecode : encoding.decode bytes with
  | error fault => simp [hdecode] at hsheet
  | ok text =>
      rw [hdecode] at hsheet
      dsimp only at hsheet
      cases hread : Csv.Sheet.read text with
      | error fault => simp [hread, Except.toOption] at hsheet
      | ok read =>
          rw [hread] at hsheet
          obtain rfl := Option.some.inj hsheet
          exact Csv.Sheet.nodup_header hread

end FileRead

/-! ## A line at the end of a file -/

namespace Csv

/-- A line that follows whole lines leaves its record. -/
theorem records_append_line {text line ending : Text} {fields : List Text}
    (htext : (Scanner.start.run text).AtLine) (hline : RecordText fields line)
    (hblank : fields ≠ [[]]) (hending : ending ∈ lineEnds) :
    records (text ++ line ++ ending) = records text ++ [⟨fields, true⟩] := by
  obtain ⟨hafter, hkept⟩ := Scanner.run_line htext hline hblank hending
  show (Scanner.start.run (text ++ line ++ ending)).finish.kept =
    (Scanner.start.run text).finish.kept ++ [⟨fields, true⟩]
  rw [Scanner.run_append, Scanner.run_append, Scanner.finish_of_atLine hafter, hkept,
    Scanner.finish_of_atLine htext]

/-- A record at the end that fits is one more row. -/
theorem Sheet.ofRecords_concat {before : List Record} {sheet : Sheet} {fields : List Text}
    (h : ofRecords before = .ok sheet) (hfits : fields.length ≤ sheet.header.length) :
    ofRecords (before ++ [⟨fields, true⟩]) =
      .ok (sheet.addRow (padTo sheet.header.length fields)) := by
  cases before with
  | nil => exact absurd h (by simp [ofRecords])
  | cons header before =>
      simp only [ofRecords, List.partition_eq_filter_filter] at h ⊢
      split at h
      · rename_i hcomplete
        obtain rfl := Except.ok.inj h
        dsimp only at hfits
        rw [length_distinct] at hfits
        have hkept : Record.fits header.fields.length ⟨fields, true⟩ = true := by
          simpa [Record.fits] using hfits
        simp [addRow, length_distinct, hcomplete, hkept]
      · exact absurd h (by simp)

/-- A line at the end of a text is one more row of its sheet. -/
theorem Sheet.read_append_line {text line ending : Text} {fields : List Text} {sheet : Sheet}
    (h : read text = .ok sheet) (htext : (Scanner.start.run text).AtLine)
    (hline : RecordText fields line) (hblank : fields ≠ [[]])
    (hfits : fields.length ≤ sheet.header.length) (hending : ending ∈ lineEnds) :
    read (text ++ line ++ ending) = .ok (sheet.addRow (padTo sheet.header.length fields)) := by
  rw [read, records_append_line htext hline hblank hending]
  exact ofRecords_concat h hfits

end Csv

/-- A line at the end of a UTF-8 file is one more row of its sheet. -/
theorem FileRead.sheet?_encode_append {settings : ReadSettings} {encodings : List Encoding}
    (hfirst : settings.encodings = .utf8 :: encodings) {text line ending : Text}
    {fields : List Text} {sheet : Csv.Sheet}
    (h : Csv.Sheet.read (Encoding.dropMark text) = .ok sheet)
    (htext : (Csv.Scanner.start.run (Encoding.dropMark text)).AtLine)
    (hline : Csv.RecordText fields line) (hblank : fields ≠ [[]])
    (hfits : fields.length ≤ sheet.header.length) (hending : ending ∈ Csv.lineEnds) :
    sheet? settings (Utf8.encode text) = some sheet ∧
      sheet? settings (Utf8.encode (text ++ line ++ ending)) =
        some (sheet.addRow (Csv.padTo sheet.header.length fields)) := by
  have hsheet : ∀ {whole : Text} {sheet : Csv.Sheet},
      Csv.Sheet.read (Encoding.dropMark whole) = .ok sheet →
        sheet? settings (Utf8.encode whole) = some sheet := by
    intro whole sheet hread
    have hdecode : Encoding.utf8.decode (Utf8.encode whole) = .ok (Encoding.dropMark whole) := by
      rw [Encoding.decode, Utf8.decode_encode]
      rfl
    rw [sheet?, hfirst, List.findSome?_cons, Encoding.sheet?, hdecode]
    dsimp only
    rw [hread]
    rfl
  refine ⟨hsheet h, hsheet ?_⟩
  cases text with
  | nil => exact absurd h (by simp [Encoding.dropMark, Csv.Sheet.read, Csv.Sheet.ofRecords,
      Csv.records, Csv.Scanner.start, Csv.Scanner.run, Csv.Scanner.finish])
  | cons c text =>
      have hdrop : Encoding.dropMark (c :: text ++ line ++ ending) =
          Encoding.dropMark (c :: text) ++ line ++ ending := by
        unfold Encoding.dropMark
        dsimp only [List.cons_append]
        split <;> rfl
      rw [hdrop]
      exact Csv.Sheet.read_append_line h htext hline hblank hfits hending

end RiskTally
