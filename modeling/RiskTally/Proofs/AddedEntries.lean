import RiskTally.Proofs.WatchlistRows

/-!
# Rows added to a watchlist

What a row says of the person that it names is told from its own cells, but through the types
of the columns, in which all rows have a say.  Another row can only widen the type of the
scores.  A score that was read as an integer survives that as long as a number can hold it, and
among texts it is read as an integer again.  A number with a fraction or a power of ten does not
survive among texts, nor does a truth value: these count as nothing from then on.  So one cell
that is no score takes away the scores of other persons.

The names have a type as well.  As long as all of them are numbers a name is known by the number
that it says, so that 007 is listed under 7; once a word comes among them each is known as it is
written, and what was listed under 7 is listed under 007.

## Main results

* `Watchlist.scoreAs_eq_iff`: which texts keep their score in a column of a wider type.
* `Watchlist.entry?_of_nodup`: what a sheet lists under a name that only one row has.
* `Watchlist.stored_score_kept_iff`: whose score one more row leaves as it is.
* `Watchlist.malformed_score_takes_another`: a file in which it does not.
* `Watchlist.nameOf?_addRow_eq_iff`: whose name one more row leaves as it is.
* `Watchlist.entry_moves`: where the entry is found of a row whose name changes.
-/

namespace RiskTally

namespace Watchlist

/-! ## Scores under a wider type -/

/-- The score that a text has in a column of a type. -/
def scoreAs (kind : ColumnKind) (text : Text) : Int64 :=
  scoreOf ((kind.read? text).getD .null)

/-- The text has the same score in a column of a wider type.  Integers do as far as numbers are
exact.  Among texts numbers do whose whole part is the integer that is written, or zero where
none is, and of the truth values the one that counts nothing. -/
def KeepsScore (old new : ColumnKind) (text : Text) : Prop :=
  match old, new with
  | .integer, .float => (readFloat? (Text.trim text)).map wholePart = readInteger? (Text.trim text)
  | .float, .text =>
    (readFloat? (Text.trim text)).map wholePart = some ((readInteger? (Text.trim text)).getD 0)
  | .boolean, .text => ColumnKind.readBoolean? text = some false
  | _, _ => True

instance (old new : ColumnKind) (text : Text) : Decidable (KeepsScore old new text) := by
  unfold KeepsScore
  split <;> infer_instance

theorem scoreAs_text (text : Text) :
    scoreAs .text text = (readInteger? (Text.trim text)).getD 0 := rfl

theorem scoreAs_integer {text : Text} {i : Int64} (h : readInteger? (Text.trim text) = some i) :
    scoreAs .integer text = i := by
  simp [scoreAs, ColumnKind.read?, h, scoreOf]

theorem scoreAs_float {text : Text} {f : Float} (h : readFloat? (Text.trim text) = some f) :
    scoreAs .float text = wholePart f := by
  simp [scoreAs, ColumnKind.read?, h, scoreOf]

theorem scoreAs_boolean {text : Text} {b : Bool} (h : ColumnKind.readBoolean? text = some b) :
    scoreAs .boolean text = if b then 1 else 0 := by
  simp [scoreAs, ColumnKind.read?, h, scoreOf]

/-- A value of the old type has the same score under a wider type exactly in these cases. -/
theorem scoreAs_eq_iff {old new : ColumnKind} {text : Text} (hle : old ≤ new)
    (hold : old.Holds text) : scoreAs new text = scoreAs old text ↔ KeepsScore old new text := by
  obtain ⟨hne, hread⟩ := hold
  rcases hle.eq_or_lt with rfl | hlt
  · exact iff_of_true rfl (by cases old <;> trivial)
  rcases ColumnKind.cases_of_lt hlt with rfl | ⟨rfl, hnew⟩ | ⟨rfl, rfl⟩ | ⟨rfl, rfl⟩
  · exact absurd rfl hne
  · -- An integer is a number as well, and among texts it is read as it was.
    have hfloat := ColumnKind.isSome_read?_float hread
    simp only [ColumnKind.read?, Option.isSome_map] at hread hfloat
    obtain ⟨i, hi⟩ := Option.isSome_iff_exists.1 hread
    obtain ⟨f, hf⟩ := Option.isSome_iff_exists.1 hfloat
    rw [scoreAs_integer hi]
    rcases hnew with rfl | rfl
    · simp [scoreAs_float hf, KeepsScore, hi, hf]
    · exact iff_of_true (by simp [scoreAs_text, hi]) trivial
  · simp only [ColumnKind.read?, Option.isSome_map] at hread
    obtain ⟨f, hf⟩ := Option.isSome_iff_exists.1 hread
    simp [scoreAs_float hf, scoreAs_text, KeepsScore, hf, eq_comm]
  · -- A truth value is no integer, so that among texts it counts nothing.
    have hinteger : readInteger? (Text.trim text) = none := by
      simpa [ColumnKind.read?] using (ColumnKind.read?_of_boolean hread).1
    simp only [ColumnKind.read?, Option.isSome_map] at hread
    obtain ⟨b, hb⟩ := Option.isSome_iff_exists.1 hread
    rw [scoreAs_boolean hb]
    cases b <;> simp [scoreAs_text, KeepsScore, hinteger, hb]

example : KeepsScore .float .text " 12 ".toList := by decide +kernel
example : ¬ KeepsScore .float .text "1e2".toList := by decide +kernel
example : ¬ KeepsScore .integer .float "9007199254740993".toList := by decide +kernel
example : ¬ KeepsScore .boolean .text "TRUE".toList := by decide

/-! ## Names of rows -/

/-- Where the rows differ in their names, each is listed as it stands. -/
theorem entry?_of_nodup {settings : ReadSettings} {sheet : Csv.Sheet} (h : sheet.header.Nodup)
    (hlists : Lists sheet) (hdistinct : (names settings sheet).Nodup) {row : List (Option Text)}
    (hrow : row ∈ sheet.rows) {name : Text} (hname : nameOf? settings sheet row = some name) :
    entry? (ofFrame (Frame.ofSheet settings sheet)) name = some (entryOf settings sheet row) := by
  let entries : Keyed WatchlistEntry := sheet.rows.filterMap fun row =>
    (nameOf? settings sheet row).map fun name => (name, entryOf settings sheet row)
  have hkeys : entries.keys = names settings sheet := by
    simp [entries, Keyed.keys, names, List.map_filterMap, Function.comp_def]
  have hnodup : entries.keys.Nodup := hkeys ▸ hdistinct
  have hmem : (name, entryOf settings sheet row) ∈ entries :=
    List.mem_filterMap.2 ⟨row, hrow, by rw [hname]; rfl⟩
  rw [ofFrame_ofSheet settings h, if_pos hlists, entry?, Keyed.ofList_of_nodup hnodup]
  exact Keyed.get?_of_mem hnodup hmem

/-- A name that does not widen the type of the names leaves the others as they are. -/
theorem nameOf?_addRow {settings : ReadSettings} {sheet : Csv.Sheet} {row : List (Option Text)}
    (h : inferKind settings [Csv.Sheet.cellUnder sheet.header nameColumn row] ≤
      sheet.kindUnder settings nameColumn) (other : List (Option Text)) :
    nameOf? settings (sheet.addRow row) other = nameOf? settings sheet other := by
  rw [nameOf?, Csv.Sheet.valueUnder, Csv.Sheet.kindUnder_addRow, sup_of_le_left h]
  rfl

/-- The names with one more row, if the others are kept. -/
theorem names_addRow {settings : ReadSettings} {sheet : Csv.Sheet} {row : List (Option Text)}
    (h : ∀ other ∈ sheet.rows,
      nameOf? settings (sheet.addRow row) other = nameOf? settings sheet other) :
    names settings (sheet.addRow row) =
      names settings sheet ++ (nameOf? settings (sheet.addRow row) row).toList := by
  have hrows : (sheet.addRow row).rows = sheet.rows ++ [row] := rfl
  rw [names, hrows, List.filterMap_append, List.filterMap_congr h, names]
  cases hname : nameOf? settings (sheet.addRow row) row <;> simp [hname]

/-! ## Scores of rows -/

/-- The cells that a row has are values of the types of their columns. -/
theorem holds_cellUnder {settings : ReadSettings} {sheet : Csv.Sheet} {row : List (Option Text)}
    (hrow : row ∈ sheet.rows) {column text : Text}
    (hcell : present? settings (Csv.Sheet.cellUnder sheet.header column row) = some text) :
    (sheet.kindUnder settings column).Holds text := by
  have hmem : text ∈ (sheet.rows.map
      (Csv.Sheet.cellUnder sheet.header column)).filterMap (present? settings) :=
    List.mem_filterMap.2 ⟨_, List.mem_map_of_mem hrow, hcell⟩
  exact ColumnKind.infer_le_iff.1 le_rfl text hmem

theorem kindUnder_le_addRow (settings : ReadSettings) (sheet : Csv.Sheet)
    (row : List (Option Text)) (column : Text) :
    sheet.kindUnder settings column ≤ (sheet.addRow row).kindUnder settings column := by
  rw [Csv.Sheet.kindUnder_addRow]
  exact le_sup_left

theorem score_entryOf (settings : ReadSettings) (sheet : Csv.Sheet) (row : List (Option Text)) :
    (entryOf settings sheet row).score =
      match present? settings (Csv.Sheet.cellUnder sheet.header scoreColumn row) with
      | none => 0
      | some text => scoreAs (sheet.kindUnder settings scoreColumn) text := by
  rw [entryOf, Csv.Sheet.valueUnder, typeCell]
  cases present? settings (Csv.Sheet.cellUnder sheet.header scoreColumn row) <;> rfl

/-- One more row leaves the score of a row as it is exactly if the text of the score keeps it
under the type that the column has then. -/
theorem score_entryOf_addRow {settings : ReadSettings} {sheet : Csv.Sheet}
    {row other : List (Option Text)} (hother : other ∈ sheet.rows) :
    (entryOf settings (sheet.addRow row) other).score = (entryOf settings sheet other).score ↔
      ∀ text, present? settings (Csv.Sheet.cellUnder sheet.header scoreColumn other) = some text →
        KeepsScore (sheet.kindUnder settings scoreColumn)
          ((sheet.addRow row).kindUnder settings scoreColumn) text := by
  have hheader : (sheet.addRow row).header = sheet.header := rfl
  rw [score_entryOf, score_entryOf, hheader]
  cases hcell : present? settings (Csv.Sheet.cellUnder sheet.header scoreColumn other) with
  | none => simp
  | some text =>
      have hle := kindUnder_le_addRow settings sheet row scoreColumn
      simpa using scoreAs_eq_iff hle (holds_cellUnder hother hcell)

/-- A file of names, all different, and scores, and the same with one more row that has another
name and leaves those of the others as they are.  Both are loaded, every person stays listed,
and exactly those keep the score whose text keeps it under the type that the scores have with
the cell of the new row. -/
theorem stored_score_kept_iff {settings : ReadSettings} {contents added : Bytes}
    {sheet : Csv.Sheet} {row : List (Option Text)}
    (hsheet : FileRead.sheet? settings contents = some sheet)
    (hadded : FileRead.sheet? settings added = some (sheet.addRow row))
    (hlists : nameColumn ∈ sheet.header ∧ scoreColumn ∈ sheet.header)
    (hdistinct : (names settings sheet).Nodup)
    (hkept : ∀ other ∈ sheet.rows,
      nameOf? settings (sheet.addRow row) other = nameOf? settings sheet other)
    (hnew : ∀ name ∈ nameOf? settings (sheet.addRow row) row, name ∉ names settings sheet) :
    ∃ before after : Watchlist, ofFile settings (some contents) = .ok before ∧
      ofFile settings (some added) = .ok after ∧
      ∀ other ∈ sheet.rows, ∀ name, nameOf? settings sheet other = some name →
        ∃ stored kept, before.entry? name = some stored ∧ after.entry? name = some kept ∧
          (kept.score = stored.score ↔
            ∀ text, present? settings (Csv.Sheet.cellUnder sheet.header scoreColumn other) =
                some text →
              KeepsScore (sheet.kindUnder settings scoreColumn)
                ((sheet.addRow row).kindUnder settings scoreColumn) text) := by
  have hdistinct' : (names settings (sheet.addRow row)).Nodup := by
    rw [names_addRow hkept]
    refine List.nodup_append.2 ⟨hdistinct, ?_, ?_⟩
    · cases nameOf? settings (sheet.addRow row) row <;> simp
    · intro name hname other hother hsame
      subst hsame
      exact hnew name (Option.mem_toList.1 hother) hname
  refine ⟨_, _, ofFile_some_eq_ok_iff.2 ⟨sheet, hsheet, rfl⟩,
    ofFile_some_eq_ok_iff.2 ⟨_, hadded, rfl⟩, fun other hother name hname => ?_⟩
  have hother' : other ∈ (sheet.addRow row).rows := List.mem_append_left _ hother
  have hname' : nameOf? settings (sheet.addRow row) other = some name :=
    (hkept other hother).trans hname
  exact ⟨_, _, entry?_of_nodup (FileRead.nodup_header hsheet) hlists hdistinct hother hname,
    entry?_of_nodup (FileRead.nodup_header hadded) hlists hdistinct' hother' hname',
    score_entryOf_addRow hother⟩

/-- A line with a malformed score after two numbers: the one that is written as an integer
keeps its score, the other loses it. -/
theorem stored_score_kept_iff_two_numbers :
    ∃ before after : Watchlist,
      ofFile .default (some (Utf8.encode
        "full_name,watchlist_score\nE F,12.9\nG H,3\n".toList)) = .ok before ∧
      ofFile .default (some (Utf8.encode
        "full_name,watchlist_score\nE F,12.9\nG H,3\nA B,high\n".toList)) = .ok after ∧
      (∃ stored kept, before.entry? "G H".toList = some stored ∧
        after.entry? "G H".toList = some kept ∧ kept.score = stored.score) ∧
      ∃ stored kept, before.entry? "E F".toList = some stored ∧
        after.entry? "E F".toList = some kept ∧ kept.score ≠ stored.score := by
  let text : Text := "full_name,watchlist_score\nE F,12.9\nG H,3\n".toList
  let number : List (Option Text) := [some "E F".toList, some "12.9".toList]
  let integer : List (Option Text) := [some "G H".toList, some "3".toList]
  let sheet : Csv.Sheet :=
    { header := [nameColumn, scoreColumn]
      rows := [number, integer]
      skipped := 0 }
  let malformed : List Text := ["A B".toList, "high".toList]
  have hfirst : ReadSettings.default.encodings = .utf8 :: [.latin1] := rfl
  have hread : Csv.Sheet.read (Encoding.dropMark text) = .ok sheet := by rfl
  have htext : (Csv.Scanner.start.run (Encoding.dropMark text)).AtLine :=
    ⟨⟨.inl (by decide +kernel), by decide +kernel⟩, by decide +kernel⟩
  have hfields : malformed ≠ [] := by decide
  have hending : ['\n'] ∈ Csv.lineEnds := by decide
  obtain ⟨hsheet, hadded⟩ := FileRead.sheet?_encode_append hfirst hread htext
    (Csv.recordText_intercalate hfields) (by decide) (by decide) hending
  have hname : inferKind .default [Csv.Sheet.cellUnder sheet.header nameColumn
      (Csv.padTo sheet.header.length malformed)] ≤ sheet.kindUnder .default nameColumn := by
    decide
  obtain ⟨before, after, hbefore, hafter, hscores⟩ := stored_score_kept_iff hsheet hadded
    (by decide) (by decide) (fun other _ => nameOf?_addRow hname other) (by decide)
  obtain ⟨stored, kept, hstored, hlisted, hscore⟩ :=
    hscores integer (by decide) "G H".toList (by decide)
  obtain ⟨stored', kept', hstored', hlisted', hscore'⟩ :=
    hscores number (by decide) "E F".toList (by decide)
  refine ⟨before, after, hbefore, hafter, ⟨stored, kept, hstored, hlisted, hscore.2 ?_⟩,
    ⟨stored', kept', hstored', hlisted', fun hsame => ?_⟩⟩
  · intro score hcell
    obtain rfl : "3".toList = score := Option.some.inj hcell
    decide +kernel
  · exact absurd (hscore'.1 hsame "12.9".toList (by decide)) (by decide +kernel)

/-- A score of 12.9 counts twelve, and nothing once another row says that a score is high. -/
theorem malformed_score_takes_another :
    ∃ before after : Watchlist,
      ofFile .default (some (Utf8.encode
        "full_name,watchlist_score\nE F,12.9\n".toList)) = .ok before ∧
      ofFile .default (some (Utf8.encode
        "full_name,watchlist_score\nE F,12.9\nG H,high\n".toList)) = .ok after ∧
      before.score "E F".toList = 12 ∧ after.score "E F".toList = 0 ∧
      after.score "G H".toList = 0 := by
  let sheet : Csv.Sheet :=
    { header := [nameColumn, scoreColumn]
      rows := [[some "E F".toList, some "12.9".toList]]
      skipped := 0 }
  let malformed : List (Option Text) := [some "G H".toList, some "high".toList]
  exact ⟨_, _, ofFile_some_eq_ok_iff.2 ⟨sheet, rfl, rfl⟩,
    ofFile_some_eq_ok_iff.2 ⟨sheet.addRow malformed, rfl, rfl⟩, by decide +kernel,
    by decide +kernel, by decide +kernel⟩

/-! ## Names under a wider type -/

/-- The canonical name that a text says in a column of a type. -/
def nameAs (kind : ColumnKind) (text : Text) : Option Text :=
  ((kind.read? text).getD .null).toText?.map normalizeName

/-- The text says the same name in a column of a wider type.  A number says itself, so that it
has to be written as numbers are shown if it is to keep its name among texts.  A truth value is
known by its word, which is the same name in any letters. -/
def KeepsName (old new : ColumnKind) (text : Text) : Prop :=
  match old, new with
  | .integer, .float =>
    (readFloat? (Text.trim text)).map (fun f => normalizeName (Cell.floatText f)) =
      (readInteger? (Text.trim text)).map fun i => normalizeName (intText i.toInt)
  | .integer, .text =>
    (readInteger? (Text.trim text)).map (fun i => normalizeName (intText i.toInt)) =
      some (normalizeName text)
  | .float, .text =>
    (readFloat? (Text.trim text)).map (fun f => normalizeName (Cell.floatText f)) =
      some (normalizeName text)
  | _, _ => True

instance (old new : ColumnKind) (text : Text) : Decidable (KeepsName old new text) := by
  unfold KeepsName
  split <;> infer_instance

theorem nameAs_text (text : Text) : nameAs .text text = some (normalizeName text) := rfl

theorem nameAs_integer {text : Text} {i : Int64} (h : readInteger? (Text.trim text) = some i) :
    nameAs .integer text = some (normalizeName (intText i.toInt)) := by
  simp [nameAs, ColumnKind.read?, h, Cell.toText?]

theorem nameAs_float {text : Text} {f : Float} (h : readFloat? (Text.trim text) = some f) :
    nameAs .float text = some (normalizeName (Cell.floatText f)) := by
  simp [nameAs, ColumnKind.read?, h, Cell.toText?]

/-- The truthSpellings of the truth values. -/
def truthSpellings : List Text :=
  ["true", "True", "TRUE", "false", "False", "FALSE"].map String.toList

theorem mem_truthSpellings {text : Text} {b : Bool} (h : ColumnKind.readBoolean? text = some b) :
    text ∈ truthSpellings := by
  unfold ColumnKind.readBoolean? at h
  split at h
  · rename_i htrue
    simp only [Bool.or_eq_true, decide_eq_true_eq] at htrue
    rcases htrue with (rfl | rfl) | rfl <;> decide
  · split at h
    · rename_i hfalse
      simp only [Bool.or_eq_true, decide_eq_true_eq] at hfalse
      rcases hfalse with (rfl | rfl) | rfl <;> decide
    · cases h

theorem nameAs_boolean {text : Text} {b : Bool} (h : ColumnKind.readBoolean? text = some b) :
    nameAs .boolean text = some (normalizeName text) := by
  have hnames : ∀ text ∈ truthSpellings, nameAs .boolean text = some (normalizeName text) := by
    decide +kernel
  exact hnames text (mem_truthSpellings h)

/-- A value of the old type says the same name under a wider type exactly in these cases. -/
theorem nameAs_eq_iff {old new : ColumnKind} {text : Text} (hle : old ≤ new)
    (hold : old.Holds text) : nameAs new text = nameAs old text ↔ KeepsName old new text := by
  obtain ⟨hne, hread⟩ := hold
  rcases hle.eq_or_lt with rfl | hlt
  · exact iff_of_true rfl (by cases old <;> trivial)
  rcases ColumnKind.cases_of_lt hlt with rfl | ⟨rfl, hnew⟩ | ⟨rfl, rfl⟩ | ⟨rfl, rfl⟩
  · exact absurd rfl hne
  · have hfloat := ColumnKind.isSome_read?_float hread
    simp only [ColumnKind.read?, Option.isSome_map] at hread hfloat
    obtain ⟨i, hi⟩ := Option.isSome_iff_exists.1 hread
    obtain ⟨f, hf⟩ := Option.isSome_iff_exists.1 hfloat
    rw [nameAs_integer hi]
    rcases hnew with rfl | rfl
    · simp [nameAs_float hf, KeepsName, hi, hf]
    · simp [nameAs_text, KeepsName, hi, eq_comm]
  · simp only [ColumnKind.read?, Option.isSome_map] at hread
    obtain ⟨f, hf⟩ := Option.isSome_iff_exists.1 hread
    simp [nameAs_float hf, nameAs_text, KeepsName, hf, eq_comm]
  · simp only [ColumnKind.read?, Option.isSome_map] at hread
    obtain ⟨b, hb⟩ := Option.isSome_iff_exists.1 hread
    exact iff_of_true (by rw [nameAs_boolean hb, nameAs_text]) trivial

theorem nameOf?_eq (settings : ReadSettings) (sheet : Csv.Sheet) (row : List (Option Text)) :
    nameOf? settings sheet row =
      match present? settings (Csv.Sheet.cellUnder sheet.header nameColumn row) with
      | none => none
      | some text => nameAs (sheet.kindUnder settings nameColumn) text := by
  rw [nameOf?, Csv.Sheet.valueUnder, typeCell]
  cases present? settings (Csv.Sheet.cellUnder sheet.header nameColumn row) <;> rfl

/-- One more row leaves the name of a row as it is exactly if the text of the name keeps it
under the type that the column has then. -/
theorem nameOf?_addRow_eq_iff {settings : ReadSettings} {sheet : Csv.Sheet}
    {row other : List (Option Text)} (hother : other ∈ sheet.rows) :
    nameOf? settings (sheet.addRow row) other = nameOf? settings sheet other ↔
      ∀ text, present? settings (Csv.Sheet.cellUnder sheet.header nameColumn other) = some text →
        KeepsName (sheet.kindUnder settings nameColumn)
          ((sheet.addRow row).kindUnder settings nameColumn) text := by
  have hheader : (sheet.addRow row).header = sheet.header := rfl
  rw [nameOf?_eq, nameOf?_eq, hheader]
  cases hcell : present? settings (Csv.Sheet.cellUnder sheet.header nameColumn other) with
  | none => simp
  | some text =>
      have hle := kindUnder_le_addRow settings sheet row nameColumn
      simpa using nameAs_eq_iff hle (holds_cellUnder hother hcell)

/-- A file of names, all different, and scores, and the same with one more row after which the
names still all differ, but one of them is no longer there.  The entry that was listed under it
is listed under the new name of its row, and keeps its score as it would under the old one. -/
theorem entry_moves {settings : ReadSettings} {contents added : Bytes} {sheet : Csv.Sheet}
    {row other : List (Option Text)} {name renamed : Text}
    (hsheet : FileRead.sheet? settings contents = some sheet)
    (hadded : FileRead.sheet? settings added = some (sheet.addRow row)) (hlists : Lists sheet)
    (hdistinct : (names settings sheet).Nodup)
    (hdistinct' : (names settings (sheet.addRow row)).Nodup) (hother : other ∈ sheet.rows)
    (hname : nameOf? settings sheet other = some name)
    (hrenamed : nameOf? settings (sheet.addRow row) other = some renamed)
    (hgone : name ∉ names settings (sheet.addRow row)) :
    ∃ before after : Watchlist, ofFile settings (some contents) = .ok before ∧
      ofFile settings (some added) = .ok after ∧ after.entry? name = none ∧
      ∃ stored moved, before.entry? name = some stored ∧ after.entry? renamed = some moved ∧
        (moved.score = stored.score ↔
          ∀ text, present? settings (Csv.Sheet.cellUnder sheet.header scoreColumn other) =
              some text →
            KeepsScore (sheet.kindUnder settings scoreColumn)
              ((sheet.addRow row).kindUnder settings scoreColumn) text) := by
  have hother' : other ∈ (sheet.addRow row).rows := List.mem_append_left _ hother
  have hnone : entry? (ofFrame (Frame.ofSheet settings (sheet.addRow row))) name = none := by
    rw [entry?_ofSheet settings (FileRead.nodup_header hadded) hlists, Option.map_eq_none_iff,
      List.find?_eq_none]
    intro listed hlisted hsame
    exact hgone (List.mem_filterMap.2 ⟨listed, List.mem_reverse.1 hlisted, of_decide_eq_true hsame⟩)
  exact ⟨_, _, ofFile_some_eq_ok_iff.2 ⟨sheet, hsheet, rfl⟩,
    ofFile_some_eq_ok_iff.2 ⟨_, hadded, rfl⟩, hnone, _, _,
    entry?_of_nodup (FileRead.nodup_header hsheet) hlists hdistinct hother hname,
    entry?_of_nodup (FileRead.nodup_header hadded) hlists hdistinct' hother' hrenamed,
    score_entryOf_addRow hother⟩

example :
    let sheet : Csv.Sheet :=
      ⟨[nameColumn, scoreColumn], [[some "007".toList, some "50".toList]], 0⟩
    names .default sheet = ["7".toList] ∧
      names .default (sheet.addRow [some "Ana".toList, none]) = ["007".toList, "ANA".toList] := by
  decide +kernel

end Watchlist

end RiskTally
