import RiskTally.Proofs.SheetColumns
import RiskTally.Proofs.TypedCells
import RiskTally.Proofs.WatchlistScores

/-!
# The rows of a watchlist file

A watchlist lists a person under the canonical form of a name, and whether a row has a name is
asked before that form is taken.  A name of blanks alone is a name when it is asked and none
when it is listed: such a row is listed under the empty name, which is that of every row of a
dataset without a name.  No other row is: numbers and truth values have a text that is not
blank, and so has every name with a word.

## Main results

* `Keyed.get?_ofList`: of several values under a name the last one is found.
* `normalizeName_eq_nil_iff`: the names without a word.
* `Watchlist.entry?_ofSheet`: what a sheet lists under a name, told from its rows.
* `Watchlist.nameless_entry_iff`: the files that list something under the empty name.
* `Watchlist.blank_name_listed`: such a file, and a row without a name that it gives a score.
-/

namespace RiskTally

/-! ## The last value under a name -/

namespace Keyed

variable {α : Type}

theorem get?_putAll (table : Keyed α) (entries : List (Text × α)) (name : Text) :
    (putAll table entries).get? name =
      ((entries.reverse.find? fun entry => entry.1 = name).map Prod.snd).or
        (table.get? name) := by
  induction entries generalizing table with
  | nil => rfl
  | cons entry entries ih =>
      have hput := get?_put entry.1 name entry.2 table
      show (putAll (put entry.1 entry.2 table) entries).get? name = _
      rw [ih, hput, List.reverse_cons, List.find?_append]
      by_cases hname : entry.1 = name
      · cases entries.reverse.find? fun entry => entry.1 = name <;> simp [hname]
      · simp [hname, Ne.symm hname]

/-- Of several values under a name the last one is found. -/
theorem get?_ofList (entries : List (Text × α)) (name : Text) :
    (ofList entries).get? name =
      (entries.reverse.find? fun entry => entry.1 = name).map Prod.snd := by
  rw [ofList, get?_putAll]
  exact Option.or_none

end Keyed

/-! ## Names without words -/

theorem Text.upper_eq_nil_iff {text : Text} : upper text = [] ↔ text = [] := by
  cases text with
  | nil => exact iff_of_true rfl rfl
  | cons c text => simp [upper, upperChar_ne_nil]

theorem Text.unwords_eq_nil_iff {words : List Text} (h : ∀ word ∈ words, word ≠ []) :
    unwords words = [] ↔ words = [] := by
  match words with
  | [] => exact iff_of_true rfl rfl
  | [word] => simpa [unwords] using h word (by simp)
  | first :: second :: rest => simp [unwords, List.intercalate_cons_cons]

/-- A name is empty in canonical form exactly if it is blank. -/
theorem normalizeName_eq_nil_iff {name : Text} :
    normalizeName name = [] ↔ ∀ c ∈ name, Text.isBlank c = true := by
  have hwords : ∀ word ∈ Text.words name, word ≠ [] := fun _ hword => (Text.mem_words hword).1
  rw [normalizeName, Text.upper_eq_nil_iff, Text.unwords_eq_nil_iff hwords,
    Text.words_eq_nil_iff]

/-! ## Texts of values -/

theorem Text.isBlank_of_isDigit {c : Char} (h : c.isDigit = true) : isBlank c = false :=
  Expression.isBlank_of_isNameChar (Expression.isNameChar_of_isDigit h)

theorem exists_not_blank_natText (n : Nat) : ∃ c ∈ natText n, Text.isBlank c = false := by
  obtain ⟨c, hc⟩ := List.exists_mem_of_ne_nil _ (natText_ne_nil n)
  exact ⟨c, hc, Text.isBlank_of_isDigit (isDigit_of_mem_natText hc)⟩

theorem Shortest.not_blank_digits (tie : Tie) (m : Nat) (q : Int) :
    ∀ c ∈ (shortest tie m q).digits, Text.isBlank c = false := by
  unfold shortest
  dsimp only
  intro c hc
  cases hfound : (List.range' 1 17).findSome? fun (count : Nat) =>
      (gridPoint? tie m q (magnitude m q - count)).map (digitsOf · (magnitude m q - count)) with
  | none => simp [hfound] at hc
  | some found =>
      obtain ⟨count, -, hcount⟩ := List.exists_of_findSome?_eq_some hfound
      obtain ⟨point, -, rfl⟩ := Option.map_eq_some_iff.1 hcount
      rw [hfound] at hc
      exact Text.isBlank_of_isDigit
        (isDigit_of_mem_natText ((Text.trimEnd_sublist _ _).subset hc))

theorem Digits.exists_not_blank_positional {d : Digits}
    (h : ∀ c ∈ d.digits, Text.isBlank c = false) :
    ∃ c ∈ d.positional, Text.isBlank c = false := by
  unfold positional
  split
  · exact ⟨'0', by simp, by decide⟩
  · rename_i hpoint
    split
    · -- A digit of its own, or a zero up to the point.
      cases hdigits : d.digits with
      | nil =>
          refine ⟨'0', ?_, by decide⟩
          simp only [zeros, List.length_nil, List.nil_append, List.mem_replicate]
          exact ⟨by omega, trivial⟩
      | cons c digits => exact ⟨c, by simp, h c (by simp [hdigits])⟩
    · exact ⟨'.', by simp, by decide⟩

namespace Cell

theorem exists_not_blank_floatText (f : Float) : ∃ c ∈ floatText f, Text.isBlank c = false := by
  have hpositional : ∀ (sign : Text) (m : Nat) (q : Int),
      ∃ c ∈ sign ++ (shortest .up m q).positional, Text.isBlank c = false := by
    intro sign m q
    obtain ⟨c, hc, hblank⟩ :=
      Digits.exists_not_blank_positional (Shortest.not_blank_digits .up m q)
    exact ⟨c, List.mem_append_right _ hc, hblank⟩
  unfold floatText
  cases Binary.ofFloat f with
  | nan => decide
  | infinite negative => cases negative <;> decide
  | finite negative mantissa exponent =>
      dsimp only
      split
      · split
        · exact ⟨'.', by simp, by decide⟩
        · exact hpositional _ _ _
      · exact hpositional _ _ _

/-- Only a text can be a name without a word. -/
theorem asText?_of_normalizeName {cell : Cell} {name : Text} (h : cell.toText? = some name)
    (hblank : normalizeName name = []) : cell.asText? = some name := by
  rw [normalizeName_eq_nil_iff] at hblank
  have hnone : ¬ ∃ c ∈ name, Text.isBlank c = false := by
    rintro ⟨c, hc, hfalse⟩
    rw [hblank c hc] at hfalse
    exact absurd hfalse (by decide)
  cases cell with
  | text s => exact h
  | null => exact absurd h (by simp [toText?])
  | boolean b =>
      obtain rfl := Option.some.inj h
      exact absurd (by cases b <;> decide) hnone
  | integer i =>
      obtain rfl := Option.some.inj h
      obtain ⟨c, hc, hdigit⟩ := exists_not_blank_natText i.toInt.natAbs
      refine absurd ⟨c, ?_, hdigit⟩ hnone
      unfold intText
      split
      · exact List.mem_cons_of_mem _ hc
      · exact hc
  | float f =>
      obtain rfl := Option.some.inj h
      exact absurd (exists_not_blank_floatText f) hnone

end Cell

/-! ## Entries of rows -/

namespace Watchlist

/-- The column of the names. -/
def nameColumn : Text := "full_name".toList

/-- The column of the scores. -/
def scoreColumn : Text := "watchlist_score".toList

/-- The column of the reasons. -/
def reasonColumn : Text := "reason".toList

/-- A sheet that can list anybody has a column of names and one of scores. -/
def Lists (sheet : Csv.Sheet) : Prop :=
  nameColumn ∈ sheet.header ∧ scoreColumn ∈ sheet.header

instance (sheet : Csv.Sheet) : Decidable (Lists sheet) :=
  inferInstanceAs (Decidable (_ ∧ _))

/-- The canonical name of a row, if it has a name. -/
def nameOf? (settings : ReadSettings) (sheet : Csv.Sheet) (row : List (Option Text)) :
    Option Text :=
  (sheet.valueUnder settings nameColumn row).toText?.map normalizeName

/-- The canonical names of the rows that have one. -/
def names (settings : ReadSettings) (sheet : Csv.Sheet) : List Text :=
  sheet.rows.filterMap (nameOf? settings sheet)

/-- What a row says of the person that it names. -/
def entryOf (settings : ReadSettings) (sheet : Csv.Sheet) (row : List (Option Text)) :
    WatchlistEntry :=
  ⟨scoreOf (sheet.valueUnder settings scoreColumn row),
    (sheet.valueUnder settings reasonColumn row).textOrEmpty⟩

theorem ofFrame_eq (frame : Frame) :
    ofFrame frame =
      match frame.column? nameColumn, frame.column? scoreColumn with
      | some names, some scores =>
        ofEntries ((names.zip (scores.zip
          ((frame.column? reasonColumn).getD (List.replicate frame.rows .null)))).filterMap
            fun row => rowEntry? row.1 row.2.1 row.2.2)
      | _, _ => [] := rfl

/-- The watchlist of a sheet, row by row. -/
theorem ofFrame_ofSheet (settings : ReadSettings) {sheet : Csv.Sheet}
    (h : sheet.header.Nodup) :
    ofFrame (Frame.ofSheet settings sheet) =
      if Lists sheet then
        Keyed.ofList (sheet.rows.filterMap fun row =>
          (nameOf? settings sheet row).map fun name => (name, entryOf settings sheet row))
      else [] := by
  have hcolumn := Frame.column?_ofSheet settings h
  have hreasons : ((Frame.ofSheet settings sheet).column? reasonColumn).getD
      (List.replicate (Frame.ofSheet settings sheet).rows .null) =
        sheet.rows.map (sheet.valueUnder settings reasonColumn) := by
    rw [hcolumn]
    split
    · rfl
    · rename_i hname
      refine (List.eq_replicate_iff.2 ⟨List.length_map _, fun cell hcell => ?_⟩).symm
      obtain ⟨row, -, rfl⟩ := List.mem_map.1 hcell
      exact Csv.Sheet.valueUnder_of_not_mem hname row
  rw [ofFrame_eq, hreasons, hcolumn, hcolumn]
  by_cases hlists : Lists sheet
  · rw [if_pos hlists, if_pos hlists.1, if_pos hlists.2]
    dsimp only
    rw [List.zip_map', List.zip_map', ofEntries, List.filterMap_map, List.map_filterMap]
    refine congrArg Keyed.ofList (List.filterMap_congr fun row _ => ?_)
    simp only [nameOf?, rowEntry?, Function.comp_apply, Option.map_map]
    rfl
  · rw [if_neg hlists]
    by_cases hname : nameColumn ∈ sheet.header
    · rw [if_pos hname, if_neg fun hscore => hlists ⟨hname, hscore⟩]
    · rw [if_neg hname]

/-- What a sheet lists under a name is said by the last row of that name. -/
theorem entry?_ofSheet (settings : ReadSettings) {sheet : Csv.Sheet} (h : sheet.header.Nodup)
    (hlists : Lists sheet) (name : Text) :
    entry? (ofFrame (Frame.ofSheet settings sheet)) name =
      (sheet.rows.reverse.find? fun row => nameOf? settings sheet row = some name).map
        (entryOf settings sheet) := by
  rw [ofFrame_ofSheet settings h, if_pos hlists, entry?, Keyed.get?_ofList,
    ← List.filterMap_reverse, List.find?_filterMap, Option.map_bind]
  have hany : (fun row => ((nameOf? settings sheet row).map fun name =>
      (name, entryOf settings sheet row)).any fun entry => entry.1 = name) =
        fun row => decide (nameOf? settings sheet row = some name) := by
    funext row
    cases nameOf? settings sheet row <;> simp
  rw [hany]
  cases hfound : sheet.rows.reverse.find? fun row => nameOf? settings sheet row = some name with
  | none => rfl
  | some row =>
      have hname : nameOf? settings sheet row = some name := by
        simpa using List.find?_some hfound
      simp [hname]

/-- A file is loaded as the watchlist of its sheet. -/
theorem ofFile_some_eq_ok_iff {settings : ReadSettings} {bytes : Bytes} {watchlist : Watchlist} :
    ofFile settings (some bytes) = .ok watchlist ↔
      ∃ sheet, FileRead.sheet? settings bytes = some sheet ∧
        ofFrame (Frame.ofSheet settings sheet) = watchlist := by
  have hframe := FileRead.frame_ofBytes settings bytes
  rw [ofFile]
  cases hread : FileRead.ofBytes settings bytes with
  | error fault =>
      rw [hread] at hframe
      cases hsheet : FileRead.sheet? settings bytes with
      | none => simp
      | some sheet => simp [hsheet, Except.toOption] at hframe
  | ok read =>
      rw [hread] at hframe
      cases hsheet : FileRead.sheet? settings bytes with
      | none => simp [hsheet, Except.toOption] at hframe
      | some sheet =>
          rw [hsheet] at hframe
          have hsame : read.frame = Frame.ofSheet settings sheet := Option.some.inj hframe
          simp [hsame]

/-! ## Rows without a name -/

theorem present?_of_typeCell {settings : ReadSettings} {kind : ColumnKind} {cell : Option Text}
    {text : Text} (h : (typeCell settings kind cell).asText? = some text) :
    present? settings cell = some text := by
  unfold typeCell at h
  cases hcell : present? settings cell with
  | none => simp [hcell, Cell.asText?] at h
  | some raw =>
      rw [hcell] at h
      cases kind with
      | text => exact h
      | empty => exact h
      | integer => cases hread : readInteger? (Text.trim raw) <;>
          simp [ColumnKind.read?, hread, Cell.asText?] at h
      | float => cases hread : readFloat? (Text.trim raw) <;>
          simp [ColumnKind.read?, hread, Cell.asText?] at h
      | boolean => cases hread : ColumnKind.readBoolean? raw <;>
          simp [ColumnKind.read?, hread, Cell.asText?] at h

theorem trim_of_blank {text : Text} (h : ∀ c ∈ text, Text.isBlank c = true) :
    Text.trim text = [] := by
  have hdrop : text.dropWhile Text.isBlank = [] := List.dropWhile_eq_nil_iff.2 h
  rw [Text.trim, Text.trimOf, hdrop]
  rfl

/-- Blanks are no number and no truth value. -/
theorem kind_of_blank {kind : ColumnKind} {text : Text} (hkind : kind.Holds text)
    (h : ∀ c ∈ text, Text.isBlank c = true) : kind = .text := by
  obtain ⟨hempty, hread⟩ := hkind
  cases kind with
  | text => rfl
  | empty => exact absurd rfl hempty
  | integer =>
      rw [ColumnKind.read?, trim_of_blank h] at hread
      exact absurd hread (by decide)
  | float =>
      rw [ColumnKind.read?, trim_of_blank h, readFloat?, Option.isSome_map, Option.isSome_map]
        at hread
      exact absurd hread (by decide)
  | boolean =>
      simp only [ColumnKind.read?, Option.isSome_map, ColumnKind.readBoolean?] at hread
      split at hread
      · rename_i hword
        simp only [Bool.or_eq_true, decide_eq_true_eq] at hword
        rcases hword with (rfl | rfl) | rfl <;> exact absurd h (by decide)
      · split at hread
        · rename_i hword
          simp only [Bool.or_eq_true, decide_eq_true_eq] at hword
          rcases hword with (rfl | rfl) | rfl <;> exact absurd h (by decide)
        · exact absurd hread (by decide)

/-- A row is listed under the empty name exactly if its name is there and blank. -/
theorem nameOf?_eq_nil_iff (settings : ReadSettings) {sheet : Csv.Sheet}
    {row : List (Option Text)} (hrow : row ∈ sheet.rows) :
    nameOf? settings sheet row = some [] ↔
      ∃ name, Csv.Sheet.cellUnder sheet.header nameColumn row = some name ∧
        settings.isEmptyToken name = false ∧ ∀ c ∈ name, Text.isBlank c = true := by
  rw [nameOf?, Option.map_eq_some_iff]
  constructor
  · rintro ⟨name, htext, hblank⟩
    have hname := present?_of_typeCell (Cell.asText?_of_normalizeName htext hblank)
    obtain ⟨hcell, htoken⟩ := present?_eq_some_iff.1 hname
    exact ⟨name, hcell, htoken, normalizeName_eq_nil_iff.1 hblank⟩
  · rintro ⟨name, hcell, htoken, hblank⟩
    have hpresent : present? settings (Csv.Sheet.cellUnder sheet.header nameColumn row) =
        some name := present?_eq_some_iff.2 ⟨hcell, htoken⟩
    have hmem : name ∈ (sheet.rows.map (Csv.Sheet.cellUnder sheet.header nameColumn)).filterMap
        (present? settings) :=
      List.mem_filterMap.2 ⟨_, List.mem_map_of_mem hrow, hpresent⟩
    have hkind : sheet.kindUnder settings nameColumn = .text :=
      kind_of_blank (ColumnKind.infer_le_iff.1 le_rfl name hmem) hblank
    refine ⟨name, ?_, normalizeName_eq_nil_iff.2 hblank⟩
    rw [Csv.Sheet.valueUnder, hkind, typeCell, hpresent]
    rfl

/-- In the settings in use unless others are given, blanks mean nothing only if there are
none. -/
theorem isEmptyToken_of_blank {name : Text} (h : ∀ c ∈ name, Text.isBlank c = true) :
    ReadSettings.default.isEmptyToken name = false ↔ name ≠ [] := by
  have htokens : ∀ token ∈ ReadSettings.defaultEmptyTokens,
      (∀ c ∈ token, Text.isBlank c = true) → token = [] := by decide
  rw [ReadSettings.isEmptyToken, List.contains_eq_mem, decide_eq_false_iff_not, not_iff_not]
  constructor
  · exact fun hmem => htokens name hmem h
  · rintro rfl
    decide

/-- A sheet lists something under the empty name exactly if it has names and scores and some
row has a name of blanks alone. -/
theorem exists_entry?_nil_iff {sheet : Csv.Sheet} (h : sheet.header.Nodup) :
    (∃ entry, entry? (ofFrame (Frame.ofSheet .default sheet)) [] = some entry) ↔
      Lists sheet ∧ ∃ row ∈ sheet.rows, ∃ name,
        Csv.Sheet.cellUnder sheet.header nameColumn row = some name ∧
          name ≠ [] ∧ ∀ c ∈ name, Text.isBlank c = true := by
  have hrows : ∀ row ∈ sheet.rows, nameOf? .default sheet row = some [] ↔
      ∃ name, Csv.Sheet.cellUnder sheet.header nameColumn row = some name ∧
        name ≠ [] ∧ ∀ c ∈ name, Text.isBlank c = true := by
    intro row hrow
    rw [nameOf?_eq_nil_iff .default hrow]
    exact exists_congr fun name =>
      and_congr_right fun _ => and_congr_left fun hblank => isEmptyToken_of_blank hblank
  by_cases hlists : Lists sheet
  · rw [← Option.isSome_iff_exists, entry?_ofSheet .default h hlists, Option.isSome_map,
      List.find?_isSome]
    constructor
    · rintro ⟨row, hrow, hname⟩
      have hmem : row ∈ sheet.rows := List.mem_reverse.1 hrow
      exact ⟨hlists, row, hmem, (hrows row hmem).1 (of_decide_eq_true hname)⟩
    · rintro ⟨-, row, hrow, hname⟩
      exact ⟨row, List.mem_reverse.2 hrow, decide_eq_true ((hrows row hrow).2 hname)⟩
  · rw [ofFrame_ofSheet .default h, if_neg hlists]
    exact iff_of_false (by simp [Keyed.get?, entry?]) fun hall => hlists hall.1

/-- To a row without a name a watchlist adds nothing that lists nothing under the empty name. -/
theorem scores_of_nameless {watchlist : Watchlist} (h : watchlist.entry? [] = none)
    (settings : ScoringSettings) (evaluator : Evaluator) (dataset : Dataset) (rules : Rules)
    {row : Nat} (hrow : (Report.rowNames settings dataset)[row]? = some []) :
    (Report.scoreWith settings evaluator dataset rules watchlist).scores[row]? =
      (Report.scoreWith settings evaluator dataset rules []).scores[row]? := by
  have hzero : ∀ score, satAdd score (watchlist.score []) = score := by
    intro score
    rw [score_eq_zero h]
    exact Int64.le_antisymm (satAdd_le (Int64.le_refl 0)) (le_satAdd (Int64.le_refl 0))
  by_cases hrows : row < dataset.rows
  · rw [Report.getElem?_scores_of_name evaluator rules watchlist hrows hrow]
    simp [hzero]
  · have hlength := fun listed => Report.length_scores settings evaluator dataset rules listed
    rw [List.getElem?_eq_none (by rw [hlength]; omega),
      List.getElem?_eq_none (by rw [hlength]; omega)]

/-- A watchlist file, there or not, is loaded with an entry under the empty name exactly if it
is a sheet with names and scores and some row has a name of blanks alone.  Unless it is, the
watchlist adds nothing to the rows without a name of any dataset. -/
theorem nameless_entry_iff {contents : Option Bytes} {watchlist : Watchlist}
    (h : ofFile .default contents = .ok watchlist) :
    ((∃ entry, watchlist.entry? [] = some entry) ↔
      ∃ sheet, contents.bind (FileRead.sheet? .default) = some sheet ∧
        nameColumn ∈ sheet.header ∧ scoreColumn ∈ sheet.header ∧
        ∃ row ∈ sheet.rows, ∃ name,
          Csv.Sheet.cellUnder sheet.header nameColumn row = some name ∧
            name ≠ [] ∧ ∀ c ∈ name, Text.isBlank c = true) ∧
    (watchlist.entry? [] = none →
      ∀ (settings : ScoringSettings) (evaluator : Evaluator) (dataset : Dataset) (rules : Rules)
        (row : Nat), (Report.rowNames settings dataset)[row]? = some [] →
        (Report.scoreWith settings evaluator dataset rules watchlist).scores[row]? =
          (Report.scoreWith settings evaluator dataset rules []).scores[row]?) := by
  refine ⟨?_, fun hnone settings evaluator dataset rules row =>
    scores_of_nameless hnone settings evaluator dataset rules⟩
  cases contents with
  | none =>
      obtain rfl := Except.ok.inj h
      exact iff_of_false (by simp [Keyed.get?, entry?]) (by simp)
  | some bytes =>
      obtain ⟨sheet, hsheet, rfl⟩ := ofFile_some_eq_ok_iff.1 h
      rw [exists_entry?_nil_iff (FileRead.nodup_header hsheet), Option.bind_some, hsheet, Lists,
        and_assoc]
      simp only [Option.some.injEq, exists_eq_left']

/-- A file with a row without a name and one that names a person: nothing is listed under the
empty name, and a row without a name stays without a score beside one that gets one.  With an
ideographic space for a name the row would be listed. -/
theorem nameless_entry_iff_two_files :
    ∃ (bytes blank : Bytes) (watchlist listed : Watchlist) (dataset : Dataset),
      ofFile .default (some bytes) = .ok watchlist ∧
      watchlist.entry? [] = none ∧
      Report.rowNames .default dataset = [[], "ANA".toList] ∧
      (Report.scoreWith .default Expression.evaluate dataset [] watchlist).scores = [0, 10] ∧
      (Report.scoreWith .default Expression.evaluate dataset [] watchlist).scores[0]? =
        (Report.scoreWith .default Expression.evaluate dataset [] []).scores[0]? ∧
      ofFile .default (some blank) = .ok listed ∧
      ∃ entry, listed.entry? [] = some entry := by
  let dataset : Dataset :=
    { columns := [("full_name".toList, [.null, .text "Ana".toList])]
      sources := List.replicate 2 "a.csv".toList }
  let sheet : Csv.Sheet :=
    { header := [scoreColumn, nameColumn]
      rows := [[some "50".toList, some "\u3000".toList]]
      skipped := 0 }
  let blank : Bytes := Utf8.encode "watchlist_score,full_name\n50,\u3000\n".toList
  have hload : ofFile .default
      (some (Utf8.encode "full_name,watchlist_score\n,50\nana,10\n".toList)) =
        .ok [("ANA".toList, ⟨10, []⟩)] := by
    rfl
  have hsheet : FileRead.sheet? .default blank = some sheet := by decide +kernel
  have hlisted : ofFile .default (some blank) = .ok _ :=
    ofFile_some_eq_ok_iff.2 ⟨sheet, hsheet, rfl⟩
  have hempty := (nameless_entry_iff hload).2 rfl .default Expression.evaluate dataset [] 0 rfl
  have hentry := (nameless_entry_iff hlisted).1.2
    ⟨sheet, hsheet, by decide, by decide, _, List.mem_singleton.2 rfl, "\u3000".toList, rfl,
      by decide, by decide⟩
  exact ⟨_, blank, _, _, dataset, hload, rfl, rfl, by decide +kernel, hempty, hlisted, hentry⟩

/-- A row whose name is a space: it is listed, and a row of a dataset without a name gets its
score. -/
theorem blank_name_listed :
    ∃ (bytes : Bytes) (watchlist : Watchlist) (dataset : Dataset),
      bytes = Utf8.encode "full_name,watchlist_score\n ,50\nAna,10\n".toList ∧
      ofFile .default (some bytes) = .ok watchlist ∧
      watchlist.entry? [] = some ⟨50, []⟩ ∧
      dataset.Rectangular ∧
      Report.rowNames .default dataset = [[], "JAN".toList] ∧
      (Report.score .default dataset [] watchlist).scores = [50, 0] ∧
      (Report.score .default dataset [] []).scores = [0, 0] := by
  let dataset : Dataset :=
    { columns := [("full_name".toList, [.null, .text "Jan".toList])]
      sources := List.replicate 2 "a.csv".toList }
  let watchlist : Watchlist := [([], ⟨50, []⟩), ("ANA".toList, ⟨10, []⟩)]
  have hload : ofFile .default
      (some (Utf8.encode "full_name,watchlist_score\n ,50\nAna,10\n".toList)) = .ok watchlist := by
    rfl
  refine ⟨_, watchlist, dataset, rfl, hload, rfl, ?_, rfl, ?_, ?_⟩
  · simp [Dataset.Rectangular, Dataset.rows, dataset]
  · decide +kernel
  · decide +kernel

end Watchlist

end RiskTally
