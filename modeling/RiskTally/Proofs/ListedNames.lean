import Mathlib.Data.Set.Card
import RiskTally.Proofs.WatchlistRows

/-!
# Whom a watchlist lists

A watchlist lists the names of the rows that have one, each once, with the score and the reason
of the last of its rows.  Rows without a name stand between the others without moving anything:
what is said of a name is read off one row.  The order of the rows counts only among those of
one name, since the types of the columns, through which every cell is read, do not go by it.

## Main results

* `Watchlist.nameOf?_eq_some_iff`: which rows have a name, told from their raw cells.
* `Watchlist.entry?_eq_getLast?`: the last row of a name says what is listed under it.
* `Watchlist.encard_names`: a watchlist is as long as there are names of rows.
* `Watchlist.entry?_of_perm`: rows in another order.
* `Watchlist.listed_by_last_rows`: the watchlist of a file.
-/

namespace RiskTally

/-! ## Tables by what is found in them -/

namespace Keyed

variable {α : Type}

theorem mem_iff_get? {table : Keyed α} (h : table.keys.Nodup) {name : Text} {value : α} :
    (name, value) ∈ table ↔ table.get? name = some value :=
  ⟨get?_of_mem h, mem_of_get?⟩

theorem mem_keys_iff {table : Keyed α} {name : Text} :
    name ∈ table.keys ↔ ∃ value, table.get? name = some value := by
  rw [← Option.isSome_iff_exists, ← Option.ne_none_iff_isSome, Ne, get?_eq_none_iff, not_not]

/-- Tables of names that differ in which the same is found have the same entries. -/
theorem perm_of_get? {table table' : Keyed α} (h : table.keys.Nodup) (h' : table'.keys.Nodup)
    (hsame : ∀ name, table'.get? name = table.get? name) : table'.Perm table := by
  rw [List.perm_ext_iff_of_nodup (List.Nodup.of_map _ h') (List.Nodup.of_map _ h)]
  intro entry
  rw [mem_iff_get? h, mem_iff_get? h', hsame]

end Keyed

/-! ## Cells of rows -/

namespace Csv.Sheet

variable {settings : ReadSettings} {sheet sheet' : Sheet}

/-- A row has an empty value under a name exactly if its raw cell is not there or says
nothing. -/
theorem valueUnder_eq_null_iff {row : List (Option Text)} (hrow : row ∈ sheet.rows)
    (name : Text) :
    sheet.valueUnder settings name row = .null ↔
      ∀ text, cellUnder sheet.header name row = some text → settings.isEmptyToken text = true := by
  rw [valueUnder, kindUnder, typeCell_eq_null_iff (List.mem_map_of_mem hrow)]
  cases cellUnder sheet.header name row <;> simp

/-- The type of a column does not go by the order of the rows. -/
theorem kindUnder_of_perm (hheader : sheet'.header = sheet.header)
    (hrows : sheet'.rows.Perm sheet.rows) (name : Text) :
    sheet'.kindUnder settings name = sheet.kindUnder settings name := by
  unfold kindUnder inferKind
  rw [hheader]
  exact ColumnKind.infer_congr fun text => ((hrows.map _).filterMap _).mem_iff

theorem valueUnder_of_perm (hheader : sheet'.header = sheet.header)
    (hrows : sheet'.rows.Perm sheet.rows) :
    sheet'.valueUnder settings = sheet.valueUnder settings := by
  funext name row
  rw [valueUnder, valueUnder, kindUnder_of_perm hheader hrows, hheader]

end Csv.Sheet

namespace Watchlist

variable {settings : ReadSettings} {sheet sheet' : Csv.Sheet}

/-! ## Names of rows -/

/-- The row has a name, neither absent nor a token for nothing, and this is the canonical form
of its text. -/
def Names (settings : ReadSettings) (sheet : Csv.Sheet) (row : List (Option Text))
    (name : Text) : Prop :=
  ∃ raw, Csv.Sheet.cellUnder sheet.header nameColumn row = some raw ∧
    settings.isEmptyToken raw = false ∧
    normalizeName (sheet.valueUnder settings nameColumn row).textOrEmpty = name

theorem nameOf?_eq_some_iff {row : List (Option Text)} (hrow : row ∈ sheet.rows) {name : Text} :
    nameOf? settings sheet row = some name ↔ Names settings sheet row name := by
  have hnull : sheet.valueUnder settings nameColumn row = .null ↔ _ :=
    Csv.Sheet.valueUnder_eq_null_iff hrow nameColumn
  rw [nameOf?, Option.map_eq_some_iff]
  constructor
  · rintro ⟨text, htext, rfl⟩
    have hvalue : sheet.valueUnder settings nameColumn row ≠ .null := by
      intro hvalue
      exact absurd (hvalue ▸ htext) (by simp [Cell.toText?])
    obtain ⟨raw, hraw, htoken⟩ := not_forall₂.1 (mt hnull.2 hvalue)
    exact ⟨raw, hraw, Bool.eq_false_of_not_eq_true htoken, by rw [Cell.textOrEmpty, htext]; rfl⟩
  · rintro ⟨raw, hraw, htoken, rfl⟩
    cases htext : (sheet.valueUnder settings nameColumn row).toText? with
    | some text => exact ⟨text, rfl, by rw [Cell.textOrEmpty, htext]; rfl⟩
    | none =>
        have hvalue : sheet.valueUnder settings nameColumn row = .null :=
          Cell.isNull_iff.1 ((Cell.toText?_eq_none_iff _).1 htext)
        exact absurd (hnull.1 hvalue raw hraw) (by simp [htoken])

/-- The rows of a name, in the order of the sheet. -/
def rowsNamed (settings : ReadSettings) (sheet : Csv.Sheet) (name : Text) :
    List (List (Option Text)) :=
  sheet.rows.filter fun row => nameOf? settings sheet row = some name

theorem mem_rowsNamed {row : List (Option Text)} {name : Text} :
    row ∈ rowsNamed settings sheet name ↔ row ∈ sheet.rows ∧ Names settings sheet row name := by
  rw [rowsNamed, List.mem_filter, decide_eq_true_eq]
  exact and_congr_right fun hrow => nameOf?_eq_some_iff hrow

/-- The row has the name, and no later row has it. -/
def LastNamed (settings : ReadSettings) (sheet : Csv.Sheet) (name : Text)
    (row : List (Option Text)) : Prop :=
  ∃ before after, sheet.rows = before ++ row :: after ∧ Names settings sheet row name ∧
    ∀ other ∈ after, ¬ Names settings sheet other name

theorem getLast?_rowsNamed_iff {name : Text} {row : List (Option Text)} :
    (rowsNamed settings sheet name).getLast? = some row ↔
      LastNamed settings sheet name row := by
  rw [rowsNamed, List.getLast?_filter, List.find?_eq_some_iff_append]
  constructor
  · rintro ⟨hname, after, before, hrows, hafter⟩
    have hsheet : sheet.rows = before.reverse ++ row :: after.reverse := by
      simpa using congrArg List.reverse hrows
    refine ⟨before.reverse, after.reverse, hsheet,
      (nameOf?_eq_some_iff (by simp [hsheet])).1 (by simpa using hname), ?_⟩
    intro other hother hnames
    have hmem : other ∈ after := List.mem_reverse.1 hother
    have hno : ¬ nameOf? settings sheet other = some name := by simpa using hafter other hmem
    exact hno ((nameOf?_eq_some_iff (by simp [hsheet, hmem])).2 hnames)
  · rintro ⟨before, after, hsheet, hname, hafter⟩
    refine ⟨by simpa using (nameOf?_eq_some_iff (by simp [hsheet])).2 hname,
      after.reverse, before.reverse, by simp [hsheet], ?_⟩
    intro other hother
    have hmem : other ∈ after := List.mem_reverse.1 hother
    have hno := mt (nameOf?_eq_some_iff (by simp [hsheet, hmem])).1 (hafter other hmem)
    simpa using hno

/-! ## What is listed -/

/-- What is listed under a name is said by the last of its rows. -/
theorem entry?_eq_getLast? (h : sheet.header.Nodup) (hlists : Lists sheet) (name : Text) :
    entry? (ofFrame (Frame.ofSheet settings sheet)) name =
      (rowsNamed settings sheet name).getLast?.map (entryOf settings sheet) := by
  rw [entry?_ofSheet settings h hlists, rowsNamed, List.getLast?_filter]

theorem entry?_eq_some_iff (h : sheet.header.Nodup) (hlists : Lists sheet) {name : Text}
    {entry : WatchlistEntry} :
    entry? (ofFrame (Frame.ofSheet settings sheet)) name = some entry ↔
      ∃ row, LastNamed settings sheet name row ∧ entryOf settings sheet row = entry := by
  rw [entry?_eq_getLast? h hlists, Option.map_eq_some_iff]
  exact exists_congr fun row => and_congr_left fun _ => getLast?_rowsNamed_iff

/-- The names of the rows are listed, and no others. -/
theorem exists_entry?_iff (h : sheet.header.Nodup) (hlists : Lists sheet) {name : Text} :
    (∃ entry, entry? (ofFrame (Frame.ofSheet settings sheet)) name = some entry) ↔
      ∃ row ∈ sheet.rows, Names settings sheet row name := by
  rw [← Option.isSome_iff_exists, entry?_eq_getLast? h hlists, Option.isSome_map,
    List.getLast?_isSome]
  constructor
  · intro hrows
    obtain ⟨row, hrow⟩ := List.exists_mem_of_ne_nil _ hrows
    exact ⟨row, mem_rowsNamed.1 hrow⟩
  · rintro ⟨row, hrow⟩
    exact List.ne_nil_of_mem (mem_rowsNamed.2 hrow)

/-- A row without a reason lists a name with none. -/
theorem reason_entryOf {row : List (Option Text)} (hrow : row ∈ sheet.rows)
    (h : ∀ reason, Csv.Sheet.cellUnder sheet.header reasonColumn row = some reason →
      settings.isEmptyToken reason = true) : (entryOf settings sheet row).reason = [] := by
  rw [entryOf, (Csv.Sheet.valueUnder_eq_null_iff hrow reasonColumn).2 h]
  rfl

theorem nodup_keys_ofFrame (frame : Frame) : (ofFrame frame).keys.Nodup := by
  rw [ofFrame_eq]
  split
  · exact nodup_keys _
  · exact List.nodup_nil

/-- A watchlist is as long as there are names of rows. -/
theorem encard_names (h : sheet.header.Nodup) (hlists : Lists sheet) :
    {name | ∃ row ∈ sheet.rows, Names settings sheet row name}.encard =
      (ofFrame (Frame.ofSheet settings sheet)).length := by
  have hkeys : {name | ∃ row ∈ sheet.rows, Names settings sheet row name} =
      ((ofFrame (Frame.ofSheet settings sheet)).keys.toFinset : Set Text) := by
    ext name
    rw [Set.mem_ofPred_eq, Finset.mem_coe, List.mem_toFinset, Keyed.mem_keys_iff]
    exact (exists_entry?_iff h hlists).symm
  rw [hkeys, Set.encard_coe_eq_coe_finsetCard,
    List.toFinset_card_of_nodup (nodup_keys_ofFrame _), Keyed.keys, List.length_map]

/-! ## Rows in another order -/

theorem nameOf?_of_perm (hheader : sheet'.header = sheet.header)
    (hrows : sheet'.rows.Perm sheet.rows) :
    nameOf? settings sheet' = nameOf? settings sheet := by
  funext row
  rw [nameOf?, nameOf?, Csv.Sheet.valueUnder_of_perm hheader hrows]

theorem entryOf_of_perm (hheader : sheet'.header = sheet.header)
    (hrows : sheet'.rows.Perm sheet.rows) :
    entryOf settings sheet' = entryOf settings sheet := by
  funext row
  rw [entryOf, entryOf, Csv.Sheet.valueUnder_of_perm hheader hrows]

/-- No two rows have the same name. -/
def DifferentNames (settings : ReadSettings) (sheet : Csv.Sheet) : Prop :=
  sheet.rows.Pairwise fun row other =>
    ∀ name, Names settings sheet row name → ¬ Names settings sheet other name

theorem differentNames_iff :
    DifferentNames settings sheet ↔ (names settings sheet).Nodup := by
  rw [names, List.Nodup, List.pairwise_filterMap]
  refine List.Pairwise.iff_of_mem fun {row other} hrow hother => ?_
  constructor
  · intro hdiffer name hname name' hname' hsame
    exact hdiffer name ((nameOf?_eq_some_iff hrow).1 hname)
      (hsame ▸ (nameOf?_eq_some_iff hother).1 hname')
  · intro hdiffer name hname hname'
    exact hdiffer name ((nameOf?_eq_some_iff hrow).2 hname) name
      ((nameOf?_eq_some_iff hother).2 hname') rfl

/-- Where names differ, no order of the rows changes the order of those of one name. -/
theorem rowsNamed_of_perm (h : DifferentNames settings sheet)
    (hheader : sheet'.header = sheet.header) (hrows : sheet'.rows.Perm sheet.rows) (name : Text) :
    rowsNamed settings sheet' name = rowsNamed settings sheet name := by
  have hperm : (rowsNamed settings sheet' name).Perm (rowsNamed settings sheet name) := by
    rw [rowsNamed, rowsNamed, nameOf?_of_perm hheader hrows]
    exact hrows.filter _
  have hnamed : ∀ row ∈ rowsNamed settings sheet name, Names settings sheet row name :=
    fun row hrow => (mem_rowsNamed.1 hrow).2
  have hdiffer : (rowsNamed settings sheet name).Pairwise fun row other =>
      ∀ name, Names settings sheet row name → ¬ Names settings sheet other name :=
    h.filter _
  -- Two rows of the name would differ in it.
  rcases hrowsNamed : rowsNamed settings sheet name with _ | ⟨row, _ | ⟨other, rest⟩⟩
  · exact List.perm_nil.1 (hrowsNamed ▸ hperm)
  · exact List.perm_singleton.1 (hrowsNamed ▸ hperm)
  · rw [hrowsNamed] at hdiffer hnamed
    exact absurd (hnamed other (by simp))
      (List.rel_of_pairwise_cons hdiffer (by simp) name (hnamed row (by simp)))

/-- Rows in another order that keeps that of the rows of each name list the same. -/
theorem entry?_of_perm (h : sheet.header.Nodup) (hheader : sheet'.header = sheet.header)
    (hrows : sheet'.rows.Perm sheet.rows)
    (hnamed : ∀ name, rowsNamed settings sheet' name = rowsNamed settings sheet name)
    (name : Text) :
    entry? (ofFrame (Frame.ofSheet settings sheet')) name =
      entry? (ofFrame (Frame.ofSheet settings sheet)) name := by
  have h' : sheet'.header.Nodup := hheader ▸ h
  by_cases hlists : Lists sheet
  · have hlists' : Lists sheet' := by rwa [Lists, hheader]
    rw [entry?_eq_getLast? h' hlists', entry?_eq_getLast? h hlists, hnamed,
      entryOf_of_perm hheader hrows]
  · have hlists' : ¬ Lists sheet' := by rwa [Lists, hheader]
    rw [ofFrame_ofSheet settings h', if_neg hlists', ofFrame_ofSheet settings h, if_neg hlists]

/-! ## The watchlist of a file -/

/-- A file that can be read is loaded as a watchlist, an empty one if the names or the scores
have no column.  Else the names of its rows are listed, each once and with the score and the
reason of the last of its rows, and no reason if that row has none.  A file with the same rows
in another order is loaded as the same watchlist if no two rows have the same name or those of
each name keep their order. -/
theorem listed_by_last_rows {settings : ReadSettings} {bytes : Bytes} {sheet : Csv.Sheet}
    (h : FileRead.sheet? settings bytes = some sheet) :
    ∃ watchlist, ofFile settings (some bytes) = .ok watchlist ∧
      (¬ (nameColumn ∈ sheet.header ∧ scoreColumn ∈ sheet.header) → watchlist = []) ∧
      (nameColumn ∈ sheet.header ∧ scoreColumn ∈ sheet.header →
        (∀ name, (∃ entry, watchlist.entry? name = some entry) ↔
          ∃ row ∈ sheet.rows, Names settings sheet row name) ∧
        (∀ name entry, watchlist.entry? name = some entry ↔
          ∃ row, LastNamed settings sheet name row ∧ entryOf settings sheet row = entry) ∧
        (∀ row ∈ sheet.rows, (∀ reason,
          Csv.Sheet.cellUnder sheet.header reasonColumn row = some reason →
            settings.isEmptyToken reason = true) → (entryOf settings sheet row).reason = []) ∧
        {name | ∃ row ∈ sheet.rows, Names settings sheet row name}.encard = watchlist.length) ∧
      ∀ (other : Bytes) (reordered : Csv.Sheet),
        FileRead.sheet? settings other = some reordered →
        reordered.header = sheet.header → reordered.rows.Perm sheet.rows →
        (DifferentNames settings sheet ∨
          ∀ name, rowsNamed settings reordered name = rowsNamed settings sheet name) →
        ∃ relisted, ofFile settings (some other) = .ok relisted ∧ relisted.Perm watchlist ∧
          ∀ name, relisted.entry? name = watchlist.entry? name := by
  have hnodup : sheet.header.Nodup := FileRead.nodup_header h
  refine ⟨ofFrame (Frame.ofSheet settings sheet), ofFile_some_eq_ok_iff.2 ⟨sheet, h, rfl⟩,
    ?_, ?_, ?_⟩
  · intro hcolumns
    rw [ofFrame_ofSheet settings hnodup]
    exact if_neg hcolumns
  · intro hlists
    exact ⟨fun name => exists_entry?_iff hnodup hlists,
      fun name entry => entry?_eq_some_iff hnodup hlists,
      fun row hrow => reason_entryOf hrow, encard_names hnodup hlists⟩
  · intro other reordered hother hheader hrows horder
    have hnamed : ∀ name, rowsNamed settings reordered name = rowsNamed settings sheet name :=
      horder.elim (fun hdiffer => rowsNamed_of_perm hdiffer hheader hrows) id
    have hentries := entry?_of_perm hnodup hheader hrows hnamed
    exact ⟨_, ofFile_some_eq_ok_iff.2 ⟨reordered, hother, rfl⟩,
      Keyed.perm_of_get? (nodup_keys_ofFrame _) (nodup_keys_ofFrame _) hentries, hentries⟩

/-- A file with a row without a name between two of one name, the last of which breaks off
before its reason, and a file of two persons in both orders. -/
theorem listed_by_last_rows_three_files :
    ∃ (repeated ordered reordered : Bytes) (listed watchlist relisted : Watchlist),
      repeated = Utf8.encode
        "full_name,watchlist_score,reason\njan  pereira,30,old\n,50,no\nJAN PEREIRA,70\n".toList ∧
      ofFile .default (some repeated) = .ok listed ∧
      listed.entry? "JAN PEREIRA".toList = some ⟨70, []⟩ ∧
      ordered = Utf8.encode
        "full_name,watchlist_score,reason\nana,x,new\n,50,no\njan,70\n".toList ∧
      ofFile .default (some ordered) = .ok watchlist ∧
      reordered = Utf8.encode
        "full_name,watchlist_score,reason\njan,70\nana,x,new\n,50,no\n".toList ∧
      ofFile .default (some reordered) = .ok relisted ∧
      relisted.Perm watchlist ∧ ∀ name, relisted.entry? name = watchlist.entry? name := by
  let header : List Text := [nameColumn, scoreColumn, reasonColumn]
  let first : List (Option Text) := ["jan  pereira", "30", "old"].map fun cell => some cell.toList
  let last : List (Option Text) := [some "JAN PEREIRA".toList, some "70".toList, none]
  let nameless : List (Option Text) := ["", "50", "no"].map fun cell => some cell.toList
  let ana : List (Option Text) := ["ana", "x", "new"].map fun cell => some cell.toList
  let jan : List (Option Text) := [some "jan".toList, some "70".toList, none]
  let names : Csv.Sheet := { header, rows := [first, nameless, last], skipped := 0 }
  let sheet : Csv.Sheet := { header, rows := [ana, nameless, jan], skipped := 0 }
  let other : Csv.Sheet := { header, rows := [jan, ana, nameless], skipped := 0 }
  have hnames : FileRead.sheet? .default (Utf8.encode
      "full_name,watchlist_score,reason\njan  pereira,30,old\n,50,no\nJAN PEREIRA,70\n".toList) =
        some names := by decide +kernel
  have hsheet : FileRead.sheet? .default (Utf8.encode
      "full_name,watchlist_score,reason\nana,x,new\n,50,no\njan,70\n".toList) =
        some sheet := by decide +kernel
  have hother : FileRead.sheet? .default (Utf8.encode
      "full_name,watchlist_score,reason\njan,70\nana,x,new\n,50,no\n".toList) =
        some other := by decide +kernel
  have hlast : LastNamed .default names "JAN PEREIRA".toList last := by
    refine ⟨[first, nameless], [], rfl, ⟨"JAN PEREIRA".toList, rfl, rfl, ?_⟩, by simp⟩
    decide +kernel
  have hdiffer : DifferentNames .default sheet := differentNames_iff.2 (by decide +kernel)
  obtain ⟨listed, hlisted, -, hentries, -⟩ := listed_by_last_rows hnames
  obtain ⟨watchlist, hwatchlist, -, -, horder⟩ := listed_by_last_rows hsheet
  obtain ⟨relisted, hrelisted, hperm, hsame⟩ :=
    horder _ other hother rfl (by decide) (.inl hdiffer)
  obtain ⟨-, hentry, -⟩ := hentries (by decide)
  have hjan := (hentry "JAN PEREIRA".toList ⟨70, []⟩).2 ⟨last, hlast, by decide +kernel⟩
  exact ⟨_, _, _, listed, watchlist, relisted, rfl, hlisted, hjan, rfl, hwatchlist, rfl,
    hrelisted, hperm, hsame⟩

end Watchlist

end RiskTally
