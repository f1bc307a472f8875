import Mathlib.Algebra.Ring.Nat
import RiskTally.Proofs.ExportedSheets

/-!
# Files put together, row by row

A dataset is put together column by column: a column is what each file has under its name,
one file after the other.  It comes to the same to go over the files once and let all columns
grow, moving the cells out of each file as they are used.  What carries this over is that
before each file every column is as long as the rows so far, and that taking one column out of
a file leaves the others where they are found.  So every cell of a file has one place, in the
row that its own row becomes.

## Main results

* `Keyed.get?_swapRemove`: taking a value out leaves the others under their names.
* `Dataset.takeIn_upTo`, `Dataset.foldl_takeIn`: one file, and all files, taken in.
* `Dataset.unionNames_eq`: the columns of files, in the order of their first appearance.
* `Dataset.concat_by_rows`: the cells of files put together.
-/

namespace RiskTally

/-! ## Taking a value out of a table -/

namespace Keyed

variable {α : Type}

/-- The value under a name, and the table without it.  The last entry comes in its place. -/
def swapRemove (name : Text) : Keyed α → Option α × Keyed α
  | [] => (none, [])
  | (key, value) :: table =>
    if key = name then
      (some value, match table.getLast? with
        | some last => last :: table.dropLast
        | none => [])
    else
      let (taken, left) := swapRemove name table
      (taken, (key, value) :: left)

/-- A table whose names differ finds the same values when its entries are put in another
order. -/
theorem get?_perm {table table' : Keyed α} (h : table.Perm table') (hkeys : table.keys.Nodup)
    (name : Text) : table'.get? name = table.get? name := by
  have hkeys' : table'.keys.Nodup := (h.map Prod.fst).nodup_iff.1 hkeys
  cases hvalue : table.get? name with
  | none =>
      rw [get?_eq_none_iff] at hvalue ⊢
      exact fun hmem => hvalue ((h.map Prod.fst).mem_iff.2 hmem)
  | some value => exact get?_of_mem hkeys' (h.mem_iff.1 (mem_of_get? hvalue))

/-- The table is the value that is taken out and what is left; nothing is taken out under a
name that is not there. -/
theorem swapRemove_perm (name : Text) (table : Keyed α) :
    table.Perm (((swapRemove name table).1.map fun value => (name, value)).toList ++
      (swapRemove name table).2) := by
  induction table with
  | nil => exact .nil
  | cons entry table ih =>
      obtain ⟨key, value⟩ := entry
      by_cases hkey : key = name
      · subst hkey
        rw [swapRemove, if_pos rfl]
        refine List.Perm.cons _ ?_
        cases hlast : table.getLast? with
        | none =>
            rw [List.getLast?_eq_none_iff.1 hlast]
            exact .nil
        | some last =>
            have hsplit : table.dropLast ++ [last] = table :=
              List.dropLast_append_getLast? last hlast
            have hfront : (table.dropLast ++ [last]).Perm (last :: table.dropLast) :=
              List.perm_append_comm
            rw [hsplit] at hfront
            exact hfront
      · rw [swapRemove, if_neg hkey]
        exact (ih.cons _).trans List.perm_middle.symm

theorem fst_swapRemove (name : Text) (table : Keyed α) :
    (swapRemove name table).1 = table.get? name := by
  induction table with
  | nil => rfl
  | cons entry table ih =>
      obtain ⟨key, value⟩ := entry
      by_cases hkey : key = name
      · simp [swapRemove, get?, hkey]
      · simpa [swapRemove, get?, hkey] using ih

theorem nodup_keys_swapRemove {table : Keyed α} (h : table.keys.Nodup) (name : Text) :
    (swapRemove name table).2.keys.Nodup := by
  have hall := ((swapRemove_perm name table).map Prod.fst).nodup_iff.1 h
  rw [List.map_append] at hall
  exact (List.nodup_append.1 hall).2.1

/-- Taking a value out leaves the others under their names. -/
theorem get?_swapRemove {table : Keyed α} (h : table.keys.Nodup) {name other : Text}
    (hne : other ≠ name) : (swapRemove name table).2.get? other = table.get? other := by
  have hperm := swapRemove_perm name table
  have hall := get?_perm hperm h other
  rw [← hall]
  cases (swapRemove name table).1 with
  | none => rfl
  | some value => exact (if_neg hne.symm).symm

end Keyed

namespace Dataset

/-! ## Growing columns -/

/-- The columns with the rows of a file at their ends.  What the file has under a name is
taken out of it; where it has nothing there the rows stay empty. -/
def grow (rows : Nat) : Keyed (List Cell) → Keyed (List Cell) → Keyed (List Cell)
  | [], _ => []
  | (name, cells) :: columns, own =>
    let (taken, left) := own.swapRemove name
    (name, cells ++ taken.getD (List.replicate rows .null)) :: grow rows columns left

/-- The dataset with the rows of a file after its own. -/
def takeIn (dataset : Dataset) (file : Text × Frame) : Dataset where
  columns := grow file.2.rows dataset.columns file.2.columns
  sources := dataset.sources ++ List.replicate file.2.rows file.1

/-- Columns without rows. -/
def blank (names : List Text) : Dataset where
  columns := names.map fun name => (name, [])
  sources := []

/-- Under names that differ every column grows by what the file has under its own name: no
earlier column has taken it. -/
theorem grow_map {rows : Nat} {names : List Text} (hnames : names.Nodup)
    {own : Keyed (List Cell)} (hown : own.keys.Nodup) (cells : Text → List Cell) :
    grow rows (names.map fun name => (name, cells name)) own =
      names.map fun name =>
        (name, cells name ++ (own.get? name).getD (List.replicate rows .null)) := by
  induction names generalizing own with
  | nil => rfl
  | cons name names ih =>
      obtain ⟨hname, hrest⟩ := List.nodup_cons.1 hnames
      rw [List.map_cons, List.map_cons, grow]
      dsimp only
      rw [ih hrest (Keyed.nodup_keys_swapRemove hown name), Keyed.fst_swapRemove]
      refine congrArg _ (List.map_congr_left fun other hother => ?_)
      have hne : other ≠ name := fun hsame => hname (hsame ▸ hother)
      rw [Keyed.get?_swapRemove hown hne]

/-- The files so far, under the names of all. -/
def upTo (names : List Text) (files : List (Text × Frame)) : Dataset where
  columns := names.map fun name => (name, files.flatMap (cellsIn name))
  sources := files.flatMap fun file => List.replicate file.2.rows file.1

/-- A file is taken in. -/
theorem takeIn_upTo {names : List Text} (hnames : names.Nodup) (files : List (Text × Frame))
    {file : Text × Frame} (hfile : file.2.columns.keys.Nodup) :
    (upTo names files).takeIn file = upTo names (files ++ [file]) := by
  unfold upTo takeIn
  rw [Dataset.mk.injEq]
  refine ⟨?_, by simp⟩
  rw [grow_map hnames hfile]
  refine List.map_congr_left fun name _ => ?_
  rw [List.flatMap_append, List.flatMap_singleton]
  rfl

/-- Files are taken in, one after the other. -/
theorem foldl_takeIn_upTo {names : List Text} (hnames : names.Nodup)
    (files : List (Text × Frame)) {more : List (Text × Frame)}
    (hmore : ∀ file ∈ more, file.2.columns.keys.Nodup) :
    more.foldl takeIn (upTo names files) = upTo names (files ++ more) := by
  induction more generalizing files with
  | nil => simp
  | cons file more ih =>
      have hrest := fun other hother => hmore other (List.mem_cons_of_mem _ hother)
      rw [List.foldl_cons, takeIn_upTo hnames files (hmore file (by simp)), ih _ hrest,
        List.append_assoc, List.singleton_append]

/-- Going over the files once and letting all columns grow gives the files put together. -/
theorem foldl_takeIn {files : List (Text × Frame)}
    (h : ∀ file ∈ files, file.2.columns.keys.Nodup) :
    files.foldl takeIn (blank (unionNames files)) = concat files :=
  foldl_takeIn_upTo (nodup_unionNames files) [] h

/-! ## The names of the columns -/

theorem eraseDups_concat (names : List Text) (name : Text) :
    (names ++ [name]).eraseDups =
      if name ∈ names then names.eraseDups else names.eraseDups ++ [name] := by
  rw [List.eraseDups_append]
  by_cases hmem : name ∈ names <;> simp [List.removeAll, List.eraseDups_cons, hmem]

/-- To the names that were seen, each once, come those of `more` that were not. -/
theorem addNames_eraseDups (seen more : List Text) :
    addNames seen.eraseDups more = (seen ++ more.filter (· ≠ sourceColumn)).eraseDups := by
  induction more generalizing seen with
  | nil => simp [addNames]
  | cons name more ih =>
      show addNames (if name = sourceColumn || seen.eraseDups.contains name then seen.eraseDups
        else seen.eraseDups ++ [name]) more = _
      by_cases hsource : name = sourceColumn
      · rw [if_pos (by simp [hsource]), ih, List.filter_cons_of_neg (by simp [hsource])]
      · have hstep : (if name = sourceColumn || seen.eraseDups.contains name then seen.eraseDups
            else seen.eraseDups ++ [name]) = (seen ++ [name]).eraseDups := by
          rw [eraseDups_concat]
          simp [hsource]
        rw [hstep, ih, List.filter_cons_of_pos (by simp [hsource]), List.append_assoc,
          List.singleton_append]

/-- The columns of files put together, in the order of their first appearance. -/
theorem unionNames_eq (files : List (Text × Frame)) :
    unionNames files =
      ((files.flatMap fun file => file.2.columns.keys).filter (· ≠ sourceColumn)).eraseDups := by
  suffices ∀ seen : List Text,
      files.foldl (fun names file => addNames names file.2.columns.keys) seen.eraseDups =
        (seen ++ (files.flatMap fun file => file.2.columns.keys).filter
          (· ≠ sourceColumn)).eraseDups from this []
  induction files with
  | nil => simp
  | cons file files ih =>
      intro seen
      rw [List.foldl_cons, addNames_eraseDups, ih, List.flatMap_cons, List.filter_append,
        List.append_assoc]

/-! ## The places of the rows -/

/-- The number of rows of the files before a file. -/
def rowsBefore (files : List (Text × Frame)) (place : Nat) : Nat :=
  ((files.take place).map fun file => file.2.rows).sum

theorem rows_concat (files : List (Text × Frame)) :
    (concat files).rows = (files.map fun file => file.2.rows).sum := by
  induction files with
  | nil => rfl
  | cons file files ih => rw [rows_concat_cons, ih, List.map_cons, List.sum_cons]

theorem rowsBefore_zero (files : List (Text × Frame)) : rowsBefore files 0 = 0 := rfl

theorem rowsBefore_cons_succ (file : Text × Frame) (files : List (Text × Frame)) (place : Nat) :
    rowsBefore (file :: files) (place + 1) = file.2.rows + rowsBefore files place := by
  rw [rowsBefore, List.take_succ_cons, List.map_cons, List.sum_cons]
  rfl

/-- Where each file has one entry per row, the entries of a row are found at its place. -/
theorem getElem?_flatMap {α : Type} {files : List (Text × Frame)}
    {entries : Text × Frame → List α} (hentries : ∀ file ∈ files, (entries file).length = file.2.rows)
    {place : Nat} {file : Text × Frame} (hfile : files[place]? = some file) {row : Nat}
    (hrow : row < file.2.rows) :
    (files.flatMap entries)[rowsBefore files place + row]? = (entries file)[row]? := by
  induction files generalizing place with
  | nil => simp at hfile
  | cons first files ih =>
      have hfirst := hentries first (by simp)
      rw [List.flatMap_cons]
      cases place with
      | zero =>
          obtain rfl : first = file := Option.some.inj hfile
          rw [rowsBefore_zero, Nat.zero_add, List.getElem?_append_left (by omega)]
      | succ place =>
          have hrest := ih (fun other hother => hentries other (List.mem_cons_of_mem _ hother)) hfile
          rw [rowsBefore_cons_succ, List.getElem?_append_right (by omega), ← hrest]
          congr 1
          omega

/-- Every row is one row of one file. -/
theorem existsUnique_origin {files : List (Text × Frame)} {row : Nat}
    (h : row < (concat files).rows) :
    ∃! origin : Nat × Nat, ∃ file, files[origin.1]? = some file ∧ origin.2 < file.2.rows ∧
      row = rowsBefore files origin.1 + origin.2 := by
  induction files generalizing row with
  | nil => exact absurd h (by simp [rows_concat_nil])
  | cons first files ih =>
      rw [rows_concat_cons] at h
      by_cases hfirst : row < first.2.rows
      · refine ⟨(0, row), ⟨first, rfl, hfirst, by simp [rowsBefore_zero]⟩, ?_⟩
        rintro ⟨place, own⟩ ⟨file, hfile, hown, hrow⟩
        cases place with
        | zero => simpa [rowsBefore_zero] using hrow.symm
        | succ place =>
            rw [rowsBefore_cons_succ] at hrow
            omega
      · have hrest : row - first.2.rows < (concat files).rows := by omega
        obtain ⟨⟨place, own⟩, ⟨file, hfile, hown, hrow⟩, hunique⟩ := ih hrest
        dsimp only at hfile hown hrow
        refine ⟨(place + 1, own), ⟨file, hfile, hown, ?_⟩, ?_⟩
        · rw [rowsBefore_cons_succ]
          omega
        · rintro ⟨place', own'⟩ ⟨file', hfile', hown', hrow'⟩
          dsimp only at hfile' hown' hrow'
          cases place' with
          | zero =>
              obtain rfl : first = file' := Option.some.inj hfile'
              rw [rowsBefore_zero] at hrow'
              omega
          | succ place' =>
              rw [rowsBefore_cons_succ] at hrow'
              have hsame := hunique (place', own') ⟨file', hfile', hown', by dsimp only; omega⟩
              obtain ⟨rfl, rfl⟩ := Prod.mk.inj hsame
              rfl

/-! ## The cells of the rows -/

/-- The cell of a row under the name of a column: that of its own file, or nothing. -/
theorem getElem?_column {files : List (Text × Frame)}
    (h : ∀ file ∈ files, file.2.Rectangular) (name : Text) {place : Nat} {file : Text × Frame}
    (hfile : files[place]? = some file) {row : Nat} (hrow : row < file.2.rows) :
    (files.flatMap (cellsIn name))[rowsBefore files place + row]? =
      match file.2.column? name with
      | some cells => cells[row]?
      | none => some .null := by
  rw [getElem?_flatMap (fun other hother => length_cellsIn (h other hother) name) hfile hrow,
    cellsIn]
  cases file.2.column? name with
  | some cells => rfl
  | none => simp [hrow]

/-- Files whose columns are as long as they have rows make up a dataset of all their rows.  Its
columns are those of the files, in the order of their first appearance, without any that has
the name of the file column.  Row by row stand in it the cells that the file of the row has
there, nothing where that file lacks the column, and under the name of the file column the
file.  Every row of the dataset is one row of one file.  The columns can as well be grown file
by file, each cell being taken out of its file. -/
theorem concat_by_rows {files : List (Text × Frame)} (h : ∀ file ∈ files, file.2.Rectangular) :
    let dataset := concat files
    dataset.rows = (files.map fun file => file.2.rows).sum ∧
    dataset.columnNames =
      ((files.flatMap fun file => file.2.columns.keys).filter (· ≠ sourceColumn)).eraseDups ∧
    (∀ name ∈ dataset.columnNames, ∃ cells, dataset.column? name = some cells ∧
      cells.length = dataset.rows ∧
      ∀ place file row, files[place]? = some file → row < file.2.rows →
        cells[rowsBefore files place + row]? =
          match file.2.column? name with
          | some own => own[row]?
          | none => some .null) ∧
    (∀ name, name ∉ dataset.columnNames → name ≠ sourceColumn → dataset.column? name = none) ∧
    (∀ place file row, files[place]? = some file → row < file.2.rows →
      dataset.sources[rowsBefore files place + row]? = some file.1) ∧
    dataset.column? sourceColumn = some (dataset.sources.map .text) ∧
    (∀ row < dataset.rows, ∃! origin : Nat × Nat, ∃ file, files[origin.1]? = some file ∧
      origin.2 < file.2.rows ∧ row = rowsBefore files origin.1 + origin.2) ∧
    ((∀ file ∈ files, file.2.columns.keys.Nodup) →
      files.foldl takeIn (blank (unionNames files)) = dataset) := by
  intro dataset
  have hnames : dataset.columnNames = unionNames files := columnNames_concat files
  refine ⟨rows_concat files, hnames.trans (unionNames_eq files), fun name hname => ?_,
    fun name hname hsource => ?_, fun place file row hfile hrow => ?_,
    column?_sourceColumn dataset, fun row hrow => existsUnique_origin hrow, foldl_takeIn⟩
  · have hmem : name ∈ unionNames files := hnames ▸ hname
    have hsource : name ≠ sourceColumn := fun hsame =>
      sourceColumn_not_mem files (hsame ▸ hname)
    have hcells : dataset.column? name = some (files.flatMap (cellsIn name)) := by
      rw [column?, if_neg hsource]
      exact (get?_map_names _).trans (if_pos hmem)
    have hlength : (files.flatMap (cellsIn name)).length = dataset.rows :=
      rectangular_concat h (name, _) (List.mem_map_of_mem hmem)
    exact ⟨_, hcells, hlength, fun place file row hfile hrow => getElem?_column h name hfile hrow⟩
  · rw [column?, if_neg hsource]
    exact Keyed.get?_eq_none_iff.2 hname
  · have hlengths : ∀ file ∈ files, (List.replicate file.2.rows file.1).length = file.2.rows :=
      fun _ _ => List.length_replicate
    exact (getElem?_flatMap hlengths hfile hrow).trans (by simp [hrow])

/-- Three files, one without rows and one with a column for the files, whose columns overlap
in part: the cell of the last row under a name that its file has second, and under one that it
lacks. -/
theorem concat_by_rows_three_files :
    ∃ files : List (Text × Frame), (∀ file ∈ files, file.2.Rectangular) ∧
      (∀ file ∈ files, file.2.columns.keys.Nodup) ∧
      (concat files).rows = 3 ∧
      (concat files).columnNames = ["x".toList, "z".toList, "y".toList] ∧
      (∃ cells, (concat files).column? "x".toList = some cells ∧ cells.length = 3 ∧
        cells[2]? = some (.integer 3)) ∧
      (∃ cells, (concat files).column? "z".toList = some cells ∧ cells[2]? = some .null) ∧
      (concat files).sources[2]? = some "c.csv".toList ∧
      files.foldl takeIn (blank (unionNames files)) = concat files := by
  let last : Text × Frame := ("c.csv".toList,
    ⟨[("y".toList, [.boolean true]), ("x".toList, [.integer 3]),
      (sourceColumn, [.text "a.csv".toList])], 1⟩)
  let files : List (Text × Frame) :=
    [("a.csv".toList, ⟨[("x".toList, [.integer 1, .integer 2])], 2⟩),
      ("b.csv".toList, ⟨[("z".toList, [])], 0⟩), last]
  have hfiles : ∀ file ∈ files, file.2.Rectangular := by
    show ∀ file ∈ files, ∀ column ∈ file.2.columns, column.2.length = file.2.rows
    decide
  have hkeys : ∀ file ∈ files, file.2.columns.keys.Nodup := by decide
  have hlast : files[2]? = some last := rfl
  have hrow : 0 < last.2.rows := by decide
  obtain ⟨hrows, hnames, hcolumns, -, hsources, -, -, hgrown⟩ := concat_by_rows hfiles
  have hnames' : (concat files).columnNames = ["x".toList, "z".toList, "y".toList] :=
    hnames.trans (by decide)
  obtain ⟨cells, hcells, hlength, hcell⟩ := hcolumns "x".toList (hnames' ▸ by decide)
  obtain ⟨others, hothers, -, hother⟩ := hcolumns "z".toList (hnames' ▸ by decide)
  exact ⟨files, hfiles, hkeys, hrows, hnames', ⟨cells, hcells, hlength.trans hrows,
    hcell 2 last 0 hlast hrow⟩, ⟨others, hothers, hother 2 last 0 hlast hrow⟩,
    hsources 2 last 0 hlast hrow, hgrown hkeys⟩

end Dataset

end RiskTally
