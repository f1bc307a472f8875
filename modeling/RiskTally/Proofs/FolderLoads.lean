import Mathlib.Algebra.Ring.Nat
import Mathlib.Data.List.Nodup
import RiskTally.Load

/-!
# What a folder loads as

A folder is a set of files under names that differ, listed in whatever order.  Loading
puts them in the order of their names first, so that the listing is forgotten there.  From
then on every list that loading makes is a selection from the files in that order: the
report of every file, the frames that are put together, and the warnings.  What becomes of
a file hangs on its own name and contents, so that a file which adds no rows adds its own
entry to the report and nothing else.

## Main results

* `Loading.outcome_eq_iff`: what becomes of a file, in four cases.
* `Loading.inOrder_eq_of_perm`: the one order of files under distinct names.
* `Loading.lists_filterMap`: a selection from the files in order.
* `Loading.load_by_names`: what a folder loads as.
-/

namespace RiskTally.Loading

/-! ## One file -/

/-- What becomes of a file: it is passed over unless its extension is `csv`, adds its rows
if it is a sheet that has some, and is left out otherwise. -/
inductive Becomes (settings : ReadSettings) (file : Text × Bytes) : Outcome → Prop where
  | notCsv : isCsv file.1 = false → Becomes settings file .notCsv
  | loaded {read} : isCsv file.1 = true → FileRead.ofBytes settings file.2 = .ok read →
      0 < read.frame.rows → Becomes settings file (.loaded read)
  | noRows {read} : isCsv file.1 = true → FileRead.ofBytes settings file.2 = .ok read →
      read.frame.rows = 0 → Becomes settings file .noRows
  | failed {fault} : isCsv file.1 = true → FileRead.ofBytes settings file.2 = .error fault →
      Becomes settings file (.failed fault)

/-- What is said of a file that should have been read and is left out. -/
inductive LeftOut (settings : ReadSettings) (file : Text × Bytes) : Text → Prop where
  | noRows : Becomes settings file .noRows → LeftOut settings file "empty file".toList
  | failed {fault} : Becomes settings file (.failed fault) →
      LeftOut settings file ("Decode error: ".toList ++ fault.message)

theorem becomes_outcome (settings : ReadSettings) (file : Text × Bytes) :
    Becomes settings file (outcome settings file.1 file.2) := by
  unfold outcome
  by_cases hcsv : isCsv file.1 = true
  · rw [if_pos hcsv]
    cases hread : FileRead.ofBytes settings file.2 with
    | error fault => exact .failed hcsv hread
    | ok read =>
        dsimp only
        by_cases hempty : read.frame.isEmpty = true
        · rw [if_pos hempty]
          exact .noRows hcsv hread (by simpa [Frame.isEmpty] using hempty)
        · rw [if_neg hempty]
          have hrows : read.frame.rows ≠ 0 := by simpa [Frame.isEmpty] using hempty
          exact .loaded hcsv hread (Nat.pos_of_ne_zero hrows)
  · rw [if_neg hcsv]
    exact .notCsv (by simpa using hcsv)

/-- One thing becomes of a file. -/
theorem Becomes.unique {settings : ReadSettings} {file : Text × Bytes} {a b : Outcome}
    (ha : Becomes settings file a) (hb : Becomes settings file b) : a = b := by
  cases ha <;> cases hb <;> simp_all

theorem outcome_eq_iff {settings : ReadSettings} {file : Text × Bytes} {result : Outcome} :
    outcome settings file.1 file.2 = result ↔ Becomes settings file result :=
  ⟨fun h => h ▸ becomes_outcome settings file, fun h => (becomes_outcome settings file).unique h⟩

/-- The file as it was read, if it adds rows. -/
def rowsOf? (settings : ReadSettings) (file : Text × Bytes) : Option FileRead :=
  match outcome settings file.1 file.2 with
  | .loaded read => some read
  | _ => none

theorem rowsOf?_eq_some_iff {settings : ReadSettings} {file : Text × Bytes} {read : FileRead} :
    rowsOf? settings file = some read ↔ Becomes settings file (.loaded read) := by
  rw [← outcome_eq_iff, rowsOf?]
  cases outcome settings file.1 file.2 <;> simp

/-- What is said of the file, if it is left out. -/
def faultOf? (settings : ReadSettings) (file : Text × Bytes) : Option Text :=
  Report.fault? ⟨file.1, outcome settings file.1 file.2⟩

theorem faultOf?_eq_some_iff {settings : ReadSettings} {file : Text × Bytes} {text : Text} :
    faultOf? settings file = some text ↔ LeftOut settings file text := by
  unfold faultOf? Report.fault?
  constructor
  · intro h
    cases hresult : outcome settings file.1 file.2 with
    | noRows =>
        rw [hresult] at h
        exact Option.some.inj h ▸ .noRows (outcome_eq_iff.1 hresult)
    | failed fault =>
        rw [hresult] at h
        exact Option.some.inj h ▸ .failed (outcome_eq_iff.1 hresult)
    | loaded read => simp [hresult] at h
    | notCsv => simp [hresult] at h
  · intro h
    cases h with
    | noRows h => rw [outcome_eq_iff.2 h]
    | failed h =>
        rw [outcome_eq_iff.2 h]
        rfl

/-! ## The order of the files -/

/-- The name comes before the other one. -/
def NamedBefore {α : Type} (a b : Text × α) : Prop :=
  Text.precedes a.1 b.1 = true ∧ a.1 ≠ b.1

theorem inOrder_perm (files : List (Text × Bytes)) : (inOrder files).Perm files :=
  List.mergeSort_perm _ _

theorem pairwise_inOrder (files : List (Text × Bytes)) :
    (inOrder files).Pairwise fun a b => Text.precedes a.1 b.1 = true := by
  refine List.pairwise_mergeSort ?_ ?_ files
  · intro a b c hab hbc
    exact Text.precedes_trans hab hbc
  · exact fun a b => Text.precedes_total a.1 b.1

/-- Files under distinct names are in order in one way only. -/
theorem inOrder_eq_of_perm {files ordered : List (Text × Bytes)} (h : ordered.Perm files)
    (hnames : (files.map Prod.fst).Nodup)
    (hordered : ordered.Pairwise fun a b => Text.precedes a.1 b.1 = true) :
    inOrder files = ordered := by
  have hperm : (inOrder files).Perm ordered := (inOrder_perm files).trans h.symm
  refine hperm.eq_of_pairwise ?_ (pairwise_inOrder files) hordered
  intro a b ha hb hab hba
  have ha' : a ∈ files := (inOrder_perm files).mem_iff.1 ha
  have hb' : b ∈ files := h.mem_iff.1 hb
  exact List.inj_on_of_nodup_map hnames ha' hb' (Text.precedes_antisymm hab hba)

/-- The listing of the files is forgotten. -/
theorem inOrder_perm_eq {files files' : List (Text × Bytes)} (h : files'.Perm files)
    (hnames : (files.map Prod.fst).Nodup) : inOrder files' = inOrder files :=
  (inOrder_eq_of_perm ((inOrder_perm files').trans h) hnames (pairwise_inOrder files')).symm

/-- A further file is put somewhere among the others. -/
theorem exists_inOrder_insert {files fewer : List (Text × Bytes)} {file : Text × Bytes}
    (h : files.Perm (file :: fewer)) (hnames : (files.map Prod.fst).Nodup) :
    ∃ before after, inOrder files = before ++ file :: after ∧
      inOrder fewer = before ++ after := by
  have hmem : file ∈ inOrder files := by
    rw [(inOrder_perm files).mem_iff, h.mem_iff]
    exact List.mem_cons_self
  obtain ⟨before, after, hsplit⟩ := List.append_of_mem hmem
  have hfewer : (before ++ after).Perm fewer := by
    have hall : (file :: (before ++ after)).Perm (file :: fewer) :=
      List.perm_middle.symm.trans (hsplit ▸ (inOrder_perm files).trans h)
    exact List.Perm.cons_inv hall
  have hordered : (before ++ after).Pairwise fun a b => Text.precedes a.1 b.1 = true := by
    have hwhole := pairwise_inOrder files
    rw [hsplit] at hwhole
    exact hwhole.sublist ((List.sublist_cons_self file after).append_left before)
  have hnames' : (fewer.map Prod.fst).Nodup := by
    have hwhole := (h.map Prod.fst).nodup_iff.1 hnames
    exact (List.nodup_cons.1 hwhole).2
  exact ⟨before, after, hsplit, inOrder_eq_of_perm hfewer hnames' hordered⟩

/-! ## Selections -/

/-- The entries that files have, in ascending order of the names of the files. -/
structure Lists {α : Type} (files : List (Text × Bytes)) (has : Text × Bytes → α → Prop)
    (entries : List (Text × α)) : Prop where
  ascending : entries.Pairwise NamedBefore
  mem_iff : ∀ name entry,
    (name, entry) ∈ entries ↔ ∃ contents, (name, contents) ∈ files ∧ has (name, contents) entry

/-- The files in order, each with its entry if it has one. -/
def select {α : Type} (pick? : Text × Bytes → Option α) (files : List (Text × Bytes)) :
    List (Text × α) :=
  (inOrder files).filterMap fun file => (pick? file).map fun entry => (file.1, entry)

theorem lists_select {α : Type} {pick? : Text × Bytes → Option α}
    {has : Text × Bytes → α → Prop}
    (hentry : ∀ file entry, pick? file = some entry ↔ has file entry)
    {files : List (Text × Bytes)} (hnames : (files.map Prod.fst).Nodup) :
    Lists files has (select pick? files) where
  ascending := by
    have hnodup : ((inOrder files).map Prod.fst).Nodup :=
      ((inOrder_perm files).map Prod.fst).nodup_iff.2 hnames
    have hordered : (inOrder files).Pairwise NamedBefore :=
      (pairwise_inOrder files).and (List.pairwise_map.1 hnodup)
    refine hordered.filterMap _ fun a b hab a' ha' b' hb' => ?_
    obtain ⟨_, _, rfl⟩ := Option.map_eq_some_iff.1 ha'
    obtain ⟨_, _, rfl⟩ := Option.map_eq_some_iff.1 hb'
    exact hab
  mem_iff name entry := by
    rw [select, List.mem_filterMap]
    constructor
    · rintro ⟨file, hfile, heq⟩
      obtain ⟨value, hvalue, heq⟩ := Option.map_eq_some_iff.1 heq
      obtain ⟨rfl, rfl⟩ := Prod.mk.inj heq
      exact ⟨file.2, (inOrder_perm files).mem_iff.1 hfile, (hentry _ _).1 hvalue⟩
    · rintro ⟨contents, hfile, hhas⟩
      exact ⟨(name, contents), (inOrder_perm files).mem_iff.2 hfile,
        by rw [(hentry _ _).2 hhas]; rfl⟩

/-- A file without an entry is not seen in the selection. -/
theorem select_of_none {α : Type} {pick? : Text × Bytes → Option α}
    {files fewer before after : List (Text × Bytes)} {file : Text × Bytes}
    (hfiles : inOrder files = before ++ file :: after) (hfewer : inOrder fewer = before ++ after)
    (h : pick? file = none) : select pick? files = select pick? fewer := by
  unfold select
  rw [hfiles, hfewer, List.filterMap_append, List.filterMap_append, List.filterMap_cons, h]
  rfl

theorem names_select_some {α : Type} (entry : Text × Bytes → α) (files : List (Text × Bytes)) :
    (select (fun file => some (entry file)) files).map Prod.fst = (inOrder files).map Prod.fst := by
  simp [select, List.filterMap_eq_map']

/-! ## Loading -/

variable (settings : ReadSettings)

theorem frames_eq (files : List (Text × Bytes)) :
    frames (reports settings files) =
      (select (rowsOf? settings) files).map fun entry => (entry.1, entry.2.frame) := by
  unfold frames reports select
  rw [List.filterMap_map, List.map_filterMap]
  congr 1
  funext file
  simp only [Function.comp, Report.frame?, rowsOf?]
  cases outcome settings file.1 file.2 <;> rfl

theorem warnings_eq (files : List (Text × Bytes)) :
    warnings (reports settings files) =
      (select (faultOf? settings) files).map fun entry => entry.1 ++ ": ".toList ++ entry.2 := by
  unfold warnings reports select
  rw [List.filterMap_map, List.map_filterMap]
  congr 1
  funext file
  simp only [Function.comp_def, faultOf?, Option.map_map]

theorem reports_eq (files : List (Text × Bytes)) :
    (reports settings files).map (fun report => (report.file, report.outcome)) =
      select (fun file => some (outcome settings file.1 file.2)) files := by
  simp [reports, select, Function.comp_def, List.filterMap_eq_map']

theorem load_of_frames_eq_nil {folder : Text} {files : List (Text × Bytes)}
    (h : frames (reports settings files) = []) :
    load settings folder files = .error (.noUsableFile folder) := by
  unfold load
  dsimp only
  rw [h]

theorem load_of_frames_ne_nil {folder : Text} {files : List (Text × Bytes)}
    (h : frames (reports settings files) ≠ []) :
    load settings folder files =
      .ok ⟨Dataset.concat (frames (reports settings files)), reports settings files⟩ := by
  unfold load
  dsimp only
  split
  · rename_i hnil
    exact absurd hnil h
  · rename_i hcons
    rw [hcons]

/-- The second load is the first with a further entry in its report, under the name. -/
inductive AddsEntry (name : Text) : Except LoadFault Loaded → Except LoadFault Loaded → Prop where
  | loaded {dataset before after} {entry : Report} : entry.file = name →
      AddsEntry name (.ok ⟨dataset, before ++ after⟩) (.ok ⟨dataset, before ++ entry :: after⟩)
  | refused {fault} : AddsEntry name (.error fault) (.error fault)

/-- A file without rows of its own adds its entry and nothing else. -/
theorem addsEntry_load {folder : Text} {files fewer : List (Text × Bytes)} {file : Text × Bytes}
    (h : files.Perm (file :: fewer)) (hnames : (files.map Prod.fst).Nodup)
    (hfile : ∀ read, ¬ Becomes settings file (.loaded read)) :
    AddsEntry file.1 (load settings folder fewer) (load settings folder files) := by
  obtain ⟨before, after, hall, hfewer⟩ := exists_inOrder_insert h hnames
  have hrows : rowsOf? settings file = none := by
    rw [Option.eq_none_iff_forall_ne_some]
    exact fun read hread => hfile read (rowsOf?_eq_some_iff.1 hread)
  have hframes : frames (reports settings files) = frames (reports settings fewer) := by
    rw [frames_eq, frames_eq, select_of_none hall hfewer hrows]
  by_cases hnil : frames (reports settings fewer) = []
  · rw [load_of_frames_eq_nil settings hnil, load_of_frames_eq_nil settings (hframes.trans hnil)]
    exact .refused
  · rw [load_of_frames_ne_nil settings hnil, load_of_frames_ne_nil settings (hframes ▸ hnil),
      hframes, reports, reports, hall, hfewer, List.map_append, List.map_append, List.map_cons]
    exact .loaded rfl

/-- A folder of files under distinct names loads as one thing, in whatever order the files
are listed.  Its report has one entry for each file, in ascending order of the names.  The
files that are used are the `csv` files that can be read and have rows; without any of them
the load is refused, and with some it gives their frames put together in that order, so
that the rows are those of the files and bear their names.  The warnings are about the
files that should have been used and could not be.  A file that is not used may be added or
removed, and only its own entry in the report comes or goes. -/
theorem load_by_names (folder : Text) {files : List (Text × Bytes)}
    (hnames : (files.map Prod.fst).Nodup) :
    (∀ files', files'.Perm files → load settings folder files' = load settings folder files) ∧
    (∃ results used leftOut,
      Lists files (Becomes settings) results ∧
      (results.map Prod.fst).Perm (files.map Prod.fst) ∧
      Lists files (fun file read => Becomes settings file (.loaded read)) used ∧
      Lists files (LeftOut settings) leftOut ∧
      (used = [] ↔ load settings folder files = .error (.noUsableFile folder)) ∧
      (used ≠ [] → ∃ loaded, load settings folder files = .ok loaded ∧
        loaded.reports.map (fun report => (report.file, report.outcome)) = results ∧
        loaded.dataset = Dataset.concat (used.map fun entry => (entry.1, entry.2.frame)) ∧
        loaded.dataset.rows = (used.map fun entry => entry.2.frame.rows).sum ∧
        loaded.dataset.sources =
          used.flatMap (fun entry => List.replicate entry.2.frame.rows entry.1) ∧
        warnings loaded.reports =
          leftOut.map fun entry => entry.1 ++ ": ".toList ++ entry.2)) ∧
    ∀ (file : Text × Bytes) (fewer : List (Text × Bytes)), files.Perm (file :: fewer) →
      (∀ read, ¬ Becomes settings file (.loaded read)) →
      AddsEntry file.1 (load settings folder fewer) (load settings folder files) := by
  refine ⟨fun files' h => ?_, ?_, fun file fewer h hfile => ?_⟩
  · have hreports : reports settings files' = reports settings files := by
      rw [reports, inOrder_perm_eq h hnames, reports]
    rw [load, hreports, load]
  · have hused : frames (reports settings files) = [] ↔ select (rowsOf? settings) files = [] := by
      rw [frames_eq, List.map_eq_nil_iff]
    refine ⟨select (fun file => some (outcome settings file.1 file.2)) files,
      select (rowsOf? settings) files, select (faultOf? settings) files,
      lists_select (fun file result => ?_) hnames, ?_,
      lists_select (fun _ _ => rowsOf?_eq_some_iff) hnames,
      lists_select (fun _ _ => faultOf?_eq_some_iff) hnames, ?_, fun hsome => ?_⟩
    · rw [Option.some_inj, outcome_eq_iff]
    · rw [names_select_some]
      exact (inOrder_perm files).map Prod.fst
    · rw [← hused, load_eq_error_iff]
      simp
    · refine ⟨_, load_of_frames_ne_nil settings fun hnil => hsome (hused.1 hnil),
        reports_eq settings files, ?_, ?_, ?_, warnings_eq settings files⟩
      · rw [frames_eq]
      · simp [Dataset.rows, Dataset.concat, frames_eq, List.length_flatMap, Function.comp_def]
      · simp [Dataset.concat, frames_eq, List.flatMap_map]
  · exact addsEntry_load settings h hnames hfile

/-- Two sheets with rows, one of them in capitals, a sheet without rows, an empty file and a
file that is no sheet by its name, listed out of order. -/
theorem load_by_names_five_files :
    ∃ (files : List (Text × Bytes)) (loaded : Loaded), (files.map Prod.fst).Nodup ∧
      load .default "dataset".toList files = .ok loaded ∧
      load .default "dataset".toList files.reverse = .ok loaded ∧
      loaded.reports.map Report.file =
        ["A.CSV", "b.csv", "c.csv", "d.csv", "e.txt"].map String.toList ∧
      loaded.dataset.sources = ["A.CSV", "b.csv", "b.csv"].map String.toList ∧
      warnings loaded.reports =
        ["c.csv: empty file", "d.csv: Decode error: no columns to parse from file"].map
          String.toList ∧
      AddsEntry "d.csv".toList (load .default "dataset".toList files.tail)
        (load .default "dataset".toList files) := by
  let a : Text × Bytes := ("A.CSV".toList, Utf8.encode "City\nRome\n".toList)
  let b : Text × Bytes := ("b.csv".toList, Utf8.encode "Age\n70\n80\n".toList)
  let c : Text × Bytes := ("c.csv".toList, Utf8.encode "Age\n".toList)
  let d : Text × Bytes := ("d.csv".toList, [])
  let e : Text × Bytes := ("e.txt".toList, Utf8.encode "Age\n4\n".toList)
  have hnames : ([d, b, e, c, a].map Prod.fst).Nodup := by decide
  have hd : ∀ read, ¬ Becomes .default d (.loaded read) := by
    intro read hread
    have hfailed : outcome .default d.1 d.2 = .failed .noColumns := rfl
    rw [outcome_eq_iff.2 hread] at hfailed
    simp at hfailed
  obtain ⟨horder, ⟨results, used, leftOut, -, -, -, -, hnone, hsome⟩, hadds⟩ :=
    load_by_names .default "dataset".toList hnames
  have hordered : inOrder [d, b, e, c, a] = [a, b, c, d, e] :=
    inOrder_eq_of_perm (by decide +kernel) hnames (by decide +kernel)
  have hseen : (load .default "dataset".toList [d, b, e, c, a]).toOption.map (fun loaded =>
      (loaded.reports.map Report.file, loaded.dataset.sources, warnings loaded.reports)) =
        some (["A.CSV", "b.csv", "c.csv", "d.csv", "e.txt"].map String.toList,
          ["A.CSV", "b.csv", "b.csv"].map String.toList,
          ["c.csv: empty file", "d.csv: Decode error: no columns to parse from file"].map
            String.toList) := by
    unfold load reports
    rw [hordered]
    decide +kernel
  have hused : used ≠ [] := by
    intro hnil
    rw [hnone.1 hnil] at hseen
    simp [Except.toOption] at hseen
  obtain ⟨loaded, hload, -⟩ := hsome hused
  rw [hload] at hseen
  simp only [Except.toOption, Option.map_some, Option.some.injEq, Prod.mk.injEq] at hseen
  exact ⟨[d, b, e, c, a], loaded, hnames, hload,
    (horder _ (List.reverse_perm _)).trans hload, hseen.1, hseen.2.1, hseen.2.2,
    hadds d [b, e, c, a] (.refl _) hd⟩

end RiskTally.Loading
