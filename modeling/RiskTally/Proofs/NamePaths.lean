import Mathlib.Data.Fintype.EquivFin
import Mathlib.Tactic.TFAE
import RiskTally.Proofs.Queries

/-!
# Four ways to find a person

A person is found by a rule that lists names, by a watchlist, by a query, and by the raw
names of the rows.  Each way brings names into canonical form on its own: the rule reads
its list out of quotes and commas, the watchlist keys its entries, the query takes what
was asked for, and the rows put two columns together or read a single one.  All four come
to the same rows.

## Main results

* `Expression.unquote_quoted`: a name comes out of its quotes as it went in.
* `Expression.evaluate_nameRule`: a rule that lists names selects the rows of those names.
* `Expression.evaluate_nameRule_union`: a rule of several names joins the rules of each.
* `Watchlist.listed_ofEntries_iff`: a watchlist of one name knows that name only.
* `Profile.counts_iff`: a profile counts the rows of the name and no other.
* `NameSource.getElem?_rawNames`: the raw name of a row, from its own cells.
* `Report.name_paths_agree`: the four ways select the same rows.
-/

namespace RiskTally

/-! ## Rules that list names -/

namespace Expression

/-- The two kinds of quotes that are dropped around a literal. -/
def quoteMarks : Text :=
  ['"', '\'']

/-- A name that can be written in quotes in a list: on one line, without a comma, and with
no quote character at either end. -/
structure Quotable (name : Text) : Prop where
  comma : ',' ∉ name
  line : '\n' ∉ name
  first : ∀ quote ∈ quoteMarks, name.head? ≠ some quote
  last : ∀ quote ∈ quoteMarks, name.getLast? ≠ some quote

/-- A name in double quotes. -/
def quoted (name : Text) : Text :=
  '"' :: (name ++ ['"'])

/-- The names in quotes, with a comma and some spaces between each two. -/
def nameList (spaces : Nat) (names : List Text) : Text :=
  (',' :: List.replicate spaces ' ').intercalate (names.map quoted)

/-- The rule that the person of a row is one of those named. -/
def nameRule (spaces : Nat) (names : List Text) : Text :=
  "full_name in [".toList ++ (nameList spaces names ++ [']'])

/-- A name comes out of its quotes as it went in, whatever blanks stand before them. -/
theorem unquote_quoted {name : Text} (h : Quotable name) (spaces : Nat) :
    unquote (List.replicate spaces ' ' ++ quoted name) = name := by
  have hblank : ∀ c ∈ List.replicate spaces ' ', Text.isBlank c = true := by
    intro c hc
    rw [List.eq_of_mem_replicate hc]
    rfl
  have houter : Text.trim (List.replicate spaces ' ' ++ quoted name) = quoted name := by
    rw [Text.trim, Text.trimOf_append_left hblank, Text.trimOf_eq_self_iff, quoted,
      ← List.cons_append, List.getLast?_concat]
    simp [Text.isBlank]
  have hdouble : Text.trimOf (· == '"') (quoted name) = Text.trimOf (· == '"') name := by
    rw [quoted, ← List.singleton_append, Text.trimOf_append_left (by simp),
      Text.trimOf_append_right (by simp)]
  have hkept : ∀ quote ∈ quoteMarks, Text.trimOf (· == quote) name = name := by
    intro quote hquote
    refine Text.trimOf_eq_self_iff.2 ⟨fun c hc => ?_, fun c hc => ?_⟩
    · exact beq_eq_false_iff_ne.2 fun heq => h.first quote hquote (heq ▸ hc)
    · exact beq_eq_false_iff_ne.2 fun heq => h.last quote hquote (heq ▸ hc)
  rw [unquote, houter, hdouble, hkept _ (by decide), hkept _ (by decide)]

/-- Spaces after the commas belong to the parts that follow. -/
theorem intercalate_cons_append (c : Char) (gap : Text) (part : Text) (parts : List Text) :
    (c :: gap).intercalate (part :: parts) =
      [c].intercalate (part :: parts.map fun other => gap ++ other) := by
  induction parts generalizing part with
  | nil => simp [List.intercalate]
  | cons next parts ih =>
      have hrest := ih next
      cases parts with
      | nil => simp [List.intercalate]
      | cons third parts =>
          rw [List.intercalate_cons_cons] at hrest
          rw [List.intercalate_cons_cons, List.intercalate_cons_cons, hrest]
          simp [List.intercalate_cons_cons]

/-- Names without commas are the literals of the list that they make. -/
theorem literals_nameList {names : List Text} (hne : names ≠ [])
    (h : ∀ name ∈ names, Quotable name) (spaces : Nat) :
    literals (nameList spaces names) = names := by
  obtain ⟨name, names, rfl⟩ := List.exists_cons_of_ne_nil hne
  have hcomma : ∀ part ∈ quoted name :: (names.map quoted).map
      (fun other => List.replicate spaces ' ' ++ other), ',' ∉ part := by
    intro part hpart
    rcases List.mem_cons.1 hpart with rfl | hpart
    · simpa [quoted] using (h name (by simp)).comma
    · obtain ⟨_, hother, rfl⟩ := List.mem_map.1 hpart
      obtain ⟨other, hmem, rfl⟩ := List.mem_map.1 hother
      simpa [quoted] using (h other (by simp [hmem])).comma
  have hrest : ((names.map quoted).map fun other => List.replicate spaces ' ' ++ other).map
      unquote = names := by
    rw [List.map_map, List.map_map]
    refine (List.map_congr_left fun other hother => ?_).trans (List.map_id names)
    exact unquote_quoted (h other (by simp [hother])) spaces
  rw [literals, nameList, List.map_cons, intercalate_cons_append,
    List.splitOn_intercalate _ hcomma (by simp), List.map_cons, hrest]
  exact congrArg (· :: names) (unquote_quoted (h name (by simp)) 0)

theorem head?_nameRule (spaces : Nat) (names : List Text) :
    (nameRule spaces names).head? = some 'f' := by
  unfold nameRule
  exact List.head?_append_of_ne_nil _ (by decide)

theorem getLast?_nameRule (spaces : Nat) (names : List Text) :
    (nameRule spaces names).getLast? = some ']' := by
  unfold nameRule
  rw [← List.append_assoc]
  exact List.getLast?_concat

theorem leading?_nameRule {names : List Text} (hne : names ≠ [])
    (h : ∀ name ∈ names, Quotable name) (spaces : Nat) :
    Predicate.leading? (nameRule spaces names) = some (.nameIn names) := by
  have hline : '\n' ∉ nameList spaces names := by
    refine Text.not_mem_intercalate (by simp) fun part hpart => ?_
    obtain ⟨name, hname, rfl⟩ := List.mem_map.1 hpart
    simpa [quoted] using (h name hname).line
  have hlist : Predicate.bracketed? "full_name".toList (nameRule spaces names) = some names :=
    Predicate.bracketed?_eq_some_iff.2
      ⟨nameList spaces names, hline, rfl, (literals_nameList hne h spaces).symm⟩
  have hfunction : ∀ function : Text, (function ++ ['(']).head? ≠ some 'f' →
      Predicate.argument? function (nameRule spaces names) = none := by
    intro function hhead
    rw [Option.eq_none_iff_forall_ne_some]
    intro argument hargument
    obtain ⟨body, -, -, htext, -⟩ := Predicate.argument?_eq_some_iff.1 hargument
    have hfirst := head?_nameRule spaces names
    rw [htext, List.head?_append_of_ne_nil _ (by simp)] at hfirst
    exact hhead hfirst
  rw [Predicate.leading?, hfunction _ (by decide), hfunction _ (by decide), hlist]
  rfl

/-- A rule that lists names selects the rows whose canonical name is that of one of them. -/
theorem evaluate_nameRule {context : Context} (hcontext : context.Rectangular)
    {names : List Text} (hne : names ≠ []) (h : ∀ name ∈ names, Quotable name) (spaces : Nat) :
    evaluate (nameRule spaces names) context =
      .ok (context.names.map fun name => (names.map normalizeName).contains name) := by
  have htrim : Text.trim (nameRule spaces names) = nameRule spaces names := by
    rw [Text.trim, Text.trimOf_eq_self_iff, head?_nameRule, getLast?_nameRule]
    refine ⟨fun c hc => ?_, fun c hc => ?_⟩
    · obtain rfl := Option.some.inj hc
      decide
    · obtain rfl := Option.some.inj hc
      decide
  rw [evaluate_eq_ok hcontext, htrim, maskOf, parse_of_leading (leading?_nameRule hne h spaces)]
  rfl

/-- What a rule that lists names says of a row. -/
theorem getElem?_nameMask_iff (asked names : List Text) (row : Nat) :
    (names.map fun name => (asked.map normalizeName).contains name)[row]? = some true ↔
      ∃ name ∈ asked, names[row]? = some (normalizeName name) := by
  rw [List.getElem?_map]
  cases names[row]? with
  | none => simp
  | some name => simp [eq_comm]

/-- A rule that lists several names selects the rows that the rules of the single names
select. -/
theorem evaluate_nameRule_union {context : Context} (hcontext : context.Rectangular)
    {names : List Text} (hne : names ≠ []) (h : ∀ name ∈ names, Quotable name) (spaces : Nat) :
    ∃ mask, evaluate (nameRule spaces names) context = .ok mask ∧ mask.length = context.rows ∧
      ∀ row : Nat, mask[row]? = some true ↔ ∃ name ∈ names, ∃ single,
        evaluate (nameRule spaces [name]) context = .ok single ∧ single[row]? = some true := by
  have hsingle : ∀ name ∈ names, evaluate (nameRule spaces [name]) context =
      .ok (context.names.map fun other => ([name].map normalizeName).contains other) :=
    fun name hname => evaluate_nameRule hcontext (List.cons_ne_nil name [])
      (by simpa using h name hname) spaces
  refine ⟨_, evaluate_nameRule hcontext hne h spaces, by simpa using hcontext.2, fun row => ?_⟩
  rw [getElem?_nameMask_iff]
  constructor
  · rintro ⟨name, hname, hbears⟩
    refine ⟨name, hname, _, hsingle name hname, ?_⟩
    rw [getElem?_nameMask_iff]
    exact ⟨name, by simp, hbears⟩
  · rintro ⟨name, hname, single, heval, hselected⟩
    rw [hsingle name hname] at heval
    obtain rfl := Except.ok.inj heval
    rw [getElem?_nameMask_iff] at hselected
    obtain ⟨other, hother, hbears⟩ := hselected
    obtain rfl := List.mem_singleton.1 hother
    exact ⟨other, hname, hbears⟩

end Expression

/-! ## Watchlists of one name -/

/-- A watchlist of one name has an entry for that name only. -/
theorem Watchlist.listed_ofEntries_iff (asked name : Text) (entry : WatchlistEntry) :
    Watchlist.entry? (ofEntries [(asked, entry)]) name ≠ none ↔ name = normalizeName asked := by
  by_cases hname : normalizeName asked = name
  · simp [ofEntries, entry?, Keyed.ofList, Keyed.putAll, Keyed.put, Keyed.get?, hname]
  · simp [ofEntries, entry?, Keyed.ofList, Keyed.putAll, Keyed.put, Keyed.get?, hname,
      Ne.symm hname]

/-! ## Rows that a profile counts -/

namespace Profile

/-- The profile of a name counts a row: were the row the only one of its file, the file
would be listed with one row. -/
def Counts (report : Report) (listed : Watchlist) (asked : Text) (row : Nat) : Prop :=
  ∀ file ∉ report.sources, ∃ profile,
    query { report with sources := report.sources.set row file } asked listed = .ok profile ∧
      (file, 1) ∈ profile.breakdown

/-- Among the files at some rows a new one stands as often as its row is among them. -/
theorem count_filterMap_set {sources : List Text} {row : Nat} (hrow : row < sources.length)
    {file : Text} (hfile : file ∉ sources) (rows : List Nat) :
    (rows.filterMap fun other => (sources.set row file)[other]?).count file = rows.count row := by
  induction rows with
  | nil => rfl
  | cons first rows ih =>
      by_cases hfirst : first = row
      · subst hfirst
        rw [List.filterMap_cons_some (List.getElem?_set_self hrow), List.count_cons_self,
          List.count_cons_self, ih]
      · have hother : (sources.set row file)[first]? = sources[first]? :=
          List.getElem?_set_ne (Ne.symm hfirst)
        rw [List.count_cons_of_ne hfirst, ← ih, List.filterMap_cons, hother]
        cases hsource : sources[first]? with
        | none => rfl
        | some source =>
            have hne : source ≠ file := fun heq => hfile (heq ▸ List.mem_of_getElem? hsource)
            exact List.count_cons_of_ne hne

/-- The rows of a name hold a row at most once. -/
theorem count_rowsOf (name : Text) (names : List Text) (row : Nat) :
    (Report.rowsOf name names).count row = if names[row]? = some name then 1 else 0 := by
  have hnodup : (Report.rowsOf name names).Nodup := List.nodup_range.filter _
  have hmem : row ∈ Report.rowsOf name names ↔ names[row]? = some name := by
    rw [Report.rowsOf, List.mem_filter, List.mem_range, beq_iff_eq, and_iff_right_iff_imp]
    exact fun hname => (List.getElem?_eq_some_iff.1 hname).1
  rw [hnodup.count, if_congr hmem rfl rfl]

variable {report : Report} {buckets : Level.Buckets} {names : List Text}

/-- A profile counts the rows of the name that was asked for and no other. -/
theorem counts_iff (h : report.Named buckets names) (listed : Watchlist) (asked : Text)
    {row : Nat} (hrow : row < report.sources.length) :
    Counts report listed asked row ↔ names[row]? = some (normalizeName asked) := by
  have hentry : ∀ file ∉ report.sources, ∃ profile,
      query { report with sources := report.sources.set row file } asked listed = .ok profile ∧
        ((file, 1) ∈ profile.breakdown ↔ names[row]? = some (normalizeName asked)) := by
    intro file hfile
    let marked := { report with sources := report.sources.set row file }
    have hmarked : marked.Named buckets names :=
      ⟨h.names_eq, h.scores, h.sources.trans (List.length_set ..).symm, h.identities⟩
    have hdescribes : Describes marked buckets (Report.rowsOf (normalizeName asked) names) _ :=
      (describes_answer asked).withWatchlist listed (normalizeName asked)
    refine ⟨_, query_eq_answer hmarked asked listed, ?_⟩
    rw [hdescribes.breakdown.counted, ← List.count_pos_iff, count_filterMap_set hrow hfile,
      count_rowsOf]
    split <;> simp [*]
  constructor
  · intro hcounts
    obtain ⟨file, hfile⟩ := Infinite.exists_notMem_finset report.sources.toFinset
    rw [List.mem_toFinset] at hfile
    obtain ⟨profile, hprofile, hcounted⟩ := hcounts file hfile
    obtain ⟨found, hfound, hiff⟩ := hentry file hfile
    obtain rfl : found = profile := Except.ok.inj (hfound.symm.trans hprofile)
    exact hiff.1 hcounted
  · intro hname file hfile
    obtain ⟨profile, hprofile, hiff⟩ := hentry file hfile
    exact ⟨profile, hprofile, hiff.2 hname⟩

end Profile

/-! ## The raw name of a row -/

namespace NameSource

/-- The text of a cell of a row, empty where there is no cell. -/
def textAt (dataset : Dataset) (row : Nat) (column : Text) : Text :=
  (((dataset.column? column).bind fun cells => cells[row]?).map Cell.textOrEmpty).getD []

/-- The name of a row as it is written: the first and the last name with a space between
them, or the text of the one column; a part without a value is empty. -/
def rawNameAt (dataset : Dataset) (row : Nat) : NameSource → Text
  | pair first last => textAt dataset row first ++ ' ' :: textAt dataset row last
  | single column => textAt dataset row column

theorem textAt_eq {dataset : Dataset} (h : dataset.Rectangular) {column : Text}
    (hcolumn : dataset.hasColumn column = true) {row : Nat} (hrow : row < dataset.rows) :
    ∃ cells cell, dataset.column? column = some cells ∧ cells[row]? = some cell ∧
      textAt dataset row column = cell.textOrEmpty := by
  obtain ⟨cells, hcells⟩ := Option.isSome_iff_exists.1 hcolumn
  have hlt : row < cells.length := (length_column? h hcells).symm ▸ hrow
  have hcell : cells[row]? = some cells[row] := List.getElem?_eq_getElem hlt
  refine ⟨cells, cells[row], hcells, hcell, ?_⟩
  rw [textAt, hcells, Option.bind_some, hcell]
  rfl

/-- The columns of a name that was found are there. -/
theorem hasColumn_of_detect? {dataset : Dataset} {candidates : NameColumns}
    {source : NameSource} (h : detect? dataset candidates = some source) :
    match source with
    | pair first last => dataset.hasColumn first = true ∧ dataset.hasColumn last = true
    | single column => dataset.hasColumn column = true := by
  unfold detect? at h
  split at h
  · rename_i first last hfound
    obtain rfl := Option.some.inj h
    have hboth := List.find?_some hfound
    exact Bool.and_eq_true_iff.1 hboth
  · obtain ⟨column, hfound, rfl⟩ := Option.map_eq_some_iff.1 h
    have hmem : column ∈ dataset.columns.keys := List.mem_of_find?_eq_some hfound
    dsimp only
    rw [Dataset.hasColumn, Dataset.column?]
    split
    · rfl
    · rw [Option.isSome_iff_ne_none, ne_eq, Keyed.get?_eq_none_iff, not_not]
      exact hmem

/-- The raw name of a row is told from the cells of the row. -/
theorem getElem?_rawNames {dataset : Dataset} (h : dataset.Rectangular)
    {candidates : NameColumns} {source : NameSource}
    (hsource : detect? dataset candidates = some source) {row : Nat} (hrow : row < dataset.rows) :
    (source.rawNames dataset)[row]? = some (source.rawNameAt dataset row) := by
  have hcolumns := hasColumn_of_detect? hsource
  cases source with
  | pair first last =>
      obtain ⟨firsts, a, hfirsts, ha, hfirst⟩ := textAt_eq h hcolumns.1 hrow
      obtain ⟨lasts, b, hlasts, hb, hlast⟩ := textAt_eq h hcolumns.2 hrow
      simp only [rawNames, rawNameAt, hfirsts, hlasts, hfirst, hlast]
      rw [List.getElem?_zipWith, ha, hb]
  | single column =>
      obtain ⟨cells, cell, hcells, hcell, htext⟩ := textAt_eq h hcolumns hrow
      simp only [rawNames, rawNameAt, hcells, htext]
      rw [List.getElem?_map, hcell]
      rfl

end NameSource

/-! ## The four ways agree -/

namespace Report

open Expression

/-- The files beside a name are those of the rows that are marked with it. -/
theorem count_entriesOf (name : Text) (names sources : List Text) (file : Text) :
    (entriesOf name names sources).count file =
      ((names.map fun other => other == name).zip sources).count (true, file) := by
  induction names generalizing sources with
  | nil => rfl
  | cons first names ih =>
      cases sources with
      | nil => rfl
      | cons source sources =>
          have hrest := ih sources
          unfold entriesOf at hrest ⊢
          rw [List.map_cons, List.zip_cons_cons, List.zip_cons_cons, List.filter_cons]
          by_cases hfirst : first = name
          · simp [hfirst, List.count_cons, hrest]
          · simp [hfirst, hrest]

/-- The files of a profile and their numbers are those of the rows that are marked with the
name. -/
theorem mem_breakdown_answer {report : Report} {buckets : Level.Buckets} {names : List Text}
    (asked : Text) (listed : Watchlist) (file : Text) (count : Nat) :
    (file, count) ∈ ((Profile.answer report buckets names asked).withWatchlist listed
        (normalizeName asked)).breakdown ↔
      0 < count ∧ ((names.map fun name => name == normalizeName asked).zip report.sources).count
        (true, file) = count := by
  have hdescribes : Profile.Describes report buckets (rowsOf (normalizeName asked) names) _ :=
    (Profile.describes_answer asked).withWatchlist listed (normalizeName asked)
  rw [hdescribes.breakdown.counted, ← entriesOf_eq_filterMap, ← List.count_pos_iff,
    count_entriesOf]
  exact and_congr_left fun hcount => by rw [hcount]

/-- In a rectangular dataset with columns to take names from, the same rows bear a name,
whichever way it is looked for: by a rule that lists it, in a watchlist of it alone, in the
files of its profile, or by comparing the raw name of the row.  The files of the profile
come to the rows that the rule selects, and a rule that lists several names selects the
rows that the rules of the single names select. -/
theorem name_paths_agree {dataset : Dataset} (h : dataset.Rectangular)
    {settings : ScoringSettings} {source : NameSource}
    (hsource : NameSource.detect? dataset settings.nameColumns = some source)
    (evaluator : Evaluator) (rules : Rules) (watchlist listed : Watchlist) (spaces : Nat) :
    let report := scoreWith settings evaluator dataset rules watchlist
    let context := contextOf settings dataset
    ∃ names, report.names = some names ∧ names.length = dataset.rows ∧
      (∀ asked, Quotable asked → ∀ entry : WatchlistEntry, ∃ mask profile,
        evaluate (nameRule spaces [asked]) context = .ok mask ∧ mask.length = dataset.rows ∧
        Profile.query report asked listed = .ok profile ∧
        (∀ row < dataset.rows, List.TFAE [
          mask[row]? = some true,
          ∃ name, names[row]? = some name ∧
            Watchlist.entry? (Watchlist.ofEntries [(asked, entry)]) name ≠ none,
          Profile.Counts report listed asked row,
          normalizeName (source.rawNameAt dataset row) = normalizeName asked]) ∧
        ∀ file count, (file, count) ∈ profile.breakdown ↔
          0 < count ∧ (mask.zip dataset.sources).count (true, file) = count) ∧
      ∀ asked, asked ≠ [] → (∀ name ∈ asked, Quotable name) → ∃ mask,
        evaluate (nameRule spaces asked) context = .ok mask ∧ mask.length = dataset.rows ∧
        ∀ row < dataset.rows, mask[row]? = some true ↔ ∃ name ∈ asked, ∃ single,
          evaluate (nameRule spaces [name]) context = .ok single ∧
            single[row]? = some true := by
  intro report context
  have hcontext : context.Rectangular := rectangular_contextOf h settings
  have hnamed : report.Named settings.buckets (fullNames dataset (some source)) :=
    named_scoreWith h hsource evaluator rules watchlist
  have hnames : context.names = fullNames dataset (some source) := by
    show fullNames dataset (NameSource.detect? dataset settings.nameColumns) = _
    rw [hsource]
  have hlength : (fullNames dataset (some source)).length = dataset.rows := length_fullNames h _
  have hrow : ∀ row < dataset.rows, (fullNames dataset (some source))[row]? =
      some (normalizeName (source.rawNameAt dataset row)) := by
    intro row hrow
    rw [fullNames, List.getElem?_map, NameSource.getElem?_rawNames h hsource hrow]
    rfl
  refine ⟨_, hnamed.names_eq, hlength, fun asked hasked entry => ?_, fun asked hne hasked => ?_⟩
  · have hmask := evaluate_nameRule hcontext (List.cons_ne_nil asked []) (by simpa using hasked)
      spaces
    rw [hnames] at hmask
    refine ⟨_, _, hmask, by simpa using hlength,
      Profile.query_eq_answer hnamed asked listed, fun row hlt => ?_, fun file count => ?_⟩
    · have hrule := getElem?_nameMask_iff [asked] (fullNames dataset (some source)) row
      have hcounts : Profile.Counts report listed asked row ↔ _ :=
        Profile.counts_iff hnamed listed asked hlt
      simp only [Watchlist.listed_ofEntries_iff]
      rw [hrow row hlt] at hrule hcounts ⊢
      tfae_have 1 ↔ 4 := by simpa using hrule
      tfae_have 2 ↔ 4 := by simp
      tfae_have 3 ↔ 4 := by simpa using hcounts
      tfae_finish
    · have hsame : (fun name => ([asked].map normalizeName).contains name) = fun name =>
          name == normalizeName asked := by
        funext name
        rw [Bool.eq_iff_iff]
        simp
      rw [hsame]
      exact mem_breakdown_answer asked listed file count
  · obtain ⟨mask, hmask, hrows, hunion⟩ := evaluate_nameRule_union hcontext hne hasked spaces
    exact ⟨mask, hmask, hrows, fun row _ => hunion row⟩

/-- A name in two columns, spelled in two ways and once with its last part missing, looked
for in a third spelling and listed beside another name. -/
theorem name_paths_agree_three_rows :
    ∃ (dataset : Dataset) (source : NameSource) (mask either : Mask) (profile : Profile),
      dataset.Rectangular ∧
      NameSource.detect? dataset ScoringSettings.default.nameColumns = some source ∧
      evaluate "full_name in [\"ana d'avila\"]".toList (contextOf .default dataset) = .ok mask ∧
      Profile.query (score .default dataset [] []) "ana d'avila".toList [] = .ok profile ∧
      mask[0]? = some true ∧ mask[2]? ≠ some true ∧
      ("b.csv".toList, 2) ∈ profile.breakdown ∧
      evaluate "full_name in [\"ana d'avila\", \"Jan\"]".toList (contextOf .default dataset) =
        .ok either ∧
      either[2]? = some true := by
  let dataset : Dataset :=
    { columns :=
        [("first_name".toList, [.text "Ana ".toList, .text "ANA".toList, .text "jan".toList]),
          ("last_name".toList, [.text "d'Avila".toList, .text "\tD'AVILA".toList, .null])]
      sources := List.replicate 3 "b.csv".toList }
  let source : NameSource := .pair "first_name".toList "last_name".toList
  have hdataset : dataset.Rectangular := by
    simp [Dataset.Rectangular, Dataset.rows, dataset]
  have hsource : NameSource.detect? dataset ScoringSettings.default.nameColumns = some source := by
    decide +kernel
  have hana : Quotable "ana d'avila".toList := by
    constructor <;> decide
  have hjan : Quotable "Jan".toList := by
    constructor <;> decide
  obtain ⟨names, -, -, hone, hseveral⟩ :=
    name_paths_agree hdataset hsource evaluate [] [] [] 1
  obtain ⟨mask, profile, hmask, hlength, hprofile, hrows, hfiles⟩ := hone _ hana ⟨0, []⟩
  obtain ⟨single, -, hsingle, -, -, hjans, -⟩ := hone _ hjan ⟨0, []⟩
  obtain ⟨either, heither, -, hunion⟩ :=
    hseveral ["ana d'avila".toList, "Jan".toList] (by decide)
      (List.forall_mem_cons.2 ⟨hana, List.forall_mem_singleton.2 hjan⟩)
  have hfirst : mask[0]? = some true :=
    ((hrows 0 (by decide)).out 0 3).2 (by decide +kernel)
  have hsecond : mask[1]? = some true :=
    ((hrows 1 (by decide)).out 0 3).2 (by decide +kernel)
  have hthird : mask[2]? ≠ some true := fun hselected =>
    absurd (((hrows 2 (by decide)).out 0 3).1 hselected) (by decide +kernel)
  refine ⟨dataset, source, mask, either, profile, hdataset, hsource, hmask, hprofile, hfirst,
    hthird, ?_, heither, ?_⟩
  · obtain ⟨a, b, c, rfl⟩ := List.length_eq_three.1 hlength
    obtain rfl : a = true := by simpa using hfirst
    obtain rfl : b = true := by simpa using hsecond
    obtain rfl : c = false := by simpa using hthird
    exact (hfiles _ _).2 (by decide)
  · have hselected : single[2]? = some true :=
      ((hjans 2 (by decide)).out 0 3).2 (by decide +kernel)
    exact (hunion 2 (by decide)).2 ⟨_, by simp, single, hsingle, hselected⟩

end Report

end RiskTally
