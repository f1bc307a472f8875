import Mathlib.Data.Set.List
import RiskTally.Proofs.Alignment
import RiskTally.Proofs.Persons

/-!
# Queries answer by rows

The person that a query finds was summed up when the dataset was scored; what else the
profile says is looked up in the columns of the report when the query is made.  Both go
by the rows that bear the name, so that a profile is told from those rows alone.  The
files of the rows come in one order, whatever the order in which they were counted.

## Main results

* `Profile.breakdownOf_breaksDown`: every file once, with its number of rows, in order.
* `Report.named_scoreWith`: what the columns of a report on named rows have in common.
* `Profile.query_eq_answer`: the answer to a query, known name or not.
* `Profile.queries_by_rows`: profiles, persons and their totals, told from the rows.
-/

namespace RiskTally

namespace Profile

/-! ## Files and their numbers of rows -/

/-- An entry has more rows than another, or as many and an earlier file. -/
def ComesBefore (a b : Text × Nat) : Prop :=
  b.2 < a.2 ∨ a.2 = b.2 ∧ Text.precedes a.1 b.1 = true ∧ a.1 ≠ b.1

/-- Every file is listed once with the number of its rows, and the list is in the one order
into which its entries, taken in any order, are sorted. -/
structure BreaksDown (files : List Text) (breakdown : List (Text × Nat)) : Prop where
  counted : ∀ file count,
    (file, count) ∈ breakdown ↔ file ∈ files ∧ files.count file = count
  distinct : (breakdown.map Prod.fst).Nodup
  ordered : breakdown.Pairwise ComesBefore
  settled : ∀ entries : List (Text × Nat), entries.Perm breakdown →
    entries.mergeSort breakdownOrder = breakdown

theorem breakdownOrder_total (a b : Text × Nat) :
    (breakdownOrder a b || breakdownOrder b a) = true := by
  unfold breakdownOrder
  by_cases hcount : a.2 = b.2
  · simpa [hcount] using Text.precedes_total a.1 b.1
  · simp only [hcount, Ne.symm hcount, if_false, Bool.or_eq_true, decide_eq_true_eq]
    omega

theorem breakdownOrder_trans {a b c : Text × Nat} (hab : breakdownOrder a b = true)
    (hbc : breakdownOrder b c = true) : breakdownOrder a c = true := by
  unfold breakdownOrder at hab hbc ⊢
  by_cases hfirst : a.2 = b.2
  · by_cases hsecond : b.2 = c.2
    · rw [if_pos hfirst] at hab
      rw [if_pos hsecond] at hbc
      rw [if_pos (hfirst.trans hsecond)]
      exact Text.precedes_trans hab hbc
    · rw [if_neg hsecond] at hbc
      rwa [if_neg (hfirst ▸ hsecond), hfirst]
  · rw [if_neg hfirst, decide_eq_true_eq] at hab
    by_cases hsecond : b.2 = c.2
    · rw [if_neg (hsecond ▸ hfirst), ← hsecond]
      exact decide_eq_true hab
    · rw [if_neg hsecond, decide_eq_true_eq] at hbc
      have hlt : c.2 < a.2 := Nat.lt_trans hbc hab
      rw [if_neg (by omega)]
      exact decide_eq_true hlt

theorem breakdownOrder_antisymm {a b : Text × Nat} (hab : breakdownOrder a b = true)
    (hba : breakdownOrder b a = true) : a = b := by
  unfold breakdownOrder at hab hba
  by_cases hcount : a.2 = b.2
  · rw [if_pos hcount] at hab
    rw [if_pos hcount.symm] at hba
    exact Prod.ext (Text.precedes_antisymm hab hba) hcount
  · rw [if_neg hcount, decide_eq_true_eq] at hab
    rw [if_neg (Ne.symm hcount), decide_eq_true_eq] at hba
    omega

theorem comesBefore_of_breakdownOrder {a b : Text × Nat} (h : breakdownOrder a b = true)
    (hne : a.1 ≠ b.1) : ComesBefore a b := by
  unfold breakdownOrder at h
  by_cases hcount : a.2 = b.2
  · rw [if_pos hcount] at h
    exact .inr ⟨hcount, h, hne⟩
  · rw [if_neg hcount, decide_eq_true_eq] at h
    exact .inl h

theorem pairwise_mergeSort_breakdownOrder (entries : List (Text × Nat)) :
    (entries.mergeSort breakdownOrder).Pairwise fun a b => breakdownOrder a b = true := by
  refine List.pairwise_mergeSort ?_ ?_ entries
  · intro a b c hab hbc
    exact breakdownOrder_trans hab hbc
  · exact breakdownOrder_total

/-- Entries in any order are sorted into one order. -/
theorem mergeSort_breakdownOrder_of_perm {entries entries' : List (Text × Nat)}
    (h : entries'.Perm entries) :
    entries'.mergeSort breakdownOrder = entries.mergeSort breakdownOrder := by
  have hperm := (List.mergeSort_perm entries' breakdownOrder).trans
    (h.trans (List.mergeSort_perm entries breakdownOrder).symm)
  exact hperm.eq_of_pairwise (fun _ _ _ _ => breakdownOrder_antisymm)
    (pairwise_mergeSort_breakdownOrder entries') (pairwise_mergeSort_breakdownOrder entries)

theorem breakdownOf_perm (files : List Text) :
    (breakdownOf files).Perm (files.eraseDups.map fun file => (file, files.count file)) :=
  List.mergeSort_perm _ _

theorem breakdownOf_breaksDown (files : List Text) : BreaksDown files (breakdownOf files) := by
  have hperm := breakdownOf_perm files
  have hdistinct : ((breakdownOf files).map Prod.fst).Nodup := by
    rw [(hperm.map Prod.fst).nodup_iff, List.map_map]
    simpa [Function.comp_def] using nodup_eraseDups files
  refine ⟨fun file count => ?_, hdistinct, ?_, fun entries hentries => ?_⟩
  · rw [hperm.mem_iff, List.mem_map]
    constructor
    · rintro ⟨other, hother, heq⟩
      obtain ⟨rfl, rfl⟩ := Prod.mk.inj heq
      exact ⟨List.mem_eraseDups.1 hother, rfl⟩
    · rintro ⟨hfile, rfl⟩
      exact ⟨file, List.mem_eraseDups.2 hfile, rfl⟩
  · have hsorted : (breakdownOf files).Pairwise fun a b => breakdownOrder a b = true :=
      pairwise_mergeSort_breakdownOrder _
    have hnames := List.pairwise_map.1 hdistinct
    exact (hsorted.and hnames).imp fun h => comesBefore_of_breakdownOrder h.1 h.2
  · exact mergeSort_breakdownOrder_of_perm (hentries.trans hperm)

/-- The numbers of rows of the files come to the number of all rows. -/
theorem sum_breakdownOf (files : List Text) :
    ((breakdownOf files).map Prod.snd).sum = files.length := by
  have hshares : (files.eraseDups.flatMap fun file => files.filter fun other => other == file).Perm
      files :=
    flatMap_filter_perm id (nodup_eraseDups files) fun file hfile => List.mem_eraseDups.2 hfile
  rw [((breakdownOf_perm files).map Prod.snd).sum_eq, ← hshares.length_eq, List.length_flatMap,
    List.map_map]
  congr 1
  refine List.map_congr_left fun file _ => ?_
  exact List.count_eq_length_filter

end Profile

/-! ## Reports on named rows -/

namespace Report

/-- The rows of a report have names, a score and a file each, and the persons are summed up
by name. -/
structure Named (buckets : Level.Buckets) (names : List Text) (report : Report) : Prop where
  names_eq : report.names = some names
  scores : names.length = report.scores.length
  sources : names.length = report.sources.length
  identities : report.identities = aggregate buckets names report.scores

/-- Scoring a rectangular dataset with columns to take names from. -/
theorem named_scoreWith {dataset : Dataset} (h : dataset.Rectangular)
    {settings : ScoringSettings} {source : NameSource}
    (hsource : NameSource.detect? dataset settings.nameColumns = some source)
    (evaluator : Evaluator) (rules : Rules) (watchlist : Watchlist) :
    Named settings.buckets (fullNames dataset (some source))
      (scoreWith settings evaluator dataset rules watchlist) where
  names_eq := by
    simp only [scoreWith, hsource, Option.map_some]
  scores := by
    rw [length_scores, length_fullNames h]
  sources := length_fullNames h _
  identities := by
    simp only [scoreWith, hsource, Option.isSome_some, if_true]

namespace Named

variable {buckets : Level.Buckets} {names : List Text} {report : Report}

/-- The person that a name of some row stands for. -/
theorem identity?_of_mem (h : Named buckets names report) {name : Text} (hname : name ∈ names) :
    report.identity? name = some ⟨name, satSum (entriesOf name names report.scores),
      Level.ofScore buckets (satSum (entriesOf name names report.scores))⟩ := by
  unfold identity?
  rw [h.identities, aggregate_eq buckets h.scores, List.find?_map]
  have hmem : name ∈ Text.sorted names.eraseDups := by
    rwa [(Text.sorted_perm _).mem_iff, List.mem_eraseDups]
  have hfind : (Text.sorted names.eraseDups).find? (fun other => other == name) = some name := by
    cases hfound : (Text.sorted names.eraseDups).find? fun other => other == name with
    | none =>
        have hnone := List.find?_eq_none.1 hfound name hmem
        exact absurd (beq_self_eq_true name) hnone
    | some other =>
        have hsame : (other == name) = true := List.find?_some (p := (· == name)) hfound
        rw [beq_iff_eq.1 hsame]
  exact congrArg (Option.map _) hfind

/-- A name of no row stands for nobody. -/
theorem identity?_of_not_mem (h : Named buckets names report) {name : Text}
    (hname : name ∉ names) : report.identity? name = none := by
  unfold identity?
  rw [h.identities, aggregate_eq buckets h.scores, List.find?_eq_none]
  intro identity hidentity
  obtain ⟨other, hother, rfl⟩ := List.mem_map.1 hidentity
  rw [(Text.sorted_perm _).mem_iff, List.mem_eraseDups] at hother
  have hne : other ≠ name := fun heq => hname (heq ▸ hother)
  simpa using hne

/-- The persons are the names of the rows, each once and in ascending order. -/
theorem identities_names (h : Named buckets names report) :
    report.identities.map Identity.name = Text.sorted names.eraseDups := by
  rw [h.identities, aggregate_eq buckets h.scores, List.map_map]
  exact List.map_id _

end Named

end Report

/-! ## Answers -/

namespace Profile

/-- A profile is told from the rows of the person. -/
structure Describes (report : Report) (buckets : Level.Buckets) (rows : List Nat)
    (profile : Profile) : Prop where
  score : profile.score = satSum (rows.filterMap fun row => report.scores[row]?)
  level : profile.level = if rows = [] then .low else Level.ofScore buckets profile.score
  activations : profile.activations = if rows = [] then [] else report.activations
  records : profile.records =
    (rows.filterMap fun row => report.scores[row]?).countP fun score => 0 < score
  breakdown : BreaksDown (rows.filterMap fun row => report.sources[row]?) profile.breakdown

/-- The answer to a query under the canonical form of the name. -/
def answer (report : Report) (buckets : Level.Buckets) (names : List Text) (asked : Text) :
    Profile :=
  let name := normalizeName asked
  let scores := Report.entriesOf name names report.scores
  if name ∈ names then
    { name := asked
      score := satSum scores
      level := Level.ofScore buckets (satSum scores)
      activations := report.activations
      records := scores.countP fun score => 0 < score
      breakdown := breakdownOf (Report.entriesOf name names report.sources)
      watchlist := none
      watchlistCount := none }
  else unknown asked

variable {report : Report} {buckets : Level.Buckets} {names : List Text}

theorem query_eq_answer (h : report.Named buckets names) (asked : Text) (listed : Watchlist) :
    query report asked listed =
      .ok ((answer report buckets names asked).withWatchlist listed (normalizeName asked)) := by
  unfold query answer
  rw [h.names_eq]
  dsimp only
  by_cases hname : normalizeName asked ∈ names
  · rw [h.identity?_of_mem hname, if_pos hname]
    dsimp only [known]
    rw [mapM_entryAt_placesOf (Nat.le_of_eq h.scores),
      mapM_entryAt_placesOf (Nat.le_of_eq h.sources)]
    rfl
  · rw [h.identity?_of_not_mem hname, if_neg hname]
    rfl

theorem describes_answer (asked : Text) :
    Describes report buckets (Report.rowsOf (normalizeName asked) names)
      (answer report buckets names asked) := by
  unfold answer
  by_cases hname : normalizeName asked ∈ names
  · have hrows : Report.rowsOf (normalizeName asked) names ≠ [] :=
      fun hnone => Report.rowsOf_eq_nil_iff.1 hnone hname
    rw [if_pos hname]
    refine ⟨?_, ?_, ?_, ?_, ?_⟩
    · rw [Report.entriesOf_eq_filterMap]
    · rw [if_neg hrows]
    · rw [if_neg hrows]
    · rw [Report.entriesOf_eq_filterMap]
    · rw [← Report.entriesOf_eq_filterMap]
      exact breakdownOf_breaksDown _
  · rw [if_neg hname, Report.rowsOf_eq_nil_iff.2 hname]
    have hempty := breakdownOf_breaksDown []
    rw [show breakdownOf [] = [] by simp [breakdownOf]] at hempty
    exact ⟨rfl, rfl, rfl, rfl, hempty⟩

/-- What a watchlist says stands beside the rest of a profile. -/
theorem Describes.withWatchlist {rows : List Nat} {profile : Profile}
    (h : Describes report buckets rows profile) (listed : Watchlist) (name : Text) :
    Describes report buckets rows (profile.withWatchlist listed name) := by
  unfold Profile.withWatchlist
  split
  · exact h
  · exact ⟨h.score, h.level, h.activations, h.records, h.breakdown⟩

/-- The files of a profile come to the rows of the name. -/
theorem sum_breakdown_answer (asked : Text) (listed : Watchlist) (name : Text) :
    ((((answer report buckets names asked).withWatchlist listed name).breakdown).map
        Prod.snd).sum =
      (Report.entriesOf (normalizeName asked) names report.sources).length := by
  have hkept : ((answer report buckets names asked).withWatchlist listed name).breakdown =
      (answer report buckets names asked).breakdown := by
    unfold Profile.withWatchlist
    split <;> rfl
  rw [hkept]
  unfold answer
  by_cases hname : normalizeName asked ∈ names
  · rw [if_pos hname]
    exact sum_breakdownOf _
  · rw [if_neg hname, Report.entriesOf_eq_filterMap, Report.rowsOf_eq_nil_iff.2 hname]
    rfl

/-- Asking for every person gives every row of the report once. -/
theorem sum_breakdown_identities (h : report.Named buckets names) {asked : List Text}
    (hasked : asked.map normalizeName = report.identities.map Identity.name)
    (listed : Watchlist) :
    ∃ profiles, asked.mapM (fun name => query report name listed) = .ok profiles ∧
      (profiles.map fun profile => (profile.breakdown.map Prod.snd).sum).sum = names.length := by
  have hquery : (fun name => query report name listed) = fun name =>
      pure ((answer report buckets names name).withWatchlist listed (normalizeName name)) :=
    funext fun name => query_eq_answer h name listed
  have hnodup : (Text.sorted names.eraseDups).Nodup :=
    (Text.sorted_perm _).nodup_iff.2 (nodup_eraseDups names)
  have hcovered : ∀ name ∈ names, name ∈ Text.sorted names.eraseDups := fun name hname => by
    rwa [(Text.sorted_perm _).mem_iff, List.mem_eraseDups]
  have hshares := Report.flatMap_entriesOf_perm hnodup hcovered h.sources
  refine ⟨_, by rw [hquery, List.mapM_pure]; rfl, ?_⟩
  rw [h.sources, ← hshares.length_eq, List.length_flatMap, ← h.identities_names, ← hasked,
    List.map_map, List.map_map]
  congr 1
  refine List.map_congr_left fun name _ => ?_
  exact sum_breakdown_answer name listed _

/-- Names in canonical form are the canonical forms of names. -/
theorem exists_asked {dataset : Dataset} {source : NameSource} {keys : List Text}
    (h : ∀ name ∈ keys, name ∈ fullNames dataset (some source)) :
    ∃ asked : List Text, asked.map normalizeName = keys := by
  have hrange : keys ∈ Set.range (List.map normalizeName) := by
    rw [Set.range_list_map]
    intro name hname
    obtain ⟨raw, -, hraw⟩ := List.mem_map.1 (h name hname)
    exact ⟨raw, hraw⟩
  exact hrange

/-- In a rectangular dataset with columns to take names from, a query under any spelling of
a name gives a profile that is told from the rows of the name: the saturating sum of their
scores, its level, all activations if there is a row, how many of them score, and how many
lie in each file.  The persons are the names of the rows, each once; asking for all of them
gives every row once; and their scores come to those of the rows, if no partial sum of a
person leaves the range. -/
theorem queries_by_rows {dataset : Dataset} (h : dataset.Rectangular)
    {settings : ScoringSettings} {source : NameSource}
    (hsource : NameSource.detect? dataset settings.nameColumns = some source)
    (evaluator : Evaluator) (rules : Rules) (watchlist listed : Watchlist) :
    let report := Report.scoreWith settings evaluator dataset rules watchlist
    let names := fullNames dataset (some source)
    (report.names = some names ∧ names.length = dataset.rows ∧
      report.scores.length = dataset.rows ∧ report.sources = dataset.sources) ∧
    (∀ asked, ∃ profile, query report asked listed = .ok profile ∧
      Describes report settings.buckets (Report.rowsOf (normalizeName asked) names) profile) ∧
    ((∀ name, name ∈ report.identities.map Identity.name ↔ name ∈ names) ∧
      (report.identities.map Identity.name).Nodup) ∧
    ((∃ asked : List Text, asked.map normalizeName = report.identities.map Identity.name) ∧
      ∀ asked : List Text, asked.map normalizeName = report.identities.map Identity.name →
        ∃ profiles, asked.mapM (fun name => query report name listed) = .ok profiles ∧
          (profiles.map fun profile => (profile.breakdown.map Prod.snd).sum).sum =
            dataset.rows) ∧
    ((∀ name ∈ report.identities.map Identity.name, PartialSumsInRange
        ((Report.rowsOf name names).filterMap fun row => report.scores[row]?)) →
      integerSum (report.identities.map Identity.score) = integerSum report.scores) := by
  intro report names
  have hnamed : report.Named settings.buckets names :=
    Report.named_scoreWith h hsource evaluator rules watchlist
  have hlength : names.length = dataset.rows := length_fullNames h _
  have hkeys : ∀ name, name ∈ report.identities.map Identity.name ↔ name ∈ names := by
    intro name
    rw [hnamed.identities_names, (Text.sorted_perm _).mem_iff, List.mem_eraseDups]
  refine ⟨⟨hnamed.names_eq, hlength, hnamed.scores.symm.trans hlength, rfl⟩, fun asked => ?_,
    ⟨hkeys, ?_⟩, ⟨exists_asked fun name hname => (hkeys name).1 hname, fun asked hasked => ?_⟩,
    fun hfit => ?_⟩
  · exact ⟨_, query_eq_answer hnamed asked listed, (describes_answer asked).withWatchlist _ _⟩
  · rw [hnamed.identities_names, (Text.sorted_perm _).nodup_iff]
    exact nodup_eraseDups names
  · rw [← hlength]
    exact sum_breakdown_identities hnamed hasked listed
  · rw [hnamed.identities]
    refine Report.integerSum_aggregate settings.buckets hnamed.scores fun name hname => ?_
    rw [Report.entriesOf_eq_filterMap]
    exact hfit name ((hkeys name).2 hname)

/-- Four spellings of one name over three files, a row without a name, and a name of no
row. -/
theorem queries_by_rows_one_name :
    ∃ (dataset : Dataset) (evaluator : Evaluator) (rules : Rules) (source : NameSource),
      dataset.Rectangular ∧
      NameSource.detect? dataset ScoringSettings.default.nameColumns = some source ∧
      let report := Report.scoreWith .default evaluator dataset rules []
      report.scores = [50, 50, -7, -7, 50] ∧
      (∃ profile, query report " aNa".toList [] = .ok profile ∧
        profile.score = 143 ∧ profile.level = .critical ∧ profile.records = 3 ∧
        ("b.csv".toList, 2) ∈ profile.breakdown) ∧
      (∃ profile, query report "Jan".toList [] = .ok profile ∧ profile.level = .low ∧
        profile.activations = []) ∧
      integerSum (report.identities.map Identity.score) = 136 := by
  let dataset : Dataset :=
    { columns :=
        [("full_name".toList,
          [.text "Ana".toList, .text "ana ".toList, .null, .text " ANA".toList,
            .text "aNA".toList])]
      sources := ["b.csv".toList, "c.csv".toList, "a.csv".toList, "a.csv".toList,
        "b.csv".toList] }
  let evaluator : Evaluator := fun text _ =>
    if text = "gain".toList then .ok [true, true, false, false, true]
    else .ok [false, false, true, true]
  let rules : Rules := [⟨"gain".toList, 50, []⟩, ⟨"loss".toList, -7, []⟩]
  have hdataset : dataset.Rectangular := by
    simp [Dataset.Rectangular, Dataset.rows, dataset]
  have hsource : NameSource.detect? dataset ScoringSettings.default.nameColumns =
      some (.single "full_name".toList) := by
    decide +kernel
  obtain ⟨-, hprofile, ⟨hkeys, -⟩, -, htotal⟩ :=
    queries_by_rows hdataset hsource evaluator rules [] []
  have hscores : (Report.scoreWith .default evaluator dataset rules []).scores =
      [50, 50, -7, -7, 50] := by
    decide +kernel
  have hfit : ∀ name ∈ fullNames dataset (some (.single "full_name".toList)),
      PartialSumsInRange ((Report.rowsOf name
        (fullNames dataset (some (.single "full_name".toList)))).filterMap fun row =>
          (Report.scoreWith .default evaluator dataset rules []).scores[row]?) := by
    decide +kernel
  refine ⟨dataset, evaluator, rules, _, hdataset, hsource, hscores, ?_, ?_, ?_⟩
  · obtain ⟨profile, hquery, hdescribes⟩ := hprofile " aNa".toList
    have hscore : profile.score = 143 := hdescribes.score.trans (by decide +kernel)
    refine ⟨profile, hquery, hscore, ?_, hdescribes.records.trans (by decide +kernel), ?_⟩
    · rw [hdescribes.level, hscore]
      decide +kernel
    · rw [hdescribes.breakdown.counted]
      decide +kernel
  · obtain ⟨profile, hquery, hdescribes⟩ := hprofile "Jan".toList
    refine ⟨profile, hquery, ?_, ?_⟩
    · rw [hdescribes.level]
      exact if_pos (by decide +kernel)
    · rw [hdescribes.activations]
      exact if_pos (by decide +kernel)
  · rw [htotal fun name hname => hfit name ((hkeys name).1 hname), hscores]
    decide

end Profile

end RiskTally
