import Mathlib.Data.List.Forall2
import RiskTally.Proofs.RowScores

/-!
# More rules, higher scores

A rule with a gain lowers nobody, wherever it stands among the rules and however often a
sum is held at an end of the range; a rule with a loss raises nobody.  Two runs go side by
side, one with the rule and one without.  Every step that both take keeps their rows in
order, and so does the step that one of them takes alone.  The order of the rows is handed
on to the sums of the persons and to the levels.

## Main results

* `Rules.Thinned.foldl_weightsAt`: the two runs, seen from a row.
* `Report.atMost_of_scores`: the order of the scores of two reports on a dataset is that
  of their persons and of their levels.
* `Report.scores_monotone`: inserting and excluding rules.
-/

namespace RiskTally

/-! ## Fewer rules -/

/-- The first rules are the second ones less some that may be dropped. -/
inductive Rules.Thinned (mayDrop : Rule → Prop) : Rules → Rules → Prop where
  | nil : Thinned mayDrop [] []
  | keep (rule : Rule) {fewer rules : Rules} :
      Thinned mayDrop fewer rules → Thinned mayDrop (rule :: fewer) (rule :: rules)
  | drop {rule : Rule} {fewer rules : Rules} :
      mayDrop rule → Thinned mayDrop fewer rules → Thinned mayDrop fewer (rule :: rules)

namespace Rules.Thinned

variable {mayDrop : Rule → Prop}

theorem refl (rules : Rules) : Thinned mayDrop rules rules := by
  induction rules with
  | nil => exact .nil
  | cons rule rules ih => exact .keep rule ih

theorem insert {rule : Rule} (h : mayDrop rule) (before after : Rules) :
    Thinned mayDrop (before ++ after) (before ++ rule :: after) := by
  induction before with
  | nil => exact .drop h (refl after)
  | cons first before ih => exact .keep first ih

theorem exclude {expressions : List Text} {rules : Rules}
    (h : ∀ rule ∈ rules, rule.expression ∈ expressions → mayDrop rule) :
    Thinned mayDrop (rules.exclude expressions) rules := by
  unfold Rules.exclude
  induction rules with
  | nil => exact .nil
  | cons rule rules ih =>
      have hrest := ih fun other hother => h other (by simp [hother])
      by_cases hexcluded : rule.expression ∈ expressions
      · rw [List.filter_cons_of_neg (by simpa using hexcluded)]
        exact .drop (h rule (by simp) hexcluded) hrest
      · rw [List.filter_cons_of_pos (by simpa using hexcluded)]
        exact .keep rule hrest

/-- A relation between two scores that adding the same to both keeps, and that adding the
weight of a dropped rule to the second keeps, holds of a row after both runs. -/
theorem foldl_weightsAt (related : Int64 → Int64 → Prop)
    (hkeep : ∀ {a b : Int64} (weight : Int64), related a b →
      related (satAdd a weight) (satAdd b weight))
    (hdrop : ∀ {rule : Rule} {a b : Int64}, mayDrop rule → related a b →
      related a (satAdd b rule.weight))
    {fewer rules : Rules} (h : Thinned mayDrop fewer rules) (evaluator : Evaluator)
    (context : Context) (row : Nat) {a b : Int64} (hab : related a b) :
    related ((fewer.weightsAt evaluator context row).foldl satAdd a)
      ((rules.weightsAt evaluator context row).foldl satAdd b) := by
  induction h generalizing a b with
  | nil => exact hab
  | keep rule _ ih =>
      rw [Rules.foldl_weightsAt_cons, Rules.foldl_weightsAt_cons]
      by_cases hselects : rule.selects evaluator context row = true
      · rw [if_pos hselects, if_pos hselects]
        exact ih (hkeep rule.weight hab)
      · rw [if_neg hselects, if_neg hselects]
        exact ih hab
  | @drop rule fewer rules hrule _ ih =>
      rw [Rules.foldl_weightsAt_cons evaluator context row rule rules]
      by_cases hselects : rule.selects evaluator context row = true
      · rw [if_pos hselects]
        exact ih (hdrop hrule hab)
      · rw [if_neg hselects]
        exact ih hab

end Rules.Thinned

/-! ## Sums -/

theorem foldl_satAdd_mono {amounts amounts' : List Int64}
    (h : List.Forall₂ (· ≤ ·) amounts amounts') {a b : Int64} (hab : a ≤ b) :
    amounts.foldl satAdd a ≤ amounts'.foldl satAdd b := by
  induction h generalizing a b with
  | nil => exact hab
  | cons hfirst _ ih => exact ih (satAdd_mono hab hfirst)

theorem forall₂_le_refl (amounts : List Int64) : List.Forall₂ (· ≤ ·) amounts amounts :=
  List.forall₂_same.2 fun amount _ => Int64.le_refl amount

namespace Report

theorem scoresOf_le {scores scores' : List Int64} (h : List.Forall₂ (· ≤ ·) scores scores')
    (name : Text) (names : List Text) :
    List.Forall₂ (· ≤ ·) (scoresOf name names scores) (scoresOf name names scores') := by
  unfold scoresOf
  induction h generalizing names with
  | nil => simp
  | cons hfirst _ ih =>
      cases names with
      | nil => simp
      | cons first names =>
          rw [List.zip_cons_cons, List.zip_cons_cons, List.filter_cons, List.filter_cons]
          dsimp only
          split
          · exact .cons hfirst (ih names)
          · exact ih names

/-- The names that have a score hang on the number of scores only. -/
theorem map_fst_zip_eq_take (names : List Text) (scores : List Int64) :
    (names.zip scores).map Prod.fst = names.take scores.length := by
  induction names generalizing scores with
  | nil => simp
  | cons name names ih => cases scores <;> simp [ih]

theorem satSum_scoresOf_le {scores scores' : List Int64}
    (h : List.Forall₂ (· ≤ ·) scores scores') (name : Text) (names : List Text) :
    satSum (scoresOf name names scores) ≤ satSum (scoresOf name names scores') :=
  foldl_satAdd_mono (scoresOf_le h name names) (Int64.le_refl 0)

/-! ## Reports -/

/-- On two reports of the same rows and persons no score of the first is above that of the
second. -/
structure ScoresAtMost (lower higher : Report) : Prop where
  rows : List.Forall₂ (· ≤ ·) lower.scores higher.scores
  persons : List.Forall₂ (fun a b => a.name = b.name ∧ a.score ≤ b.score)
    lower.identities higher.identities

/-- On two reports of the same rows and persons no level of the first is above that of the
second. -/
structure LevelsAtMost (lower higher : Report) : Prop where
  rows : List.Forall₂ (· ≤ ·) lower.levels higher.levels
  persons : List.Forall₂ (fun a b => a.name = b.name ∧ a.level ≤ b.level)
    lower.identities higher.identities

/-- No score of the first report is above that of the second, nor is a level, if no
threshold opens a higher level than one before it. -/
def AtMost (buckets : Level.Buckets) (lower higher : Report) : Prop :=
  ScoresAtMost lower higher ∧ (Level.Falling buckets → LevelsAtMost lower higher)

/-- Persons whose rows score no more score no more themselves. -/
theorem aggregate_le {scores scores' : List Int64} (h : List.Forall₂ (· ≤ ·) scores scores')
    (buckets : Level.Buckets) (names : List Text) :
    List.Forall₂ (fun a b => a.name = b.name ∧ a.score ≤ b.score ∧
        (Level.Falling buckets → a.level ≤ b.level))
      (aggregate buckets names scores) (aggregate buckets names scores') := by
  have hpersons : (names.zip scores).map Prod.fst = (names.zip scores').map Prod.fst := by
    rw [map_fst_zip_eq_take, map_fst_zip_eq_take, h.length_eq]
  unfold aggregate
  rw [hpersons, List.forall₂_map_left_iff, List.forall₂_map_right_iff, List.forall₂_same]
  intro name _
  have hsum := satSum_scoresOf_le h name names
  exact ⟨rfl, hsum, fun hfalling => Level.ofScore_mono hfalling hsum⟩

/-- Two reports on a dataset are in the order of the scores of their rows. -/
theorem atMost_of_scores {settings : ScoringSettings} {evaluator : Evaluator} {dataset : Dataset}
    {fewer rules : Rules} {watchlist : Watchlist}
    (h : List.Forall₂ (· ≤ ·) (scoreWith settings evaluator dataset fewer watchlist).scores
      (scoreWith settings evaluator dataset rules watchlist).scores) :
    AtMost settings.buckets (scoreWith settings evaluator dataset fewer watchlist)
      (scoreWith settings evaluator dataset rules watchlist) := by
  have hpersons : List.Forall₂ (fun a b : Identity => a.name = b.name ∧ a.score ≤ b.score ∧
        (Level.Falling settings.buckets → a.level ≤ b.level))
      (scoreWith settings evaluator dataset fewer watchlist).identities
      (scoreWith settings evaluator dataset rules watchlist).identities := by
    unfold scoreWith at h ⊢
    dsimp only at h ⊢
    split
    · exact aggregate_le h settings.buckets _
    · exact .nil
  have hlevels : Level.Falling settings.buckets → List.Forall₂ (· ≤ ·)
      (scoreWith settings evaluator dataset fewer watchlist).levels
      (scoreWith settings evaluator dataset rules watchlist).levels := by
    intro hfalling
    show List.Forall₂ (· ≤ ·) (List.map _ _) (List.map _ _)
    rw [List.forall₂_map_left_iff, List.forall₂_map_right_iff]
    exact h.imp fun _ _ hscore => Level.ofScore_mono hfalling hscore
  refine ⟨⟨h, hpersons.imp fun _ _ hperson => ⟨hperson.1, hperson.2.1⟩⟩, fun hfalling => ?_⟩
  exact ⟨hlevels hfalling, hpersons.imp fun _ _ hperson =>
    ⟨hperson.1, hperson.2.2 hfalling⟩⟩

/-- The order of the rows under two lists of rules, before the watchlist is looked at, is
their order after it. -/
theorem scores_le_of_weightsAt {settings : ScoringSettings} {evaluator : Evaluator}
    {dataset : Dataset} {fewer rules : Rules}
    (h : ∀ row, satSum (fewer.weightsAt evaluator (contextOf settings dataset) row) ≤
      satSum (rules.weightsAt evaluator (contextOf settings dataset) row))
    (watchlist : Watchlist) :
    List.Forall₂ (· ≤ ·) (scoreWith settings evaluator dataset fewer watchlist).scores
      (scoreWith settings evaluator dataset rules watchlist).scores := by
  rw [scores_eq, scores_eq, List.forall₂_map_left_iff, List.forall₂_map_right_iff,
    List.forall₂_same]
  intro row _
  rw [contributions, contributions, satSum_append, satSum_append]
  exact foldl_satAdd_mono (forall₂_le_refl _) (h row)

/-- Dropping rules that are no loss raises nobody. -/
theorem atMost_of_thinned_gains {fewer rules : Rules}
    (h : Rules.Thinned (fun rule => 0 ≤ rule.weight) fewer rules) (settings : ScoringSettings)
    (evaluator : Evaluator) (dataset : Dataset) (watchlist : Watchlist) :
    AtMost settings.buckets (scoreWith settings evaluator dataset fewer watchlist)
      (scoreWith settings evaluator dataset rules watchlist) := by
  refine atMost_of_scores (scores_le_of_weightsAt (fun row => ?_) watchlist)
  exact h.foldl_weightsAt (· ≤ ·)
    (fun weight hab => satAdd_mono hab (Int64.le_refl weight))
    (fun hgain hab => Int64.le_trans hab (le_satAdd hgain)) evaluator _ row (Int64.le_refl 0)

/-- Dropping rules that are no gain lowers nobody. -/
theorem atMost_of_thinned_losses {fewer rules : Rules}
    (h : Rules.Thinned (fun rule => rule.weight ≤ 0) fewer rules) (settings : ScoringSettings)
    (evaluator : Evaluator) (dataset : Dataset) (watchlist : Watchlist) :
    AtMost settings.buckets (scoreWith settings evaluator dataset rules watchlist)
      (scoreWith settings evaluator dataset fewer watchlist) := by
  refine atMost_of_scores (scores_le_of_weightsAt (fun row => ?_) watchlist)
  exact h.foldl_weightsAt (· ≥ ·)
    (fun weight hab => satAdd_mono hab (Int64.le_refl weight))
    (fun hloss hab => Int64.le_trans (satAdd_le hloss) hab) evaluator _ row (Int64.le_refl 0)

/-- With any evaluator, whatever the length of its masks: a further rule anywhere among the
rules raises nobody if it is no gain and lowers nobody if it is no loss.  So excluding
rules that are no loss raises nobody. -/
theorem scores_monotone (settings : ScoringSettings) (evaluator : Evaluator) (dataset : Dataset)
    (watchlist : Watchlist) :
    (∀ (before after : Rules) (rule : Rule),
      let without := scoreWith settings evaluator dataset (before ++ after) watchlist
      let inserted := scoreWith settings evaluator dataset (before ++ rule :: after) watchlist
      (0 ≤ rule.weight → AtMost settings.buckets without inserted) ∧
      (rule.weight ≤ 0 → AtMost settings.buckets inserted without)) ∧
    ∀ (rules : Rules) (expressions : List Text),
      (∀ rule ∈ rules, rule.expression ∈ expressions → 0 ≤ rule.weight) →
      AtMost settings.buckets
        (scoreWith settings evaluator dataset (rules.exclude expressions) watchlist)
        (scoreWith settings evaluator dataset rules watchlist) := by
  refine ⟨fun before after rule => ⟨fun hgain => ?_, fun hloss => ?_⟩,
    fun rules expressions hgains => ?_⟩
  · exact atMost_of_thinned_gains (.insert hgain before after) settings evaluator dataset watchlist
  · exact atMost_of_thinned_losses (.insert hloss before after) settings evaluator dataset watchlist
  · exact atMost_of_thinned_gains (.exclude hgains) settings evaluator dataset watchlist

/-- Two rows of one person, under masks that are too long or too short or missing, between
a weight at the upper end of the range and one at the lower: a gain put in, a loss put in,
and the gain excluded again. -/
theorem scores_monotone_uneven_masks :
    ∃ (evaluator : Evaluator) (dataset : Dataset) (before after : Rules) (gain loss : Rule),
      0 ≤ gain.weight ∧ loss.weight ≤ 0 ∧ Level.Falling ScoringSettings.default.buckets ∧
      let scored := fun rules => scoreWith .default evaluator dataset rules []
      (scored (before ++ after)).scores = [-1, 5] ∧
      (scored (before ++ gain :: after)).scores = [-1, 25] ∧
      (scored (before ++ loss :: after)).scores = [-16, -15] ∧
      ScoresAtMost (scored (before ++ after)) (scored (before ++ gain :: after)) ∧
      LevelsAtMost (scored (before ++ after)) (scored (before ++ gain :: after)) ∧
      ScoresAtMost (scored (before ++ loss :: after)) (scored (before ++ after)) ∧
      ScoresAtMost (scored (Rules.exclude ["gain".toList] (before ++ gain :: after)))
        (scored (before ++ gain :: after)) := by
  let evaluator : Evaluator := fun text _ =>
    if text = "gain".toList ∨ text = "long".toList then .ok [true, true, true, true]
    else if text = "short".toList then .ok [true]
    else .error (.maskLength 2 0)
  let dataset : Dataset :=
    { columns := [("full_name".toList, [.text "Ana".toList, .text " ANA ".toList])]
      sources := List.replicate 2 "a.csv".toList }
  let before : Rules := [⟨"short".toList, Int64.maxValue, []⟩]
  let after : Rules :=
    [⟨"long".toList, 5, []⟩, ⟨"none".toList, 7, []⟩, ⟨"short".toList, Int64.minValue, []⟩]
  let gain : Rule := ⟨"gain".toList, 20, []⟩
  let loss : Rule := ⟨"long".toList, -20, []⟩
  have hgain : 0 ≤ gain.weight := by decide
  have hloss : loss.weight ≤ 0 := by decide
  have hfalling : Level.Falling ScoringSettings.default.buckets := by decide
  have hexcluded : ∀ rule ∈ before ++ gain :: after, rule.expression ∈ ["gain".toList] →
      0 ≤ rule.weight := by decide
  obtain ⟨hinserted, hexclusion⟩ := scores_monotone .default evaluator dataset []
  obtain ⟨hscores, hlevels⟩ := (hinserted before after gain).1 hgain
  refine ⟨evaluator, dataset, before, after, gain, loss, hgain, hloss, hfalling, ?_, ?_, ?_,
    hscores, hlevels hfalling, ((hinserted before after loss).2 hloss).1,
    (hexclusion (before ++ gain :: after) ["gain".toList] hexcluded).1⟩
  · decide +kernel
  · decide +kernel
  · decide +kernel

end Report

end RiskTally
