import RiskTally.Expression.Basic
import RiskTally.Rule.Basic
import RiskTally.Watchlist

/-!
# Scoring reports

Every rule adds its weight to the rows that it selects, and the watchlist its own score
to the rows of listed persons. The report holds the score and level of every row, the
sums over each person, and which rules took part. A rule that cannot be evaluated adds
nothing and is listed as ignored.

## Main results

* `Report.length_scores`, `Report.length_levels`: every row has a score and a level.
-/

namespace RiskTally

/-- What a rule adds to a row: the same to each, or an amount that hangs on the row. -/
inductive Weight where
  | fixed (amount : Int64)
  | perRow
  deriving DecidableEq

/-- The weight as it is shown. -/
def Weight.label : Weight → Text
  | fixed amount => intText amount.toInt
  | perRow => "variable".toList

/-- A rule that selected at least one row. -/
structure Activation where
  expression : Text
  weight : Weight
  matchedRows : Nat
  deriving DecidableEq

/-- A rule that could not be evaluated. -/
structure IgnoredRule where
  expression : Text
  fault : EvaluationFault
  deriving DecidableEq

/-- The sum of the scores of one person. -/
structure Identity where
  name : Text
  score : Int64
  level : Level
  deriving DecidableEq

/-! ## Applying rules -/

/-- The row scores so far and what has been noted of the rules. -/
structure Tally where
  scores : List Int64
  activations : List Activation
  ignored : List IgnoredRule
  deriving DecidableEq

namespace Tally

/-- No rule has been applied to the rows. -/
def start (rows : Nat) : Tally :=
  ⟨List.replicate rows 0, [], []⟩

/-- The scores with an amount added to each selected row, as far as the mask reaches. -/
def addWhere (amount : Int64) : Mask → List Int64 → List Int64
  | _, [] => []
  | [], scores => scores
  | hit :: mask, score :: scores =>
    (if hit then satAdd score amount else score) :: addWhere amount mask scores

/-- The scores with amounts added, as far as they reach. -/
def addEach : List Int64 → List Int64 → List Int64
  | _, [] => []
  | [], scores => scores
  | amount :: amounts, score :: scores => satAdd score amount :: addEach amounts scores

/-- Applies a rule whose evaluation gave the result. -/
def applyResult (rule : Rule) (result : Except EvaluationFault Mask) (tally : Tally) : Tally :=
  match result with
  | .error fault => { tally with ignored := tally.ignored ++ [⟨rule.expression, fault⟩] }
  | .ok mask =>
    if mask.count = 0 then tally
    else
      { tally with
        scores := addWhere rule.weight mask tally.scores
        activations := tally.activations ++ [⟨rule.expression, .fixed rule.weight, mask.count⟩] }

/-- Applies a rule. -/
def apply (evaluator : Evaluator) (context : Context) (tally : Tally) (rule : Rule) : Tally :=
  applyResult rule (evaluator rule.expression context) tally

/-- Applies rules in order. -/
def applyAll (evaluator : Evaluator) (context : Context) (rules : Rules) (tally : Tally) : Tally :=
  rules.foldl (apply evaluator context) tally

/-- The expression under which the watchlist is noted. -/
def watchlistExpression : Text :=
  "watchlist_match".toList

/-- Adds what the watchlist says of the named rows, if it says something positive of any. -/
def applyWatchlist (watchlist : Watchlist) (names : List Text) (tally : Tally) : Tally :=
  let amounts := names.map watchlist.score
  let matched := amounts.countP fun amount => 0 < amount
  if matched = 0 then tally
  else
    { tally with
      scores := addEach amounts tally.scores
      activations := tally.activations ++ [⟨watchlistExpression, .perRow, matched⟩] }

theorem length_addWhere (amount : Int64) (mask : Mask) (scores : List Int64) :
    (addWhere amount mask scores).length = scores.length := by
  induction scores generalizing mask with
  | nil => simp [addWhere]
  | cons score scores ih => cases mask <;> simp [addWhere, ih]

theorem length_addEach (amounts scores : List Int64) :
    (addEach amounts scores).length = scores.length := by
  induction scores generalizing amounts with
  | nil => simp [addEach]
  | cons score scores ih => cases amounts <;> simp [addEach, ih]

theorem length_scores_apply (evaluator : Evaluator) (context : Context) (tally : Tally)
    (rule : Rule) : (apply evaluator context tally rule).scores.length = tally.scores.length := by
  unfold apply applyResult
  split
  · rfl
  · split
    · rfl
    · exact length_addWhere _ _ _

theorem length_scores_applyAll (evaluator : Evaluator) (context : Context) (rules : Rules)
    (tally : Tally) :
    (applyAll evaluator context rules tally).scores.length = tally.scores.length := by
  induction rules generalizing tally with
  | nil => rfl
  | cons rule rules ih =>
    exact (ih (apply evaluator context tally rule)).trans (length_scores_apply ..)

theorem length_scores_applyWatchlist (watchlist : Watchlist) (names : List Text) (tally : Tally) :
    (applyWatchlist watchlist names tally).scores.length = tally.scores.length := by
  unfold applyWatchlist
  simp only
  split
  · rfl
  · exact length_addEach _ _

end Tally

/-! ## Reports -/

/-- The outcome of scoring a dataset. -/
structure Report where
  scores : List Int64
  levels : List Level
  /-- The canonical name of every row, if the dataset has names. -/
  names : Option (List Text)
  /-- The file of every row. -/
  sources : List Text
  /-- The persons in ascending order of their names. -/
  identities : List Identity
  activations : List Activation
  ignored : List IgnoredRule
  nameSource : Option NameSource

/-- One row of a report. -/
structure ReportRow where
  index : Nat
  score : Int64
  level : Level
  name : Option Text
  source : Text

namespace Report

/-- The scores of the rows under a name. -/
def scoresOf (name : Text) (names : List Text) (scores : List Int64) : List Int64 :=
  ((names.zip scores).filter fun row => row.1 == name).map Prod.snd

/-- The sum and level of every person, in ascending order of names. -/
def aggregate (buckets : Level.Buckets) (names : List Text) (scores : List Int64) :
    List Identity :=
  (Text.sorted ((names.zip scores).map Prod.fst).eraseDups).map fun name =>
    let score := satSum (scoresOf name names scores)
    ⟨name, score, Level.ofScore buckets score⟩

/-- What the rules see of a dataset: it, the names of its rows and the settings. -/
def contextOf (settings : ScoringSettings) (dataset : Dataset) : Context where
  dataset
  names := fullNames dataset (NameSource.detect? dataset settings.nameColumns)
  settings

/-- The scores of the rows once the rules and the watchlist have been applied. -/
def tally (settings : ScoringSettings) (evaluator : Evaluator) (dataset : Dataset) (rules : Rules)
    (watchlist : Watchlist) : Tally :=
  let context := contextOf settings dataset
  let applied := (Tally.start dataset.rows).applyAll evaluator context rules
  if (NameSource.detect? dataset settings.nameColumns).isSome then
    applied.applyWatchlist watchlist context.names
  else applied

/-- Scores a dataset with an evaluator of rule texts. -/
def scoreWith (settings : ScoringSettings) (evaluator : Evaluator) (dataset : Dataset)
    (rules : Rules) (watchlist : Watchlist) : Report :=
  let source := NameSource.detect? dataset settings.nameColumns
  let names := fullNames dataset source
  let tally := tally settings evaluator dataset rules watchlist
  { scores := tally.scores
    levels := tally.scores.map (Level.ofScore settings.buckets)
    names := source.map fun _ => names
    sources := dataset.sources
    identities :=
      if source.isSome then aggregate settings.buckets names tally.scores else []
    activations := tally.activations
    ignored := tally.ignored
    nameSource := source }

/-- Scores a dataset with rules of the rule language. -/
def score (settings : ScoringSettings) (dataset : Dataset) (rules : Rules)
    (watchlist : Watchlist) : Report :=
  scoreWith settings Expression.evaluate dataset rules watchlist

/-- The number of rows. -/
def rows (report : Report) : Nat :=
  report.scores.length

/-- A row of the report. -/
def row? (report : Report) (index : Nat) : Option ReportRow := do
  let score ← report.scores[index]?
  let level ← report.levels[index]?
  let source ← report.sources[index]?
  some ⟨index, score, level, report.names.bind fun names => names[index]?, source⟩

/-- The person with a canonical name. -/
def identity? (report : Report) (name : Text) : Option Identity :=
  report.identities.find? fun identity => identity.name == name

theorem length_scores (settings : ScoringSettings) (evaluator : Evaluator) (dataset : Dataset)
    (rules : Rules) (watchlist : Watchlist) :
    (scoreWith settings evaluator dataset rules watchlist).scores.length = dataset.rows := by
  simp only [scoreWith, tally]
  split
  · rw [Tally.length_scores_applyWatchlist, Tally.length_scores_applyAll]
    simp [Tally.start]
  · rw [Tally.length_scores_applyAll]
    simp [Tally.start]

theorem length_levels (settings : ScoringSettings) (evaluator : Evaluator) (dataset : Dataset)
    (rules : Rules) (watchlist : Watchlist) :
    (scoreWith settings evaluator dataset rules watchlist).levels.length = dataset.rows := by
  have := length_scores settings evaluator dataset rules watchlist
  simpa [scoreWith] using this

end Report

end RiskTally
