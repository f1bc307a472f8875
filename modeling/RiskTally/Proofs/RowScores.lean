import RiskTally.Report

/-!
# Scores row by row

Scoring goes over the rules and adds to whole columns, passing over a rule that selects
nothing.  Seen from one row it is a saturating sum: of the weights of the rules that
select the row, in their order, and of what the watchlist adds to it.  One lemma says all
that a rule does to a tally, the run of the rules follows by induction, and every
statement about scores goes through `Report.scores_eq`.

## Main results

* `Tally.apply_eq`, `Tally.applyAll_eq`: what a rule and what a run of rules leave.
* `Tally.applyWatchlist_eq`: what the watchlist leaves.
* `Report.scores_eq`: the score of a row is the saturating sum of its contributions.
* `Report.activations_eq`, `Report.ignored_eq`: what is noted of the rules.
-/

namespace RiskTally

/-! ## One rule -/

/-- The mask of a rule is true at a row. -/
def Rule.selects (evaluator : Evaluator) (context : Context) (row : Nat) (rule : Rule) : Bool :=
  match evaluator rule.expression context with
  | .ok mask => mask[row]?.getD false
  | .error _ => false

/-- What is noted of a rule that has a mask: how many of its entries are true, if any. -/
def Rule.activation? (evaluator : Evaluator) (context : Context) (rule : Rule) :
    Option Activation :=
  match evaluator rule.expression context with
  | .ok mask =>
    if mask.count = 0 then none else some ⟨rule.expression, .fixed rule.weight, mask.count⟩
  | .error _ => none

/-- What is noted of a rule that has none. -/
def Rule.ignored? (evaluator : Evaluator) (context : Context) (rule : Rule) :
    Option IgnoredRule :=
  match evaluator rule.expression context with
  | .ok _ => none
  | .error fault => some ⟨rule.expression, fault⟩

/-- The weights of the rules that select a row, in the order of the rules. -/
def Rules.weightsAt (evaluator : Evaluator) (context : Context) (row : Nat) (rules : Rules) :
    List Int64 :=
  (rules.filter (Rule.selects evaluator context row)).map Rule.weight

/-- Evaluators that agree in a context let the same rules act on a row. -/
theorem Rules.weightsAt_congr {evaluator evaluator' : Evaluator} {context : Context}
    (h : ∀ text, evaluator text context = evaluator' text context) (row : Nat) (rules : Rules) :
    rules.weightsAt evaluator context row = rules.weightsAt evaluator' context row := by
  have hselects : Rule.selects evaluator context row = Rule.selects evaluator' context row := by
    funext rule
    rw [Rule.selects, h, Rule.selects]
  rw [weightsAt, hselects, weightsAt]

theorem Rules.foldl_weightsAt_cons (evaluator : Evaluator) (context : Context) (row : Nat)
    (rule : Rule) (rules : Rules) (score : Int64) :
    (Rules.weightsAt evaluator context row (rule :: rules)).foldl satAdd score =
      (rules.weightsAt evaluator context row).foldl satAdd
        (if rule.selects evaluator context row then satAdd score rule.weight else score) := by
  unfold Rules.weightsAt
  by_cases hselects : rule.selects evaluator context row = true
  · rw [List.filter_cons_of_pos hselects, if_pos hselects, List.map_cons, List.foldl_cons]
  · rw [List.filter_cons_of_neg hselects, if_neg hselects]

namespace Tally

/-- A mask is true nowhere if none of its entries is. -/
theorem getD_eq_false_of_count {mask : Mask} (h : mask.count = 0) (row : Nat) :
    mask[row]?.getD false = false := by
  cases hentry : mask[row]? with
  | none => rfl
  | some entry =>
      have hmem := List.mem_of_getElem? hentry
      cases entry with
      | false => rfl
      | true => exact absurd hmem (List.count_eq_zero.1 h)

theorem mapIdx_keep (scores : List Int64) : scores.mapIdx (fun _ score => score) = scores := by
  apply List.ext_getElem?
  simp

theorem addWhere_eq (amount : Int64) (mask : Mask) (scores : List Int64) :
    addWhere amount mask scores = scores.mapIdx fun row score =>
      if mask[row]?.getD false then satAdd score amount else score := by
  induction scores generalizing mask with
  | nil => cases mask <;> rfl
  | cons score scores ih =>
      cases mask with
      | nil => simp [addWhere, mapIdx_keep]
      | cons hit mask => simp [addWhere, ih]

theorem addEach_eq (amounts scores : List Int64) :
    addEach amounts scores = scores.mapIdx fun row score =>
      amounts[row]?.toList.foldl satAdd score := by
  induction scores generalizing amounts with
  | nil => cases amounts <;> rfl
  | cons score scores ih =>
      cases amounts with
      | nil => simp [addEach, mapIdx_keep]
      | cons amount amounts => simp [addEach, ih]

/-- All that a rule does to a tally. -/
theorem apply_eq (evaluator : Evaluator) (context : Context) (tally : Tally) (rule : Rule) :
    apply evaluator context tally rule =
      { scores := tally.scores.mapIdx fun row score =>
          if rule.selects evaluator context row then satAdd score rule.weight else score
        activations := tally.activations ++ (rule.activation? evaluator context).toList
        ignored := tally.ignored ++ (rule.ignored? evaluator context).toList } := by
  unfold apply Rule.selects Rule.activation? Rule.ignored?
  cases evaluator rule.expression context with
  | error fault => simp [applyResult, mapIdx_keep]
  | ok mask =>
      by_cases hzero : mask.count = 0
      · simp [applyResult, hzero, getD_eq_false_of_count hzero, mapIdx_keep]
      · simp [applyResult, hzero, addWhere_eq]

/-- All that a run of rules does to a tally. -/
theorem applyAll_eq (evaluator : Evaluator) (context : Context) (rules : Rules) (tally : Tally) :
    applyAll evaluator context rules tally =
      { scores := tally.scores.mapIdx fun row score =>
          (rules.weightsAt evaluator context row).foldl satAdd score
        activations := tally.activations ++ rules.filterMap (Rule.activation? evaluator context)
        ignored := tally.ignored ++ rules.filterMap (Rule.ignored? evaluator context) } := by
  induction rules generalizing tally with
  | nil => simp [applyAll, Rules.weightsAt, mapIdx_keep]
  | cons rule rules ih =>
      show applyAll evaluator context rules (apply evaluator context tally rule) = _
      rw [ih, apply_eq]
      congr 1
      · rw [List.mapIdx_mapIdx]
        congr 1
        funext row score
        exact (Rules.foldl_weightsAt_cons ..).symm
      · rw [List.append_assoc, List.filterMap_cons]
        cases rule.activation? evaluator context <;> rfl
      · rw [List.append_assoc, List.filterMap_cons]
        cases rule.ignored? evaluator context <;> rfl

end Tally

/-! ## The watchlist -/

namespace Watchlist

/-- What the watchlist adds to a row: the score of its name, if the watchlist says
something positive of any name. -/
def amountsAt (watchlist : Watchlist) (names : List Text) (row : Nat) : List Int64 :=
  if ∃ name ∈ names, 0 < watchlist.score name then
    (names[row]?.map watchlist.score).toList
  else []

/-- What is noted of the watchlist: of how many rows it says something positive, if of
any. -/
def activation? (watchlist : Watchlist) (names : List Text) : Option Activation :=
  if ∃ name ∈ names, 0 < watchlist.score name then
    some ⟨Tally.watchlistExpression, .perRow, names.countP fun name => 0 < watchlist.score name⟩
  else none

/-- An empty watchlist adds nothing. -/
theorem amountsAt_nil (names : List Text) (row : Nat) :
    amountsAt [] names row = [] := by
  have hnone : ¬ ∃ name ∈ names, 0 < score [] name := by
    rintro ⟨name, -, hpos⟩
    have hzero : score [] name = 0 := rfl
    rw [hzero] at hpos
    exact absurd hpos (by decide)
  rw [amountsAt, if_neg hnone]

end Watchlist

/-- All that the watchlist does to a tally. -/
theorem Tally.applyWatchlist_eq (watchlist : Watchlist) (names : List Text) (tally : Tally) :
    applyWatchlist watchlist names tally =
      { scores := tally.scores.mapIdx fun row score =>
          (watchlist.amountsAt names row).foldl satAdd score
        activations := tally.activations ++ (watchlist.activation? names).toList
        ignored := tally.ignored } := by
  have hmatched : (names.map watchlist.score).countP (fun amount => 0 < amount) =
      names.countP fun name => 0 < watchlist.score name := by
    rw [List.countP_map]
    rfl
  unfold applyWatchlist Watchlist.amountsAt Watchlist.activation?
  dsimp only
  rw [hmatched]
  by_cases hlisted : ∃ name ∈ names, 0 < watchlist.score name
  · have hpos : ¬ names.countP (fun name => 0 < watchlist.score name) = 0 := by
      simpa [List.countP_eq_zero] using hlisted
    simp [hlisted, hpos, addEach_eq]
  · have hzero : names.countP (fun name => 0 < watchlist.score name) = 0 := by
      simpa [List.countP_eq_zero] using hlisted
    simp [hlisted, hzero, mapIdx_keep]

/-! ## Reports -/

namespace Report

/-- The names of the rows; none of a dataset without columns to take them from. -/
def rowNames (settings : ScoringSettings) (dataset : Dataset) : List Text :=
  match NameSource.detect? dataset settings.nameColumns with
  | some source => fullNames dataset (some source)
  | none => []

/-- What is added to a row: the weights of the rules that select it, in the order of the
rules, and after them what the watchlist says of its name. -/
def contributions (settings : ScoringSettings) (evaluator : Evaluator) (dataset : Dataset)
    (rules : Rules) (watchlist : Watchlist) (row : Nat) : List Int64 :=
  rules.weightsAt evaluator (contextOf settings dataset) row ++
    watchlist.amountsAt (rowNames settings dataset) row

theorem names_eq (settings : ScoringSettings) (evaluator : Evaluator) (dataset : Dataset)
    (rules : Rules) (watchlist : Watchlist) :
    (scoreWith settings evaluator dataset rules watchlist).names.getD [] =
      rowNames settings dataset := by
  unfold scoreWith rowNames
  cases NameSource.detect? dataset settings.nameColumns <;> rfl

/-- Evaluators that agree on a dataset add the same to its rows. -/
theorem contributions_congr {settings : ScoringSettings} {evaluator evaluator' : Evaluator}
    {dataset : Dataset}
    (h : ∀ text, evaluator text (contextOf settings dataset) =
      evaluator' text (contextOf settings dataset))
    (rules : Rules) (watchlist : Watchlist) (row : Nat) :
    contributions settings evaluator dataset rules watchlist row =
      contributions settings evaluator' dataset rules watchlist row := by
  rw [contributions, Rules.weightsAt_congr h, contributions]

/-- Evaluators that agree on a dataset give one report. -/
theorem scoreWith_congr {settings : ScoringSettings} {evaluator evaluator' : Evaluator}
    {dataset : Dataset}
    (h : ∀ text, evaluator text (contextOf settings dataset) =
      evaluator' text (contextOf settings dataset))
    (rules : Rules) (watchlist : Watchlist) :
    scoreWith settings evaluator dataset rules watchlist =
      scoreWith settings evaluator' dataset rules watchlist := by
  have happly : Tally.apply evaluator (contextOf settings dataset) =
      Tally.apply evaluator' (contextOf settings dataset) := by
    funext tally rule
    rw [Tally.apply, h, Tally.apply]
  unfold scoreWith tally Tally.applyAll
  dsimp only
  rw [happly]

/-- The tally of a dataset, the rules and the watchlist seen from the rows. -/
theorem tally_eq (settings : ScoringSettings) (evaluator : Evaluator) (dataset : Dataset)
    (rules : Rules) (watchlist : Watchlist) :
    tally settings evaluator dataset rules watchlist =
      { scores := (List.range dataset.rows).map fun row =>
          satSum (contributions settings evaluator dataset rules watchlist row)
        activations :=
          rules.filterMap (Rule.activation? evaluator (contextOf settings dataset)) ++
            (watchlist.activation? (rowNames settings dataset)).toList
        ignored := rules.filterMap (Rule.ignored? evaluator (contextOf settings dataset)) } := by
  have hstart : ∀ f : Nat → Int64 → Int64,
      (Tally.start dataset.rows).scores.mapIdx f =
        (List.range dataset.rows).map fun row => f row 0 := by
    intro f
    apply List.ext_getElem?
    intro row
    by_cases hrow : row < dataset.rows
    · simp [Tally.start, hrow]
    · simp [Tally.start, hrow]
  unfold tally contributions rowNames
  dsimp only
  rw [Tally.applyAll_eq]
  cases hsource : NameSource.detect? dataset settings.nameColumns with
  | none =>
      rw [hstart]
      simp [Watchlist.amountsAt, Watchlist.activation?, satSum, Tally.start]
  | some source =>
      have hnames : (contextOf settings dataset).names = fullNames dataset (some source) := by
        rw [contextOf, hsource]
      rw [Option.isSome_some, if_pos rfl, Tally.applyWatchlist_eq, hnames, List.mapIdx_mapIdx,
        hstart]
      simp [satSum, Tally.start]

/-- The score of a row is the saturating sum of what is added to it. -/
theorem scores_eq (settings : ScoringSettings) (evaluator : Evaluator) (dataset : Dataset)
    (rules : Rules) (watchlist : Watchlist) :
    (scoreWith settings evaluator dataset rules watchlist).scores =
      (List.range dataset.rows).map fun row =>
        satSum (contributions settings evaluator dataset rules watchlist row) :=
  congrArg Tally.scores (tally_eq ..)

theorem getElem?_scores (settings : ScoringSettings) (evaluator : Evaluator) {dataset : Dataset}
    (rules : Rules) (watchlist : Watchlist) {row : Nat} (h : row < dataset.rows) :
    (scoreWith settings evaluator dataset rules watchlist).scores[row]? =
      some (satSum (contributions settings evaluator dataset rules watchlist row)) := by
  rw [scores_eq, List.getElem?_map, List.getElem?_range h]
  rfl

/-- The score of a row without a watchlist is the saturating sum of the weights. -/
theorem getElem?_scores_nil (settings : ScoringSettings) (evaluator : Evaluator)
    {dataset : Dataset} (rules : Rules) {row : Nat} (h : row < dataset.rows) :
    (scoreWith settings evaluator dataset rules []).scores[row]? =
      some (satSum (rules.weightsAt evaluator (contextOf settings dataset) row)) := by
  rw [getElem?_scores settings evaluator rules [] h, contributions, Watchlist.amountsAt_nil,
    List.append_nil]

/-- The rules with a true entry are noted in their order, and after them the watchlist. -/
theorem activations_eq (settings : ScoringSettings) (evaluator : Evaluator) (dataset : Dataset)
    (rules : Rules) (watchlist : Watchlist) :
    (scoreWith settings evaluator dataset rules watchlist).activations =
      rules.filterMap (Rule.activation? evaluator (contextOf settings dataset)) ++
        (watchlist.activation? (rowNames settings dataset)).toList :=
  congrArg Tally.activations (tally_eq ..)

/-- The rules without a mask are noted in their order. -/
theorem ignored_eq (settings : ScoringSettings) (evaluator : Evaluator) (dataset : Dataset)
    (rules : Rules) (watchlist : Watchlist) :
    (scoreWith settings evaluator dataset rules watchlist).ignored =
      rules.filterMap (Rule.ignored? evaluator (contextOf settings dataset)) :=
  congrArg Tally.ignored (tally_eq ..)

end Report

end RiskTally
