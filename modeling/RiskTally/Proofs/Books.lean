import RiskTally.Proofs.Alignment
import RiskTally.Proofs.RowScores
import RiskTally.Proofs.SaturatingSums
import RiskTally.Proofs.TwoLevels

/-!
# The books balance

What the rules add to a dataset is a table with a line for every row and a column for
every rule.  The scores sum its lines and the activations its columns, so that both give
the same total as long as no sum of a line leaves the 64-bit range.  The watchlist is one
column more, with an amount of its own on every line.

## Main results

* `Rule.activation?_eq`: a rule is noted with the number of rows that it selects.
* `Rules.sum_weightsAt`: the total by rows is the total by rules.
* `Report.books_balance`: scores, activations and their totals.
-/

namespace RiskTally

/-- The number of rows that a rule selects. -/
def Rule.rowsSelected (evaluator : Evaluator) (context : Context) (rule : Rule) : Nat :=
  (List.range context.rows).countP fun row => rule.selects evaluator context row

/-- What an activation of a fixed weight adds in all. -/
def Activation.fixedTotal (activation : Activation) : Int :=
  match activation.weight with
  | .fixed amount => amount.toInt * activation.matchedRows
  | .perRow => 0

/-! ## By rules -/

theorem Mask.count_eq_countP (mask : Mask) :
    mask.count = (List.range mask.length).countP fun row => mask[row]?.getD false := by
  have hmask : mask = (List.range mask.length).map fun row => mask[row]?.getD false := by
    apply List.ext_getElem
    · simp
    · intro row hrow hrow'
      simp [hrow]
  conv_lhs => rw [hmask]
  rw [Mask.count, List.count, List.countP_map]
  congr 1
  funext row
  simp

/-- A rule with an entry per row is noted with the number of rows that it selects. -/
theorem Rule.activation?_eq {context : Context} (h : context.Rectangular) (rule : Rule) :
    rule.activation? Expression.evaluate context =
      if 0 < rule.rowsSelected Expression.evaluate context then
        some ⟨rule.expression, .fixed rule.weight,
          rule.rowsSelected Expression.evaluate context⟩
      else none := by
  obtain ⟨mask, hmask, hlength⟩ := Expression.exists_mask h rule.expression
  have hcount : mask.count = rule.rowsSelected Expression.evaluate context := by
    unfold Rule.rowsSelected Rule.selects
    rw [hmask, Mask.count_eq_countP, hlength]
  unfold Rule.activation?
  rw [hmask, ← hcount]
  dsimp only
  by_cases hzero : mask.count = 0
  · rw [if_pos hzero, if_neg (by omega)]
  · rw [if_neg hzero, if_pos (by omega)]

/-- The rules that select a row are noted, in their order. -/
theorem Rules.filterMap_activation? {context : Context} (h : context.Rectangular)
    (rules : Rules) :
    rules.filterMap (Rule.activation? Expression.evaluate context) =
      (rules.filter fun rule => 0 < rule.rowsSelected Expression.evaluate context).map fun rule =>
        ⟨rule.expression, .fixed rule.weight,
          rule.rowsSelected Expression.evaluate context⟩ := by
  induction rules with
  | nil => rfl
  | cons rule rules ih =>
      rw [List.filterMap_cons, Rule.activation?_eq h, ih]
      by_cases hselected : 0 < rule.rowsSelected Expression.evaluate context
      · rw [if_pos hselected, List.filter_cons_of_pos (by simpa using hselected)]
        rfl
      · rw [if_neg hselected, List.filter_cons_of_neg (by simpa using hselected)]

/-- What the noted rules add in all is what all rules add: one that selects no row adds
nothing. -/
theorem Rules.sum_fixedTotal {context : Context} (h : context.Rectangular) (rules : Rules) :
    ((rules.filterMap (Rule.activation? Expression.evaluate context)).map
        Activation.fixedTotal).sum =
      (rules.map fun rule =>
        rule.weight.toInt * (rule.rowsSelected Expression.evaluate context : Int)).sum := by
  induction rules with
  | nil => rfl
  | cons rule rules ih =>
      rw [List.filterMap_cons, Rule.activation?_eq h, List.map_cons, List.sum_cons, ← ih]
      by_cases hselected : 0 < rule.rowsSelected Expression.evaluate context
      · rw [if_pos hselected]
        rfl
      · have hzero : rule.rowsSelected Expression.evaluate context = 0 := by omega
        rw [if_neg hselected, hzero]
        simp

/-! ## By rows -/

/-- An amount on the rows with a property comes to the amount times their number. -/
theorem sum_map_ite_eq_mul_countP (amount : Int) (selects : Nat → Bool) (rows : List Nat) :
    (rows.map fun row => if selects row then amount else 0).sum =
      amount * (rows.countP selects : Int) := by
  induction rows with
  | nil => simp
  | cons row rows ih =>
      rw [List.map_cons, List.sum_cons, ih, List.countP_cons]
      by_cases hrow : selects row = true
      · simp only [hrow, if_true]
        rw [Int.natCast_add, Int.natCast_one, Int.mul_add, Int.mul_one, Int.add_comm]
      · simp [hrow]

theorem Rules.integerSum_weightsAt_cons (evaluator : Evaluator) (context : Context) (row : Nat)
    (rule : Rule) (rules : Rules) :
    integerSum (Rules.weightsAt evaluator context row (rule :: rules)) =
      (if rule.selects evaluator context row then rule.weight.toInt else 0) +
        integerSum (rules.weightsAt evaluator context row) := by
  unfold Rules.weightsAt
  by_cases hselects : rule.selects evaluator context row = true
  · rw [List.filter_cons_of_pos hselects, if_pos hselects, List.map_cons, integerSum_cons]
  · rw [List.filter_cons_of_neg hselects, if_neg hselects, Int.zero_add]

/-- The weights summed row by row are the weights summed rule by rule. -/
theorem Rules.sum_weightsAt (evaluator : Evaluator) (context : Context) (rules : Rules) :
    ((List.range context.rows).map fun row =>
        integerSum (rules.weightsAt evaluator context row)).sum =
      (rules.map fun rule =>
        rule.weight.toInt * (rule.rowsSelected evaluator context : Int)).sum := by
  induction rules with
  | nil => simp [Rules.weightsAt, integerSum]
  | cons rule rules ih =>
      simp only [Rules.integerSum_weightsAt_cons]
      rw [List.sum_map_add, ih, sum_map_ite_eq_mul_countP]
      rfl

/-- What the watchlist adds row by row comes to all that it says of the names, or to
nothing. -/
theorem Watchlist.sum_amountsAt (watchlist : Watchlist) (names : List Text) :
    ((List.range names.length).map fun row => integerSum (watchlist.amountsAt names row)).sum =
      if ∃ name ∈ names, 0 < watchlist.score name then
        integerSum (names.map watchlist.score)
      else 0 := by
  by_cases hlisted : ∃ name ∈ names, 0 < watchlist.score name
  · have hrows : ((List.range names.length).map fun row =>
        integerSum (watchlist.amountsAt names row)) =
          (names.map watchlist.score).map Int64.toInt := by
      apply List.ext_getElem
      · simp
      · intro row hrow hrow'
        simp only [List.length_map] at hrow'
        simp [Watchlist.amountsAt, hlisted, hrow', integerSum]
    rw [if_pos hlisted, hrows]
    rfl
  · simp [Watchlist.amountsAt, hlisted, integerSum]

/-! ## Rows and rules together -/

namespace Report

theorem length_rowNames {dataset : Dataset} (h : dataset.Rectangular) {settings : ScoringSettings}
    (hnames : rowNames settings dataset ≠ []) :
    (rowNames settings dataset).length = dataset.rows := by
  unfold rowNames at hnames ⊢
  split
  · exact length_fullNames h _
  · rename_i hsource
    rw [hsource] at hnames
    exact absurd rfl hnames

/-- What the watchlist adds to all rows, whether they have names or not. -/
theorem sum_amountsAt {dataset : Dataset} (h : dataset.Rectangular) (settings : ScoringSettings)
    (watchlist : Watchlist) :
    ((List.range dataset.rows).map fun row =>
        integerSum (watchlist.amountsAt (rowNames settings dataset) row)).sum =
      if ∃ name ∈ rowNames settings dataset, 0 < watchlist.score name then
        integerSum ((rowNames settings dataset).map watchlist.score)
      else 0 := by
  by_cases hnames : rowNames settings dataset = []
  · simp [hnames, Watchlist.amountsAt, integerSum]
  · rw [← length_rowNames h hnames]
    exact Watchlist.sum_amountsAt watchlist _

/-- The total by rows is the total by rules and what the watchlist adds to all rows. -/
theorem sum_contributions {dataset : Dataset} (h : dataset.Rectangular)
    (settings : ScoringSettings) (evaluator : Evaluator) (rules : Rules) (watchlist : Watchlist) :
    ((List.range dataset.rows).map fun row =>
        integerSum (contributions settings evaluator dataset rules watchlist row)).sum =
      (rules.map fun rule => rule.weight.toInt *
        (rule.rowsSelected evaluator (contextOf settings dataset) : Int)).sum +
        (if ∃ name ∈ rowNames settings dataset, 0 < watchlist.score name then
          integerSum ((rowNames settings dataset).map watchlist.score)
        else 0) := by
  have hrules := Rules.sum_weightsAt evaluator (contextOf settings dataset) rules
  simp only [contributions, integerSum_append]
  rw [List.sum_map_add, sum_amountsAt h, ← hrules]
  rfl

/-- The noted activations of fixed weight come to the total by rules. -/
theorem sum_fixedTotal_activations {dataset : Dataset} (h : dataset.Rectangular)
    (settings : ScoringSettings) (rules : Rules) (watchlist : Watchlist) :
    ((score settings dataset rules watchlist).activations.map Activation.fixedTotal).sum =
      (rules.map fun rule => rule.weight.toInt *
        (rule.rowsSelected Expression.evaluate (contextOf settings dataset) : Int)).sum := by
  have hlisted : ((watchlist.activation? (rowNames settings dataset)).toList.map
      Activation.fixedTotal).sum = 0 := by
    unfold Watchlist.activation?
    split <;> rfl
  rw [score, activations_eq, List.map_append, List.sum_append, hlisted,
    Rules.sum_fixedTotal (rectangular_contextOf h settings), Int.add_zero]

theorem perRow_mem_weights_iff (settings : ScoringSettings) (evaluator : Evaluator)
    (dataset : Dataset) (rules : Rules) (watchlist : Watchlist) :
    Weight.perRow ∈
        (scoreWith settings evaluator dataset rules watchlist).activations.map Activation.weight ↔
      ∃ name ∈ rowNames settings dataset, 0 < watchlist.score name := by
  have hfixed : ∀ rule : Rule, ∀ activation,
      rule.activation? evaluator (contextOf settings dataset) = some activation →
        activation.weight = .fixed rule.weight := by
    intro rule activation h
    unfold Rule.activation? at h
    split at h
    · split at h
      · exact absurd h (by simp)
      · obtain rfl := Option.some.inj h
        rfl
    · exact absurd h (by simp)
  rw [activations_eq, List.map_append, List.mem_append]
  constructor
  · rintro (hrule | hlisted)
    · obtain ⟨activation, hmem, hweight⟩ := List.mem_map.1 hrule
      obtain ⟨rule, -, hnoted⟩ := List.mem_filterMap.1 hmem
      rw [hfixed rule activation hnoted] at hweight
      exact absurd hweight (by simp)
    · by_contra hnone
      rw [Watchlist.activation?, if_neg hnone] at hlisted
      exact absurd hlisted (by simp)
  · intro hlisted
    refine .inr ?_
    rw [Watchlist.activation?, if_pos hlisted]
    exact List.mem_singleton.2 rfl

/-- In a rectangular dataset with no partial sum out of the range: the score of a row is
the integer sum of what is added to it; the rules that select a row are noted in their
order, each with its weight and the number of its rows, and after them the watchlist if
it says something positive of a row; and the scores of all rows come to what the noted
rules add in all and, if the watchlist is noted, all that it says of the rows. -/
theorem books_balance {dataset : Dataset} (h : dataset.Rectangular) (settings : ScoringSettings)
    (rules : Rules) (watchlist : Watchlist)
    (hfit : ∀ row < dataset.rows, PartialSumsInRange
      (contributions settings Expression.evaluate dataset rules watchlist row)) :
    let report := score settings dataset rules watchlist
    let names := report.names.getD []
    let selected := Rule.rowsSelected Expression.evaluate (contextOf settings dataset)
    (∀ row < dataset.rows, report.scores[row]?.map Int64.toInt =
      some (integerSum
        (contributions settings Expression.evaluate dataset rules watchlist row))) ∧
    report.activations =
      (rules.filter fun rule => 0 < selected rule).map
          (fun rule => ⟨rule.expression, .fixed rule.weight, selected rule⟩) ++
        (if ∃ name ∈ names, 0 < watchlist.score name then
          [⟨Tally.watchlistExpression, .perRow, names.countP fun name => 0 < watchlist.score name⟩]
        else []) ∧
    integerSum report.scores =
      (report.activations.map Activation.fixedTotal).sum +
        (if .perRow ∈ report.activations.map Activation.weight then
          integerSum (names.map watchlist.score)
        else 0) := by
  intro report names selected
  have hcontext := rectangular_contextOf h settings
  have hnames : names = rowNames settings dataset := names_eq ..
  have hrow : ∀ row < dataset.rows,
      (satSum (contributions settings Expression.evaluate dataset rules watchlist row)).toInt =
        integerSum (contributions settings Expression.evaluate dataset rules watchlist row) :=
    fun row hrow => toInt_satSum_of_partialSums (hfit row hrow)
  refine ⟨?_, ?_, ?_⟩
  · intro row hlt
    have hscore : report.scores[row]? =
        some (satSum (contributions settings Expression.evaluate dataset rules watchlist row)) :=
      getElem?_scores settings Expression.evaluate rules watchlist hlt
    rw [hscore, Option.map_some, hrow row hlt]
  · rw [show report.activations = _ from activations_eq .., hnames,
      Rules.filterMap_activation? hcontext, Watchlist.activation?]
    congr 1
    split <;> rfl
  · have hscores : integerSum report.scores =
        ((List.range dataset.rows).map fun row => integerSum
          (contributions settings Expression.evaluate dataset rules watchlist row)).sum := by
      rw [show report.scores = _ from scores_eq .., integerSum, List.map_map]
      congr 1
      refine List.map_congr_left fun row hmem => ?_
      exact hrow row (List.mem_range.1 hmem)
    have hpresent : Weight.perRow ∈ report.activations.map Activation.weight ↔
        ∃ name ∈ rowNames settings dataset, 0 < watchlist.score name :=
      perRow_mem_weights_iff ..
    rw [hscores, sum_contributions h, sum_fixedTotal_activations h, hnames]
    by_cases hlisted : ∃ name ∈ rowNames settings dataset, 0 < watchlist.score name
    · rw [if_pos hlisted, if_pos (hpresent.2 hlisted)]
    · rw [if_neg hlisted, if_neg fun hmem => hlisted (hpresent.1 hmem)]

/-- Three rows at the upper end of the range: a rule without rows, a name that is listed
with a loss, and a row without a name. -/
theorem books_balance_three_rows :
    ∃ (dataset : Dataset) (rules : Rules) (watchlist : Watchlist), dataset.Rectangular ∧
      (∀ row < dataset.rows, PartialSumsInRange
        (contributions .default Expression.evaluate dataset rules watchlist row)) ∧
      (score .default dataset rules watchlist).scores[1]?.map Int64.toInt =
        some (Int64.maxValue.toInt - 1 - 5) ∧
      (score .default dataset rules watchlist).activations =
        [⟨"Age is not null".toList, .fixed Int64.maxValue, 2⟩,
          ⟨"duplicate(Age)".toList, .fixed (-1), 2⟩, ⟨Tally.watchlistExpression, .perRow, 1⟩] ∧
      integerSum (score .default dataset rules watchlist).scores =
        Int64.maxValue.toInt * 2 - 1 * 2 + (1 - 5 + 0) := by
  let dataset : Dataset :=
    { columns :=
        [("full_name".toList, [.text "Ana".toList, .text " jan".toList, .null]),
          ("Age".toList, [.integer 4, .integer 4, .null])]
      sources := List.replicate 3 "a.csv".toList }
  let rules : Rules :=
    [⟨"Age is not null".toList, Int64.maxValue, []⟩, ⟨"City is not null".toList, 7, []⟩,
      ⟨"duplicate(Age)".toList, -1, []⟩]
  let watchlist : Watchlist := [("ANA".toList, ⟨1, []⟩), ("JAN".toList, ⟨-5, []⟩)]
  have hdataset : dataset.Rectangular := by
    simp [Dataset.Rectangular, Dataset.rows, dataset]
  have hread := Expression.evaluate_eq_byLevels (rectangular_contextOf hdataset .default)
  have hfit : ∀ row < dataset.rows, PartialSumsInRange
      (contributions .default Expression.evaluate dataset rules watchlist row) := by
    intro row hrow
    rw [contributions_congr hread]
    revert row
    decide +kernel
  obtain ⟨hscores, hactivations, hbalance⟩ :=
    books_balance hdataset .default rules watchlist hfit
  refine ⟨dataset, rules, watchlist, hdataset, hfit, (hscores 1 (by decide)).trans ?_,
    hactivations.trans ?_, hbalance.trans ?_⟩
  · rw [contributions_congr hread]
    decide +kernel
  · rw [← hactivations, score, scoreWith_congr hread]
    decide +kernel
  · rw [score, scoreWith_congr hread]
    decide +kernel

end Report

end RiskTally
