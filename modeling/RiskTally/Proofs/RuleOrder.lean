import RiskTally.Proofs.Alignment
import RiskTally.Proofs.RowScores
import RiskTally.Proofs.SaturatingSums
import RiskTally.Proofs.TwoLevels

/-!
# The order of the rules

What is noted of the rules follows their order, and is otherwise the same in every order.
The scores are sums that are held at the ends of the range after every rule, so that they
are the same in every order exactly when the weights on each row are `OrderFree`: of one
sign, or with gains and losses that are both within the range.

## Main results

* `Report.activations_perm`, `Report.ignored_perm`: the notes of the rules in another
  order.
* `Report.same_scores_iff_orderFree`: when no order of the rules changes a score.
* `Report.scores_in_two_orders`: three rules that give two scores in two orders.
-/

namespace RiskTally

/-! ## The weights on a row -/

namespace Rules

theorem weightsAt_append (evaluator : Evaluator) (context : Context) (row : Nat)
    (before after : Rules) :
    Rules.weightsAt evaluator context row (before ++ after) =
      before.weightsAt evaluator context row ++ after.weightsAt evaluator context row := by
  simp [Rules.weightsAt]

theorem weightsAt_perm {rules rules' : Rules} (h : rules'.Perm rules) (evaluator : Evaluator)
    (context : Context) (row : Nat) :
    (rules'.weightsAt evaluator context row).Perm (rules.weightsAt evaluator context row) :=
  (h.filter _).map _

/-- Choosing rules by their weights chooses the same weights on every row. -/
theorem weightsAt_filter (evaluator : Evaluator) (context : Context) (row : Nat)
    (keeps : Int64 → Bool) (rules : Rules) :
    Rules.weightsAt evaluator context row (rules.filter fun rule => keeps rule.weight) =
      (rules.weightsAt evaluator context row).filter keeps := by
  simp only [Rules.weightsAt, List.filter_map, List.filter_filter]
  congr 2
  funext rule
  exact Bool.and_comm _ _

end Rules

namespace Report

/-! ## Notes -/

theorem activations_perm {rules rules' : Rules} (h : rules'.Perm rules)
    (settings : ScoringSettings) (evaluator : Evaluator) (dataset : Dataset)
    (watchlist : Watchlist) :
    (scoreWith settings evaluator dataset rules' watchlist).activations.Perm
      (scoreWith settings evaluator dataset rules watchlist).activations := by
  rw [activations_eq, activations_eq]
  exact (h.filterMap _).append_right _

theorem ignored_perm {rules rules' : Rules} (h : rules'.Perm rules)
    (settings : ScoringSettings) (evaluator : Evaluator) (dataset : Dataset)
    (watchlist : Watchlist) :
    (scoreWith settings evaluator dataset rules' watchlist).ignored.Perm
      (scoreWith settings evaluator dataset rules watchlist).ignored := by
  rw [ignored_eq, ignored_eq]
  exact h.filterMap _

/-! ## Scores -/

/-- Reports on one dataset with the same scores agree on levels and persons. -/
theorem levels_and_identities_of_scores {settings : ScoringSettings} {evaluator : Evaluator}
    {dataset : Dataset} {rules rules' : Rules} {watchlist watchlist' : Watchlist}
    (h : (scoreWith settings evaluator dataset rules watchlist).scores =
      (scoreWith settings evaluator dataset rules' watchlist').scores) :
    (scoreWith settings evaluator dataset rules watchlist).levels =
        (scoreWith settings evaluator dataset rules' watchlist').levels ∧
      (scoreWith settings evaluator dataset rules watchlist).identities =
        (scoreWith settings evaluator dataset rules' watchlist').identities := by
  have hscores : (tally settings evaluator dataset rules watchlist).scores =
      (tally settings evaluator dataset rules' watchlist').scores := h
  simp only [scoreWith, hscores, and_self]

/-- Order-free weights on every row give one list of scores in every order. -/
theorem scores_perm {settings : ScoringSettings} {evaluator : Evaluator} {dataset : Dataset}
    {rules rules' : Rules} (h : rules'.Perm rules)
    (hfree : ∀ row < dataset.rows,
      OrderFree (rules.weightsAt evaluator (contextOf settings dataset) row))
    (watchlist : Watchlist) :
    (scoreWith settings evaluator dataset rules' watchlist).scores =
      (scoreWith settings evaluator dataset rules watchlist).scores := by
  rw [scores_eq, scores_eq]
  refine List.map_congr_left fun row hrow => ?_
  have hweights := satSum_eq_of_perm
    (Rules.weightsAt_perm h evaluator (contextOf settings dataset) row).symm
    (hfree row (List.mem_range.1 hrow))
  rw [contributions, contributions, satSum_append, satSum_append, hweights]

/-- Where no order of the rules changes a score, the weights on every row are order-free:
the rules with the gains first and with the losses first are two orders. -/
theorem orderFree_of_scores {settings : ScoringSettings} {evaluator : Evaluator}
    {dataset : Dataset} {rules : Rules}
    (h : ∀ rules' : Rules, rules'.Perm rules →
      (scoreWith settings evaluator dataset rules' []).scores =
        (scoreWith settings evaluator dataset rules []).scores)
    {row : Nat} (hrow : row < dataset.rows) :
    OrderFree (rules.weightsAt evaluator (contextOf settings dataset) row) := by
  let up : Rules := rules.filter fun rule => 0 ≤ rule.weight
  let down : Rules := rules.filter fun rule => !decide (0 ≤ rule.weight)
  have hupDown : (up ++ down).Perm rules := List.filter_append_perm _ _
  have hdownUp : (down ++ up).Perm rules := List.perm_append_comm.trans hupDown
  have hup : up.weightsAt evaluator (contextOf settings dataset) row =
      gains (rules.weightsAt evaluator (contextOf settings dataset) row) :=
    Rules.weightsAt_filter evaluator _ row (fun weight => 0 ≤ weight) rules
  have hdown : down.weightsAt evaluator (contextOf settings dataset) row =
      losses (rules.weightsAt evaluator (contextOf settings dataset) row) :=
    Rules.weightsAt_filter evaluator _ row (fun weight => !decide (0 ≤ weight)) rules
  have hsame : (scoreWith settings evaluator dataset (up ++ down) []).scores[row]? =
      (scoreWith settings evaluator dataset (down ++ up) []).scores[row]? := by
    rw [h _ hupDown, h _ hdownUp]
  rw [getElem?_scores_nil settings evaluator _ hrow, getElem?_scores_nil settings evaluator _ hrow,
    Rules.weightsAt_append, Rules.weightsAt_append, hup, hdown] at hsame
  exact orderFree_of_satSum_eq (Option.some.inj hsame)

/-- In every order of the rules the same is noted of them, in that order.  Scores, levels
and persons are the same in every order, under every watchlist, exactly when the weights
on each row are order-free. -/
theorem same_scores_iff_orderFree (settings : ScoringSettings) (evaluator : Evaluator)
    (dataset : Dataset) (rules : Rules) :
    (∀ rules' : Rules, rules'.Perm rules → ∀ watchlist,
      let report := scoreWith settings evaluator dataset rules watchlist
      let report' := scoreWith settings evaluator dataset rules' watchlist
      report'.activations.Perm report.activations ∧ report'.ignored.Perm report.ignored) ∧
    ((∀ rules' : Rules, rules'.Perm rules → ∀ watchlist,
      let report := scoreWith settings evaluator dataset rules watchlist
      let report' := scoreWith settings evaluator dataset rules' watchlist
      report'.scores = report.scores ∧ report'.levels = report.levels ∧
        report'.identities = report.identities) ↔
      ∀ row < dataset.rows,
        OrderFree (rules.weightsAt evaluator (contextOf settings dataset) row)) := by
  refine ⟨fun rules' h watchlist => ?_, ?_, ?_⟩
  · exact ⟨activations_perm h settings evaluator dataset watchlist,
      ignored_perm h settings evaluator dataset watchlist⟩
  · intro hsame row hrow
    exact orderFree_of_scores (fun rules' h => (hsame rules' h []).1) hrow
  · intro hfree rules' h watchlist
    have hscores := scores_perm h hfree watchlist
    exact ⟨hscores, levels_and_identities_of_scores hscores⟩

/-- Weights at both ends of the range that are order-free. -/
theorem same_scores_iff_orderFree_both_ends :
    ∃ (dataset : Dataset) (rules rules' : Rules), rules'.Perm rules ∧
      (score .default dataset rules []).scores = [-1] ∧
      (score .default dataset rules' []).scores = (score .default dataset rules []).scores ∧
      (score .default dataset rules' []).activations.Perm
        (score .default dataset rules []).activations := by
  let dataset : Dataset :=
    { columns := [("Age".toList, [.integer 4])], sources := ["a.csv".toList] }
  let gain : Rule := ⟨"Age is not null".toList, Int64.maxValue, []⟩
  let loss : Rule := ⟨"Age == 4".toList, Int64.minValue, []⟩
  have hdataset : dataset.Rectangular := by
    simp [Dataset.Rectangular, Dataset.rows, dataset]
  have hread := Expression.evaluate_eq_byLevels (rectangular_contextOf hdataset .default)
  have hperm : [loss, gain].Perm [gain, loss] := .swap gain loss []
  have hfree : ∀ row < dataset.rows, OrderFree
      (Rules.weightsAt Expression.evaluate (contextOf .default dataset) row [gain, loss]) := by
    intro row hrow
    rw [Rules.weightsAt_congr hread]
    revert row
    decide +kernel
  obtain ⟨hnotes, hscores⟩ :=
    same_scores_iff_orderFree .default Expression.evaluate dataset [gain, loss]
  refine ⟨dataset, [gain, loss], [loss, gain], hperm, ?_, (hscores.2 hfree _ hperm []).1,
    (hnotes _ hperm []).1⟩
  rw [score, scoreWith_congr hread]
  decide +kernel

/-- Three rules that select the one row, two of them with the highest weight and one with
the lowest.  What is cut off above, if the loss comes last, is not given back. -/
theorem scores_in_two_orders :
    ∃ (dataset : Dataset) (rules rules' : Rules), dataset.Rectangular ∧ rules'.Perm rules ∧
      (score .default dataset rules []).scores = [Int64.maxValue - 1] ∧
      (score .default dataset rules []).levels = [.critical] ∧
      (score .default dataset rules' []).scores = [-1] ∧
      (score .default dataset rules' []).levels = [.low] := by
  let dataset : Dataset :=
    { columns := [("Age".toList, [.integer 4])], sources := ["a.csv".toList] }
  let gain : Rule := ⟨"Age is not null".toList, Int64.maxValue, []⟩
  let loss : Rule := ⟨"Age is not null".toList, Int64.minValue, []⟩
  have hdataset : dataset.Rectangular := by
    simp [Dataset.Rectangular, Dataset.rows, dataset]
  have hread := Expression.evaluate_eq_byLevels (rectangular_contextOf hdataset .default)
  refine ⟨dataset, [gain, loss, gain], [gain, gain, loss], hdataset,
    .cons gain (.swap loss gain []), ?_⟩
  rw [score, score, scoreWith_congr hread, scoreWith_congr hread]
  decide +kernel

end Report

end RiskTally
