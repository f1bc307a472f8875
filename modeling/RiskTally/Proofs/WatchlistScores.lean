import RiskTally.Proofs.Alignment
import RiskTally.Proofs.RowScores
import RiskTally.Proofs.TwoLevels

/-!
# What the watchlist adds to a row

The watchlist comes after the rules and adds to every row what it says of the row's own
name.  It is left out altogether unless it says something positive of a row, so that a
loss on one row can hang on a gain on another: this is all that one row sees of the names
of the others.

## Main results

* `Report.scores_of_watchlist`: the scores with a watchlist are those without it and what
  it says of each name, or those without it.
* `Report.scores_of_listed_losses`: a watchlist of losses adds nothing, until a gain
  stands beside them.
-/

namespace RiskTally

theorem Watchlist.amountsAt_of_gain {watchlist : Watchlist} {names : List Text}
    (h : ∃ name ∈ names, 0 < watchlist.score name) {row : Nat} {name : Text}
    (hname : names[row]? = some name) :
    watchlist.amountsAt names row = [watchlist.score name] := by
  rw [Watchlist.amountsAt, if_pos h, hname]
  rfl

namespace Report

/-- The score of a named row: with a gain somewhere, what the watchlist says of its name is
added to the score without the watchlist. -/
theorem getElem?_scores_of_name {settings : ScoringSettings} (evaluator : Evaluator)
    {dataset : Dataset} (rules : Rules) (watchlist : Watchlist) {row : Nat} {name : Text}
    (h : row < dataset.rows) (hname : (rowNames settings dataset)[row]? = some name) :
    (scoreWith settings evaluator dataset rules watchlist).scores[row]? =
      (scoreWith settings evaluator dataset rules []).scores[row]?.map fun score =>
        if ∃ name ∈ rowNames settings dataset, 0 < watchlist.score name then
          satAdd score (watchlist.score name)
        else score := by
  rw [getElem?_scores settings evaluator rules watchlist h,
    getElem?_scores_nil settings evaluator rules h, Option.map_some, contributions]
  by_cases hgain : ∃ name ∈ rowNames settings dataset, 0 < watchlist.score name
  · rw [if_pos hgain, Watchlist.amountsAt_of_gain hgain hname, satSum_concat]
  · rw [if_neg hgain, Watchlist.amountsAt, if_neg hgain, List.append_nil]

/-- In a rectangular dataset with names, where the watchlist says something positive of
some row it adds to each row what it says of the row's name, and else it adds nothing.
So the score of a row is the same under two watchlists that say the same of its name and
both say something positive of some row, or neither. -/
theorem scores_of_watchlist {dataset : Dataset} (h : dataset.Rectangular)
    {settings : ScoringSettings} {evaluator : Evaluator} {rules : Rules} {watchlist : Watchlist}
    {names : List Text}
    (hnames : (scoreWith settings evaluator dataset rules watchlist).names = some names) :
    let scores := fun listed => (scoreWith settings evaluator dataset rules listed).scores
    (∀ row < dataset.rows, ∃ name score, names[row]? = some name ∧
      (scores [])[row]? = some score ∧
      (scores watchlist)[row]? =
        some (if ∃ name ∈ names, 0 < watchlist.score name then
          satAdd score (watchlist.score name)
        else score)) ∧
    ∀ (other : Watchlist) (row : Nat) (name : Text), names[row]? = some name →
      other.score name = watchlist.score name →
      ((∃ name ∈ names, 0 < other.score name) ↔ ∃ name ∈ names, 0 < watchlist.score name) →
      (scores other)[row]? = (scores watchlist)[row]? := by
  intro scores
  have hlength : names.length = dataset.rows := length_of_mem_names h hnames
  have hrowNames : rowNames settings dataset = names := by
    rw [← names_eq settings evaluator dataset rules watchlist, hnames]
    rfl
  have hscores : ∀ (listed : Watchlist) (row : Nat) (name : Text), names[row]? = some name →
      (scores listed)[row]? = (scores [])[row]?.map fun score =>
        if ∃ name ∈ names, 0 < listed.score name then satAdd score (listed.score name)
        else score := by
    intro listed row name hname
    have hrow : row < dataset.rows := hlength ▸ (List.getElem?_eq_some_iff.1 hname).1
    have hlisted := getElem?_scores_of_name evaluator rules listed hrow (hrowNames ▸ hname)
    rwa [hrowNames] at hlisted
  constructor
  · intro row hrow
    have hname : names[row]? = some names[row] := List.getElem?_eq_getElem (by omega)
    have hscore := getElem?_scores_nil settings evaluator rules hrow
    refine ⟨names[row], _, hname, hscore, ?_⟩
    rw [hscores watchlist row _ hname, show (scores [])[row]? = _ from hscore, Option.map_some]
  · intro other row name hname hsame hgains
    rw [hscores other row name hname, hscores watchlist row name hname]
    simp only [hgains, hsame]

/-- A gain at the end of the range and a loss, on two rows with a rule; the second row does
not see how high the gain on the first is. -/
theorem scores_of_watchlist_two_rows :
    ∃ (dataset : Dataset) (rules : Rules) (watchlist other : Watchlist) (names : List Text),
      dataset.Rectangular ∧
      (score .default dataset rules watchlist).names = some names ∧
      (score .default dataset rules watchlist).scores[0]? = some Int64.maxValue ∧
      (score .default dataset rules watchlist).scores[1]? = some 40 ∧
      names.map watchlist.score = [Int64.maxValue, -10] ∧ names.map other.score = [1, -10] ∧
      (score .default dataset rules other).scores[1]? =
        (score .default dataset rules watchlist).scores[1]? := by
  let dataset : Dataset :=
    { columns := [("full_name".toList, [.text "Ana".toList, .text " jan".toList])]
      sources := List.replicate 2 "a.csv".toList }
  let rules : Rules := [⟨"full_name is not null".toList, 50, []⟩]
  let watchlist : Watchlist :=
    [("ANA".toList, ⟨Int64.maxValue, []⟩), ("JAN".toList, ⟨-10, []⟩)]
  let other : Watchlist := [("ANA".toList, ⟨1, []⟩), ("JAN".toList, ⟨-10, []⟩)]
  have hdataset : dataset.Rectangular := by
    simp [Dataset.Rectangular, Dataset.rows, dataset]
  have hread := Expression.evaluate_eq_byLevels (rectangular_contextOf hdataset .default)
  have hnames : (score .default dataset rules watchlist).names =
      some ["ANA".toList, "JAN".toList] := rfl
  have hbase : (scoreWith .default Expression.evaluate dataset rules []).scores = [50, 50] := by
    rw [scoreWith_congr hread]
    decide +kernel
  have hgains : (∃ name ∈ ["ANA".toList, "JAN".toList], 0 < other.score name) ↔
      ∃ name ∈ ["ANA".toList, "JAN".toList], 0 < watchlist.score name := by
    decide +kernel
  obtain ⟨hrows, hother⟩ := scores_of_watchlist hdataset hnames
  dsimp only at hrows
  refine ⟨dataset, rules, watchlist, other, _, hdataset, hnames, ?_, ?_, rfl, rfl,
    hother other 1 "JAN".toList rfl rfl hgains⟩
  · obtain ⟨name, score, hname, hscore, hlisted⟩ := hrows 0 (by decide)
    obtain rfl : "ANA".toList = name := Option.some.inj hname
    rw [hbase] at hscore
    obtain rfl : (50 : Int64) = score := Option.some.inj hscore
    exact hlisted.trans (by decide +kernel)
  · obtain ⟨name, score, hname, hscore, hlisted⟩ := hrows 1 (by decide)
    obtain rfl : "JAN".toList = name := Option.some.inj hname
    rw [hbase] at hscore
    obtain rfl : (50 : Int64) = score := Option.some.inj hscore
    exact hlisted.trans (by decide +kernel)

/-- A watchlist with a loss only adds nothing; with a gain on another row the loss counts. -/
theorem scores_of_listed_losses :
    ∃ (dataset : Dataset) (names : List Text) (losses gain : Watchlist), dataset.Rectangular ∧
      (score .default dataset [] losses).names = some names ∧
      (score .default dataset [] losses).scores = [0, 0] ∧
      List.zipWith satAdd (score .default dataset [] []).scores (names.map losses.score) =
        [0, -10] ∧
      names.map gain.score = [5, -10] ∧
      (score .default dataset [] gain).scores = [5, -10] := by
  let dataset : Dataset :=
    { columns := [("full_name".toList, [.text "Ana".toList, .text "Jan".toList])]
      sources := List.replicate 2 "a.csv".toList }
  refine ⟨dataset, ["ANA".toList, "JAN".toList], [("JAN".toList, ⟨-10, []⟩)],
    [("ANA".toList, ⟨5, []⟩), ("JAN".toList, ⟨-10, []⟩)], ?_, rfl, ?_, ?_, rfl, ?_⟩
  · simp [Dataset.Rectangular, Dataset.rows, dataset]
  · decide +kernel
  · decide +kernel
  · decide +kernel

end Report

end RiskTally
