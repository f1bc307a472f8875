import RiskTally.Proofs.RowScores

/-!
# Rules on their own

What is noted of a rule hangs on its own mask or fault, never on the rules around it.  A
rule that selects nothing is silent: it adds to no row and has no activation, so that a
report with it differs from the report without it in the entry of a fault at most.
Leaving rules out takes their own entries away and moves none of the others.

## Main results

* `Rule.silent_of_error`, `Rule.silent_of_not_mem`: rules that fail or select no row.
* `Report.tally_insert`: what a silent rule leaves among others.
* `Rules.filterMap_exclude`: the entries of the rules that are not excluded.
* `Report.rules_isolated`: reports with a rule more and with rules left out.
-/

namespace RiskTally

/-! ## Silent rules -/

/-- The rule selects no row, and nothing is noted of its having selected one. -/
structure Rule.Silent (evaluator : Evaluator) (context : Context) (rule : Rule) : Prop where
  selects : ∀ row, rule.selects evaluator context row = false
  activation : rule.activation? evaluator context = none

section Silent

variable {evaluator : Evaluator} {context : Context} {rule : Rule}

theorem Rule.silent_of_error {fault : EvaluationFault}
    (h : evaluator rule.expression context = .error fault) : rule.Silent evaluator context where
  selects _ := by rw [selects, h]
  activation := by rw [activation?, h]

theorem Rule.silent_of_not_mem {mask : Mask} (h : evaluator rule.expression context = .ok mask)
    (hmask : true ∉ mask) : rule.Silent evaluator context where
  selects row := by
    rw [selects, h]
    exact Tally.getD_eq_false_of_count (List.count_eq_zero.2 hmask) row
  activation := by
    rw [activation?, h]
    exact if_pos (List.count_eq_zero.2 hmask)

/-- A silent rule gives no weight to any row. -/
theorem Rules.weightsAt_insert (h : rule.Silent evaluator context) (before after : Rules)
    (row : Nat) :
    Rules.weightsAt evaluator context row (before ++ rule :: after) =
      Rules.weightsAt evaluator context row (before ++ after) := by
  have hrule : ¬ rule.selects evaluator context row = true := by simp [h.selects row]
  unfold Rules.weightsAt
  rw [List.filter_append, List.filter_cons_of_neg hrule, ← List.filter_append]

end Silent

/-! ## Excluded rules -/

/-- Entries that bear the expressions of their rules: those of the rules that are not
excluded are the entries under the other expressions. -/
theorem Rules.filterMap_exclude {α : Type} (expression : α → Text) (note? : Rule → Option α)
    (hentry : ∀ rule entry, note? rule = some entry → expression entry = rule.expression)
    (expressions : List Text) (rules : Rules) :
    (rules.exclude expressions).filterMap note? =
      (rules.filterMap note?).filter fun entry => !expressions.contains (expression entry) := by
  induction rules with
  | nil => rfl
  | cons rule rules ih =>
      unfold Rules.exclude at ih ⊢
      cases hrule : note? rule with
      | none =>
          rw [List.filterMap_cons_none hrule, ← ih, List.filter_cons]
          split
          · exact List.filterMap_cons_none hrule
          · rfl
      | some entry =>
          rw [List.filterMap_cons_some hrule, List.filter_cons, List.filter_cons, ← ih,
            hentry rule entry hrule]
          split
          · exact List.filterMap_cons_some hrule
          · rfl

theorem Rule.expression_of_activation? {evaluator : Evaluator} {context : Context} {rule : Rule}
    {activation : Activation} (h : rule.activation? evaluator context = some activation) :
    activation.expression = rule.expression ∧ activation.weight = .fixed rule.weight := by
  unfold activation? at h
  split at h
  · obtain rfl := Option.some.inj (Option.ite_none_left_eq_some.1 h).2
    exact ⟨rfl, rfl⟩
  · simp at h

theorem Rule.expression_of_ignored? {evaluator : Evaluator} {context : Context} {rule : Rule}
    {entry : IgnoredRule} (h : rule.ignored? evaluator context = some entry) :
    entry.expression = rule.expression := by
  unfold ignored? at h
  split at h
  · simp at h
  · obtain rfl := Option.some.inj h
    rfl

/-- The activation is that of the watchlist, or of a rule that is not excluded. -/
def Activation.stays (expressions : List Text) (activation : Activation) : Bool :=
  activation.weight == .perRow || !expressions.contains activation.expression

/-! ## Reports -/

namespace Report

variable (settings : ScoringSettings) (evaluator : Evaluator) (dataset : Dataset)
  (watchlist : Watchlist)

/-- A silent rule leaves a tally as it is, but for its fault if it has one. -/
theorem tally_insert {rule : Rule} (h : rule.Silent evaluator (contextOf settings dataset))
    (before after : Rules) :
    tally settings evaluator dataset (before ++ rule :: after) watchlist =
      { tally settings evaluator dataset (before ++ after) watchlist with
        ignored :=
          before.filterMap (Rule.ignored? evaluator (contextOf settings dataset)) ++
            ((rule.ignored? evaluator (contextOf settings dataset)).toList ++
              after.filterMap (Rule.ignored? evaluator (contextOf settings dataset))) } := by
  have hcontributions : ∀ row,
      contributions settings evaluator dataset (before ++ rule :: after) watchlist row =
        contributions settings evaluator dataset (before ++ after) watchlist row := by
    intro row
    rw [contributions, Rules.weightsAt_insert h, contributions]
  rw [tally_eq, tally_eq]
  congr 1
  · exact List.map_congr_left fun row _ => congrArg satSum (hcontributions row)
  · rw [List.filterMap_append, List.filterMap_cons_none h.activation, List.filterMap_append]
  · rw [List.filterMap_append]
    congr 1
    cases hrule : rule.ignored? evaluator (contextOf settings dataset) with
    | none => exact List.filterMap_cons_none hrule
    | some entry => exact List.filterMap_cons_some hrule

/-- The same of a report: the fault of the rule stands between those of the rules before it
and those of the rules after it. -/
theorem scoreWith_insert {rule : Rule} (h : rule.Silent evaluator (contextOf settings dataset))
    (before after : Rules) :
    scoreWith settings evaluator dataset (before ++ rule :: after) watchlist =
      { scoreWith settings evaluator dataset (before ++ after) watchlist with
        ignored :=
          (scoreWith settings evaluator dataset before watchlist).ignored ++
            ((rule.ignored? evaluator (contextOf settings dataset)).toList ++
              (scoreWith settings evaluator dataset after watchlist).ignored) } := by
  rw [ignored_eq, ignored_eq]
  unfold scoreWith
  rw [tally_insert settings evaluator dataset watchlist h]

theorem ignored_append (before after : Rules) :
    (scoreWith settings evaluator dataset (before ++ after) watchlist).ignored =
      (scoreWith settings evaluator dataset before watchlist).ignored ++
        (scoreWith settings evaluator dataset after watchlist).ignored := by
  rw [ignored_eq, ignored_eq, ignored_eq, List.filterMap_append]

theorem activations_exclude (expressions : List Text) (rules : Rules) :
    (scoreWith settings evaluator dataset (rules.exclude expressions) watchlist).activations =
      (scoreWith settings evaluator dataset rules watchlist).activations.filter
        (Activation.stays expressions) := by
  have hrules : ∀ activation ∈
      rules.filterMap (Rule.activation? evaluator (contextOf settings dataset)),
      (!expressions.contains activation.expression) = activation.stays expressions := by
    intro activation hactivation
    obtain ⟨rule, -, hrule⟩ := List.mem_filterMap.1 hactivation
    rw [Activation.stays, (Rule.expression_of_activation? hrule).2]
    rfl
  have hwatchlist : (watchlist.activation? (rowNames settings dataset)).toList.filter
      (Activation.stays expressions) =
        (watchlist.activation? (rowNames settings dataset)).toList := by
    unfold Watchlist.activation?
    split <;> rfl
  rw [activations_eq, activations_eq, List.filter_append, hwatchlist,
    Rules.filterMap_exclude Activation.expression _
      fun _ _ hrule => (Rule.expression_of_activation? hrule).1,
    List.filter_congr hrules]

theorem ignored_exclude (expressions : List Text) (rules : Rules) :
    (scoreWith settings evaluator dataset (rules.exclude expressions) watchlist).ignored =
      (scoreWith settings evaluator dataset rules watchlist).ignored.filter
        fun entry => !expressions.contains entry.expression := by
  rw [ignored_eq, ignored_eq, Rules.filterMap_exclude IgnoredRule.expression _
    fun _ _ hrule => Rule.expression_of_ignored? hrule]

/-- With any evaluator: a rule that fails, anywhere among the rules, changes nothing in the
report but for its own entry, which stands between those of the rules before it and those
of the rules after it; a rule that selects no row changes nothing at all; and excluding
expressions takes away the entries of the rules with those expressions, and not the
watchlist's, and leaves the others as they are and in their order. -/
theorem rules_isolated (settings : ScoringSettings) (evaluator : Evaluator) (dataset : Dataset)
    (watchlist : Watchlist) :
    let scored := fun rules => scoreWith settings evaluator dataset rules watchlist
    (∀ (before after : Rules) (rule : Rule) (fault : EvaluationFault),
      evaluator rule.expression (contextOf settings dataset) = .error fault →
      (scored (before ++ after)).ignored = (scored before).ignored ++ (scored after).ignored ∧
      scored (before ++ rule :: after) =
        { scored (before ++ after) with
          ignored :=
            (scored before).ignored ++ ⟨rule.expression, fault⟩ :: (scored after).ignored }) ∧
    (∀ (before after : Rules) (rule : Rule) (mask : Mask),
      evaluator rule.expression (contextOf settings dataset) = .ok mask → true ∉ mask →
      scored (before ++ rule :: after) = scored (before ++ after)) ∧
    ∀ (expressions : List Text) (rules : Rules),
      (scored (rules.exclude expressions)).activations =
        (scored rules).activations.filter (Activation.stays expressions) ∧
      (scored (rules.exclude expressions)).ignored =
        (scored rules).ignored.filter fun entry => !expressions.contains entry.expression := by
  intro scored
  refine ⟨fun before after rule fault hfault => ⟨?_, ?_⟩,
    fun before after rule mask hmask hnone => ?_, fun expressions rules => ⟨?_, ?_⟩⟩
  · exact ignored_append settings evaluator dataset watchlist before after
  · have hentry : rule.ignored? evaluator (contextOf settings dataset) =
        some ⟨rule.expression, fault⟩ := by
      rw [Rule.ignored?, hfault]
    show scoreWith settings evaluator dataset (before ++ rule :: after) watchlist = _
    rw [scoreWith_insert settings evaluator dataset watchlist (Rule.silent_of_error hfault), hentry]
    rfl
  · have hentry : rule.ignored? evaluator (contextOf settings dataset) = none := by
      rw [Rule.ignored?, hmask]
    show scoreWith settings evaluator dataset (before ++ rule :: after) watchlist = _
    rw [scoreWith_insert settings evaluator dataset watchlist
      (Rule.silent_of_not_mem hmask hnone), hentry, Option.toList_none, List.nil_append,
      ← ignored_append]
  · exact activations_exclude settings evaluator dataset watchlist expressions rules
  · exact ignored_exclude settings evaluator dataset watchlist expressions rules

/-- Two rows of listed persons, and rules of which one fails, one selects no row, one has a
mask that is too long and one bears the expression of the watchlist's entry. -/
theorem rules_isolated_four_rules :
    ∃ (evaluator : Evaluator) (dataset : Dataset) (watchlist : Watchlist)
      (gain fails selectsNone listed : Rule),
      let scored := fun rules => scoreWith .default evaluator dataset rules watchlist
      evaluator fails.expression (contextOf .default dataset) =
        .error (.unknownOperator "!=".toList) ∧
      evaluator selectsNone.expression (contextOf .default dataset) = .ok [false] ∧
      scored [gain, fails, listed, fails] =
        { scored [gain, listed, fails] with
          ignored := [⟨fails.expression, .unknownOperator "!=".toList⟩,
            ⟨fails.expression, .unknownOperator "!=".toList⟩] } ∧
      scored [gain, selectsNone, listed] = scored [gain, listed] ∧
      (scored [gain, listed]).scores = [12, 11] ∧
      (scored (Rules.exclude [Tally.watchlistExpression] [gain, listed, fails])).activations =
        [⟨gain.expression, .fixed 5, 3⟩, ⟨Tally.watchlistExpression, .perRow, 1⟩] ∧
      (scored (Rules.exclude [fails.expression] [fails, gain, fails])).ignored = [] := by
  let evaluator : Evaluator := fun text _ =>
    if text = "gain".toList then .ok [true, true, true]
    else if text = "none".toList then .ok [false]
    else if text = Tally.watchlistExpression then .ok [true]
    else .error (.unknownOperator "!=".toList)
  let dataset : Dataset :=
    { columns := [("full_name".toList, [.text "Ana".toList, .text "jan".toList])]
      sources := List.replicate 2 "a.csv".toList }
  let watchlist : Watchlist := [("JAN".toList, ⟨6, []⟩)]
  let gain : Rule := ⟨"gain".toList, 5, []⟩
  let fails : Rule := ⟨"Age != 4".toList, 9, []⟩
  let selectsNone : Rule := ⟨"none".toList, 9, []⟩
  let listed : Rule := ⟨Tally.watchlistExpression, 7, []⟩
  have hfails : evaluator fails.expression (contextOf .default dataset) =
      .error (.unknownOperator "!=".toList) := rfl
  have hnone : evaluator selectsNone.expression (contextOf .default dataset) = .ok [false] := rfl
  obtain ⟨hfault, hsilent, hexcluded⟩ := rules_isolated .default evaluator dataset watchlist
  obtain ⟨-, hinserted⟩ := hfault [gain] [listed, fails] fails _ hfails
  refine ⟨evaluator, dataset, watchlist, gain, fails, selectsNone, listed, hfails, hnone,
    hinserted.trans ?_, hsilent [gain] [listed] selectsNone _ hnone (by decide), ?_, ?_, ?_⟩
  · congr 1
  · decide +kernel
  · rw [(hexcluded _ _).1]
    decide +kernel
  · rw [(hexcluded _ _).2]
    decide +kernel

end Report

end RiskTally
