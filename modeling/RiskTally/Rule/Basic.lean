import RiskTally.Number.Integer

/-!
# Rules

A rule gives a weight to every row on which its expression is true. Rules are kept in
the order in which they were written.

## Main results

* `Rules.mem_exclude_iff`: a rule is dropped exactly when its expression is excluded.
-/

namespace RiskTally

/-- A weighted expression. -/
structure Rule where
  expression : Text
  weight : Int64
  description : Text
  deriving DecidableEq

/-- Rules in the order of reporting. -/
abbrev Rules := List Rule

namespace Rules

/-- The rules whose expression is none of those given. -/
def exclude (expressions : List Text) (rules : Rules) : Rules :=
  rules.filter fun rule => !expressions.contains rule.expression

theorem mem_exclude_iff {expressions : List Text} {rules : Rules} {rule : Rule} :
    rule ∈ exclude expressions rules ↔ rule ∈ rules ∧ rule.expression ∉ expressions := by
  simp [exclude]

end Rules

end RiskTally
