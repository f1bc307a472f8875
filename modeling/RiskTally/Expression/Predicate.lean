import RiskTally.Expression.Literal
import RiskTally.Identity
import RiskTally.Mask

/-!
# Predicates

The six forms of a rule without connectives, how each is recognised in text, and which
rows each selects. A column that the dataset lacks selects no row.

## Main results

* `Predicate.length_mask`: over a rectangular dataset a mask has one entry per row.
* `Predicate.select_of_leading`, `Predicate.select_of_trailing`: a predicate that was
  recognised in a text can be evaluated, whatever the dataset.
-/

namespace RiskTally

/-- Why a rule could not be evaluated. -/
inductive EvaluationFault where
  | unknownOperator (symbol : Text)
  | maskLength (expected found : Nat)
  deriving DecidableEq, Repr

/-- The wording of a fault. -/
def EvaluationFault.message : EvaluationFault → Text
  | unknownOperator symbol => "unknown comparison operator '".toList ++ symbol ++ ['\'']
  | maskLength expected found =>
    "mask has ".toList ++ natText found ++ " rows, dataset has ".toList ++ natText expected

/-- How two numbers compare. -/
inductive Comparison where
  | eq
  | ge
  | le
  | gt
  | lt
  deriving DecidableEq, Repr

namespace Comparison

/-- The comparison as it is written. -/
def symbol : Comparison → Text
  | eq => "==".toList
  | ge => ">=".toList
  | le => "<=".toList
  | gt => ">".toList
  | lt => "<".toList

/-- The comparisons in the order in which they are looked for, the longer ones first. -/
def inOrder : List Comparison :=
  [eq, ge, le, gt, lt]

/-- The comparison that an operator stands for. -/
def read (symbol : Text) : Except EvaluationFault Comparison :=
  match inOrder.find? fun op => op.symbol == symbol with
  | some op => .ok op
  | none => .error (.unknownOperator symbol)

@[simp] theorem read_symbol (op : Comparison) : read op.symbol = .ok op := by
  cases op <;> rfl

/-- The numbers stand in the relation. Nothing compares with what is not a number. -/
def holds (op : Comparison) (a b : Float) : Bool :=
  match op with
  | eq => a == b
  | ge => decide (b ≤ a)
  | le => decide (a ≤ b)
  | gt => decide (b < a)
  | lt => decide (a < b)

end Comparison

/-- A rule without connectives. -/
inductive Predicate where
  /-- The value of the column occurs in more than one row. -/
  | duplicate (column : Text)
  /-- Nearly all values of the column differ; one verdict for all rows. -/
  | highlyVaried (column : Text)
  /-- The person is one of those named. -/
  | nameIn (names : List Text)
  /-- The cell of the column is not missing. -/
  | present (column : Text)
  /-- The text of the cell is one of the values. -/
  | memberOf (column : Text) (values : List Text)
  /-- The cell compares with a literal, as the operator says. -/
  | compare (column symbol literal : Text)
  deriving DecidableEq, Repr

namespace Predicate

open Expression

/-! ## Recognising -/

/-- The text is the name of a function and one argument in parentheses. The argument is
not empty and holds no closing parenthesis. -/
def argument? (function : Text) (text : Text) : Option Text := do
  let rest ← Text.after? (function ++ ['(']) text
  let body ← Text.upTo? ')' rest
  if body ≠ [] ∧ ')' ∉ body then some (Text.trim body) else none

/-- The rest of a text is a list on one line, in brackets. -/
def bracketed? (lead : Text) (text : Text) : Option (List Text) := do
  let rest ← Text.after? (lead ++ " in [".toList) text
  let body ← Text.upTo? ']' rest
  if '\n' ∈ body then none else some (literals body)

/-- The literal that ends a comparison: what follows the blanks after the operator. It
is on one line and not empty; of blanks alone the last one is the literal. -/
def operand? (text : Text) : Option Text :=
  match text.dropWhile Text.isBlank with
  | [] =>
    match text.getLast? with
    | some c => if c = '\n' then none else some (unquote [c])
    | none => none
  | rest => if '\n' ∈ rest then none else some (unquote rest)

/-- The operator that a text begins with and the literal after it: of the operators that it
begins with the first that leaves a literal. -/
def comparison? (text : Text) : Option (Text × Text) :=
  Comparison.inOrder.findSome? fun op =>
    ((Text.after? op.symbol text).bind operand?).map fun literal => (op.symbol, literal)

/-- The text is a column and what is asked of it: that it is not null. -/
def present? (text : Text) : Option Predicate := do
  let (column, rest) ← splitName? text
  if rest = " is not null".toList then some (present column) else none

/-- The text is a column and a list of values. -/
def memberOf? (text : Text) : Option Predicate := do
  let (column, rest) ← splitName? text
  let values ← bracketed? [] rest
  some (memberOf column values)

/-- The text is a column, an operator and a literal. -/
def compare? (text : Text) : Option Predicate := do
  let (column, rest) ← splitName? text
  let (symbol, literal) ← comparison? (rest.dropWhile Text.isBlank)
  some (compare column symbol literal)

theorem argument?_eq_some_iff {function text argument : Text} :
    argument? function text = some argument ↔
      ∃ body, body ≠ [] ∧ ')' ∉ body ∧ text = function ++ ['('] ++ (body ++ [')']) ∧
        argument = Text.trim body := by
  simp only [argument?, Option.bind_eq_bind, Option.bind_eq_some_iff, Text.after?_eq_some_iff,
    Text.upTo?_eq_some_iff, Option.ite_none_right_eq_some, Option.some.injEq]
  constructor
  · rintro ⟨_, rfl, body, rfl, ⟨hne, hclosing⟩, rfl⟩
    exact ⟨body, hne, hclosing, rfl, rfl⟩
  · rintro ⟨body, hne, hclosing, rfl, rfl⟩
    exact ⟨_, rfl, body, rfl, ⟨hne, hclosing⟩, rfl⟩

theorem bracketed?_eq_some_iff {lead text : Text} {values : List Text} :
    bracketed? lead text = some values ↔
      ∃ body, '\n' ∉ body ∧ text = lead ++ " in [".toList ++ (body ++ [']']) ∧
        values = literals body := by
  simp only [bracketed?, Option.bind_eq_bind, Option.bind_eq_some_iff, Text.after?_eq_some_iff,
    Text.upTo?_eq_some_iff, Option.ite_none_left_eq_some, Option.some.injEq]
  constructor
  · rintro ⟨_, rfl, body, rfl, hline, rfl⟩
    exact ⟨body, hline, rfl, rfl⟩
  · rintro ⟨body, hline, rfl, rfl⟩
    exact ⟨_, rfl, body, rfl, hline, rfl⟩

theorem present?_eq_some_iff {text : Text} {predicate : Predicate} :
    present? text = some predicate ↔
      ∃ column, splitName? text = some (column, " is not null".toList) ∧
        predicate = present column := by
  simp only [present?, Option.bind_eq_bind, Option.bind_eq_some_iff, Prod.exists,
    Option.ite_none_right_eq_some, Option.some.injEq]
  constructor
  · rintro ⟨column, _, hsplit, rfl, rfl⟩
    exact ⟨column, hsplit, rfl⟩
  · rintro ⟨column, hsplit, rfl⟩
    exact ⟨column, _, hsplit, rfl, rfl⟩

theorem memberOf?_eq_some_iff {text : Text} {predicate : Predicate} :
    memberOf? text = some predicate ↔
      ∃ column rest values, splitName? text = some (column, rest) ∧
        bracketed? [] rest = some values ∧ predicate = memberOf column values := by
  simp only [memberOf?, Option.bind_eq_bind, Option.bind_eq_some_iff, Prod.exists,
    Option.some.injEq]
  constructor
  · rintro ⟨column, rest, hsplit, values, hvalues, rfl⟩
    exact ⟨column, rest, values, hsplit, hvalues, rfl⟩
  · rintro ⟨column, rest, values, hsplit, hvalues, rfl⟩
    exact ⟨column, rest, hsplit, values, hvalues, rfl⟩

theorem compare?_eq_some_iff {text : Text} {predicate : Predicate} :
    compare? text = some predicate ↔
      ∃ column rest symbol literal, splitName? text = some (column, rest) ∧
        comparison? (rest.dropWhile Text.isBlank) = some (symbol, literal) ∧
        predicate = compare column symbol literal := by
  simp only [compare?, Option.bind_eq_bind, Option.bind_eq_some_iff, Prod.exists,
    Option.some.injEq]
  constructor
  · rintro ⟨column, rest, hsplit, symbol, literal, hcomparison, rfl⟩
    exact ⟨column, rest, symbol, literal, hsplit, hcomparison, rfl⟩
  · rintro ⟨column, rest, symbol, literal, hsplit, hcomparison, rfl⟩
    exact ⟨column, rest, hsplit, symbol, literal, hcomparison, rfl⟩

/-- The forms that are recognised before a text is split at connectives. -/
def leading? (text : Text) : Option Predicate :=
  (argument? "duplicate".toList text).map duplicate <|>
    (argument? "high_cardinality".toList text).map highlyVaried <|>
      (bracketed? "full_name".toList text).map nameIn <|> present? text

/-- The forms that are recognised in a text without connectives. -/
def trailing? (text : Text) : Option Predicate :=
  memberOf? text <|> compare? text

end Predicate

/-! ## Selecting -/

/-- What a rule can look at: the rows, the canonical name of each, and the settings. -/
structure Context where
  dataset : Dataset
  names : List Text
  settings : ScoringSettings

namespace Context

/-- The number of rows. -/
def rows (context : Context) : Nat :=
  context.dataset.rows

/-- The columns and the names have one entry per row. -/
def Rectangular (context : Context) : Prop :=
  context.dataset.Rectangular ∧ context.names.length = context.rows

end Context

namespace Predicate

/-- The rows whose value occurs more than once; missing values count as one value. -/
def duplicates (cells : List Cell) : Mask :=
  let keys := cells.map Cell.key
  keys.map fun key => 1 < keys.count key

/-- The number of distinct values that are not missing. -/
def distinctCount (cells : List Cell) : Nat :=
  ((cells.filter fun cell => !cell.isMissing).map Cell.key).eraseDups.length

/-- The column has enough rows and a share of distinct values past the configured one. -/
def isHighlyVaried (settings : ScoringSettings) (cells : List Cell) : Bool :=
  cells ≠ [] &&
    decide (settings.varietyRatio < Float.ofNat (distinctCount cells) / Float.ofNat cells.length) &&
    settings.varietyMinRows < cells.length

/-- The cell compares with the literal: as numbers if the literal is one, else as texts,
which can only be equal. -/
def cellCompares (op : Comparison) (literal : Text) (cell : Cell) : Bool :=
  match readFloat? literal with
  | some number => (cell.toNumber?.map fun value => op.holds value number).getD false
  | none => op == .eq && cell.toText? == some literal

/-- The rows whose cell compares with the literal. -/
def comparing (context : Context) (op : Comparison) (literal : Text) (cells : List Cell) : Mask :=
  if (readFloat? literal).isSome || op == .eq then cells.map (cellCompares op literal)
  else Mask.all context.rows false

/-- The mask of a column, no row where the dataset lacks it. -/
def overColumn (context : Context) (column : Text) (mask : List Cell → Mask) : Mask :=
  match context.dataset.column? column with
  | some cells => mask cells
  | none => Mask.all context.rows false

/-- The rows that a predicate selects, none by an operator that is not known. -/
def mask (context : Context) : Predicate → Mask
  | duplicate column => overColumn context column duplicates
  | highlyVaried column =>
    overColumn context column fun cells =>
      Mask.all context.rows (isHighlyVaried context.settings cells)
  | nameIn names =>
    let names := names.map normalizeName
    context.names.map fun name => names.contains name
  | present column => overColumn context column fun cells => cells.map fun cell => !cell.isMissing
  | memberOf column values =>
    overColumn context column fun cells => cells.map fun cell =>
      (cell.toText?.map fun text => values.contains text).getD false
  | compare column symbol literal =>
    overColumn context column fun cells =>
      match Comparison.read symbol with
      | .ok op => comparing context op literal cells
      | .error _ => Mask.all context.rows false

/-- The rows that a predicate selects, or why it cannot be evaluated. The operator of a
comparison is looked at once its column is found. -/
def select (context : Context) : Predicate → Except EvaluationFault Mask
  | compare column symbol literal =>
    match context.dataset.column? column with
    | some cells => (Comparison.read symbol).map fun op => comparing context op literal cells
    | none => .ok (Mask.all context.rows false)
  | predicate => .ok (predicate.mask context)

theorem length_mask {context : Context} (h : context.Rectangular) (predicate : Predicate) :
    (predicate.mask context).length = context.rows := by
  have column {name : Text} {f : List Cell → Mask} (hf : ∀ cells : List Cell,
      cells.length = context.rows → (f cells).length = context.rows) :
      (overColumn context name f).length = context.rows := by
    unfold overColumn
    split
    · rename_i cells hcells
      exact hf cells (length_column? h.1 hcells)
    · simp [Mask.all]
  cases predicate with
  | duplicate name => exact column fun cells hc => by simp [duplicates, hc]
  | highlyVaried name => exact column fun _ _ => by simp [Mask.all]
  | nameIn names => simpa [mask] using h.2
  | present name => exact column fun cells hc => by simp [hc]
  | memberOf name values => exact column fun cells hc => by simp [hc]
  | compare name symbol literal =>
    refine column fun cells hc => ?_
    split
    · unfold comparing
      split
      · simp [hc]
      · simp [Mask.all]
    · simp [Mask.all]

/-! ## Predicates that were recognised -/

theorem select_compare (context : Context) (column : Text) (op : Comparison) (literal : Text) :
    (compare column op.symbol literal).select context =
      .ok ((compare column op.symbol literal).mask context) := by
  simp only [select, mask, overColumn, Comparison.read_symbol]
  cases context.dataset.column? column <;> rfl

theorem exists_symbol_of_comparison {text symbol literal : Text}
    (h : comparison? text = some (symbol, literal)) : ∃ op : Comparison, symbol = op.symbol := by
  obtain ⟨op, _, hop⟩ := List.exists_of_findSome?_eq_some h
  obtain ⟨_, _, heq⟩ := Option.map_eq_some_iff.1 hop
  exact ⟨op, (congrArg Prod.fst heq).symm⟩

theorem select_of_leading {text : Text} {predicate : Predicate}
    (h : leading? text = some predicate) (context : Context) :
    predicate.select context = .ok (predicate.mask context) := by
  simp only [leading?, Option.orElse_eq_orElse, Option.orElse_eq_or, Option.or_eq_some_iff,
    Option.map_eq_some_iff] at h
  rcases h with ⟨_, _, rfl⟩ | ⟨_, ⟨_, _, rfl⟩ | ⟨_, ⟨_, _, rfl⟩ | ⟨_, h⟩⟩⟩
  · rfl
  · rfl
  · rfl
  · obtain ⟨column, _, rfl⟩ := present?_eq_some_iff.1 h
    rfl

theorem select_of_trailing {text : Text} {predicate : Predicate}
    (h : trailing? text = some predicate) (context : Context) :
    predicate.select context = .ok (predicate.mask context) := by
  simp only [trailing?, Option.orElse_eq_orElse, Option.orElse_eq_or, Option.or_eq_some_iff] at h
  rcases h with h | ⟨_, h⟩
  · obtain ⟨column, rest, values, _, _, rfl⟩ := memberOf?_eq_some_iff.1 h
    rfl
  · obtain ⟨column, rest, symbol, literal, _, hcomparison, rfl⟩ := compare?_eq_some_iff.1 h
    obtain ⟨op, rfl⟩ := exists_symbol_of_comparison hcomparison
    exact select_compare context column op literal

end Predicate

end RiskTally
