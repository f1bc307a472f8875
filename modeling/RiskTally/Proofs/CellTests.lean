import RiskTally.Expression.Basic

/-!
# Predicates that look at one cell at a time

A predicate that is no count over its column asks something of every cell alone.  Over
rows of one length its mask is the answer for every cell, and nothing that it can ask is
true of an empty cell.

## Main results

* `Predicate.mask_of_test?`: the mask is told cell by cell.
* `Predicate.getElem?_mask_iff`: a row is selected if its cell has what is asked of it.
* `Predicate.getElem?_memberOf_iff`: a list of values, as a case of that.
* `Predicate.test?_null`: an empty cell is never selected.
* `Expression.Selects.evaluate_eq`: texts that select the same rows have the same mask.
-/

namespace RiskTally

/-- The cell of a row in a column, if the dataset has the column and the column the row. -/
def Dataset.cellAt? (dataset : Dataset) (column : Text) (row : Nat) : Option Cell :=
  (dataset.column? column).bind fun cells => cells[row]?

/-- The cell of a row in a column is there, and its text form is one of the values. -/
def Dataset.HasValue (dataset : Dataset) (column : Text) (values : List Text) (row : Nat) : Prop :=
  ∃ cell, dataset.cellAt? column row = some cell ∧ ∃ value ∈ values, cell.toText? = some value

namespace Predicate

/-- What a comparison asks of a cell: nothing is true of a cell if the operator is not
known, or if it asks for the order of texts. -/
def compareTest (symbol literal : Text) (cell : Cell) : Bool :=
  match Comparison.read symbol with
  | .ok op => ((readFloat? literal).isSome || op == .eq) && cellCompares op literal cell
  | .error _ => false

/-- The column that a predicate looks at, cell by cell, and what it asks of a cell. -/
def test? : Predicate → Option (Text × (Cell → Bool))
  | present column => some (column, fun cell => !cell.isMissing)
  | memberOf column values =>
    some (column, fun cell => (cell.toText?.map fun text => values.contains text).getD false)
  | compare column symbol literal => some (column, compareTest symbol literal)
  | _ => none

/-- A test that is true of no cell selects no row. -/
theorem map_eq_all_of_forall {cells : List Cell} {test : Cell → Bool}
    (h : ∀ cell ∈ cells, test cell = false) : cells.map test = Mask.all cells.length false := by
  rw [Mask.all, List.eq_replicate_iff]
  refine ⟨List.length_map _, fun entry hentry => ?_⟩
  obtain ⟨cell, hcell, rfl⟩ := List.mem_map.1 hentry
  exact h cell hcell

theorem mask_of_test? {context : Context} (h : context.Rectangular) {predicate : Predicate}
    {column : Text} {test : Cell → Bool} (htest : predicate.test? = some (column, test)) :
    predicate.mask context = overColumn context column fun cells => cells.map test := by
  cases predicate with
  | duplicate name => simp [test?] at htest
  | highlyVaried name => simp [test?] at htest
  | nameIn names => simp [test?] at htest
  | present name =>
      obtain ⟨rfl, rfl⟩ := Prod.mk.inj (Option.some.inj htest)
      rfl
  | memberOf name values =>
      obtain ⟨rfl, rfl⟩ := Prod.mk.inj (Option.some.inj htest)
      rfl
  | compare name symbol literal =>
      obtain ⟨rfl, rfl⟩ := Prod.mk.inj (Option.some.inj htest)
      simp only [mask, overColumn]
      cases hcells : context.dataset.column? name with
      | none => rfl
      | some cells =>
          have hlength : cells.length = context.rows := length_column? h.1 hcells
          dsimp only
          cases hsymbol : Comparison.read symbol with
          | error fault =>
              rw [map_eq_all_of_forall fun cell _ => by rw [compareTest, hsymbol], hlength]
          | ok op =>
              dsimp only
              unfold comparing
              by_cases hasked : ((readFloat? literal).isSome || op == .eq) = true
              · rw [if_pos hasked]
                refine List.map_congr_left fun cell _ => ?_
                rw [compareTest, hsymbol]
                simp [hasked]
              · rw [if_neg hasked, map_eq_all_of_forall, hlength]
                intro cell _
                rw [compareTest, hsymbol]
                simp [hasked]

/-- A row is selected if its cell is there and has what is asked of it. -/
theorem getElem?_mask_iff {context : Context} (h : context.Rectangular) {predicate : Predicate}
    {column : Text} {test : Cell → Bool} (htest : predicate.test? = some (column, test))
    (row : Nat) : (predicate.mask context)[row]? = some true ↔
      ∃ cell, context.dataset.cellAt? column row = some cell ∧ test cell = true := by
  rw [mask_of_test? h htest, overColumn, Dataset.cellAt?]
  cases context.dataset.column? column with
  | none => simp [Mask.all, List.getElem?_replicate]
  | some cells => simp [List.getElem?_map]

/-- A list of values selects the rows whose text form is one of them. -/
theorem getElem?_memberOf_iff {context : Context} (h : context.Rectangular) (column : Text)
    (values : List Text) (row : Nat) :
    ((memberOf column values).mask context)[row]? = some true ↔
      context.dataset.HasValue column values row := by
  rw [getElem?_mask_iff h rfl, Dataset.HasValue]
  refine exists_congr fun cell => and_congr_right fun _ => ?_
  cases cell.toText? <;> simp

/-- Nothing that a predicate asks of a cell is true of an empty one. -/
theorem test?_null {predicate : Predicate} {column : Text} {test : Cell → Bool}
    (htest : predicate.test? = some (column, test)) : test .null = false := by
  cases predicate with
  | duplicate name => simp [test?] at htest
  | highlyVaried name => simp [test?] at htest
  | nameIn names => simp [test?] at htest
  | present name =>
      obtain ⟨rfl, rfl⟩ := Prod.mk.inj (Option.some.inj htest)
      rfl
  | memberOf name values =>
      obtain ⟨rfl, rfl⟩ := Prod.mk.inj (Option.some.inj htest)
      rfl
  | compare name symbol literal =>
      obtain ⟨rfl, rfl⟩ := Prod.mk.inj (Option.some.inj htest)
      have hcell : ∀ op : Comparison, cellCompares op literal .null = false := by
        intro op
        unfold cellCompares
        split <;> simp [Cell.toNumber?, Cell.toText?]
      unfold compareTest
      split
      · rw [hcell, Bool.and_false]
      · rfl

end Predicate

/-! ## The rows that a text selects -/

namespace Expression

/-- Evaluation gives the text one entry per row, true for the rows of the kind. -/
def Selects (context : Context) (text : Text) (kind : Nat → Prop) : Prop :=
  ∃ mask, evaluate text context = .ok mask ∧ mask.length = context.rows ∧
    ∀ row : Nat, mask[row]? = some true ↔ kind row

variable {context : Context}

theorem selects_of_mask (h : context.Rectangular) {text : Text} {expression : Expression}
    (hparse : parse (Text.trim text) = expression) {kind : Nat → Prop}
    (hkind : ∀ row : Nat, (expression.mask context)[row]? = some true ↔ kind row) :
    Selects context text kind := by
  subst hparse
  exact ⟨_, evaluate_eq_ok h text, length_mask h _, hkind⟩

/-- Texts that select the same rows have the same mask. -/
theorem Selects.evaluate_eq {left right : Text} {kind other : Nat → Prop}
    (hleft : Selects context left kind) (hright : Selects context right other)
    (h : ∀ row, kind row ↔ other row) : evaluate left context = evaluate right context := by
  obtain ⟨mask, hmask, hlength, hrows⟩ := hleft
  obtain ⟨mask', hmask', hlength', hrows'⟩ := hright
  have hsame : mask = mask' := by
    refine List.ext_getElem (hlength.trans hlength'.symm) fun row hlt hlt' => ?_
    have hrow := (hrows row).trans ((h row).trans (hrows' row).symm)
    rw [List.getElem?_eq_getElem hlt, List.getElem?_eq_getElem hlt', Option.some.injEq,
      Option.some.injEq] at hrow
    exact Bool.eq_iff_iff.2 hrow
  rw [hmask, hmask', hsame]

end Expression

end RiskTally
