import RiskTally.Proofs.Books
import RiskTally.Proofs.CellTests
import RiskTally.Proofs.Persons

/-!
# The order of the rows

Rows in another order have their masks and scores in that order, and nothing else about
them changes: a count over a column does not see where its values stand, and all else is
said of each row alone.  One list of rows puts the columns, the files, the names, every
mask and the scores into the new order.  Only the sums of the persons are taken in the
order of the rows, and are the same as long as no order can leave the 64-bit range.

## Main results

* `reorder_perm`, `reorder_map`, `reorder_zipWith`: columns in another order.
* `Predicate.mask_reordered`, `Expression.mask_reordered`: masks in another order.
* `Report.contributions_reordered`: what is added to a row goes along with it.
* `Report.aggregate_reorder`: the persons of rows in another order.
* `Report.score_reordered`: all of this for a scored dataset.
-/

namespace RiskTally

/-! ## Columns in another order -/

/-- The entries of a column at the rows of a list, in the order of that list. -/
def reorder {α : Type} (order : List Nat) (column : List α) : List α :=
  order.filterMap fun row => column[row]?

section Columns

variable {α β γ : Type} {order : List Nat}

theorem lt_of_mem_order {rows row : Nat} (h : order.Perm (List.range rows)) (hrow : row ∈ order) :
    row < rows :=
  List.mem_range.1 (h.mem_iff.1 hrow)

theorem reorder_nil (order : List Nat) : reorder order ([] : List α) = [] :=
  List.filterMap_eq_nil_iff.2 fun _ _ => rfl

theorem reorder_map (f : α → β) (column : List α) :
    reorder order (column.map f) = (reorder order column).map f := by
  unfold reorder
  rw [List.map_filterMap]
  congr 1
  funext row
  exact List.getElem?_map

theorem reorder_range (column : List α) : reorder (List.range column.length) column = column := by
  unfold reorder
  induction column with
  | nil => rfl
  | cons entry column ih =>
      rw [List.length_cons, List.range_succ_eq_map, List.filterMap_cons, List.filterMap_map]
      exact congrArg (entry :: ·) ih

theorem reorder_perm {column : List α} (h : order.Perm (List.range column.length)) :
    (reorder order column).Perm column :=
  (h.filterMap _).trans (List.Perm.of_eq (reorder_range column))

theorem length_reorder {column : List α} (h : order.Perm (List.range column.length)) :
    (reorder order column).length = column.length :=
  (reorder_perm h).length_eq

theorem reorder_cons {column : List α} {row : Nat} (h : row < column.length) :
    reorder (row :: order) column = column[row] :: reorder order column := by
  rw [reorder, List.filterMap_cons, List.getElem?_eq_getElem h]
  rfl

theorem getElem?_reorder {column : List α} (h : ∀ row ∈ order, row < column.length)
    (place : Nat) :
    (reorder order column)[place]? = order[place]?.bind fun row => column[row]? := by
  induction order generalizing place with
  | nil => rfl
  | cons row order ih =>
      have hrow := h row (by simp)
      rw [reorder_cons hrow]
      cases place with
      | zero => simp [hrow]
      | succ place => simpa using ih (fun other hother => h other (by simp [hother])) place

theorem reorder_zipWith (f : α → β → γ) {left : List α} {right : List β}
    (hleft : ∀ row ∈ order, row < left.length) (hright : ∀ row ∈ order, row < right.length) :
    reorder order (List.zipWith f left right) =
      List.zipWith f (reorder order left) (reorder order right) := by
  induction order with
  | nil => rfl
  | cons row order ih =>
      have hfirst := hleft row (by simp)
      have hsecond := hright row (by simp)
      have hrest := ih (fun other hother => hleft other (by simp [hother]))
        fun other hother => hright other (by simp [hother])
      have hboth : row < (List.zipWith f left right).length := by
        rw [List.length_zipWith]
        omega
      rw [reorder_cons hfirst, reorder_cons hsecond, reorder_cons hboth, hrest,
        List.zipWith_cons_cons, List.getElem_zipWith]

theorem reorder_replicate {rows : Nat} (h : order.Perm (List.range rows)) (entry : α) :
    reorder order (List.replicate rows entry) = List.replicate rows entry :=
  List.perm_replicate.1 (reorder_perm (by rwa [List.length_replicate]))

/-- What is said of the rows one after the other, told in another order. -/
theorem reorder_map_range {rows : Nat} (h : order.Perm (List.range rows)) (f g : Nat → α)
    (hrow : ∀ place row, order[place]? = some row → g place = f row) :
    reorder order ((List.range rows).map f) = (List.range rows).map g := by
  have hlength : order.length = rows := by rw [h.length_eq, List.length_range]
  apply List.ext_getElem?
  intro place
  rw [getElem?_reorder fun row hmem => by simpa using lt_of_mem_order h hmem]
  cases hplace : order[place]? with
  | none =>
      have hout := List.getElem?_eq_none_iff.1 hplace
      simp [Nat.not_lt.2 (hlength ▸ hout)]
  | some row =>
      have hlt : place < rows := hlength ▸ (List.getElem?_eq_some_iff.1 hplace).1
      have hmem : row < rows := lt_of_mem_order h (List.mem_of_getElem? hplace)
      simp [hlt, hmem, hrow place row hplace]

end Columns

/-! ## Datasets in another order -/

/-- The dataset with its rows in the order of a list. -/
def Dataset.reordered (order : List Nat) (dataset : Dataset) : Dataset where
  columns := dataset.columns.map fun column => (column.1, reorder order column.2)
  sources := reorder order dataset.sources

namespace Dataset

variable {dataset : Dataset} {order : List Nat}

theorem rows_reordered (h : order.Perm (List.range dataset.rows)) :
    (dataset.reordered order).rows = dataset.rows :=
  length_reorder h

theorem rectangular_reordered (hdataset : dataset.Rectangular)
    (h : order.Perm (List.range dataset.rows)) : (dataset.reordered order).Rectangular := by
  intro column hcolumn
  obtain ⟨old, hold, rfl⟩ := List.mem_map.1 hcolumn
  have hlength : old.2.length = dataset.rows := hdataset old hold
  show (reorder order old.2).length = _
  rw [rows_reordered h, length_reorder (hlength ▸ h), hlength]

theorem columnNames_reordered (order : List Nat) (dataset : Dataset) :
    (dataset.reordered order).columnNames = dataset.columnNames := by
  simp [columnNames, Keyed.keys, reordered]

theorem column?_reordered (order : List Nat) (dataset : Dataset) (name : Text) :
    (dataset.reordered order).column? name = (dataset.column? name).map (reorder order) := by
  unfold column?
  split
  · rw [Option.map_some, reorder_map]
    rfl
  · exact Keyed.get?_map _ _ _

theorem hasColumn_reordered (order : List Nat) (dataset : Dataset) (name : Text) :
    (dataset.reordered order).hasColumn name = dataset.hasColumn name := by
  rw [hasColumn, column?_reordered, Option.isSome_map, hasColumn]

end Dataset

/-- What rules see of the rows in the order of a list. -/
def Context.reordered (order : List Nat) (context : Context) : Context where
  dataset := context.dataset.reordered order
  names := reorder order context.names
  settings := context.settings

namespace Context

variable {context : Context} {order : List Nat}

theorem rows_reordered (h : order.Perm (List.range context.rows)) :
    (context.reordered order).rows = context.rows :=
  Dataset.rows_reordered h

theorem rectangular_reordered (hcontext : context.Rectangular)
    (h : order.Perm (List.range context.rows)) : (context.reordered order).Rectangular := by
  refine ⟨Dataset.rectangular_reordered hcontext.1 h, ?_⟩
  show (reorder order context.names).length = _
  rw [rows_reordered h, length_reorder (hcontext.2.symm ▸ h), hcontext.2]

end Context

/-! ## Masks in another order -/

namespace Predicate

/-- How often a value occurs does not hang on where. -/
theorem duplicates_reorder {order : List Nat} {cells : List Cell}
    (h : order.Perm (List.range cells.length)) :
    duplicates (reorder order cells) = reorder order (duplicates cells) := by
  have hkeys : (reorder order (cells.map Cell.key)).Perm (cells.map Cell.key) :=
    reorder_perm (by rwa [List.length_map])
  unfold duplicates
  dsimp only
  rw [← reorder_map, reorder_map (fun key => decide (1 < (cells.map Cell.key).count key))]
  refine List.map_congr_left fun key _ => ?_
  rw [hkeys.count_eq]

theorem distinctCount_perm {cells cells' : List Cell} (h : cells'.Perm cells) :
    distinctCount cells' = distinctCount cells :=
  (eraseDups_perm ((h.filter _).map _)).length_eq

theorem isHighlyVaried_perm (settings : ScoringSettings) {cells cells' : List Cell}
    (h : cells'.Perm cells) : isHighlyVaried settings cells' = isHighlyVaried settings cells := by
  have hempty : cells' ≠ [] ↔ cells ≠ [] := by
    rw [← List.length_pos_iff, ← List.length_pos_iff, h.length_eq]
  unfold isHighlyVaried
  rw [distinctCount_perm h, h.length_eq]
  simp only [hempty]

variable {context : Context} {order : List Nat}

/-- What is made of a column for all rows, made of it in another order. -/
theorem overColumn_reordered (hcontext : context.Rectangular)
    (h : order.Perm (List.range context.rows)) (column : Text) {mask mask' : List Cell → Mask}
    (hmask : ∀ cells : List Cell, cells.length = context.rows →
      mask' (reorder order cells) = reorder order (mask cells)) :
    overColumn (context.reordered order) column mask' =
      reorder order (overColumn context column mask) := by
  unfold overColumn
  rw [show (context.reordered order).dataset.column? column = _ from
    Dataset.column?_reordered order context.dataset column]
  cases hcells : context.dataset.column? column with
  | none =>
      rw [Option.map_none]
      dsimp only
      rw [Context.rows_reordered h, Mask.all, reorder_replicate h]
  | some cells => exact hmask cells (length_column? hcontext.1 hcells)

/-- A predicate selects the same rows in another order. -/
theorem mask_reordered (hcontext : context.Rectangular) (h : order.Perm (List.range context.rows))
    (predicate : Predicate) :
    predicate.mask (context.reordered order) = reorder order (predicate.mask context) := by
  have htested : ∀ column test, predicate.test? = some (column, test) →
      predicate.mask (context.reordered order) = reorder order (predicate.mask context) := by
    intro column test htest
    rw [mask_of_test? (Context.rectangular_reordered hcontext h) htest,
      mask_of_test? hcontext htest]
    exact overColumn_reordered hcontext h column fun cells _ => (reorder_map test cells).symm
  cases predicate with
  | duplicate column =>
      exact overColumn_reordered hcontext h column fun cells hcells =>
        duplicates_reorder (hcells ▸ h)
  | highlyVaried column =>
      refine overColumn_reordered hcontext h column fun cells hcells => ?_
      have hperm : (reorder order cells).Perm cells := reorder_perm (hcells ▸ h)
      rw [Context.rows_reordered h, Mask.all, Mask.all, reorder_replicate h,
        isHighlyVaried_perm _ hperm]
      rfl
  | nameIn names => exact (reorder_map _ _).symm
  | present column => exact htested _ _ rfl
  | memberOf column values => exact htested _ _ rfl
  | compare column symbol literal => exact htested _ _ rfl

end Predicate

/-- Masks of one length are folded row by row, in any order of the rows. -/
theorem Mask.zipInto_reorder {rows : Nat} {order : List Nat} (h : order.Perm (List.range rows))
    (op : Bool → Bool → Bool) {left right : Mask} (hleft : left.length = rows)
    (hright : right.length = rows) :
    zipInto op (reorder order left) (reorder order right) =
      reorder order (zipInto op left right) := by
  have hbound : ∀ row ∈ order, row < rows := fun row hrow => lt_of_mem_order h hrow
  rw [zipInto_eq_zipWith op (hleft.trans hright.symm), zipInto_eq_zipWith op,
    reorder_zipWith op (hleft ▸ hbound) (hright ▸ hbound)]
  rw [length_reorder (hleft ▸ h), length_reorder (hright ▸ h), hleft, hright]

namespace Expression

variable {context : Context} {order : List Nat}

theorem mask_reordered (hcontext : context.Rectangular) (h : order.Perm (List.range context.rows))
    (expression : Expression) :
    expression.mask (context.reordered order) = reorder order (expression.mask context) := by
  induction expression with
  | atom predicate => exact Predicate.mask_reordered hcontext h predicate
  | both left right ihl ihr =>
      simp only [mask]
      rw [ihl, ihr]
      exact Mask.zipInto_reorder h _ (length_mask hcontext left) (length_mask hcontext right)
  | either left right ihl ihr =>
      simp only [mask]
      rw [ihl, ihr]
      exact Mask.zipInto_reorder h _ (length_mask hcontext left) (length_mask hcontext right)
  | never =>
      simp only [mask, Mask.all]
      rw [Context.rows_reordered h, reorder_replicate h]

/-- A text has a mask, and over the rows in another order it has that mask in that order. -/
theorem exists_mask_reordered (hcontext : context.Rectangular)
    (h : order.Perm (List.range context.rows)) (text : Text) :
    ∃ mask, evaluate text context = .ok mask ∧ mask.length = context.rows ∧
      evaluate text (context.reordered order) = .ok (reorder order mask) := by
  refine ⟨_, evaluate_eq_ok hcontext text, length_mask hcontext _, ?_⟩
  rw [evaluate_eq_ok (Context.rectangular_reordered hcontext h)]
  exact congrArg Except.ok (mask_reordered hcontext h _)

end Expression

/-! ## Names in another order -/

theorem NameSource.detect?_reordered (order : List Nat) (dataset : Dataset)
    (candidates : NameColumns) :
    detect? (dataset.reordered order) candidates = detect? dataset candidates := by
  unfold detect?
  simp only [Dataset.hasColumn_reordered, Dataset.columnNames_reordered]

section Names

variable {dataset : Dataset} {order : List Nat}

theorem NameSource.rawNames_reordered (hdataset : dataset.Rectangular)
    (h : order.Perm (List.range dataset.rows)) (source : NameSource) :
    source.rawNames (dataset.reordered order) = reorder order (source.rawNames dataset) := by
  have hnone : List.replicate (dataset.reordered order).rows ([] : Text) =
      reorder order (List.replicate dataset.rows []) := by
    rw [Dataset.rows_reordered h, reorder_replicate h]
  have hbound : ∀ row ∈ order, row < dataset.rows := fun row hrow => lt_of_mem_order h hrow
  cases source with
  | pair first last =>
      simp only [rawNames, Dataset.column?_reordered]
      cases hfirsts : dataset.column? first with
      | none => exact hnone
      | some firsts =>
          cases hlasts : dataset.column? last with
          | none => exact hnone
          | some lasts =>
              exact (reorder_zipWith _ (length_column? hdataset hfirsts ▸ hbound)
                (length_column? hdataset hlasts ▸ hbound)).symm
  | single column =>
      simp only [rawNames, Dataset.column?_reordered]
      cases dataset.column? column with
      | none => exact hnone
      | some cells => exact (reorder_map _ _).symm

theorem fullNames_reordered (hdataset : dataset.Rectangular)
    (h : order.Perm (List.range dataset.rows)) (source : Option NameSource) :
    fullNames (dataset.reordered order) source = reorder order (fullNames dataset source) := by
  cases source with
  | none =>
      show List.replicate (dataset.reordered order).rows [] = _
      rw [Dataset.rows_reordered h, ← reorder_replicate h]
      rfl
  | some source =>
      show (source.rawNames (dataset.reordered order)).map normalizeName = _
      rw [NameSource.rawNames_reordered hdataset h, ← reorder_map]
      rfl

theorem Report.contextOf_reordered (hdataset : dataset.Rectangular)
    (h : order.Perm (List.range dataset.rows)) (settings : ScoringSettings) :
    contextOf settings (dataset.reordered order) =
      (contextOf settings dataset).reordered order := by
  unfold contextOf
  rw [NameSource.detect?_reordered, fullNames_reordered hdataset h]
  rfl

theorem Report.rowNames_reordered (hdataset : dataset.Rectangular)
    (h : order.Perm (List.range dataset.rows)) (settings : ScoringSettings) :
    rowNames settings (dataset.reordered order) = reorder order (rowNames settings dataset) := by
  unfold rowNames
  rw [NameSource.detect?_reordered]
  cases NameSource.detect? dataset settings.nameColumns with
  | none => exact (reorder_nil order).symm
  | some source => exact fullNames_reordered hdataset h (some source)

end Names

/-! ## Scores in another order -/

section Scores

variable {context : Context} {order : List Nat}

/-- A rule selects a row at its new place. -/
theorem Rule.selects_reordered (hcontext : context.Rectangular)
    (h : order.Perm (List.range context.rows)) {place row : Nat}
    (hplace : order[place]? = some row) (rule : Rule) :
    rule.selects Expression.evaluate (context.reordered order) place =
      rule.selects Expression.evaluate context row := by
  obtain ⟨mask, hmask, hlength, hmask'⟩ :=
    Expression.exists_mask_reordered hcontext h rule.expression
  have hentry : (reorder order mask)[place]? = mask[row]? := by
    rw [getElem?_reorder fun row hrow => hlength ▸ lt_of_mem_order h hrow, hplace]
    rfl
  unfold Rule.selects
  rw [hmask, hmask']
  dsimp only
  rw [hentry]

/-- Of a rule the same is noted in every order of the rows. -/
theorem Rule.activation?_reordered (hcontext : context.Rectangular)
    (h : order.Perm (List.range context.rows)) (rule : Rule) :
    rule.activation? Expression.evaluate (context.reordered order) =
      rule.activation? Expression.evaluate context := by
  obtain ⟨mask, hmask, hlength, hmask'⟩ :=
    Expression.exists_mask_reordered hcontext h rule.expression
  have hcount : Mask.count (reorder order mask) = mask.count :=
    (reorder_perm (hlength.symm ▸ h)).count_eq true
  unfold Rule.activation?
  rw [hmask, hmask']
  dsimp only
  rw [hcount]

theorem Watchlist.activation?_perm (watchlist : Watchlist) {names names' : List Text}
    (h : names'.Perm names) : watchlist.activation? names' = watchlist.activation? names := by
  unfold activation?
  rw [h.countP_eq]
  simp only [h.mem_iff]

theorem Watchlist.amountsAt_reorder (watchlist : Watchlist) {names : List Text}
    (h : order.Perm (List.range names.length)) {place row : Nat}
    (hplace : order[place]? = some row) :
    watchlist.amountsAt (reorder order names) place = watchlist.amountsAt names row := by
  have hbound : ∀ row ∈ order, row < names.length := fun row hrow => lt_of_mem_order h hrow
  unfold amountsAt
  rw [getElem?_reorder hbound, hplace]
  simp only [(reorder_perm h).mem_iff]
  rfl

end Scores

namespace Report

variable {dataset : Dataset} {order : List Nat}

/-- The order is one of the names as well, or there are none. -/
theorem rowNames_cases (hdataset : dataset.Rectangular) (h : order.Perm (List.range dataset.rows))
    (settings : ScoringSettings) :
    rowNames settings dataset = [] ∨
      order.Perm (List.range (rowNames settings dataset).length) := by
  by_cases hnames : rowNames settings dataset = []
  · exact .inl hnames
  · exact .inr (by rwa [length_rowNames hdataset hnames])

/-- What is added to a row goes along with it. -/
theorem contributions_reordered (hdataset : dataset.Rectangular)
    (h : order.Perm (List.range dataset.rows)) (settings : ScoringSettings) (rules : Rules)
    (watchlist : Watchlist) {place row : Nat} (hplace : order[place]? = some row) :
    contributions settings Expression.evaluate (dataset.reordered order) rules watchlist place =
      contributions settings Expression.evaluate dataset rules watchlist row := by
  have hcontext := rectangular_contextOf hdataset settings
  have hselects : Rule.selects Expression.evaluate ((contextOf settings dataset).reordered order)
      place = Rule.selects Expression.evaluate (contextOf settings dataset) row :=
    funext (Rule.selects_reordered hcontext h hplace)
  have hlisted : watchlist.amountsAt (reorder order (rowNames settings dataset)) place =
      watchlist.amountsAt (rowNames settings dataset) row := by
    rcases rowNames_cases hdataset h settings with hnames | hnames
    · rw [hnames, reorder_nil]
      simp [Watchlist.amountsAt]
    · exact watchlist.amountsAt_reorder hnames hplace
  unfold contributions Rules.weightsAt
  rw [contextOf_reordered hdataset h, hselects, rowNames_reordered hdataset h, hlisted]

theorem scores_reordered (hdataset : dataset.Rectangular) (h : order.Perm (List.range dataset.rows))
    (settings : ScoringSettings) (rules : Rules) (watchlist : Watchlist) :
    (score settings (dataset.reordered order) rules watchlist).scores =
      reorder order (score settings dataset rules watchlist).scores := by
  unfold score
  rw [scores_eq, scores_eq, Dataset.rows_reordered h]
  refine (reorder_map_range h _ _ fun place row hplace => ?_).symm
  rw [contributions_reordered hdataset h settings rules watchlist hplace]

theorem activations_reordered (hdataset : dataset.Rectangular)
    (h : order.Perm (List.range dataset.rows)) (settings : ScoringSettings) (rules : Rules)
    (watchlist : Watchlist) :
    (score settings (dataset.reordered order) rules watchlist).activations =
      (score settings dataset rules watchlist).activations := by
  have hcontext := rectangular_contextOf hdataset settings
  have hnoted :
      Rule.activation? Expression.evaluate ((contextOf settings dataset).reordered order) =
        Rule.activation? Expression.evaluate (contextOf settings dataset) :=
    funext (Rule.activation?_reordered hcontext h)
  have hlisted : watchlist.activation? (reorder order (rowNames settings dataset)) =
      watchlist.activation? (rowNames settings dataset) := by
    rcases rowNames_cases hdataset h settings with hnames | hnames
    · rw [hnames, reorder_nil]
    · exact watchlist.activation?_perm (reorder_perm hnames)
  unfold score
  rw [activations_eq, activations_eq, contextOf_reordered hdataset h, hnoted,
    rowNames_reordered hdataset h, hlisted]

/-! ## Persons in another order of their rows -/

theorem entriesOf_reorder_perm {α : Type} (name : Text) {names : List Text} {column : List α}
    (hlength : names.length = column.length) (h : order.Perm (List.range names.length)) :
    (entriesOf name (reorder order names) (reorder order column)).Perm
      (entriesOf name names column) := by
  have hzip : (reorder order names).zip (reorder order column) =
      reorder order (names.zip column) :=
    (reorder_zipWith Prod.mk (fun row hrow => lt_of_mem_order h hrow)
      fun row hrow => hlength ▸ lt_of_mem_order h hrow).symm
  have hrows : (reorder order (names.zip column)).Perm (names.zip column) :=
    reorder_perm (by rwa [List.length_zip, ← hlength, Nat.min_self])
  unfold entriesOf
  rw [hzip]
  exact (hrows.filter _).map _

/-- The persons do not see the order of the rows, unless their sums can leave the range. -/
theorem aggregate_reorder (buckets : Level.Buckets) {names : List Text} {scores : List Int64}
    (hlength : names.length = scores.length) (h : order.Perm (List.range names.length))
    (hmagnitude : (magnitudeSum scores : Int) ≤ Int64.maxValue.toInt) :
    aggregate buckets (reorder order names) (reorder order scores) =
      aggregate buckets names scores := by
  have hnames : Text.sorted (reorder order names).eraseDups = Text.sorted names.eraseDups :=
    Text.sorted_eq_of_perm (eraseDups_perm (reorder_perm h))
  -- A sum is held at the ends after every row, so that only the bound lets the rows be moved.
  have hsum : ∀ name, satSum (entriesOf name (reorder order names) (reorder order scores)) =
      satSum (entriesOf name names scores) := by
    intro name
    have hpart := magnitudeSum_le_of_sublist (entriesOf_sublist name hlength)
    have hfree : OrderFree (entriesOf name names scores) := orderFree_of_magnitudeSum (by omega)
    exact (satSum_eq_of_perm (entriesOf_reorder_perm name hlength h).symm hfree).symm
  have hlength' : (reorder order names).length = (reorder order scores).length := by
    rw [length_reorder h, length_reorder (hlength ▸ h), hlength]
  rw [aggregate_eq buckets hlength', aggregate_eq buckets hlength, hnames]
  simp only [hsum]

/-! ## Reports in another order -/

/-- The rows of a rectangular dataset in another order: every text has its mask in that
order.  In a report the scores, levels, names and files of the rows are in that order;
where the names are taken from and what is noted of the rules is the same, and so are the
persons if the scores without their signs sum up within the range. -/
theorem score_reordered {dataset : Dataset} (h : dataset.Rectangular) {order : List Nat}
    (horder : order.Perm (List.range dataset.rows)) (settings : ScoringSettings) :
    (∀ (names : List Text) (text : Text), names.length = dataset.rows → ∃ mask,
      Expression.evaluate text ⟨dataset, names, settings⟩ = .ok mask ∧
      mask.length = dataset.rows ∧
      Expression.evaluate text ⟨dataset.reordered order, reorder order names, settings⟩ =
        .ok (reorder order mask)) ∧
    ∀ rules watchlist,
      let report := score settings dataset rules watchlist
      let report' := score settings (dataset.reordered order) rules watchlist
      report'.nameSource = report.nameSource ∧
      report'.activations = report.activations ∧
      report'.ignored = report.ignored ∧
      report'.scores = reorder order report.scores ∧
      report'.levels = reorder order report.levels ∧
      report'.names = report.names.map (reorder order) ∧
      report'.sources = reorder order report.sources ∧
      ((magnitudeSum report.scores : Int) ≤ Int64.maxValue.toInt →
        report'.identities = report.identities) := by
  constructor
  · intro names text hnames
    have hcontext : Context.Rectangular ⟨dataset, names, settings⟩ := ⟨h, hnames⟩
    exact Expression.exists_mask_reordered hcontext horder text
  · intro rules watchlist report report'
    have hsource : report'.nameSource = report.nameSource :=
      NameSource.detect?_reordered order dataset settings.nameColumns
    have hscores : report'.scores = reorder order report.scores :=
      scores_reordered h horder settings rules watchlist
    have hnames : report'.names = report.names.map (reorder order) := by
      show (report'.nameSource.map fun _ =>
          fullNames (dataset.reordered order) report'.nameSource) =
        (report.nameSource.map fun _ => fullNames dataset report.nameSource).map (reorder order)
      rw [hsource, fullNames_reordered h horder, Option.map_map]
      rfl
    have hlevels : report'.levels = reorder order report.levels := by
      show report'.scores.map (Level.ofScore settings.buckets) =
        reorder order (report.scores.map (Level.ofScore settings.buckets))
      rw [hscores, reorder_map]
    have hignored : report'.ignored = report.ignored := by
      rw [ignored_score h, ignored_score (Dataset.rectangular_reordered h horder)]
    refine ⟨hsource, activations_reordered h horder settings rules watchlist, hignored, hscores,
      hlevels, hnames, rfl, fun hmagnitude => ?_⟩
    have hlength : (fullNames dataset report.nameSource).length = dataset.rows :=
      length_fullNames h _
    have hrows : report.scores.length = dataset.rows := length_scores ..
    show (if report'.nameSource.isSome then
        aggregate settings.buckets (fullNames (dataset.reordered order) report'.nameSource)
          report'.scores else []) =
      if report.nameSource.isSome then
        aggregate settings.buckets (fullNames dataset report.nameSource) report.scores else []
    rw [hsource, hscores, fullNames_reordered h horder,
      aggregate_reorder settings.buckets (hlength.trans hrows.symm) (hlength.symm ▸ horder)
        hmagnitude]

/-- Three rows, the last one first: a value that occurs twice, a name with a loss, one that
is listed, and a row of another file. -/
theorem score_reordered_three_rows :
    ∃ (dataset : Dataset) (order : List Nat) (rules : Rules) (watchlist : Watchlist),
      dataset.Rectangular ∧ order.Perm (List.range dataset.rows) ∧
      (score .default dataset rules watchlist).scores = [20, 7, 25] ∧
      (score .default (dataset.reordered order) rules watchlist).scores = [25, 20, 7] ∧
      (score .default (dataset.reordered order) rules watchlist).identities =
        (score .default dataset rules watchlist).identities ∧
      Expression.evaluate "duplicate(Age)".toList
        ⟨dataset.reordered order, reorder order [[], [], []], .default⟩ =
          .ok [true, true, false] := by
  let dataset : Dataset :=
    { columns :=
        [("full_name".toList, [.text "Ana".toList, .text " jan".toList, .text "ana".toList]),
          ("Age".toList, [.integer 4, .null, .integer 4])]
      sources := ["a.csv".toList, "a.csv".toList, "b.csv".toList] }
  let rules : Rules :=
    [⟨"duplicate(Age)".toList, 30, []⟩, ⟨"full_name in [ana]".toList, -10, []⟩,
      ⟨"__source_file == b.csv".toList, 5, []⟩]
  let watchlist : Watchlist := [("JAN".toList, ⟨7, []⟩)]
  have hdataset : dataset.Rectangular := by
    simp [Dataset.Rectangular, Dataset.rows, dataset]
  have horder : [2, 0, 1].Perm (List.range dataset.rows) := by decide
  have hread := Expression.evaluate_eq_byLevels (rectangular_contextOf hdataset .default)
  have hscores : (score .default dataset rules watchlist).scores = [20, 7, 25] := by
    rw [score, scoreWith_congr hread]
    decide +kernel
  obtain ⟨hmasks, hreports⟩ := score_reordered hdataset horder .default
  obtain ⟨-, -, -, hreordered, -, -, -, hpersons⟩ := hreports rules watchlist
  rw [hscores] at hreordered hpersons
  obtain ⟨mask, hmask, -, hmask'⟩ := hmasks [[], [], []] "duplicate(Age)".toList rfl
  rw [Expression.evaluate_eq_byLevels ⟨hdataset, rfl⟩] at hmask
  have hfirst : mask = [true, false, true] :=
    (Except.ok.inj hmask).symm.trans (by decide +kernel)
  rw [hfirst] at hmask'
  exact ⟨dataset, [2, 0, 1], rules, watchlist, hdataset, horder, hscores, hreordered,
    hpersons (by decide), hmask'⟩

end Report

end RiskTally
