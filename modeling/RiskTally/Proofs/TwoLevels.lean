import RiskTally.Expression.Basic

/-!
# Expressions are conjunctions of disjunctions

Reading a text goes back to the start for every part of a split, yet it never goes
deeper than one split at ` AND ` and, inside a part of it, one split at `||`.  The parts
of a split do not hold the separator again, and a part of a part holds neither of the
two.  So reading collapses to a form that does not recurse, and over a rectangular
context the mask of a text can be told row by row.

## Main results

* `Mask.getD_zipInto`: masks of one length are folded row by row.
* `Expression.parse_eq_conjunction`: reading a text gives the two-level form.
* `Expression.mask_joinAll`: the mask of joined expressions, row by row.
* `Expression.enters_of_enters`: a second split is at `||`, after one at ` AND `, and
  nothing follows it.
* `Expression.parse_eq_readWith_three`: three calls inside one another read every text.
* `Expression.selectText_eq_twoLevelMask`: all of this for a rectangular context.
-/

namespace RiskTally

/-! ## Several masks, row by row -/

namespace Mask

/-- One entry per row, made of the entries that the masks have in that row. -/
def byRow (combine : List Bool → Bool) (rows : Nat) (masks : List Mask) : Mask :=
  (List.range rows).map fun row => combine (masks.map fun mask => mask.getD row false)

/-- The rows that all masks select. -/
def allOf (rows : Nat) (masks : List Mask) : Mask :=
  byRow List.and rows masks

/-- The rows that some mask selects. -/
def anyOf (rows : Nat) (masks : List Mask) : Mask :=
  byRow List.or rows masks

/-- Masks of one length are folded row by row. -/
theorem getD_zipInto {op : Bool → Bool → Bool} (hop : op false false = false)
    {left right : Mask} (h : left.length = right.length) (row : Nat) :
    (zipInto op left right).getD row false = op (left.getD row false) (right.getD row false) := by
  rw [zipInto_eq_zipWith op h]
  simp only [List.getD_eq_getElem?_getD, List.getElem?_zipWith]
  by_cases hrow : row < left.length
  · have hrow' : row < right.length := h ▸ hrow
    rw [List.getElem?_eq_getElem hrow, List.getElem?_eq_getElem hrow']
    rfl
  · have hrow' : ¬ row < right.length := h ▸ hrow
    rw [List.getElem?_eq_none (Nat.le_of_not_lt hrow),
      List.getElem?_eq_none (Nat.le_of_not_lt hrow')]
    exact hop.symm

/-- A mask is what its rows say. -/
theorem byRow_singleton {combine : List Bool → Bool} (hone : ∀ a, combine [a] = a) {rows : Nat}
    {mask : Mask} (h : mask.length = rows) : byRow combine rows [mask] = mask := by
  refine List.ext_getElem (by simp [byRow, h]) fun row hrow hrow' => ?_
  simp [byRow, hone, hrow']

/-- Two masks of one length may be folded before the rows are told. -/
theorem byRow_cons_cons {combine : List Bool → Bool} {op : Bool → Bool → Bool}
    (hop : op false false = false)
    (hstep : ∀ a b rest, combine (op a b :: rest) = combine (a :: b :: rest)) (rows : Nat)
    {left right : Mask} (h : left.length = right.length) (rest : List Mask) :
    byRow combine rows (zipInto op left right :: rest) =
      byRow combine rows (left :: right :: rest) := by
  unfold byRow
  refine List.map_congr_left fun row _ => ?_
  rw [List.map_cons, getD_zipInto hop h, hstep]
  rfl

end Mask

namespace Expression

/-! ## Reading in two levels -/

/-- The predicate that a text without connectives is. -/
def predicate? (text : Text) : Option Predicate :=
  Predicate.leading? text <|> Predicate.trailing? text

/-- A predicate that was recognised, as an expression. -/
def ofPredicate? (predicate : Option Predicate) : Expression :=
  (predicate.map atom).getD never

/-- The reading of a part of a conjunction: it is split at `||` at most once. -/
def disjunction (part : Text) : Expression :=
  match Predicate.leading? part with
  | some predicate => atom predicate
  | none =>
    if Text.contains orSign part then
      joinAll either ((Text.cutAt orSign part).map fun piece =>
        ofPredicate? (predicate? (Text.trim piece)))
    else ofPredicate? (Predicate.trailing? part)

/-- The reading of a text: it is split at ` AND ` at most once. -/
def conjunction (text : Text) : Expression :=
  match Predicate.leading? text with
  | some predicate => atom predicate
  | none => joinAll both ((Text.cutAt andSign text).map disjunction)

/-- A separator that a part lacks, the part without its blanks lacks too. -/
theorem not_infix_trim {sep part : Text} (h : ¬ sep <:+: part) : ¬ sep <:+: Text.trim part :=
  fun hoccurs => h (hoccurs.trans (Text.trimOf_infix _ part))

/-- A part lacks what the whole text lacks. -/
theorem not_infix_part {sep other text part : Text} (h : ¬ other <:+: text) (hsep : sep ≠ [])
    (hpart : part ∈ Text.cutAt sep text) : ¬ other <:+: part := by
  intro hoccurs
  exact h (hoccurs.trans (Text.infix_of_mem_cutAt hsep hpart))

/-- Without connectives a text is read as a predicate. -/
theorem parse_eq_ofPredicate? {text : Text} (hand : ¬ andSign <:+: text)
    (hor : ¬ orSign <:+: text) : parse text = ofPredicate? (predicate? text) := by
  cases hleading : Predicate.leading? text with
  | some predicate =>
      rw [parse_of_leading hleading, predicate?, hleading]
      rfl
  | none =>
      have hsingle := mt (Text.one_lt_length_cutAt_iff andSign_ne_nil).1 hand
      have hsingle' := mt (Text.one_lt_length_cutAt_iff orSign_ne_nil).1 hor
      rw [parse_of_single hleading hsingle hsingle', predicate?, hleading]
      rfl

/-- Without ` AND ` a text is read as a disjunction. -/
theorem parse_eq_disjunction {text : Text} (hand : ¬ andSign <:+: text) :
    parse text = disjunction text := by
  cases hleading : Predicate.leading? text with
  | some predicate => rw [parse_of_leading hleading, disjunction, hleading]
  | none =>
      have hsingle := mt (Text.one_lt_length_cutAt_iff andSign_ne_nil).1 hand
      by_cases hor : Text.contains orSign text = true
      · have hsplit : 1 < (Text.cutAt orSign text).length := of_decide_eq_true hor
        rw [parse_of_or hleading hsingle hsplit, disjunction, hleading]
        simp only [hor, if_true]
        congr 1
        refine List.map_congr_left fun piece hpiece => ?_
        exact parse_eq_ofPredicate?
          (not_infix_trim (not_infix_part hand orSign_ne_nil hpiece))
          (not_infix_trim (Text.not_infix_of_mem_cutAt orSign_ne_nil hpiece))
      · have hsingle' : ¬ 1 < (Text.cutAt orSign text).length := fun h => hor (decide_eq_true h)
        rw [parse_of_single hleading hsingle hsingle', disjunction, hleading]
        simp only [hor]
        rfl

/-- Reading a text gives the form in two levels. -/
theorem parse_eq_conjunction (text : Text) : parse text = conjunction text := by
  cases hleading : Predicate.leading? text with
  | some predicate => rw [parse_of_leading hleading, conjunction, hleading]
  | none =>
      rw [conjunction, hleading]
      by_cases hand : andSign <:+: text
      · rw [parse_of_and hleading ((Text.one_lt_length_cutAt_iff andSign_ne_nil).2 hand)]
        have hparts : ∀ part ∈ Text.cutAt andSign text, parse part = disjunction part :=
          fun part hpart => parse_eq_disjunction (Text.not_infix_of_mem_cutAt andSign_ne_nil hpart)
        rw [List.map_congr_left hparts]
      · rw [parse_eq_disjunction hand, Text.cutAt_eq_singleton hand]
        rfl

/-! ## How deep reading goes -/

/-- Reading the first text splits it at a separator and goes on with a part. -/
inductive Enters : Text → Text → Text → Prop where
  | and {text part : Text} (unread : Predicate.leading? text = none)
    (split : 1 < (Text.cutAt andSign text).length) (mem : part ∈ Text.cutAt andSign text) :
    Enters text andSign part
  | or {text part : Text} (unread : Predicate.leading? text = none)
    (single : ¬ 1 < (Text.cutAt andSign text).length)
    (split : 1 < (Text.cutAt orSign text).length) (mem : part ∈ Text.cutAt orSign text) :
    Enters text orSign (Text.trim part)

/-- A text without connectives is not split. -/
theorem not_enters {text : Text} (hand : ¬ andSign <:+: text) (hor : ¬ orSign <:+: text)
    (sign part : Text) : ¬ Enters text sign part := by
  intro h
  cases h with
  | and _ split _ => exact hand ((Text.one_lt_length_cutAt_iff andSign_ne_nil).1 split)
  | or _ _ split _ => exact hor ((Text.one_lt_length_cutAt_iff orSign_ne_nil).1 split)

/-- A text without ` AND ` is split at `||` only, and its parts are not split. -/
theorem enters_or_only {text sign part : Text} (hand : ¬ andSign <:+: text)
    (h : Enters text sign part) :
    sign = orSign ∧ ∀ sign' part', ¬ Enters part sign' part' := by
  cases h with
  | and _ split _ => exact absurd ((Text.one_lt_length_cutAt_iff andSign_ne_nil).1 split) hand
  | or _ _ _ mem =>
      refine ⟨rfl, not_enters ?_ ?_⟩
      · exact not_infix_trim (not_infix_part hand orSign_ne_nil mem)
      · exact not_infix_trim (Text.not_infix_of_mem_cutAt orSign_ne_nil mem)

/-- A split inside a part is at `||`, the one before it was at ` AND `, and no split
follows. -/
theorem enters_of_enters {text sign part sign' part' : Text} (h : Enters text sign part)
    (h' : Enters part sign' part') :
    sign = andSign ∧ sign' = orSign ∧ ∀ sign'' part'', ¬ Enters part' sign'' part'' := by
  cases h with
  | and _ _ mem =>
      have hand := Text.not_infix_of_mem_cutAt andSign_ne_nil mem
      obtain ⟨hsign, hlast⟩ := enters_or_only hand h'
      exact ⟨rfl, hsign, hlast⟩
  | or unread single split mem =>
      have hand := mt (Text.one_lt_length_cutAt_iff andSign_ne_nil).2 single
      have hlast := (enters_or_only hand (.or unread single split mem)).2
      exact absurd h' (hlast _ _)

/-- One call of the reader, where `again` reads the parts of a split. -/
def readWith (again : Text → Expression) (text : Text) : Expression :=
  match Predicate.leading? text with
  | some predicate => atom predicate
  | none =>
    if 1 < (Text.cutAt andSign text).length then
      joinAll both ((Text.cutAt andSign text).map again)
    else if 1 < (Text.cutAt orSign text).length then
      joinAll either ((Text.cutAt orSign text).map fun part => again (Text.trim part))
    else ofPredicate? (Predicate.trailing? text)

theorem parse_eq_readWith (text : Text) : parse text = readWith parse text := by
  unfold readWith
  cases hleading : Predicate.leading? text with
  | some predicate => exact parse_of_leading hleading
  | none =>
      dsimp only
      split
      · rename_i split
        exact parse_of_and hleading split
      · rename_i single
        split
        · rename_i split
          exact parse_of_or hleading single split
        · rename_i single'
          exact parse_of_single hleading single single'

/-- A call reads again only what it enters. -/
theorem readWith_congr {again other : Text → Expression} {text : Text}
    (h : ∀ sign part, Enters text sign part → again part = other part) :
    readWith again text = readWith other text := by
  unfold readWith
  cases hleading : Predicate.leading? text with
  | some predicate => rfl
  | none =>
      dsimp only
      split
      · rename_i split
        rw [List.map_congr_left fun part mem => h _ part (.and hleading split mem)]
      · rename_i single
        split
        · rename_i split
          rw [List.map_congr_left fun part mem => h _ _ (.or hleading single split mem)]
        · rfl

/-- Three calls inside one another read every text, whatever a fourth one would do. -/
theorem parse_eq_readWith_three (stop : Text → Expression) (text : Text) :
    parse text = readWith (readWith (readWith stop)) text := by
  rw [parse_eq_readWith]
  refine readWith_congr fun sign part hpart => ?_
  rw [parse_eq_readWith]
  refine readWith_congr fun sign' part' hpart' => ?_
  rw [parse_eq_readWith]
  refine readWith_congr fun sign'' part'' hpart'' => ?_
  exact absurd hpart'' ((enters_of_enters hpart hpart').2.2 sign'' part'')

/-! ## The rows of joined expressions -/

/-- Where a connective folds masks by `op` and `combine` tells a row in the same way, the
mask of joined expressions is told row by row. -/
theorem mask_joinAll {context : Context} (h : context.Rectangular)
    {join : Expression → Expression → Expression} {op : Bool → Bool → Bool}
    (hjoin : ∀ left right, (join left right).mask context =
      Mask.zipInto op (left.mask context) (right.mask context))
    (hop : op false false = false) {combine : List Bool → Bool} (hone : ∀ a, combine [a] = a)
    (hstep : ∀ a b rest, combine (op a b :: rest) = combine (a :: b :: rest))
    {parts : List Expression} (hparts : parts ≠ []) :
    (joinAll join parts).mask context =
      Mask.byRow combine context.rows (parts.map fun part => part.mask context) := by
  cases parts with
  | nil => exact absurd rfl hparts
  | cons first rest =>
      rw [joinAll]
      clear hparts
      induction rest generalizing first with
      | nil => exact (Mask.byRow_singleton hone (length_mask h first)).symm
      | cons next rest ih =>
          have hlength : (first.mask context).length = (next.mask context).length := by
            rw [length_mask h, length_mask h]
          rw [List.foldl_cons, ih (join first next), List.map_cons, hjoin]
          exact Mask.byRow_cons_cons hop hstep context.rows hlength _

/-- The mask of a conjunction. -/
theorem mask_joinAll_both {context : Context} (h : context.Rectangular)
    {parts : List Expression} (hparts : parts ≠ []) :
    (joinAll both parts).mask context =
      Mask.allOf context.rows (parts.map fun part => part.mask context) :=
  mask_joinAll h (fun _ _ => rfl) rfl (by simp) (by simp [Bool.and_assoc]) hparts

/-- The mask of a disjunction. -/
theorem mask_joinAll_either {context : Context} (h : context.Rectangular)
    {parts : List Expression} (hparts : parts ≠ []) :
    (joinAll either parts).mask context =
      Mask.anyOf context.rows (parts.map fun part => part.mask context) :=
  mask_joinAll h (fun _ _ => rfl) rfl (by simp) (by simp [Bool.or_assoc]) hparts

/-! ## Masks in two levels -/

/-- The mask of a predicate that was recognised, and no row where none was. -/
def predicateMask (context : Context) (predicate : Option Predicate) : Mask :=
  match predicate with
  | some predicate => predicate.mask context
  | none => Mask.all context.rows false

/-- The rows that a part of a conjunction selects: those of a leading form; else, where
the part holds `||`, those that one of its pieces selects; else those of a trailing form. -/
def disjunctionMask (context : Context) (part : Text) : Mask :=
  match Predicate.leading? part with
  | some predicate => predicate.mask context
  | none =>
    if Text.contains orSign part then
      Mask.anyOf context.rows ((Text.cutAt orSign part).map fun piece =>
        predicateMask context (predicate? (Text.trim piece)))
    else predicateMask context (Predicate.trailing? part)

/-- The rows that a text selects: those of a leading form, else those that all its parts
select. -/
def twoLevelMask (context : Context) (text : Text) : Mask :=
  match Predicate.leading? text with
  | some predicate => predicate.mask context
  | none => Mask.allOf context.rows ((Text.cutAt andSign text).map (disjunctionMask context))

theorem mask_ofPredicate? (context : Context) (predicate : Option Predicate) :
    (ofPredicate? predicate).mask context = predicateMask context predicate := by
  cases predicate <;> rfl

theorem mask_disjunction {context : Context} (h : context.Rectangular) (part : Text) :
    (disjunction part).mask context = disjunctionMask context part := by
  unfold disjunction disjunctionMask
  cases Predicate.leading? part with
  | some predicate => rfl
  | none =>
      dsimp only
      split
      · have hne := Text.cutAt_ne_nil orSign part
        rw [mask_joinAll_either h (by simpa using hne), List.map_map]
        congr 1
        refine List.map_congr_left fun piece _ => ?_
        exact mask_ofPredicate? context _
      · exact mask_ofPredicate? context _

theorem mask_conjunction {context : Context} (h : context.Rectangular) (text : Text) :
    (conjunction text).mask context = twoLevelMask context text := by
  unfold conjunction twoLevelMask
  cases Predicate.leading? text with
  | some predicate => rfl
  | none =>
      have hne := Text.cutAt_ne_nil andSign text
      dsimp only
      rw [mask_joinAll_both h (by simpa using hne), List.map_map]
      congr 1
      refine List.map_congr_left fun part _ => ?_
      exact mask_disjunction h part

/-- The evaluator that reads a text in two levels. -/
def byLevels : Evaluator := fun text context =>
  .ok (twoLevelMask context (Text.trim text))

/-- Over a rectangular context the evaluator of the rule language reads in two levels. -/
theorem evaluate_eq_byLevels {context : Context} (h : context.Rectangular) (text : Text) :
    evaluate text context = byLevels text context := by
  rw [evaluate_eq_ok h, maskOf, parse_eq_conjunction, mask_conjunction h, byLevels]

/-- Over a rectangular context a text selects, without a fault, the rows of its reading
in two levels.  Three calls inside one another read it, and where it is split twice it is
split first at ` AND ` and then at `||`. -/
theorem selectText_eq_twoLevelMask {context : Context} (h : context.Rectangular)
    (text : Text) :
    selectText context text = .ok (twoLevelMask context text) ∧
      (∀ stop, parse text = readWith (readWith (readWith stop)) text) ∧
      ∀ sign part sign' part', Enters text sign part → Enters part sign' part' →
        sign = andSign ∧ sign' = orSign ∧
          ∀ sign'' part'', ¬ Enters part' sign'' part'' := by
  refine ⟨?_, fun stop => parse_eq_readWith_three stop text,
    fun sign part sign' part' hfirst hsecond => enters_of_enters hfirst hsecond⟩
  rw [selectText_eq_ok, maskOf, parse_eq_conjunction, mask_conjunction h]

/-- Three rows, a conjunction whose second part is a disjunction. -/
theorem selectText_eq_twoLevelMask_three_rows :
    ∃ context : Context, context.Rectangular ∧ context.rows = 3 ∧
      selectText context "duplicate(Age) AND City in [Rome] || City in [Oslo]".toList =
        .ok [true, true, false] := by
  let context : Context :=
    { dataset :=
        { columns :=
            [("Age".toList, [.integer 4, .integer 4, .integer 5]),
              ("City".toList, [.text "Rome".toList, .text "Oslo".toList, .text "Rome".toList])]
          sources := List.replicate 3 "a.csv".toList }
      names := ["ANA".toList, "JAN".toList, "EVA".toList]
      settings := .default }
  have hcontext : context.Rectangular := by
    refine ⟨?_, rfl⟩
    simp [Dataset.Rectangular, Dataset.rows, context]
  have h := (selectText_eq_twoLevelMask hcontext
    "duplicate(Age) AND City in [Rome] || City in [Oslo]".toList).1
  exact ⟨context, hcontext, rfl, h.trans (by rfl)⟩

end Expression

end RiskTally
