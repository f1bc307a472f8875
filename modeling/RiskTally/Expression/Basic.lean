import RiskTally.Expression.Predicate
import RiskTally.Text.Split

/-!
# Rule expressions

An expression is a predicate, or two expressions joined by "and" or "or". A text is
read in this order: as one of the predicates that may hold any text; else split at
` AND `, the parts as they are; else split at `||`, the parts trimmed; else as one of the
other predicates. What is none of these selects no row. So `A || B AND C` is read as
`(A || B) AND C`.

## Main results

* `Expression.parse_induction`: an expression has what its predicates have.
* `Expression.length_mask`: over a rectangular dataset a mask has one entry per row.
* `Expression.selectText_eq_ok`: no text has an operator that is not known.
* `Expression.evaluate_eq_ok`: over a rectangular dataset evaluation never fails.
-/

namespace RiskTally

/-- A rule expression. -/
inductive Expression where
  | atom (predicate : Predicate)
  | both (left right : Expression)
  | either (left right : Expression)
  /-- The text is no expression: it selects no row. -/
  | never
  deriving DecidableEq, Repr

namespace Expression

/-- The expressions joined one after the other from the left. -/
def joinAll (op : Expression → Expression → Expression) : List Expression → Expression
  | [] => never
  | first :: rest => rest.foldl op first

/-- What joins parts that must all hold. -/
def andSign : Text := " AND ".toList

/-- What joins parts of which one must hold. -/
def orSign : Text := "||".toList

theorem andSign_ne_nil : andSign ≠ [] := by decide

theorem orSign_ne_nil : orSign ≠ [] := by decide

/-- The expression that a text says. -/
def parse (text : Text) : Expression :=
  match Predicate.leading? text with
  | some predicate => atom predicate
  | none =>
    if _split : 1 < (Text.cutAt andSign text).length then
      joinAll both ((Text.cutAt andSign text).attach.map fun ⟨part, _⟩ => parse part)
    else if _split : 1 < (Text.cutAt orSign text).length then
      joinAll either ((Text.cutAt orSign text).attach.map fun ⟨part, _⟩ => parse (Text.trim part))
    else
      match Predicate.trailing? text with
      | some predicate => atom predicate
      | none => never
termination_by text.length
decreasing_by
  · exact Text.length_lt_of_mem_cutAt andSign_ne_nil (by assumption) (by assumption)
  · refine Nat.lt_of_le_of_lt (Text.length_trim_le _) ?_
    exact Text.length_lt_of_mem_cutAt orSign_ne_nil (by assumption) (by assumption)

theorem parse_of_leading {text : Text} {predicate : Predicate}
    (h : Predicate.leading? text = some predicate) : parse text = atom predicate := by
  rw [parse, h]

theorem parse_of_and {text : Text} (h : Predicate.leading? text = none)
    (split : 1 < (Text.cutAt andSign text).length) :
    parse text = joinAll both ((Text.cutAt andSign text).map parse) := by
  rw [parse, h]
  simp only [dif_pos split]
  rw [List.attach_map_val (f := parse)]

theorem parse_of_or {text : Text} (h : Predicate.leading? text = none)
    (single : ¬ 1 < (Text.cutAt andSign text).length)
    (split : 1 < (Text.cutAt orSign text).length) :
    parse text =
      joinAll either ((Text.cutAt orSign text).map fun part => parse (Text.trim part)) := by
  rw [parse, h]
  simp only [dif_neg single, dif_pos split]
  rw [List.attach_map_val (f := fun part => parse (Text.trim part))]

theorem parse_of_single {text : Text} (h : Predicate.leading? text = none)
    (single : ¬ 1 < (Text.cutAt andSign text).length)
    (single' : ¬ 1 < (Text.cutAt orSign text).length) :
    parse text = ((Predicate.trailing? text).map atom).getD never := by
  rw [parse, h]
  simp only [dif_neg single, dif_neg single']
  cases Predicate.trailing? text <;> rfl

/-- The rows that an expression selects. Where the parts of a split have masks of
different lengths, the first one gives the length. -/
def mask (context : Context) : Expression → Mask
  | atom predicate => predicate.mask context
  | both left right => Mask.zipInto (· && ·) (left.mask context) (right.mask context)
  | either left right => Mask.zipInto (· || ·) (left.mask context) (right.mask context)
  | never => Mask.all context.rows false

/-- The rows that a text selects, read as it is. -/
def maskOf (context : Context) (text : Text) : Mask :=
  (parse text).mask context

theorem length_mask {context : Context} (h : context.Rectangular) (expression : Expression) :
    (expression.mask context).length = context.rows := by
  induction expression with
  | atom predicate => exact Predicate.length_mask h predicate
  | both left right hl _ => rw [mask, Mask.length_zipInto, hl]
  | either left right hl _ => rw [mask, Mask.length_zipInto, hl]
  | never => simp [mask, Mask.all]

/-! ## Evaluation -/

/-- The rows that an expression selects, or the first fault met from the left. -/
def select (context : Context) : Expression → Except EvaluationFault Mask
  | atom predicate => predicate.select context
  | both left right => do
    let a ← left.select context
    let b ← right.select context
    return Mask.zipInto (· && ·) a b
  | either left right => do
    let a ← left.select context
    let b ← right.select context
    return Mask.zipInto (· || ·) a b
  | never => return Mask.all context.rows false

/-- The rows that a text selects, read as it is, or why it cannot be evaluated. -/
def selectText (context : Context) (text : Text) : Except EvaluationFault Mask :=
  (parse text).select context

/-- Evaluation gives the mask of the expression and no fault. -/
def Evaluable (context : Context) (expression : Expression) : Prop :=
  expression.select context = .ok (expression.mask context)

theorem evaluable_both {context : Context} {left right : Expression}
    (hl : Evaluable context left) (hr : Evaluable context right) :
    Evaluable context (both left right) := by
  rw [Evaluable] at hl hr
  rw [Evaluable, select, hl, hr]
  rfl

theorem evaluable_either {context : Context} {left right : Expression}
    (hl : Evaluable context left) (hr : Evaluable context right) :
    Evaluable context (either left right) := by
  rw [Evaluable] at hl hr
  rw [Evaluable, select, hl, hr]
  rfl

/-- What holds of nothing, of each part and of two parts joined holds of all parts joined. -/
theorem joinAll_induction {P : Expression → Prop} {op : Expression → Expression → Expression}
    (hnever : P never) (hop : ∀ {left right}, P left → P right → P (op left right))
    {parts : List Expression} (hparts : ∀ part ∈ parts, P part) : P (joinAll op parts) := by
  cases parts with
  | nil => exact hnever
  | cons first rest =>
    rw [joinAll]
    induction rest generalizing first with
    | nil => exact hparts first (by simp)
    | cons next rest ih =>
      refine ih (op first next) fun part hpart => ?_
      rcases List.mem_cons.1 hpart with rfl | hpart
      · exact hop (hparts first (by simp)) (hparts next (by simp))
      · exact hparts part (by simp [hpart])

/-- What holds of a text and the predicate that it says, of nothing and of two expressions joined,
and of a text if it holds of a part of it, holds of a text and the expression that it says. -/
theorem parse_induction {P : Text → Expression → Prop} (hnever : ∀ text, P text never)
    (hboth : ∀ {text left right}, P text left → P text right → P text (both left right))
    (heither : ∀ {text left right}, P text left → P text right → P text (either left right))
    (hpart : ∀ {part text expression}, part <:+: text → P part expression → P text expression)
    (hleading : ∀ {text predicate}, Predicate.leading? text = some predicate →
      P text (atom predicate))
    (htrailing : ∀ {text predicate}, Predicate.trailing? text = some predicate →
      P text (atom predicate)) (text : Text) : P text (parse text) := by
  induction text using parse.induct with
  | case1 text predicate h =>
    rw [parse_of_leading h]
    exact hleading h
  | case2 text h split ih =>
    rw [parse_of_and h split]
    refine joinAll_induction (P := P text) (hnever text) hboth fun part hmem => ?_
    obtain ⟨piece, hpiece, rfl⟩ := List.mem_map.1 hmem
    exact hpart (Text.infix_of_mem_cutAt andSign_ne_nil hpiece) (ih piece hpiece)
  | case3 text h single split ih =>
    rw [parse_of_or h single split]
    refine joinAll_induction (P := P text) (hnever text) heither fun part hmem => ?_
    obtain ⟨piece, hpiece, rfl⟩ := List.mem_map.1 hmem
    have hwithin := Text.infix_of_mem_cutAt orSign_ne_nil hpiece
    exact hpart ((Text.trimOf_infix _ piece).trans hwithin) (ih piece hpiece)
  | case4 text h single single' predicate hpredicate =>
    rw [parse_of_single h single single', hpredicate]
    exact htrailing hpredicate
  | case5 text h single single' hnone =>
    rw [parse_of_single h single single', hnone]
    exact hnever text

theorem evaluable_parse (context : Context) (text : Text) : Evaluable context (parse text) :=
  parse_induction (P := fun _ => Evaluable context) (fun _ => rfl) evaluable_both evaluable_either
    (fun _ h => h) (fun h => Predicate.select_of_leading h context)
    (fun h => Predicate.select_of_trailing h context) text

theorem selectText_eq_ok (context : Context) (text : Text) :
    selectText context text = .ok (maskOf context text) :=
  evaluable_parse context text

end Expression

/-- A way to turn the text of a rule into a mask. -/
abbrev Evaluator :=
  Text → Context → Except EvaluationFault Mask

namespace Expression

/-- The evaluator of the rule language: blanks around the text do not count, and the
mask must have one entry per row. -/
def evaluate : Evaluator := fun text context => do
  let mask ← selectText context (Text.trim text)
  if mask.length = context.rows then return mask
  else throw (.maskLength context.rows mask.length)

theorem evaluate_eq_ok {context : Context} (h : context.Rectangular) (text : Text) :
    evaluate text context = .ok (maskOf context (Text.trim text)) := by
  rw [evaluate, selectText_eq_ok]
  exact if_pos (length_mask h _)

end Expression

end RiskTally
