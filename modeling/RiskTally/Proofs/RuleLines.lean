import Mathlib.Data.List.Basic
import RiskTally.Proofs.ColumnTypes
import RiskTally.Proofs.RuleTable

/-!
# Rules among other lines

A line of a text says a rule, or it says none, whatever stands above and below it; only the
header, the first line with a bar, is passed over for its place.  A line says a rule if its
three cells stand between bars, with blanks in the cells and around the line as one likes.  The
bars outside leave one empty cell each, and no more is taken away, so that a rule without an
expression or a description keeps its empty cell.

## Main results

* `Rule.lineRule?_of_says`: the rule of a line is what its cells say.
* `Rule.lineRule?_eq_none_iff`: the lines that say no rule.
* `Rule.ofTable_intercalate`: the rules of a text are those of its lines below the header.
* `Rule.ofTable_of_tells`: the rules come back from any text that tells them.
-/

namespace RiskTally.Rule

/-! ## Cells with blanks around them -/

/-- The cell is the text, with blanks before and after it that leave it on its line. -/
def Fills (text cell : Text) : Prop :=
  ∃ before after : Text, (∀ c ∈ before ++ after, Text.isBlank c = true ∧ c ≠ '\n') ∧
    cell = before ++ text ++ after

theorem Fills.trim {text cell : Text} (h : Fills text cell) : Text.trim cell = Text.trim text := by
  obtain ⟨before, after, hblank, rfl⟩ := h
  have hbefore : ∀ c ∈ before, Text.isBlank c = true :=
    fun c hc => (hblank c (List.mem_append_left _ hc)).1
  have hafter : ∀ c ∈ after, Text.isBlank c = true :=
    fun c hc => (hblank c (List.mem_append_right _ hc)).1
  rw [Text.trim, Text.trimOf_append_right hafter, Text.trimOf_append_left hbefore, Text.trim]

/-- What is no blank of a line is in a cell only as a part of its text. -/
theorem Fills.not_mem {text cell : Text} (h : Fills text cell) {c : Char}
    (hc : Text.isBlank c = true → c = '\n') (htext : c ∉ text) : c ∉ cell := by
  obtain ⟨before, after, hblank, rfl⟩ := h
  have hblanks : c ∉ before ++ after := fun hmem =>
    (hblank c hmem).2 (hc (hblank c hmem).1)
  simp only [List.mem_append, not_or] at hblanks ⊢
  exact ⟨⟨hblanks.1, htext⟩, hblanks.2⟩

theorem Fills.newline_not_mem {text cell : Text} (h : Fills text cell) (htext : '\n' ∉ text) :
    '\n' ∉ cell :=
  h.not_mem (fun _ => rfl) htext

theorem Fills.bar_not_mem {text cell : Text} (h : Fills text cell) (htext : '|' ∉ text) :
    '|' ∉ cell :=
  h.not_mem (by decide) htext

/-- Whatever is read as a weight can stand in a cell. -/
theorem isCell_of_readInteger? {text : Text} {value : Int64} (h : readInteger? text = some value) :
    IsCell text := by
  have hdigits : ∀ c ∈ (splitSign text).2, c.isDigit = true := by
    cases hread : readDigits? (splitSign text).2 with
    | none => simp [readInteger?, hread] at h
    | some n =>
        exact fun c hc => Numeral.isDigit_iff.1 (Numeral.isDigit_of_readDigits? hread c hc)
  refine isCell_of_signed fun c hc => ?_
  unfold splitSign at hdigits
  split at hdigits
  · exact (List.mem_cons.1 hc).imp_right fun hc =>
      .inr (Expression.isNameChar_of_isDigit (hdigits c hc))
  · exact .inr ((List.mem_cons.1 hc).imp_right fun hc =>
      Expression.isNameChar_of_isDigit (hdigits c hc))
  · exact .inr (.inr (Expression.isNameChar_of_isDigit (hdigits c hc)))

/-! ## Lines -/

/-- The line says the rule: expression, weight and description stand between bars. -/
def Says (rule : Rule) (line : Text) : Prop :=
  ∃ expression number weight description : Text,
    Fills rule.expression expression ∧
    readInteger? number = some rule.weight ∧ Fills number weight ∧
    Fills rule.description description ∧
    Fills ('|' :: (expression ++ '|' :: weight ++ '|' :: description) ++ ['|']) line

/-- The line says no rule: it is prose, a row with fewer than two cells, or one without an
integer in the second cell. -/
inductive SaysNothing (line : Text) : Prop where
  | prose (h : (Text.trim line).head? ≠ some '|')
  | short (h : (rowCells (Text.trim line)).length < 2)
  | weightless (expression weight : Text) (rest : List Text)
      (hcells : rowCells (Text.trim line) = expression :: weight :: rest)
      (h : readInteger? weight = none)

/-- The rule that a line says, if it is a row of a table. -/
def lineRule? (line : Text) : Option Rule :=
  if (Text.trim line).head? = some '|' then ofCells? (rowCells (Text.trim line)) else none

theorem ofCells?_eq_none_iff {cells : List Text} :
    ofCells? cells = none ↔ cells.length < 2 ∨
      ∃ expression weight rest, cells = expression :: weight :: rest ∧
        readInteger? weight = none := by
  rcases cells with _ | ⟨expression, _ | ⟨weight, rest⟩⟩
  · simp [ofCells?]
  · simp [ofCells?]
  · have hrule : ofCells? (expression :: weight :: rest) = none ↔ readInteger? weight = none := by
      simp [ofCells?]
    rw [hrule]
    constructor
    · intro hweight
      exact .inr ⟨expression, weight, rest, rfl, hweight⟩
    · rintro (hshort | ⟨_, _, _, hcells, hweight⟩)
      · exact absurd hshort (by simp)
      · obtain ⟨rfl, htail⟩ := List.cons.inj hcells
        obtain ⟨rfl, -⟩ := List.cons.inj htail
        exact hweight

/-- The lines that say no rule are those from which none is read. -/
theorem lineRule?_eq_none_iff {line : Text} : lineRule? line = none ↔ SaysNothing line := by
  unfold lineRule?
  constructor
  · intro h
    split at h
    · rcases ofCells?_eq_none_iff.1 h with hshort | ⟨expression, weight, rest, hcells, hweight⟩
      · exact .short hshort
      · exact .weightless expression weight rest hcells hweight
    · rename_i hbar
      exact .prose hbar
  · intro h
    split
    · rename_i hbar
      cases h with
      | prose h => exact absurd hbar h
      | short h => exact ofCells?_eq_none_iff.2 (.inl h)
      | weightless expression weight rest hcells h =>
          exact ofCells?_eq_none_iff.2 (.inr ⟨expression, weight, rest, hcells, h⟩)
    · rfl

/-- The rule of a line is what its cells say. -/
theorem lineRule?_of_says {rule : Rule} (hexpression : IsCell rule.expression)
    (hdescription : IsCell rule.description) {line : Text} (h : Says rule line) :
    lineRule? line = some rule := by
  obtain ⟨expression, number, weight, description, hexp, hread, hwt, hdesc, hline⟩ := h
  have hnumber : IsCell number := isCell_of_readInteger? hread
  let row : Text := '|' :: (expression ++ '|' :: weight ++ '|' :: description) ++ ['|']
  have htrim : Text.trim line = row := hline.trim.trans (trim_bars _)
  have hcells : rowCells row = [rule.expression, number, rule.description] := by
    rw [rowCells_bars _ (hwt.bar_not_mem hnumber.noBar) (hdesc.bar_not_mem hdescription.noBar),
      List.splitOn_eq_singleton (hexp.bar_not_mem hexpression.noBar), List.map_singleton,
      hexp.trim, hwt.trim, hdesc.trim, hexpression.trimmed, hnumber.trimmed,
      hdescription.trimmed]
    rfl
  have hhead : row.head? = some '|' := rfl
  rw [lineRule?, htrim, if_pos hhead, hcells]
  simp [ofCells?, hread]

theorem newline_not_mem_of_says {rule : Rule} (hexpression : IsCell rule.expression)
    (hdescription : IsCell rule.description) {line : Text} (h : Says rule line) :
    '\n' ∉ line := by
  obtain ⟨expression, number, weight, description, hexp, hread, hwt, hdesc, hline⟩ := h
  refine hline.newline_not_mem ?_
  simp [hexp.newline_not_mem hexpression.oneLine,
    hwt.newline_not_mem (isCell_of_readInteger? hread).oneLine,
    hdesc.newline_not_mem hdescription.oneLine]

/-! ## Texts -/

/-- The lines say the rules in their order, and between them there are lines that say none. -/
inductive Tells : Rules → List Text → Prop where
  | nil : Tells [] []
  | other {rules : Rules} {line : Text} {lines : List Text} (hline : '\n' ∉ line)
      (h : SaysNothing line) (hlines : Tells rules lines) : Tells rules (line :: lines)
  | rule {rule : Rule} {rules : Rules} {line : Text} {lines : List Text}
      (h : Says rule line) (hlines : Tells rules lines) : Tells (rule :: rules) (line :: lines)

theorem filterMap_lineRule?_of_tells {rules : Rules}
    (hrules : ∀ rule ∈ rules, IsCell rule.expression ∧ IsCell rule.description)
    {lines : List Text} (h : Tells rules lines) :
    lines.filterMap lineRule? = rules ∧ ∀ line ∈ lines, '\n' ∉ line := by
  induction h with
  | nil => exact ⟨rfl, by simp⟩
  | other hline hnothing hlines ih =>
      obtain ⟨hread, hrest⟩ := ih hrules
      exact ⟨by rw [List.filterMap_cons_none (lineRule?_eq_none_iff.2 hnothing), hread],
        List.forall_mem_cons.2 ⟨hline, hrest⟩⟩
  | rule hsays hlines ih =>
      obtain ⟨⟨hexpression, hdescription⟩, hcells⟩ := List.forall_mem_cons.1 hrules
      obtain ⟨hread, hrest⟩ := ih hcells
      have hrule := lineRule?_of_says hexpression hdescription hsays
      have hline := newline_not_mem_of_says hexpression hdescription hsays
      exact ⟨by rw [List.filterMap_cons_some hrule, hread], List.forall_mem_cons.2 ⟨hline, hrest⟩⟩

/-- The rules of a text are those of its lines below the header. -/
theorem ofTable_intercalate {before lines : List Text} {header : Text}
    (hnewline : ∀ line ∈ before ++ header :: lines, '\n' ∉ line)
    (hbefore : ∀ line ∈ before, (Text.trim line).head? ≠ some '|')
    (hbar : (Text.trim header).head? = some '|') :
    ofTable (['\n'].intercalate (before ++ header :: lines)) = lines.filterMap lineRule? := by
  have hnone : (before.map Text.trim).filter (fun line => line.head? == some '|') = [] := by
    rw [List.filter_eq_nil_iff, List.forall_mem_map]
    intro line hline
    simpa using hbefore line hline
  rw [ofTable, tableRows, List.splitOn_intercalate _ hnewline (by simp), List.map_append,
    List.filter_append, hnone, List.nil_append, List.map_cons,
    List.filter_cons_of_pos (by simp [hbar]), List.drop_one, List.tail_cons,
    List.filterMap_filter, List.filterMap_map]
  exact List.filterMap_congr fun line _ => by simp [lineRule?]

/-- Rules without line breaks and bars come back from a text that tells them below a header, the
first line with a bar. -/
theorem ofTable_of_tells {rules : Rules}
    (hrules : ∀ rule ∈ rules, IsCell rule.expression ∧ IsCell rule.description)
    {before lines : List Text} {header : Text}
    (hbefore : ∀ line ∈ before, '\n' ∉ line ∧ (Text.trim line).head? ≠ some '|')
    (hheader : '\n' ∉ header) (hbar : (Text.trim header).head? = some '|')
    (hlines : Tells rules lines) :
    ofTable (['\n'].intercalate (before ++ header :: lines)) = rules := by
  obtain ⟨hread, hrest⟩ := filterMap_lineRule?_of_tells hrules hlines
  have hnewline : ∀ line ∈ before ++ header :: lines, '\n' ∉ line :=
    List.forall_mem_append.2
      ⟨fun line hline => (hbefore line hline).1, List.forall_mem_cons.2 ⟨hheader, hrest⟩⟩
  rw [ofTable_intercalate hnewline (fun line hline => (hbefore line hline).2) hbar, hread]

/-- A table with a line of dashes, prose and broken rows in it, one rule of which has a weight
only. -/
theorem ofTable_of_tells_two_rules :
    ofTable (['\n'].intercalate (["Rules", "  | rule | w | why |", "|---|---|---|",
      "  | Age > 60 |  +25|old |\t\r", "and", "| x |", "||-5||", "| y | high |", ""].map
        String.toList)) = [⟨"Age > 60".toList, 25, "old".toList⟩, ⟨[], -5, []⟩] := by
  let senior : Rule := ⟨"Age > 60".toList, 25, "old".toList⟩
  let bare : Rule := ⟨[], -5, []⟩
  have hrules : ∀ rule ∈ [senior, bare], IsCell rule.expression ∧ IsCell rule.description := by
    decide
  have hsenior : Says senior "  | Age > 60 |  +25|old |\t\r".toList :=
    ⟨" Age > 60 ".toList, "+25".toList, "  +25".toList, "old ".toList,
      ⟨[' '], [' '], by decide, rfl⟩, by decide, ⟨[' ', ' '], [], by decide, rfl⟩,
      ⟨[], [' '], by decide, rfl⟩, ⟨[' ', ' '], ['\t', '\r'], by decide, rfl⟩⟩
  have hbare : Says bare "||-5||".toList :=
    ⟨[], "-5".toList, "-5".toList, [], ⟨[], [], by decide, rfl⟩, by decide,
      ⟨[], [], by decide, rfl⟩, ⟨[], [], by decide, rfl⟩, ⟨[], [], by decide, rfl⟩⟩
  have hlines : Tells [senior, bare] (["|---|---|---|", "  | Age > 60 |  +25|old |\t\r", "and",
      "| x |", "||-5||", "| y | high |", ""].map String.toList) := by
    refine .other (by decide) (.weightless "---".toList "---".toList ["---".toList] rfl rfl) ?_
    refine .rule hsenior ?_
    refine .other (by decide) (.prose (by decide)) ?_
    refine .other (by decide) (.short (by decide)) ?_
    refine .rule hbare ?_
    refine .other (by decide) (.weightless "y".toList "high".toList [] rfl rfl) ?_
    exact .other (by decide) (.prose (by decide)) .nil
  have hbefore : ∀ line ∈ ["Rules".toList],
      '\n' ∉ line ∧ (Text.trim line).head? ≠ some '|' := by decide
  have hheader : '\n' ∉ "  | rule | w | why |".toList := by decide
  exact ofTable_of_tells hrules hbefore hheader (by decide) hlines

end RiskTally.Rule
