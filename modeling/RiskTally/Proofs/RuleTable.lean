import RiskTally.Expression.Predicate
import RiskTally.Rule.Table
import RiskTally.Text.Split

/-!
# Rules that are written in a table

The row of a rule is cut at every bar, those of `||` among them.  So an expression
without bars comes back from its row with its weight and its description.  Of a
disjunction only the first part stays in the first cell: what lies between the two bars
is the second cell.  It is empty, hence no weight, and the row is passed over.

## Main results

* `Rule.tableRows_append`: the rows of two texts, line by line.
* `Rule.rowCells_bars`, `Rule.rowCells_rowText`: the cells of a written row.
* `Rule.splitOn_orText`: a disjunction is cut twice after its first part.
* `Rule.ofTable_orText`: which rule a table of one row holds.
-/

namespace RiskTally.Rule

/-! ## Writing -/

/-- The text can stand in a cell of a table. -/
structure IsCell (text : Text) : Prop where
  trimmed : Text.trim text = text
  oneLine : '\n' ∉ text
  noBar : '|' ∉ text

instance (text : Text) : Decidable (IsCell text) :=
  decidable_of_iff (Text.trim text = text ∧ '\n' ∉ text ∧ '|' ∉ text)
    ⟨fun h => ⟨h.1, h.2.1, h.2.2⟩, fun h => ⟨h.trimmed, h.oneLine, h.noBar⟩⟩

/-- The row that says a rule. -/
def rowText (expression weight description : Text) : Text :=
  "| ".toList ++ expression ++ " | ".toList ++ weight ++ " | ".toList ++ description ++
    " |".toList

/-- An expression of which one part must hold. -/
def orText (parts : List Text) : Text :=
  " || ".toList.intercalate parts

/-- What stands between two bars: the text of a cell with a space on either side. -/
def padded (text : Text) : Text :=
  ' ' :: text ++ [' ']

theorem trim_padded (text : Text) : Text.trim (padded text) = Text.trim text := by
  have hspace : ∀ c ∈ [' '], Text.isBlank c = true := by decide
  have hright : Text.trim (' ' :: text ++ [' ']) = Text.trim (' ' :: text) :=
    Text.trimOf_append_right hspace _
  have hleft : Text.trim ([' '] ++ text) = Text.trim text := Text.trimOf_append_left hspace _
  exact hright.trans hleft

theorem not_mem_padded {c : Char} (hc : c ≠ ' ') {text : Text} (h : c ∉ text) :
    c ∉ padded text := by
  simp [padded, hc, h]

/-- Signs, letters and digits can stand in a cell. -/
theorem isCell_of_signed {text : Text}
    (h : ∀ c ∈ text, c = '-' ∨ c = '+' ∨ Expression.isNameChar c = true) : IsCell text := by
  refine ⟨Text.trimOf_eq_self_of_forall fun c hc => ?_, fun hmem => ?_, fun hmem => ?_⟩
  · rcases h c hc with rfl | rfl | hname
    · decide
    · decide
    · exact Expression.isBlank_of_isNameChar hname
  · exact absurd (h _ hmem) (by decide)
  · exact absurd (h _ hmem) (by decide)

/-- The weight of a rule can stand in a cell. -/
theorem isCell_intText (value : Int) : IsCell (intText value) := by
  refine isCell_of_signed fun c hc => ?_
  unfold intText at hc
  split at hc
  · rcases List.mem_cons.1 hc with rfl | hc
    · exact .inl rfl
    · exact .inr (.inr (Expression.isNameChar_of_isDigit (isDigit_of_mem_natText hc)))
  · exact .inr (.inr (Expression.isNameChar_of_isDigit (isDigit_of_mem_natText hc)))

/-! ## Rows -/

/-- A table has the rows of its lines. -/
theorem tableRows_append (before after : Text) :
    tableRows (before ++ '\n' :: after) = tableRows before ++ tableRows after := by
  unfold tableRows
  rw [List.splitOn_append_cons_self, List.map_append, List.filter_append]

/-- A line that begins with a bar is a row. -/
theorem tableRows_of_bar {line : Text} (hline : '\n' ∉ line)
    (hbar : (Text.trim line).head? = some '|') : tableRows line = [Text.trim line] := by
  unfold tableRows
  rw [List.splitOn_eq_singleton hline]
  simp [hbar]

/-- A row between bars has no blanks around it. -/
theorem trim_bars (between : Text) :
    Text.trim ('|' :: between ++ ['|']) = '|' :: between ++ ['|'] := by
  have hbar : Text.trim ['|'] = ['|'] := by decide
  exact Text.trimOf_append hbar hbar (by decide) (by decide) between

theorem rowText_eq (expression weight description : Text) :
    rowText expression weight description =
      '|' :: (padded expression ++ '|' :: padded weight ++ '|' :: padded description) ++ ['|'] := by
  show "| ".toList ++ expression ++ " | ".toList ++ weight ++ " | ".toList ++ description ++
    " |".toList = _
  simp [padded]

/-- A written row is one row of a table. -/
theorem tableRows_rowText {expression weight description : Text} (hexpression : '\n' ∉ expression)
    (hweight : IsCell weight) (hdescription : IsCell description) :
    tableRows (rowText expression weight description) =
      [rowText expression weight description] := by
  have hline : '\n' ∉ rowText expression weight description := by
    rw [rowText_eq]
    simp [padded, hexpression, hweight.oneLine, hdescription.oneLine]
  have htrim : Text.trim (rowText expression weight description) =
      rowText expression weight description := by
    rw [rowText_eq]
    exact trim_bars _
  have hhead : (Text.trim (rowText expression weight description)).head? = some '|' := by
    rw [htrim, rowText_eq]
    rfl
  rw [tableRows_of_bar hline hhead, htrim]

/-- A newline at the end adds no rule. -/
theorem ofTable_append_newline (text : Text) : ofTable (text ++ ['\n']) = ofTable text := by
  have hempty : tableRows [] = [] := by decide
  unfold ofTable
  rw [tableRows_append, hempty, List.append_nil]

theorem dropEmptyLast_concat (cells : List Text) : dropEmptyLast (cells ++ [[]]) = cells := by
  simp [dropEmptyLast, dropEmptyFirst]

/-- A row between bars has the cells that its expression is cut into, its weight and its
description, those at the ends as well if they are empty. -/
theorem rowCells_bars (expression : Text) {weight description : Text} (hweight : '|' ∉ weight)
    (hdescription : '|' ∉ description) :
    rowCells ('|' :: (expression ++ '|' :: weight ++ '|' :: description) ++ ['|']) =
      (expression.splitOn '|').map Text.trim ++ [Text.trim weight, Text.trim description] := by
  have hrow : '|' :: (expression ++ '|' :: weight ++ '|' :: description) ++ ['|'] =
      [] ++ '|' :: (expression ++ '|' :: (weight ++ '|' :: (description ++ '|' :: []))) := by
    simp
  have hcells : ('|' :: (expression ++ '|' :: weight ++ '|' :: description) ++
      ['|']).splitOn '|' = [] :: (expression.splitOn '|' ++ [weight, description, []]) := by
    rw [hrow, List.splitOn_append_cons_self, List.splitOn_append_cons_self,
      List.splitOn_append_cons_self_of_not_mem hweight,
      List.splitOn_append_cons_self_of_not_mem hdescription]
    rfl
  have hlast : (expression.splitOn '|' ++ [weight, description, []]).map Text.trim =
      ((expression.splitOn '|').map Text.trim ++ [Text.trim weight, Text.trim description]) ++
        [[]] := by
    have hempty : Text.trim [] = [] := rfl
    simp [hempty]
  rw [rowCells, hcells, List.map_cons]
  show dropEmptyLast (List.map Text.trim _) = _
  rw [hlast, dropEmptyLast_concat]

theorem rowCells_rowText (expression : Text) {weight description : Text} (hweight : IsCell weight)
    (hdescription : IsCell description) :
    rowCells (rowText expression weight description) =
      ((padded expression).splitOn '|').map Text.trim ++ [weight, description] := by
  have hw : '|' ∉ padded weight := not_mem_padded (by decide) hweight.noBar
  have hd : '|' ∉ padded description := not_mem_padded (by decide) hdescription.noBar
  rw [rowText_eq, rowCells_bars _ hw hd, trim_padded, trim_padded, hweight.trimmed,
    hdescription.trimmed]

/-! ## Disjunctions -/

/-- The bars of a disjunction leave an empty cell after the first part. -/
theorem splitOn_orText {part next : Text} (hpart : '|' ∉ part) (rest : List Text) :
    (padded (orText (part :: next :: rest))).splitOn '|' =
      padded part :: [] :: (padded (orText (next :: rest))).splitOn '|' := by
  have hsplit : padded (orText (part :: next :: rest)) =
      padded part ++ '|' :: ([] ++ '|' :: padded (orText (next :: rest))) := by
    simp [padded, orText, List.intercalate_cons_cons]
  have hbar : '|' ∉ padded part := not_mem_padded (by decide) hpart
  rw [hsplit, List.splitOn_append_cons_self_of_not_mem hbar,
    List.splitOn_append_cons_self_of_not_mem (by simp)]

/-- The row of an expression in one part says its rule; the row of an expression in more
parts says none. -/
theorem ofCells?_orText {parts : List Text} (hparts : parts ≠ [])
    (hcells : ∀ part ∈ parts, IsCell part) (weight : Int64) {description : Text}
    (hdescription : IsCell description) :
    ofCells? (rowCells (rowText (orText parts) (intText weight.toInt) description)) =
      if parts.length = 1 then some ⟨orText parts, weight, description⟩ else none := by
  rw [rowCells_rowText _ (isCell_intText _) hdescription]
  match parts with
  | [] => exact absurd rfl hparts
  | [part] =>
      have hpart := hcells part (by simp)
      have hone : orText [part] = part := List.intercalate_singleton
      have hbar : '|' ∉ padded part := not_mem_padded (by decide) hpart.noBar
      rw [hone, List.splitOn_eq_singleton hbar, List.map_singleton, trim_padded, hpart.trimmed]
      simp [ofCells?, readInteger?_intText]
  | part :: next :: rest =>
      have hpart := hcells part (by simp)
      have hempty : readInteger? (Text.trim []) = none := by decide
      rw [splitOn_orText hpart.noBar]
      simp [ofCells?, hempty]

/-- A table of a header and one row holds the rule of that row, if its expression is in
one part, and no rule if it is a disjunction. -/
theorem ofTable_orText {header : Text} (hheader : '\n' ∉ header)
    (hbar : (Text.trim header).head? = some '|') {parts : List Text} (hparts : parts ≠ [])
    (hcells : ∀ part ∈ parts, IsCell part) (weight : Int64) {description : Text}
    (hdescription : IsCell description) :
    ∀ ending ∈ [[], ['\n']],
      ofTable (header ++ '\n' :: rowText (orText parts) (intText weight.toInt) description ++
        ending) =
        if parts.length = 1 then [⟨orText parts, weight, description⟩] else [] := by
  have hrow : tableRows (rowText (orText parts) (intText weight.toInt) description) =
      [rowText (orText parts) (intText weight.toInt) description] :=
    tableRows_rowText
      (Text.not_mem_intercalate (by decide) fun part hpart => (hcells part hpart).oneLine)
      (isCell_intText _) hdescription
  have htable : ofTable (header ++ '\n' :: rowText (orText parts) (intText weight.toInt)
      description) = if parts.length = 1 then [⟨orText parts, weight, description⟩] else [] := by
    have hrule := ofCells?_orText hparts hcells weight hdescription
    rw [ofTable, tableRows_append, tableRows_of_bar hheader hbar, hrow, List.singleton_append,
      List.drop_one, List.tail_cons]
    by_cases hone : parts.length = 1
    · rw [if_pos hone] at hrule ⊢
      simp [hrule]
    · rw [if_neg hone] at hrule ⊢
      simp [hrule]
  intro ending hending
  simp only [List.mem_cons, List.not_mem_nil, or_false] at hending
  rcases hending with rfl | rfl
  · rw [List.append_nil, htable]
  · rw [ofTable_append_newline, htable]

/-- An age below and above two bounds, and above one of them. -/
theorem ofTable_orText_ages :
    ofTable "| rule | weight | description |\n| Age > 60 || Age < 18 | 25 | age |".toList = [] ∧
      ofTable "| rule | weight | description |\n| Age > 60 | -25 |  |\n".toList =
        [⟨"Age > 60".toList, -25, []⟩] := by
  have hold : IsCell "Age > 60".toList := ⟨by decide, by decide, by decide⟩
  have hyoung : IsCell "Age < 18".toList := ⟨by decide, by decide, by decide⟩
  have hage : IsCell "age".toList := ⟨by decide, by decide, by decide⟩
  have hnothing : IsCell [] := ⟨by decide, by decide, by decide⟩
  have hheader : '\n' ∉ "| rule | weight | description |".toList := by decide
  have hages : ∀ part ∈ ["Age > 60".toList, "Age < 18".toList], IsCell part :=
    List.forall_mem_cons.2 ⟨hold, List.forall_mem_singleton.2 hyoung⟩
  have htwo := ofTable_orText hheader (by decide) (by decide) hages 25 hage [] (by decide)
  have hone := ofTable_orText hheader (by decide) (by decide) (List.forall_mem_singleton.2 hold)
    (-25) hnothing ['\n'] (by decide)
  exact ⟨htwo, hone⟩

/-- Not every disjunction comes back from its row. -/
theorem not_ofTable_orText :
    ¬ ∀ (header : Text) (parts : List Text) (weight : Int64) (description : Text),
      '\n' ∉ header → (Text.trim header).head? = some '|' → 2 ≤ parts.length →
      (∀ part ∈ parts, part ≠ [] ∧ IsCell part ∧ (Predicate.trailing? part).isSome = true) →
      IsCell description →
      ofTable (header ++ '\n' :: rowText (orText parts) (intText weight.toInt) description) =
        [⟨orText parts, weight, description⟩] := by
  intro h
  have hold : IsCell "Age > 60".toList := ⟨by decide, by decide, by decide⟩
  have hyoung : IsCell "Age < 18".toList := ⟨by decide, by decide, by decide⟩
  have hparts : ∀ part ∈ ["Age > 60".toList, "Age < 18".toList],
      part ≠ [] ∧ IsCell part ∧ (Predicate.trailing? part).isSome = true := by
    refine List.forall_mem_cons.2 ⟨?_, List.forall_mem_singleton.2 ?_⟩
    · exact ⟨by decide, hold, by decide⟩
    · exact ⟨by decide, hyoung, by decide⟩
  have hloaded := h "| rule | weight | description |".toList _ 25 "age".toList (by decide)
    (by decide) (by decide) hparts ⟨by decide, by decide, by decide⟩
  have hnone : ofTable ("| rule | weight | description |".toList ++ '\n' ::
      rowText (orText ["Age > 60".toList, "Age < 18".toList]) (intText (25 : Int64).toInt)
        "age".toList) = [] := by decide
  rw [hnone] at hloaded
  contradiction

end RiskTally.Rule
