import RiskTally.Proofs.Comparisons
import RiskTally.Proofs.QuotedLists

/-!
# Lists of values and equalities

A column and a list of values ask the same as one equality for each value, joined by bars.
The two are read on different ways: the list is cut at commas and its values are looked for
among texts, the equalities are cut at bars, and each literal is first tried as a number.
They agree as long as no value is a number, and it does not matter how the values are
quoted, in which order they stand and how often.

A column called `AND` is the exception: after a bar its name is a connective.

## Main results

* `Expression.Spelled.unquote_text`: a value comes back from every spelling.
* `Expression.map_trim_cutAt`: what is joined by bars comes apart into the same parts.
* `Expression.parse_equalities`: joined equalities are read as a disjunction.
* `Expression.members_eq_equalities`: the list and the equalities have the same mask.
-/

namespace RiskTally

/-- A row is selected by a disjunction if one of the masks selects it. -/
theorem Mask.getElem?_anyOf_iff {rows : Nat} {masks : List Mask}
    (h : ∀ mask ∈ masks, mask.length = rows) (row : Nat) :
    (Mask.anyOf rows masks)[row]? = some true ↔ ∃ mask ∈ masks, mask[row]? = some true := by
  by_cases hrow : row < rows
  · have hentry : ∀ mask : Mask, mask[row]?.getD false = true ↔ mask[row]? = some true := by
      intro mask
      cases mask[row]? <;> simp
    simp [anyOf, byRow, List.getElem?_range hrow, List.or, hentry]
  · have hlong : (anyOf rows masks).length ≤ row := by simpa [anyOf, byRow] using hrow
    rw [List.getElem?_eq_none hlong]
    simp only [reduceCtorEq, false_iff, not_exists, not_and]
    intro mask hmask hselected
    obtain ⟨hlt, -⟩ := List.getElem?_eq_some_iff.1 hselected
    exact hrow (h mask hmask ▸ hlt)

namespace Expression

/-! ## Spelled values -/

/-- A value that an equality compares as a text, and that quotes can stand around. -/
structure TextValue where
  text : Text
  ne_nil : text ≠ []
  trimmed : Text.trim text = text
  quotable : Quotable text
  noBar : '|' ∉ text
  noAnd : ¬ "AND".toList <:+: text
  notNumber : readFloat? text = none

/-- Blanks on one line. -/
structure Gap where
  text : Text
  blank : ∀ c ∈ text, Text.isBlank c = true
  line : '\n' ∉ text

/-- A value as it is written: perhaps in quotes, with blanks on both sides. -/
structure Spelled where
  before : Gap
  quoting : Quoting
  value : TextValue
  after : Gap

namespace Spelled

variable (spelled : Spelled)

/-- The value in its quotes. -/
def core : Text :=
  spelled.quoting.around spelled.value.text

/-- The written value. -/
def text : Text :=
  spelled.before.text ++ (spelled.core ++ spelled.after.text)

theorem core_ne_nil : spelled.core ≠ [] := by
  simp [core, Quoting.around, spelled.value.ne_nil]

/-- Neither a value nor its quotes begin or end with a blank. -/
theorem trim_core : Text.trim spelled.core = spelled.core := by
  have hquoted : ∀ mark : Text, mark ≠ [] → Text.trim mark = mark →
      Text.trim (mark ++ spelled.value.text ++ mark) = mark ++ spelled.value.text ++ mark :=
    fun mark hne htrim => Text.trimOf_append htrim htrim hne hne spelled.value.text
  unfold core
  cases spelled.quoting with
  | bare => simpa [Quoting.around, Quoting.mark] using spelled.value.trimmed
  | single => exact hquoted _ (by decide) (by decide)
  | double => exact hquoted _ (by decide) (by decide)

/-- The quotes add no separator to a value. -/
theorem not_mem_core {c : Char} (h : c ∈ ['\n', ',', '|']) : c ∉ spelled.core := by
  have hvalue : c ∉ spelled.value.text := by
    simp only [List.mem_cons, List.not_mem_nil, or_false] at h
    rcases h with rfl | rfl | rfl
    · exact spelled.value.quotable.line
    · exact spelled.value.quotable.comma
    · exact spelled.value.noBar
  have hmarks : ∀ c ∈ ['\n', ',', '|'], c ∉ spelled.quoting.mark := by
    cases spelled.quoting <;> decide
  simp [core, Quoting.around, hvalue, hmarks c h]

theorem not_infix_core : ¬ "AND".toList <:+: spelled.core := by
  have hmarks : ∀ c ∈ spelled.quoting.mark, c ∉ "AND".toList := by
    cases spelled.quoting <;> decide
  exact Text.not_infix_append_right
    (Text.not_infix_append_left hmarks spelled.value.noAnd) hmarks

/-- A value comes out of its quotes as it went in. -/
theorem unquote_core : unquote spelled.core = spelled.value.text := by
  have hkept : ∀ quote ∈ quoteMarks,
      Text.trimOf (· == quote) spelled.value.text = spelled.value.text := by
    intro quote hquote
    refine Text.trimOf_eq_self_iff.2 ⟨fun c hc => ?_, fun c hc => ?_⟩
    · exact beq_eq_false_iff_ne.2 fun heq => spelled.value.quotable.first quote hquote (heq ▸ hc)
    · exact beq_eq_false_iff_ne.2 fun heq => spelled.value.quotable.last quote hquote (heq ▸ hc)
  rw [unquote, trim_core]
  unfold core
  cases spelled.quoting with
  | bare =>
      rw [Quoting.around, Quoting.mark, List.nil_append, List.append_nil, hkept _ (by decide),
        hkept _ (by decide)]
  | double =>
      rw [Quoting.around, Quoting.mark, Text.trimOf_append_right (by simp),
        Text.trimOf_append_left (by simp), hkept _ (by decide), hkept _ (by decide)]
  | single =>
      have hdouble : Text.trimOf (· == '"') (['\''] ++ spelled.value.text ++ ['\'']) =
          ['\''] ++ spelled.value.text ++ ['\''] :=
        Text.trimOf_append (by decide) (by decide) (by decide) (by decide) _
      rw [Quoting.around, Quoting.mark, hdouble, Text.trimOf_append_right (by simp),
        Text.trimOf_append_left (by simp), hkept _ (by decide)]

/-- A value comes back from every spelling. -/
theorem unquote_text : unquote spelled.text = spelled.value.text := by
  have htrim : Text.trim spelled.text = Text.trim spelled.core := by
    rw [text, Text.trim, Text.trimOf_append_left spelled.before.blank,
      Text.trimOf_append_right spelled.after.blank]
    rfl
  have hcore := spelled.unquote_core
  rw [unquote, spelled.trim_core] at hcore
  rw [unquote, htrim, spelled.trim_core, hcore]

end Spelled

/-- Neither the blanks nor the quotes add a separator to a value. -/
theorem Spelled.not_mem_text (spelled : Spelled) {c : Char} (h : c ∈ ['\n', ',', '|']) :
    c ∉ spelled.text := by
  have hgap : ∀ gap : Gap, c ∉ gap.text := by
    intro gap hmem
    have hblank := gap.blank c hmem
    simp only [List.mem_cons, List.not_mem_nil, or_false] at h
    rcases h with rfl | rfl | rfl
    · exact gap.line hmem
    · exact absurd hblank (by decide)
    · exact absurd hblank (by decide)
  have hcore := spelled.not_mem_core h
  simp [Spelled.text, hgap, hcore]

theorem Spelled.not_infix_text (spelled : Spelled) : ¬ "AND".toList <:+: spelled.text := by
  have hgap : ∀ gap : Gap, ∀ c ∈ gap.text, c ∉ "AND".toList :=
    fun gap => not_mem_reserved_of_isBlank gap.blank (by decide)
  exact Text.not_infix_append_left (hgap spelled.before)
    (Text.not_infix_append_right spelled.not_infix_core (hgap spelled.after))

/-- The values that are written. -/
def valuesOf (items : List Spelled) : List Text :=
  items.map fun item => item.value.text

/-! ## The list -/

/-- A column and a list of written values. -/
def membersText (column : ColumnName) (items : List Spelled) : Text :=
  column.text ++ (" in [".toList ++ ([','].intercalate (items.map Spelled.text) ++ [']']))

/-- The values of a list, whatever their spelling. -/
theorem literals_members {items : List Spelled} (hne : items ≠ []) :
    literals ([','].intercalate (items.map Spelled.text)) = valuesOf items := by
  have hcomma : ∀ part ∈ items.map Spelled.text, ',' ∉ part := by
    intro part hpart
    obtain ⟨item, -, rfl⟩ := List.mem_map.1 hpart
    exact item.not_mem_text (by decide)
  rw [literals, List.splitOn_intercalate _ hcomma (by simpa using hne), List.map_map]
  exact List.map_congr_left fun item _ => item.unquote_text

theorem parse_members {column : ColumnName} (hname : column.text ≠ "full_name".toList)
    {items : List Spelled} (hne : items ≠ []) :
    parse (membersText column items) =
      atom (.memberOf column.text (valuesOf items)) := by
  have hlacks : ∀ c ∈ ['\n', '|'], c ∉ [','].intercalate (items.map Spelled.text) := by
    intro c hc
    refine Text.not_mem_intercalate (by revert c; decide) fun part hpart => ?_
    obtain ⟨item, -, rfl⟩ := List.mem_map.1 hpart
    exact item.not_mem_text (by revert c; decide)
  have hand : ¬ "AND".toList <:+: [','].intercalate (items.map Spelled.text) := by
    refine Text.not_infix_intercalate (by decide) (by decide) fun part hpart => ?_
    obtain ⟨item, -, rfl⟩ := List.mem_map.1 hpart
    exact item.not_infix_text
  have hsign : "AND".toList <:+: andSign := ⟨[' '], [' '], rfl⟩
  rw [membersText, parse_list column hname (hlacks '\n' (by decide))
    (fun hoccurs => hand (hsign.trans hoccurs)) (not_infix_orSign (hlacks '|' (by decide))),
    literals_members hne]

/-! ## The equalities -/

/-- A column and a written value that it shall be equal to. -/
def equalityText (column : ColumnName) (item : Spelled) : Text :=
  column.text ++ (" == ".toList ++ item.text)

/-- One equality for each written value, joined by bars. -/
def equalitiesText (column : ColumnName) (items : List Spelled) : Text :=
  " || ".toList.intercalate (items.map (equalityText column))

/-- What is joined by bars comes apart into the same parts. -/
theorem map_trim_cutAt {parts : List Text} (hne : parts ≠ []) (hbar : ∀ part ∈ parts, '|' ∉ part) :
    (Text.cutAt orSign (" || ".toList.intercalate parts)).map Text.trim =
      parts.map Text.trim := by
  have hblank : ∀ text : Text, Text.trim (' ' :: text) = Text.trim text :=
    Text.trimOf_append_left (show ∀ c ∈ [' '], Text.isBlank c = true by decide)
  induction parts with
  | nil => contradiction
  | cons part parts ih =>
      rw [List.forall_mem_cons] at hbar
      cases parts with
      | nil =>
          rw [List.intercalate_singleton, Text.cutAt_eq_singleton (not_infix_orSign hbar.1)]
      | cons next parts =>
          have hrest := ih (List.cons_ne_nil next parts) hbar.2
          obtain ⟨rest, hrest'⟩ : ∃ rest, rest = " || ".toList.intercalate (next :: parts) :=
            ⟨_, rfl⟩
          have htext : part ++ " || ".toList ++ rest =
              part ++ [' '] ++ orSign ++ (' ' :: rest) := by simp [orSign]
          have hstart : ¬ orSign <+: ' ' :: rest := by simp [orSign]
          have hfirst : ¬ orSign <:+: part ++ [' '] ++ orSign.dropLast :=
            not_infix_orSign_dropLast (by simpa using hbar.1)
          obtain ⟨first, others, hparts, hcons⟩ :=
            Text.consFirst_of_ne_nil ' ' (Text.cutAt_ne_nil orSign rest)
          rw [← hrest', hparts] at hrest
          rw [List.intercalate_cons_cons, ← hrest', htext, Text.cutAt_append orSign_ne_nil hfirst,
            Text.cutAt_cons hstart, hcons, List.map_cons, List.map_cons, hblank, ← List.map_cons,
            hrest, Text.trim, Text.trimOf_append_right (by decide)]
          rfl

/-- The written value with nothing after it. -/
def Spelled.closed (item : Spelled) : Spelled :=
  { item with after := ⟨[], by simp, by simp⟩ }

/-- A closed equality as a column, an operator and a literal. -/
theorem equalityText_closed (column : ColumnName) (item : Spelled) :
    equalityText column item.closed =
      column.text ++
        ([' '] ++ (Comparison.eq.symbol ++ ((' ' :: item.before.text) ++ item.core))) := by
  simp [equalityText, Spelled.text, Spelled.closed, Spelled.core, Comparison.symbol]

/-- Without the blanks around it an equality is closed. -/
theorem trim_equalityText (column : ColumnName) (item : Spelled) :
    Text.trim (equalityText column item) = equalityText column item.closed := by
  have hsplit : equalityText column item =
      column.text ++ (" == ".toList ++ item.before.text) ++ item.core ++ item.after.text := by
    simp [equalityText, Spelled.text]
  rw [hsplit, Text.trim, Text.trimOf_append_right item.after.blank,
    Text.trimOf_append column.trimmed item.trim_core column.ne_nil item.core_ne_nil]
  simp [equalityText, Spelled.text, Spelled.closed, Spelled.core]

theorem parse_closed (column : ColumnName) (item : Spelled) :
    parse (equalityText column item.closed) =
      atom (.compare column.text Comparison.eq.symbol item.value.text) := by
  have hgap : ∀ c ∈ ' ' :: item.before.text, Text.isBlank c = true :=
    List.forall_mem_cons.2 ⟨rfl, item.before.blank⟩
  have hfirst : ∀ c ∈ item.core.head?, Text.isBlank c = false :=
    (Text.trimOf_eq_self_iff.1 item.trim_core).1
  rw [equalityText_closed, parse_comparison column .eq (by decide) hgap item.core_ne_nil hfirst
    (item.not_mem_core (by decide)) (item.not_mem_core (by decide)) item.not_infix_core (by simp),
    item.unquote_core]

/-- Equalities begin with a column and an operator. -/
theorem equalitiesText_cons (column : ColumnName) (item : Spelled) (items : List Spelled) :
    ∃ rest, equalitiesText column (item :: items) =
      column.text ++ ([' '] ++ (Comparison.eq.symbol ++ rest)) := by
  cases items with
  | nil => exact ⟨' ' :: item.text, by simp [equalitiesText, equalityText, Comparison.symbol]⟩
  | cons next items =>
      refine ⟨' ' :: item.text ++ " || ".toList ++ equalitiesText column (next :: items), ?_⟩
      simp [equalitiesText, equalityText, Comparison.symbol, List.intercalate_cons_cons]

/-- What ends the last of several parts ends what they are joined to. -/
theorem intercalate_concat_append (sep : Text) (parts : List Text) (part rest : Text) :
    sep.intercalate (parts ++ [part ++ rest]) = sep.intercalate (parts ++ [part]) ++ rest := by
  induction parts with
  | nil => simp
  | cons first parts ih =>
      cases parts with
      | nil => simp [List.intercalate_cons_cons]
      | cons next parts =>
          simp only [List.cons_append, List.intercalate_cons_cons] at ih ⊢
          rw [ih, List.append_assoc (first ++ sep)]

/-- Without the blanks around them equalities end in a closed one. -/
theorem trim_equalitiesText (column : ColumnName) (items : List Spelled) (last : Spelled) :
    Text.trim (equalitiesText column (items ++ [last])) =
      equalitiesText column (items ++ [last.closed]) := by
  have hopen : equalitiesText column (items ++ [last]) =
      equalitiesText column (items ++ [last.closed]) ++ last.after.text := by
    have hlast : equalityText column last =
        equalityText column last.closed ++ last.after.text := by
      simp [equalityText, Spelled.text, Spelled.closed, Spelled.core]
    simp only [equalitiesText, List.map_append, List.map_singleton]
    rw [hlast, intercalate_concat_append]
  have hcore : ∃ lead, equalitiesText column (items ++ [last.closed]) = lead ++ last.core := by
    have hlast : equalityText column last.closed =
        column.text ++ (" == ".toList ++ last.before.text) ++ last.core := by
      simp [equalityText, Spelled.text, Spelled.closed, Spelled.core]
    simp only [equalitiesText, List.map_append, List.map_singleton]
    rw [hlast, intercalate_concat_append]
    exact ⟨_, rfl⟩
  have hcolumn : ∃ rest, equalitiesText column (items ++ [last.closed]) = column.text ++ rest := by
    obtain ⟨item, others, hitems⟩ := List.exists_cons_of_ne_nil
      (show items ++ [last.closed] ≠ [] by simp)
    obtain ⟨rest, hrest⟩ := equalitiesText_cons column item others
    exact ⟨_, hitems ▸ hrest⟩
  rw [hopen, Text.trim, Text.trimOf_append_right last.after.blank, Text.trimOf_eq_self_iff]
  constructor
  · obtain ⟨rest, hrest⟩ := hcolumn
    rw [hrest, List.head?_append_of_ne_nil _ column.ne_nil]
    exact (Text.trimOf_eq_self_iff.1 column.trimmed).1
  · obtain ⟨lead, hlead⟩ := hcore
    rw [hlead, List.getLast?_append_of_ne_nil _ last.core_ne_nil]
    exact (Text.trimOf_eq_self_iff.1 last.trim_core).2

/-- `AND` is no word of joined texts if it is no word of any. -/
theorem not_mem_words_bars {parts : List Text} (hne : parts ≠ [])
    (h : ∀ part ∈ parts, "AND".toList ∉ part.splitOn ' ') :
    "AND".toList ∉ (" || ".toList.intercalate parts).splitOn ' ' := by
  induction parts with
  | nil => contradiction
  | cons part parts ih =>
      rw [List.forall_mem_cons] at h
      cases parts with
      | nil => simpa using h.1
      | cons next parts =>
          have hrest := ih (List.cons_ne_nil next parts) h.2
          have htext : ∀ rest : Text, part ++ " || ".toList ++ rest =
              part ++ ' ' :: ("||".toList ++ ' ' :: rest) := by simp
          rw [List.intercalate_cons_cons, htext, List.splitOn_append_cons_self,
            List.splitOn_append_cons_self_of_not_mem (by decide)]
          simp only [List.mem_append, List.mem_cons, not_or]
          exact ⟨h.1, by decide, hrest⟩

/-- An equality has the word `AND` only as its column. -/
theorem not_mem_words_equality {column : ColumnName} (hname : column.text ≠ "AND".toList)
    (item : Spelled) : "AND".toList ∉ (equalityText column item).splitOn ' ' := by
  have htext : equalityText column item = column.text ++ ' ' :: ("== ".toList ++ item.text) := by
    simp [equalityText]
  have hrest : ¬ "AND".toList <:+: "== ".toList ++ item.text :=
    Text.not_infix_append_left (by decide) item.not_infix_text
  rw [htext, List.splitOn_append_cons_self_of_not_mem (column.not_mem (by decide)),
    List.mem_cons, not_or]
  exact ⟨Ne.symm hname, fun hword => hrest (Text.infix_of_mem_splitOn hword)⟩

/-- Joined texts that are no leading form are read as a disjunction of what they are read
as. -/
theorem parse_bars {parts : List Text} (htwo : 1 < parts.length)
    (hbar : ∀ part ∈ parts, '|' ∉ part) (hand : ∀ part ∈ parts, "AND".toList ∉ part.splitOn ' ')
    (hleading : Predicate.leading? (" || ".toList.intercalate parts) = none) :
    parse (" || ".toList.intercalate parts) =
      joinAll either (parts.map fun part => parse (Text.trim part)) := by
  have hne : parts ≠ [] := List.ne_nil_of_length_pos (Nat.zero_lt_of_lt htwo)
  have hparts := map_trim_cutAt hne hbar
  have hsplit : 1 < (Text.cutAt orSign (" || ".toList.intercalate parts)).length := by
    have hlength := congrArg List.length hparts
    rw [List.length_map, List.length_map] at hlength
    omega
  have hsingle : ¬ andSign <:+: " || ".toList.intercalate parts := by
    intro hoccurs
    have hinner := mem_inner_words_of_andSign hoccurs
    exact not_mem_words_bars hne hand (List.mem_of_mem_tail (List.mem_of_mem_dropLast hinner))
  have hread : ∀ texts : List Text,
      texts.map (fun part => parse (Text.trim part)) = (texts.map Text.trim).map parse :=
    fun texts => by rw [List.map_map]; rfl
  rw [parse_of_or hleading (mt (Text.one_lt_length_cutAt_iff andSign_ne_nil).1 hsingle) hsplit,
    hread, hread, hparts]

/-- Joined equalities are read as a disjunction.  After a bar a column called `AND` would be
a connective. -/
theorem parse_equalities {column : ColumnName} {items : List Spelled} (hne : items ≠ [])
    (hname : column.text ≠ "AND".toList ∨ items.length = 1) :
    parse (Text.trim (equalitiesText column items)) = joinAll either
      (items.map fun item => atom (.compare column.text Comparison.eq.symbol item.value.text)) := by
  obtain ⟨items, last, rfl⟩ : ∃ others last, items = others ++ [last] :=
    ⟨_, _, (List.dropLast_append_getLast hne).symm⟩
  rw [trim_equalitiesText]
  cases items with
  | nil =>
      rw [List.nil_append, equalitiesText, List.map_singleton, List.intercalate_singleton,
        parse_closed]
      rfl
  | cons item items =>
      have hcolumn := hname.resolve_right (by simp)
      have hbar : ∀ item : Spelled, '|' ∉ equalityText column item := by
        intro item
        have hname : '|' ∉ column.text := column.not_mem (by decide)
        have htext := item.not_mem_text (show '|' ∈ ['\n', ',', '|'] by decide)
        simp [equalityText, hname, htext]
      have hleading : Predicate.leading?
          (equalitiesText column ((item :: items) ++ [last.closed])) = none := by
        obtain ⟨rest, hrest⟩ := equalitiesText_cons column item (items ++ [last.closed])
        rw [List.cons_append, hrest]
        exact leading?_operator (by decide) .eq rest column
      have hread : ∀ item : Spelled, parse (Text.trim (equalityText column item)) =
          atom (.compare column.text Comparison.eq.symbol item.value.text) :=
        fun item => by rw [trim_equalityText, parse_closed]
      have hparts : ∀ part ∈ ((item :: items) ++ [last.closed]).map (equalityText column),
          '|' ∉ part ∧ "AND".toList ∉ part.splitOn ' ' := by
        intro part hpart
        obtain ⟨other, -, rfl⟩ := List.mem_map.1 hpart
        exact ⟨hbar other, not_mem_words_equality hcolumn other⟩
      have hbars := parse_bars (by simp) (fun part hpart => (hparts part hpart).1)
        (fun part hpart => (hparts part hpart).2) hleading
      rw [List.map_map] at hbars
      refine hbars.trans (congrArg (joinAll either) ?_)
      simp [Function.comp_def, hread, Spelled.closed]

/-! ## The same rows -/

/-- A list of values selects the rows whose text form is one of them. -/
theorem selects_members {context : Context} (h : context.Rectangular) {column : ColumnName}
    (hname : column.text ≠ "full_name".toList) {items : List Spelled} (hne : items ≠ []) :
    Selects context (membersText column items)
      (context.dataset.HasValue column.text (valuesOf items)) := by
  have htrim : Text.trim (membersText column items) = membersText column items := by
    have hends := Text.trimOf_append column.trimmed (show Text.trim [']'] = [']'] by decide)
      column.ne_nil (by decide)
      (" in [".toList ++ [','].intercalate (items.map Spelled.text))
    rwa [List.append_assoc, List.append_assoc] at hends
  have hparse := parse_members hname hne
  rw [← htrim] at hparse
  exact selects_of_mask h hparse
    (Predicate.getElem?_memberOf_iff h column.text (valuesOf items))

/-- Joined equalities select the rows whose text form is one of the values. -/
theorem selects_equalities {context : Context} (h : context.Rectangular) {column : ColumnName}
    {items : List Spelled} (hne : items ≠ [])
    (hname : column.text ≠ "AND".toList ∨ items.length = 1) :
    Selects context (equalitiesText column items)
      (context.dataset.HasValue column.text (valuesOf items)) := by
  refine selects_of_mask h (parse_equalities hne hname) fun row => ?_
  have hitem : ∀ item : Spelled, ((Predicate.compare column.text Comparison.eq.symbol
      item.value.text).mask context)[row]? = some true ↔
      ∃ cell, context.dataset.cellAt? column.text row = some cell ∧
        cell.toText? = some item.value.text := by
    intro item
    rw [Predicate.getElem?_mask_iff h rfl]
    exact exists_congr fun cell => and_congr_right fun _ =>
      Predicate.compareTest_of_text item.value.notNumber cell
  rw [mask_joinAll_either h (by simpa using hne), List.map_map,
    Mask.getElem?_anyOf_iff (by simp [mask, Predicate.length_mask h]), Dataset.HasValue]
  simp only [List.mem_map, Function.comp_apply, exists_exists_and_eq_and, mask, hitem, valuesOf]
  constructor
  · rintro ⟨item, hmem, cell, hcell, htext⟩
    exact ⟨cell, hcell, item, hmem, htext⟩
  · rintro ⟨cell, hcell, item, hmem, htext⟩
    exact ⟨item, hmem, cell, hcell, htext⟩

/-- A column and a list of values select the rows whose text form is one of the values, and
one equality for each value, joined by bars, selects the same.  Quotes and blanks around the
values, their order and their repetition make no difference.  Only for a column called `AND`
no more than one equality may be asked. -/
theorem members_eq_equalities {context : Context} (h : context.Rectangular)
    {column : ColumnName} (hname : column.text ≠ "full_name".toList)
    {listed compared : List Spelled} (hlisted : listed ≠ []) (hcompared : compared ≠ [])
    (hsame : ∀ value, value ∈ valuesOf listed ↔ value ∈ valuesOf compared) :
    Selects context (membersText column listed)
        (context.dataset.HasValue column.text (valuesOf listed)) ∧
      evaluate (membersText column compared) context =
        evaluate (membersText column listed) context ∧
      (column.text ≠ "AND".toList ∨ compared.length = 1 →
        evaluate (equalitiesText column compared) context =
          evaluate (membersText column listed) context) := by
  have hmembers := selects_members h hname hlisted
  have hrows : ∀ row, context.dataset.HasValue column.text (valuesOf compared) row ↔
      context.dataset.HasValue column.text (valuesOf listed) row := by
    intro row
    refine exists_congr fun cell => and_congr_right fun _ => exists_congr fun value => ?_
    rw [hsame]
  exact ⟨hmembers, (selects_members h hname hcompared).evaluate_eq hmembers hrows,
    fun hcolumn => (selects_equalities h hcompared hcolumn).evaluate_eq hmembers hrows⟩

/-- Two cities in two spellings, over three rows, one of them without a city. -/
theorem members_eq_equalities_three_rows :
    ∃ (context : Context) (column : ColumnName) (listed compared : List Spelled),
      context.Rectangular ∧ column.text ≠ "full_name".toList ∧ listed ≠ [] ∧ compared ≠ [] ∧
      (∀ value, value ∈ valuesOf listed ↔ value ∈ valuesOf compared) ∧
      column.text ≠ "AND".toList ∧
      membersText column listed = "City in [Rome,'Rio [RJ]' ]".toList ∧
      equalitiesText column compared =
        "City == Rio [RJ] || City == \"Rome\" || City ==  Rome".toList ∧
      evaluate (membersText column listed) context = .ok [true, false, true] ∧
      evaluate (equalitiesText column compared) context = .ok [true, false, true] := by
  let city : ColumnName := ⟨"City".toList, by decide, by decide⟩
  let nothing : Gap := ⟨[], by decide, by decide⟩
  let space : Gap := ⟨[' '], by decide, by decide⟩
  let rome : TextValue :=
    { text := "Rome".toList, ne_nil := by decide, trimmed := by decide
      quotable := by constructor <;> decide
      noBar := by decide, noAnd := by decide, notNumber := rfl }
  let rio : TextValue :=
    { text := "Rio [RJ]".toList, ne_nil := by decide, trimmed := by decide
      quotable := by constructor <;> decide
      noBar := by decide, noAnd := by decide, notNumber := rfl }
  let listed : List Spelled := [⟨nothing, .bare, rome, nothing⟩, ⟨nothing, .single, rio, space⟩]
  let compared : List Spelled :=
    [⟨nothing, .bare, rio, nothing⟩, ⟨nothing, .double, rome, nothing⟩,
      ⟨space, .bare, rome, nothing⟩]
  let context : Context :=
    { dataset :=
        { columns := [("City".toList, [.text "Rio [RJ]".toList, .null, .text "Rome".toList])]
          sources := List.replicate 3 "a.csv".toList }
      names := List.replicate 3 "ANA".toList
      settings := .default }
  have hcontext : context.Rectangular :=
    ⟨by simp [Dataset.Rectangular, Dataset.rows, context], rfl⟩
  have hname : city.text ≠ "full_name".toList := by decide
  have hand : city.text ≠ "AND".toList := by decide
  have hlisted : listed ≠ [] := List.cons_ne_nil _ _
  have hcompared : compared ≠ [] := List.cons_ne_nil _ _
  have hsame : ∀ value, value ∈ valuesOf listed ↔ value ∈ valuesOf compared := by
    intro value
    simp [valuesOf, listed, compared, or_comm]
  obtain ⟨-, -, hequal⟩ := members_eq_equalities hcontext hname hlisted hcompared hsame
  have hmask : evaluate (membersText city listed) context = .ok [true, false, true] := by
    rw [evaluate_eq_ok hcontext, maskOf, parse_eq_conjunction]
    rfl
  exact ⟨context, city, listed, compared, hcontext, hname, hlisted, hcompared, hsame, hand, rfl,
    rfl, hmask, (hequal (.inl hand)).trans hmask⟩

/-- In a column called `AND` the list finds both values, and the equalities find none. -/
theorem members_ne_equalities :
    ∃ (context : Context) (column : ColumnName) (listed compared : List Spelled),
      context.Rectangular ∧ column.text ≠ "full_name".toList ∧
      valuesOf listed = ["x".toList, "y".toList] ∧ valuesOf compared = valuesOf listed ∧
      membersText column listed = "AND in [x, y]".toList ∧
      equalitiesText column compared = "AND == x || AND == y".toList ∧
      evaluate (membersText column listed) context = .ok [true, true] ∧
      evaluate (equalitiesText column compared) context = .ok [false, false] := by
  let column : ColumnName := ⟨"AND".toList, by decide, by decide⟩
  let nothing : Gap := ⟨[], by decide, by decide⟩
  let space : Gap := ⟨[' '], by decide, by decide⟩
  let x : TextValue :=
    { text := "x".toList, ne_nil := by decide, trimmed := by decide
      quotable := by constructor <;> decide
      noBar := by decide, noAnd := by decide, notNumber := rfl }
  let y : TextValue :=
    { text := "y".toList, ne_nil := by decide, trimmed := by decide
      quotable := by constructor <;> decide
      noBar := by decide, noAnd := by decide, notNumber := rfl }
  let context : Context :=
    { dataset :=
        { columns := [("AND".toList, [.text "x".toList, .text "y".toList])]
          sources := List.replicate 2 "a.csv".toList }
      names := List.replicate 2 "ANA".toList
      settings := .default }
  have hcontext : context.Rectangular :=
    ⟨by simp [Dataset.Rectangular, Dataset.rows, context], rfl⟩
  have hevaluate : ∀ text mask, (conjunction (Text.trim text)).mask context = mask →
      evaluate text context = .ok mask := by
    rintro text mask rfl
    rw [evaluate_eq_ok hcontext, maskOf, parse_eq_conjunction]
  exact ⟨context, column, [⟨nothing, .bare, x, nothing⟩, ⟨space, .bare, y, nothing⟩],
    [⟨nothing, .bare, x, nothing⟩, ⟨nothing, .bare, y, nothing⟩], hcontext, by decide, rfl, rfl,
    rfl, rfl, hevaluate _ _ rfl, hevaluate _ _ rfl⟩

end Expression

end RiskTally
