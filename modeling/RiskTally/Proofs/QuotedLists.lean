import RiskTally.Proofs.CellTests
import RiskTally.Proofs.ColumnTexts
import RiskTally.Proofs.NamePaths

/-!
# Lists of quoted values

Quotes are dropped around the values of a list, but they protect nothing: a list is split at
every comma, and a rule at every connective, before any quote is looked at.  So a quoted
value comes back as it went in exactly if it holds no comma.  A list of names may hold
connectives, because it is read before they are looked for; a list of values of a column
may not.

## Main results

* `Expression.literals_intercalate`: the literals of a list are those of its parts.
* `Expression.length_literals`: a list has one literal more than it has commas.
* `Expression.evaluate_valueRule`: a rule that lists values selects the rows of those values.
* `Expression.quoted_lists_exact`: which quoted lists test for exactly their values.
-/

namespace RiskTally.Expression

/-! ## Splitting at commas -/

/-- A text is split into one part more than it has separators. -/
theorem length_splitOn (c : Char) (text : Text) :
    (text.splitOn c).length = text.count c + 1 := by
  induction text with
  | nil => rfl
  | cons first text ih =>
      rw [List.splitOn_cons_eq_if_modifyHead]
      by_cases hfirst : first = c
      · simp [hfirst, ih]
      · simp [hfirst, ih]

/-- A list has one literal more than it has commas. -/
theorem length_literals (body : Text) : (literals body).length = body.count ',' + 1 := by
  rw [literals, List.length_map, length_splitOn]

/-- The literals of two lists with a comma between them. -/
theorem literals_append_comma (body rest : Text) :
    literals (body ++ ',' :: rest) = literals body ++ literals rest := by
  rw [literals, List.splitOn_append_cons_self, List.map_append]
  rfl

/-- The literals of a list are those of its parts. -/
theorem literals_intercalate {parts : List Text} (hne : parts ≠ []) :
    literals ([','].intercalate parts) = parts.flatMap literals := by
  induction parts with
  | nil => contradiction
  | cons part parts ih =>
      cases parts with
      | nil => simp [List.intercalate]
      | cons next parts =>
          rw [List.intercalate_cons_cons, List.append_assoc, List.singleton_append,
            literals_append_comma, ih (List.cons_ne_nil next parts)]
          rfl

/-- Characters before the first separator belong to the first part. -/
theorem splitOn_append_of_not_mem {c : Char} {lead : Text} (h : c ∉ lead) (text : Text) :
    (lead ++ text).splitOn c = (text.splitOn c).modifyHead fun part => lead ++ part := by
  induction lead with
  | nil =>
      obtain ⟨part, parts, hparts⟩ := List.exists_cons_of_ne_nil (List.splitOn_ne_nil c text)
      rw [List.nil_append, hparts]
      rfl
  | cons first lead ih =>
      rw [List.mem_cons, not_or] at h
      rw [List.cons_append, List.splitOn_cons_eq_if_modifyHead,
        if_neg (by simpa using Ne.symm h.1), ih h.2, List.modifyHead_modifyHead]
      rfl

/-- Blanks at the beginning of a list belong to no literal. -/
theorem literals_blanks_append {blanks : Text} (h : ∀ c ∈ blanks, Text.isBlank c = true)
    (body : Text) : literals (blanks ++ body) = literals body := by
  have hcomma : ',' ∉ blanks := fun hmem => absurd (h ',' hmem) (by decide)
  have hfirst : ∀ part, unquote (blanks ++ part) = unquote part := by
    intro part
    rw [unquote, Text.trim, Text.trimOf_append_left h]
    rfl
  obtain ⟨part, parts, hparts⟩ := List.exists_cons_of_ne_nil (List.splitOn_ne_nil ',' body)
  rw [literals, literals, splitOn_append_of_not_mem hcomma, hparts, List.modifyHead_cons,
    List.map_cons, List.map_cons, hfirst]

/-! ## Quoted values -/

/-- A text that can stand in double quotes: on one line, without a double quote, and with no
single quote at either end. -/
structure Enclosable (value : Text) : Prop where
  line : '\n' ∉ value
  double : '"' ∉ value
  first : value.head? ≠ some '\''
  last : value.getLast? ≠ some '\''

/-- Without a comma, what can stand in double quotes can stand in a list. -/
theorem Enclosable.quotable {value : Text} (h : Enclosable value) (hcomma : ',' ∉ value) :
    Quotable value where
  comma := hcomma
  line := h.line
  first := by
    have hdouble : value.head? ≠ some '"' := fun heq => h.double (List.mem_of_head? heq)
    simpa [quoteMarks] using ⟨hdouble, h.first⟩
  last := by
    have hdouble : value.getLast? ≠ some '"' := fun heq => h.double (List.mem_of_getLast? heq)
    simpa [quoteMarks] using ⟨hdouble, h.last⟩

/-- Every quoted value of a list stands for the literals of its own. -/
theorem literals_nameList_eq_flatMap {values : List Text} (hne : values ≠ []) (spaces : Nat) :
    literals (nameList spaces values) = values.flatMap fun value => literals (quoted value) := by
  obtain ⟨value, values, rfl⟩ := List.exists_cons_of_ne_nil hne
  have hblanks : ∀ c ∈ List.replicate spaces ' ', Text.isBlank c = true := by
    intro c hc
    rw [List.eq_of_mem_replicate hc]
    rfl
  rw [nameList, List.map_cons, intercalate_cons_append,
    literals_intercalate (List.cons_ne_nil _ _), List.flatMap_cons, List.flatMap_cons,
    List.flatMap_map, List.flatMap_map]
  simp only [literals_blanks_append hblanks]

/-- A list of quoted values has as many literals more than values as these hold commas. -/
theorem length_literals_nameList {values : List Text} (hne : values ≠ []) (spaces : Nat) :
    (literals (nameList spaces values)).length = values.length + values.flatten.count ',' := by
  have hone : ∀ value : Text, (literals (quoted value)).length = value.count ',' + 1 := by
    intro value
    rw [length_literals, quoted]
    simp
  rw [literals_nameList_eq_flatMap hne, List.length_flatMap]
  clear hne
  induction values with
  | nil => rfl
  | cons value values ih =>
      rw [List.map_cons, List.sum_cons, ih, hone]
      simp
      omega

/-- Quoted values come back from their list exactly if none of them holds a comma. -/
theorem literals_nameList_eq_iff {values : List Text} (hne : values ≠ [])
    (h : ∀ value ∈ values, Enclosable value) (spaces : Nat) :
    literals (nameList spaces values) = values ↔ ∀ value ∈ values, ',' ∉ value := by
  constructor
  · intro hsame value hvalue hcomma
    have hlength := length_literals_nameList hne spaces
    rw [hsame] at hlength
    have hcount : 0 < values.flatten.count ',' :=
      List.count_pos_iff.2 (List.mem_flatten.2 ⟨value, hvalue, hcomma⟩)
    omega
  · intro hcommas
    exact literals_nameList hne
      (fun value hvalue => (h value hvalue).quotable (hcommas value hvalue)) spaces

/-! ## Rules that list values -/

/-- The rule that the value of a row in a column is one of those listed. -/
def valueRule (column : ColumnName) (spaces : Nat) (values : List Text) : Text :=
  column.text ++ (" in [".toList ++ (nameList spaces values ++ [']']))

/-- A connective that is in no value is not in the list that quotes them. -/
theorem not_infix_nameList {sign : Text} (hletter : ∃ c ∈ sign, c ≠ ' ') (hquote : '"' ∉ sign)
    (hcomma : ',' ∉ sign) {values : List Text} (h : ∀ value ∈ values, ¬ sign <:+: value)
    (spaces : Nat) : ¬ sign <:+: nameList spaces values := by
  obtain ⟨letter, hletter, hblank⟩ := hletter
  have hne : sign ≠ [] := List.ne_nil_of_mem hletter
  have hspaces : ∀ count, ¬ sign <:+: List.replicate count ' ' :=
    fun count hoccurs => hblank (List.eq_of_mem_replicate (hoccurs.subset hletter))
  have hpart : ∀ value ∈ values, ∀ count,
      ¬ sign <:+: List.replicate count ' ' ++ quoted value := by
    intro value hvalue count hoccurs
    rw [quoted, Text.infix_append_cons_iff hquote, Text.infix_append_cons_iff hquote,
      List.infix_nil] at hoccurs
    rcases hoccurs with hoccurs | hoccurs | hoccurs
    · exact hspaces count hoccurs
    · exact h value hvalue hoccurs
    · exact hne hoccurs
  cases values with
  | nil => simpa [nameList, List.intercalate] using hne
  | cons value values =>
      rw [nameList, List.map_cons, intercalate_cons_append]
      refine Text.not_infix_intercalate hne hcomma fun part hmem => ?_
      rw [List.map_map, List.mem_cons, List.mem_map] at hmem
      rcases hmem with rfl | ⟨other, hother, rfl⟩
      · exact hpart value (by simp) 0
      · exact hpart other (by simp [hother]) spaces

/-- A rule that lists values selects the rows whose text form is one of them. -/
theorem evaluate_valueRule {context : Context} (hcontext : context.Rectangular)
    {column : ColumnName} (hname : column.text ≠ "full_name".toList) {values : List Text}
    (hne : values ≠ []) (h : ∀ value ∈ values, Quotable value)
    (hand : ∀ value ∈ values, ¬ andSign <:+: value) (hor : ∀ value ∈ values, ¬ orSign <:+: value)
    (spaces : Nat) :
    Selects context (valueRule column spaces values)
      (context.dataset.HasValue column.text values) := by
  have hline : '\n' ∉ nameList spaces values := by
    refine Text.not_mem_intercalate (by simp) fun part hpart => ?_
    obtain ⟨value, hvalue, rfl⟩ := List.mem_map.1 hpart
    simpa [quoted] using (h value hvalue).line
  have hparse := parse_list column hname hline
    (not_infix_nameList ⟨'A', by decide, by decide⟩ (by decide) (by decide) hand spaces)
    (not_infix_nameList ⟨'|', by decide, by decide⟩ (by decide) (by decide) hor spaces)
  rw [literals_nameList hne h] at hparse
  have htrim : Text.trim (valueRule column spaces values) = valueRule column spaces values := by
    have hends := Text.trimOf_append column.trimmed (show Text.trim [']'] = [']'] by decide)
      column.ne_nil (by decide) (" in [".toList ++ nameList spaces values)
    rwa [List.append_assoc, List.append_assoc] at hends
  rw [← valueRule, ← htrim] at hparse
  exact selects_of_mask hcontext hparse
    (Predicate.getElem?_memberOf_iff hcontext column.text values)

/-- A list of quoted values has one literal for every value and every comma in one, so the
values come back exactly if none holds a comma.  Then a rule that lists them as names selects
the rows whose canonical name is that of one of them; and a rule that lists them as values of
a column, none of them with a connective in it, selects the rows whose text form is one of
them, in every rectangular context. -/
theorem quoted_lists_exact {values : List Text} (hne : values ≠ [])
    (h : ∀ value ∈ values, Enclosable value) (spaces : Nat) :
    (literals (nameList spaces values)).length = values.length + values.flatten.count ',' ∧
    (literals (nameList spaces values) = values ↔ ∀ value ∈ values, ',' ∉ value) ∧
    ((∀ value ∈ values, ',' ∉ value) → ∀ context : Context, context.Rectangular →
      Selects context (nameRule spaces values)
        (fun row => ∃ value ∈ values, context.names[row]? = some (normalizeName value)) ∧
      ∀ column : ColumnName, column.text ≠ "full_name".toList →
        (∀ value ∈ values, ¬ andSign <:+: value ∧ ¬ orSign <:+: value) →
        Selects context (valueRule column spaces values)
          (context.dataset.HasValue column.text values)) := by
  refine ⟨length_literals_nameList hne spaces, literals_nameList_eq_iff hne h spaces, ?_⟩
  intro hcommas context hcontext
  have hquotable : ∀ value ∈ values, Quotable value :=
    fun value hvalue => (h value hvalue).quotable (hcommas value hvalue)
  constructor
  · exact ⟨_, evaluate_nameRule hcontext hne hquotable spaces, by simpa using hcontext.2,
      fun row => getElem?_nameMask_iff values context.names row⟩
  · intro column hname hsigns
    exact evaluate_valueRule hcontext hname hne hquotable
      (fun value hvalue => (hsigns value hvalue).1) (fun value hvalue => (hsigns value hvalue).2)
      spaces

/-- Two names, one of them with an apostrophe in it, over two rows. -/
theorem quoted_lists_exact_two_rows :
    ∃ (values : List Text) (context : Context) (named listed : Mask), values ≠ [] ∧
      (∀ value ∈ values, Enclosable value) ∧ (∀ value ∈ values, ',' ∉ value) ∧
      context.Rectangular ∧ literals "\"Ana d'Avila\", \" b [c]\"".toList = values ∧
      evaluate "full_name in [\"Ana d'Avila\", \" b [c]\"]".toList context = .ok named ∧
      named[1]? = some true ∧
      evaluate "Note in [\"Ana d'Avila\", \" b [c]\"]".toList context = .ok listed ∧
      listed[0]? = some true ∧ listed[1]? ≠ some true := by
  let values : List Text := ["Ana d'Avila".toList, " b [c]".toList]
  let note : ColumnName := ⟨"Note".toList, by decide, by decide⟩
  let context : Context :=
    { dataset :=
        { columns := [("Note".toList, [.text " b [c]".toList, .text "b [c]".toList])]
          sources := List.replicate 2 "a.csv".toList }
      names := ["JAN".toList, "ANA D'AVILA".toList]
      settings := .default }
  have hcontext : context.Rectangular :=
    ⟨by simp [Dataset.Rectangular, Dataset.rows, context], rfl⟩
  have hvalues : ∀ value ∈ values, Enclosable value := by
    have hfirst : Enclosable "Ana d'Avila".toList := by
      constructor <;> decide
    have hsecond : Enclosable " b [c]".toList := by
      constructor <;> decide
    exact List.forall_mem_cons.2 ⟨hfirst, List.forall_mem_singleton.2 hsecond⟩
  have hcommas : ∀ value ∈ values, ',' ∉ value := by decide
  obtain ⟨-, hback, hrules⟩ := quoted_lists_exact (List.cons_ne_nil _ _) hvalues 1
  obtain ⟨⟨named, hnamed, -, hnames⟩, hlists⟩ := hrules hcommas context hcontext
  obtain ⟨listed, hlisted, -, hcells⟩ := hlists note (by decide) (by decide)
  have hfirst : listed[0]? = some true :=
    (hcells 0).2 ⟨_, rfl, " b [c]".toList, by decide, rfl⟩
  have hsecond : listed[1]? ≠ some true := by
    intro hselected
    obtain ⟨cell, hcell, value, hvalue, htext⟩ := (hcells 1).1 hselected
    obtain rfl : Cell.text "b [c]".toList = cell := Option.some.inj hcell
    obtain rfl : "b [c]".toList = value := Option.some.inj htext
    revert hvalue
    decide
  exact ⟨values, context, named, listed, List.cons_ne_nil _ _, hvalues, hcommas, hcontext,
    hback.2 hcommas, hnamed, (hnames 1).2 ⟨"Ana d'Avila".toList, by decide, by decide +kernel⟩,
    hlisted, hfirst, hsecond⟩

/-- A quoted name with a comma in it is cut in two, and its person is not found.  A quoted
value with bars in it comes back from its list, but the rule is cut at the bars. -/
theorem quoted_lists_not_exact :
    ∃ (name value : Text) (context : Context), name ≠ [] ∧ Enclosable name ∧ value ≠ [] ∧
      Enclosable value ∧ context.Rectangular ∧
      literals (nameList 1 [name]) = ["Silva".toList, "Jr".toList] ∧
      context.names[0]? = some (normalizeName name) ∧
      evaluate (nameRule 1 [name]) context = .ok [false] ∧
      literals (nameList 1 [value]) = [value] ∧
      (context.dataset.cellAt? "Note".toList 0).bind Cell.toText? = some value ∧
      evaluate ("Note in [".toList ++ (nameList 1 [value] ++ [']'])) context = .ok [false] := by
  let name : Text := "Silva, Jr".toList
  let value : Text := "a || b".toList
  let context : Context :=
    { dataset :=
        { columns := [("Note".toList, [.text value])]
          sources := ["a.csv".toList] }
      names := ["SILVA, JR".toList]
      settings := .default }
  have hcontext : context.Rectangular :=
    ⟨by simp [Dataset.Rectangular, Dataset.rows, context], rfl⟩
  have hevaluate : ∀ text mask, (conjunction (Text.trim text)).mask context = mask →
      evaluate text context = .ok mask := by
    rintro text mask rfl
    rw [evaluate_eq_ok hcontext, maskOf, parse_eq_conjunction]
  have hname : Enclosable name := by
    constructor <;> decide
  have hvalue : Enclosable value := by
    constructor <;> decide
  exact ⟨name, value, context, by decide, hname, by decide, hvalue, hcontext, by decide,
    by decide +kernel, hevaluate _ _ rfl, by decide, rfl, hevaluate _ _ rfl⟩

end RiskTally.Expression
