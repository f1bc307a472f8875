import RiskTally.Proofs.AddedFiles
import RiskTally.Proofs.ColumnTexts
import RiskTally.Proofs.Renderings
import RiskTally.Proofs.SheetColumns

/-!
# The columns that rules can ask for

A column of a file can have any name, and where two have the same one the second gets a suffix
with a dot.  In a rule a name outside the parentheses of a call ends at the first character that
is no letter of ASCII, no digit and no underscore.  What the rule then looks at is another column,
or none: a rule can only see the columns that it names, so that it is the same whatever the column
holds.  So the columns that can be asked for a value are those with plain names.  The column of
the files of the rows has a plain name too, but it hides a column of that name.

## Main results

* `Expression.mask_congr`: an expression depends on the columns that it names.
* `Expression.askable_of_mem_columns`: which columns a text can name.
* `Expression.addressable_iff`: which columns of sheets can be asked for.
-/

namespace RiskTally

/-! ## The columns that an expression looks at -/

/-- The columns that a predicate looks at. -/
def Predicate.columns : Predicate → List Text
  | duplicate column => [column]
  | highlyVaried column => [column]
  | nameIn _ => []
  | present column => [column]
  | memberOf column _ => [column]
  | compare column _ _ => [column]

/-- The columns that an expression looks at. -/
def Expression.columns : Expression → List Text
  | atom predicate => predicate.columns
  | both left right => left.columns ++ right.columns
  | either left right => left.columns ++ right.columns
  | never => []

/-- Contexts that differ at most in columns other than these. -/
structure Context.AgreeOn (columns : List Text) (context context' : Context) : Prop where
  rows : context.rows = context'.rows
  names : context.names = context'.names
  settings : context.settings = context'.settings
  cells : ∀ column ∈ columns, context.dataset.column? column = context'.dataset.column? column

/-- Contexts that differ at most in the column of this name. -/
def Context.AgreeExcept (name : Text) (context context' : Context) : Prop :=
  ∀ columns : List Text, name ∉ columns → AgreeOn columns context context'

theorem Context.AgreeOn.mono {columns more : List Text} {context context' : Context}
    (h : AgreeOn more context context') (hsubset : columns ⊆ more) :
    AgreeOn columns context context' :=
  ⟨h.rows, h.names, h.settings, fun column hcolumn => h.cells column (hsubset hcolumn)⟩

/-- The mask of a predicate depends on its column. -/
theorem Predicate.mask_congr {predicate : Predicate} {context context' : Context}
    (h : Context.AgreeOn predicate.columns context context') :
    predicate.mask context = predicate.mask context' := by
  have hcells := h.cells
  cases predicate with
  | nameIn names => simp only [mask, h.names]
  | _ =>
      simp only [columns, List.mem_singleton, forall_eq] at hcells
      simp only [mask, overColumn, comparing, hcells, h.rows, h.settings]

namespace Expression

/-- The mask of an expression depends on the columns that it looks at. -/
theorem mask_congr {expression : Expression} {context context' : Context}
    (h : Context.AgreeOn expression.columns context context') :
    expression.mask context = expression.mask context' := by
  induction expression with
  | atom predicate => exact Predicate.mask_congr h
  | both left right ihl ihr =>
      rw [mask, mask, ihl (h.mono (List.subset_append_left _ _)),
        ihr (h.mono (List.subset_append_right _ _))]
  | either left right ihl ihr =>
      rw [mask, mask, ihl (h.mono (List.subset_append_left _ _)),
        ihr (h.mono (List.subset_append_right _ _))]
  | never => rw [mask, mask, h.rows]

theorem evaluate_congr {text : Text} {context context' : Context} (hcontext : context.Rectangular)
    (hcontext' : context'.Rectangular)
    (h : Context.AgreeOn (parse (Text.trim text)).columns context context') :
    evaluate text context = evaluate text context' := by
  rw [evaluate_eq_ok hcontext, evaluate_eq_ok hcontext', maskOf, maskOf, mask_congr h]

/-! ## The columns that a text can name -/

/-- A name without other characters, or what may stand in the parentheses of a call. -/
def Askable (text column : Text) : Prop :=
  (∀ c ∈ column, isNameChar c = true) ∨ ')' ∈ text ∧ ')' ∉ column

theorem Askable.mono {text whole column : Text} (h : Askable text column)
    (hwithin : text <:+: whole) : Askable whole column :=
  h.imp_right fun ⟨hclosing, hcolumn⟩ => ⟨hwithin.subset hclosing, hcolumn⟩

theorem askable_of_argument? {function text argument : Text}
    (h : Predicate.argument? function text = some argument) : Askable text argument := by
  obtain ⟨body, -, hclosing, rfl, rfl⟩ := Predicate.argument?_eq_some_iff.1 h
  exact .inr ⟨by simp, fun hmem => hclosing ((Text.trimOf_infix _ body).subset hmem)⟩

theorem askable_of_splitName? {text column rest : Text}
    (h : splitName? text = some (column, rest)) : Askable text column :=
  .inl (splitName?_eq_some_iff.1 h).2.1

theorem askable_of_leading {text : Text} {predicate : Predicate}
    (h : Predicate.leading? text = some predicate) :
    ∀ column ∈ predicate.columns, Askable text column := by
  simp only [Predicate.leading?, Option.orElse_eq_orElse, Option.orElse_eq_or,
    Option.or_eq_some_iff, Option.map_eq_some_iff] at h
  rcases h with ⟨argument, hargument, rfl⟩ |
    ⟨-, ⟨argument, hargument, rfl⟩ | ⟨-, ⟨names, -, rfl⟩ | ⟨-, hpresent⟩⟩⟩
  · simpa [Predicate.columns] using askable_of_argument? hargument
  · simpa [Predicate.columns] using askable_of_argument? hargument
  · simp [Predicate.columns]
  · obtain ⟨column, hsplit, rfl⟩ := Predicate.present?_eq_some_iff.1 hpresent
    simpa [Predicate.columns] using askable_of_splitName? hsplit

theorem askable_of_trailing {text : Text} {predicate : Predicate}
    (h : Predicate.trailing? text = some predicate) :
    ∀ column ∈ predicate.columns, Askable text column := by
  simp only [Predicate.trailing?, Option.orElse_eq_orElse, Option.orElse_eq_or,
    Option.or_eq_some_iff] at h
  rcases h with h | ⟨-, h⟩
  · obtain ⟨column, rest, values, hsplit, -, rfl⟩ := Predicate.memberOf?_eq_some_iff.1 h
    simpa [Predicate.columns] using askable_of_splitName? hsplit
  · obtain ⟨column, rest, symbol, literal, hsplit, -, rfl⟩ := Predicate.compare?_eq_some_iff.1 h
    simpa [Predicate.columns] using askable_of_splitName? hsplit

/-- The columns that are named in both parts of a joined expression. -/
theorem askable_join {text : Text} {left right : Expression}
    (hleft : ∀ column ∈ left.columns, Askable text column)
    (hright : ∀ column ∈ right.columns, Askable text column) :
    ∀ column ∈ left.columns ++ right.columns, Askable text column := fun column hcolumn =>
  (List.mem_append.1 hcolumn).elim (hleft column) (hright column)

/-- A text names no other columns: its parts are found in it. -/
theorem askable_of_mem_columns (text : Text) :
    ∀ column ∈ (parse text).columns, Askable text column := by
  refine parse_induction (P := fun text expression =>
    ∀ column ∈ expression.columns, Askable text column)
    (by simp [columns]) askable_join askable_join ?_ askable_of_leading askable_of_trailing text
  exact fun hwithin hpart column hcolumn => (hpart column hcolumn).mono hwithin

/-! ## Asking for a value -/

/-- A name in the question for a value. -/
def presentText (name : Text) : Text :=
  name ++ " is not null".toList

theorem presentText_ne_concat (name body : Text) {c : Char} (h : c ≠ 'l') :
    presentText name ≠ body ++ [c] := by
  intro htext
  have hlast : (presentText name).getLast? = some 'l' := by
    rw [presentText, List.getLast?_append]
    rfl
  rw [htext, List.getLast?_concat] at hlast
  exact h (Option.some.inj hlast)

theorem trim_presentText {name : Text} (hname : name ≠ []) (htrimmed : Text.trim name = name) :
    Text.trim (presentText name) = presentText name := by
  have hsplit : presentText name = name ++ " is not ".toList ++ "null".toList := by
    rw [List.append_assoc]
    rfl
  rw [hsplit]
  exact Text.trimOf_append htrimmed (by decide) hname (by decide) _

/-- The question ends in no parenthesis and no bracket. -/
theorem leading?_presentText (name : Text) :
    Predicate.leading? (presentText name) = Predicate.present? (presentText name) := by
  have hcall : ∀ function, Predicate.argument? function (presentText name) = none := by
    intro function
    rw [Option.eq_none_iff_forall_ne_some]
    intro argument h
    obtain ⟨body, -, -, htext, -⟩ := Predicate.argument?_eq_some_iff.1 h
    rw [← List.append_assoc] at htext
    exact presentText_ne_concat name _ (by decide) htext
  have hlist : Predicate.bracketed? "full_name".toList (presentText name) = none := by
    rw [Option.eq_none_iff_forall_ne_some]
    intro values h
    obtain ⟨body, -, htext, -⟩ := Predicate.bracketed?_eq_some_iff.1 h
    rw [← List.append_assoc] at htext
    exact presentText_ne_concat name _ (by decide) htext
  rw [Predicate.leading?, hcall, hcall, hlist]
  rfl

theorem parse_presentText (column : ColumnName) :
    parse (Text.trim (presentText column.text)) = atom (.present column.text) := by
  rw [trim_presentText column.ne_nil column.trimmed]
  refine parse_of_leading ?_
  rw [leading?_presentText, Predicate.present?_eq_some_iff]
  exact ⟨column.text, splitName?_column column (by simp [isNameChar]), rfl⟩

/-- A comparison has a character of an operator. -/
theorem exists_operator_of_comparison? {text symbol literal : Text}
    (h : Predicate.comparison? text = some (symbol, literal)) :
    ∃ c ∈ text, c ∈ ['=', '<', '>'] := by
  obtain ⟨op, -, hop⟩ := List.exists_of_findSome?_eq_some h
  obtain ⟨_, hoperand, -⟩ := Option.map_eq_some_iff.1 hop
  obtain ⟨rest, hrest, -⟩ := Option.bind_eq_some_iff.1 hoperand
  rw [Text.after?_eq_some_iff.1 hrest]
  cases op <;> simp [Comparison.symbol]

theorem present?_presentText {name : Text} (h : ∃ c ∈ name, isNameChar c = false) :
    Predicate.present? (presentText name) = none := by
  rw [Option.eq_none_iff_forall_ne_some]
  intro predicate hpredicate
  obtain ⟨column, hsplit, -⟩ := Predicate.present?_eq_some_iff.1 hpredicate
  obtain ⟨-, hchars, -, htext⟩ := splitName?_eq_some_iff.1 hsplit
  obtain ⟨c, hc, hother⟩ := h
  rw [List.append_cancel_right htext] at hc
  rw [hchars c hc] at hother
  contradiction

theorem memberOf?_presentText (name : Text) : Predicate.memberOf? (presentText name) = none := by
  rw [Option.eq_none_iff_forall_ne_some]
  intro predicate hpredicate
  obtain ⟨column, rest, values, hsplit, hvalues, -⟩ :=
    Predicate.memberOf?_eq_some_iff.1 hpredicate
  obtain ⟨body, -, rfl, -⟩ := Predicate.bracketed?_eq_some_iff.1 hvalues
  obtain ⟨-, -, -, htext⟩ := splitName?_eq_some_iff.1 hsplit
  rw [← List.append_assoc, ← List.append_assoc] at htext
  exact presentText_ne_concat name _ (by decide) htext

theorem compare?_presentText {name : Text} (h : ∀ c ∈ name, c ∉ ['=', '<', '>']) :
    Predicate.compare? (presentText name) = none := by
  rw [Option.eq_none_iff_forall_ne_some]
  intro predicate hpredicate
  obtain ⟨column, rest, symbol, literal, hsplit, hcomparison, -⟩ :=
    Predicate.compare?_eq_some_iff.1 hpredicate
  obtain ⟨c, hc, hsign⟩ := exists_operator_of_comparison? hcomparison
  obtain ⟨-, -, -, htext⟩ := splitName?_eq_some_iff.1 hsplit
  have hmem : c ∈ presentText name := by
    rw [htext]
    exact List.mem_append_right _ ((List.dropWhile_suffix _).subset hc)
  rcases List.mem_append.1 hmem with hname | hquestion
  · exact h c hname hsign
  · have hlacks : ∀ c ∈ " is not null".toList, c ∉ ['=', '<', '>'] := by decide
    exact hlacks c hquestion hsign

/-- Under a name with another character, without connectives and operators, the question is no
expression. -/
theorem parse_presentText_eq_never {name : Text} (h : ∃ c ∈ name, isNameChar c = false)
    (hand : ¬ andSign <:+: presentText name) (hor : ¬ orSign <:+: presentText name)
    (hoperator : ∀ c ∈ name, c ∉ ['=', '<', '>']) : parse (presentText name) = never := by
  have hleading : Predicate.leading? (presentText name) = none :=
    (leading?_presentText name).trans (present?_presentText h)
  rw [parse_of_single hleading (mt (Text.one_lt_length_cutAt_iff andSign_ne_nil).1 hand)
    (mt (Text.one_lt_length_cutAt_iff orSign_ne_nil).1 hor), Predicate.trailing?,
    memberOf?_presentText, compare?_presentText hoperator]
  rfl

/-- The question for a value, under a plain name. -/
theorem selects_presentText {context : Context} (h : context.Rectangular) (column : ColumnName) :
    Selects context (presentText column.text) fun row =>
      ∃ cell, context.dataset.cellAt? column.text row = some cell ∧ cell.isMissing = false := by
  refine selects_of_mask h (parse_presentText column) fun row => ?_
  rw [mask, Predicate.getElem?_mask_iff h rfl]
  simp

/-- Under another name the question does not look at the column. -/
theorem not_mem_columns_presentText {name : Text} (h : ∃ c ∈ name, isNameChar c = false) :
    name ∉ (parse (Text.trim (presentText name))).columns := by
  intro hmem
  -- A parenthesis in the question comes from the name, but no argument of a call has one.
  rcases askable_of_mem_columns _ name hmem with hplain | ⟨hclosing, hname⟩
  · obtain ⟨c, hc, hother⟩ := h
    rw [hplain c hc] at hother
    contradiction
  · rcases List.mem_append.1 ((Text.trimOf_infix _ _).subset hclosing) with hmem | hmem
    · exact hname hmem
    · exact absurd hmem (by decide)

end Expression

/-! ## The dataset of one sheet -/

namespace Context

/-- What rules see of the sheet of one file. -/
def ofSheet (reading : ReadSettings) (source : Text) (sheet : Csv.Sheet) (names : List Text)
    (settings : ScoringSettings) : Context where
  dataset := Dataset.concat [(source, Frame.ofSheet reading sheet)]
  names := names
  settings := settings

variable {reading : ReadSettings} {source : Text} {sheet : Csv.Sheet} {names : List Text}
  {settings : ScoringSettings}

theorem rows_ofSheet : (ofSheet reading source sheet names settings).rows = sheet.rows.length := by
  show (Dataset.concat [(source, Frame.ofSheet reading sheet)]).rows = _
  rw [Dataset.rows_concat_cons]
  rfl

theorem rectangular_ofSheet (hnames : names.length = sheet.rows.length) :
    (ofSheet reading source sheet names settings).Rectangular := by
  refine ⟨Dataset.rectangular_concat fun file hfile => ?_, ?_⟩
  · rw [List.mem_singleton.1 hfile]
    exact Frame.rectangular_ofSheet reading sheet
  · rw [rows_ofSheet]
    exact hnames

/-- The columns of the dataset are the file column and those of the sheet. -/
theorem column?_ofSheet (h : sheet.header.Nodup) (column : Text) :
    (ofSheet reading source sheet names settings).dataset.column? column =
      if column = Dataset.sourceColumn then
        some (List.replicate sheet.rows.length (.text source))
      else if column ∈ sheet.header then some (sheet.rows.map (sheet.valueUnder reading column))
      else none := by
  have hframe := Frame.column?_ofSheet reading h column
  have hunion : column ∈ Dataset.unionNames [(source, Frame.ofSheet reading sheet)] ↔
      column ≠ Dataset.sourceColumn ∧ column ∈ sheet.header := by
    rw [Dataset.mem_unionNames]
    refine and_congr_right fun _ => ?_
    simp only [List.mem_singleton, exists_eq_left]
    rw [← not_iff_not, ← Keyed.get?_eq_none_iff, ← Frame.column?, hframe]
    simp
  rw [ofSheet, Dataset.column?_concat]
  by_cases hsource : column = Dataset.sourceColumn
  · simp [hsource, Dataset.cellsUnder, Frame.ofSheet]
  · by_cases hheader : column ∈ sheet.header
    · simp [hsource, hheader, hunion, Dataset.cellsUnder, Dataset.cellsIn, hframe]
    · simp [hsource, hheader, hunion]

/-- The cells of the sheet are those of the dataset. -/
theorem cellAt?_ofSheet (h : sheet.header.Nodup) {column : Text}
    (hsource : column ≠ Dataset.sourceColumn) (hheader : column ∈ sheet.header) (row : Nat) :
    (ofSheet reading source sheet names settings).dataset.cellAt? column row =
      sheet.rows[row]?.map (sheet.valueUnder reading column) := by
  rw [Dataset.cellAt?, column?_ofSheet h, if_neg hsource, if_pos hheader, Option.bind_some,
    List.getElem?_map]

end Context

namespace Expression

/-- In the dataset of every sheet that has a column of this name, the question for a value
selects the rows in which the column has one. -/
def Addressable (name : Text) : Prop :=
  ∀ (reading : ReadSettings) (text : Text) (sheet : Csv.Sheet) (source : Text)
    (names : List Text) (settings : ScoringSettings),
    Csv.Sheet.read text = .ok sheet → name ∈ sheet.header →
    names.length = sheet.rows.length →
    Selects (Context.ofSheet reading source sheet names settings) (presentText name) fun row =>
      ∃ raw, sheet.rows[row]? = some raw ∧ (sheet.valueUnder reading name raw).isMissing = false

theorem addressable_of_column (column : ColumnName) (h : column.text ≠ Dataset.sourceColumn) :
    Addressable column.text := by
  intro reading text sheet source names settings hread hheader hnames
  obtain ⟨mask, hmask, hlength, hrows⟩ :=
    selects_presentText (Context.rectangular_ofSheet hnames) column
  refine ⟨mask, hmask, hlength, fun row => (hrows row).trans ?_⟩
  simp [Context.cellAt?_ofSheet (Csv.Sheet.nodup_header hread) h hheader]

/-- A sheet with one column and one cell. -/
def probe (name value : Text) : Csv.Sheet where
  header := [name]
  rows := [[some value]]
  skipped := 0

theorem read_probe {name value : Text} (hname : name ≠ []) (hvalue : value ≠ []) :
    Csv.Sheet.read (Csv.print [[name], [value]]) = .ok (probe name value) := by
  have hfull : ∀ fields ∈ [[name], [value]], fields ≠ [] := by simp
  have hprint := Csv.sheetText_print hfull
  rw [Csv.Sheet.read_sheetText hprint (by simp [hname, hvalue]) (List.nodup_singleton name)]
  rfl

theorem valueUnder_probe (reading : ReadSettings) (name value : Text) :
    (probe name value).valueUnder reading name [some value] =
      typeCell reading (inferKind reading [some value]) (some value) := by
  simp [probe, Csv.Sheet.valueUnder, Csv.Sheet.kindUnder, Csv.Sheet.cellUnder, List.idxOf?]

/-- What rules see of a sheet with one cell. -/
def probed (name value : Text) : Context :=
  .ofSheet .default [] (probe name value) [[]] .default

theorem rectangular_probed (name value : Text) : (probed name value).Rectangular :=
  Context.rectangular_ofSheet rfl

/-- A rule that does not look at the column does not see the cell. -/
theorem evaluate_probed {text name : Text}
    (h : ∀ column ∈ (parse (Text.trim text)).columns, column = name →
      column = Dataset.sourceColumn) (value value' : Text) :
    evaluate text (probed name value) = evaluate text (probed name value') := by
  have hrows : ∀ value, (probed name value).rows = 1 := fun value => by
    rw [probed, Context.rows_ofSheet]
    rfl
  refine evaluate_congr (rectangular_probed name value) (rectangular_probed name value')
    ⟨(hrows value).trans (hrows value').symm, rfl, rfl, fun column hcolumn => ?_⟩
  have hdistinct : ∀ value, (probe name value).header.Nodup := fun _ => List.nodup_singleton name
  rw [probed, probed, Context.column?_ofSheet (hdistinct _), Context.column?_ofSheet (hdistinct _)]
  by_cases hsource : column = Dataset.sourceColumn
  · rw [if_pos hsource, if_pos hsource]
    rfl
  · have hheader : ∀ value, column ∉ (probe name value).header := fun _ hmem =>
      hsource (h column hcolumn (List.mem_singleton.1 hmem))
    rw [if_neg hsource, if_neg hsource, if_neg (hheader _), if_neg (hheader _)]

/-- A name for which the rule does not look at the column is not addressable: it cannot tell a
value from a token for nothing. -/
theorem not_addressable {name : Text} (hname : name ≠ [])
    (h : ∀ column ∈ (parse (Text.trim (presentText name))).columns, column = name →
      column = Dataset.sourceColumn) : ¬ Addressable name := by
  intro haddressable
  have hselects : ∀ value : Text, value ≠ [] →
      Selects (probed name value) (presentText name) fun row =>
        ∃ raw, (probe name value).rows[row]? = some raw ∧
          ((probe name value).valueUnder .default name raw).isMissing = false :=
    fun value hvalue => haddressable .default _ _ [] [[]] .default (read_probe hname hvalue)
      (List.mem_singleton.2 rfl) rfl
  obtain ⟨mask, hmask, -, hrows⟩ := hselects "x".toList (by decide)
  obtain ⟨mask', hmask', -, hrows'⟩ := hselects "NA".toList (by decide)
  -- Both sheets have the same mask, but only in the first one the cell is there.
  rw [evaluate_probed h "x".toList "NA".toList, hmask'] at hmask
  obtain rfl := Except.ok.inj hmask
  have hvalue : mask'[0]? = some true :=
    (hrows 0).2 ⟨_, rfl, by rw [valueUnder_probe]; decide⟩
  obtain ⟨raw, hraw, hmissing⟩ := (hrows' 0).1 hvalue
  obtain rfl : [some "NA".toList] = raw := Option.some.inj hraw
  rw [valueUnder_probe] at hmissing
  exact absurd hmissing (by decide)

/-- The columns of sheets that can be asked for a value are those with plain names, but for one
under the name of the file column.  Under another name the question is the same whatever the
column holds, and without a connective and an operator in it no row is selected. -/
theorem addressable_iff {name : Text} (hname : name ≠ []) (htrimmed : Text.trim name = name) :
    (Addressable name ↔ name ≠ Dataset.sourceColumn ∧ ∀ c ∈ name, isNameChar c = true) ∧
      ((∃ c ∈ name, isNameChar c = false) →
        (∀ context context' : Context, context.Rectangular → context'.Rectangular →
          context.AgreeExcept name context' →
          evaluate (presentText name) context = evaluate (presentText name) context') ∧
        (¬ andSign <:+: presentText name → ¬ orSign <:+: presentText name →
          (∀ c ∈ name, c ∉ ['=', '<', '>']) → ∀ context : Context, context.Rectangular →
          evaluate (presentText name) context = .ok (Mask.all context.rows false))) := by
  refine ⟨⟨fun haddressable => ⟨?_, ?_⟩, ?_⟩, fun hother => ⟨?_, ?_⟩⟩
  · rintro rfl
    exact not_addressable hname (fun column _ hcolumn => hcolumn) haddressable
  · by_contra hchars
    push Not at hchars
    obtain ⟨c, hc, hother⟩ := hchars
    have hnot := not_mem_columns_presentText ⟨c, hc, Bool.eq_false_iff.2 hother⟩
    exact not_addressable hname (fun column hmem hcolumn => absurd (hcolumn ▸ hmem) hnot)
      haddressable
  · rintro ⟨hsource, hchars⟩
    exact addressable_of_column ⟨name, hname, hchars⟩ hsource
  · intro context context' hcontext hcontext' hagree
    exact evaluate_congr hcontext hcontext' (hagree _ (not_mem_columns_presentText hother))
  · intro hand hor hoperator context hcontext
    rw [evaluate_eq_ok hcontext, maskOf, trim_presentText hname htrimmed,
      parse_presentText_eq_never hother hand hor hoperator, mask]

/-- A plain name, and one with spaces and an accent. -/
theorem addressable_iff_two_names :
    Addressable "Age_2".toList ∧ ¬ Addressable "Città di nascita".toList ∧
      ∀ context : Context, context.Rectangular →
        evaluate "Città di nascita is not null".toList context =
          .ok (Mask.all context.rows false) := by
  have hname : "Age_2".toList ≠ [] ∧ "Città di nascita".toList ≠ [] := by decide
  have htrimmed : Text.trim "Age_2".toList = "Age_2".toList ∧
      Text.trim "Città di nascita".toList = "Città di nascita".toList := by decide
  obtain ⟨hplain, -⟩ := addressable_iff hname.1 htrimmed.1
  obtain ⟨hother, hquestion⟩ := addressable_iff hname.2 htrimmed.2
  refine ⟨hplain.2 (by decide), fun haddressable => ?_, ?_⟩
  · exact absurd (hother.1 haddressable).2 (by decide)
  · have htext : "Città di nascita is not null".toList =
        presentText "Città di nascita".toList := by decide
    rw [htext]
    refine (hquestion ⟨'à', by decide, by decide⟩).2 (fun hand => ?_) (fun hor => ?_) (by decide)
    · exact absurd (hand.subset (show 'A' ∈ andSign by decide)) (by decide)
    · exact absurd (hor.subset (show '|' ∈ orSign by decide)) (by decide)

/-- The second of two columns of one name gets a name that cannot be asked for. -/
theorem not_addressable_suffixed :
    let sheet : Csv.Sheet :=
      { header := ["id".toList, "id.1".toList]
        rows := [[some "1".toList, some "2".toList]]
        skipped := 0 }
    let context : Context := .ofSheet .default "a.csv".toList sheet [[]] .default
    Csv.Sheet.read "id,id\n1,2\n".toList = .ok sheet ∧
      Text.trim "id.1".toList = "id.1".toList ∧ '\n' ∉ "id.1".toList ∧
      context.dataset.cellAt? "id.1".toList 0 = some (.integer 2) ∧
      evaluate "id.1 is not null".toList context = .ok [false] ∧
      ¬ Addressable "id.1".toList := by
  intro sheet context
  have hother : ∃ c ∈ "id.1".toList, isNameChar c = false := ⟨'.', by decide, by decide⟩
  have hand : ¬ andSign <:+: presentText "id.1".toList := fun hand =>
    absurd (hand.subset (show 'A' ∈ andSign by decide)) (by decide)
  have hor : ¬ orSign <:+: presentText "id.1".toList := fun hor =>
    absurd (hor.subset (show '|' ∈ orSign by decide)) (by decide)
  have hnever := parse_presentText_eq_never hother hand hor (by decide)
  have hcontext : context.Rectangular := Context.rectangular_ofSheet rfl
  refine ⟨by decide +kernel, by decide, by decide, ?_, ?_, ?_⟩
  · have hdistinct : sheet.header.Nodup := by decide
    have hsource : "id.1".toList ≠ Dataset.sourceColumn := by decide
    have hheader : "id.1".toList ∈ sheet.header := by decide
    rw [Context.cellAt?_ofSheet hdistinct hsource hheader]
    rfl
  · have htrim : Text.trim "id.1 is not null".toList = presentText "id.1".toList := by decide
    rw [evaluate_eq_ok hcontext, maskOf, htrim, hnever]
    rfl
  · refine not_addressable (by decide) fun column hmem hcolumn => ?_
    exact absurd (hcolumn ▸ hmem) (not_mem_columns_presentText hother)

end Expression

end RiskTally
