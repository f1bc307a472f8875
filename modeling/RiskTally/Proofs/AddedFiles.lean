import RiskTally.Proofs.Alignment
import RiskTally.Proofs.CellTests
import RiskTally.Proofs.TwoLevels

/-!
# Rules do not see the other files

Putting files together gives every row the columns of all files, with nothing in those
that its own file lacks.  A predicate that looks at one cell at a time selects no empty
cell, and no row where a column is lacking altogether, so that for a row it comes to the
same which of the two it is.  Hence the mask of such rules over files put together is the
mask over the first files and after it the mask over the others.  Only predicates that
count over a column see more than one file.

## Main results

* `Dataset.mem_unionNames`: the columns of files put together.
* `Predicate.overColumn_concat`: a column that is lacking is a column of empty cells.
* `Expression.byRow_parse`: a text without the two counting words has no counting part.
* `Expression.evaluate_concat_append`: the mask over more files.
-/

namespace RiskTally

/-! ## The columns of files put together -/

namespace Dataset

theorem mem_addNames {name : Text} {names more : List Text} :
    name ∈ addNames names more ↔ name ∈ names ∨ name ≠ sourceColumn ∧ name ∈ more := by
  induction more generalizing names with
  | nil => simp [addNames]
  | cons first more ih =>
      show name ∈ addNames
        (if first = sourceColumn || names.contains first then names else names ++ [first]) more ↔ _
      rw [ih]
      by_cases hname : name = first
      · subst hname
        by_cases hsource : name = sourceColumn
        · simp [hsource]
        · by_cases hold : name ∈ names
          · simp [hold]
          · simp [hsource, hold]
      · split <;> simp [hname]

theorem mem_foldl_addNames {name : Text} {names : List Text} {files : List (Text × Frame)} :
    name ∈ files.foldl (fun names file => addNames names file.2.columns.keys) names ↔
      name ∈ names ∨ name ≠ sourceColumn ∧ ∃ file ∈ files, name ∈ file.2.columns.keys := by
  induction files generalizing names with
  | nil => simp
  | cons file files ih =>
      rw [List.foldl_cons, ih, mem_addNames]
      simp only [List.exists_mem_cons_iff]
      tauto

/-- The columns of files put together are those of some file. -/
theorem mem_unionNames {name : Text} {files : List (Text × Frame)} :
    name ∈ unionNames files ↔
      name ≠ sourceColumn ∧ ∃ file ∈ files, name ∈ file.2.columns.keys := by
  rw [unionNames, mem_foldl_addNames]
  simp

theorem get?_map_names {name : Text} (cells : Text → List Cell) {names : List Text} :
    Keyed.get? (names.map fun other => (other, cells other)) name =
      if name ∈ names then some (cells name) else none := by
  induction names with
  | nil => rfl
  | cons first names ih =>
      rw [List.map_cons, Keyed.get?, ih]
      by_cases hname : first = name
      · simp [hname]
      · simp [hname, Ne.symm hname]

theorem rows_concat_append (files more : List (Text × Frame)) :
    (concat (files ++ more)).rows = (concat files).rows + (concat more).rows := by
  simp [rows, concat]

/-- The cells of the rows of a file under a name: their file, or what stands in the column,
which is nothing where the file lacks it. -/
def cellsUnder (column : Text) (file : Text × Frame) : List Cell :=
  if column = sourceColumn then List.replicate file.2.rows (.text file.1)
  else cellsIn column file

/-- A column of files put together, if it is there, is made of the cells of every file. -/
theorem column?_concat (column : Text) (files : List (Text × Frame)) :
    (concat files).column? column =
      if column = sourceColumn ∨ column ∈ unionNames files then
        some (files.flatMap (cellsUnder column))
      else none := by
  by_cases hsource : column = sourceColumn
  · have hcells : cellsUnder column = fun file => List.replicate file.2.rows (.text file.1) := by
      funext file
      rw [cellsUnder, if_pos hsource]
    rw [if_pos (.inl hsource), hcells, column?, if_pos hsource]
    simp [concat, List.map_flatMap]
  · have hcells : cellsUnder column = cellsIn column := by
      funext file
      rw [cellsUnder, if_neg hsource]
    rw [hcells, column?, if_neg hsource]
    simp only [hsource, false_or]
    exact get?_map_names _

/-- A file that lacks a column has nothing in it. -/
theorem cellsIn_of_not_mem {column : Text} {file : Text × Frame}
    (h : column ∉ file.2.columns.keys) :
    cellsIn column file = List.replicate file.2.rows .null := by
  rw [cellsIn, Frame.column?, Keyed.get?_eq_none_iff.2 h]
  rfl

end Dataset

/-- The cells of a column, lacking or not, are one for every row. -/
theorem Dataset.length_flatMap_cellsUnder {files : List (Text × Frame)}
    (h : ∀ file ∈ files, file.2.Rectangular) (column : Text) :
    (files.flatMap (cellsUnder column)).length = (concat files).rows := by
  induction files with
  | nil => rfl
  | cons file files ih =>
      have hfiles := ih fun other hother => h other (by simp [hother])
      have hfile : (cellsUnder column file).length = file.2.rows := by
        unfold cellsUnder
        split
        · exact List.length_replicate
        · exact length_cellsIn (h file (by simp)) column
      rw [List.flatMap_cons, List.length_append, hfile, hfiles, rows_concat_cons]

/-- What rules see of more files, with the names of all their rows. -/
theorem Context.rectangular_append {files more : List (Text × Frame)}
    (hfiles : ∀ file ∈ files, file.2.Rectangular) (hmore : ∀ file ∈ more, file.2.Rectangular)
    {names moreNames : List Text} (hnames : names.length = (Dataset.concat files).rows)
    (hmoreNames : moreNames.length = (Dataset.concat more).rows) (settings : ScoringSettings) :
    Context.Rectangular ⟨Dataset.concat (files ++ more), names ++ moreNames, settings⟩ := by
  have hall : ∀ file ∈ files ++ more, file.2.Rectangular := fun file hfile =>
    (List.mem_append.1 hfile).elim (hfiles file) (hmore file)
  refine ⟨Dataset.rectangular_concat hall, ?_⟩
  show (names ++ moreNames).length = (Dataset.concat (files ++ more)).rows
  rw [List.length_append, Dataset.rows_concat_append, hnames, hmoreNames]

/-! ## Predicates -/

namespace Predicate

/-- The predicate does not count over its column. -/
def byRow : Predicate → Bool
  | duplicate _ => false
  | highlyVaried _ => false
  | _ => true

/-- Where nothing is true of an empty cell, a column that is lacking selects the same rows
as a column of empty cells. -/
theorem overColumn_concat {files : List (Text × Frame)}
    (h : ∀ file ∈ files, file.2.Rectangular) (names : List Text) (settings : ScoringSettings)
    {test : Cell → Bool} (hnull : test .null = false) (column : Text) :
    overColumn ⟨Dataset.concat files, names, settings⟩ column (fun cells => cells.map test) =
      (files.flatMap (Dataset.cellsUnder column)).map test := by
  unfold overColumn
  dsimp only
  rw [Dataset.column?_concat]
  by_cases hcolumn : column = Dataset.sourceColumn ∨ column ∈ Dataset.unionNames files
  · rw [if_pos hcolumn]
  · rw [if_neg hcolumn, map_eq_all_of_forall, Dataset.length_flatMap_cellsUnder h]
    · rfl
    · -- No file has the column, so that every cell under its name is empty.
      intro cell hcell
      obtain ⟨hsource, hunion⟩ := not_or.1 hcolumn
      obtain ⟨file, hfile, hmem⟩ := List.mem_flatMap.1 hcell
      have hlacks : column ∉ file.2.columns.keys := fun hkeys =>
        hunion (Dataset.mem_unionNames.2 ⟨hsource, file, hfile, hkeys⟩)
      rw [Dataset.cellsUnder, if_neg hsource, Dataset.cellsIn_of_not_mem hlacks] at hmem
      rw [List.eq_of_mem_replicate hmem, hnull]

variable {files more : List (Text × Frame)} {names moreNames : List Text}

/-- The mask of a predicate by rows over more files. -/
theorem mask_concat_append (hfiles : ∀ file ∈ files, file.2.Rectangular)
    (hmore : ∀ file ∈ more, file.2.Rectangular)
    (hnames : names.length = (Dataset.concat files).rows)
    (hmoreNames : moreNames.length = (Dataset.concat more).rows) (settings : ScoringSettings)
    {predicate : Predicate} (hrow : predicate.byRow = true) :
    predicate.mask ⟨Dataset.concat (files ++ more), names ++ moreNames, settings⟩ =
      predicate.mask ⟨Dataset.concat files, names, settings⟩ ++
        predicate.mask ⟨Dataset.concat more, moreNames, settings⟩ := by
  have hall : ∀ file ∈ files ++ more, file.2.Rectangular := fun file hfile =>
    (List.mem_append.1 hfile).elim (hfiles file) (hmore file)
  have hwhole := Context.rectangular_append hfiles hmore hnames hmoreNames settings
  have htested : ∀ column test, predicate.test? = some (column, test) →
      predicate.mask ⟨Dataset.concat (files ++ more), names ++ moreNames, settings⟩ =
        predicate.mask ⟨Dataset.concat files, names, settings⟩ ++
          predicate.mask ⟨Dataset.concat more, moreNames, settings⟩ := by
    intro column test htest
    have hnull := test?_null htest
    rw [mask_of_test? hwhole htest,
      mask_of_test? ⟨Dataset.rectangular_concat hfiles, hnames⟩ htest,
      mask_of_test? ⟨Dataset.rectangular_concat hmore, hmoreNames⟩ htest,
      overColumn_concat hall _ _ hnull, overColumn_concat hfiles _ _ hnull,
      overColumn_concat hmore _ _ hnull, List.flatMap_append, List.map_append]
  cases predicate with
  | duplicate column => exact absurd hrow (by simp [byRow])
  | highlyVaried column => exact absurd hrow (by simp [byRow])
  | nameIn listed => exact List.map_append
  | present column => exact htested _ _ rfl
  | memberOf column values => exact htested _ _ rfl
  | compare column symbol literal => exact htested _ _ rfl

end Predicate

/-! ## Expressions -/

/-- Masks are folded part by part. -/
theorem Mask.zipInto_append (op : Bool → Bool → Bool) {left left' : Mask}
    (h : left.length = left'.length) {right right' : Mask} (h' : right.length = right'.length) :
    zipInto op (left ++ right) (left' ++ right') =
      zipInto op left left' ++ zipInto op right right' := by
  rw [zipInto_eq_zipWith op h, zipInto_eq_zipWith op h', zipInto_eq_zipWith op (by simp [h, h']),
    List.zipWith_append h]

namespace Expression

/-- No predicate of the expression counts over its column. -/
def byRow : Expression → Bool
  | atom predicate => predicate.byRow
  | both left right => left.byRow && right.byRow
  | either left right => left.byRow && right.byRow
  | never => true

/-- What the text of a predicate that counts over a column begins with. -/
def countingLeads : List Text :=
  ["duplicate(".toList, "high_cardinality(".toList]

theorem byRow_of_leading {text : Text} {predicate : Predicate}
    (h : Predicate.leading? text = some predicate)
    (hleads : ∀ lead ∈ countingLeads, ¬ lead <:+: text) : predicate.byRow = true := by
  have hcall : ∀ {function argument : Text}, function ++ ['('] ∈ countingLeads →
      Predicate.argument? function text ≠ some argument := by
    intro function argument hlead hargument
    obtain ⟨body, -, -, rfl, -⟩ := Predicate.argument?_eq_some_iff.1 hargument
    exact hleads _ hlead (List.prefix_append _ _).isInfix
  simp only [Predicate.leading?, Option.orElse_eq_orElse, Option.orElse_eq_or,
    Option.or_eq_some_iff, Option.map_eq_some_iff] at h
  rcases h with ⟨argument, hargument, rfl⟩ |
    ⟨-, ⟨argument, hargument, rfl⟩ | ⟨-, ⟨names, -, rfl⟩ | ⟨-, hpresent⟩⟩⟩
  · exact absurd hargument (hcall (by decide))
  · exact absurd hargument (hcall (by decide))
  · rfl
  · obtain ⟨column, -, rfl⟩ := Predicate.present?_eq_some_iff.1 hpresent
    rfl

theorem byRow_of_trailing {text : Text} {predicate : Predicate}
    (h : Predicate.trailing? text = some predicate) : predicate.byRow = true := by
  simp only [Predicate.trailing?, Option.orElse_eq_orElse, Option.orElse_eq_or,
    Option.or_eq_some_iff] at h
  rcases h with h | ⟨-, h⟩
  · obtain ⟨column, rest, values, -, -, rfl⟩ := Predicate.memberOf?_eq_some_iff.1 h
    rfl
  · obtain ⟨column, rest, symbol, literal, -, -, rfl⟩ := Predicate.compare?_eq_some_iff.1 h
    rfl

theorem byRow_join {left right : Expression} (hleft : left.byRow = true)
    (hright : right.byRow = true) : (left.byRow && right.byRow) = true := by
  rw [hleft, hright]
  rfl

/-- A text without the two counting words has no counting part: the parts of a split are
found in the text. -/
theorem byRow_parse {text : Text} (hleads : ∀ lead ∈ countingLeads, ¬ lead <:+: text) :
    (parse text).byRow = true := by
  revert hleads
  refine parse_induction (P := fun text expression =>
    (∀ lead ∈ countingLeads, ¬ lead <:+: text) → expression.byRow = true)
    (fun _ _ => rfl) ?_ ?_ ?_ byRow_of_leading ?_ text
  · exact fun hleft hright hleads => byRow_join (hleft hleads) (hright hleads)
  · exact fun hleft hright hleads => byRow_join (hleft hleads) (hright hleads)
  · exact fun hwithin hpart hleads => hpart fun lead hlead hoccurs =>
      hleads lead hlead (hoccurs.trans hwithin)
  · exact fun h _ => byRow_of_trailing h

variable {files more : List (Text × Frame)} {names moreNames : List Text}

/-- The mask of an expression by rows over more files. -/
theorem mask_concat_append (hfiles : ∀ file ∈ files, file.2.Rectangular)
    (hmore : ∀ file ∈ more, file.2.Rectangular)
    (hnames : names.length = (Dataset.concat files).rows)
    (hmoreNames : moreNames.length = (Dataset.concat more).rows) (settings : ScoringSettings)
    {expression : Expression} (hrow : expression.byRow = true) :
    expression.mask ⟨Dataset.concat (files ++ more), names ++ moreNames, settings⟩ =
      expression.mask ⟨Dataset.concat files, names, settings⟩ ++
        expression.mask ⟨Dataset.concat more, moreNames, settings⟩ := by
  have hcontext : Context.Rectangular ⟨Dataset.concat files, names, settings⟩ :=
    ⟨Dataset.rectangular_concat hfiles, hnames⟩
  have hmoreContext : Context.Rectangular ⟨Dataset.concat more, moreNames, settings⟩ :=
    ⟨Dataset.rectangular_concat hmore, hmoreNames⟩
  induction expression with
  | atom predicate =>
      exact Predicate.mask_concat_append hfiles hmore hnames hmoreNames settings hrow
  | both left right ihl ihr =>
      obtain ⟨hleft, hright⟩ := Bool.and_eq_true_iff.1 hrow
      simp only [mask]
      rw [ihl hleft, ihr hright, Mask.zipInto_append]
      · rw [length_mask hcontext, length_mask hcontext]
      · rw [length_mask hmoreContext, length_mask hmoreContext]
  | either left right ihl ihr =>
      obtain ⟨hleft, hright⟩ := Bool.and_eq_true_iff.1 hrow
      simp only [mask]
      rw [ihl hleft, ihr hright, Mask.zipInto_append]
      · rw [length_mask hcontext, length_mask hcontext]
      · rw [length_mask hmoreContext, length_mask hmoreContext]
  | never =>
      simp only [mask, Mask.all, Context.rows]
      rw [Dataset.rows_concat_append, List.replicate_add]

/-- A rule without the two counting words, over files put together with others: its mask
is that over the first files and after it that over the others, each of them with one
entry per row, so that for a row of a file it does not matter which other files there
are. -/
theorem evaluate_concat_append {files more : List (Text × Frame)}
    (hfiles : ∀ file ∈ files, file.2.Rectangular) (hmore : ∀ file ∈ more, file.2.Rectangular)
    {names moreNames : List Text} (hnames : names.length = (Dataset.concat files).rows)
    (hmoreNames : moreNames.length = (Dataset.concat more).rows) (settings : ScoringSettings)
    {text : Text} (hduplicate : ¬ "duplicate(".toList <:+: text)
    (hvaried : ¬ "high_cardinality(".toList <:+: text) :
    ∃ mask moreMask,
      evaluate text ⟨Dataset.concat files, names, settings⟩ = .ok mask ∧
      evaluate text ⟨Dataset.concat more, moreNames, settings⟩ = .ok moreMask ∧
      mask.length = (Dataset.concat files).rows ∧
      moreMask.length = (Dataset.concat more).rows ∧
      evaluate text ⟨Dataset.concat (files ++ more), names ++ moreNames, settings⟩ =
        .ok (mask ++ moreMask) := by
  have hcontext : Context.Rectangular ⟨Dataset.concat files, names, settings⟩ :=
    ⟨Dataset.rectangular_concat hfiles, hnames⟩
  have hmoreContext : Context.Rectangular ⟨Dataset.concat more, moreNames, settings⟩ :=
    ⟨Dataset.rectangular_concat hmore, hmoreNames⟩
  have hwhole := Context.rectangular_append hfiles hmore hnames hmoreNames settings
  have hleads : ∀ lead ∈ countingLeads, ¬ lead <:+: Text.trim text := by
    intro lead hlead
    rcases List.mem_cons.1 hlead with rfl | hlead
    · exact not_infix_trim hduplicate
    · rw [List.mem_singleton.1 hlead]
      exact not_infix_trim hvaried
  refine ⟨_, _, evaluate_eq_ok hcontext text, evaluate_eq_ok hmoreContext text,
    length_mask hcontext _, length_mask hmoreContext _, ?_⟩
  rw [evaluate_eq_ok hwhole]
  exact congrArg Except.ok
    (mask_concat_append hfiles hmore hnames hmoreNames settings (byRow_parse hleads))

/-- A file without the column `Age`, and two with a column under the name of the file
column: a row that the first part of the rule selects by its city, one by its age. -/
theorem evaluate_concat_append_lacking_column :
    ∃ (files more : List (Text × Frame)) (names moreNames : List Text) (text : Text),
      (∀ file ∈ files, file.2.Rectangular) ∧ (∀ file ∈ more, file.2.Rectangular) ∧
      names.length = (Dataset.concat files).rows ∧
      moreNames.length = (Dataset.concat more).rows ∧
      ¬ "duplicate(".toList <:+: text ∧ ¬ "high_cardinality(".toList <:+: text ∧
      (Dataset.concat files).hasColumn "Age".toList = false ∧
      evaluate text ⟨Dataset.concat (files ++ more), names ++ moreNames, .default⟩ =
        .ok [true, false, true, false] := by
  let files : List (Text × Frame) :=
    [("a.csv".toList,
      { columns := [("City".toList, [.text "Rome".toList, .text "Oslo".toList])], rows := 2 })]
  let more : List (Text × Frame) :=
    [("b.csv".toList,
      { columns := [("Age".toList, [.integer 70]), (Dataset.sourceColumn, [.null])], rows := 1 }),
     ("c.csv".toList,
      { columns := [("City".toList, [.null]), (Dataset.sourceColumn, [.integer 4])], rows := 1 })]
  let names : List Text := ["ANA".toList, "JAN".toList]
  let moreNames : List Text := ["ANA".toList, "ANA".toList]
  let text : Text :=
    "Age > 60 || City in [Rome] || __source_file == d.csv AND full_name in [ana]".toList
  have hfiles : ∀ file ∈ files, ∀ column ∈ file.2.columns, column.2.length = file.2.rows := by
    decide
  have hmore : ∀ file ∈ more, ∀ column ∈ file.2.columns, column.2.length = file.2.rows := by
    decide
  have hnames : names.length = (Dataset.concat files).rows := rfl
  have hmoreNames : moreNames.length = (Dataset.concat more).rows := rfl
  have hduplicate : ¬ "duplicate(".toList <:+: text := by decide +kernel
  have hvaried : ¬ "high_cardinality(".toList <:+: text := by decide +kernel
  obtain ⟨mask, moreMask, hmask, hmoreMask, -, -, hwhole⟩ :=
    evaluate_concat_append hfiles hmore hnames hmoreNames .default hduplicate hvaried
  rw [evaluate_eq_byLevels ⟨Dataset.rectangular_concat hfiles, hnames⟩] at hmask
  rw [evaluate_eq_byLevels ⟨Dataset.rectangular_concat hmore, hmoreNames⟩] at hmoreMask
  have hfirst : mask = [true, false] := (Except.ok.inj hmask).symm.trans (by decide +kernel)
  have hsecond : moreMask = [true, false] :=
    (Except.ok.inj hmoreMask).symm.trans (by decide +kernel)
  rw [hfirst, hsecond] at hwhole
  exact ⟨files, more, names, moreNames, text, hfiles, hmore, hnames, hmoreNames, hduplicate,
    hvaried, by decide +kernel, hwhole⟩

end Expression

end RiskTally
