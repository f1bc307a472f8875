import RiskTally.Proofs.Connectives

/-!
# Texts that begin with a column

A text that begins with the name of a column is read by what follows the name.  What follows
decides between the forms before any connective is looked for: only a parenthesis makes a
call, only a list after `full_name` is a list of names, and only ` is not null` asks for
presence.  So a comparison is read as one wherever its blanks stand, and a list of values is
read as one whatever it holds, as long as no connective is found in them.

## Main results

* `Expression.leading?_of_column`: when a text that begins with a column is no leading form.
* `Expression.comparison?_symbol_append`: the operator that is written is the one that is read.
* `Expression.parse_comparison`: a column, an operator and a literal.
* `Expression.parse_list`: a column and a list of values.
-/

namespace RiskTally.Expression

/-! ## What follows the name -/

/-- A name and what follows it, if that cannot belong to the name. -/
theorem splitName?_column (column : ColumnName) {rest : Text}
    (h : ∀ c ∈ rest.head?, isNameChar c = false) :
    splitName? (column.text ++ rest) = some (column.text, rest) :=
  splitName?_eq_some_iff.2 ⟨column.ne_nil, column.chars, h, rfl⟩

/-- A text has one name at its beginning. -/
theorem column_inj {column other : ColumnName} {rest more : Text}
    (hrest : ∀ c ∈ rest.head?, isNameChar c = false)
    (hmore : ∀ c ∈ more.head?, isNameChar c = false)
    (h : column.text ++ rest = other.text ++ more) : column.text = other.text ∧ rest = more := by
  have hsplit := splitName?_column column hrest
  rw [h, splitName?_column other hmore] at hsplit
  have hpair := Option.some.inj hsplit
  exact ⟨(congrArg Prod.fst hpair).symm, (congrArg Prod.snd hpair).symm⟩

/-- Without a parenthesis after the name there is no call. -/
theorem argument?_of_column (column function : ColumnName) {rest : Text}
    (hrest : ∀ c ∈ rest.head?, isNameChar c = false) (hopen : rest.head? ≠ some '(') :
    Predicate.argument? function.text (column.text ++ rest) = none := by
  rw [Option.eq_none_iff_forall_ne_some]
  intro argument h
  obtain ⟨body, -, -, htext, -⟩ := Predicate.argument?_eq_some_iff.1 h
  rw [List.append_assoc] at htext
  have hparts := column_inj hrest (by simp [isNameChar]) htext
  exact hopen (by rw [hparts.2]; rfl)

/-- A text that begins with a column is none of the leading forms, unless what follows the
name makes it one. -/
theorem leading?_of_column (column : ColumnName) {rest : Text}
    (hrest : ∀ c ∈ rest.head?, isNameChar c = false) (hopen : rest.head? ≠ some '(')
    (hlist : column.text = "full_name".toList → ¬ " in [".toList <+: rest)
    (hpresent : rest ≠ " is not null".toList) :
    Predicate.leading? (column.text ++ rest) = none := by
  have hduplicate := argument?_of_column column
    ⟨"duplicate".toList, by decide, by decide⟩ hrest hopen
  have hvaried := argument?_of_column column
    ⟨"high_cardinality".toList, by decide, by decide⟩ hrest hopen
  have hnames : Predicate.bracketed? "full_name".toList (column.text ++ rest) = none := by
    rw [Option.eq_none_iff_forall_ne_some]
    intro values h
    obtain ⟨body, -, htext, -⟩ := Predicate.bracketed?_eq_some_iff.1 h
    rw [List.append_assoc] at htext
    have hparts : column.text = fullName.text ∧ _ :=
      column_inj hrest (by simp [isNameChar]) htext
    exact hlist hparts.1 ⟨_, hparts.2.symm⟩
  have hquestion : Predicate.present? (column.text ++ rest) = none := by
    rw [Option.eq_none_iff_forall_ne_some]
    intro predicate h
    obtain ⟨other, hsplit, -⟩ := Predicate.present?_eq_some_iff.1 h
    rw [splitName?_column column hrest] at hsplit
    exact hpresent (congrArg Prod.snd (Option.some.inj hsplit))
  rw [Predicate.leading?, hduplicate, hvaried, hnames, hquestion]
  rfl

/-- Where what follows a name lacks the word `AND`, no connective stands after the name. -/
theorem not_infix_andSign_of_column (column : ColumnName) {rest : Text}
    (h : ¬ "AND".toList <:+: rest) : ¬ andSign <:+: column.text ++ rest := by
  intro hoccurs
  have hspace : ' ' ∉ column.text := column.not_mem (by decide)
  have hinner := mem_inner_words_of_andSign hoccurs
  exact not_mem_tail_words hspace h (List.mem_of_mem_dropLast hinner)

/-- Without connectives a text that is no leading form is read as one of the other forms. -/
theorem parse_of_trailing {text : Text} {predicate : Predicate}
    (hleading : Predicate.leading? text = none) (hand : ¬ andSign <:+: text)
    (hor : ¬ orSign <:+: text) (h : Predicate.trailing? text = some predicate) :
    parse text = atom predicate := by
  rw [parse_eq_ofPredicate? hand hor, predicate?, hleading, h]
  rfl

/-! ## Comparisons -/

/-- Past the blanks comes what does not begin with one. -/
theorem dropWhile_gap {gap value : Text} (hgap : ∀ c ∈ gap, Text.isBlank c = true)
    (hvalue : ∀ c ∈ value.head?, Text.isBlank c = false) :
    (gap ++ value).dropWhile Text.isBlank = value := by
  rw [List.dropWhile_append_of_pos hgap]
  cases value with
  | nil => rfl
  | cons c value => simp [hvalue c (by simp)]

/-- The literal after an operator is what follows the blanks. -/
theorem operand?_append {gap value : Text} (hgap : ∀ c ∈ gap, Text.isBlank c = true)
    (hne : value ≠ []) (hfirst : ∀ c ∈ value.head?, Text.isBlank c = false)
    (hline : '\n' ∉ value) : Predicate.operand? (gap ++ value) = some (unquote value) := by
  obtain ⟨c, value, rfl⟩ := List.exists_cons_of_ne_nil hne
  rw [Predicate.operand?, dropWhile_gap hgap hfirst]
  exact if_neg hline

/-- The operator that is written is the one that is read.  After `>` and `<` an equals sign
would belong to the operator. -/
theorem comparison?_symbol_append (op : Comparison) {rest literal : Text}
    (hrest : Predicate.operand? rest = some literal)
    (hop : op = .gt ∨ op = .lt → rest.head? ≠ some '=') :
    Predicate.comparison? (op.symbol ++ rest) = some (op.symbol, literal) := by
  have hequals : op = .gt ∨ op = .lt → Text.after? ['='] rest = none := by
    intro hshort
    rw [Option.eq_none_iff_forall_ne_some]
    intro more hmore
    exact hop hshort (by rw [Text.after?_eq_some_iff.1 hmore]; rfl)
  unfold Predicate.comparison? Comparison.inOrder
  cases op with
  | eq => simp [Comparison.symbol, Text.after?, hrest]
  | ge => simp [Comparison.symbol, Text.after?, hrest]
  | le => simp [Comparison.symbol, Text.after?, hrest]
  | gt => simp [Comparison.symbol, Text.after?, hrest, hequals (.inl rfl)]
  | lt => simp [Comparison.symbol, Text.after?, hrest, hequals (.inr rfl)]

/-- Blanks cannot belong to a name. -/
theorem isNameChar_of_isBlank {c : Char} (h : Text.isBlank c = true) : isNameChar c = false := by
  by_contra hname
  rw [isBlank_of_isNameChar (by simpa using hname)] at h
  contradiction

/-- Blanks stand in no reserved word. -/
theorem not_mem_reserved_of_isBlank {blanks : Text} (h : ∀ c ∈ blanks, Text.isBlank c = true)
    {word : Text} (hword : word ∈ reserved) : ∀ c ∈ blanks, c ∉ word := by
  refine not_mem_reserved (fun c hc hmem => ?_) hword
  have hvisible : ∀ c ∈ ['|', '(', 'A', 'N', 'D'], Text.isBlank c = false := by decide
  exact absurd ((h c hc).symm.trans (hvisible c hmem)) (by decide)

/-- The sign that an operator begins with. -/
theorem exists_sign (op : Comparison) : ∃ sign signs, op.symbol = sign :: signs ∧
    Text.isBlank sign = false ∧ isNameChar sign = false ∧ sign ≠ '(' ∧ sign ≠ 'i' := by
  cases op <;> exact ⟨_, _, rfl, by decide⟩

/-- An operator does not begin with a blank. -/
theorem not_blank_operator (op : Comparison) (rest : Text) :
    ∀ c ∈ (op.symbol ++ rest).head?, Text.isBlank c = false := by
  obtain ⟨sign, signs, hsigns, hblank, -⟩ := exists_sign op
  simpa [hsigns] using hblank

section Operator

variable {gap : Text} (hgap : ∀ c ∈ gap, Text.isBlank c = true) (op : Comparison) (rest : Text)
include hgap

theorem dropWhile_operator :
    (gap ++ (op.symbol ++ rest)).dropWhile Text.isBlank = op.symbol ++ rest :=
  dropWhile_gap hgap (not_blank_operator op rest)

theorem head?_operator : ∀ c ∈ (gap ++ (op.symbol ++ rest)).head?, isNameChar c = false := by
  obtain ⟨sign, signs, hsigns, -, hname, -⟩ := exists_sign op
  cases gap with
  | nil => simpa [hsigns] using hname
  | cons c gap => simpa using isNameChar_of_isBlank (hgap c (by simp))

/-- A list of values begins with a word where a comparison has its operator. -/
theorem not_list_operator : ¬ " in [".toList <+: gap ++ (op.symbol ++ rest) := by
  obtain ⟨sign, signs, hsigns, -, -, -, hword⟩ := exists_sign op
  rintro ⟨more, hmore⟩
  have hpast := dropWhile_operator hgap op rest
  rw [← hmore, hsigns] at hpast
  exact hword (List.cons.inj hpast).1.symm

/-- A column and an operator begin no leading form. -/
theorem leading?_operator (column : ColumnName) :
    Predicate.leading? (column.text ++ (gap ++ (op.symbol ++ rest))) = none := by
  obtain ⟨sign, signs, hsigns, -, -, hopen, hword⟩ := exists_sign op
  have hpast := dropWhile_operator hgap op rest
  rw [hsigns] at hpast
  refine leading?_of_column column (head?_operator hgap op rest) (fun hopens => ?_)
    (fun _ => not_list_operator hgap op rest) fun hwhole => ?_
  · obtain ⟨more, hmore⟩ := List.head?_eq_some_iff.1 hopens
    rw [hsigns] at hmore
    rw [hmore] at hpast
    exact hopen (List.cons.inj hpast).1.symm
  · rw [hsigns] at hwhole
    rw [hwhole] at hpast
    exact hword (List.cons.inj hpast).1.symm

/-- What an operator stands in lacks the reserved words that its literal lacks. -/
theorem not_infix_operator {word : Text} (hword : word ∈ reserved) (h : ¬ word <:+: rest) :
    ¬ word <:+: gap ++ (op.symbol ++ rest) := by
  have hsymbol : ∀ c ∈ op.symbol, c ∉ word := by
    refine not_mem_reserved ?_ hword
    cases op <;> decide
  exact Text.not_infix_append_left (not_mem_reserved_of_isBlank hgap hword)
    (Text.not_infix_append_left hsymbol h)

end Operator

/-- A text without a bar is not split at bars. -/
theorem not_infix_orSign {text : Text} (h : '|' ∉ text) : ¬ orSign <:+: text :=
  fun hoccurs => h (hoccurs.subset (by decide))

/-- A column, some blanks, an operator, some blanks and a literal are read as that comparison,
whatever else the literal holds. -/
theorem parse_comparison (column : ColumnName) {gap gap' value : Text} (op : Comparison)
    (hgap : ∀ c ∈ gap, Text.isBlank c = true) (hgap' : ∀ c ∈ gap', Text.isBlank c = true)
    (hne : value ≠ []) (hfirst : ∀ c ∈ value.head?, Text.isBlank c = false)
    (hline : '\n' ∉ value) (hbar : '|' ∉ value) (hand : ¬ "AND".toList <:+: value)
    (hop : op = .gt ∨ op = .lt → (gap' ++ value).head? ≠ some '=') :
    parse (column.text ++ (gap ++ (op.symbol ++ (gap' ++ value)))) =
      atom (.compare column.text op.symbol (unquote value)) := by
  obtain ⟨rest, hrest⟩ : ∃ rest, rest = gap' ++ value := ⟨_, rfl⟩
  have hoperand : Predicate.operand? rest = some (unquote value) := by
    rw [hrest]
    exact operand?_append hgap' hne hfirst hline
  have hlacks : ∀ word ∈ reserved, ¬ word <:+: value → ¬ word <:+: rest := by
    intro word hword hvalue
    rw [hrest]
    exact Text.not_infix_append_left (not_mem_reserved_of_isBlank hgap' hword) hvalue
  rw [← hrest] at hop ⊢
  have hsplit := splitName?_column column (head?_operator hgap op rest)
  have hmember : Predicate.memberOf? (column.text ++ (gap ++ (op.symbol ++ rest))) = none := by
    rw [Option.eq_none_iff_forall_ne_some]
    intro predicate h
    obtain ⟨_, _, values, hother, hvalues, -⟩ := Predicate.memberOf?_eq_some_iff.1 h
    obtain ⟨-, rfl⟩ := Prod.mk.inj (Option.some.inj (hsplit.symm.trans hother))
    obtain ⟨body, -, htext, -⟩ := Predicate.bracketed?_eq_some_iff.1 hvalues
    exact not_list_operator hgap op rest ⟨_, htext.symm⟩
  have hcompare : Predicate.compare? (column.text ++ (gap ++ (op.symbol ++ rest))) =
      some (.compare column.text op.symbol (unquote value)) := by
    refine Predicate.compare?_eq_some_iff.2 ⟨_, _, _, _, hsplit, ?_, rfl⟩
    rw [dropWhile_operator hgap op rest]
    exact comparison?_symbol_append op hoperand hop
  have hbars : '|' ∉ column.text ++ (gap ++ (op.symbol ++ rest)) := by
    have hbar' : ¬ ['|'] <:+: value := fun h => hbar ((List.singleton_infix_iff _ _).1 h)
    have hafter := not_infix_operator hgap op rest (show ['|'] ∈ reserved by decide)
      (hlacks _ (by decide) hbar')
    rw [List.singleton_infix_iff] at hafter
    rw [List.mem_append, not_or]
    exact ⟨column.not_mem (by decide), hafter⟩
  have hword := not_infix_andSign_of_column column
    (not_infix_operator hgap op rest (show "AND".toList ∈ reserved by decide)
      (hlacks _ (by decide) hand))
  refine parse_of_trailing (leading?_operator hgap op rest column) hword
    (not_infix_orSign hbars) ?_
  rw [Predicate.trailing?, hmember, hcompare]
  rfl

/-! ## Lists of values -/

/-- A column and a list of values are read as that, unless the list is one of full names or a
connective is found in it. -/
theorem parse_list (column : ColumnName) {body : Text} (hname : column.text ≠ "full_name".toList)
    (hline : '\n' ∉ body) (hand : ¬ andSign <:+: body) (hor : ¬ orSign <:+: body) :
    parse (column.text ++ (" in [".toList ++ (body ++ [']']))) =
      atom (.memberOf column.text (literals body)) := by
  have hrest : ∀ c ∈ (" in [".toList ++ (body ++ [']'])).head?, isNameChar c = false := by
    intro c hc
    obtain rfl := Option.some.inj hc
    decide
  have hleading : Predicate.leading? (column.text ++ (" in [".toList ++ (body ++ [']']))) = none :=
    leading?_of_column column hrest (by simp) (fun heq => absurd heq hname) (by simp)
  -- Brackets belong to no connective, so one would be in the name or in the list.
  have hlacks : ∀ sign : Text, '[' ∉ sign → ']' ∉ sign → ¬ sign <:+: column.text ++ " in ".toList →
      ¬ sign <:+: body → ¬ sign <:+: column.text ++ (" in [".toList ++ (body ++ [']'])) := by
    intro sign hopen hclose hleft hbody hoccurs
    have hsides : column.text ++ (" in [".toList ++ (body ++ [']'])) =
        (column.text ++ " in ".toList) ++ '[' :: (body ++ ']' :: []) := by simp
    rw [hsides, Text.infix_append_cons_iff hopen, Text.infix_append_cons_iff hclose] at hoccurs
    rcases hoccurs with hoccurs | hoccurs | hoccurs
    · exact hleft hoccurs
    · exact hbody hoccurs
    · rw [List.infix_nil] at hoccurs
      exact hbody (hoccurs ▸ List.nil_infix)
  have hand' := hlacks andSign (by decide) (by decide)
    (not_infix_andSign_of_column column (by decide)) hand
  have hbars : '|' ∉ column.text ++ " in ".toList := by
    have hcolumn : '|' ∉ column.text := column.not_mem (by decide)
    simpa using hcolumn
  have hor' := hlacks orSign (by decide) (by decide) (not_infix_orSign hbars) hor
  refine parse_of_trailing hleading hand' hor' ?_
  have hmember : Predicate.memberOf? (column.text ++ (" in [".toList ++ (body ++ [']']))) =
      some (.memberOf column.text (literals body)) :=
    Predicate.memberOf?_eq_some_iff.2 ⟨_, _, _, splitName?_column column hrest,
      Predicate.bracketed?_eq_some_iff.2 ⟨body, hline, rfl, rfl⟩, rfl⟩
  rw [Predicate.trailing?, hmember]
  rfl

end RiskTally.Expression
