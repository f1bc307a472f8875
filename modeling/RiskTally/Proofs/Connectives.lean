import Mathlib.Data.List.Infix
import RiskTally.Proofs.TwoLevels

/-!
# Connectives between written predicates

Two predicates that are written out and joined by ` AND ` or ` || ` select the rows that
both, or one of them, would select.  There are two exceptions.  A list of full names and
a text that ends in a bracket are read as one long list.  And ` || ` before a column that
is called `AND` makes that name a connective.

What the proof needs of a predicate is little (`Standalone`): it is trimmed, holds no
bar, has no word `AND` after its first word, closes what it opens and says more than
`full_name in`.  Every form of a predicate has this, and any two texts that have it can
be joined.

## Main results

* `Expression.Written.standalone`: the six forms of a predicate are standalone.
* `Expression.leading?_joined`: two joined texts are none of the leading forms.
* `Expression.parse_and`, `Expression.parse_or`: a text of two parts is read as two.
* `Expression.evaluate_connectives`: the masks of joined predicates.
-/

namespace RiskTally.Expression

/-! ## Written predicates -/

/-- The name of a column that an expression can ask for. -/
structure ColumnName where
  text : Text
  ne_nil : text ≠ []
  chars : ∀ c ∈ text, isNameChar c = true

/-- A literal that needs no care. -/
structure Literal where
  text : Text
  ne_nil : text ≠ []
  trimmed : Text.trim text = text
  plain : ∀ c ∈ text, c ∉ ['\n', ',', '"', '\'', '[', ']', '(', ')', '|']
  noAnd : ¬ "AND".toList <:+: text

/-- How a literal is quoted. -/
inductive Quoting where
  | bare
  | single
  | double
  deriving DecidableEq, Repr

/-- What stands on both sides of a quoted literal. -/
def Quoting.mark : Quoting → Text
  | bare => []
  | single => ['\'']
  | double => ['"']

/-- The text in quotes. -/
def Quoting.around (quoting : Quoting) (text : Text) : Text :=
  quoting.mark ++ text ++ quoting.mark

/-- A literal as it is written: after some spaces, perhaps in quotes. -/
structure Item where
  spaces : Nat
  quoting : Quoting
  literal : Literal

/-- The written literal. -/
def Item.text (item : Item) : Text :=
  List.replicate item.spaces ' ' ++ item.quoting.around item.literal.text

/-- The written literals with commas between them. -/
def listText (items : List Item) : Text :=
  [','].intercalate (items.map Item.text)

/-- A predicate in one of its six forms. -/
inductive Written where
  | duplicate (column : ColumnName)
  | highlyVaried (column : ColumnName)
  | nameIn (items : List Item)
  | present (column : ColumnName)
  | memberOf (column : ColumnName) (items : List Item)
  | compare (column : ColumnName) (spaces : Nat) (op : Comparison) (item : Item)

/-- The predicate as it is written. -/
def Written.text : Written → Text
  | duplicate column => "duplicate(".toList ++ column.text ++ [')']
  | highlyVaried column => "high_cardinality(".toList ++ column.text ++ [')']
  | nameIn items => "full_name".toList ++ " in [".toList ++ listText items ++ [']']
  | present column => column.text ++ " is not null".toList
  | memberOf column items => column.text ++ " in [".toList ++ listText items ++ [']']
  | compare column spaces op item =>
    column.text ++ List.replicate spaces ' ' ++ op.symbol ++ item.text

/-! ## Words between spaces -/

/-- A connective stands between two spaces, so it is a word that is neither the first
nor the last one. -/
theorem mem_inner_words {word text : Text} (hword : ' ' ∉ word)
    (h : ' ' :: word ++ [' '] <:+: text) : word ∈ (text.splitOn ' ').tail.dropLast := by
  obtain ⟨before, after, rfl⟩ := h
  have hsplit : before ++ (' ' :: word ++ [' ']) ++ after =
      before ++ ' ' :: (word ++ ' ' :: after) := by simp
  rw [hsplit, List.splitOn_append_cons_self, List.splitOn_append_cons_self_of_not_mem hword]
  have hbefore := List.splitOn_ne_nil ' ' before
  have hafter := List.splitOn_ne_nil ' ' after
  rw [List.tail_append_of_ne_nil hbefore, List.dropLast_append_of_ne_nil (by simp),
    List.dropLast_cons_of_ne_nil hafter]
  simp

/-- A word that the rest of a text lacks is at most the first word of the text. -/
theorem not_mem_tail_words {word lead rest : Text} (hlead : ' ' ∉ lead)
    (hrest : ¬ word <:+: rest) : word ∉ ((lead ++ rest).splitOn ' ').tail := by
  by_cases hspace : ' ' ∈ rest
  · obtain ⟨first, others, rfl, hfirst⟩ := List.eq_append_cons_of_mem hspace
    have hlead' : ' ' ∉ lead ++ first := by simp [hlead, hfirst]
    rw [← List.append_assoc, List.splitOn_append_cons_self_of_not_mem hlead', List.tail_cons]
    intro hword
    have hothers := Text.infix_of_mem_splitOn hword
    exact hrest (List.infix_append_of_infix_right (List.infix_cons hothers))
  · have hwhole : ' ' ∉ lead ++ rest := by simp [hlead, hspace]
    rw [List.splitOn_eq_singleton hwhole]
    simp

/-! ## Texts that can be joined -/

/-- What joining asks of a text. -/
structure Standalone (text : Text) : Prop where
  trimmed : Text.trim text = text
  noBar : '|' ∉ text
  /-- Only the first word may be `AND`. -/
  noAnd : "AND".toList ∉ (text.splitOn ' ').tail
  closed : '(' ∈ text → ')' ∈ text
  /-- The text is not the beginning of a list of names. -/
  telling : ∃ c ∈ text, c ∉ "full_name in ".toList

/-- The first text begins a list of full names and the second ends in a bracket: with
anything between them they are read as one list. -/
def OneNameList (a b : Text) : Prop :=
  "full_name in [".toList <+: a ∧ [']'] <:+ b

instance (a b : Text) : Decidable (OneNameList a b) :=
  inferInstanceAs (Decidable (_ ∧ _))

/-! ## The parts of a written predicate -/

theorem ColumnName.not_mem {c : Char} (hc : isNameChar c = false) (column : ColumnName) :
    c ∉ column.text := by
  intro h
  rw [column.chars c h] at hc
  contradiction

theorem ColumnName.trimmed (column : ColumnName) : Text.trim column.text = column.text :=
  Text.trimOf_eq_self_of_forall fun c hc => isBlank_of_isNameChar (column.chars c hc)

/-- What stands nowhere in a written predicate but at its beginning. -/
def reserved : List Text :=
  ["|".toList, "(".toList, "AND".toList]

theorem reserved_ne_nil : ∀ word ∈ reserved, word ≠ [] := by decide

/-- Characters of no reserved word are in none. -/
theorem not_mem_reserved {text : Text} (h : ∀ c ∈ text, c ∉ ['|', '(', 'A', 'N', 'D'])
    {word : Text} (hword : word ∈ reserved) : ∀ c ∈ text, c ∉ word := by
  have hchars : ∀ word ∈ reserved, ∀ c ∈ word, c ∈ ['|', '(', 'A', 'N', 'D'] := by decide
  intro c hc hmem
  exact h c hc (hchars word hword c hmem)

/-- A literal lacks every reserved word. -/
theorem Literal.not_infix {word : Text} (hword : word ∈ reserved) (literal : Literal) :
    ¬ word <:+: literal.text := by
  have hplain : ∀ c ∈ ['|', '('], ¬ [c] <:+: literal.text := by
    intro c hc hoccurs
    have hforbidden := literal.plain c ((List.singleton_infix_iff _ _).1 hoccurs)
    simp only [List.mem_cons, List.not_mem_nil, or_false] at hc
    rcases hc with rfl | rfl <;> simp at hforbidden
  simp only [reserved, List.mem_cons, List.not_mem_nil, or_false] at hword
  rcases hword with rfl | rfl | rfl
  · exact hplain '|' (by decide)
  · exact hplain '(' (by decide)
  · exact literal.noAnd

/-- A literal in quotes begins and ends with no blank. -/
theorem trim_around (quoting : Quoting) (literal : Literal) :
    Text.trim (quoting.around literal.text) = quoting.around literal.text := by
  have hquoted : ∀ mark : Text, mark ≠ [] → Text.trim mark = mark →
      Text.trim (mark ++ literal.text ++ mark) = mark ++ literal.text ++ mark :=
    fun mark hne htrim => Text.trimOf_append htrim htrim hne hne literal.text
  cases quoting with
  | bare => simpa [Quoting.around, Quoting.mark] using literal.trimmed
  | single => exact hquoted _ (by decide) (by decide)
  | double => exact hquoted _ (by decide) (by decide)

theorem around_ne_nil (quoting : Quoting) (literal : Literal) :
    quoting.around literal.text ≠ [] := by
  simp [Quoting.around, literal.ne_nil]

theorem not_mem_spaces {word : Text} (hword : word ∈ reserved) (spaces : Nat) :
    ∀ c ∈ List.replicate spaces ' ', c ∉ word := by
  refine not_mem_reserved (fun c hc => ?_) hword
  rw [List.eq_of_mem_replicate hc]
  decide

/-- A written literal lacks every reserved word. -/
theorem Item.not_infix {word : Text} (hword : word ∈ reserved) (item : Item) :
    ¬ word <:+: item.text := by
  have hmark : ∀ c ∈ item.quoting.mark, c ∉ word := by
    refine not_mem_reserved ?_ hword
    cases item.quoting <;> decide
  have hquoted : ¬ word <:+: item.quoting.around item.literal.text :=
    Text.not_infix_append_right (Text.not_infix_append_left hmark (item.literal.not_infix hword))
      hmark
  exact Text.not_infix_append_left (not_mem_spaces hword item.spaces) hquoted

/-- A written list lacks every reserved word. -/
theorem not_infix_listText {word : Text} (hword : word ∈ reserved) (items : List Item) :
    ¬ word <:+: listText items := by
  have hcomma : ∀ c ∈ [','], c ∉ word := not_mem_reserved (by decide) hword
  refine Text.not_infix_intercalate (reserved_ne_nil word hword) (hcomma ',' (by simp)) ?_
  intro part hpart
  obtain ⟨item, -, rfl⟩ := List.mem_map.1 hpart
  exact item.not_infix hword

/-! ## The six forms are standalone -/

/-- A function and its argument. -/
theorem standalone_call {lead : Text} (htrim : Text.trim lead = lead) (hopen : '(' ∈ lead)
    (hspace : ' ' ∉ lead) (hbar : '|' ∉ lead) (column : ColumnName) :
    Standalone (lead ++ column.text ++ [')']) where
  trimmed := Text.trimOf_append htrim (by decide) (List.ne_nil_of_mem hopen) (by decide) _
  noBar := by
    have hcolumn := column.not_mem (show isNameChar '|' = false by decide)
    simp [hbar, hcolumn]
  noAnd := by
    have hcolumn := column.not_mem (show isNameChar ' ' = false by decide)
    have hwhole : ' ' ∉ lead ++ column.text ++ [')'] := by simp [hspace, hcolumn]
    rw [List.splitOn_eq_singleton hwhole]
    simp
  closed _ := by simp
  telling := ⟨'(', by simp [hopen], by decide⟩

/-- A column and what is asked of it, without a reserved word. -/
theorem standalone_of_column (column : ColumnName) (rest : Text) {last : Text}
    (htrim : Text.trim last = last) (hlast : last ≠ [])
    (hreserved : ∀ word ∈ reserved, ¬ word <:+: rest ++ last)
    (htelling : ∃ c ∈ rest ++ last, c ∉ "full_name in ".toList) :
    Standalone (column.text ++ (rest ++ last)) := by
  have hlacks : ∀ c, [c] ∈ reserved → isNameChar c = false →
      c ∉ column.text ++ (rest ++ last) := by
    intro c hc hname hmem
    rcases List.mem_append.1 hmem with hcolumn | hrest
    · exact column.not_mem hname hcolumn
    · exact hreserved [c] hc ((List.singleton_infix_iff _ _).2 hrest)
  have hspace : ' ' ∉ column.text := column.not_mem (by decide)
  have hwhole := Text.trimOf_append column.trimmed htrim column.ne_nil hlast rest
  rw [List.append_assoc] at hwhole
  obtain ⟨c, hc, htells⟩ := htelling
  exact
    { trimmed := hwhole
      noBar := hlacks '|' (by decide) (by decide)
      noAnd := not_mem_tail_words hspace (hreserved _ (by decide))
      closed := fun hopen => absurd hopen (hlacks '(' (by decide) (by decide))
      telling := ⟨c, List.mem_append_right _ hc, htells⟩ }

/-- A column and a list of literals. -/
theorem standalone_list (column : ColumnName) (items : List Item) :
    Standalone (column.text ++ " in [".toList ++ listText items ++ [']']) := by
  have hreserved : ∀ word ∈ reserved,
      ¬ word <:+: " in [".toList ++ listText items ++ [']'] := by
    intro word hword
    have hlead : ∀ c ∈ " in [".toList, c ∉ word := not_mem_reserved (by decide) hword
    have hlast : ∀ c ∈ [']'], c ∉ word := not_mem_reserved (by decide) hword
    have hitems := Text.not_infix_append_left hlead (not_infix_listText hword items)
    exact Text.not_infix_append_right hitems hlast
  have hwhole := standalone_of_column column (" in [".toList ++ listText items)
    (show Text.trim [']'] = [']'] by decide) (by decide) hreserved ⟨'[', by simp, by decide⟩
  rwa [← List.append_assoc, ← List.append_assoc] at hwhole

/-- A column, an operator and a literal. -/
theorem standalone_compare (column : ColumnName) (spaces : Nat) (op : Comparison) (item : Item) :
    Standalone (column.text ++ List.replicate spaces ' ' ++ op.symbol ++ item.text) := by
  have hop : ∃ c ∈ op.symbol, c ∉ "full_name in ".toList := by
    cases op <;> decide
  have hreserved : ∀ word ∈ reserved,
      ¬ word <:+: List.replicate spaces ' ' ++ op.symbol ++ item.text := by
    intro word hword
    have hsymbol : ∀ c ∈ op.symbol, c ∉ word := by
      refine not_mem_reserved ?_ hword
      cases op <;> decide
    have hrest := Text.not_infix_append_left hsymbol (item.not_infix hword)
    rw [List.append_assoc]
    exact Text.not_infix_append_left (not_mem_spaces hword spaces) hrest
  have hsplit : List.replicate spaces ' ' ++ op.symbol ++ item.text =
      List.replicate spaces ' ' ++ op.symbol ++ List.replicate item.spaces ' ' ++
        item.quoting.around item.literal.text := by
    rw [Item.text, List.append_assoc, List.append_assoc, List.append_assoc]
  obtain ⟨c, hc, htells⟩ := hop
  rw [hsplit] at hreserved
  have hwhole := standalone_of_column column _ (trim_around item.quoting item.literal)
    (around_ne_nil _ _) hreserved ⟨c, by simp [hc], htells⟩
  rw [← hsplit] at hwhole
  rwa [← List.append_assoc, ← List.append_assoc] at hwhole

/-- The name under which lists of persons are asked for. -/
def fullName : ColumnName where
  text := "full_name".toList
  ne_nil := by decide
  chars := by decide

/-- Every written predicate can be joined. -/
theorem Written.standalone (written : Written) : Standalone written.text := by
  cases written with
  | duplicate column =>
      exact standalone_call (by decide) (by decide) (by decide) (by decide) column
  | highlyVaried column =>
      exact standalone_call (by decide) (by decide) (by decide) (by decide) column
  | nameIn items => exact standalone_list fullName items
  | present column =>
      exact standalone_of_column column " is not ".toList
        (show Text.trim "null".toList = "null".toList by decide) (by decide) (by decide)
        ⟨'t', by decide, by decide⟩
  | memberOf column items => exact standalone_list column items
  | compare column spaces op item => exact standalone_compare column spaces op item

/-! ## Joined texts are no leading form -/

theorem Standalone.ne_nil {text : Text} (h : Standalone text) : text ≠ [] := by
  obtain ⟨c, hc, -⟩ := h.telling
  exact List.ne_nil_of_mem hc

/-- The first text closes what it opens, so that more can follow no argument. -/
theorem argument?_joined {a : Text} (ha : Standalone a) {function : Text}
    (hspace : ' ' ∉ function) (hclosing : ')' ∉ function) (more : Text) :
    Predicate.argument? function (a ++ ' ' :: more) = none := by
  rw [Option.eq_none_iff_forall_ne_some]
  intro argument h
  obtain ⟨body, -, hbody, htext, -⟩ := Predicate.argument?_eq_some_iff.1 h
  have hopening : function ++ ['('] <+: a ++ ' ' :: more := ⟨_, htext.symm⟩
  obtain ⟨rest, rfl⟩ := Text.prefix_of_prefix_append_cons (by simp [hspace]) hopening
  have hclosed : ')' ∈ rest := by
    have hmem := ha.closed (by simp)
    simpa [hclosing] using hmem
  have hrest : rest ++ ' ' :: more = body ++ [')'] := by
    rw [List.append_assoc (function ++ ['('])] at htext
    exact List.append_cancel_left htext
  have hdrop := congrArg List.dropLast hrest
  rw [List.dropLast_append_of_ne_nil (by simp), List.dropLast_concat] at hdrop
  exact hbody (hdrop ▸ List.mem_append_left _ hclosed)

/-- The first text says more than the beginning of a list of names.  So it begins that
list itself, and the second text ends it. -/
theorem bracketed?_joined {a b : Text} (ha : Standalone a) (hb : Standalone b) (between : Text)
    (hlists : ¬ OneNameList a b) :
    Predicate.bracketed? "full_name".toList (a ++ between ++ b) = none := by
  rw [Option.eq_none_iff_forall_ne_some]
  intro values h
  obtain ⟨body, -, htext, -⟩ := Predicate.bracketed?_eq_some_iff.1 h
  have hopening : "full_name in [".toList <+: a ++ between ++ b := ⟨_, htext.symm⟩
  have hfirst : a <+: a ++ between ++ b := by
    rw [List.append_assoc]
    exact List.prefix_append ..
  have hlast : [']'] <:+ b := by
    have hwhole : [']'] <:+ a ++ between ++ b := by
      rw [htext, ← List.append_assoc]
      exact List.suffix_append ..
    exact List.suffix_of_suffix_length_le hwhole (List.suffix_append ..)
      (List.length_pos_iff.2 hb.ne_nil)
  have hbegins : "full_name in [".toList <+: a := by
    rcases List.prefix_or_prefix_of_prefix hopening hfirst with hopens | hwithin
    · exact hopens
    · have hsplit : "full_name in [".toList = "full_name in ".toList ++ ['['] := by decide
      rw [hsplit, List.prefix_concat_iff, ← hsplit] at hwithin
      rcases hwithin with rfl | hwithin
      · exact List.prefix_rfl
      · obtain ⟨c, hc, htells⟩ := ha.telling
        exact absurd (hwithin.subset hc) htells
  exact hlists ⟨hbegins, hlast⟩

/-- The connective is a word that no question for a value has. -/
theorem present?_joined {a b sign : Text} (hspace : ' ' ∉ sign)
    (hsign : sign ∉ ["is".toList, "not".toList, "null".toList]) :
    Predicate.present? (a ++ (' ' :: sign ++ [' ']) ++ b) = none := by
  rw [Option.eq_none_iff_forall_ne_some]
  intro predicate h
  obtain ⟨column, hsplit, -⟩ := Predicate.present?_eq_some_iff.1 h
  obtain ⟨-, hname, -, htext⟩ := splitName?_eq_some_iff.1 hsplit
  have hcolumn : ' ' ∉ column := fun hmem => absurd (hname ' ' hmem) (by decide)
  have hwords : ((a ++ (' ' :: sign ++ [' ']) ++ b).splitOn ' ').tail =
      ["is".toList, "not".toList, "null".toList] := by
    have hrest : " is not null".toList = ' ' :: "is not null".toList := by decide
    rw [htext, hrest, List.splitOn_append_cons_self_of_not_mem hcolumn, List.tail_cons]
    decide
  have hinner := mem_inner_words hspace (List.infix_append a (' ' :: sign ++ [' ']) b)
  rw [hwords] at hinner
  exact hsign (List.mem_of_mem_dropLast hinner)

/-- Two joined texts are no leading form, unless they are read as one list of names. -/
theorem leading?_joined {a b : Text} (ha : Standalone a) (hb : Standalone b) (sign : Text)
    (hspace : ' ' ∉ sign) (hsign : sign ∉ ["is".toList, "not".toList, "null".toList])
    (hlists : ¬ OneNameList a b) :
    Predicate.leading? (a ++ (' ' :: sign ++ [' ']) ++ b) = none := by
  have hcall : ∀ function : Text, ' ' ∉ function → ')' ∉ function →
      Predicate.argument? function (a ++ (' ' :: sign ++ [' ']) ++ b) = none := by
    intro function hblank hclosing
    rw [List.append_assoc, List.cons_append, List.cons_append]
    exact argument?_joined ha hblank hclosing _
  rw [Predicate.leading?, hcall _ (by decide) (by decide), hcall _ (by decide) (by decide),
    bracketed?_joined ha hb _ hlists, present?_joined hspace hsign]
  rfl

/-! ## Joined texts are read as two -/

/-- Where the sign of a conjunction occurs, `AND` is an inner word. -/
theorem mem_inner_words_of_andSign {text : Text} (h : andSign <:+: text) :
    "AND".toList ∈ (text.splitOn ' ').tail.dropLast := by
  have hspaced : ' ' :: "AND".toList ++ [' '] <:+: text := h
  exact mem_inner_words (by decide) hspaced

/-- The sign of a conjunction is not in a text that can be joined. -/
theorem Standalone.not_infix_andSign {text : Text} (h : Standalone text) :
    ¬ andSign <:+: text := by
  intro hoccurs
  exact h.noAnd (List.mem_of_mem_dropLast (mem_inner_words_of_andSign hoccurs))

/-- The first sign of a conjunction is the one that joins. -/
theorem cutAt_andSign {a b : Text} (ha : Standalone a) (hb : Standalone b) :
    Text.cutAt andSign (a ++ andSign ++ b) = [a, b] := by
  have hfirst : ¬ andSign <:+: a ++ andSign.dropLast := by
    intro hoccurs
    have hinner := mem_inner_words_of_andSign hoccurs
    have hdrop : andSign.dropLast = ' ' :: "AND".toList := by decide
    have hword : "AND".toList.splitOn ' ' = ["AND".toList] := by decide
    rw [hdrop, List.splitOn_append_cons_self, hword,
      List.tail_append_of_ne_nil (List.splitOn_ne_nil _ _), List.dropLast_concat] at hinner
    exact ha.noAnd hinner
  rw [Text.cutAt_append andSign_ne_nil hfirst, Text.cutAt_eq_singleton hb.not_infix_andSign]

/-- Before the bars that a text ends in nothing is cut. -/
theorem not_infix_orSign_dropLast {text : Text} (h : '|' ∉ text) :
    ¬ orSign <:+: text ++ orSign.dropLast := by
  intro hoccurs
  have hcount := hoccurs.sublist.count_le '|'
  rw [List.count_append, List.count_eq_zero.2 h] at hcount
  revert hcount
  decide

/-- The only bars in two texts that are joined by bars are those. -/
theorem cutAt_orSign {a b : Text} (ha : Standalone a) (hb : Standalone b) :
    Text.cutAt orSign (a ++ [' '] ++ orSign ++ (' ' :: b)) = [a ++ [' '], ' ' :: b] := by
  have hbefore : '|' ∉ a ++ [' '] := by simp [ha.noBar]
  have hafter : '|' ∉ ' ' :: b := by simp [hb.noBar]
  have hsecond : ¬ orSign <:+: ' ' :: b :=
    fun hoccurs => hafter (hoccurs.subset (by decide))
  rw [Text.cutAt_append orSign_ne_nil (not_infix_orSign_dropLast hbefore),
    Text.cutAt_eq_singleton hsecond]

/-- Bars do not make a conjunction, unless they stand before a word `AND`. -/
theorem not_infix_andSign_joined {a b : Text} (ha : Standalone a) (hb : Standalone b)
    (hand : ¬ "AND ".toList <+: b) : ¬ andSign <:+: a ++ " || ".toList ++ b := by
  intro hoccurs
  have hinner := mem_inner_words_of_andSign hoccurs
  have hsplit : a ++ " || ".toList ++ b = a ++ ' ' :: ("||".toList ++ ' ' :: b) := by simp
  obtain ⟨first, others, hwords⟩ := List.exists_cons_of_ne_nil (List.splitOn_ne_nil ' ' b)
  rw [hsplit, List.splitOn_append_cons_self,
    List.splitOn_append_cons_self_of_not_mem (by decide),
    List.tail_append_of_ne_nil (List.splitOn_ne_nil _ _),
    List.dropLast_append_of_ne_nil (by simp),
    List.dropLast_cons_of_ne_nil (List.splitOn_ne_nil _ _)] at hinner
  rcases List.mem_append.1 hinner with hmem | hmem
  · exact ha.noAnd hmem
  · rcases List.mem_cons.1 hmem with hbars | hmem
    · exact absurd hbars (by decide)
    · have hlater := hb.noAnd
      rw [hwords] at hmem hlater
      cases others with
      | nil => simp at hmem
      | cons second others =>
          rcases List.mem_cons.1 hmem with rfl | hmem
          · have hwhole : [' '].intercalate (b.splitOn ' ') = b := List.intercalate_splitOn ' '
            rw [hwords, List.intercalate_cons_cons] at hwhole
            exact hand ⟨_, hwhole⟩
          · exact hlater (List.mem_of_mem_dropLast hmem)

theorem parse_and {a b : Text} (ha : Standalone a) (hb : Standalone b)
    (hlists : ¬ OneNameList a b) :
    parse (a ++ " AND ".toList ++ b) = both (parse a) (parse b) := by
  have hleading : Predicate.leading? (a ++ andSign ++ b) = none :=
    leading?_joined ha hb "AND".toList (by decide) (by decide) hlists
  have hparts := cutAt_andSign ha hb
  have hsplit : 1 < (Text.cutAt andSign (a ++ andSign ++ b)).length := by
    rw [hparts]
    exact Nat.one_lt_two
  show parse (a ++ andSign ++ b) = _
  rw [parse_of_and hleading hsplit, hparts]
  rfl

theorem parse_or {a b : Text} (ha : Standalone a) (hb : Standalone b)
    (hlists : ¬ OneNameList a b) (hand : ¬ "AND ".toList <+: b) :
    parse (a ++ " || ".toList ++ b) = either (parse a) (parse b) := by
  have hleading : Predicate.leading? (a ++ " || ".toList ++ b) = none :=
    leading?_joined ha hb "||".toList (by decide) (by decide) hlists
  have hsingle := mt (Text.one_lt_length_cutAt_iff andSign_ne_nil).1
    (not_infix_andSign_joined ha hb hand)
  have htext : a ++ " || ".toList ++ b = a ++ [' '] ++ orSign ++ (' ' :: b) := by
    simp [orSign]
  have hparts := cutAt_orSign ha hb
  rw [← htext] at hparts
  have hsplit : 1 < (Text.cutAt orSign (a ++ " || ".toList ++ b)).length := by
    rw [hparts]
    exact Nat.one_lt_two
  have hfirst : Text.trim (a ++ [' ']) = a :=
    (Text.trimOf_append_right (by decide) a).trans ha.trimmed
  have hsecond : Text.trim (' ' :: b) = b :=
    (Text.trimOf_append_left (show ∀ c ∈ [' '], _ by decide) b).trans hb.trimmed
  rw [parse_of_or hleading hsingle hsplit, hparts, List.map_cons, List.map_singleton, hfirst,
    hsecond]
  rfl

/-! ## Masks of joined predicates -/

/-- Two predicates joined by the sign have the masks of the two, folded row by row. -/
def Joins (context : Context) (sign : Text) (op : Bool → Bool → Bool) (a b : Written) : Prop :=
  ∃ left right, evaluate a.text context = .ok left ∧ left.length = context.rows ∧
    evaluate b.text context = .ok right ∧ right.length = context.rows ∧
    evaluate (a.text ++ sign ++ b.text) context = .ok (List.zipWith op left right)

/-- Where a text is read as two joined expressions, their masks are folded row by row. -/
theorem joins_of_parse {context : Context} (h : context.Rectangular) {a b : Written} {sign : Text}
    {op : Bool → Bool → Bool} {join : Expression → Expression → Expression}
    (hjoin : ∀ left right, (join left right).mask context =
      Mask.zipInto op (left.mask context) (right.mask context))
    (hparse : parse (a.text ++ sign ++ b.text) = join (parse a.text) (parse b.text)) :
    Joins context sign op a b := by
  have ha := a.standalone
  have hb := b.standalone
  have hwhole : Text.trim (a.text ++ sign ++ b.text) = a.text ++ sign ++ b.text :=
    Text.trimOf_append ha.trimmed hb.trimmed ha.ne_nil hb.ne_nil sign
  have hlength : (maskOf context a.text).length = (maskOf context b.text).length :=
    (length_mask h _).trans (length_mask h _).symm
  refine ⟨maskOf context a.text, maskOf context b.text, ?_, length_mask h _, ?_,
    length_mask h _, ?_⟩
  · rw [evaluate_eq_ok h, ha.trimmed]
  · rw [evaluate_eq_ok h, hb.trimmed]
  · rw [evaluate_eq_ok h, hwhole, maskOf, hparse, hjoin, ← Mask.zipInto_eq_zipWith op hlength]
    rfl

/-- Joined by ` AND ` two predicates select the rows that both select, unless the first
begins a list of full names and the second ends in a bracket.  Joined by ` || ` they select
the rows that one of them selects, unless moreover the second begins with the word `AND`. -/
theorem evaluate_connectives {context : Context} (h : context.Rectangular) (a b : Written)
    (hlists : ¬ OneNameList a.text b.text) :
    Joins context " AND ".toList (· && ·) a b ∧
      (¬ "AND ".toList <+: b.text → Joins context " || ".toList (· || ·) a b) := by
  constructor
  · exact joins_of_parse h (fun _ _ => rfl) (parse_and a.standalone b.standalone hlists)
  · intro hand
    exact joins_of_parse h (fun _ _ => rfl) (parse_or a.standalone b.standalone hlists hand)

/-- A person in Rome or Oslo, over two rows. -/
theorem evaluate_connectives_two_rows :
    ∃ (context : Context) (a b : Written), context.Rectangular ∧ context.rows = 2 ∧
      a.text = "City == Rome".toList ∧ b.text = "City in [Oslo, 'Bern']".toList ∧
      Joins context " AND ".toList (· && ·) a b ∧ Joins context " || ".toList (· || ·) a b := by
  let city : ColumnName := ⟨"City".toList, by decide, by decide⟩
  let context : Context :=
    { dataset :=
        { columns := [("City".toList, [.text "Rome".toList, .text "Oslo".toList])]
          sources := List.replicate 2 "a.csv".toList }
      names := ["ANA".toList, "JAN".toList]
      settings := .default }
  have hcontext : context.Rectangular :=
    ⟨by simp [Dataset.Rectangular, Dataset.rows, context], rfl⟩
  let a : Written :=
    .compare city 1 .eq ⟨1, .bare, "Rome".toList, by decide, by decide, by decide, by decide⟩
  let b : Written :=
    .memberOf city [⟨0, .bare, "Oslo".toList, by decide, by decide, by decide, by decide⟩,
      ⟨1, .single, "Bern".toList, by decide, by decide, by decide, by decide⟩]
  have hlists : ¬ OneNameList a.text b.text := by decide
  have hand : ¬ "AND ".toList <+: b.text := by decide
  have h := evaluate_connectives hcontext a b hlists
  exact ⟨context, a, b, hcontext, rfl, rfl, rfl, h.1, h.2 hand⟩

/-- A list of names that another list follows, and a column called `AND`: what joins is
read as something else. -/
theorem not_joins :
    (∃ (context : Context) (a b : Written), context.Rectangular ∧
      a.text ++ " AND ".toList ++ b.text = "full_name in [Ana] AND City in [Rome]".toList ∧
      ¬ Joins context " AND ".toList (· && ·) a b) ∧
    (∃ (context : Context) (a b : Written), context.Rectangular ∧
      a.text ++ " || ".toList ++ b.text = "City == Rome || AND == x".toList ∧
      ¬ Joins context " || ".toList (· || ·) a b) := by
  let rome : Literal := ⟨"Rome".toList, by decide, by decide, by decide, by decide⟩
  let city : ColumnName := ⟨"City".toList, by decide, by decide⟩
  let context : Context :=
    { dataset :=
        { columns :=
            [("City".toList, [.text "Rome".toList, .text "Oslo".toList]),
              ("AND".toList, [.text "x".toList, .text "y".toList])]
          sources := List.replicate 2 "a.csv".toList }
      names := ["ANA".toList, "JAN".toList]
      settings := .default }
  have hcontext : context.Rectangular :=
    ⟨by simp [Dataset.Rectangular, Dataset.rows, context], rfl⟩
  have hevaluate : ∀ text mask, (conjunction (Text.trim text)).mask context = mask →
      evaluate text context = .ok mask := by
    rintro text mask rfl
    rw [evaluate_eq_ok hcontext, maskOf, parse_eq_conjunction]
  -- In both cases each predicate selects the first row, and the joined text selects none.
  have hnone : ∀ {a b : Written} {sign : Text} {op : Bool → Bool → Bool}, op true true = true →
      evaluate a.text context = .ok [true, false] → evaluate b.text context = .ok [true, false] →
      evaluate (a.text ++ sign ++ b.text) context = .ok [false, false] →
      ¬ Joins context sign op a b := by
    rintro a b sign op hop ha hb hjoined ⟨left, right, hleft, -, hright, -, hwhole⟩
    obtain rfl : [true, false] = left := Except.ok.inj (ha.symm.trans hleft)
    obtain rfl : [true, false] = right := Except.ok.inj (hb.symm.trans hright)
    have hfirst := Except.ok.inj (hjoined.symm.trans hwhole)
    simp [hop] at hfirst
  refine ⟨⟨context,
    .nameIn [⟨0, .bare, "Ana".toList, by decide, by decide, by decide, by decide⟩],
    .memberOf city [⟨0, .bare, rome⟩], hcontext, rfl, hnone rfl ?_ ?_ ?_⟩,
    ⟨context, .compare city 1 .eq ⟨1, .bare, rome⟩,
    .compare ⟨"AND".toList, by decide, by decide⟩ 1 .eq
      ⟨1, .bare, "x".toList, by decide, by decide, by decide, by decide⟩,
    hcontext, rfl, hnone rfl ?_ ?_ ?_⟩⟩
  · exact hevaluate _ _ rfl
  · exact hevaluate _ _ rfl
  · exact hevaluate _ _ rfl
  · exact hevaluate _ _ rfl
  · exact hevaluate _ _ rfl
  · exact hevaluate _ _ rfl

end RiskTally.Expression
