import RiskTally.Proofs.AddedFiles
import RiskTally.Proofs.BinaryValues

/-!
# Duplicates

A row is a duplicate in a column if its cell and that of another row have the same key, which is
what the counts of all keys come to.  The key of a cell forgets how a value is held: cells without
a value share one, and numbers share one if their values are equal, whether they are integers or
floating-point numbers.  What makes a row a duplicate are two rows, and files that are added later
change neither of them.

## Main results

* `Cell.key_eq_iff`: which cells have the same key.
* `Expression.selects_duplicateCall`: the rows that share their key with another row.
* `Expression.duplicates_by_value`: the duplicates of a column, also when files are added.
-/

namespace RiskTally

/-! ## The keys of cells -/

namespace Cell

/-- The cell holds a number of this value. -/
def Measures (cell : Cell) (x : ℚ) : Prop :=
  match cell with
  | integer i => (i.toInt : ℚ) = x
  | float f => Binary.Denotes f x
  | _ => False

/-- Cells that count as the same value: two that are the same, two without a value, and two
numbers of one value. -/
inductive Alike : Cell → Cell → Prop
  | same (a : Cell) : Alike a a
  | missing {a b : Cell} (h : a.isMissing = true) (h' : b.isMissing = true) : Alike a b
  | number {a b : Cell} {x : ℚ} (h : a.Measures x) (h' : b.Measures x) : Alike a b

theorem inRange_toInt (i : Int64) : inRange i.toInt = true := by
  have hle := i.le_toInt
  have hlt := i.toInt_lt
  simp only [inRange, Bool.and_eq_true, decide_eq_true_eq]
  omega

/-- The value of a floating-point number is an integer if its magnitude is whole. -/
theorem denotes_intCast_iff {f : Float} {n : Int} :
    Binary.Denotes f n ↔ ∃ negative mantissa exponent magnitude,
      Binary.ofFloat f = .finite negative mantissa exponent ∧
        Binary.whole? mantissa exponent = some magnitude ∧
        Binary.signed negative magnitude = n := by
  constructor
  · rintro ⟨negative, mantissa, exponent, hparts, hvalue⟩
    have hmagnitude := Binary.value_nonneg mantissa exponent
    -- A magnitude is not negative, so that the sign of the integer is that of the number.
    cases negative with
    | true =>
        have hopposite : Binary.value mantissa exponent = (-n : Int) := by
          rw [Int.cast_neg, ← hvalue]
          exact (neg_neg _).symm
        rw [hopposite, Int.cast_nonneg_iff] at hmagnitude
        obtain ⟨magnitude, hnat⟩ := Int.eq_ofNat_of_zero_le hmagnitude
        refine ⟨_, _, _, magnitude, hparts, Binary.whole?_eq_some_iff_value.2 ?_, ?_⟩
        · rw [hopposite, hnat, Int.cast_natCast]
        · rw [← neg_neg n, hnat]
          rfl
    | false =>
        have hsame : Binary.value mantissa exponent = n := hvalue
        rw [hsame, Int.cast_nonneg_iff] at hmagnitude
        obtain ⟨magnitude, rfl⟩ := Int.eq_ofNat_of_zero_le hmagnitude
        exact ⟨_, _, _, magnitude, hparts, Binary.whole?_eq_some_iff_value.2 hsame, rfl⟩
  · rintro ⟨negative, mantissa, exponent, magnitude, hparts, hwhole, rfl⟩
    refine ⟨negative, mantissa, exponent, hparts, ?_⟩
    rw [Binary.signedValue, Binary.whole?_eq_some_iff_value.1 hwhole]
    cases negative <;> simp [Binary.signed]

/-- The key of a number is an integer if its value is an integer of 64 bits. -/
theorem key_eq_integer_iff {a : Cell} {n : Int} :
    a.key = .integer n ↔ a.Measures n ∧ inRange n = true := by
  cases a with
  | integer i =>
      constructor
      · intro h
        obtain rfl := Key.integer.inj h
        exact ⟨rfl, inRange_toInt i⟩
      · rintro ⟨hvalue, -⟩
        exact congrArg Key.integer (Int.cast_inj.1 hvalue)
  | float f =>
      constructor
      · intro h
        simp only [key, floatKey] at h
        split at h
        · contradiction
        · contradiction
        · rename_i negative mantissa exponent hparts
          split at h
          · rename_i value hvalue
            obtain ⟨magnitude, hwhole, rfl⟩ := Option.map_eq_some_iff.1 hvalue
            split at h
            · rename_i hrange
              obtain rfl := Key.integer.inj h
              exact ⟨denotes_intCast_iff.2 ⟨_, _, _, _, hparts, hwhole, rfl⟩, hrange⟩
            · contradiction
          · contradiction
      · rintro ⟨hvalue, hrange⟩
        obtain ⟨negative, mantissa, exponent, magnitude, hparts, hwhole, rfl⟩ :=
          denotes_intCast_iff.1 hvalue
        simp [key, floatKey, hparts, hwhole, hrange]
  | _ => simp [key, Measures]

theorem floatKey_cases (f : Float) :
    floatKey f = .missing ∨ (∃ n, floatKey f = .integer n) ∨
      floatKey f = .float f.toBits.toNat := by
  unfold floatKey
  split
  · exact .inl rfl
  · exact .inr (.inr rfl)
  · split
    · split
      · exact .inr (.inl ⟨_, rfl⟩)
      · exact .inr (.inr rfl)
    · exact .inr (.inr rfl)

/-- A key that is neither missing nor an integer, of a floating-point number. -/
theorem eq_float_of_key_eq {a : Cell} {f : Float} (h : a.key = floatKey f)
    (hmissing : a.key ≠ .missing) (hinteger : ∀ n, a.key ≠ .integer n) : a = float f := by
  have hbits : a.key = .float f.toBits.toNat := by
    rcases floatKey_cases f with hkey | ⟨n, hkey⟩ | hkey
    · exact absurd (h.trans hkey) hmissing
    · exact absurd (h.trans hkey) (hinteger n)
    · exact h.trans hkey
  cases a with
  | float g =>
      rcases floatKey_cases g with hkey | ⟨n, hkey⟩ | hkey
      · exact absurd hkey hmissing
      · exact absurd hkey (hinteger n)
      · have hsame := UInt64.toNat_inj.1 (Key.float.inj (hkey.symm.trans hbits))
        rw [Float.toBits_inj.1 hsame]
  | _ => contradiction

/-- A key that is neither missing nor an integer belongs to one cell. -/
theorem eq_of_key_eq {a b : Cell} (h : a.key = b.key) (hmissing : a.key ≠ .missing)
    (hinteger : ∀ n, a.key ≠ .integer n) : a = b := by
  cases b with
  | float f => exact eq_float_of_key_eq h hmissing hinteger
  | integer i => exact absurd h (hinteger _)
  | null => exact absurd h hmissing
  | text s =>
      cases a with
      | float f => exact (eq_float_of_key_eq h.symm (h ▸ hmissing) (h ▸ hinteger)).symm
      | text t => rw [Key.text.inj h]
      | _ => contradiction
  | boolean value =>
      cases a with
      | float f => exact (eq_float_of_key_eq h.symm (h ▸ hmissing) (h ▸ hinteger)).symm
      | boolean other => rw [Key.boolean.inj h]
      | _ => contradiction

/-- Numbers of one value are one integer or one floating-point number. -/
theorem key_eq_of_measures {a b : Cell} {x : ℚ} (h : a.Measures x) (h' : b.Measures x) :
    a.key = b.key := by
  by_cases hx : ∃ n : Int, (n : ℚ) = x ∧ inRange n = true
  · obtain ⟨n, rfl, hrange⟩ := hx
    rw [key_eq_integer_iff.2 ⟨h, hrange⟩, key_eq_integer_iff.2 ⟨h', hrange⟩]
  · -- Only the two zeros share a value, and zero is an integer.
    have hne : x ≠ 0 := fun hzero => hx ⟨0, by rw [hzero, Int.cast_zero], by decide⟩
    cases a with
    | integer i => exact absurd ⟨_, h, inRange_toInt i⟩ hx
    | float f =>
        cases b with
        | integer i => exact absurd ⟨_, h', inRange_toInt i⟩ hx
        | float g => rw [Binary.Denotes.eq_of_ne_zero h h' hne]
        | _ => contradiction
    | _ => contradiction

/-- Cells have the same key if they count as the same value. -/
theorem key_eq_iff (a b : Cell) : a.key = b.key ↔ a.Alike b := by
  constructor
  · intro h
    by_cases hmissing : a.key = .missing
    · exact .missing ((isMissing_iff_key a).2 hmissing)
        ((isMissing_iff_key b).2 (h.symm.trans hmissing))
    · by_cases hinteger : ∃ n, a.key = .integer n
      · obtain ⟨n, hn⟩ := hinteger
        exact .number (key_eq_integer_iff.1 hn).1 (key_eq_integer_iff.1 (h.symm.trans hn)).1
      · rw [eq_of_key_eq h hmissing (not_exists.1 hinteger)]
        exact .same b
  · rintro (a | ⟨h, h'⟩ | ⟨h, h'⟩)
    · rfl
    · rw [(isMissing_iff_key a).1 h, (isMissing_iff_key b).1 h']
    · exact key_eq_of_measures h h'

end Cell

/-! ## Rows that repeat a value -/

/-- The cell of the row has the same key as that of another row. -/
def Dataset.Repeats (dataset : Dataset) (column : Text) (row : Nat) : Prop :=
  ∃ cell, dataset.cellAt? column row = some cell ∧
    ∃ other, other ≠ row ∧ ∃ cell', dataset.cellAt? column other = some cell' ∧
      cell'.key = cell.key

/-- A value occurs more than once if it occurs in another row. -/
theorem one_lt_count_iff {α : Type} [DecidableEq α] {values : List α} {value : α} {row : Nat}
    (h : values[row]? = some value) :
    1 < values.count value ↔ ∃ other, other ≠ row ∧ values[other]? = some value := by
  rw [← Nat.succ_le_iff, ← List.duplicate_iff_two_le_count,
    List.duplicate_iff_exists_distinct_get]
  constructor
  · rintro ⟨left, right, hlt, hleft, hright⟩
    by_cases hrow : left.val = row
    · refine ⟨right, by omega, ?_⟩
      rw [List.getElem?_eq_getElem right.isLt, hright]
      rfl
    · refine ⟨left, hrow, ?_⟩
      rw [List.getElem?_eq_getElem left.isLt, hleft]
      rfl
  · rintro ⟨other, hne, hother⟩
    obtain ⟨hrow, hvalue⟩ := List.getElem?_eq_some_iff.1 h
    obtain ⟨hother, hvalue'⟩ := List.getElem?_eq_some_iff.1 hother
    rcases Nat.lt_or_gt_of_ne hne with hlt | hlt
    · exact ⟨⟨other, hother⟩, ⟨row, hrow⟩, hlt, hvalue'.symm, hvalue.symm⟩
    · exact ⟨⟨row, hrow⟩, ⟨other, hother⟩, hlt, hvalue.symm, hvalue'.symm⟩

/-- The cells of the first files stay where they are when files are added. -/
theorem Dataset.cellAt?_concat_append {files : List (Text × Frame)} {column : Text} {row : Nat}
    {cell : Cell} (h : (concat files).cellAt? column row = some cell)
    (more : List (Text × Frame)) : (concat (files ++ more)).cellAt? column row = some cell := by
  rw [cellAt?, column?_concat] at h ⊢
  by_cases hcolumn : column = sourceColumn ∨ column ∈ unionNames files
  · have hwhole : column = sourceColumn ∨ column ∈ unionNames (files ++ more) := by
      refine hcolumn.imp_right fun hmem => ?_
      obtain ⟨hsource, file, hfile, hkeys⟩ := mem_unionNames.1 hmem
      exact mem_unionNames.2 ⟨hsource, file, List.mem_append_left _ hfile, hkeys⟩
    rw [if_pos hcolumn, Option.bind_some] at h
    obtain ⟨hlt, -⟩ := List.getElem?_eq_some_iff.1 h
    rw [if_pos hwhole, Option.bind_some, List.flatMap_append, List.getElem?_append_left hlt, h]
  · rw [if_neg hcolumn] at h
    contradiction

/-- A row that repeats a value does so whatever files are added. -/
theorem Dataset.repeats_concat_append {files : List (Text × Frame)} {column : Text} {row : Nat}
    (h : (concat files).Repeats column row) (more : List (Text × Frame)) :
    (concat (files ++ more)).Repeats column row := by
  obtain ⟨cell, hcell, other, hne, cell', hcell', hkey⟩ := h
  exact ⟨cell, cellAt?_concat_append hcell more, other, hne, cell',
    cellAt?_concat_append hcell' more, hkey⟩

namespace Expression

/-- A call of `duplicate`. -/
def duplicateCall (column : Text) : Text :=
  "duplicate(".toList ++ column ++ [')']

section Called

variable {column : Text} (hname : column ≠ []) (htrimmed : Text.trim column = column)
  (hclosing : ')' ∉ column)
include hname htrimmed hclosing

theorem parse_duplicateCall :
    parse (Text.trim (duplicateCall column)) = atom (.duplicate column) := by
  have htrim : Text.trim (duplicateCall column) = duplicateCall column :=
    Text.trimOf_append (by decide) (by decide) (by decide) (by decide) column
  have htext : duplicateCall column = "duplicate".toList ++ ['('] ++ (column ++ [')']) := by
    rw [← List.append_assoc]
    rfl
  have hargument : Predicate.argument? "duplicate".toList (duplicateCall column) = some column :=
    Predicate.argument?_eq_some_iff.2 ⟨column, hname, hclosing, htext, htrimmed.symm⟩
  rw [htrim]
  refine parse_of_leading ?_
  rw [Predicate.leading?, hargument]
  rfl

/-- The rows that share their key with another row. -/
theorem selects_duplicateCall {context : Context} (h : context.Rectangular) :
    Selects context (duplicateCall column) (context.dataset.Repeats column) := by
  refine selects_of_mask h (parse_duplicateCall hname htrimmed hclosing) fun row => ?_
  rw [mask, Predicate.mask, Predicate.overColumn]
  cases hcells : context.dataset.column? column with
  | none => simp [Mask.all, List.getElem?_replicate, Dataset.Repeats, Dataset.cellAt?, hcells]
  | some cells =>
      simp only [Predicate.duplicates, List.map_map, List.getElem?_map, Option.map_eq_some_iff,
        Function.comp_apply, decide_eq_true_eq, Dataset.Repeats, Option.bind_some,
        Dataset.cellAt?, hcells]
      refine exists_congr fun cell => and_congr_right fun hcell => ?_
      have hkey : (cells.map Cell.key)[row]? = some cell.key := by
        rw [List.getElem?_map, hcell]
        rfl
      rw [one_lt_count_iff hkey]
      simp [List.getElem?_map]

/-- A call of `duplicate` selects the rows that share their key with another row, where cells
without a value have one key and numbers have one if their values are equal.  Files that are
added take no row away. -/
theorem duplicates_by_value {context : Context} (h : context.Rectangular) :
    Selects context (duplicateCall column) (context.dataset.Repeats column) ∧
      (∀ a b : Cell, a.key = b.key ↔ a.Alike b) ∧
      ∀ (files more : List (Text × Frame)) (names : List Text) (settings : ScoringSettings),
        context.dataset = Dataset.concat files → (∀ file ∈ files ++ more, file.2.Rectangular) →
        names.length = (Dataset.concat (files ++ more)).rows →
        ∃ mask whole, evaluate (duplicateCall column) context = .ok mask ∧
          evaluate (duplicateCall column)
            ⟨Dataset.concat (files ++ more), names, settings⟩ = .ok whole ∧
          ∀ row : Nat, mask[row]? = some true → whole[row]? = some true := by
  refine ⟨selects_duplicateCall hname htrimmed hclosing h, Cell.key_eq_iff, ?_⟩
  intro files more names settings hdataset hfiles hnames
  obtain ⟨mask, hmask, -, hrows⟩ := selects_duplicateCall hname htrimmed hclosing h
  have hwhole : Context.Rectangular ⟨Dataset.concat (files ++ more), names, settings⟩ :=
    ⟨Dataset.rectangular_concat hfiles, hnames⟩
  obtain ⟨whole, hmask', -, hrows'⟩ := selects_duplicateCall hname htrimmed hclosing hwhole
  refine ⟨mask, whole, hmask, hmask', fun row hrow => (hrows' row).2 ?_⟩
  have hrepeats := (hrows row).1 hrow
  rw [hdataset] at hrepeats
  exact Dataset.repeats_concat_append hrepeats more

end Called

/-- A card number as an integer, as a text and, in a file that is added, as a floating-point
number, cells without a value, and a file without the column. -/
theorem duplicates_by_value_mixed :
    ∃ (context whole : Context) (files more : List (Text × Frame)), context.Rectangular ∧
      (∀ file ∈ files ++ more, file.2.Rectangular) ∧ context.dataset = Dataset.concat files ∧
      whole.dataset = Dataset.concat (files ++ more) ∧
      evaluate "duplicate(Card no.)".toList context = .ok [false, true, false, true] ∧
      evaluate "duplicate(Card no.)".toList whole = .ok [true, true, false, true, true, false] ∧
      ∀ row : Nat, [false, true, false, true][row]? = some true →
        [true, true, false, true, true, false][row]? = some true := by
  let files : List (Text × Frame) :=
    [("a.csv".toList,
      { columns := [("Card no.".toList, [.integer 7, .float Float.nan, .text "7".toList])]
        rows := 3 }),
     ("b.csv".toList, { columns := [("City".toList, [.text "Oslo".toList])], rows := 1 })]
  let more : List (Text × Frame) :=
    [("c.csv".toList,
      { columns := [("Card no.".toList, [.float 7.0, .boolean true])], rows := 2 })]
  let context : Context := ⟨Dataset.concat files, List.replicate 4 "ANA".toList, .default⟩
  have hfiles : ∀ file ∈ files ++ more, ∀ column ∈ file.2.columns,
      column.2.length = file.2.rows := by
    decide
  have hcontext : context.Rectangular :=
    ⟨Dataset.rectangular_concat fun file hfile =>
      hfiles file (List.mem_append_left more hfile), rfl⟩
  have hnames : (List.replicate 6 "ANA".toList).length =
      (Dataset.concat (files ++ more)).rows := rfl
  have hname : "Card no.".toList ≠ [] := by decide
  have htrimmed : Text.trim "Card no.".toList = "Card no.".toList := by decide
  have hclosing : ')' ∉ "Card no.".toList := by decide
  have hparse := parse_duplicateCall hname htrimmed hclosing
  obtain ⟨-, -, hadded⟩ := duplicates_by_value hname htrimmed hclosing hcontext
  obtain ⟨mask, wholeMask, hmask, hwhole, hkept⟩ := hadded files more _ .default rfl hfiles hnames
  have hfirst : mask = [false, true, false, true] := by
    rw [evaluate_eq_ok hcontext, maskOf, hparse] at hmask
    exact (Except.ok.inj hmask).symm.trans (by decide +kernel)
  have hsecond : wholeMask = [true, true, false, true, true, false] := by
    rw [evaluate_eq_ok ⟨Dataset.rectangular_concat hfiles, hnames⟩, maskOf, hparse] at hwhole
    exact (Except.ok.inj hwhole).symm.trans (by decide +kernel)
  rw [hfirst] at hmask hkept
  rw [hsecond] at hwhole hkept
  exact ⟨context, _, files, more, hcontext, hfiles, rfl, rfl, hmask, hwhole, hkept⟩

end Expression

end RiskTally
