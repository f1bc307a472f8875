import Mathlib.Data.List.TakeWhile
import Mathlib.Order.BoundedOrder.Basic
import Mathlib.Order.Lattice
import RiskTally.Proofs.TableSheets

/-!
# The types of columns

The types are ordered by what they can hold: integers are numbers, and everything is a text.
A column gets the least type that holds all of its cells, so that the type of two columns put
together is the least that is above both of theirs.  Neither the order of the cells nor how
often one of them is repeated has a say in it, and further cells can only widen it.

## Main results

* `Numeral.read?_of_readDigits?`: what is read as an integer is read as a number.
* `ColumnKind.infer_le_iff`: the types above that of a column are those that hold its cells.
* `ColumnKind.infer_append_eq_sup`: the type of columns put together.
* `inferKind_append`: the same of raw columns with empty cells.
-/

namespace RiskTally

/-! ## Integers are numbers -/

namespace Numeral

theorem isDigit_iff {c : Char} : isDigit c = true ↔ c.isDigit = true := by
  rw [isDigit, digit?, Option.isSome_ite, Char.isDigit, Bool.and_eq_true, decide_eq_true_eq,
    decide_eq_true_eq]
  rfl

theorem isDigit_of_readDigitsFrom {acc n : Nat} {text : Text}
    (h : readDigitsFrom acc text = some n) : ∀ c ∈ text, isDigit c = true := by
  induction text generalizing acc with
  | nil => simp
  | cons c text ih =>
      rw [readDigitsFrom] at h
      cases hc : digit? c with
      | none => simp [hc] at h
      | some d =>
          rw [hc] at h
          intro other hother
          rcases List.mem_cons.1 hother with rfl | hother
          · simp [isDigit, hc]
          · exact ih h other hother

theorem isDigit_of_readDigits? {digits : Text} {n : Nat} (h : readDigits? digits = some n) :
    ∀ c ∈ digits, isDigit c = true := by
  cases digits with
  | nil => simp
  | cons c digits => exact isDigit_of_readDigitsFrom h

/-- Digits alone are a whole number without a power of ten. -/
theorem readMagnitude?_of_readDigits? {digits : Text} {n : Nat}
    (h : readDigits? digits = some n) : readMagnitude? digits = some (n, 0) := by
  have hdigits : ∀ c ∈ digits, isDigit c = true := isDigit_of_readDigits? h
  have htake : digits.takeWhile isDigit = digits := List.takeWhile_eq_self_iff.2 hdigits
  have hdrop : digits.dropWhile isDigit = [] := List.dropWhile_eq_nil_iff.2 hdigits
  unfold readMagnitude?
  simp [htake, hdrop, h]

/-- What is read as an integer, whether or not it is within the 64-bit range, is read as that
number. -/
theorem read?_of_readDigits? {text : Text} {n : Nat}
    (h : readDigits? (splitSign text).2 = some n) :
    read? text = some (finite (splitSign text).1 n 0) := by
  unfold read?
  simp [readMagnitude?_of_readDigits? h]

end Numeral

namespace ColumnKind

theorem isSome_read?_float {text : Text} (h : (integer.read? text).isSome = true) :
    (float.read? text).isSome = true := by
  simp only [read?, Option.isSome_map, readInteger?] at h
  cases hdigits : readDigits? (splitSign (Text.trim text)).2 with
  | none => simp [hdigits] at h
  | some n => simp [read?, readFloat?, Numeral.read?_of_readDigits? hdigits]

/-! ## The order of the types -/

/-- The least type that holds what either of two types holds. -/
def join : ColumnKind → ColumnKind → ColumnKind
  | empty, kind => kind
  | kind, empty => kind
  | integer, integer => integer
  | integer, float => float
  | float, integer => float
  | float, float => float
  | boolean, boolean => boolean
  | _, _ => text

instance : Max ColumnKind := ⟨join⟩

instance : SemilatticeSup ColumnKind :=
  SemilatticeSup.mk' (by rintro (_ | _) (_ | _) <;> rfl)
    (by rintro (_ | _) (_ | _) (_ | _) <;> rfl) (by rintro (_ | _) <;> rfl)

/-- A column without values can become a column of any type. -/
instance : OrderBot ColumnKind where
  bot := empty
  bot_le := by rintro (_ | _) <;> rfl

theorem le_iff_join {a b : ColumnKind} : a ≤ b ↔ join a b = b :=
  sup_eq_right.symm

instance : DecidableLE ColumnKind := fun _ _ =>
  decidable_of_iff _ le_iff_join.symm

/-- The types that can be widened, and to which. -/
theorem cases_of_lt {old new : ColumnKind} (h : old < new) :
    old = empty ∨ (old = integer ∧ (new = float ∨ new = text)) ∨ (old = float ∧ new = text) ∨
      (old = boolean ∧ new = text) := by
  obtain ⟨hle, hne⟩ := lt_iff_le_and_ne.1 h
  revert hle hne
  cases old <;> cases new <;> decide

/-! ## The type of a column -/

/-- The text is a value of the type. -/
def Holds (kind : ColumnKind) (text : Text) : Prop :=
  kind ≠ empty ∧ (kind.read? text).isSome = true

theorem forall_holds_iff {kind : ColumnKind} {texts : List Text} :
    (∀ text ∈ texts, kind.Holds text) ↔
      (kind = empty → texts = []) ∧ kind.admits texts = true := by
  unfold Holds admits
  rw [List.all_eq_true]
  constructor
  · intro h
    refine ⟨fun hempty => ?_, fun text htext => (h text htext).2⟩
    exact List.eq_nil_iff_forall_not_mem.2 fun text htext => (h text htext).1 hempty
  · rintro ⟨hempty, hread⟩ text htext
    refine ⟨fun hkind => ?_, hread text htext⟩
    rw [hempty hkind] at htext
    exact List.not_mem_nil htext

/-- The types above that of a column are those that hold all of its cells. -/
theorem infer_le_iff {texts : List Text} {kind : ColumnKind} :
    infer texts ≤ kind ↔ ∀ text ∈ texts, kind.Holds text := by
  by_cases hnil : texts = []
  · subst hnil
    exact iff_of_true bot_le (by simp)
  have hfloat : integer.admits texts = true → float.admits texts = true := by
    simp only [admits, List.all_eq_true]
    exact fun h text htext => isSome_read?_float (h text htext)
  have hboolean : boolean.admits texts = true →
      integer.admits texts = false ∧ float.admits texts = false := by
    obtain ⟨text, rest, rfl⟩ := List.exists_cons_of_ne_nil hnil
    intro h
    obtain ⟨hinteger, hfloat⟩ := read?_of_boolean (List.all_eq_true.1 h text (by simp))
    simp [admits, hinteger, hfloat]
  have htext : ColumnKind.text.admits texts = true := List.all_eq_true.2 fun _ _ => rfl
  rw [forall_holds_iff, infer, if_neg hnil]
  -- One case for each answer of the cascade; the facts above decide every type against it.
  by_cases hi : integer.admits texts = true
  · have hb : boolean.admits texts ≠ true := fun hb => by simp [hboolean hb] at hi
    rw [if_pos hi]
    cases kind <;> simp [le_iff_join, join, hnil, hi, hfloat hi, hb, htext]
  · by_cases hf : float.admits texts = true
    · have hb : boolean.admits texts ≠ true := fun hb => by simp [hboolean hb] at hf
      rw [if_neg hi, if_pos hf]
      cases kind <;> simp [le_iff_join, join, hnil, hi, hf, hb, htext]
    · by_cases hb : boolean.admits texts = true
      · rw [if_neg hi, if_neg hf, if_pos hb]
        cases kind <;> simp [le_iff_join, join, hnil, hi, hf, hb, htext]
      · rw [if_neg hi, if_neg hf, if_neg hb]
        cases kind <;> simp [le_iff_join, join, hnil, hi, hf, hb, htext]

theorem infer_mono {texts more : List Text} (h : texts ⊆ more) : infer texts ≤ infer more :=
  infer_le_iff.2 fun text htext => infer_le_iff.1 le_rfl text (h htext)

theorem infer_append (texts more : List Text) :
    infer (texts ++ more) = infer texts ⊔ infer more := by
  refine eq_of_forall_ge_iff fun kind => ?_
  rw [sup_le_iff, infer_le_iff, infer_le_iff, infer_le_iff, List.forall_mem_append]

/-- The type of a column goes by which cells it has. -/
theorem infer_congr {texts texts' : List Text} (h : ∀ text, text ∈ texts' ↔ text ∈ texts) :
    infer texts' = infer texts :=
  le_antisymm (infer_mono fun text htext => (h text).1 htext)
    (infer_mono fun text htext => (h text).2 htext)

/-- The types form a join semilattice: an empty column is at the bottom, integers are below
numbers, numbers and truth values are below texts, and truth values have only texts above them.
The type of a column is the least that holds its cells, and the type of two columns put together
is the join of their types.  So it stays the same when the cells are put in another order or
repeated, and further cells can only widen it. -/
theorem infer_append_eq_sup (texts more : List Text) :
    infer (texts ++ more) = infer texts ⊔ infer more ∧
    infer [] = ⊥ ∧
    (∀ texts' : List Text, (∀ text, text ∈ texts' ↔ text ∈ texts) → infer texts' = infer texts) ∧
    (∀ wider : List Text, texts ⊆ wider → infer texts ≤ infer wider) ∧
    (∀ kind : ColumnKind, infer texts ≤ kind ↔ ∀ text ∈ texts, kind.Holds text) ∧
    ((⊥ : ColumnKind) = empty ∧ integer < float ∧ float < text ∧ boolean < text ∧
      boolean ⊔ integer = text ∧ boolean ⊔ float = text) := by
  refine ⟨infer_append texts more, rfl, fun _ => infer_congr, fun _ => infer_mono,
    fun _ => infer_le_iff, rfl, ?_, ?_, ?_, rfl, rfl⟩
  · exact lt_of_le_of_ne (by decide) (by decide)
  · exact lt_of_le_of_ne (by decide) (by decide)
  · exact lt_of_le_of_ne (by decide) (by decide)

/-- Integers beside a number past the 64-bit range, and a truth value that comes later. -/
theorem infer_append_eq_sup_four_cells :
    let texts := ["+7".toList, " -12 ".toList]
    let more := ["9223372036854775808".toList]
    infer texts = integer ∧ infer more = float ∧ infer (texts ++ more) = float ∧
      infer [" -12 ".toList, "+7".toList, "+7".toList] = integer ∧
      infer texts ≤ infer ("true".toList :: texts) ∧ infer ("true".toList :: texts) = text := by
  intro texts more
  obtain ⟨happend, -, hsame, hwider, -⟩ := infer_append_eq_sup texts more
  have htexts : infer texts = integer := by decide
  have hmore : infer more = float := by decide
  refine ⟨htexts, hmore, ?_, ?_, hwider _ (List.subset_cons_self _ _), by decide⟩
  · rw [happend, htexts, hmore]
    rfl
  · rw [hsame _ fun text => by simp [texts, or_comm], htexts]

end ColumnKind

/-! ## Raw columns -/

/-- The type of raw columns put together; cells that mean nothing have no say in it. -/
theorem inferKind_append (settings : ReadSettings) (cells more : List (Option Text)) :
    inferKind settings (cells ++ more) = inferKind settings cells ⊔ inferKind settings more := by
  rw [inferKind, List.filterMap_append, ColumnKind.infer_append]
  rfl

end RiskTally
