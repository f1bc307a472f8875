import RiskTally.Text.Basic

/-!
# Blank characters

A character is blank when it has the Unicode property `White_Space`. Blanks are
trimmed off rules and cells, and separate the words of a name.

## Main results

* `isBlank_of_isWhitespace`: every blank of the ASCII class is blank here.
* `trimOf_eq_self_iff`: a text is trimmed exactly when both its ends would stay.
* `trimOf_append`: trimmed texts keep what stands between them.
* `words_eq_nil_iff`: a text has no word exactly when every character is blank.
* `mem_words`: a word is not empty and holds no blank.
* `words_append_cons`: the words on either side of a blank are those of the two sides.
-/

namespace RiskTally.Text

/-- The character has the Unicode property `White_Space`. -/
def isBlank (c : Char) : Bool :=
  let n := c.toNat
  (0x09 ≤ n && n ≤ 0x0D) || n == 0x20 || n == 0x85 || n == 0xA0 || n == 0x1680 ||
    (0x2000 ≤ n && n ≤ 0x200A) || n == 0x2028 || n == 0x2029 || n == 0x202F || n == 0x205F ||
    n == 0x3000

theorem isBlank_of_isWhitespace {c : Char} (h : c.isWhitespace = true) : isBlank c = true := by
  simp only [Char.isWhitespace, Bool.or_eq_true, decide_eq_true_eq] at h
  rcases h with ((rfl | rfl) | rfl) | rfl <;> decide

/-! ## Trimming -/

/-- The text without the characters of class `p` at its end. -/
def trimEnd (p : Char → Bool) (text : Text) : Text :=
  (text.reverse.dropWhile p).reverse

/-- The text without the characters of class `p` at either end. -/
def trimOf (p : Char → Bool) (text : Text) : Text :=
  trimEnd p (text.dropWhile p)

/-- The text without blanks at either end. -/
def trim (text : Text) : Text :=
  trimOf isBlank text

theorem trimEnd_sublist (p : Char → Bool) (text : Text) : (trimEnd p text).Sublist text := by
  simpa [trimEnd] using (List.dropWhile_sublist (l := text.reverse) p).reverse

theorem length_trim_le (text : Text) : (trim text).length ≤ text.length :=
  ((trimEnd_sublist _ _).trans (List.dropWhile_sublist isBlank)).length_le

theorem trimOf_infix (p : Char → Bool) (text : Text) : trimOf p text <:+: text := by
  have hlead : trimEnd p (text.dropWhile p) <+: text.dropWhile p := by
    have hsuffix := List.dropWhile_suffix (l := (text.dropWhile p).reverse) p
    simpa [trimEnd] using List.reverse_prefix.2 hsuffix
  exact hlead.isInfix.trans (List.dropWhile_suffix p).isInfix

private theorem dropWhile_eq_self_iff {p : Char → Bool} {text : Text} :
    text.dropWhile p = text ↔ ∀ c ∈ text.head?, p c = false := by
  cases text with
  | nil => simp
  | cons c text =>
    by_cases hc : p c = true
    · have hlength := (List.dropWhile_sublist (l := text) p).length_le
      have hne : text.dropWhile p ≠ c :: text := by
        intro heq
        rw [heq, List.length_cons] at hlength
        omega
      simp [hc, hne]
    · simp [hc]

/-- A text is trimmed exactly when neither its first nor its last character would go. -/
theorem trimOf_eq_self_iff {p : Char → Bool} {text : Text} :
    trimOf p text = text ↔
      (∀ c ∈ text.head?, p c = false) ∧ ∀ c ∈ text.getLast?, p c = false := by
  have hend : trimEnd p text = text ↔ ∀ c ∈ text.getLast?, p c = false := by
    rw [trimEnd, List.reverse_eq_iff, dropWhile_eq_self_iff, List.head?_reverse]
  rw [← hend, ← dropWhile_eq_self_iff, trimOf]
  constructor
  · intro h
    have hlength := (trimEnd_sublist p (text.dropWhile p)).length_le
    rw [h] at hlength
    have hstart : text.dropWhile p = text :=
      (List.dropWhile_sublist p).eq_of_length_le hlength
    rw [hstart] at h
    exact ⟨hstart, h⟩
  · rintro ⟨hstart, hlast⟩
    rw [hstart, hlast]

theorem trimOf_append_left {p : Char → Bool} {blanks : Text} (h : ∀ c ∈ blanks, p c = true)
    (text : Text) : trimOf p (blanks ++ text) = trimOf p text := by
  rw [trimOf, List.dropWhile_append_of_pos h, trimOf]

theorem trimOf_append_right {p : Char → Bool} {blanks : Text} (h : ∀ c ∈ blanks, p c = true)
    (text : Text) : trimOf p (text ++ blanks) = trimOf p text := by
  have hend : ∀ rest : Text, trimEnd p (rest ++ blanks) = trimEnd p rest := by
    intro rest
    have hreverse : ∀ c ∈ blanks.reverse, p c = true := fun c hc => h c (List.mem_reverse.1 hc)
    rw [trimEnd, List.reverse_append, List.dropWhile_append_of_pos hreverse, trimEnd]
  rw [trimOf, List.dropWhile_append]
  split
  · rename_i hempty
    have hdrop : blanks.dropWhile p = [] := by
      rw [← List.append_nil blanks, List.dropWhile_append_of_pos h]
      rfl
    rw [hdrop, trimOf, List.isEmpty_iff.1 hempty]
  · exact hend _

/-- Two texts that are not empty and stay as they are when trimmed keep what stands
between them. -/
theorem trimOf_append {p : Char → Bool} {before after : Text} (hbefore : trimOf p before = before)
    (hafter : trimOf p after = after) (hbefore' : before ≠ []) (hafter' : after ≠ [])
    (between : Text) : trimOf p (before ++ between ++ after) = before ++ between ++ after := by
  have hhead : (before ++ between ++ after).head? = before.head? := by
    obtain ⟨c, rest, rfl⟩ := List.exists_cons_of_ne_nil hbefore'
    rfl
  have hlast : (before ++ between ++ after).getLast? = after.getLast? := by
    rw [List.getLast?_append, List.getLast?_eq_some_getLast hafter', Option.some_or]
  rw [trimOf_eq_self_iff, hhead, hlast]
  exact ⟨(trimOf_eq_self_iff.1 hbefore).1, (trimOf_eq_self_iff.1 hafter).2⟩

theorem trimOf_eq_self_of_forall {p : Char → Bool} {text : Text} (h : ∀ c ∈ text, p c = false) :
    trimOf p text = text :=
  trimOf_eq_self_iff.2
    ⟨fun c hc => h c (List.mem_of_mem_head? hc), fun c hc => h c (List.mem_of_mem_getLast? hc)⟩

/-! ## Words -/

/-- The longest runs of characters that are not blank. -/
def words (text : Text) : List Text :=
  (text.splitOnP isBlank).filter (· ≠ [])

/-- The words with one space between each two. -/
def unwords (ws : List Text) : Text :=
  [' '].intercalate ws

private theorem not_blank_of_mem_splitOnP {p : Char → Bool} {text piece : Text}
    (h : piece ∈ text.splitOnP p) : ∀ c ∈ piece, p c = false := by
  induction text generalizing piece with
  | nil =>
    simp only [List.splitOnP_nil, List.mem_singleton] at h
    simp [h]
  | cons d text ih =>
    rw [List.splitOnP_cons_eq_if_modifyHead] at h
    split at h
    · rcases List.mem_cons.1 h with rfl | h
      · simp
      · exact ih h
    · rename_i hd
      cases hs : text.splitOnP p with
      | nil => simp [hs] at h
      | cons first rest =>
        rw [hs] at h ih
        rcases List.mem_cons.1 h with rfl | h
        · intro c hc
          rcases List.mem_cons.1 hc with rfl | hc
          · simpa using hd
          · exact ih (by simp) c hc
        · exact ih (List.mem_cons_of_mem _ h)

theorem mem_words {text word : Text} (h : word ∈ words text) :
    word ≠ [] ∧ ∀ c ∈ word, isBlank c = false := by
  obtain ⟨hmem, hne⟩ := List.mem_filter.1 h
  exact ⟨by simpa using hne, not_blank_of_mem_splitOnP hmem⟩

theorem words_append_cons {c : Char} (hc : isBlank c = true) (before after : Text) :
    words (before ++ c :: after) = words before ++ words after := by
  unfold words
  rw [List.splitOnP_append_cons before after hc, List.filter_append]

theorem words_eq_nil_iff {text : Text} : words text = [] ↔ ∀ c ∈ text, isBlank c = true := by
  induction text with
  | nil => simp [words]
  | cons d text ih =>
    unfold words at ih ⊢
    rw [List.splitOnP_cons_eq_if_modifyHead]
    split
    · rename_i hd
      simpa [hd] using ih
    · rename_i hd
      constructor
      · cases hs : text.splitOnP isBlank with
        | nil => exact absurd hs (List.splitOnP_ne_nil _ _)
        | cons first rest => simp
      · intro h
        exact absurd (h d (by simp)) hd

end RiskTally.Text
