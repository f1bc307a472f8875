import Mathlib.Data.List.Forall2
import RiskTally.Identity
import RiskTally.Proofs.CapitalForms
import RiskTally.Text.Split

/-!
# Canonical names

The canonical form of a name is put together from its words: each in capital letters, with one
space between each two.  Words do not run into each other or fall apart on the way, since a
capital form has no blank and is not empty.  So the words of a canonical name are the capital
forms of the words of the name, and whatever is said of canonical names is said of words.

## Main results

* `Text.words_unwords`: what is put together from words has these words.
* `Text.spaced_unwords`, `Text.Spaced.unwords_words`: spaces that stand singly between words.
* `words_normalizeName`: the words of a canonical name.
* `normalizeName_eq_self_iff`: the names that are canonical already.
* `normalizeName_canonical`: the laws of canonical names.
-/

namespace RiskTally

namespace Text

/-! ## Words and spaces -/

/-- The text is a word: it is not empty, and no character is blank. -/
structure IsWord (text : Text) : Prop where
  ne_nil : text ≠ []
  visible : ∀ c ∈ text, isBlank c = false

theorem isWord_of_mem_words {text word : Text} (h : word ∈ words text) : IsWord word :=
  ⟨(mem_words h).1, (mem_words h).2⟩

theorem IsWord.words_eq {word : Text} (h : IsWord word) : words word = [word] := by
  have hwhole : word.splitOnP isBlank = [word] := List.splitOnP_eq_singleton h.visible
  rw [words, hwhole]
  simp [h.ne_nil]

/-- A word is still one in capital letters. -/
theorem IsWord.upper {word : Text} (h : IsWord word) : IsWord (upper word) := by
  obtain ⟨c, rest, rfl⟩ := List.exists_cons_of_ne_nil h.ne_nil
  refine ⟨?_, not_blank_of_mem_upper h.visible⟩
  simp [Text.upper, upperChar_ne_nil]

theorem unwords_cons (word : Text) {ws : List Text} (h : ws ≠ []) :
    unwords (word :: ws) = word ++ ' ' :: unwords ws := by
  obtain ⟨next, others, rfl⟩ := List.exists_cons_of_ne_nil h
  rw [unwords, List.intercalate_cons_cons, List.append_assoc]
  rfl

/-- What is put together from words has these words. -/
theorem words_unwords {ws : List Text} (h : ∀ word ∈ ws, IsWord word) :
    words (unwords ws) = ws := by
  induction ws with
  | nil => rfl
  | cons word ws ih =>
      rw [List.forall_mem_cons] at h
      by_cases hlast : ws = []
      · rw [hlast, unwords, List.intercalate_singleton, h.1.words_eq]
      · rw [unwords_cons word hlast, words_append_cons (by decide), h.1.words_eq, ih h.2]
        rfl

/-- Capital letters are taken word by word. -/
theorem upper_unwords (ws : List Text) : upper (unwords ws) = unwords (ws.map upper) := by
  induction ws with
  | nil => rfl
  | cons word ws ih =>
      by_cases hlast : ws = []
      · simp [hlast, unwords]
      · have hspace : upper [' '] = [' '] := by decide
        rw [unwords_cons word hlast, List.map_cons, unwords_cons _ (by simpa using hlast), ← ih,
          upper_append, ← List.singleton_append, upper_append, hspace]
        rfl

/-- No blank stands at either end, all blanks are spaces, and no two of them stand together. -/
structure Spaced (text : Text) : Prop where
  trimmed : trim text = text
  spaces : ∀ c ∈ text, isBlank c = true → c = ' '
  single : ¬ [' ', ' '] <:+: text

theorem IsWord.spaced {word : Text} (h : IsWord word) : Spaced word where
  trimmed := trimOf_eq_self_of_forall h.visible
  spaces c hc hblank := absurd hblank (by simp [h.visible c hc])
  single hpair := absurd (h.visible ' ' (hpair.subset (by decide))) (by decide)

/-- A word may be put before a spaced text. -/
theorem Spaced.cons {word rest : Text} (hword : IsWord word) (hrest : Spaced rest)
    (hne : rest ≠ []) : Spaced (word ++ ' ' :: rest) where
  trimmed := by
    have hends := trimOf_append hword.spaced.trimmed hrest.trimmed hword.ne_nil hne [' ']
    simpa [trim] using hends
  spaces c hc hblank := by
    rcases List.mem_append.1 hc with hc | hc
    · exact hword.spaced.spaces c hc hblank
    · rcases List.mem_cons.1 hc with rfl | hc
      · rfl
      · exact hrest.spaces c hc hblank
  single := by
    have hvisible : ∀ c ∈ word, c ∉ [' ', ' '] := by
      intro c hc hspace
      have hblank : ∀ c ∈ [' ', ' '], isBlank c = true := by decide
      exact absurd ((hblank c hspace).symm.trans (hword.visible c hc)) (by decide)
    refine not_infix_append_left hvisible fun hpair => ?_
    rcases List.infix_cons_iff.1 hpair with hstart | hlater
    · -- The second space would begin the rest.
      obtain ⟨more, hmore⟩ := (List.cons_prefix_cons.1 hstart).2
      have hfirst := (trimOf_eq_self_iff.1 hrest.trimmed).1 ' ' (by simp [← hmore])
      exact absurd hfirst (by decide)
    · exact hrest.single hlater

/-- A spaced text is empty, or a word, or a word and a space before a spaced text. -/
theorem Spaced.cases {text : Text} (h : Spaced text) :
    text = [] ∨ IsWord text ∨
      ∃ word rest, IsWord word ∧ Spaced rest ∧ rest ≠ [] ∧ text = word ++ ' ' :: rest := by
  cases hfirst : text.find? isBlank with
  | none =>
      have hvisible : ∀ c ∈ text, isBlank c = false := by
        simpa using List.find?_eq_none.1 hfirst
      by_cases hne : text = []
      · exact .inl hne
      · exact .inr (.inl ⟨hne, hvisible⟩)
  | some c =>
      obtain ⟨hblank, word, rest, rfl, hword⟩ := List.find?_eq_some_iff_append.1 hfirst
      obtain rfl : c = ' ' := h.spaces c (by simp) hblank
      obtain ⟨hhead, hlast⟩ := trimOf_eq_self_iff.1 h.trimmed
      have hword' : word ≠ [] := by
        rintro rfl
        exact absurd (hhead ' ' (by simp)) (by decide)
      have hrest : rest ≠ [] := by
        rintro rfl
        exact absurd (hlast ' ' (by simp)) (by decide)
      have hsuffix : rest <:+ word ++ ' ' :: rest :=
        (List.suffix_cons ' ' rest).trans (List.suffix_append word _)
      have hstart : ∀ c ∈ rest.head?, isBlank c = false := by
        intro c hc
        by_contra hblank
        obtain rfl := h.spaces c (by simp [List.mem_of_mem_head? hc]) (by simpa using hblank)
        obtain ⟨more, rfl⟩ := List.head?_eq_some_iff.1 hc
        exact h.single ⟨word, more, by simp⟩
      have hend : ∀ c ∈ rest.getLast?, isBlank c = false := by
        intro c hc
        refine hlast c ?_
        rw [List.getLast?_append_of_ne_nil _ (List.cons_ne_nil ' ' rest),
          List.getLast?_cons_of_ne_nil hrest]
        exact hc
      exact .inr (.inr ⟨word, rest, ⟨hword', by simpa using hword⟩,
        ⟨trimOf_eq_self_iff.2 ⟨hstart, hend⟩, fun c hc => h.spaces c (hsuffix.subset hc),
          fun hpair => h.single (hpair.trans hsuffix.isInfix)⟩, hrest, rfl⟩)

/-- A spaced text is put together from words: from the first of them and those of the rest. -/
theorem Spaced.exists_words {text : Text} (h : Spaced text) :
    ∃ ws : List Text, (∀ word ∈ ws, IsWord word) ∧ text = unwords ws := by
  obtain ⟨n, hn⟩ : ∃ n, text.length = n := ⟨_, rfl⟩
  induction n using Nat.strongRecOn generalizing text with
  | _ n ih =>
      rcases h.cases with rfl | hword | ⟨word, rest, hword, hrest, hne, rfl⟩
      · exact ⟨[], by simp, rfl⟩
      · exact ⟨[text], by simpa using hword, (List.intercalate_singleton ..).symm⟩
      · have hshorter : rest.length < n := by simp [← hn]; omega
        obtain ⟨ws, hws, rfl⟩ := ih _ hshorter hrest rfl
        have hws' : ws ≠ [] := by
          rintro rfl
          exact hne rfl
        exact ⟨word :: ws, List.forall_mem_cons.2 ⟨hword, hws⟩, (unwords_cons word hws').symm⟩

theorem spaced_unwords {ws : List Text} (h : ∀ word ∈ ws, IsWord word) : Spaced (unwords ws) := by
  induction ws with
  | nil => exact ⟨rfl, by simp [unwords], by simp [unwords]⟩
  | cons word ws ih =>
      rw [List.forall_mem_cons] at h
      by_cases hlast : ws = []
      · rw [hlast, unwords, List.intercalate_singleton]
        exact h.1.spaced
      · have hne : unwords ws ≠ [] := by
          intro hnil
          have hnone := words_unwords h.2
          rw [hnil] at hnone
          exact hlast hnone.symm
        rw [unwords_cons word hlast]
        exact .cons h.1 (ih h.2) hne

/-- A spaced text is put together from its own words. -/
theorem Spaced.unwords_words {text : Text} (h : Spaced text) : unwords (words text) = text := by
  obtain ⟨ws, hws, rfl⟩ := h.exists_words
  rw [words_unwords hws]

end Text

/-! ## Canonical names -/

open Text

theorem normalizeName_eq_unwords (name : Text) :
    normalizeName name = unwords ((words name).map upper) :=
  upper_unwords (words name)

theorem isWord_of_mem_map_upper {name word : Text} (h : word ∈ (words name).map upper) :
    IsWord word := by
  obtain ⟨original, hmem, rfl⟩ := List.mem_map.1 h
  exact (isWord_of_mem_words hmem).upper

/-- The words of a canonical name are the capital forms of the words of the name. -/
theorem words_normalizeName (name : Text) :
    words (normalizeName name) = (words name).map upper := by
  rw [normalizeName_eq_unwords, words_unwords fun _ => isWord_of_mem_map_upper]

/-- Names are the same person exactly if they have the same words in capital letters. -/
theorem normalizeName_eq_iff_map {a b : Text} :
    normalizeName a = normalizeName b ↔ (words a).map upper = (words b).map upper := by
  constructor
  · intro h
    rw [← words_normalizeName, h, words_normalizeName]
  · intro h
    rw [normalizeName_eq_unwords, h, normalizeName_eq_unwords]

theorem normalizeName_normalizeName (name : Text) :
    normalizeName (normalizeName name) = normalizeName name := by
  rw [normalizeName_eq_iff_map, words_normalizeName, List.map_map, upper_comp_upper]

theorem spaced_normalizeName (name : Text) : Spaced (normalizeName name) := by
  rw [normalizeName_eq_unwords]
  exact spaced_unwords fun _ => isWord_of_mem_map_upper

/-- A name is canonical already exactly if it is spaced and in capital letters. -/
theorem normalizeName_eq_self_iff {name : Text} :
    normalizeName name = name ↔ Spaced name ∧ upper name = name := by
  constructor
  · intro h
    refine ⟨h ▸ spaced_normalizeName name, ?_⟩
    rw [← h]
    exact upper_upper _
  · rintro ⟨hspaced, hcapital⟩
    rw [normalizeName, hspaced.unwords_words, hcapital]

/-- Bringing the two parts of a name into canonical form first changes nothing. -/
theorem normalizeName_append (a b : Text) :
    normalizeName (a ++ ' ' :: b) = normalizeName (normalizeName a ++ ' ' :: normalizeName b) := by
  have hspace : isBlank ' ' = true := by decide
  rw [normalizeName_eq_iff_map, words_append_cons hspace, words_append_cons hspace,
    List.map_append, List.map_append, words_normalizeName, words_normalizeName, List.map_map,
    List.map_map, upper_comp_upper]

/-- Canonical names are in capital letters, with single spaces between words and no other blank.
A name is brought into canonical form once, as a whole or part by part, and two names come to the
same one exactly if their words are equal one by one in capital letters. -/
theorem normalizeName_canonical :
    (∀ name, Spaced (normalizeName name)) ∧
      (∀ name, normalizeName (normalizeName name) = normalizeName name) ∧
      (∀ name, normalizeName name = name ↔ Spaced name ∧ upper name = name) ∧
      (∀ a b, normalizeName (a ++ ' ' :: b) =
        normalizeName (normalizeName a ++ ' ' :: normalizeName b)) ∧
      ∀ a b, normalizeName a = normalizeName b ↔
        List.Forall₂ (fun v w => upper v = upper w) (words a) (words b) := by
  refine ⟨spaced_normalizeName, normalizeName_normalizeName, fun _ => normalizeName_eq_self_iff,
    normalizeName_append, fun a b => ?_⟩
  rw [normalizeName_eq_iff_map, ← List.forall₂_eq_eq_eq, List.forall₂_map_left_iff,
    List.forall₂_map_right_iff]

end RiskTally
