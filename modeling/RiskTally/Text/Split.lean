import RiskTally.Text.Basic

/-!
# Cutting at a separator

A text is cut at every occurrence of a separator, found from the left and without
overlap. The parts are what lies between: one more than there are occurrences.

## Main results

* `intercalate_cutAt`: the parts with the separator between each two are the text.
* `length_lt_of_mem_cutAt`: of two or more parts each is shorter than the text, so
  that a reader may recurse into them.
* `contains_iff`: there are two or more parts exactly when the separator occurs.
* `not_infix_of_mem_cutAt`: no part holds the separator again.
* `cutAt_append`: a text is cut at its first separator, and what follows on its own.
-/

namespace RiskTally.Text

/-- Puts one more character in front of the first part. -/
def consFirst (c : Char) : List Text → List Text
  | [] => [[c]]
  | part :: parts => (c :: part) :: parts

/-- The parts of a text whose first `skip` characters still belong to a separator. -/
def cutFrom (sep : Text) : (skip : Nat) → Text → List Text
  | _, [] => [[]]
  | skip + 1, _ :: text => cutFrom sep skip text
  | 0, c :: text =>
    if startsWith sep (c :: text) then [] :: cutFrom sep (sep.length - 1) text
    else consFirst c (cutFrom sep 0 text)

/-- The parts of a text between the occurrences of `sep`. -/
def cutAt (sep text : Text) : List Text :=
  cutFrom sep 0 text

/-- The text holds `sep`. -/
def contains (sep text : Text) : Bool :=
  1 < (cutAt sep text).length

/-! ## The parts make up the text -/

theorem cutFrom_ne_nil (sep : Text) (skip : Nat) (text : Text) : cutFrom sep skip text ≠ [] := by
  induction text generalizing skip with
  | nil => simp [cutFrom]
  | cons c text ih =>
    cases skip with
    | succ skip => simpa [cutFrom] using ih skip
    | zero =>
      simp only [cutFrom]
      split
      · simp
      · cases cutFrom sep 0 text <;> simp [consFirst]

private theorem intercalate_consFirst (sep : Text) (c : Char) {parts : List Text} (h : parts ≠ []) :
    sep.intercalate (consFirst c parts) = c :: sep.intercalate parts := by
  match parts with
  | [] => exact absurd rfl h
  | [part] => simp [consFirst, List.intercalate]
  | part :: next :: parts => simp [consFirst, List.intercalate]

private theorem intercalate_nil_cons (sep : Text) {parts : List Text} (h : parts ≠ []) :
    sep.intercalate ([] :: parts) = sep ++ sep.intercalate parts := by
  match parts with
  | [] => exact absurd rfl h
  | part :: parts => simp [List.intercalate]

theorem intercalate_cutFrom {sep : Text} (hsep : sep ≠ []) (skip : Nat) (text : Text) :
    sep.intercalate (cutFrom sep skip text) = text.drop skip := by
  induction text generalizing skip with
  | nil => simp [cutFrom, List.intercalate]
  | cons c text ih =>
    cases skip with
    | succ skip => simpa [cutFrom] using ih skip
    | zero =>
      simp only [cutFrom]
      split
      · rename_i hstart
        obtain ⟨rest, hrest⟩ := Option.isSome_iff_exists.1 hstart
        have happ := after?_eq_some_iff.1 hrest
        rw [intercalate_nil_cons sep (cutFrom_ne_nil _ _ _), ih]
        cases sep with
        | nil => exact absurd rfl hsep
        | cons d sep =>
          simp only [List.cons_append, List.cons.injEq] at happ
          simp [happ.1, happ.2]
      · rw [intercalate_consFirst sep c (cutFrom_ne_nil _ _ _), ih]
        simp

theorem intercalate_cutAt {sep : Text} (hsep : sep ≠ []) (text : Text) :
    sep.intercalate (cutAt sep text) = text := by
  simp [cutAt, intercalate_cutFrom hsep]

theorem infix_intercalate_of_mem (sep : Text) {part : Text} {parts : List Text}
    (h : part ∈ parts) : part <:+: sep.intercalate parts := by
  induction parts with
  | nil => simp at h
  | cons first rest ih =>
    cases rest with
    | nil =>
      obtain rfl := List.mem_singleton.1 h
      simp [List.intercalate]
    | cons second rest =>
      rw [List.intercalate_cons_cons, List.append_assoc]
      rcases List.mem_cons.1 h with rfl | hrest
      · exact (List.prefix_append _ _).isInfix
      · refine (ih hrest).trans ?_
        exact ((List.suffix_append sep _).trans (List.suffix_append first _)).isInfix

theorem infix_of_mem_cutAt {sep text part : Text} (hsep : sep ≠ []) (h : part ∈ cutAt sep text) :
    part <:+: text := by
  have hpart := infix_intercalate_of_mem sep h
  rwa [intercalate_cutAt hsep] at hpart

theorem infix_of_mem_splitOn {c : Char} {text part : Text} (h : part ∈ text.splitOn c) :
    part <:+: text := by
  have hpart := infix_intercalate_of_mem [c] h
  rwa [List.intercalate_splitOn] at hpart

/-! ## The parts are shorter -/

private theorem length_add_le_of_mem (sep : Text) {part : Text} {parts : List Text}
    (h : part ∈ parts) (htwo : 1 < parts.length) :
    part.length + sep.length ≤ (sep.intercalate parts).length := by
  match parts with
  | [] => simp at h
  | [_] => simp at htwo
  | first :: second :: rest =>
    rw [List.intercalate_cons_cons]
    simp only [List.length_append]
    rcases List.mem_cons.1 h with rfl | h
    · omega
    · cases rest with
      | nil =>
        simp only [List.mem_singleton] at h
        subst h
        simp [List.intercalate]
        omega
      | cons third rest =>
        have := length_add_le_of_mem sep h (by simp)
        omega

theorem length_lt_of_mem_cutAt {sep text part : Text} (hsep : sep ≠ [])
    (h : part ∈ cutAt sep text) (htwo : 1 < (cutAt sep text).length) :
    part.length < text.length := by
  have := length_add_le_of_mem sep h htwo
  rw [intercalate_cutAt hsep] at this
  have := List.length_pos_iff.2 hsep
  omega

/-! ## Occurrences of the separator -/

/-- A lead that lacks a character ends before it. -/
theorem prefix_of_prefix_append_cons {lead before after : Text} {c : Char} (hc : c ∉ lead)
    (h : lead <+: before ++ c :: after) : lead <+: before := by
  rcases List.prefix_or_prefix_of_prefix h (List.prefix_append before _) with hlead | hbefore
  · exact hlead
  · obtain ⟨rest, rfl⟩ := hbefore
    cases rest with
    | nil => simp
    | cons d rest =>
      rw [List.prefix_append_right_inj, List.cons_prefix_cons] at h
      exact absurd (by simp [h.1]) hc

/-- Around a character that it lacks, a separator is on one side. -/
theorem infix_append_cons_iff {sep before after : Text} {c : Char} (hc : c ∉ sep) :
    sep <:+: before ++ c :: after ↔ sep <:+: before ∨ sep <:+: after := by
  constructor
  · intro h
    rcases List.infix_append_iff.1 h with h | h | ⟨left, right, rfl, hleft, hright⟩
    · exact .inl h
    · rcases List.infix_cons_iff.1 h with h | h
      · cases sep with
        | nil => exact .inl List.nil_infix
        | cons d sep =>
          obtain ⟨rfl, -⟩ := List.cons_prefix_cons.1 h
          exact absurd (List.mem_cons_self ..) hc
      · exact .inr h
    · cases right with
      | nil => exact .inl (by simpa using hleft.isInfix)
      | cons d right =>
        obtain ⟨rfl, -⟩ := List.cons_prefix_cons.1 hright
        exact absurd (by simp) hc
  · rintro (h | h)
    · exact List.infix_append_of_infix_left h
    · exact List.infix_append_of_infix_right (List.infix_cons h)

/-- Characters that a separator lacks may stand in front of a text that lacks it. -/
theorem not_infix_append_left {sep lead text : Text} (hlead : ∀ c ∈ lead, c ∉ sep)
    (htext : ¬ sep <:+: text) : ¬ sep <:+: lead ++ text := by
  induction lead with
  | nil => exact htext
  | cons c lead ih =>
    have hrest := ih fun d hd => hlead d (List.mem_cons_of_mem _ hd)
    intro h
    have hsides : sep <:+: [] ++ c :: (lead ++ text) := h
    rcases (infix_append_cons_iff (hlead c (by simp))).1 hsides with h | h
    · rw [List.infix_nil] at h
      exact htext (h ▸ List.nil_infix)
    · exact hrest h

/-- Characters that a separator lacks may stand after a text that lacks it. -/
theorem not_infix_append_right {sep text tail : Text} (htext : ¬ sep <:+: text)
    (htail : ∀ c ∈ tail, c ∉ sep) : ¬ sep <:+: text ++ tail := by
  rw [← List.reverse_infix] at htext
  rw [← List.reverse_infix, List.reverse_append]
  exact not_infix_append_left (fun c hc => by simpa using htail c (List.mem_reverse.1 hc)) htext

/-- Texts that lack a word lack it when they are joined by a character that it lacks. -/
theorem not_infix_intercalate {word : Text} (hword : word ≠ []) {c : Char} (hc : c ∉ word)
    {parts : List Text} (hparts : ∀ part ∈ parts, ¬ word <:+: part) :
    ¬ word <:+: [c].intercalate parts := by
  induction parts with
  | nil => simpa [List.intercalate] using hword
  | cons part parts ih =>
    cases parts with
    | nil => simpa [List.intercalate] using hparts part (by simp)
    | cons next parts =>
      have hrest := ih fun other hother => hparts other (List.mem_cons_of_mem _ hother)
      intro hwhole
      rw [List.intercalate_cons_cons, List.append_assoc, List.singleton_append,
        infix_append_cons_iff hc] at hwhole
      exact hwhole.elim (hparts part (by simp)) hrest

theorem not_mem_intercalate {sep : Text} {c : Char} (hsep : c ∉ sep) {parts : List Text}
    (hparts : ∀ part ∈ parts, c ∉ part) : c ∉ sep.intercalate parts := by
  induction parts with
  | nil => simp [List.intercalate]
  | cons part parts ih =>
    cases parts with
    | nil => simpa [List.intercalate] using hparts part (by simp)
    | cons next parts =>
      have hrest := ih fun other hother => hparts other (List.mem_cons_of_mem _ hother)
      rw [List.intercalate_cons_cons, List.mem_append, List.mem_append]
      rintro ((hmem | hmem) | hmem)
      · exact hparts part (by simp) hmem
      · exact hsep hmem
      · exact hrest hmem

theorem startsWith_iff {sep text : Text} : startsWith sep text = true ↔ sep <+: text := by
  unfold startsWith
  rw [Option.isSome_iff_exists]
  constructor
  · rintro ⟨rest, hrest⟩
    exact ⟨rest, (after?_eq_some_iff.1 hrest).symm⟩
  · rintro ⟨rest, rfl⟩
    exact ⟨rest, after?_append sep rest⟩

/-- The characters of a separator that was found are passed over. -/
theorem cutFrom_eq_cutAt (sep : Text) (skip : Nat) (text : Text) :
    cutFrom sep skip text = cutAt sep (text.drop skip) := by
  induction text generalizing skip with
  | nil => cases skip <;> rfl
  | cons c text ih =>
    cases skip with
    | zero => rfl
    | succ skip => exact ih skip

theorem cutAt_nil (sep : Text) : cutAt sep [] = [[]] := rfl

theorem cutAt_sep_append {sep : Text} (hsep : sep ≠ []) (text : Text) :
    cutAt sep (sep ++ text) = [] :: cutAt sep text := by
  cases sep with
  | nil => exact absurd rfl hsep
  | cons c sep =>
    have hstart : startsWith (c :: sep) (c :: (sep ++ text)) = true :=
      startsWith_iff.2 ⟨text, rfl⟩
    rw [List.cons_append, cutAt, cutFrom, if_pos hstart, cutFrom_eq_cutAt]
    simp

theorem cutAt_cons {sep : Text} {c : Char} {text : Text} (h : ¬ sep <+: c :: text) :
    cutAt sep (c :: text) = consFirst c (cutAt sep text) := by
  rw [cutAt, cutFrom, if_neg fun hstart => h (startsWith_iff.1 hstart)]
  rfl

/-- A text is empty, or begins with the separator, or has a first character at which the
separator does not begin. -/
theorem cut_induction {sep : Text} (hsep : sep ≠ []) {P : Text → Prop} (nil : P [])
    (cut : ∀ text, P text → P (sep ++ text))
    (cons : ∀ c text, ¬ sep <+: c :: text → P text → P (c :: text)) (text : Text) : P text := by
  obtain ⟨n, hn⟩ : ∃ n, text.length = n := ⟨_, rfl⟩
  induction n using Nat.strongRecOn generalizing text with
  | _ n ih =>
    cases text with
    | nil => exact nil
    | cons c text =>
      by_cases hstart : sep <+: c :: text
      · obtain ⟨rest, hrest⟩ := hstart
        have hlength := congrArg List.length hrest
        have hpos := List.length_pos_iff.2 hsep
        simp only [List.length_append] at hlength
        rw [← hrest]
        exact cut rest (ih rest.length (by omega) rest rfl)
      · exact cons c text hstart (ih text.length (by simp at hn; omega) text rfl)

theorem consFirst_of_ne_nil (c : Char) {parts : List Text} (h : parts ≠ []) :
    ∃ part rest, parts = part :: rest ∧ consFirst c parts = (c :: part) :: rest := by
  cases parts with
  | nil => exact absurd rfl h
  | cons part rest => exact ⟨part, rest, rfl, rfl⟩

theorem cutAt_ne_nil (sep text : Text) : cutAt sep text ≠ [] :=
  cutFrom_ne_nil sep 0 text

private theorem prefix_of_cutAt_eq_cons {sep text part : Text} {rest : List Text} (hsep : sep ≠ [])
    (h : cutAt sep text = part :: rest) : part <+: text := by
  have htext := intercalate_cutAt hsep text
  rw [h] at htext
  cases rest with
  | nil => exact ⟨[], by simpa [List.intercalate] using htext⟩
  | cons next rest =>
    rw [List.intercalate_cons_cons, List.append_assoc] at htext
    exact ⟨_, htext⟩

theorem not_infix_of_mem_cutAt {sep text part : Text} (hsep : sep ≠ [])
    (h : part ∈ cutAt sep text) : ¬ sep <:+: part := by
  induction text using cut_induction hsep generalizing part with
  | nil =>
    rw [cutAt_nil, List.mem_singleton] at h
    subst h
    simpa using hsep
  | cut text ih =>
    rw [cutAt_sep_append hsep] at h
    rcases List.mem_cons.1 h with rfl | h
    · simpa using hsep
    · exact ih h
  | cons c text hstart ih =>
    rw [cutAt_cons hstart] at h
    obtain ⟨first, rest, hparts, hcons⟩ := consFirst_of_ne_nil c (cutAt_ne_nil sep text)
    rw [hcons] at h
    rw [hparts] at ih
    rcases List.mem_cons.1 h with rfl | h
    · intro hoccurs
      rcases List.infix_cons_iff.1 hoccurs with hlead | hoccurs
      · obtain ⟨tail, htail⟩ := prefix_of_cutAt_eq_cons hsep hparts
        exact hstart (hlead.trans ⟨tail, by rw [List.cons_append, htail]⟩)
      · exact ih (by simp) hoccurs
    · exact ih (List.mem_cons_of_mem _ h)

theorem cutAt_eq_singleton {sep text : Text} (h : ¬ sep <:+: text) : cutAt sep text = [text] := by
  induction text with
  | nil => rfl
  | cons c text ih =>
    have hstart : ¬ sep <+: c :: text := fun hlead => h hlead.isInfix
    have hrest : ¬ sep <:+: text := fun hoccurs => h (List.infix_cons hoccurs)
    rw [cutAt_cons hstart, ih hrest]
    rfl

theorem contains_iff {sep text : Text} (hsep : sep ≠ []) :
    contains sep text = true ↔ sep <:+: text := by
  rw [contains, decide_eq_true_eq]
  constructor
  · intro htwo
    by_cases h : sep <:+: text
    · exact h
    · rw [cutAt_eq_singleton h] at htwo
      simp at htwo
  · intro hoccurs
    match hparts : cutAt sep text with
    | [] => exact absurd hparts (cutAt_ne_nil sep text)
    | [part] =>
      have htext := intercalate_cutAt hsep text
      rw [hparts] at htext
      have hpart : part = text := by simpa [List.intercalate] using htext
      have hmem : part ∈ cutAt sep text := by simp [hparts]
      exact absurd (hpart ▸ hoccurs) (not_infix_of_mem_cutAt hsep hmem)
    | _ :: _ :: _ => simp

theorem one_lt_length_cutAt_iff {sep text : Text} (hsep : sep ≠ []) :
    1 < (cutAt sep text).length ↔ sep <:+: text := by
  rw [← contains_iff hsep, contains, decide_eq_true_eq]

theorem cutAt_append {sep before : Text} (hsep : sep ≠ []) (h : ¬ sep <:+: before ++ sep.dropLast)
    (after : Text) : cutAt sep (before ++ sep ++ after) = before :: cutAt sep after := by
  induction before with
  | nil => exact cutAt_sep_append hsep after
  | cons c before ih =>
    have hrest : ¬ sep <:+: before ++ sep.dropLast := fun hoccurs => h (List.infix_cons hoccurs)
    have hstart : ¬ sep <+: c :: (before ++ sep ++ after) := by
      intro hlead
      have hwhole : c :: (before ++ sep.dropLast) <+: c :: (before ++ sep ++ after) := by
        rw [List.append_assoc, List.prefix_cons_inj, List.prefix_append_right_inj]
        exact (List.dropLast_prefix sep).trans (List.prefix_append sep after)
      have hlength : sep.length ≤ (c :: (before ++ sep.dropLast)).length := by
        simp only [List.length_cons, List.length_append, List.length_dropLast]
        omega
      exact h (List.prefix_of_prefix_length_le hlead hwhole hlength).isInfix
    rw [List.cons_append, List.cons_append, cutAt_cons hstart, ih hrest]
    rfl

end RiskTally.Text
