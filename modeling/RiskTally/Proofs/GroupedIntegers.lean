import Mathlib.Data.List.Basic
import RiskTally.Present.Grouped

/-!
# Integers in groups of three digits

The groups are counted from the right and the text is read from the left, where the first group
may be shorter than the others.  Whoever writes from the left puts a comma before each digit
with which a multiple of three digits is still to come, unless it is the first.  Nothing else
than commas is put in, so that an integer is read off its groups.

## Main results

* `groupDigits_reverse`: grouped from the right or from the left, the digits are the same.
* `inGroups_reverse`: a short group, and then groups of a comma and three digits.
* `filter_groupedText`: the integer is what is left without the commas.
* `groupedText_groups`: the text of every integer of 64 bits.
-/

namespace RiskTally

/-! ## From the left -/

/-- Whether of so many digits the one at a place has a comma before it. -/
def commaBefore (length place : Nat) : Bool :=
  0 < place && (length - place) % 3 == 0

/-- The digits with their commas, one after the other from the left. -/
def groupedFromLeft (digits : Text) : Text :=
  digits.zipIdx.flatMap fun entry =>
    if commaBefore digits.length entry.2 then [',', entry.1] else [entry.1]

/-- Up to three digits stand without a comma. -/
theorem groupedFromLeft_of_short {digits : Text} (h : digits.length ≤ 3) :
    groupedFromLeft digits = digits := by
  have hcomma : ∀ entry ∈ digits.zipIdx, commaBefore digits.length entry.2 = false := by
    intro entry hentry
    have hplace := List.snd_lt_of_mem_zipIdx hentry
    simp only [commaBefore, Bool.and_eq_false_iff, decide_eq_false_iff_not, beq_eq_false_iff_ne]
    omega
  have hplain : groupedFromLeft digits = digits.zipIdx.flatMap fun entry => [entry.1] :=
    List.flatMap_congr fun entry hentry => by rw [hcomma entry hentry]; rfl
  rw [hplain, ← List.map_eq_flatMap, List.zipIdx_map_fst]

/-- Three more digits are one more group, and the commas before it stay where they are. -/
theorem groupedFromLeft_append {digits : Text} (hne : digits ≠ []) (a b c : Char) :
    groupedFromLeft (digits ++ [a, b, c]) = groupedFromLeft digits ++ [',', a, b, c] := by
  have hlength := List.length_pos_iff.2 hne
  have hstays : ∀ entry ∈ digits.zipIdx,
      commaBefore (digits.length + 3) entry.2 = commaBefore digits.length entry.2 := by
    intro entry hentry
    have hplace := List.snd_lt_of_mem_zipIdx hentry
    have hmod : (digits.length + 3 - entry.2) % 3 = (digits.length - entry.2) % 3 := by omega
    rw [commaBefore, commaBefore, hmod]
  have hbefore : (digits.zipIdx.flatMap fun entry =>
      if commaBefore (digits.length + 3) entry.2 then [',', entry.1] else [entry.1]) =
        groupedFromLeft digits :=
    List.flatMap_congr fun entry hentry => by rw [hstays entry hentry]
  have hplaces : [a, b, c].zipIdx (0 + digits.length) =
      [(a, digits.length), (b, digits.length + 1), (c, digits.length + 2)] := by
    simp [List.zipIdx_cons, Nat.add_assoc]
  have hfirst : commaBefore (digits.length + 3) digits.length = true := by
    simp only [commaBefore, Bool.and_eq_true, decide_eq_true_eq, beq_iff_eq]
    omega
  have hlater : ∀ k, 1 ≤ k → k ≤ 2 →
      commaBefore (digits.length + 3) (digits.length + k) = false := by
    intro k hpos hle
    simp only [commaBefore, Bool.and_eq_false_iff, beq_eq_false_iff_ne]
    omega
  rw [groupedFromLeft, List.length_append, List.zipIdx_append, List.flatMap_append, hplaces]
  simp only [List.length_cons, List.length_nil, Nat.zero_add, Nat.reduceAdd]
  rw [hbefore]
  simp [hfirst, hlater]

/-- Where three digits cannot be split off there are fewer. -/
theorem length_lt_of_short {digits : Text}
    (h : ∀ (a b c : Char) (rest : Text), digits = a :: b :: c :: rest → False) :
    digits.length < 3 := by
  match digits with
  | [] | [_] | [_, _] => simp
  | a :: b :: c :: rest => exact (h a b c rest rfl).elim

/-- Grouped from the right or from the left, the digits are the same. -/
theorem groupDigits_reverse (digits : Text) :
    (groupDigits digits).reverse = groupedFromLeft digits.reverse := by
  fun_induction groupDigits digits with
  | case1 a b c => exact (groupedFromLeft_of_short (by simp)).symm
  | case2 a b c rest hrest ih =>
      have hparts : (a :: b :: c :: rest).reverse = rest.reverse ++ [c, b, a] := by simp
      rw [hparts, groupedFromLeft_append (by simpa using hrest), ← ih]
      simp
  | case3 digits hshort =>
      rw [groupedFromLeft_of_short (by simpa using Nat.le_of_lt (length_lt_of_short hshort))]

theorem groupedFromLeft_eq (digits : Text) :
    groupedFromLeft digits = (groupDigits digits.reverse).reverse := by
  rw [groupDigits_reverse, List.reverse_reverse]

/-! ## Groups -/

/-- One to three digits, and then any number of groups of a comma and three digits. -/
inductive InGroups : Text → Prop
  | first {group : Text} (hpos : 1 ≤ group.length) (hle : group.length ≤ 3)
      (hdigits : ∀ c ∈ group, c.isDigit = true) : InGroups group
  | more {text group : Text} (htext : InGroups text) (hlength : group.length = 3)
      (hdigits : ∀ c ∈ group, c.isDigit = true) : InGroups (text ++ ',' :: group)

theorem InGroups.ne_nil {text : Text} (h : InGroups text) : text ≠ [] := by
  cases h with
  | first hpos => exact List.length_pos_iff.1 hpos
  | more => simp

/-- Groups begin with a digit. -/
theorem InGroups.isDigit_of_head? {text : Text} (h : InGroups text) :
    ∀ c ∈ text.head?, c.isDigit = true := by
  induction h with
  | first _ _ hdigits => exact fun c hc => hdigits c (List.mem_of_mem_head? hc)
  | more htext _ _ ih => rwa [List.head?_append_of_ne_nil _ htext.ne_nil]

/-- Groups end in a digit. -/
theorem InGroups.isDigit_of_getLast? {text : Text} (h : InGroups text) :
    ∀ c ∈ text.getLast?, c.isDigit = true := by
  cases h with
  | first _ _ hdigits => exact fun c hc => hdigits c (List.mem_of_mem_getLast? hc)
  | @more text group _ hlength hdigits =>
      have hgroup : group ≠ [] := by
        rintro rfl
        contradiction
      intro c hc
      rw [List.getLast?_append_of_ne_nil _ (List.cons_ne_nil ',' group),
        List.getLast?_cons_of_ne_nil hgroup] at hc
      exact hdigits c (List.mem_of_mem_getLast? hc)

/-- Grouped from the right, digits are in groups when they are read from the left. -/
theorem inGroups_reverse {digits : Text} (hne : digits ≠ [])
    (h : ∀ c ∈ digits, c.isDigit = true) : InGroups (groupDigits digits).reverse := by
  fun_induction groupDigits digits with
  | case1 a b c => exact .first (by simp) (by simp) fun d hd => h d (List.mem_reverse.1 hd)
  | case2 a b c rest hrest ih =>
      have hparts : (a :: b :: c :: ',' :: groupDigits rest).reverse =
          (groupDigits rest).reverse ++ ',' :: [a, b, c].reverse := by simp
      have hgroup : ∀ d ∈ [a, b, c].reverse, d.isDigit = true := fun d hd =>
        h d (List.mem_append_left rest (List.mem_reverse.1 hd))
      have hleft := ih hrest fun d hd => h d (List.mem_append_right [a, b, c] hd)
      rw [hparts]
      exact hleft.more rfl hgroup
  | case3 digits hshort =>
      refine .first ?_ ?_ fun d hd => h d (List.mem_reverse.1 hd)
      · exact List.length_pos_iff.2 (by simpa using hne)
      · simpa using Nat.le_of_lt (length_lt_of_short hshort)

/-! ## Integers -/

theorem intText_injective {a b : Int64} (h : intText a.toInt = intText b.toInt) : a = b := by
  have hread := readInteger?_intText a
  rw [h, readInteger?_intText] at hread
  exact (Option.some.inj hread).symm

theorem groupedText_eq (n : Int64) :
    groupedText n =
      (if n.toInt < 0 then ['-'] else []) ++ groupedFromLeft (natText n.toInt.natAbs) := by
  rw [groupedFromLeft_eq, groupedText]
  split <;> rfl

/-- The integer is what is left without the commas. -/
theorem filter_groupedText (n : Int64) : (groupedText n).filter (· ≠ ',') = intText n.toInt := by
  have hcomma : ',' ∉ (natText n.toInt.natAbs).reverse := by
    intro hmem
    exact absurd (isDigit_of_mem_natText (List.mem_reverse.1 hmem)) (by decide)
  have hdigits : ((groupDigits (natText n.toInt.natAbs).reverse).reverse).filter (· ≠ ',') =
      natText n.toInt.natAbs := by
    rw [List.filter_reverse, filter_groupDigits hcomma, List.reverse_reverse]
  unfold groupedText intText
  dsimp only
  split
  · rw [List.filter_cons_of_pos (by decide), hdigits]
  · exact hdigits

/-- The digits of a magnitude, with their commas, are in groups. -/
theorem inGroups_natText (magnitude : Nat) : InGroups (groupedFromLeft (natText magnitude)) := by
  rw [groupedFromLeft_eq]
  refine inGroups_reverse ?_ fun c hc => isDigit_of_mem_natText (List.mem_reverse.1 hc)
  exact fun hnil => natText_ne_nil magnitude (List.reverse_eq_nil_iff.1 hnil)

/-- Different integers have different texts. -/
theorem groupedText_injective : Function.Injective groupedText := fun a b h =>
  intText_injective (by rw [← filter_groupedText, ← filter_groupedText, h])

theorem head?_groupedText (n : Int64) : (groupedText n).head? ≠ some ',' := by
  rw [groupedText_eq]
  intro hcomma
  split at hcomma
  · cases hcomma
  · exact absurd ((inGroups_natText _).isDigit_of_head? ',' hcomma) (by decide)

theorem getLast?_groupedText (n : Int64) : (groupedText n).getLast? ≠ some ',' := by
  have hgroups := inGroups_natText n.toInt.natAbs
  rw [groupedText_eq, List.getLast?_append_of_ne_nil _ hgroups.ne_nil]
  exact fun hcomma => absurd (hgroups.isDigit_of_getLast? ',' hcomma) (by decide)

/-- The text of an integer of 64 bits: after the sign of a negative one, the smallest included,
the digits of its magnitude stand in groups, with commas between groups only.  Without the commas
it is the text of the integer, which it therefore tells. -/
theorem groupedText_groups :
    (∀ n : Int64,
      groupedText n =
        (if n.toInt < 0 then ['-'] else []) ++ groupedFromLeft (natText n.toInt.natAbs) ∧
      InGroups (groupedFromLeft (natText n.toInt.natAbs)) ∧
      (groupedText n).filter (· ≠ ',') = intText n.toInt ∧
      (groupedText n).head? ≠ some ',' ∧ (groupedText n).getLast? ≠ some ',') ∧
    Function.Injective groupedText :=
  ⟨fun n => ⟨groupedText_eq n, inGroups_natText _, filter_groupedText n, head?_groupedText n,
    getLast?_groupedText n⟩, groupedText_injective⟩

end RiskTally
