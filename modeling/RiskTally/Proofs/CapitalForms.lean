import Mathlib.Data.List.Basic
import RiskTally.Text.Blank
import RiskTally.Text.Uppercase

/-!
# Capital forms

The capital form of a text is its own capital form, and it has no blank that the text lacks.
Both are said of every character and rest on the tables alone: no code point to which they map
a character is mapped again, and none is blank.  Written as the bits of two numbers, the code
points on either side are compared in one step.

## Main results

* `disjoint_of_bits`: sets of numbers that share no bit share no member.
* `mapChar_cases`: a mapped character stays as it is, or goes where the tables point.
* `images_settled`: what the tables point to is not mapped again and not blank.
* `upper_upper`: the capital form is taken once.
* `not_blank_of_mem_upper`: the capital form of a word has no blank.
-/

namespace RiskTally.Text

/-! ## Sets of code points -/

/-- A set of numbers as the bits of one number. -/
def bits : List Nat → Nat
  | [] => 0
  | n :: ns => 1 <<< n ||| bits ns

theorem testBit_bits (ns : List Nat) (m : Nat) : (bits ns).testBit m = decide (m ∈ ns) := by
  induction ns with
  | nil => simp [bits]
  | cons n ns ih =>
      rw [bits, Nat.testBit_or, ih, Nat.one_shiftLeft, Nat.testBit_two_pow]
      simp [Bool.decide_or, eq_comm]

theorem disjoint_of_bits {ms ns : List Nat} (h : bits ms &&& bits ns = 0) :
    ∀ n ∈ ms, n ∉ ns := by
  intro n hleft hright
  have hbit : (bits ms &&& bits ns).testBit n = true := by
    rw [Nat.testBit_and, testBit_bits, testBit_bits, decide_eq_true hleft, decide_eq_true hright]
    rfl
  rw [h, Nat.zero_testBit] at hbit
  contradiction

/-! ## Where tables point -/

/-- The code points of a run. -/
def CaseRun.members (run : CaseRun) : List Nat :=
  (List.range ((run.last - run.first) / run.step + 1)).map fun k => run.first + run.step * k

/-- The code points to which a run moves its own. -/
def CaseRun.images (run : CaseRun) : List Nat :=
  run.members.map fun n : Nat => ((n : Int) + run.shift).toNat

theorem CaseRun.mem_members {run : CaseRun} {n : Nat} (h : run.covers n = true) :
    n ∈ run.members := by
  simp only [covers, Bool.and_eq_true, decide_eq_true_eq, beq_iff_eq] at h
  obtain ⟨⟨hfirst, hlast⟩, hstep⟩ := h
  have hplace : (n - run.first) / run.step ≤ (run.last - run.first) / run.step :=
    Nat.div_le_div_right (Nat.sub_le_sub_right hlast run.first)
  have hoffset := Nat.mul_div_cancel' (Nat.dvd_of_mod_eq_zero hstep)
  refine List.mem_map.2 ⟨(n - run.first) / run.step, List.mem_range.2 (by omega), ?_⟩
  rw [hoffset, Nat.add_sub_cancel' hfirst]

section Tables

variable (runs : List CaseRun) (expansions : List (Nat × List Nat))

/-- The code points that the tables map. -/
def mapped : List Nat :=
  runs.flatMap CaseRun.members ++ expansions.map Prod.fst

/-- The code points that the tables map to, and zero, as which any other number is read. -/
def images : List Nat :=
  0 :: (runs.flatMap CaseRun.images ++ expansions.flatMap Prod.snd)

variable {runs expansions}

theorem toNat_ofNat_mem {m : Nat} {ns : List Nat} (h : m ∈ ns) :
    (Char.ofNat m).toNat ∈ 0 :: ns := by
  by_cases hvalid : m.isValidChar
  · rw [Char.ofNat, dif_pos hvalid]
    exact List.mem_cons_of_mem 0 h
  · rw [Char.ofNat, dif_neg hvalid]
    exact List.mem_cons_self

/-- A character of which the tables say nothing is left as it is. -/
theorem mapChar_eq_self {c : Char} (h : c.toNat ∉ mapped runs expansions) :
    mapChar runs expansions c = [c] := by
  simp only [mapped, List.mem_append, List.mem_flatMap, List.mem_map, not_or, not_exists,
    not_and] at h
  have hkey : expansions.lookup c.toNat = none :=
    List.lookup_eq_none_iff.2 fun entry hentry => bne_iff_ne.2 (Ne.symm (h.2 entry hentry))
  have hrun : runs.find? (·.covers c.toNat) = none :=
    List.find?_eq_none.2 fun run hmem hcovers => h.1 run hmem (CaseRun.mem_members hcovers)
  rw [mapChar, hkey, hrun]

/-- A mapped character is left as it is, or consists of what the tables map to. -/
theorem mapChar_cases (runs : List CaseRun) (expansions : List (Nat × List Nat)) (c : Char) :
    mapChar runs expansions c = [c] ∨
      ∀ d ∈ mapChar runs expansions c, d.toNat ∈ images runs expansions := by
  unfold mapChar
  split
  · rename_i ns hlookup
    right
    obtain ⟨before, after, hentries, -⟩ := List.lookup_eq_some_iff.1 hlookup
    intro d hd
    obtain ⟨n, hn, rfl⟩ := List.mem_map.1 hd
    have hexpansion : n ∈ expansions.flatMap Prod.snd :=
      List.mem_flatMap.2 ⟨(c.toNat, ns), by simp [hentries], hn⟩
    exact toNat_ofNat_mem (List.mem_append_right _ hexpansion)
  · split
    · rename_i run hfind
      right
      intro d hd
      obtain rfl := List.mem_singleton.1 hd
      have hmember : c.toNat ∈ run.members :=
        CaseRun.mem_members (by simpa using List.find?_some hfind)
      have himage : ((c.toNat : Int) + run.shift).toNat ∈ runs.flatMap CaseRun.images :=
        List.mem_flatMap.2 ⟨run, List.mem_of_find?_eq_some hfind, List.mem_map_of_mem hmember⟩
      exact toNat_ofNat_mem (List.mem_append_left _ himage)
    · exact .inl rfl

/-- If nothing that tables map to is mapped again, they map once. -/
theorem flatMap_mapChar (h : ∀ n ∈ images runs expansions, n ∉ mapped runs expansions)
    (c : Char) : (mapChar runs expansions c).flatMap (mapChar runs expansions) =
      mapChar runs expansions c := by
  rcases mapChar_cases runs expansions c with hself | himages
  · rw [hself, List.flatMap_singleton, hself]
  · have hstays : ∀ d ∈ mapChar runs expansions c, mapChar runs expansions d = [d] :=
      fun d hd => mapChar_eq_self (h _ (himages d hd))
    rw [List.flatMap_congr hstays, List.flatMap_singleton']

end Tables

/-! ## The table of capital forms -/

/-- The code points of the blanks. -/
def blanks : List Nat :=
  List.range' 0x09 5 ++ List.range' 0x2000 11 ++
    [0x20, 0x85, 0xA0, 0x1680, 0x2028, 0x2029, 0x202F, 0x205F, 0x3000]

theorem toNat_mem_blanks {c : Char} (h : isBlank c = true) : c.toNat ∈ blanks := by
  simp only [isBlank, Bool.or_eq_true, Bool.and_eq_true, decide_eq_true_eq, beq_iff_eq] at h
  simp only [blanks, List.mem_append, List.mem_range'_1, List.mem_cons, List.not_mem_nil, or_false]
  omega

/-- What stands in a capital form has no other capital form and is not blank. -/
theorem images_settled : ∀ n ∈ images uppercaseRuns uppercaseExpansions,
    n ∉ mapped uppercaseRuns uppercaseExpansions ++ blanks :=
  disjoint_of_bits (by decide +kernel)

theorem upper_upperChar (c : Char) : upper (upperChar c) = upperChar c :=
  flatMap_mapChar (fun n hn hmapped => images_settled n hn (List.mem_append_left _ hmapped)) c

/-- The capital form of a text is its own capital form. -/
theorem upper_upper (text : Text) : upper (upper text) = upper text := by
  have hchars : upper (upper text) = text.flatMap fun c => upper (upperChar c) :=
    List.flatMap_assoc
  rw [hchars, List.flatMap_congr fun c _ => upper_upperChar c]
  rfl

theorem upper_comp_upper : upper ∘ upper = upper :=
  funext upper_upper

theorem not_blank_of_mem_upperChar {c d : Char} (hc : isBlank c = false)
    (hd : d ∈ upperChar c) : isBlank d = false := by
  rcases mapChar_cases uppercaseRuns uppercaseExpansions c with hself | himages
  · rw [upperChar, hself, List.mem_singleton] at hd
    rwa [hd]
  · by_contra hblank
    have hpoint := toNat_mem_blanks (eq_true_of_ne_false hblank)
    exact images_settled _ (himages d hd) (List.mem_append_right _ hpoint)

/-- The capital form of a text without blanks has none. -/
theorem not_blank_of_mem_upper {text : Text} (h : ∀ c ∈ text, isBlank c = false) :
    ∀ d ∈ upper text, isBlank d = false := by
  intro d hd
  obtain ⟨c, hc, hchar⟩ := List.mem_flatMap.1 hd
  exact not_blank_of_mem_upperChar (h c hc) hchar

end RiskTally.Text
