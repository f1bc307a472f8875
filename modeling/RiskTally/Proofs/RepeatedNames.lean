import RiskTally.Proofs.SheetColumns

/-!
# Repeated names of a header

A header is renamed from the left.  Each name is looked for among the names so far, and as long
as it is found there its next repetition is tried instead.  The names so far may hold written
repetitions, such as `a.1` before a second `a`, so that a search can take any number of rounds.
It ends because the repetitions of a name differ, and one more of them than there are names so
far cannot all be taken.

## Main results

* `Csv.Search.unique`: a search ends in one way at most.
* `Csv.search_iff`: every search ends, with the name itself or its least free repetition.
* `Csv.renaming_iff`: going through a header always ends, with its names made distinct.
* `Csv.renamesFrom_iff`: these are the only names of which each is told by those before it.
* `Csv.distinct_renames`: what becomes of a header, and of the columns under it.
-/

namespace RiskTally

namespace Csv

/-! ## The search for a name -/

section Search

variable {taken : List Text} {name : Text}

/-- The rounds of a search: a candidate that is free is found, and after one that is taken the
next repetition becomes the candidate. -/
inductive Search (taken : List Text) (name : Text) : (next : Nat) → (candidate found : Text) → Prop
  | free {next : Nat} {candidate : Text} (hfree : candidate ∉ taken) :
      Search taken name next candidate candidate
  | round {next : Nat} {candidate found : Text} (htaken : candidate ∈ taken)
      (hsearch : Search taken name (next + 1) (suffixed name next) found) :
      Search taken name next candidate found

/-- A search ends in one way at most. -/
theorem Search.unique {next : Nat} {candidate found other : Text}
    (h : Search taken name next candidate found) (h' : Search taken name next candidate other) :
    found = other := by
  induction h with
  | free hfree =>
      cases h' with
      | free => rfl
      | round htaken => exact absurd htaken hfree
  | round htaken _ ih =>
      cases h' with
      | free hfree => exact absurd htaken hfree
      | round _ hsearch => exact ih hsearch

/-- The name itself if it is free, else its least free repetition. -/
inductive Fresh (taken : List Text) (name : Text) : Text → Prop
  | kept (hfree : name ∉ taken) : Fresh taken name name
  | renamed {k : Nat} (htaken : name ∈ taken) (hpos : 1 ≤ k) (hfree : suffixed name k ∉ taken)
      (hleast : ∀ j, 1 ≤ j → j < k → suffixed name j ∈ taken) : Fresh taken name (suffixed name k)

/-- Before the least free repetition every round leads to the next. -/
theorem search_suffixed {k : Nat} (hfree : suffixed name k ∉ taken)
    (hleast : ∀ j, 1 ≤ j → j < k → suffixed name j ∈ taken) {j : Nat} (hpos : 1 ≤ j)
    (hle : j ≤ k) : Search taken name (j + 1) (suffixed name j) (suffixed name k) := by
  induction hle using Nat.decreasingInduction with
  | self => exact .free hfree
  | of_succ j hlt ih => exact .round (hleast j hpos hlt) (ih (by omega))

/-- A search ends with the name that it is for. -/
theorem Fresh.search {found : Text} (h : Fresh taken name found) :
    Search taken name 1 name found := by
  cases h with
  | kept hfree => exact .free hfree
  | renamed htaken hpos hfree hleast =>
      exact .round htaken (search_suffixed hfree hleast Nat.le.refl hpos)

theorem fresh_freshName (taken : List Text) (name : Text) :
    Fresh taken name (freshName taken name) := by
  by_cases htaken : name ∈ taken
  · obtain ⟨candidate, hcandidate, hfree⟩ := exists_free taken name
    cases hfound : (List.range' 1 (taken.length + 1)).find?
        ((fun candidate => !taken.contains candidate) ∘ suffixed name) with
    | none =>
        obtain ⟨k, hk, rfl⟩ := List.mem_map.1 hcandidate
        exact absurd (List.find?_eq_none.1 hfound k hk) (by simpa using hfree)
    | some k =>
        obtain ⟨hfree, hk, hleast⟩ := List.find?_range'_eq_some.1 hfound
        have hname : freshName taken name = suffixed name k := by
          rw [freshName, if_pos (by simpa using htaken)]
          dsimp only
          rw [List.find?_map, hfound]
          rfl
        rw [hname]
        exact .renamed htaken (List.mem_range'_1.1 hk).1 (by simpa using hfree)
          fun j hpos hlt => by simpa using hleast j hpos hlt
  · have hname : freshName taken name = name := if_neg (by simpa using htaken)
    rw [hname]
    exact .kept htaken

/-- Every search ends, in one way. -/
theorem search_iff {found : Text} :
    Search taken name 1 name found ↔ found = freshName taken name := by
  have hends := (fresh_freshName taken name).search
  constructor
  · intro h
    exact h.unique hends
  · rintro rfl
    exact hends

theorem fresh_iff {found : Text} : Fresh taken name found ↔ found = freshName taken name := by
  constructor
  · intro h
    exact search_iff.1 h.search
  · rintro rfl
    exact fresh_freshName taken name

end Search

/-! ## Going through a header -/

/-- One name after the other is searched for among those found so far. -/
inductive Renaming : (taken names result : List Text) → Prop
  | done {taken : List Text} : Renaming taken [] taken
  | step {taken names result : List Text} {name found : Text}
      (hsearch : Search taken name 1 name found)
      (hrest : Renaming (taken ++ [found]) names result) : Renaming taken (name :: names) result

theorem renaming_from_iff {taken names result : List Text} :
    Renaming taken names result ↔ result = taken ++ distinctFrom taken names := by
  induction names generalizing taken with
  | nil =>
      rw [distinctFrom, List.append_nil]
      constructor
      · rintro ⟨⟩
        rfl
      · rintro rfl
        exact .done
  | cons name names ih =>
      have hparts : taken ++ distinctFrom taken (name :: names) =
          (taken ++ [freshName taken name]) ++
            distinctFrom (taken ++ [freshName taken name]) names := by
        simp [distinctFrom]
      rw [hparts, ← ih]
      constructor
      · rintro (_ | ⟨hsearch, hrest⟩)
        rwa [search_iff.1 hsearch] at hrest
      · exact .step (search_iff.2 rfl)

/-- Going through a header always ends, with its names made distinct. -/
theorem renaming_iff {names result : List Text} :
    Renaming [] names result ↔ result = distinct names :=
  renaming_from_iff

/-! ## Names told by those before them -/

/-- After the names already taken each name of the result is its original, or the least free
repetition of it if it stands before. -/
structure RenamesFrom (taken names result : List Text) : Prop where
  length_eq : result.length = names.length
  fresh : ∀ (i : Nat) (name found : Text), names[i]? = some name → result[i]? = some found →
    Fresh (taken ++ result.take i) name found

theorem renamesFrom_cons {taken names result : List Text} {name found : Text} :
    RenamesFrom taken (name :: names) (found :: result) ↔
      Fresh taken name found ∧ RenamesFrom (taken ++ [found]) names result := by
  constructor
  · intro h
    have hfirst := h.fresh 0 name found rfl rfl
    rw [List.take_zero, List.append_nil] at hfirst
    refine ⟨hfirst, by simpa using h.length_eq, fun i other found' hother hfound' => ?_⟩
    have hlater := h.fresh (i + 1) other found' hother hfound'
    rwa [List.take_succ_cons, ← List.singleton_append, ← List.append_assoc] at hlater
  · rintro ⟨hfirst, hrest⟩
    refine ⟨by simp [hrest.length_eq], fun i other found' hother hfound' => ?_⟩
    cases i with
    | zero =>
        obtain rfl := Option.some.inj hother
        obtain rfl := Option.some.inj hfound'
        rwa [List.take_zero, List.append_nil]
    | succ i =>
        rw [List.take_succ_cons, ← List.singleton_append, ← List.append_assoc]
        exact hrest.fresh i other found' hother hfound'

/-- The names that are made distinct are the only ones of this kind. -/
theorem renamesFrom_iff {taken names result : List Text} :
    RenamesFrom taken names result ↔ result = distinctFrom taken names := by
  induction names generalizing taken result with
  | nil =>
      constructor
      · intro h
        exact List.length_eq_zero_iff.1 h.length_eq
      · rintro rfl
        exact ⟨rfl, by simp⟩
  | cons name names ih =>
      cases result with
      | nil =>
          constructor
          · intro h
            exact absurd h.length_eq (by simp)
          · intro h
            exact absurd h (by simp [distinctFrom])
      | cons found result =>
          rw [renamesFrom_cons, fresh_iff, ih, distinctFrom]
          constructor
          · rintro ⟨rfl, rfl⟩
            rfl
          · intro h
            obtain ⟨rfl, rfl⟩ := List.cons.inj h
            exact ⟨rfl, rfl⟩

/-! ## The columns of a header -/

/-- Going through a header always ends, and the names that come out are as many and differ.  Each
is its original, or the least repetition that is free where the original stands before; no other
names are told so.  Names that differ stay, so that a second time changes nothing, and every
column of a frame is found under its own name. -/
theorem distinct_renames (names : List Text) :
    (∀ result, Renaming [] names result ↔ result = distinct names) ∧
      (∀ result, RenamesFrom [] names result ↔ result = distinct names) ∧
      (distinct names).Nodup ∧ (names.Nodup → distinct names = names) ∧
      distinct (distinct names) = distinct names ∧
      ∀ (settings : ReadSettings) (rows : List (List (Option Text))) (skipped : Nat),
        (Frame.ofSheet settings ⟨distinct names, rows, skipped⟩).columns.keys = distinct names ∧
          ∀ (place : Nat) (name : Text), (distinct names)[place]? = some name →
            (Frame.ofSheet settings ⟨distinct names, rows, skipped⟩).column? name =
              some (typeCells settings (Frame.rawColumn rows place)) := by
  have hdistinct := nodup_distinct names
  refine ⟨fun _ => renaming_iff, fun _ => renamesFrom_iff, hdistinct, distinct_of_nodup,
    distinct_of_nodup hdistinct, fun settings rows skipped => ?_⟩
  exact ⟨Frame.keys_ofSheet settings hdistinct, fun place name hplace =>
    Frame.column?_of_place settings hdistinct hplace⟩

/-- A header that repeats a name and already holds a written repetition of it.  The repeated
column is found under the next repetition. -/
theorem distinct_renames_written_repetition :
    distinct ["a".toList, "a.1".toList, "a".toList] =
        ["a".toList, "a.1".toList, "a.2".toList] ∧
      distinct ["a".toList, "a.1".toList, "a.2".toList] =
        ["a".toList, "a.1".toList, "a.2".toList] ∧
      ∀ (settings : ReadSettings) (rows : List (List (Option Text))) (skipped : Nat),
        (Frame.ofSheet settings
            ⟨distinct ["a".toList, "a.1".toList, "a".toList], rows, skipped⟩).column?
              "a.2".toList = some (typeCells settings (Frame.rawColumn rows 2)) := by
  obtain ⟨-, -, -, hstays, -, -⟩ :=
    distinct_renames ["a".toList, "a.1".toList, "a.2".toList]
  obtain ⟨-, -, -, -, -, hcolumns⟩ := distinct_renames ["a".toList, "a.1".toList, "a".toList]
  exact ⟨by decide, hstays (by decide), fun settings rows skipped =>
    (hcolumns settings rows skipped).2 2 "a.2".toList (by decide)⟩

end Csv

end RiskTally
