import RiskTally.Number.Integer

/-!
# Column names of a sheet

A header may repeat a name. Every repetition gets the suffix `.1`, `.2` and so on, with
the least number whose name is still free, so that each column can be named.

## Main results

* `length_distinct`: renaming loses no column.
* `distinct_of_nodup`: names that all differ are kept.
-/

namespace RiskTally.Csv

/-- The name for its `k`-th repetition. -/
def suffixed (name : Text) (k : Nat) : Text :=
  name ++ '.' :: natText k

/-- The name itself if it is free, else its first free repetition. -/
def freshName (taken : List Text) (name : Text) : Text :=
  if taken.contains name then
    let free := fun candidate => !taken.contains candidate
    (((List.range' 1 (taken.length + 1)).map (suffixed name)).find? free).getD name
  else name

/-- The names with every repetition renamed, after the names already `taken`. -/
def distinctFrom (taken : List Text) : List Text → List Text
  | [] => []
  | name :: names =>
    let fresh := freshName taken name
    fresh :: distinctFrom (taken ++ [fresh]) names

/-- The names with every repetition renamed. -/
def distinct (names : List Text) : List Text :=
  distinctFrom [] names

theorem length_distinctFrom (taken names : List Text) :
    (distinctFrom taken names).length = names.length := by
  induction names generalizing taken with
  | nil => rfl
  | cons name names ih => simp [distinctFrom, ih]

theorem length_distinct (names : List Text) : (distinct names).length = names.length :=
  length_distinctFrom [] names

theorem distinctFrom_of_nodup {taken names : List Text} (h : (taken ++ names).Nodup) :
    distinctFrom taken names = names := by
  induction names generalizing taken with
  | nil => rfl
  | cons name names ih =>
    have hfree : name ∉ taken := fun hmem =>
      (List.nodup_append.1 h).2.2 name hmem name (List.mem_cons_self ..) rfl
    have hname : freshName taken name = name := by
      unfold freshName
      rw [if_neg (by simpa using hfree)]
    have hrest : distinctFrom (taken ++ [name]) names = names := ih (by simpa using h)
    simp only [distinctFrom]
    rw [hname, hrest]

theorem distinct_of_nodup {names : List Text} (h : names.Nodup) : distinct names = names :=
  distinctFrom_of_nodup h

example : distinct ["id".toList, "id".toList, "id.1".toList, "id".toList] =
    ["id".toList, "id.1".toList, "id.1.1".toList, "id.2".toList] := by decide

end RiskTally.Csv
