import RiskTally.Text.Basic

/-!
# Values under names, in order of insertion

A table of values under pairwise distinct names that keeps the order in which the names
were first put. Putting a value under a name that is there replaces the value and keeps
its place.

## Main results

* `Keyed.get?_put`: putting a value changes what stands under that name only.
* `Keyed.keys_put`: a new name comes last, an old one keeps its place.
* `Keyed.nodup_keys_ofList`: the names are pairwise distinct.
-/

namespace RiskTally

/-- Values under names, first-put names first. -/
abbrev Keyed (α : Type) := List (Text × α)

namespace Keyed

variable {α : Type}

/-- The names in order of insertion. -/
def keys (table : Keyed α) : List Text :=
  table.map Prod.fst

/-- The value under a name. -/
def get? : Keyed α → Text → Option α
  | [], _ => none
  | (key, value) :: table, name => if key = name then some value else get? table name

/-- The table with a value put under a name. -/
def put (name : Text) (value : α) : Keyed α → Keyed α
  | [] => [(name, value)]
  | (key, old) :: table =>
    if key = name then (key, value) :: table else (key, old) :: put name value table

/-- The table with several values put, the first one first. -/
def putAll (table : Keyed α) (entries : List (Text × α)) : Keyed α :=
  entries.foldl (fun table entry => put entry.1 entry.2 table) table

/-- The table of a list of values under names: of several under one name the last one,
in the place of the first one. -/
def ofList (entries : List (Text × α)) : Keyed α :=
  putAll [] entries

theorem get?_put (name other : Text) (value : α) (table : Keyed α) :
    (put name value table).get? other = if other = name then some value else table.get? other := by
  induction table with
  | nil => simp [put, get?, eq_comm]
  | cons entry table ih =>
    obtain ⟨key, old⟩ := entry
    by_cases hk : key = name
    · subst hk
      by_cases ho : other = key
      · simp [put, get?, ho]
      · simp [put, get?, ho, Ne.symm ho]
    · by_cases ho : key = other
      · subst ho
        simp [put, get?, hk]
      · simp [put, get?, hk, ho, ih]

theorem keys_put (name : Text) (value : α) (table : Keyed α) :
    (put name value table).keys =
      if name ∈ table.keys then table.keys else table.keys ++ [name] := by
  induction table with
  | nil => simp [put, keys]
  | cons entry table ih =>
    obtain ⟨key, old⟩ := entry
    unfold keys at ih ⊢
    unfold put
    by_cases hk : key = name
    · simp [hk]
    · have : name ≠ key := Ne.symm hk
      simp only [if_neg hk, List.map_cons, ih, List.mem_cons, this, false_or]
      split <;> simp

theorem nodup_keys_put {name : Text} {value : α} {table : Keyed α} (h : table.keys.Nodup) :
    (put name value table).keys.Nodup := by
  rw [keys_put]
  split
  · exact h
  · rename_i hname
    exact List.nodup_append.2 ⟨h, by simp, fun a ha b hb => by
      rintro rfl
      exact hname (List.mem_singleton.1 hb ▸ ha)⟩

theorem nodup_keys_putAll {entries : List (Text × α)} {table : Keyed α} (h : table.keys.Nodup) :
    (putAll table entries).keys.Nodup := by
  induction entries generalizing table with
  | nil => exact h
  | cons entry entries ih => exact ih (nodup_keys_put h)

theorem nodup_keys_ofList (entries : List (Text × α)) : (ofList entries).keys.Nodup :=
  nodup_keys_putAll (by simp [keys])

theorem mem_of_get? {table : Keyed α} {name : Text} {value : α} (h : table.get? name = some value) :
    (name, value) ∈ table := by
  induction table with
  | nil => simp [get?] at h
  | cons entry table ih =>
    obtain ⟨key, old⟩ := entry
    unfold get? at h
    split at h
    · rename_i hkey
      simp_all
    · exact List.mem_cons_of_mem _ (ih h)

theorem get?_eq_none_iff {table : Keyed α} {name : Text} :
    table.get? name = none ↔ name ∉ table.keys := by
  induction table with
  | nil => simp [get?, keys]
  | cons entry table ih =>
    obtain ⟨key, old⟩ := entry
    by_cases hk : key = name
    · simp [get?, keys, hk]
    · have hk' : name ≠ key := Ne.symm hk
      simpa [get?, keys, hk, hk'] using ih

theorem get?_map {β : Type} (f : α → β) (table : Keyed α) (name : Text) :
    get? (table.map fun entry => (entry.1, f entry.2)) name = (table.get? name).map f := by
  induction table with
  | nil => rfl
  | cons entry table ih =>
    obtain ⟨key, old⟩ := entry
    by_cases hk : key = name
    · simp [get?, hk]
    · simpa [get?, hk] using ih

/-! ## Properties of every value -/

private theorem forall_mem_put {P : α → Prop} {name : Text} {value : α} {table : Keyed α}
    (hvalue : P value) (htable : ∀ entry ∈ table, P entry.2) :
    ∀ entry ∈ Keyed.put name value table, P entry.2 := by
  induction table with
  | nil => simpa [put] using hvalue
  | cons entry table ih =>
    obtain ⟨key, old⟩ := entry
    have hold := htable (key, old) (by simp)
    have htable' := fun entry h => htable entry (List.mem_cons_of_mem _ h)
    unfold put
    split
    · intro entry h
      rcases List.mem_cons.1 h with rfl | h
      · exact hvalue
      · exact htable' entry h
    · intro entry h
      rcases List.mem_cons.1 h with rfl | h
      · exact hold
      · exact ih htable' entry h

theorem forall_mem_ofList {P : α → Prop} {entries : List (Text × α)}
    (h : ∀ entry ∈ entries, P entry.2) : ∀ entry ∈ ofList entries, P entry.2 := by
  suffices ∀ table : Keyed α, (∀ entry ∈ table, P entry.2) →
      ∀ entry ∈ putAll table entries, P entry.2 from this [] (by simp)
  induction entries with
  | nil => exact fun _ htable => htable
  | cons entry entries ih =>
    exact fun table htable => ih (fun e he => h e (List.mem_cons_of_mem _ he)) _
      (forall_mem_put (h entry (by simp)) htable)

end Keyed

end RiskTally
