import RiskTally.Text.Basic

/-!
# Runs of case mappings

Most letters of a script change case by a constant distance, either every one of a
stretch or every second one. A `CaseRun` is such a stretch, and a character is mapped by
the first run that covers it.

## Main results

* `mapChar_ne_nil`: a mapped character never vanishes, as long as no expansion is empty.
-/

namespace RiskTally.Text

/-- The code points `first`, `first + step`, … `last`, each moved by `shift`. -/
structure CaseRun where
  first : Nat
  last : Nat
  step : Nat
  shift : Int

/-- The code point belongs to the run. -/
def CaseRun.covers (run : CaseRun) (n : Nat) : Bool :=
  run.first ≤ n && n ≤ run.last && (n - run.first) % run.step == 0

/-- The other case of a character: its expansion, else its place in the first run that
covers it, else the character itself. -/
def mapChar (runs : List CaseRun) (expansions : List (Nat × List Nat)) (c : Char) : Text :=
  match expansions.lookup c.toNat with
  | some ns => ns.map Char.ofNat
  | none =>
    match runs.find? (·.covers c.toNat) with
    | some run => [Char.ofNat ((c.toNat : Int) + run.shift).toNat]
    | none => [c]

private theorem mem_of_lookup {n : Nat} {ns : List Nat} {table : List (Nat × List Nat)}
    (h : table.lookup n = some ns) : (n, ns) ∈ table := by
  induction table with
  | nil => simp at h
  | cons entry table ih =>
    obtain ⟨m, ms⟩ := entry
    rw [List.lookup_cons] at h
    split at h
    · rename_i hm
      simp_all
    · exact List.mem_cons_of_mem _ (ih h)

theorem mapChar_ne_nil {runs : List CaseRun} {expansions : List (Nat × List Nat)}
    (h : ∀ entry ∈ expansions, entry.2 ≠ []) (c : Char) : mapChar runs expansions c ≠ [] := by
  unfold mapChar
  split
  · rename_i ns hns
    simpa using h _ (mem_of_lookup hns)
  · split <;> simp

end RiskTally.Text
