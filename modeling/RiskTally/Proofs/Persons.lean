import Mathlib.Data.List.Perm.Basic
import RiskTally.Profile
import RiskTally.Proofs.SaturatingSums

/-!
# The rows of a person

The rows of a dataset are shared out among the names that stand beside them.  Every row
goes to one name, so that what is summed up under each name comes, over all names, to what
is summed up over all rows.  The names themselves are listed once and in order, whatever
the order of the rows.

## Main results

* `Text.sorted_eq_of_perm`: sorting forgets the order that was there before.
* `flatMap_filter_perm`: entries shared out by a key are all the entries.
* `Report.entriesOf_eq_filterMap`: what stands beside a name is what stands at its rows.
* `Report.aggregate_eq`: every name is a person, with the sum over the name's rows.
* `Report.integerSum_aggregate`: the sums of the persons come to the sum of the rows.
-/

namespace RiskTally

/-! ## Names listed once, in order -/

/-- Of several entries that are the same one is left. -/
theorem nodup_eraseDups {α : Type} [BEq α] [LawfulBEq α] (entries : List α) :
    entries.eraseDups.Nodup := by
  obtain ⟨n, hn⟩ : ∃ n, entries.length = n := ⟨_, rfl⟩
  induction n using Nat.strongRecOn generalizing entries with
  | _ n ih =>
      cases entries with
      | nil => exact List.nodup_nil
      | cons entry entries =>
          have hshorter := List.length_filter_le (fun other => !other == entry) entries
          simp only [List.length_cons] at hn
          have hrest := ih _ (by omega) (entries.filter fun other => !other == entry) rfl
          rw [List.eraseDups_cons, List.nodup_cons]
          refine ⟨?_, hrest⟩
          rw [List.mem_eraseDups]
          simp

theorem eraseDups_perm {α : Type} [BEq α] [LawfulBEq α] {entries entries' : List α}
    (h : entries'.Perm entries) : entries'.eraseDups.Perm entries.eraseDups := by
  rw [List.perm_ext_iff_of_nodup (nodup_eraseDups _) (nodup_eraseDups _)]
  intro entry
  rw [List.mem_eraseDups, List.mem_eraseDups, h.mem_iff]

theorem Text.pairwise_sorted (names : List Text) :
    (Text.sorted names).Pairwise fun a b => Text.precedes a b = true := by
  refine List.pairwise_mergeSort ?_ ?_ names
  · intro a b c hab hbc
    exact Text.precedes_trans hab hbc
  · exact Text.precedes_total

theorem Text.sorted_perm (names : List Text) : (Text.sorted names).Perm names :=
  List.mergeSort_perm names Text.precedes

/-- Names in order are the same names in order, however they stood before. -/
theorem Text.sorted_eq_of_perm {names names' : List Text} (h : names'.Perm names) :
    Text.sorted names' = Text.sorted names := by
  have hperm : (Text.sorted names').Perm (Text.sorted names) :=
    (Text.sorted_perm names').trans (h.trans (Text.sorted_perm names).symm)
  exact hperm.eq_of_pairwise (fun _ _ _ _ => Text.precedes_antisymm)
    (Text.pairwise_sorted names') (Text.pairwise_sorted names)

/-! ## Entries shared out by a key -/

/-- The one key of an entry puts it into one share. -/
theorem flatMap_ite_eq_singleton {α : Type} (entry : α) {key : Text} {keys : List Text}
    (hkeys : keys.Nodup) (hkey : key ∈ keys) :
    (keys.flatMap fun other => if key == other then [entry] else []) = [entry] := by
  have hnone : ∀ others : List Text, key ∉ others →
      (others.flatMap fun other => if key == other then [entry] else []) = [] := by
    intro others hothers
    rw [List.flatMap_eq_nil_iff]
    intro other hother
    have hne : key ≠ other := fun heq => hothers (heq ▸ hother)
    rw [if_neg (by simpa using hne)]
  obtain ⟨before, after, rfl⟩ := List.append_of_mem hkey
  obtain ⟨-, hafter, hdisjoint⟩ := List.nodup_append.1 hkeys
  have hbefore : key ∉ before := fun hmem => hdisjoint key hmem key (by simp) rfl
  rw [List.flatMap_append, List.flatMap_cons, hnone before hbefore,
    hnone after (List.nodup_cons.1 hafter).1, if_pos (beq_self_eq_true key)]
  rfl

/-- Entries that are shared out by a key among keys that differ are all the entries. -/
theorem flatMap_filter_perm {α : Type} (key : α → Text) {keys : List Text} (hkeys : keys.Nodup)
    {entries : List α} (hcovered : ∀ entry ∈ entries, key entry ∈ keys) :
    (keys.flatMap fun name => entries.filter fun entry => key entry == name).Perm entries := by
  induction entries with
  | nil => simp
  | cons entry entries ih =>
      have hrest := ih fun other hother => hcovered other (by simp [hother])
      have hshare : (fun name => (entry :: entries).filter fun other => key other == name) =
          fun name => (if key entry == name then [entry] else []) ++
            entries.filter fun other => key other == name := by
        funext name
        by_cases hname : key entry = name
        · simp [hname]
        · simp [hname]
      have hone := flatMap_ite_eq_singleton entry hkeys (hcovered entry (by simp))
      rw [hshare]
      refine (List.flatMap_append_perm keys _ _).symm.trans ?_
      rw [hone]
      exact hrest.cons entry

theorem integerSum_flatMap (share : Text → List Int64) (keys : List Text) :
    integerSum (keys.flatMap share) = (keys.map fun key => integerSum (share key)).sum := by
  induction keys with
  | nil => rfl
  | cons key keys ih => rw [List.flatMap_cons, integerSum_append, ih, List.map_cons, List.sum_cons]

namespace Report

/-! ## What stands beside a name -/

/-- The rows of a name, in their order. -/
def rowsOf (name : Text) (names : List Text) : List Nat :=
  (List.range names.length).filter fun row => names[row]? == some name

/-- The entries of a column that stand beside a name. -/
def entriesOf {α : Type} (name : Text) (names : List Text) (column : List α) : List α :=
  ((names.zip column).filter fun row => row.1 == name).map Prod.snd

theorem rowsOf_cons (name first : Text) (names : List Text) :
    rowsOf name (first :: names) =
      (if first == name then [0] else []) ++ (rowsOf name names).map (· + 1) := by
  have hlater : (fun row => (first :: names)[row]? == some name) ∘ Nat.succ =
      fun row => names[row]? == some name := by
    funext row
    rfl
  unfold rowsOf
  rw [List.length_cons, List.range_succ_eq_map, List.filter_cons, List.filter_map, hlater]
  by_cases hfirst : first = name
  · simp [hfirst]
  · simp [hfirst]

/-- What stands beside a name is what stands at its rows. -/
theorem entriesOf_eq_filterMap {α : Type} (name : Text) (names : List Text) (column : List α) :
    entriesOf name names column = (rowsOf name names).filterMap fun row => column[row]? := by
  induction names generalizing column with
  | nil => rfl
  | cons first names ih =>
      rw [rowsOf_cons, List.filterMap_append, List.filterMap_map]
      cases column with
      | nil => by_cases hfirst : first = name <;> simp [entriesOf, hfirst]
      | cons entry column =>
          have hrest := ih column
          unfold entriesOf at hrest ⊢
          rw [List.zip_cons_cons, List.filter_cons]
          by_cases hfirst : first = name
          · simpa [hfirst] using hrest
          · simpa [hfirst] using hrest

theorem entriesOf_sublist {α : Type} (name : Text) {names : List Text} {column : List α}
    (h : names.length = column.length) : (entriesOf name names column).Sublist column := by
  have hcolumn : (names.zip column).map Prod.snd = column := List.map_snd_zip (by omega)
  have hsub : (entriesOf name names column).Sublist ((names.zip column).map Prod.snd) :=
    List.filter_sublist.map Prod.snd
  rwa [hcolumn] at hsub

theorem mem_of_mem_rowsOf {name : Text} {names : List Text} {row : Nat}
    (h : row ∈ rowsOf name names) : name ∈ names := by
  have hentry := (List.mem_filter.1 h).2
  exact List.mem_of_getElem? (by simpa using hentry)

/-- A name has a row exactly when it is one of the names. -/
theorem rowsOf_eq_nil_iff {name : Text} {names : List Text} :
    rowsOf name names = [] ↔ name ∉ names := by
  constructor
  · intro hnone hmem
    obtain ⟨row, hrow⟩ := List.mem_iff_getElem?.1 hmem
    have hlt := (List.getElem?_eq_some_iff.1 hrow).1
    have hfound : row ∈ rowsOf name names :=
      List.mem_filter.2 ⟨List.mem_range.2 hlt, by simp [hrow]⟩
    rw [hnone] at hfound
    exact absurd hfound (by simp)
  · intro hname
    rw [List.eq_nil_iff_forall_not_mem]
    exact fun row hrow => hname (mem_of_mem_rowsOf hrow)

/-- What stands beside the names, over all names, is the whole column. -/
theorem flatMap_entriesOf_perm {α : Type} {keys names : List Text} (hkeys : keys.Nodup)
    (hcovered : ∀ name ∈ names, name ∈ keys) {column : List α}
    (h : names.length = column.length) :
    (keys.flatMap fun key => entriesOf key names column).Perm column := by
  have hpairs : (keys.flatMap fun key => (names.zip column).filter fun row => row.1 == key).Perm
      (names.zip column) :=
    flatMap_filter_perm Prod.fst hkeys fun row hrow => hcovered row.1 (List.of_mem_zip hrow).1
  have hcolumn : (names.zip column).map Prod.snd = column := List.map_snd_zip (by omega)
  have hmapped := hpairs.map Prod.snd
  rw [hcolumn, List.map_flatMap] at hmapped
  exact hmapped

/-! ## Persons -/

/-- Every name is a person, with the saturating sum over the name's rows. -/
theorem aggregate_eq (buckets : Level.Buckets) {names : List Text} {scores : List Int64}
    (h : names.length = scores.length) :
    aggregate buckets names scores = (Text.sorted names.eraseDups).map fun name =>
      ⟨name, satSum (entriesOf name names scores),
        Level.ofScore buckets (satSum (entriesOf name names scores))⟩ := by
  have hnames : (names.zip scores).map Prod.fst = names := List.map_fst_zip (by omega)
  unfold aggregate
  rw [hnames]
  rfl

/-- The sums of the persons come to the sum of the rows, where no partial sum of a person
leaves the range. -/
theorem integerSum_aggregate (buckets : Level.Buckets) {names : List Text} {scores : List Int64}
    (h : names.length = scores.length)
    (hfit : ∀ name ∈ names, PartialSumsInRange (entriesOf name names scores)) :
    integerSum ((aggregate buckets names scores).map Identity.score) = integerSum scores := by
  have hmem : ∀ name, name ∈ Text.sorted names.eraseDups ↔ name ∈ names := fun name => by
    rw [(Text.sorted_perm _).mem_iff, List.mem_eraseDups]
  have hnodup : (Text.sorted names.eraseDups).Nodup :=
    (Text.sorted_perm _).nodup_iff.2 (nodup_eraseDups names)
  have hshares := flatMap_entriesOf_perm hnodup (fun name hname => (hmem name).2 hname) h
  rw [← integerSum_perm hshares, integerSum_flatMap, aggregate_eq buckets h, integerSum,
    List.map_map, List.map_map]
  congr 1
  refine List.map_congr_left fun name hname => ?_
  exact toInt_satSum_of_partialSums (hfit name ((hmem name).1 hname))

end Report

end RiskTally
