import RiskTally.Report

/-!
# Risk profiles

A profile answers a query for one person: the person's score and level, the rules that
selected any row, how many of the person's rows score, and how the rows spread over the
files. What the watchlist says stands beside it, whether the dataset knows the person or
not.

## Main results

* `Profile.query_of_names_eq_none`: without names a query has no answer.
* `Profile.mapM_entryAt_placesOf`: a column as long as the names has an entry for every
  row of a person, and those are the entries that stand beside the name.
-/

namespace RiskTally

/-- What a watchlist says of the person that was asked for. -/
structure WatchlistStatus where
  /-- The person is listed with a positive score. -/
  matched : Bool
  score : Int64
  reason : Text
  deriving DecidableEq

/-- Everything known of one person. -/
structure Profile where
  /-- The name as it was asked for. -/
  name : Text
  score : Int64
  level : Level
  activations : List Activation
  /-- The number of the person's rows with a positive score. -/
  records : Nat
  /-- The files of the person's rows and how many there are in each, most rows first. -/
  breakdown : List (Text × Nat)
  watchlist : Option WatchlistStatus
  /-- How many persons the watchlist names. -/
  watchlistCount : Option Nat
  deriving DecidableEq

/-- Why a query has no answer. -/
inductive QueryFault where
  | noNameColumns
  /-- A row of the person lies past the end of a column of the report. -/
  | outOfRange (rows place : Nat)
  deriving DecidableEq, Repr

/-- The wording of a fault. -/
def QueryFault.message : QueryFault → Text
  | noNameColumns => "no name columns in the unified dataset".toList
  | outOfRange rows place =>
    "index out of bounds: the len is ".toList ++ natText rows ++ " but the index is ".toList ++
      natText place

namespace Profile

/-- More rows come first, and of equally many the earlier file name. -/
def breakdownOrder (a b : Text × Nat) : Bool :=
  if a.2 = b.2 then Text.precedes a.1 b.1 else b.2 < a.2

/-- How many rows there are of each file, most rows first. -/
def breakdownOf (sources : List Text) : List (Text × Nat) :=
  (sources.eraseDups.map fun source => (source, sources.count source)).mergeSort breakdownOrder

/-- The places of the rows of a person. -/
def placesOf (name : Text) (names : List Text) : List Nat :=
  (names.zipIdx.filter fun row => row.1 == name).map Prod.snd

/-- The entry of a column of a report at a place. -/
def entryAt {α : Type} (column : List α) (place : Nat) : Except QueryFault α :=
  match column[place]? with
  | some entry => .ok entry
  | none => .error (.outOfRange column.length place)

/-- The profile of a person whom the dataset does not know. -/
def unknown (name : Text) : Profile :=
  ⟨name, 0, .low, [], 0, [], none, none⟩

/-- The profile of a person whom the dataset knows. -/
def known (name : Text) (identity : Identity) (names : List Text) (report : Report) :
    Except QueryFault Profile := do
  let places := placesOf identity.name names
  let scores ← places.mapM (entryAt report.scores)
  let sources ← places.mapM (entryAt report.sources)
  return {
    name
    score := identity.score
    level := identity.level
    activations := report.activations
    records := scores.countP fun score => 0 < score
    breakdown := breakdownOf sources
    watchlist := none
    watchlistCount := none }

/-- What a watchlist says under a canonical name. -/
def statusOf (watchlist : Watchlist) (name : Text) : WatchlistStatus :=
  match watchlist.entry? name with
  | some entry => ⟨0 < entry.score, entry.score, entry.reason⟩
  | none => ⟨false, 0, []⟩

/-- The profile with what a watchlist says, unless it is empty. -/
def withWatchlist (watchlist : Watchlist) (canonical : Text) (profile : Profile) : Profile :=
  if watchlist.isEmpty then profile
  else
    { profile with
      watchlist := some (statusOf watchlist canonical)
      watchlistCount := some watchlist.length }

/-- The profile of the person with a name. -/
def query (report : Report) (name : Text) (watchlist : Watchlist) : Except QueryFault Profile :=
  match report.names with
  | none => .error .noNameColumns
  | some names => do
    let canonical := normalizeName name
    let profile ← match report.identity? canonical with
      | some identity => known name identity names report
      | none => .ok (unknown name)
    return profile.withWatchlist watchlist canonical

theorem query_of_names_eq_none {report : Report} (h : report.names = none) (name : Text)
    (watchlist : Watchlist) : query report name watchlist = .error .noNameColumns := by
  simp [query, h]

/-! ## The rows of a person -/

theorem entryAt_of_lt {α : Type} {column : List α} {place : Nat} (h : place < column.length) :
    entryAt column place = .ok column[place] := by
  simp [entryAt, h]

private theorem mapM_entryAt_zipIdx {α : Type} (name : Text) (column : List α) (names : List Text)
    (skip : Nat) (h : skip + names.length ≤ column.length) :
    (((names.zipIdx skip).filter fun row => row.1 == name).map Prod.snd).mapM (entryAt column) =
      .ok (((names.zip (column.drop skip)).filter fun row => row.1 == name).map Prod.snd) := by
  induction names generalizing skip with
  | nil => rfl
  | cons first names ih =>
    have hlt : skip < column.length := by simp at h; omega
    have hrest := ih (skip + 1) (by simp at h; omega)
    rw [List.drop_eq_getElem_cons hlt, List.zipIdx_cons, List.zip_cons_cons]
    by_cases hfirst : first = name
    · simp only [List.filter_cons, hfirst, beq_self_eq_true, if_true, List.map_cons,
        List.mapM_cons, entryAt_of_lt hlt]
      rw [hrest]
      rfl
    · simpa only [List.filter_cons, beq_iff_eq, hfirst, if_false] using hrest

theorem mapM_entryAt_placesOf {α : Type} {names : List Text} {column : List α}
    (h : names.length ≤ column.length) (name : Text) :
    (placesOf name names).mapM (entryAt column) =
      .ok (((names.zip column).filter fun row => row.1 == name).map Prod.snd) :=
  mapM_entryAt_zipIdx name column names 0 (by omega)

end Profile

end RiskTally
