import RiskTally.Identity
import RiskTally.Load

/-!
# Watchlists

A watchlist gives a score and a reason to persons known by name. It is read from a sheet
with the columns `full_name`, `watchlist_score` and, if it likes, `reason`. A row
without a name is passed over, a score that is no integer counts as zero, and the last
row of a name is the one that counts.

## Main results

* `Watchlist.score_eq_zero`: a name that is not listed scores nothing.
* `Watchlist.nodup_keys`: every name is listed once.
-/

namespace RiskTally

/-- What a watchlist says of a person. -/
structure WatchlistEntry where
  score : Int64
  reason : Text
  deriving DecidableEq

/-- The entries of a watchlist under the canonical names of the persons. -/
abbrev Watchlist := Keyed WatchlistEntry

namespace Watchlist

/-- The watchlist of names as they are written, the last entry of a person counting. -/
def ofEntries (entries : List (Text × WatchlistEntry)) : Watchlist :=
  Keyed.ofList (entries.map fun entry => (normalizeName entry.1, entry.2))

/-- The entry under a canonical name. -/
def entry? (watchlist : Watchlist) (name : Text) : Option WatchlistEntry :=
  Keyed.get? watchlist name

/-- The score under a canonical name, zero for a name that is not listed. -/
def score (watchlist : Watchlist) (name : Text) : Int64 :=
  ((watchlist.entry? name).map WatchlistEntry.score).getD 0

theorem score_eq_zero {watchlist : Watchlist} {name : Text} (h : watchlist.entry? name = none) :
    watchlist.score name = 0 := by
  simp [score, h]

theorem nodup_keys (entries : List (Text × WatchlistEntry)) : (ofEntries entries).keys.Nodup :=
  Keyed.nodup_keys_ofList _

/-! ## Reading a sheet -/

/-- The whole part of a number, held at the ends of the 64-bit range; zero for what is
not a number or not finite. -/
def wholePart (f : Float) : Int64 :=
  match Binary.ofFloat f with
  | .finite negative mantissa exponent =>
    Int64.ofIntClamp (Binary.signed negative (Binary.truncate mantissa exponent))
  | _ => 0

/-- The score that a cell holds. -/
def scoreOf : Cell → Int64
  | .integer i => i
  | .float f => wholePart f
  | .text s => (readInteger? (Text.trim s)).getD 0
  | .boolean b => if b then 1 else 0
  | .null => 0

/-- The entry of a row, if the row has a name. -/
def rowEntry? (name score reason : Cell) : Option (Text × WatchlistEntry) :=
  name.toText?.map fun name => (name, ⟨scoreOf score, reason.textOrEmpty⟩)

/-- The watchlist of a frame, empty if the frame lacks the names or the scores. -/
def ofFrame (frame : Frame) : Watchlist :=
  match frame.column? "full_name".toList, frame.column? "watchlist_score".toList with
  | some names, some scores =>
    let reasons := (frame.column? "reason".toList).getD (List.replicate frame.rows .null)
    ofEntries ((names.zip (scores.zip reasons)).filterMap fun (name, score, reason) =>
      rowEntry? name score reason)
  | _, _ => []

/-- The watchlist of a file, empty if there is none. -/
def ofFile (settings : ReadSettings) : Option Bytes → Except LoadFault Watchlist
  | none => .ok []
  | some contents =>
    match FileRead.ofBytes settings contents with
    | .ok read => .ok (ofFrame read.frame)
    | .error fault => .error (.unreadable fault)

end Watchlist

end RiskTally
