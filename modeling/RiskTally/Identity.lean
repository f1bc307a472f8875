import RiskTally.Dataset
import RiskTally.Text.Uppercase
import RiskTally.Text.Lowercase

/-!
# Identities

A person is known by a name in canonical form: its words in capital letters with one
space between each two. The name of a row is taken from a pair of columns or from a
single one, whichever the dataset has.

## Main results

* `length_fullNames`: in a rectangular dataset every row has a name.
-/

namespace RiskTally

/-- The canonical form of a name. -/
def normalizeName (name : Text) : Text :=
  Text.upper (Text.unwords (Text.words name))

example : normalizeName "  jan \t pereira\u3000".toList = "JAN PEREIRA".toList := by
  decide +kernel
example : normalizeName " \n ".toList = [] := by decide +kernel

/-- Where the name of a row stands. -/
inductive NameSource where
  /-- The first and the last name have a column each. -/
  | pair (first last : Text)
  /-- One column holds the full name. -/
  | single (column : Text)
  deriving DecidableEq, Repr

namespace NameSource

/-- The columns as they are shown. -/
def label : NameSource → Text
  | pair first last => first ++ " + ".toList ++ last
  | single column => column

/-- The first candidate pair whose columns are both there, else the first column whose
name in small letters is a candidate. -/
def detect? (dataset : Dataset) (candidates : NameColumns) : Option NameSource :=
  match candidates.pairs.find? fun p => dataset.hasColumn p.1 && dataset.hasColumn p.2 with
  | some (first, last) => some (pair first last)
  | none =>
    (dataset.columnNames.find? fun name => candidates.single.contains (Text.lower name)).map single

/-- The names of the rows as they are written; a missing part is empty. -/
def rawNames (dataset : Dataset) : NameSource → List Text
  | pair first last =>
    match dataset.column? first, dataset.column? last with
    | some firsts, some lasts =>
      List.zipWith (fun a b => a.textOrEmpty ++ ' ' :: b.textOrEmpty) firsts lasts
    | _, _ => List.replicate dataset.rows []
  | single column =>
    match dataset.column? column with
    | some names => names.map Cell.textOrEmpty
    | none => List.replicate dataset.rows []

end NameSource

/-- The canonical name of every row; empty without columns to take it from. -/
def fullNames (dataset : Dataset) : Option NameSource → List Text
  | some source => (source.rawNames dataset).map normalizeName
  | none => List.replicate dataset.rows []

theorem length_column? {dataset : Dataset} (h : dataset.Rectangular) {name : Text}
    {cells : List Cell} (hcells : dataset.column? name = some cells) :
    cells.length = dataset.rows := by
  unfold Dataset.column? at hcells
  split at hcells
  · obtain rfl := Option.some.inj hcells
    simp [Dataset.rows]
  · exact h (name, cells) (Keyed.mem_of_get? hcells)

theorem length_fullNames {dataset : Dataset} (h : dataset.Rectangular)
    (source : Option NameSource) : (fullNames dataset source).length = dataset.rows := by
  cases source with
  | none => simp [fullNames]
  | some source =>
    simp only [fullNames, List.length_map]
    cases source with
    | pair first last =>
      simp only [NameSource.rawNames]
      split
      · rename_i ha hb
        rw [List.length_zipWith, length_column? h ha, length_column? h hb, Nat.min_self]
      · simp
    | single column =>
      simp only [NameSource.rawNames]
      split
      · rename_i ha
        rw [List.length_map, length_column? h ha]
      · simp

end RiskTally
