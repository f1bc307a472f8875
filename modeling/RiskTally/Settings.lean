import RiskTally.Encoding
import RiskTally.Level
import RiskTally.Number.Decimal

/-!
# Settings

What a run may be told: which encodings to try and which cell texts mean an empty cell,
from which columns a person's name is taken, when a column counts as highly varied, and
where the risk levels begin.

## Main results

* `ReadSettings.isEmptyToken_nil`: the empty cell text is an empty cell by default.
-/

namespace RiskTally

/-- How files are read. -/
structure ReadSettings where
  /-- The encodings to try, in order. -/
  encodings : List Encoding
  /-- The cell texts that mean an empty cell, compared exactly. -/
  emptyTokens : List Text

namespace ReadSettings

/-- The cell texts that mean an empty cell unless others are set. -/
def defaultEmptyTokens : List Text :=
  ["", "#N/A", "#N/A N/A", "#NA", "-1.#IND", "-1.#QNAN", "-NaN", "-nan", "1.#IND", "1.#QNAN",
    "<NA>", "N/A", "NA", "NULL", "NaN", "None", "n/a", "nan", "null"].map String.toList

/-- UTF-8, then ISO-8859-1, and the default empty cells. -/
def default : ReadSettings :=
  ⟨[.utf8, .latin1], defaultEmptyTokens⟩

/-- The cell text means an empty cell. -/
def isEmptyToken (settings : ReadSettings) (token : Text) : Bool :=
  settings.emptyTokens.contains token

theorem isEmptyToken_nil : default.isEmptyToken [] = true := by decide

end ReadSettings

/-- The columns that may hold a person's name, best candidates first. -/
structure NameColumns where
  /-- Columns of first and last names. -/
  pairs : List (Text × Text)
  /-- Columns of full names, in small letters. -/
  single : List Text

/-- The name columns that are looked for unless others are set. -/
def NameColumns.default : NameColumns where
  pairs := [("Nombre".toList, "Apellido".toList), ("first_name".toList, "last_name".toList),
    ("FirstName".toList, "LastName".toList)]
  single := ["full_name".toList, "nombre_apellido".toList, "name".toList]

/-- How rows are scored. -/
structure ScoringSettings where
  /-- The share of distinct values that a highly varied column exceeds. -/
  varietyRatio : Float
  /-- The number of rows that a highly varied column exceeds. -/
  varietyMinRows : Nat
  buckets : Level.Buckets
  nameColumns : NameColumns

/-- The scoring in use unless other settings are given. -/
def ScoringSettings.default : ScoringSettings :=
  ⟨0.95, 100, Level.defaultBuckets, NameColumns.default⟩

/-- All settings of a run. -/
structure Settings where
  reading : ReadSettings
  scoring : ScoringSettings

/-- The settings in use unless others are given. -/
def Settings.default : Settings :=
  ⟨ReadSettings.default, ScoringSettings.default⟩

end RiskTally
