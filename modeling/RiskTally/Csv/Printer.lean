import RiskTally.Text.Basic

/-!
# Writing comma-separated text

A field is enclosed in quotes, and its own quotes doubled, exactly when it holds a
comma, a quote or a character that ends a line. A line feed ends every record.

## Main results

* `Csv.printField_of_plain`: a field without such characters is written as it is.
-/

namespace RiskTally.Csv

/-- The character makes a field need quotes. -/
def isSpecial (c : Char) : Bool :=
  c == ',' || c == '"' || c == '\n' || c == '\r'

/-- The text with every quote doubled. -/
def doubleQuotes (field : Text) : Text :=
  field.flatMap fun c => if c = '"' then ['"', '"'] else [c]

/-- A field as it is written. -/
def printField (field : Text) : Text :=
  if field.any isSpecial then '"' :: (doubleQuotes field ++ ['"']) else field

/-- A record as it is written. -/
def printRecord (fields : List Text) : Text :=
  [','].intercalate (fields.map printField) ++ ['\n']

/-- Records as they are written. -/
def print (records : List (List Text)) : Text :=
  records.flatMap printRecord

theorem printField_of_plain {field : Text} (h : ∀ c ∈ field, isSpecial c = false) :
    printField field = field := by
  have : field.any isSpecial = false := by simpa using h
  simp [printField, this]

example : print [["a".toList, "b,c".toList], ["d\"e".toList, []]] =
    "a,\"b,c\"\n\"d\"\"e\",\n".toList := by decide

end RiskTally.Csv
