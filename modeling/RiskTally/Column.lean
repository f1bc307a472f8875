import RiskTally.Cell
import RiskTally.Settings

/-!
# Typed columns

The cells of a column get one type, the narrowest that every cell of it can be read as:
integers before numbers, then truth values, then plain text. Absent cells and cells that
hold a token for "nothing" take no part in the choice and stay empty.

## Main results

* `length_typeCells`: typing a column keeps its length.
-/

namespace RiskTally

/-- The type of the cells of a column. -/
inductive ColumnKind where
  /-- The column holds no value. -/
  | empty
  | integer
  | float
  | boolean
  | text
  deriving DecidableEq, Repr

namespace ColumnKind

/-- A truth value in one of the usual spellings. -/
def readBoolean? (text : Text) : Option Bool :=
  if text = "true".toList || text = "True".toList || text = "TRUE".toList then some true
  else if text = "false".toList || text = "False".toList || text = "FALSE".toList then some false
  else none

/-- A cell text as a value of the type. Numbers may have blanks around them. -/
def read? (kind : ColumnKind) (text : Text) : Option Cell :=
  match kind with
  | integer => (readInteger? (Text.trim text)).map .integer
  | float => (readFloat? (Text.trim text)).map .float
  | boolean => (readBoolean? text).map .boolean
  | ColumnKind.text | empty => some (.text text)

/-- Every text can be read as the type. -/
def admits (kind : ColumnKind) (texts : List Text) : Bool :=
  texts.all fun text => (kind.read? text).isSome

/-- The narrowest type that every text can be read as. -/
def infer (texts : List Text) : ColumnKind :=
  if texts = [] then empty
  else if integer.admits texts then integer
  else if float.admits texts then float
  else if boolean.admits texts then boolean
  else text

end ColumnKind

/-- A cell that is neither absent nor a token for nothing. -/
def present? (settings : ReadSettings) (cell : Option Text) : Option Text :=
  cell.filter fun text => !settings.isEmptyToken text

/-- A raw cell as a value of a type. -/
def typeCell (settings : ReadSettings) (kind : ColumnKind) (cell : Option Text) : Cell :=
  match present? settings cell with
  | none => .null
  | some text => (kind.read? text).getD .null

/-- The type of a raw column. -/
def inferKind (settings : ReadSettings) (cells : List (Option Text)) : ColumnKind :=
  ColumnKind.infer (cells.filterMap (present? settings))

/-- The values of a raw column. -/
def typeCells (settings : ReadSettings) (cells : List (Option Text)) : List Cell :=
  cells.map (typeCell settings (inferKind settings cells))

theorem length_typeCells (settings : ReadSettings) (cells : List (Option Text)) :
    (typeCells settings cells).length = cells.length := by
  simp [typeCells]

example : ColumnKind.infer ["1".toList, " 2 ".toList] = .integer := by decide
example : ColumnKind.infer ["1".toList, "2.5".toList] = .float := by decide
example : ColumnKind.infer ["TRUE".toList, "false".toList] = .boolean := by decide
example : ColumnKind.infer ["TRUE".toList, "1".toList] = .text := by decide

end RiskTally
