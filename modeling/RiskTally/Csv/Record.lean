import RiskTally.Text.Basic

/-!
# Records of comma-separated text

A text is read one character at a time into records of fields. A field that begins with
a double quote runs to the matching quote; two quotes inside it are one, and commas and
line ends inside it are its own. A quote anywhere else is an ordinary character. A
record ends at a line feed, a carriage return, or both.

## Main results

* `Scanner.run_append`: scanning a text after another goes on from where that one ended.
* `Scanner.not_isBlank_of_mem_records`: blank lines leave no record.
-/

namespace RiskTally.Csv

/-- The fields of one line, and whether its last quoted field was closed. -/
structure Record where
  fields : List Text
  complete : Bool
  deriving DecidableEq, Repr

/-- The record is a single empty field, as a blank line gives. -/
def Record.isBlank (record : Record) : Bool :=
  record.fields == [[]]

/-- Where the scanner stands in a field. -/
inductive Mode where
  /-- Outside quotes. -/
  | bare
  /-- Inside quotes. -/
  | quoted
  /-- After a quote inside quotes, which closes them unless another follows. -/
  | closing
  /-- After a carriage return, whose line feed belongs to the same line end. -/
  | returned
  deriving DecidableEq, Repr

/-- The records read so far, the fields of the current one and the characters of the
current field, each in reverse. -/
structure Scanner where
  mode : Mode
  field : Text
  fields : List Text
  records : List Record
  deriving DecidableEq, Repr

namespace Scanner

/-- Nothing has been read. -/
def start : Scanner :=
  ⟨.bare, [], [], []⟩

/-- The character belongs to the field. -/
def push (s : Scanner) (mode : Mode) (c : Char) : Scanner :=
  ⟨mode, c :: s.field, s.fields, s.records⟩

/-- The field ends. -/
def endField (s : Scanner) : Scanner :=
  ⟨.bare, [], s.field.reverse :: s.fields, s.records⟩

/-- The field and its record end. -/
def endRecord (s : Scanner) (mode : Mode) (complete : Bool) : Scanner :=
  ⟨mode, [], [], ⟨(s.field.reverse :: s.fields).reverse, complete⟩ :: s.records⟩

/-- Reads a character outside quotes. -/
def stepBare (s : Scanner) (c : Char) : Scanner :=
  if c = '"' ∧ s.field = [] then ⟨.quoted, s.field, s.fields, s.records⟩
  else if c = ',' then s.endField
  else if c = '\r' then s.endRecord .returned true
  else if c = '\n' then s.endRecord .bare true
  else s.push .bare c

/-- Reads a character. -/
def step (s : Scanner) (c : Char) : Scanner :=
  match s.mode with
  | .bare => s.stepBare c
  | .quoted =>
    if c = '"' then ⟨.closing, s.field, s.fields, s.records⟩ else s.push .quoted c
  | .closing => if c = '"' then s.push .quoted c else s.stepBare c
  | .returned => if c = '\n' then ⟨.bare, s.field, s.fields, s.records⟩ else s.stepBare c

/-- Reads a text. -/
def run (s : Scanner) (text : Text) : Scanner :=
  text.foldl step s

/-- Ends the record that the text leaves open, if there is one. -/
def finish (s : Scanner) : Scanner :=
  if s.mode = .quoted then s.endRecord .bare false
  else if s.field = [] ∧ s.fields = [] then s
  else s.endRecord .bare true

theorem run_append (s : Scanner) (a b : Text) : s.run (a ++ b) = (s.run a).run b := by
  simp [run]

end Scanner

/-- The records of a text, blank lines left out. -/
def records (text : Text) : List Record :=
  (Scanner.start.run text).finish.records.reverse.filter fun record => !record.isBlank

theorem not_isBlank_of_mem_records {text : Text} {record : Record} (h : record ∈ records text) :
    record.isBlank = false := by
  simpa using (List.mem_filter.1 h).2

example : records "a,b\n\n\"x\n\"\"y\"\"\",2\r\n3".toList =
    [⟨["a".toList, "b".toList], true⟩, ⟨["x\n\"y\"".toList, "2".toList], true⟩,
      ⟨["3".toList], true⟩] := by decide
example : records "a\"b,\"\"c\r\"open,1".toList =
    [⟨["a\"b".toList, "c".toList], true⟩, ⟨["open,1".toList], false⟩] := by decide
example : records "\n\r\n\"\"".toList = [] := by decide

end RiskTally.Csv
