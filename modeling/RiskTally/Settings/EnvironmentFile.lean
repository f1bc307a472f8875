import RiskTally.Encoding
import RiskTally.Settings.Environment
import RiskTally.Settings.EnvironmentLine
import RiskTally.Text.Alphanumeric

/-!
# Environment files

A file of `NAME=value` lines sets variables that are not set yet; the word `export` may
stand before a name. Blank lines say nothing. A value ends at a blank, after which only a
comment may follow. Quotes keep blanks; a backslash, except in single quotes, takes the
next character as it is, or as a line feed if it is an `n`. A dollar sign, except in
single quotes, begins the name of a variable whose value is put in its place. The first
line that is none of this, or that is not UTF-8, ends the file.

## Main results

* `EnvironmentFile.value?_load`: a variable that is set keeps its value.
-/

namespace RiskTally.EnvironmentFile

/-- What surrounds the characters of a value. -/
inductive Quotes where
  | none
  | single
  | double
  deriving DecidableEq, Repr

/-- The name of a variable inside a value: none, one of letters and digits, or one in
braces. -/
inductive Reference where
  | none
  | bare
  | braced
  deriving DecidableEq, Repr

/-- Where the reader of a value stands, with what it has read in reverse. -/
structure Reader where
  quotes : Quotes
  escaped : Bool
  reference : Reference
  /-- The name of the variable being read. -/
  name : Text
  /-- A blank has ended the value. -/
  ended : Bool
  /-- A comment has begun. -/
  inComment : Bool
  value : Text

namespace Reader

/-- Nothing has been read. -/
def start : Reader :=
  ⟨.none, false, .none, [], false, false, []⟩

/-- The character belongs to the value. -/
def push (r : Reader) (c : Char) : Reader :=
  { r with escaped := false, value := c :: r.value }

/-- The value of the variable that was named takes the place of its name. -/
def substitute (environment : Environment) (r : Reader) : Reader :=
  { r with
    reference := .none
    name := []
    value := ((environment.value? r.name.reverse).getD []).reverse ++ r.value }

/-- Reads a character after a backslash. -/
def stepEscaped (r : Reader) (c : Char) : Option Reader :=
  if c = 'n' then some (r.push '\n')
  else if c ∈ ['\\', '\'', '"', '$', ' '] then some (r.push c)
  else none

/-- Reads a character of the name of a variable. -/
def stepReference (environment : Environment) (r : Reader) (c : Char) : Reader :=
  if Text.isAlphanumeric c then { r with name := c :: r.name }
  else if r.reference = .braced then
    if c = '\x7d' then r.substitute environment else { r with name := c :: r.name }
  else if c = '\x7b' ∧ r.name = [] then { r with reference := .braced }
  else if c = '$' then { r.substitute environment with reference := .bare }
  else (r.substitute environment).push c

/-- Reads a character of a value, unless none may stand there. -/
def step (environment : Environment) (r : Reader) (c : Char) : Option Reader :=
  if r.inComment then some r
  else if r.ended then
    if c = ' ' ∨ c = '\t' then some r
    else if c = '#' then some { r with inComment := true }
    else none
  else if r.escaped then r.stepEscaped c
  else if r.quotes = .single then
    some (if c = '\'' then { r with quotes := .none } else r.push c)
  else if r.reference ≠ .none then some (r.stepReference environment c)
  else if c = '$' then some { r with reference := .bare }
  else if c = '\\' then some { r with escaped := true }
  else if r.quotes = .double then
    some (if c = '"' then { r with quotes := .none } else r.push c)
  else if c = '\'' then some { r with quotes := .single }
  else if c = '"' then some { r with quotes := .double }
  else if c = ' ' ∨ c = '\t' then some { r with ended := true }
  else some (r.push c)

/-- The value that was read, unless a quote or a brace is still open. -/
def finish? (environment : Environment) (r : Reader) : Option Text :=
  if r.quotes = .none ∧ r.reference ≠ .braced then
    some (r.substitute environment).value.reverse
  else none

end Reader

/-- The value that a text says. -/
def readValue? (environment : Environment) (text : Text) : Option Text :=
  if text.head? = some '#' then some []
  else (text.foldlM (Reader.step environment) Reader.start).bind (Reader.finish? environment)

/-- The character may stand in the name of a variable. -/
def isNameChar (c : Char) : Bool :=
  c.isAlphanum || c == '_' || c == '.'

/-- The name of a variable at the start of a text, and what follows it. -/
def splitName? (text : Text) : Option (Text × Text) :=
  match text with
  | c :: _ =>
    if c.isAlpha || c == '_' then some (text.takeWhile isNameChar, text.dropWhile isNameChar)
    else none
  | [] => none

/-- The name that a text assigns to, and what follows the equals sign. -/
def splitAssignment? (text : Text) : Option (Text × Text) := do
  let (name, rest) ← splitName? text
  match rest.dropWhile Text.isBlank with
  | '=' :: rest => some (name, rest.dropWhile Text.isBlank)
  | _ => none

/-- The text without the word that may stand before a name. -/
def dropExport (text : Text) : Text :=
  match splitName? text with
  | some (name, rest) =>
    let rest := rest.dropWhile Text.isBlank
    if name = "export".toList ∧ rest.head? ≠ some '=' then rest else text
  | none => text

/-- The name and the value that a line sets, unless the line is malformed. -/
def readLine? (environment : Environment) (line : Text) : Option (Text × Text) := do
  let (name, rest) ← splitAssignment? (dropExport (line.dropWhile Text.isBlank))
  let value ← readValue? environment rest
  return (name, value)

/-- The environment after lines, up to the first malformed one. -/
def loadLines (environment : Environment) : List Text → Except UnsettableVariable Environment
  | [] => .ok environment
  | line :: lines =>
    if line.all Text.isBlank then loadLines environment lines
    else
      match readLine? environment line with
      | none => .ok environment
      | some (name, value) =>
        match environment.setAbsent name value with
        | .ok environment => loadLines environment lines
        | .error fault => .error fault

/-- The environment with the variables of a text, unless they are set already. -/
def load (environment : Environment) (text : Text) : Except UnsettableVariable Environment :=
  loadLines environment (lines text)

/-! ## Bytes -/

/-- The lines of a file, each with the line feed that ends it. -/
def byteLines : Bytes → List Bytes
  | [] => []
  | byte :: bytes =>
    if byte = 0x0A then [byte] :: byteLines bytes
    else
      match byteLines bytes with
      | [] => [[byte]]
      | line :: lines => (byte :: line) :: lines

/-- The text of the lines before the first that is not UTF-8. -/
def decodeLines : List Bytes → Text
  | [] => []
  | line :: lines =>
    match Utf8.decode line with
    | .ok text => text ++ decodeLines lines
    | .error _ => []

/-- The environment with the variables of a file, unless they are set already. -/
def loadBytes (environment : Environment) (contents : Bytes) :
    Except UnsettableVariable Environment :=
  load environment (Encoding.dropMark (decodeLines (byteLines contents)))

theorem flatten_byteLines (bytes : Bytes) : (byteLines bytes).flatten = bytes := by
  induction bytes with
  | nil => rfl
  | cons byte bytes ih =>
    unfold byteLines
    split
    · simp [ih]
    · split
      · rename_i h
        simpa [h] using ih
      · rename_i h
        simpa [h] using ih

/-- What stands after each opening brace, up to the next closing one. -/
def braced : Text → List Text
  | [] => []
  | c :: text =>
    if c = '\x7b' then text.takeWhile (· != '\x7d') :: braced text else braced text

/-- The names that a file may set or ask for: its longest runs of the characters of
names, in assignments and after dollar signs, and what it has in braces. -/
def mentioned (contents : Bytes) : List Text :=
  let text := decodeLines (byteLines contents)
  let names := text.splitOnP (fun c => !isNameChar c) ++
    text.splitOnP (fun c => !Text.isAlphanumeric c) ++ braced text
  (names.filter fun name => name != [] && name.all (· != '\x00')).eraseDups

/-! ## Variables that are set already -/

private theorem value?_loadLines {environment after : Environment} {lines : List Text}
    {name value : Text} (h : environment.value? name = some value)
    (hload : loadLines environment lines = .ok after) : after.value? name = some value := by
  induction lines generalizing environment with
  | nil =>
    obtain rfl := Except.ok.inj hload
    exact h
  | cons line lines ih =>
    unfold loadLines at hload
    split at hload
    · exact ih h hload
    · split at hload
      · obtain rfl := Except.ok.inj hload
        exact h
      · split at hload
        · rename_i hset
          exact ih (Environment.value?_setAbsent h hset) hload
        · simp at hload

theorem value?_load {environment after : Environment} {name value text : Text}
    (h : environment.value? name = some value) (hload : load environment text = .ok after) :
    after.value? name = some value :=
  value?_loadLines h hload

instance : DecidableEq (Except UnsettableVariable Environment)
  | .ok a, .ok b => decidable_of_iff (a = b) (by simp)
  | .error a, .error b => decidable_of_iff (a = b) (by simp)
  | .ok _, .error _ => isFalse (by simp)
  | .error _, .ok _ => isFalse (by simp)

example : load [("A".toList, "x".toList)]
    "# c\nA=1\n B = 'p q' # d\r\nexport C=$A${B}\\$ \nbad\nD=2".toList =
    .ok [("A".toList, "x".toList), ("B".toList, "p q".toList), ("C".toList, "xp q$".toList)] := by
  decide +kernel
example : load [("A".toList, "p=q".toList)] "B=$\x7bA=p\x7d\nC=$\x7bB=\x7d.".toList =
    .ok [("A".toList, "p=q".toList), ("B".toList, "q".toList), ("C".toList, ".".toList)] := by
  decide +kernel
example : load [] "A=1\nB=\x00\nC=2".toList = .error ⟨"B".toList⟩ := by decide +kernel
example : loadBytes [] [0x41, 0x3D, 0x31, 0x0A, 0xFF, 0x0A] =
    .ok [("A".toList, "1".toList)] := by decide +kernel

end RiskTally.EnvironmentFile
