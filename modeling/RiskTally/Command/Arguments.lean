import RiskTally.Export.Table
import RiskTally.Settings.Environment

/-!
# Arguments of the command

The command takes long options only. An option stands alone before its value or is
joined to it by an equals sign; a value that begins with a hyphen must be joined. Only
`--exclude-rule` may be given more than once. Nothing may follow but options. Three
options fall back on variables of the environment before they fall back on a default.
-/

namespace RiskTally

/-- What the command is asked to do. -/
structure Arguments where
  datasetDir : Text
  rules : Text
  watchlist : Option Text
  queryName : Option Text
  excluded : List Text
  exportPath : Option Text
  exportFormat : ExportFormat
  concise : Bool
  json : Bool
  deriving DecidableEq, Repr

/-- Why the arguments are not understood. -/
inductive UsageFault where
  /-- An option has no value, or an empty path. -/
  | missingValue
  /-- The export format is unknown. -/
  | badFormat
  | unknownArgument
  /-- An option or a flag is given twice. -/
  | repeated
  /-- A value is joined to a flag. -/
  | unneededValue
  /-- The arguments ask how the command is used. -/
  | helpAsked
  deriving DecidableEq, Repr

namespace Arguments

/-! ## Options -/

/-- An option that takes a value. -/
inductive Key where
  | datasetDir
  | rules
  | watchlist
  | queryName
  | exclude
  | exportPath
  | exportFormat
  deriving DecidableEq, Repr

/-- An option that takes none. -/
inductive Flag where
  | concise
  | json
  | help
  deriving DecidableEq, Repr

/-- The option of a name that takes a value. -/
def key? (name : Text) : Option Key :=
  [("dataset-dir", Key.datasetDir), ("rules", .rules), ("watchlist", .watchlist),
    ("query-name", .queryName), ("exclude-rule", .exclude), ("export", .exportPath),
    ("export-format", .exportFormat)].findSome? fun (known, key) =>
      if known.toList = name then some key else none

/-- The option of a name that takes none. -/
def flag? (name : Text) : Option Flag :=
  [("concise-output", Flag.concise), ("json", .json), ("help", .help)].findSome?
    fun (known, flag) => if known.toList = name then some flag else none

/-- The value of the option is a path. -/
def Key.isPath : Key → Bool
  | datasetDir | rules | watchlist | exportPath => true
  | queryName | exclude | exportFormat => false

/-- The value is one that the option takes. -/
def Key.check (key : Key) (value : Text) : Except UsageFault Unit :=
  if key.isPath && value.isEmpty then .error .missingValue
  else if key = .exportFormat ∧ ExportFormat.ofName? value = none then .error .badFormat
  else .ok ()

/-! ## Reading -/

/-- The options read so far, the last one first, and the option that waits for its value
or has just got it. -/
structure Reader where
  values : List (Key × Text)
  flags : List Flag
  pending : Option (Key × Option Text)
  /-- Two hyphens have ended the options. -/
  ended : Bool
  deriving DecidableEq, Repr

namespace Reader

/-- Nothing has been read. -/
def start : Reader :=
  ⟨[], [], none, false⟩

/-- The option gets its value. -/
def assign (r : Reader) (key : Key) (value : Text) : Except UsageFault Reader :=
  if key ≠ .exclude ∧ r.values.any (fun entry => entry.1 == key) then .error .repeated
  else (key.check value).map fun _ => { r with values := (key, value) :: r.values }

/-- The option that waits gets its value. -/
def settle (r : Reader) : Except UsageFault Reader :=
  match r.pending with
  | none => .ok r
  | some (_, none) => .error .missingValue
  | some (key, some value) => { r with pending := none }.assign key value

/-- The flag is raised. -/
def raise (r : Reader) (flag : Flag) : Except UsageFault Reader :=
  if flag = .help then .error .helpAsked
  else if flag ∈ r.flags then .error .repeated
  else .ok { r with flags := flag :: r.flags }

/-- Reads a long option and the value that is joined to it. -/
def stepLong (r : Reader) (name : Text) (joined : Option Text) : Except UsageFault Reader :=
  match key? name, joined with
  | some key, some value => do
    let r ← r.settle
    r.assign key value
  | some key, none => do
    let r ← r.settle
    .ok { r with pending := some (key, none) }
  | none, joined =>
    match flag? name, joined with
    | some _, some _ => .error .unneededValue
    | some flag, none => do
      let r ← r.settle
      r.raise flag
    | none, _ => .error .unknownArgument

/-- What stands before the first equals sign, and what after it. -/
def splitJoined (text : Text) : Text × Option Text :=
  match text.dropWhile (· != '=') with
  | _ :: value => (text.takeWhile (· != '='), some value)
  | [] => (text, none)

/-- Reads an argument. -/
def step (r : Reader) (argument : Text) : Except UsageFault Reader :=
  if r.ended then .error .unknownArgument
  else
    match argument with
    | ['-', '-'] => .ok { r with ended := true }
    | '-' :: '-' :: text =>
      let (name, joined) := splitJoined text
      r.stepLong name joined
    | '-' :: 'h' :: _ => do
      let r ← r.settle
      r.raise .help
    | '-' :: _ :: _ => .error .unknownArgument
    | value =>
      match r.pending with
      | some (key, none) => .ok { r with pending := some (key, some value) }
      | _ => .error .unknownArgument

/-- The value given to an option. -/
def value? (r : Reader) (key : Key) : Option Text :=
  (r.values.find? fun entry => entry.1 == key).map Prod.snd

/-- The value given to an option, else that of a variable, which must be one that the
option takes. -/
def valueOr? (r : Reader) (environment : Environment) (key : Key) (variableName : Text) :
    Except UsageFault (Option Text) :=
  match r.value? key, environment.value? variableName with
  | some value, _ => .ok (some value)
  | none, some value => (key.check value).map fun _ => some value
  | none, none => .ok none

end Reader

/-- The arguments of a command line under an environment. -/
def read? (environment : Environment) (arguments : List Text) : Except UsageFault Arguments := do
  let r ← arguments.foldlM Reader.step Reader.start
  let r ← r.settle
  let datasetDir ← r.valueOr? environment .datasetDir "RISKSCORE_DATASET_DIR".toList
  let rules ← r.valueOr? environment .rules "RISKSCORE_RULES".toList
  let watchlist ← r.valueOr? environment .watchlist "RISKSCORE_WATCHLIST".toList
  return {
    datasetDir := datasetDir.getD "dataset".toList
    rules := rules.getD "rules_engine.md".toList
    watchlist
    queryName := r.value? .queryName
    excluded := (r.values.reverse.filter fun entry => entry.1 == .exclude).map Prod.snd
    exportPath := r.value? .exportPath
    exportFormat := ((r.value? .exportFormat).bind ExportFormat.ofName?).getD .default
    concise := r.flags.contains .concise
    json := r.flags.contains .json }

end Arguments

end RiskTally
