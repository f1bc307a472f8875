import RiskTally.Command.Run

/-!
# The command

Gathers what a run looks at, runs it, shows its output and writes its export. The run
itself is a function of what was gathered.
-/

namespace RiskTally.Program

/-- How the command is called. -/
def usage : String :=
  "Usage: risktally [OPTIONS]

Options:
  --dataset-dir <PATH>         Folder of CSV files [default: dataset]
  --rules <PATH>               Table of rules [default: rules_engine.md]
  --watchlist <PATH>           Watchlist sheet
  --query-name <NAME>          Person to profile
  --exclude-rule <EXPRESSION>  Rule to leave out, may be repeated
  --export <PATH>              Write the scored rows to this file
  --export-format <FORMAT>     csv or parquet [default: csv]
  --concise-output             Only print the highlights of the profile
  --json                       Print the summary as JSON
  -h, --help                   Print this text
"

/-- What is said of arguments that are not understood. -/
def usageText : UsageFault → String
  | .missingValue => "an option lacks its value"
  | .badFormat => "the export format is csv or parquet"
  | .unknownArgument => "there is an unknown argument"
  | .repeated => "an option is given twice"
  | .unneededValue => "a value is joined to a flag"
  | .helpAsked => "help"

/-! ## Gathering -/

/-- The path of a name, seen from the working folder. -/
def pathOf (name : Text) :=
  ({ root := ".", fileName := String.ofList name } : IO.FS.DirEntry).path

/-- The contents of a regular file. -/
def contents? (name : Text) : IO (Option Bytes) := do
  let .ok metadata ← (pathOf name).metadata.toBaseIO | return none
  if metadata.type == .file then
    return some (← IO.FS.readBinFile (pathOf name)).toList
  else
    return none

/-- The names and contents of the regular files of a folder. -/
def folder? (name : Text) : IO (Option (List (Text × Bytes))) := do
  if ← (pathOf name).isDir then
    let entries ← (pathOf name).readDir
    let files ← entries.toList.filterMapM fun entry => do
      let file := entry.fileName.toList
      return (← contents? (name ++ '/' :: file)).map fun contents => (file, contents)
    return some files
  else
    return none

/-- How many folders stand around the working folder. -/
def depth : IO Nat := do
  return (← IO.currentDir).components.length - 1

/-- What a run looks at. -/
def lookAround (arguments : Arguments) : IO Surroundings := do
  let folder ← folder? arguments.datasetDir
  let rules ← contents? arguments.rules
  let watchlist ← match arguments.watchlist with
    | some path => contents? path
    | none => pure none
  return {
    folder? := fun _ => folder
    file? := fun path => if path = arguments.rules then rules else watchlist
    writeFault? := fun _ => none
    depth := ← depth }

/-- The variables that say something to a run. -/
def variableNames : List String :=
  ["RISKSCORE_DATASET_DIR", "RISKSCORE_RULES", "RISKSCORE_WATCHLIST", "RISKSCORE_NA_VALUES",
    "RISKSCORE_HIGH_CARDINALITY_RATIO", "RISKSCORE_HIGH_CARDINALITY_MIN_ROWS"]

/-- The environment of a run. -/
def environment : IO (Except UnsettableVariable Environment) := do
  let file ← (Command.environmentFiles (← depth)).findSomeM? contents?
  let mentioned := (file.map EnvironmentFile.mentioned).getD []
  let set ← (variableNames.map String.toList ++ mentioned).eraseDups.filterMapM fun name => do
    return (← IO.getEnv (String.ofList name)).map fun value => (name, value.toList)
  return Command.environmentOf set file

/-! ## Showing and writing -/

/-- The fault of the system as one that a run knows. -/
def writeFault? : IO.Error → Option WriteFault
  | .noFileOrDirectory .. => some .notFound
  | .alreadyExists .. => some .fileExists
  | .inappropriateType _ code _ => some (if code = 20 then .notFolder else .isFolder)
  | .invalidArgument _ 36 _ => some .nameTooLong
  | _ => none

/-- Writes a text to a file and makes the folders on the way to it. -/
def write (name text : Text) : IO (Option WriteFault) := do
  try
    if let some parent := (pathOf name).parent then
      IO.FS.createDirAll parent
    IO.FS.writeFile (pathOf name) (String.ofList text)
    return none
  catch fault =>
    match writeFault? fault with
    | some fault => return some fault
    | none => throw fault

/-- Shows what a run shows, with colors on a terminal. Nothing is logged. -/
def present (outcome : RunOutcome) : IO UInt32 := do
  let console : Console := { colors := ← (← IO.getStdout).isTty, log := fun _ _ => [] }
  IO.print (String.ofList (outcome.on console))
  IO.eprint (String.ofList outcome.stderr)
  return outcome.exitCode.toUInt32

/-- Runs the command and writes its export before anything is shown, so that a fault in
writing is part of the run. -/
def perform (arguments : Arguments) (settings : Settings) (around : Surroundings) : IO UInt32 := do
  let outcome := Command.run arguments settings around
  match outcome.written with
  | some (path, .sheet text) =>
    match ← write path text with
    | some fault =>
      present (Command.run arguments settings { around with writeFault? := fun _ => some fault })
    | none => present outcome
  | some (_, .table ..) =>
    IO.eprintln "error: only csv exports can be written"
    return 1
  | none => present outcome

/-- Says why a run does not start. -/
def refuse (fault : StartFault) : IO UInt32 := do
  match fault with
  | .usage .helpAsked => IO.print usage
  | .usage fault => IO.eprint ("error: " ++ usageText fault ++ "\n\n" ++ usage)
  | .unsettable fault =>
    IO.eprintln ("error: the value of " ++ String.ofList fault.name ++ " holds a NUL")
  return fault.exitCode.toUInt32

/-- Runs the command as it is called. -/
def run (args : List String) : IO UInt32 := do
  match ← environment with
  | .error fault => refuse (.unsettable fault)
  | .ok environment =>
    match Arguments.read? environment (args.map String.toList) with
    | .ok arguments =>
      perform arguments (Settings.ofEnvironment environment) (← lookAround arguments)
    | .error fault => refuse (.usage fault)

end RiskTally.Program

/-- The command. -/
def main (args : List String) : IO UInt32 :=
  RiskTally.Program.run args
