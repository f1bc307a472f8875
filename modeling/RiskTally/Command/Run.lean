import RiskTally.Command.Arguments
import RiskTally.Command.Outcome
import RiskTally.Files.Surroundings
import RiskTally.Present.Summary
import RiskTally.Settings.EnvironmentFile

/-!
# Running the command

A run loads the dataset, the rules and the watchlist in this order, scores the dataset,
shows the report and the profile that was asked for, and last writes the export. It is a
function of its arguments, the environment and the files around it.
-/

namespace RiskTally

/-- The rules of a file. -/
def Rules.ofFile (path : Text) : Option Bytes → Except LoadFault Rules
  | none => .error (.rulesMissing path)
  | some contents =>
    match Utf8.decode contents with
    | .ok text => .ok (Rule.ofTable text)
    | .error _ => .error .rulesNotUtf8

/-- The dataset of a folder. -/
def Loading.ofFolder (settings : ReadSettings) (path : Text) :
    Option (List (Text × Bytes)) → Except LoadFault Loaded
  | none => .error (.folderMissing path)
  | some files => load settings path files

/-- Why a run does not start. -/
inductive StartFault where
  | unsettable (fault : UnsettableVariable)
  | usage (fault : UsageFault)
  deriving DecidableEq, Repr

/-- The exit code of a run that does not start. -/
def StartFault.exitCode : StartFault → Nat
  | unsettable _ => 101
  | usage .helpAsked => 0
  | usage _ => 2

namespace Command

/-- The inputs of a run. -/
structure Inputs where
  loaded : Loaded
  rules : Rules
  watchlist : Watchlist

/-- Loads the dataset. -/
def loadDataset (arguments : Arguments) (settings : ReadSettings) (around : Surroundings) :
    Stage Loaded :=
  let path := arguments.datasetDir
  let files := around.folder? path
  ⟨Log.folder settings path files, (Loading.ofFolder settings path files).mapError (.dataset path)⟩

/-- Loads the rules. -/
def loadRules (arguments : Arguments) (around : Surroundings) : Stage Rules :=
  let path := arguments.rules
  let rules := Rules.ofFile path (around.file? path)
  ⟨Log.rules path rules, rules.mapError (.rules path)⟩

/-- Loads the watchlist, if there is to be one. -/
def loadWatchlist (arguments : Arguments) (settings : ReadSettings) (around : Surroundings) :
    Stage Watchlist :=
  match arguments.watchlist with
  | none => pure []
  | some path =>
    let contents := around.file? path
    ⟨Log.watchlist settings path contents,
      (Watchlist.ofFile settings contents).mapError (.watchlist path)⟩

/-- Loads the inputs of a run. -/
def load (arguments : Arguments) (settings : ReadSettings) (around : Surroundings) :
    Stage Inputs := do
  let loaded ← loadDataset arguments settings around
  let rules ← loadRules arguments around
  Stage.log (Log.exclusions arguments.excluded rules)
  let watchlist ← loadWatchlist arguments settings around
  return ⟨loaded, rules.exclude arguments.excluded, watchlist⟩

/-- What a run reports of its inputs. -/
def summarize (inputs : Inputs) (report : Report) (queryName : Option Text) : RunSummary where
  warnings := Loading.warnings inputs.loaded.reports
  watchlistNames :=
    if inputs.watchlist.isEmpty then none else some inputs.watchlist.length
  rulesLoaded := inputs.rules.length
  report
  profile := queryName.map fun name => Profile.query report name inputs.watchlist

/-- The page of what a run reports. -/
def page (arguments : Arguments) (summary : RunSummary) : Styled :=
  if arguments.json then [.plain summary.toJson.document]
  else Present.run arguments.concise summary

/-- Writes the export of a report, and tells how many rows it has. -/
def export? (around : Surroundings) (path : Text) (format : ExportFormat) (dataset : Dataset)
    (report : Report) : Except RunFault (Nat × Exported) :=
  match report.exportAs dataset format with
  | .error fault => .error (.export path fault)
  | .ok exported =>
    match around.writeFault? path with
    | some fault => .error (.export path (.unwritable fault))
    | none => .ok exported

/-- What is put out once the export is written. Only the log tells of it if the output is
JSON. -/
def exportNotes (arguments : Arguments) (path : Text) (rows : Nat) : List Output :=
  (Log.exported path arguments.exportFormat rows).map .logged ++
    if arguments.json then [] else [.shown [Present.line ["Results exported to ".toList, path]]]

/-- Scores inputs and shows the report. -/
def showReport (arguments : Arguments) (settings : ScoringSettings) (inputs : Inputs)
    (report : Report) : RunOutcome :=
  let summary := summarize inputs report arguments.queryName
  RunOutcome.after (Log.scoring settings inputs.loaded.dataset inputs.rules report)
    ⟨[.shown (page arguments summary)], none, none⟩

/-- Shows the report of inputs and writes its export. -/
def finish (arguments : Arguments) (settings : ScoringSettings) (around : Surroundings)
    (inputs : Inputs) : RunOutcome :=
  let dataset := inputs.loaded.dataset
  let report := Report.score settings dataset inputs.rules inputs.watchlist
  let shown := showReport arguments settings inputs report
  match arguments.exportPath with
  | none => shown
  | some path =>
    match export? around path arguments.exportFormat dataset report with
    | .error fault => shown.failing fault
    | .ok (rows, exported) =>
      { shown with
        output := shown.output ++ exportNotes arguments path rows
        written := some (path, exported) }

/-- Runs the command. -/
def run (arguments : Arguments) (settings : Settings) (around : Surroundings) : RunOutcome :=
  let loading := load arguments settings.reading around
  let rest := match loading.result with
    | .error fault => RunOutcome.start.failing fault
    | .ok inputs => finish arguments settings.scoring around inputs
  rest.after (Log.settings settings ++ loading.events)

/-- Where the file of variables that are set unless the environment sets them is looked
for: in the working folder, then in each of the folders around it, outwards. -/
def environmentFiles (depth : Nat) : List Text :=
  (List.range (depth + 1)).map fun steps =>
    (List.replicate steps "../".toList).flatten ++ ".env".toList

/-- The variables of the environment and those of the environment file. -/
def environmentOf (environment : Environment) (file : Option Bytes) :
    Except UnsettableVariable Environment :=
  match file with
  | some contents => EnvironmentFile.loadBytes environment contents
  | none => .ok environment

/-- Runs the command as it is called. -/
def execute (environment : Environment) (arguments : List Text) (around : Surroundings) :
    Except StartFault RunOutcome := do
  let file := (environmentFiles around.depth).findSome? around.file?
  let environment ← (environmentOf environment file).mapError .unsettable
  let arguments ← (Arguments.read? environment arguments).mapError .usage
  return run arguments (Settings.ofEnvironment environment) around

end Command

end RiskTally
