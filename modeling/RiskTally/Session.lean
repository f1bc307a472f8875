import RiskTally.Command.Run

/-!
# Sessions

A session keeps settings, the files of one dataset folder, the last dataset that was
loaded, rules, a watchlist and the last report with the dataset that it is about. A step
that fails leaves the session as it was.

## Main results

* `Session.scored?_eq_ok_iff`: a report is there exactly once a dataset has been loaded
  and scored.
-/

namespace RiskTally

/-- Why a step of a session has no answer. -/
inductive SessionFault where
  | notLoaded
  | notScored
  deriving DecidableEq, Repr

/-- A report and the dataset that it is about. -/
structure Scored where
  dataset : Dataset
  report : Report

/-- The state of a session. -/
structure Session where
  settings : Settings
  tree : FileTree
  loaded : Option Loaded
  rules : Rules
  watchlist : Watchlist
  scored : Option Scored

namespace Session

/-- Nothing has been loaded. -/
def start (settings : Settings) : Session :=
  ⟨settings, .empty, none, [], [], none⟩

/-- The folder that a session loads. -/
def folder : Text :=
  "dataset".toList

/-- The file that a session takes its rules from. -/
def rulesFile : Text :=
  "rules.md".toList

/-- The path of a file in the folder of the session. -/
def pathOf (name : Text) : Text :=
  folder ++ '/' :: name

/-- Writes a file into the folder. -/
def writeFile (session : Session) (name : Text) (contents : Bytes) : Session :=
  { session with tree := session.tree.write (pathOf name) contents }

/-- Removes a file from the folder, if it is there. -/
def removeFile (session : Session) (name : Text) : Session :=
  { session with tree := session.tree.remove (pathOf name) }

/-- Loads the folder. The last report stays. -/
def load (session : Session) : Except LoadFault (Loaded × Session) := do
  let loaded ← Loading.ofFolder session.settings.reading folder (session.tree.folder? folder)
  return (loaded, { session with loaded := some loaded })

/-- Takes the rules from a text file, or from none. -/
def loadRules (session : Session) (contents : Option Bytes) : Except LoadFault Session := do
  let rules ← Rules.ofFile rulesFile contents
  return { session with rules }

/-- Drops the rules with one of the expressions. -/
def exclude (session : Session) (expressions : List Text) : Session :=
  { session with rules := session.rules.exclude expressions }

/-- The dataset that was loaded. -/
def dataset? (session : Session) : Except SessionFault Dataset :=
  match session.loaded with
  | some loaded => .ok loaded.dataset
  | none => .error .notLoaded

/-- Scores the dataset. -/
def score (session : Session) (evaluator : Evaluator) : Except SessionFault (Report × Session) := do
  let dataset ← session.dataset?
  let report := Report.scoreWith session.settings.scoring evaluator dataset session.rules
    session.watchlist
  return (report, { session with scored := some ⟨dataset, report⟩ })

/-- The last report and its dataset. -/
def scored? (session : Session) : Except SessionFault Scored :=
  match session.loaded, session.scored with
  | none, _ => .error .notLoaded
  | some _, none => .error .notScored
  | some _, some scored => .ok scored

/-- Evaluates an expression on the dataset of the last report, under the settings of now. -/
def evaluate (session : Session) (expression : Text) :
    Except SessionFault (Except EvaluationFault Mask) := do
  let scored ← session.scored?
  let names := scored.report.names.getD (List.replicate scored.dataset.rows [])
  return Expression.evaluate expression ⟨scored.dataset, names, session.settings.scoring⟩

/-- What the session reports, with the warnings of the last load. -/
def summary (session : Session) (queryName : Option Text) : Except SessionFault RunSummary := do
  let scored ← session.scored?
  match session.loaded with
  | some loaded =>
    return Command.summarize ⟨loaded, session.rules, session.watchlist⟩ scored.report queryName
  | none => .error .notLoaded

theorem scored?_eq_ok_iff {session : Session} {scored : Scored} :
    session.scored? = .ok scored ↔
      session.loaded.isSome = true ∧ session.scored = some scored := by
  unfold scored?
  split <;> simp_all

end Session

end RiskTally
