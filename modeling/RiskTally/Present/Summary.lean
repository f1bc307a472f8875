import RiskTally.Present.Grouped
import RiskTally.Present.Json
import RiskTally.Present.Styled
import RiskTally.Profile

/-!
# What a run shows

The warnings about files, the rules that took part and the profile that was asked for,
as text for a terminal or as one JSON document. The concise profile names only a few
rules of special interest, each once.
-/

namespace RiskTally

/-- Everything that a run reports. -/
structure RunSummary where
  warnings : List Text
  /-- How many persons the watchlist names, if it names any. -/
  watchlistNames : Option Nat
  rulesLoaded : Nat
  report : Report
  /-- The answer to the query, if there was one. -/
  profile : Option (Except QueryFault Profile)

namespace Present

/-! ## Text -/

/-- A line of plain text. -/
def line (parts : List Text) : Span :=
  .plain (parts.flatten ++ ['\n'])

/-- The color of a level. -/
def levelColor : Level → Color
  | .critical => .red
  | .high => .darkYellow
  | .medium => .cyan
  | .low => .green

/-- The label under which the concise profile calls out a rule. -/
def highlight? (expression : Text) : Option Text :=
  if Text.startsWith "full_name in [".toList expression then some "full_name in [...]".toList
  else if expression = "duplicate(PolicyNumber)".toList then some expression
  else if expression = "Age == 0".toList then some expression
  else none

/-- The files that were left out. -/
def warnings (warnings : List Text) : Styled :=
  if warnings = [] then []
  else
    .colored .yellow ("Warnings while loading files (".toList ++ natText warnings.length ++
      "):\n".toList) ::
    warnings.map fun warning => line ["  - ".toList, warning]

/-- The size of the watchlist. -/
def watchlistLoaded (names : Nat) : Styled :=
  [line ["Watchlist loaded: ".toList, natText names, " names".toList]]

/-- A rule that was ignored. -/
def ignored (rule : IgnoredRule) : Span :=
  .colored .red ("[IGNORED] ".toList ++ rule.expression ++ " -> ".toList ++ rule.fault.message ++
    ['\n'])

/-- A rule that took part. -/
def activation (a : Activation) : Span :=
  line [" - ".toList, a.expression, " (+".toList, a.weight.label, ") count=".toList,
    natText a.matchedRows]

/-- The rules that were loaded, ignored and took part. -/
def summary (rulesLoaded : Nat) (report : Report) : Styled :=
  line ["Rules loaded: ".toList, natText rulesLoaded, " | Ignored: ".toList,
    natText report.ignored.length] ::
  report.ignored.map ignored ++
  line ["Activations:".toList] :: report.activations.map activation

/-- The rules of special interest with their weights, each label once. -/
def highlights : (shown : List Text) → List Activation → Styled
  | _, [] => []
  | shown, a :: activations =>
    match highlight? a.expression with
    | some label =>
      if shown.contains label then highlights shown activations
      else
        line [label, " (+".toList, a.weight.label, ")".toList] ::
          highlights (label :: shown) activations
    | none => highlights shown activations

/-- The part of a concise profile below its head. -/
def conciseDetails (profile : Profile) : Styled :=
  line [natText profile.activations.length, " rules activated, including:".toList] ::
  (match profile.watchlist with
    | some status =>
      if status.matched then
        [line ["Watchlist match (variable score: +".toList, intText status.score.toInt,
          " from watchlist)".toList]]
      else []
    | none => []) ++
  highlights [] profile.activations

/-- What the watchlist says, in a full profile. -/
def watchlistDetails (count : Option Nat) (status : WatchlistStatus) : Styled :=
  [line ["\nWatchlist:".toList]] ++
  (count.map fun count => line [" - Names loaded: ".toList, natText count]).toList ++
  [line [" - On watchlist: ".toList, if status.matched then "Yes".toList else "No".toList],
    line [" - Watchlist score: ".toList, intText status.score.toInt]] ++
  (if status.reason = [] then [] else [line [" - Reason: ".toList, status.reason]])

/-- How the rows spread over the files, in a full profile. -/
def breakdownDetails (breakdown : List (Text × Nat)) : Styled :=
  if breakdown = [] then []
  else
    line ["\nMatches per file:".toList] ::
    breakdown.map fun (file, count) => line [" - ".toList, file, ": ".toList, natText count]

/-- A rule in a full profile. -/
def ruleDetails (a : Activation) : Styled :=
  [.plain ("  • ".toList ++ a.expression ++ [' ']),
    .colored .darkGrey ("→ +".toList ++ a.weight.label), .plain ['\n']]

/-- The part of a full profile below its head. -/
def verboseDetails (profile : Profile) : Styled :=
  (profile.watchlist.map (watchlistDetails profile.watchlistCount)).getD [] ++
  breakdownDetails profile.breakdown ++
  line ["\nActivated Rules (".toList, natText profile.activations.length, "):".toList] ::
  profile.activations.flatMap ruleDetails

/-- The head of a profile. -/
def profileHead (profile : Profile) : Styled :=
  [line ["Name: ".toList, profile.name],
    line ["Total Score: ".toList, groupedText profile.score],
    .plain "Risk Level: ".toList, .colored (levelColor profile.level) profile.level.label,
    .plain ['\n'], line ["Records Found: ".toList, natText profile.records]]

/-- The answer to a query. -/
def profile (concise : Bool) (answer : Except QueryFault Profile) : Styled :=
  .colored .magenta "\n=== RISK PROFILE ===\n".toList ::
  match answer with
  | .ok profile =>
    profileHead profile ++ if concise then conciseDetails profile else verboseDetails profile
  | .error fault => [line [fault.message]]

/-- Everything that a run reports. -/
def run (concise : Bool) (run : RunSummary) : Styled :=
  warnings run.warnings ++ (run.watchlistNames.map watchlistLoaded).getD [] ++
  summary run.rulesLoaded run.report ++ (run.profile.map (profile concise)).getD []

end Present

/-! ## JSON -/

namespace Weight

/-- The weight as a JSON value. -/
def toJson : Weight → Json
  | fixed amount => .integer amount.toInt
  | perRow => .text perRow.label

end Weight

/-- An activation as a JSON value. -/
def Activation.toJson (a : Activation) : Json :=
  .object [("expression".toList, .text a.expression), ("weight".toList, a.weight.toJson),
    ("matched_rows".toList, .integer a.matchedRows)]

/-- An ignored rule as a JSON value. -/
def IgnoredRule.toJson (rule : IgnoredRule) : Json :=
  .object [("expression".toList, .text rule.expression),
    ("error".toList, .text rule.fault.message)]

/-- What the watchlist says as a JSON value. -/
def WatchlistStatus.toJson (status : WatchlistStatus) : Json :=
  .object [("matched".toList, .boolean status.matched),
    ("score".toList, .integer status.score.toInt), ("reason".toList, .text status.reason)]

/-- A profile as a JSON value. -/
def Profile.toJson (profile : Profile) : Json :=
  .object ([("full_name".toList, .text profile.name),
      ("risk_score".toList, .integer profile.score.toInt),
      ("risk_level".toList, .text profile.level.label),
      ("rules".toList, .list (profile.activations.map Activation.toJson)),
      ("records_count".toList, .integer profile.records),
      ("records_breakdown".toList, .list (profile.breakdown.map fun (file, count) =>
        .list [.text file, .integer count]))] ++
    (profile.watchlist.map fun status => ("watchlist".toList, status.toJson)).toList ++
    (profile.watchlistCount.map fun count =>
      ("watchlist_count".toList, Json.integer count)).toList)

/-- The summary of a report as a JSON value. -/
def Report.toJson (report : Report) : Json :=
  .object [("rows".toList, .integer report.rows),
    ("identities".toList, .integer report.identities.length),
    ("activations".toList, .list (report.activations.map Activation.toJson)),
    ("ignored".toList, .list (report.ignored.map IgnoredRule.toJson)),
    ("name_source".toList, (report.nameSource.map fun source => .text source.label).getD .null)]

/-- Everything that a run reports, as a JSON value. -/
def RunSummary.toJson (run : RunSummary) : Json :=
  .object ([("warnings".toList, .list (run.warnings.map .text))] ++
    (run.watchlistNames.map fun names => ("watchlist_names".toList, Json.integer names)).toList ++
    [("rules_loaded".toList, .integer run.rulesLoaded), ("report".toList, run.report.toJson)] ++
    (match run.profile with
      | some (.ok profile) => [("profile".toList, profile.toJson)]
      | some (.error fault) => [("query_error".toList, .text fault.message)]
      | none => []))

end RiskTally
