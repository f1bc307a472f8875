import RiskTally.Proofs.FailedRuns

/-!
# What a run logs by default

Unless more or less is asked for, a logger lets the alerts of a run through and nothing else.
They are one for every file of the dataset that is left out, as many as the report has warnings,
and one for the fault that ends the run, if one does.  Neither the watchlist nor the rules have
any: over the dataset of a folder every rule can be evaluated.

## Main results

* `Loading.length_alerts`: there is an alert for every warning.
* `Command.alerts_run`: the alerts of a run.
-/

namespace RiskTally

/-- The alerts among events. -/
def Event.alerts (events : List Event) : List Event :=
  events.filter Event.isAlert

/-- The alert that is logged. -/
def Output.alert? : Output → Option Event
  | logged event => if event.isAlert then some event else none
  | shown _ => none

/-- The alerts that a run logs. -/
def RunOutcome.alerts (outcome : RunOutcome) : List Event :=
  outcome.output.filterMap Output.alert?

/-- The alerts of a file of the dataset. -/
def Loading.Report.alerts (report : Loading.Report) : List Event :=
  Event.alerts (Log.outcome report.file report.outcome)

@[simp] theorem Event.alerts_append (a b : List Event) : alerts (a ++ b) = alerts a ++ alerts b :=
  List.filter_append ..

theorem Event.alerts_flatMap {α : Type} (items : List α) (events : α → List Event) :
    alerts (items.flatMap events) = items.flatMap fun item => alerts (events item) :=
  List.filter_flatMap

theorem Event.alerts_eq_nil {events : List Event} {severity : Severity}
    (h : ∀ e ∈ events, e.severity = severity) (hlow : severity ≠ .warning ∧ severity ≠ .error) :
    alerts events = [] := by
  refine List.filter_eq_nil_iff.2 fun e he => ?_
  rw [isAlert, h e he]
  cases severity <;> simp_all

theorem Output.filterMap_alert?_logged (events : List Event) :
    (events.map Output.logged).filterMap alert? = Event.alerts events := by
  rw [List.filterMap_map, Event.alerts, ← List.filterMap_eq_filter]
  congr 1

@[simp] theorem RunOutcome.alerts_after (events : List Event) (outcome : RunOutcome) :
    (outcome.after events).alerts = Event.alerts events ++ outcome.alerts := by
  rw [alerts, after, List.filterMap_append, Output.filterMap_alert?_logged]
  rfl

@[simp] theorem RunOutcome.alerts_failing (outcome : RunOutcome) (fault : RunFault) :
    (outcome.failing fault).alerts = outcome.alerts ++ [fault.event] := by
  rw [alerts, failing, List.filterMap_append]
  rfl

/-! ## Files -/

namespace Log

theorem alerts_attempts (settings : ReadSettings) (path : Text) (contents : Bytes)
    (encodings : List Encoding) :
    Event.alerts (attempts settings path contents encodings) = [] :=
  Event.alerts_eq_nil (fun _ => severity_of_mem_attempts) (by decide)

theorem alerts_expression (text : Text) : Event.alerts (expression text) = [] :=
  Event.alerts_eq_nil (fun _ => severity_of_mem_expression) (by decide)

theorem alerts_file (settings : ReadSettings) (path : Text) (named : Text × Bytes) :
    Event.alerts (file settings path named) =
      Loading.Report.alerts ⟨named.1, Loading.outcome settings named.1 named.2⟩ := by
  rw [file, Event.alerts_append]
  split
  · rw [alerts_attempts]
    rfl
  · rfl

theorem alerts_folder (settings : ReadSettings) (path : Text)
    (files : Option (List (Text × Bytes))) :
    Event.alerts (folder settings path files) =
      (Loading.reports settings (files.getD [])).flatMap Loading.Report.alerts := by
  cases files with
  | none => simp [folder, Event.alerts, Loading.reports, Loading.inOrder]
  | some files =>
    have hfiles : Event.alerts ((Loading.inOrder files).flatMap (file settings path)) =
        (Loading.reports settings files).flatMap Loading.Report.alerts := by
      rw [Event.alerts_flatMap, Loading.reports, List.flatMap_map]
      simp only [alerts_file]
    rw [folder, Event.alerts_append, hfiles]
    split <;> simp [Event.alerts, event, Event.isAlert]

end Log

/-- A file has one alert if there is a warning about it, and else none. -/
theorem Loading.Report.length_alerts (report : Loading.Report) :
    report.alerts.length = report.fault?.toList.length := by
  obtain ⟨file, outcome⟩ := report
  cases outcome <;> rfl

theorem Loading.length_alerts (reports : List Loading.Report) :
    (reports.flatMap Report.alerts).length = (warnings reports).length := by
  induction reports with
  | nil => rfl
  | cons report reports ih =>
    rw [List.flatMap_cons, List.length_append, ih, Report.length_alerts]
    cases hfault : report.fault? <;> simp [warnings, hfault, Nat.add_comm]

/-! ## Stages -/

namespace Stage

variable {α β : Type}

/-- The stage has no alert. -/
def Quiet (stage : Stage α) : Prop :=
  Event.alerts stage.events = []

/-- What follows on a stage adds no alert if it is quiet. -/
theorem alerts_bind {first : Stage α} {next : α → Stage β} (h : ∀ a, (next a).Quiet) :
    Event.alerts (first >>= next).events = Event.alerts first.events := by
  change Event.alerts (Stage.bind first next).events = _
  unfold Stage.bind
  cases first.result with
  | error fault => rfl
  | ok a => rw [Event.alerts_append, h a, List.append_nil]

theorem quiet_bind {first : Stage α} {next : α → Stage β} (hfirst : first.Quiet)
    (hnext : ∀ a, (next a).Quiet) : (first >>= next).Quiet :=
  (alerts_bind hnext).trans hfirst

end Stage

namespace Command

variable {arguments : Arguments} {around : Surroundings}

theorem quiet_loadRules (arguments : Arguments) (around : Surroundings) :
    (loadRules arguments around).Quiet := by
  unfold loadRules Log.rules
  dsimp only [Stage.Quiet]
  split <;> rfl

theorem quiet_exclusions (excluded : List Text) (rules : Rules) :
    (Stage.log (Log.exclusions excluded rules)).Quiet := by
  unfold Stage.log Log.exclusions
  dsimp only [Stage.Quiet]
  split <;> rfl

theorem quiet_loadWatchlist (arguments : Arguments) (settings : ReadSettings)
    (around : Surroundings) : (loadWatchlist arguments settings around).Quiet := by
  unfold loadWatchlist
  split
  · rfl
  · dsimp only [Stage.Quiet]
    unfold Log.watchlist
    split
    · rfl
    · rw [Event.alerts_append, Log.alerts_attempts]
      split
      · rfl
      · split <;> rfl

theorem alerts_load (arguments : Arguments) (settings : ReadSettings) (around : Surroundings) :
    Event.alerts (load arguments settings around).events =
      (Loading.reports settings ((around.folder? arguments.datasetDir).getD [])).flatMap
        Loading.Report.alerts := by
  unfold load
  rw [Stage.alerts_bind]
  · exact Log.alerts_folder ..
  · intro loaded
    refine Stage.quiet_bind (quiet_loadRules ..) fun rules => ?_
    refine Stage.quiet_bind (quiet_exclusions ..) fun _ => ?_
    exact Stage.quiet_bind (quiet_loadWatchlist ..) fun watchlist => rfl

/-! ## Runs -/

theorem alerts_scoring {dataset : Dataset} (h : dataset.Rectangular) (settings : ScoringSettings)
    (rules : Rules) (report : Report) :
    Event.alerts (Log.scoring settings dataset rules report) = [] := by
  have hrule (rule : Rule) :
      Event.alerts (Log.rule (Report.contextOf settings dataset) rule) = [] := by
    rw [Log.rule, Expression.evaluate_eq_ok (Report.rectangular_contextOf h settings),
      Event.alerts_append, Log.alerts_expression]
    rfl
  have hsource : Event.alerts [Log.nameSource report.nameSource] = [] := by
    cases report.nameSource <;> rfl
  rw [Log.scoring, ← List.singleton_append, Event.alerts_append, Event.alerts_append, hsource,
    Event.alerts_flatMap]
  simp only [hrule, List.flatMap_eq_nil_iff.2 fun _ _ => rfl]
  rfl

theorem alerts_showReport {inputs : Inputs} (h : inputs.loaded.dataset.Rectangular)
    (arguments : Arguments) (settings : ScoringSettings) (report : Report) :
    (showReport arguments settings inputs report).alerts = [] := by
  rw [showReport, RunOutcome.alerts_after, alerts_scoring h]
  rfl

theorem alerts_exportNotes (arguments : Arguments) (path : Text) (rows : Nat) :
    (exportNotes arguments path rows).filterMap Output.alert? = [] := by
  have hlogged : Event.alerts (Log.exported path arguments.exportFormat rows) = [] := by
    cases arguments.exportFormat <;> rfl
  rw [exportNotes, List.filterMap_append, Output.filterMap_alert?_logged, hlogged]
  split <;> rfl

theorem alerts_finish {inputs : Inputs} (h : inputs.loaded.dataset.Rectangular)
    (arguments : Arguments) (settings : ScoringSettings) (around : Surroundings) :
    (finish arguments settings around inputs).alerts =
      ((finish arguments settings around inputs).fault.map RunFault.event).toList := by
  unfold finish
  dsimp only
  split
  · rw [alerts_showReport h]
    rfl
  · split
    · rw [RunOutcome.alerts_failing, alerts_showReport h]
      rfl
    · change List.filterMap Output.alert? (_ ++ _) = []
      rw [List.filterMap_append, alerts_exportNotes, List.append_nil]
      exact alerts_showReport h ..

/-- The alerts of a run are those of the files that are left out and that of its fault. -/
theorem alerts_run (arguments : Arguments) (settings : Settings) (around : Surroundings) :
    (run arguments settings around).alerts =
      (Loading.reports settings.reading ((around.folder? arguments.datasetDir).getD [])).flatMap
        Loading.Report.alerts ++
      ((run arguments settings around).fault.map RunFault.event).toList := by
  have hloading : Event.alerts (loadingEvents arguments settings around) =
      (Loading.reports settings.reading ((around.folder? arguments.datasetDir).getD [])).flatMap
        Loading.Report.alerts := by
    rw [loadingEvents, Event.alerts_append, alerts_load]
    rfl
  cases hload : (load arguments settings.reading around).result with
  | error fault =>
    rw [run_of_fault hload, RunOutcome.alerts_after, hloading, RunOutcome.alerts_failing]
    rfl
  | ok inputs =>
    rw [run_of_inputs hload, RunOutcome.alerts_after, hloading,
      alerts_finish (rectangular_of_load hload)]
    rfl

end Command

end RiskTally
