import RiskTally.Files.Surroundings
import RiskTally.Proofs.ColumnsByName

/-!
# What a failed run shows

A run that fails shows no page, or it shows every page.  The inputs are loaded before
anything is shown, and once they are loaded the only fault left is one in writing the export:
the report of a loaded dataset always fits into a table.  That fault is met last, when the
whole report stands on the output, with nothing in it that tells it from the report of a run
that succeeds.  Only the log, which is written to the same place, tells of the fault; whether
it does is up to the logger.

## Main results

* `Command.finish_of_unwritable`: the whole report is shown before the export is tried.
* `Command.run_cases`: the three ways in which a run can end.
* `Command.exitCode_run_eq_one_iff`: when a run fails.
* `Command.stdout_of_failed_run`: what a failed run leaves behind, on any console.
-/

namespace RiskTally

/-- A computation that gives a value gives one at its first step. -/
private theorem exists_ok_of_bind {ε α β : Type} {first : Except ε α} {rest : α → Except ε β}
    {b : β} (h : first >>= rest = .ok b) : ∃ a, first = .ok a ∧ rest a = .ok b := by
  cases first with
  | error fault => cases h
  | ok a => exact ⟨a, rfl, h⟩

private theorem ok_of_mapError {ε ε' α : Type} {result : Except ε α} {f : ε → ε'} {a : α}
    (h : result.mapError f = .ok a) : result = .ok a := by
  cases result with
  | error fault => cases h
  | ok b => exact congrArg Except.ok (Except.ok.inj h)

/-- A value that can be found by computing. -/
private theorem exists_ok_of_holds {ε α : Type} {result : Except ε α} {p : α → Prop}
    [DecidablePred p] (h : result.toOption.any (fun a => p a) = true) :
    ∃ a, result = .ok a ∧ p a := by
  cases result with
  | error fault => simp [Except.toOption] at h
  | ok a => exact ⟨a, rfl, by simpa [Except.toOption] using h⟩

/-! ## What is shown -/

/-- The line that counts the rules is there in every run, and a line has its end. -/
theorem Present.render_run_ne_nil (concise : Bool) (summary : RunSummary) (color : Bool) :
    (Present.run concise summary).render color ≠ [] := by
  have hcount : Present.line ["Rules loaded: ".toList, natText summary.rulesLoaded,
      " | Ignored: ".toList, natText summary.report.ignored.length] ∈
      Present.run concise summary := by
    simp [Present.run, Present.summary]
  intro hnil
  have := List.flatMap_eq_nil_iff.1 hnil _ hcount
  simp [Present.line, Styled.renderSpan] at this

theorem Json.document_ne_nil (value : Json) : value.document ≠ [] :=
  List.append_ne_nil_of_right_ne_nil _ (List.cons_ne_nil _ _)

theorem Command.render_page_ne_nil (arguments : Arguments) (summary : RunSummary) (color : Bool) :
    (page arguments summary).render color ≠ [] := by
  unfold page
  split
  · simpa [Styled.render, Styled.renderSpan] using Json.document_ne_nil summary.toJson
  · exact Present.render_run_ne_nil _ _ _

/-! ## Runs with loaded inputs -/

namespace Command

variable {arguments : Arguments} {around : Surroundings} {inputs : Inputs}

/-- The same arguments, with no export asked for. -/
def withoutExport (arguments : Arguments) : Arguments :=
  { arguments with exportPath := none }

/-- Without an export a run with loaded inputs shows its report and is done. -/
theorem finish_withoutExport (arguments : Arguments) (settings : ScoringSettings)
    (around : Surroundings) (inputs : Inputs) :
    finish (withoutExport arguments) settings around inputs =
      showReport arguments settings inputs
        (.score settings inputs.loaded.dataset inputs.rules inputs.watchlist) := rfl

theorem pages_showReport (arguments : Arguments) (settings : ScoringSettings) (inputs : Inputs)
    (report : Report) :
    (showReport arguments settings inputs report).pages =
      [page arguments (summarize inputs report arguments.queryName)] := by
  rw [showReport, RunOutcome.pages_after]
  rfl

/-- The dataset of a run is that of the files of its folder. -/
theorem files_of_load {settings : ReadSettings}
    (hload : (load arguments settings around).result = .ok inputs) :
    ∃ files, around.folder? arguments.datasetDir = some files ∧
      Loading.load settings arguments.datasetDir files = .ok inputs.loaded := by
  simp only [load, Stage.result_bind] at hload
  obtain ⟨loaded, hfolder, hload⟩ := exists_ok_of_bind hload
  obtain ⟨rules, -, hload⟩ := exists_ok_of_bind hload
  obtain ⟨-, -, hload⟩ := exists_ok_of_bind hload
  obtain ⟨watchlist, -, hload⟩ := exists_ok_of_bind hload
  have hloaded : loaded = inputs.loaded := congrArg Inputs.loaded (Except.ok.inj hload)
  have hfolder := ok_of_mapError hfolder
  cases hfiles : around.folder? arguments.datasetDir with
  | none => simp [hfiles, Loading.ofFolder] at hfolder
  | some files =>
      rw [hfiles, Loading.ofFolder, hloaded] at hfolder
      exact ⟨files, rfl, hfolder⟩

theorem rectangular_of_load {settings : ReadSettings}
    (hload : (load arguments settings around).result = .ok inputs) :
    inputs.loaded.dataset.Rectangular := by
  obtain ⟨files, -, hfiles⟩ := files_of_load hload
  exact Loading.rectangular_of_load hfiles

/-- The report of a rectangular dataset always has an export. -/
theorem exists_exportAs {dataset : Dataset} (h : dataset.Rectangular) (settings : ScoringSettings)
    (rules : Rules) (watchlist : Watchlist) (format : ExportFormat) :
    ∃ exported, (Report.score settings dataset rules watchlist).exportAs dataset format =
      .ok exported := by
  obtain ⟨table, htable⟩ :
      ∃ table, ExportTable.ofReport dataset (.score settings dataset rules watchlist) = .ok table :=
    ExportTable.exists_ofReport h settings Expression.evaluate rules watchlist
  cases format <;> exact ⟨_, by rw [Report.exportAs, htable]⟩

/-- What has an export is refused only where its file cannot be written. -/
theorem export?_of_exportAs {dataset : Dataset} {report : Report} {format : ExportFormat}
    {exported : Nat × Exported} (h : report.exportAs dataset format = .ok exported) (path : Text) :
    export? around path format dataset report =
      match around.writeFault? path with
      | some fault => .error (.export path (.unwritable fault))
      | none => .ok exported := by
  cases hfault : around.writeFault? path <;> simp [export?, h, hfault]

/-- The whole report is shown before the export is tried, as it would be without one. -/
theorem finish_of_unwritable {path : Text} {fault : WriteFault} {settings : ScoringSettings}
    (hdataset : inputs.loaded.dataset.Rectangular) (hpath : arguments.exportPath = some path)
    (hfault : around.writeFault? path = some fault) :
    finish arguments settings around inputs =
      (finish (withoutExport arguments) settings around inputs).failing
        (.export path (.unwritable fault)) := by
  obtain ⟨exported, hexported⟩ := exists_exportAs hdataset settings inputs.rules inputs.watchlist
    arguments.exportFormat
  rw [finish_withoutExport]
  simp only [finish, hpath, export?_of_exportAs hexported, hfault]

/-- An export that can be written is no reason to fail. -/
theorem fault_finish_of_writable {settings : ScoringSettings}
    (hdataset : inputs.loaded.dataset.Rectangular)
    (hwritable : ∀ path, arguments.exportPath = some path → around.writeFault? path = none) :
    (finish arguments settings around inputs).fault = none := by
  unfold finish
  cases hpath : arguments.exportPath with
  | none => rfl
  | some path =>
      obtain ⟨exported, hexported⟩ := exists_exportAs hdataset settings inputs.rules
        inputs.watchlist arguments.exportFormat
      simp only [export?_of_exportAs hexported, hwritable path hpath]
      rfl

/-! ## Failed runs -/

/-- The inputs of a run cannot be loaded. -/
def CannotLoad (arguments : Arguments) (settings : ReadSettings) (around : Surroundings)
    (fault : RunFault) : Prop :=
  (load arguments settings around).result = .error fault

/-- The export is asked for at a path where it cannot be written. -/
def CannotExport (arguments : Arguments) (around : Surroundings) (path : Text)
    (fault : WriteFault) : Prop :=
  arguments.exportPath = some path ∧ around.writeFault? path = some fault

/-- What a run logs until its inputs are loaded or cannot be. -/
def loadingEvents (arguments : Arguments) (settings : Settings) (around : Surroundings) :
    List Event :=
  Log.settings settings ++ (load arguments settings.reading around).events

/-- A run whose inputs cannot be loaded ends there. -/
theorem run_of_fault {settings : Settings} {fault : RunFault}
    (hload : CannotLoad arguments settings.reading around fault) :
    run arguments settings around =
      (RunOutcome.start.failing fault).after (loadingEvents arguments settings around) := by
  rw [CannotLoad] at hload
  rw [run, hload]
  rfl

theorem run_of_inputs {settings : Settings}
    (hload : (load arguments settings.reading around).result = .ok inputs) :
    run arguments settings around =
      (finish arguments settings.scoring around inputs).after
        (loadingEvents arguments settings around) := by
  rw [run, hload]
  rfl

/-- Inputs are loaded from the same places whether or not there is an export. -/
theorem run_withoutExport_of_inputs {settings : Settings}
    (hload : (load arguments settings.reading around).result = .ok inputs) :
    run (withoutExport arguments) settings around =
      (finish (withoutExport arguments) settings.scoring around inputs).after
        (loadingEvents arguments settings around) :=
  run_of_inputs hload

/-- A run with loaded inputs and no export shows its report and succeeds. -/
theorem run_withoutExport {settings : Settings}
    (hload : (load arguments settings.reading around).result = .ok inputs) :
    let report := Report.score settings.scoring inputs.loaded.dataset inputs.rules inputs.watchlist
    let unexported := run (withoutExport arguments) settings around
    unexported.exitCode = 0 ∧ unexported.written = none ∧
      unexported.pages = [page arguments (summarize inputs report arguments.queryName)] := by
  dsimp only
  rw [run_withoutExport_of_inputs hload, RunOutcome.pages_after, finish_withoutExport,
    pages_showReport]
  exact ⟨rfl, rfl, rfl⟩

/-- The three ways in which a run can end. -/
theorem run_cases (arguments : Arguments) (settings : Settings) (around : Surroundings) :
    -- The inputs cannot be loaded: no page is shown.
    (∃ fault, CannotLoad arguments settings.reading around fault ∧
      run arguments settings around =
        (RunOutcome.start.failing fault).after (loadingEvents arguments settings around)) ∨
    ∃ inputs, (load arguments settings.reading around).result = .ok inputs ∧
      -- The export cannot be written: everything else is as it is without one.
      ((∃ path fault, CannotExport arguments around path fault ∧
        run arguments settings around =
          (run (withoutExport arguments) settings around).failing
            (.export path (.unwritable fault))) ∨
      -- The run succeeds.
      ((∀ path fault, ¬ CannotExport arguments around path fault) ∧
        (run arguments settings around).fault = none)) := by
  cases hload : (load arguments settings.reading around).result with
  | error fault => exact .inl ⟨fault, hload, run_of_fault hload⟩
  | ok inputs =>
      have hdataset := rectangular_of_load hload
      refine .inr ⟨inputs, rfl, ?_⟩
      rw [run_of_inputs hload, run_withoutExport_of_inputs hload]
      by_cases hexport : ∃ path fault, CannotExport arguments around path fault
      · obtain ⟨path, fault, hpath, hfault⟩ := hexport
        refine .inl ⟨path, fault, ⟨hpath, hfault⟩, ?_⟩
        rw [finish_of_unwritable hdataset hpath hfault, RunOutcome.after_failing]
      · have hwritable : ∀ path fault, ¬ CannotExport arguments around path fault :=
          fun path fault h => hexport ⟨path, fault, h⟩
        refine .inr ⟨hwritable, fault_finish_of_writable hdataset fun path hpath => ?_⟩
        exact Option.eq_none_iff_forall_ne_some.2 fun fault hfault =>
          hwritable path fault ⟨hpath, hfault⟩

/-- A run fails exactly if its inputs cannot be loaded or its export cannot be written. -/
theorem exitCode_run_eq_one_iff {settings : Settings} :
    (run arguments settings around).exitCode = 1 ↔
      (∃ fault, CannotLoad arguments settings.reading around fault) ∨
        ∃ path fault, CannotExport arguments around path fault := by
  obtain ⟨fault, hload, hrun⟩ | ⟨inputs, hload, ⟨path, fault, hexport, hrun⟩ | ⟨hwritable, hrun⟩⟩ :=
    run_cases arguments settings around
  · simp only [hrun]
    exact iff_of_true rfl (.inl ⟨fault, hload⟩)
  · simp only [hrun]
    exact iff_of_true rfl (.inr ⟨path, fault, hexport⟩)
  · simp [hrun, hload, hwritable, RunOutcome.exitCode, CannotLoad]

/-- A sheet and a file without rules, looked at from the folder around the sheet. -/
def folderInTheWay : Surroundings :=
  let root := FileTree.empty.write "dataset/a.csv".toList (Utf8.encode "x\n1\n".toList)
  (root.write "rules_engine.md".toList []).surroundings

/-- Whatever is called for, a run that fails writes no export, and the last thing that it puts
out is the event of its fault.  It shows no page exactly if its inputs could not be loaded, so
that nothing stands on a console if the logger, too, has nothing to say of the run.  Else its
export could not be written, and all else that it puts out, on any console, is what the same run
puts out, and succeeds with, when no export is asked for. -/
theorem stdout_of_failed_run {environment : Environment} {words : List Text}
    {outcome : RunOutcome} (hrun : execute environment words around = .ok outcome)
    (hfailed : outcome.exitCode = 1) :
    ∃ known arguments,
      environmentOf environment ((environmentFiles around.depth).findSome? around.file?) =
        .ok known ∧
      Arguments.read? known words = .ok arguments ∧
      let settings := Settings.ofEnvironment known
      let unexported := run (withoutExport arguments) settings around
      outcome.written = none ∧
      (∃ (earlier : RunOutcome) (fault : RunFault), outcome = earlier.failing fault) ∧
      (outcome.pages = [] ↔ ∃ fault, CannotLoad arguments settings.reading around fault) ∧
      (∀ console : Console, outcome.on console = [] ↔
        (∃ fault, CannotLoad arguments settings.reading around fault) ∧
          console.PassesOver outcome) ∧
      (outcome.pages ≠ [] →
        unexported.exitCode = 0 ∧ unexported.pages = outcome.pages ∧
        ∃ path fault, CannotExport arguments around path fault ∧
          let fault := RunFault.export path (.unwritable fault)
          outcome = unexported.failing fault ∧
          ∀ console : Console, outcome.on console =
            unexported.on console ++ console.log unexported.output.length fault.event) := by
  obtain ⟨known, hknown, hrun⟩ := exists_ok_of_bind hrun
  obtain ⟨arguments, harguments, hrun⟩ := exists_ok_of_bind hrun
  obtain rfl := Except.ok.inj hrun
  refine ⟨known, arguments, ok_of_mapError hknown, ok_of_mapError harguments, ?_⟩
  generalize Settings.ofEnvironment known = settings at hfailed ⊢
  dsimp only
  obtain ⟨fault, hload, hoff⟩ | ⟨inputs, hload, ⟨path, fault, hexport, hoff⟩ | ⟨-, hnone⟩⟩ :=
    run_cases arguments settings around
  · have hpages : (run arguments settings around).pages = [] := by
      rw [hoff, RunOutcome.pages_after]
      rfl
    have hcannot : ∃ fault, CannotLoad arguments settings.reading around fault := ⟨fault, hload⟩
    refine ⟨by rw [hoff]; rfl, ⟨_, fault, hoff.trans (RunOutcome.after_failing ..)⟩,
      iff_of_true hpages hcannot, fun console => ?_, fun hshown => absurd hpages hshown⟩
    rw [RunOutcome.on_eq_nil_iff, hpages]
    simp [hcannot]
  · obtain ⟨hexit, hwritten, hpage⟩ := run_withoutExport hload
    have hpages : (run arguments settings around).pages =
        (run (withoutExport arguments) settings around).pages := by
      rw [hoff, RunOutcome.pages_failing]
    have hcan : ¬ ∃ fault, CannotLoad arguments settings.reading around fault := by
      simp [CannotLoad, hload]
    refine ⟨by rw [hoff]; exact hwritten, ⟨_, _, hoff⟩, iff_of_false (by simp [hpages, hpage]) hcan,
      fun console => iff_of_false (fun hnil => ?_) fun h => hcan h.1,
      fun _ => ⟨hexit, hpages.symm, path, fault, hexport, hoff, fun console => ?_⟩⟩
    · -- The page of the report is never blank.
      rw [RunOutcome.on_eq_nil_iff, hpages, hpage] at hnil
      exact render_page_ne_nil _ _ _ (hnil.1 _ (List.mem_singleton_self _))
    · rw [hoff, RunOutcome.on_failing]
  · simp [RunOutcome.exitCode, hnone] at hfailed

/-- The export is to replace the folder of the sheet, and the report is shown as JSON. -/
theorem stdout_of_failed_run_json :
    ∃ outcome, execute [] ["--json".toList, "--export=dataset".toList] folderInTheWay =
        .ok outcome ∧
      outcome.exitCode = 1 ∧ outcome.written = none ∧ outcome.pages ≠ [] ∧
      ∃ known arguments,
        Arguments.read? known ["--json".toList, "--export=dataset".toList] = .ok arguments ∧
        let settings := Settings.ofEnvironment known
        let unexported := run (withoutExport arguments) settings folderInTheWay
        unexported.exitCode = 0 ∧ unexported.pages = outcome.pages := by
  obtain ⟨outcome, hrun, hfailed, hshown⟩ :
      ∃ outcome, execute [] ["--json".toList, "--export=dataset".toList] folderInTheWay =
        .ok outcome ∧ outcome.exitCode = 1 ∧ outcome.pages ≠ [] :=
    exists_ok_of_holds (by decide +kernel)
  obtain ⟨known, arguments, -, harguments, hwritten, -, -, -, hrest⟩ :=
    stdout_of_failed_run hrun hfailed
  exact ⟨outcome, hrun, hfailed, hwritten, hshown, known, arguments, harguments,
    (hrest hshown).1, (hrest hshown).2.1⟩

/-- The same run without JSON: it fails, and the report of no rules stands on the output, alone
where nothing is logged and between lines of the log where something is. -/
theorem report_before_failed_export :
    ∃ outcome, execute [] ["--export".toList, "dataset".toList] folderInTheWay = .ok outcome ∧
      outcome.exitCode = 1 ∧
      outcome.stdout = "Rules loaded: 0 | Ignored: 0\nActivations:\n".toList ∧
      ∀ log, ∃ before after, outcome.on ⟨false, log⟩ =
        before ++ "Rules loaded: 0 | Ignored: 0\nActivations:\n".toList ++ after := by
  obtain ⟨outcome, hrun, hfailed, hstdout, hpages⟩ :
      ∃ outcome, execute [] ["--export".toList, "dataset".toList] folderInTheWay = .ok outcome ∧
        outcome.exitCode = 1 ∧
        outcome.stdout = "Rules loaded: 0 | Ignored: 0\nActivations:\n".toList ∧
        outcome.pages.map (Styled.render false) =
          ["Rules loaded: 0 | Ignored: 0\nActivations:\n".toList] :=
    exists_ok_of_holds (by decide +kernel)
  refine ⟨outcome, hrun, hfailed, hstdout, fun log => ?_⟩
  obtain ⟨page, hpage, hrender⟩ := List.mem_map.1 (hpages ▸ List.mem_singleton_self _)
  rw [← hrender]
  exact RunOutcome.exists_on_of_mem_pages ⟨false, log⟩ hpage

end Command

end RiskTally
