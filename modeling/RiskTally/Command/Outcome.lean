import RiskTally.Command.Log
import RiskTally.Export.Sheet
import RiskTally.Present.Styled

/-!
# What a run leaves behind

A run puts out pages and events, in one order. A console makes a text of them: it shows the
pages, with or without colors, and writes what its logger has to say of the events. A run
goes through stages, each of which logs events and then gives a value or ends the run.

## Main results

* `RunOutcome.on_failing`: a run that fails puts the event of its fault behind all else.
* `RunOutcome.exists_on_of_mem_pages`: a page that is shown stands on every console.
* `RunOutcome.on_eq_nil_iff`: when nothing stands on a console.
* `Stage.result_bind`: the values and faults of stages are chained like those of any computation.
-/

namespace RiskTally

/-! ## Faults -/

/-- Why a run failed, with the path in question. -/
inductive RunFault where
  | dataset (path : Text) (fault : LoadFault)
  | rules (path : Text) (fault : LoadFault)
  | watchlist (path : Text) (fault : LoadFault)
  | export (path : Text) (fault : ExportFault)
  deriving DecidableEq, Repr

/-- What was tried, what went wrong and, where there is one, the fault beneath it. -/
def RunFault.message : RunFault → Text
  | dataset path fault => chain "failed to load dataset from " path fault.message fault.cause?
  | rules path fault => chain "failed to load rules from " path fault.message fault.cause?
  | watchlist path fault => chain "failed to load watchlist from " path fault.message fault.cause?
  | .export path fault => chain "failed to export results to " path fault.message fault.cause?
where
  /-- The links of a message, a colon between each two. -/
  chain (attempt : String) (path message : Text) (cause : Option Text) : Text :=
    ": ".toList.intercalate ([attempt.toList ++ path, message] ++ cause.toList)

/-- The event of a fault that ends a run. -/
def RunFault.event (fault : RunFault) : Event :=
  ⟨.error, fault.message, []⟩

/-! ## Output -/

/-- Something that a run puts out. -/
inductive Output where
  | logged (event : Event)
  | shown (page : Styled)
  deriving DecidableEq, Repr

/-- The page that is shown. -/
def Output.page? : Output → Option Styled
  | logged _ => none
  | shown page => some page

/-- Where the output of a run stands. -/
structure Console where
  /-- Pages are shown with their colors. -/
  colors : Bool
  /-- What is written for the event at a place of the output; nothing for an event that is not
  let through. -/
  log : Nat → Event → Text

/-- What a console has of the output at a place. -/
def Console.text (console : Console) : Output × Nat → Text
  | (.logged event, place) => console.log place event
  | (.shown page, _) => page.render console.colors

/-- What a run leaves behind. -/
structure RunOutcome where
  output : List Output
  fault : Option RunFault
  /-- The path of the export and what is written there. -/
  written : Option (Text × Exported)

/-- The logger has nothing to say of a run. -/
def Console.PassesOver (console : Console) (outcome : RunOutcome) : Prop :=
  ∀ place event, outcome.output[place]? = some (.logged event) → console.log place event = []

namespace RunOutcome

/-- A run that has put out nothing yet. -/
def start : RunOutcome :=
  ⟨[], none, none⟩

/-- A run that has logged events before all else. -/
def after (events : List Event) (outcome : RunOutcome) : RunOutcome :=
  { outcome with output := events.map .logged ++ outcome.output }

/-- A run that ends with a fault after all else. -/
def failing (outcome : RunOutcome) (fault : RunFault) : RunOutcome :=
  { outcome with output := outcome.output ++ [.logged fault.event], fault := some fault }

/-- The pages that a run shows. -/
def pages (outcome : RunOutcome) : List Styled :=
  outcome.output.filterMap Output.page?

/-- The output of a run on a console. -/
def on (outcome : RunOutcome) (console : Console) : Text :=
  outcome.output.zipIdx.flatMap console.text

/-- The output of a run where colors are off and so is the logger. -/
def stdout (outcome : RunOutcome) : Text :=
  outcome.on ⟨false, fun _ _ => []⟩

/-- The exit code of a run: one if it failed. -/
def exitCode (outcome : RunOutcome) : Nat :=
  if outcome.fault.isSome then 1 else 0

/-- The path at which a run wrote its export, or could not write it. -/
def exportPath? (outcome : RunOutcome) : Option Text :=
  match outcome.written, outcome.fault with
  | some (path, _), _ => some path
  | none, some (.export path (.unwritable _)) => some path
  | none, _ => none

/-- What a failed run says. -/
def stderr (outcome : RunOutcome) : Text :=
  (outcome.fault.map fun fault => "error: ".toList ++ fault.message ++ ['\n']).getD []

@[simp] theorem pages_after (events : List Event) (outcome : RunOutcome) :
    (outcome.after events).pages = outcome.pages := by
  simp [pages, after, List.filterMap_append, Function.comp_def, Output.page?]

@[simp] theorem pages_failing (outcome : RunOutcome) (fault : RunFault) :
    (outcome.failing fault).pages = outcome.pages := by
  simp [pages, failing, Output.page?]

@[simp] theorem after_failing (events : List Event) (outcome : RunOutcome) (fault : RunFault) :
    (outcome.failing fault).after events = (outcome.after events).failing fault := by
  simp [after, failing]

theorem exists_place_of_mem_pages {outcome : RunOutcome} {page : Styled}
    (h : page ∈ outcome.pages) : ∃ place : Nat, outcome.output[place]? = some (.shown page) := by
  obtain ⟨piece, hpiece, hshown⟩ := List.mem_filterMap.1 h
  cases piece with
  | logged event => cases hshown
  | shown page' =>
    obtain rfl := Option.some.inj hshown
    exact List.getElem?_of_mem hpiece

theorem on_failing (outcome : RunOutcome) (fault : RunFault) (console : Console) :
    (outcome.failing fault).on console =
      outcome.on console ++ console.log outcome.output.length fault.event := by
  simp [on, failing, List.zipIdx_append, Console.text]

/-- A page that is shown stands on every console. -/
theorem exists_on_of_mem_pages {outcome : RunOutcome} {page : Styled} (console : Console)
    (h : page ∈ outcome.pages) :
    ∃ before after, outcome.on console = before ++ page.render console.colors ++ after := by
  obtain ⟨place, hplace⟩ := exists_place_of_mem_pages h
  have hmem : (Output.shown page, place) ∈ outcome.output.zipIdx :=
    List.mem_zipIdx_iff_getElem?.2 hplace
  obtain ⟨before, after, hsplit⟩ := List.append_of_mem hmem
  refine ⟨before.flatMap console.text, after.flatMap console.text, ?_⟩
  rw [on, hsplit, List.flatMap_append, List.flatMap_cons, List.append_assoc]
  rfl

/-- Nothing stands on a console exactly if the pages are blank and the events passed over. -/
theorem on_eq_nil_iff {outcome : RunOutcome} {console : Console} :
    outcome.on console = [] ↔
      (∀ page ∈ outcome.pages, page.render console.colors = []) ∧ console.PassesOver outcome := by
  simp only [Console.PassesOver, on, List.flatMap_eq_nil_iff, Prod.forall,
    List.mem_zipIdx_iff_getElem?]
  constructor
  · intro h
    refine ⟨fun page hpage => ?_, fun place event => h (.logged event) place⟩
    obtain ⟨place, hplace⟩ := exists_place_of_mem_pages hpage
    exact h _ place hplace
  · rintro ⟨hpages, hevents⟩ piece place hplace
    cases piece with
    | logged event => exact hevents place event hplace
    | shown page =>
      exact hpages page (List.mem_filterMap.2 ⟨_, List.mem_of_getElem? hplace, rfl⟩)

end RunOutcome

/-! ## Stages -/

/-- What a stage of a run logs, and its value or the fault that ends the run. -/
structure Stage (α : Type) where
  events : List Event
  result : Except RunFault α

namespace Stage

variable {α β : Type}

/-- A stage that only logs. -/
def log (events : List Event) : Stage Unit :=
  ⟨events, .ok ()⟩

/-- One stage after the other, unless the first one ends the run. -/
def bind (first : Stage α) (next : α → Stage β) : Stage β :=
  match first.result with
  | .error fault => ⟨first.events, .error fault⟩
  | .ok a => ⟨first.events ++ (next a).events, (next a).result⟩

instance : Monad Stage where
  pure a := ⟨[], .ok a⟩
  bind := Stage.bind

@[simp] theorem result_bind (first : Stage α) (next : α → Stage β) :
    (first >>= next).result = first.result >>= fun a => (next a).result := by
  change (Stage.bind first next).result = _
  unfold Stage.bind
  cases first.result <;> rfl

end Stage

end RiskTally
