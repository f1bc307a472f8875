import RiskTally.Export.Table
import RiskTally.Rule.Table

/-!
# What a run logs

A run tells of its steps as it goes. It logs events: each has a severity, a message and values
with names. What becomes of an event is up to the logger, which lets it through or not and
writes a line for it, on the same output on which the report is shown.

The events of a step are a function of what the step reads. Most only inform. Alerts are those
of a file that is left out, of a rule that is ignored and of the fault that ends a run; only they
are let through unless more, or less, is asked for.

## Main results

* `Log.severity_of_mem_attempts`: a failed attempt at reading a file is no alert.
* `Log.severity_of_mem_expression`: how a text is read as an expression is no alert.
-/

namespace RiskTally

/-! ## Events -/

/-- How much an event matters. -/
inductive Severity where
  | trace
  | debug
  | info
  | warning
  | error
  deriving DecidableEq, Repr

/-- What an event says under a name. -/
inductive EventValue where
  | text (value : Text)
  /-- A text that is set in quotes. -/
  | quoted (value : Text)
  | count (value : Nat)
  deriving DecidableEq, Repr

/-- Something that a run tells of itself. -/
structure Event where
  severity : Severity
  message : Text
  values : List (Text × EventValue)
  deriving DecidableEq, Repr

/-- The event is a warning or an error. -/
def Event.isAlert (event : Event) : Bool :=
  match event.severity with
  | .warning | .error => true
  | .trace | .debug | .info => false

namespace Log

/-- An event whose message is the same every time. -/
def event (severity : Severity) (message : String) (values : List (String × EventValue)) : Event :=
  ⟨severity, message.toList, values.map fun (name, value) => (name.toList, value)⟩

/-! ## Settings -/

/-- A number with the fewest digits that read back and no exponent. -/
def numberText (f : Float) : Text :=
  match Binary.ofFloat f with
  | .nan => "NaN".toList
  | .infinite negative => if negative then "-inf".toList else "inf".toList
  | .finite negative mantissa exponent =>
    (if negative then ['-'] else []) ++
      if mantissa = 0 then ['0'] else (shortest .up mantissa exponent).positional

/-- The short name of an encoding. -/
def encodingText : Encoding → Text
  | .utf8 => "Utf8".toList
  | .latin1 => "Latin1".toList

/-- The settings of a run. -/
def settings (settings : Settings) : List Event :=
  let encodings := ", ".toList.intercalate (settings.reading.encodings.map encodingText)
  [event .info "Config loaded:" [],
    ⟨.info, "  dataset:  encodings=[".toList ++ encodings ++ "], na_values=".toList ++
      natText settings.reading.emptyTokens.length, []⟩,
    ⟨.info, "  scoring:  high_cardinality_ratio=".toList ++
      numberText settings.scoring.varietyRatio ++ ", high_cardinality_min_rows=".toList ++
      natText settings.scoring.varietyMinRows ++ ", buckets=".toList ++
      natText settings.scoring.buckets.length, []⟩]

/-! ## Files -/

/-- The attempts at reading a file that fail, up to the first that does not. -/
def attempts (settings : ReadSettings) (path : Text) (contents : Bytes) :
    List Encoding → List Event
  | [] => []
  | encoding :: encodings =>
    match FileRead.attempt settings contents encoding with
    | .ok _ => []
    | .error fault =>
      event .debug "decode attempt failed" [("path", .text path),
        ("encoding", .text encoding.name),
        ("error", .text (LoadFault.unreadable fault).message)] ::
      attempts settings path contents encodings

/-- The path of a file in a folder. -/
def pathIn (folder file : Text) : Text :=
  if folder.getLast?.all (· == '/') then folder ++ file else folder ++ '/' :: file

/-- What became of a file of a folder. -/
def outcome (file : Text) : Loading.Outcome → List Event
  | .notCsv => []
  | .noRows => [event .warning "dataset file has no data rows" [("file", .text file)]]
  | .loaded read =>
    [event .info "loaded dataset file" [("file", .text file), ("rows", .count read.frame.rows),
      ("encoding", .text read.encoding.name), ("skipped_lines", .count read.skipped)]]
  | .failed fault =>
    [event .warning "failed to read dataset file" [("file", .text file),
      ("error", .text (LoadFault.unreadable fault).message)]]

/-- The reading of a file of a folder. -/
def file (settings : ReadSettings) (folder : Text) (file : Text × Bytes) : List Event :=
  (if Loading.isCsv file.1 then
    attempts settings (pathIn folder file.1) file.2 settings.encodings
  else []) ++
  outcome file.1 (Loading.outcome settings file.1 file.2)

/-- The loading of a dataset from a folder. -/
def folder (settings : ReadSettings) (path : Text) : Option (List (Text × Bytes)) → List Event
  | none => []
  | some files =>
    (Loading.inOrder files).flatMap (file settings path) ++
    match Loading.load settings path files with
    | .error _ => []
    | .ok loaded =>
      [event .info "unified dataset" [("rows", .count loaded.dataset.rows),
        ("columns", .count loaded.dataset.columnNames.length)]]

/-- The loading of rules from a file. -/
def rules (path : Text) : Except LoadFault Rules → List Event
  | .error _ => []
  | .ok rules =>
    [event .debug "compiled rules file" [("path", .text path), ("rules", .count rules.length)]]

/-- The exclusion of rules, if any are to be excluded. -/
def exclusions (excluded : List Text) (rules : Rules) : List Event :=
  if excluded = [] then []
  else
    [event .info "applied rule exclusions"
      [("excluded", .count (rules.length - (rules.exclude excluded).length))]]

/-- The loading of a watchlist from a file. -/
def watchlist (settings : ReadSettings) (path : Text) : Option Bytes → List Event
  | none =>
    [event .debug "watchlist file not found, using empty watchlist" [("path", .text path)]]
  | some contents =>
    attempts settings path contents settings.encodings ++
    match FileRead.ofBytes settings contents with
    | .error _ => []
    | .ok read =>
      match read.frame.column? "full_name".toList, read.frame.column? "watchlist_score".toList with
      | some _, some _ =>
        [event .info "loaded watchlist" [("path", .text path),
          ("names", .count (Watchlist.ofFrame read.frame).length)]]
      | _, _ =>
        [event .debug "watchlist lacks required columns, using empty watchlist"
          [("path", .text path)]]

theorem severity_of_mem_attempts {settings : ReadSettings} {path : Text} {contents : Bytes}
    {encodings : List Encoding} {e : Event} (h : e ∈ attempts settings path contents encodings) :
    e.severity = .debug := by
  induction encodings with
  | nil => simp [attempts] at h
  | cons encoding encodings ih =>
    rw [attempts] at h
    split at h
    · simp at h
    · rcases List.mem_cons.1 h with rfl | h
      · rfl
      · exact ih h

/-! ## Expressions -/

open Expression (andSign orSign andSign_ne_nil orSign_ne_nil)

/-- The name of the form of a predicate. -/
def formName : Predicate → Text
  | .duplicate _ => "duplicate".toList
  | .highlyVaried _ => "high_cardinality".toList
  | .nameIn _ => "full_name_in".toList
  | .present _ => "is_not_null".toList
  | .memberOf _ _ => "column_in".toList
  | .compare _ _ _ => "comparison".toList

/-- A text is read as a predicate. -/
def matched (predicate : Predicate) (text : Text) : Event :=
  event .trace "matched atomic pattern" [("pattern", .quoted (formName predicate)),
    ("expression", .quoted text)]

/-- A text is split into parts. -/
def split (form : String) (text : Text) : Event :=
  event .trace "splitting expression" [("pattern", .quoted form.toList),
    ("expression", .quoted text)]

/-- A text is read as no expression. -/
def unmatched (text : Text) : Event :=
  event .trace "no pattern matched" [("expression", .quoted text)]

/-- How a text is read as an expression: first the text, then its parts from the left. No
part has a fault that would keep the next one from being read. -/
def expression (text : Text) : List Event :=
  match Predicate.leading? text with
  | some predicate => [matched predicate text]
  | none =>
    if _split : 1 < (Text.cutAt andSign text).length then
      split "and" text ::
        (Text.cutAt andSign text).attach.flatMap fun ⟨part, _⟩ => expression part
    else if _split : 1 < (Text.cutAt orSign text).length then
      split "or" text ::
        (Text.cutAt orSign text).attach.flatMap fun ⟨part, _⟩ => expression (Text.trim part)
    else
      match Predicate.trailing? text with
      | some predicate => [matched predicate text]
      | none => [unmatched text]
termination_by text.length
decreasing_by
  · exact Text.length_lt_of_mem_cutAt andSign_ne_nil (by assumption) (by assumption)
  · refine Nat.lt_of_le_of_lt (Text.length_trim_le _) ?_
    exact Text.length_lt_of_mem_cutAt orSign_ne_nil (by assumption) (by assumption)

theorem severity_of_mem_expression {text : Text} {e : Event} (h : e ∈ expression text) :
    e.severity = .trace := by
  induction text using expression.induct with
  | case1 text predicate hleading =>
    rw [expression, hleading] at h
    rw [List.mem_singleton.1 h]
    rfl
  | case2 text hleading hsplit ih =>
    rw [expression, hleading] at h
    simp only [dif_pos hsplit] at h
    rcases List.mem_cons.1 h with rfl | h
    · rfl
    · obtain ⟨part, -, h⟩ := List.mem_flatMap.1 h
      exact ih part.1 part.2 h
  | case3 text hleading hsingle hsplit ih =>
    rw [expression, hleading] at h
    simp only [dif_neg hsingle, dif_pos hsplit] at h
    rcases List.mem_cons.1 h with rfl | h
    · rfl
    · obtain ⟨part, -, h⟩ := List.mem_flatMap.1 h
      exact ih part.1 part.2 h
  | case4 text hleading hsingle hsingle' predicate htrailing =>
    rw [expression, hleading] at h
    simp only [dif_neg hsingle, dif_neg hsingle', htrailing] at h
    rw [List.mem_singleton.1 h]
    rfl
  | case5 text hleading hsingle hsingle' htrailing =>
    rw [expression, hleading] at h
    simp only [dif_neg hsingle, dif_neg hsingle', htrailing] at h
    rw [List.mem_singleton.1 h]
    rfl

/-! ## Scoring and export -/

/-- The evaluation of a rule. -/
def rule (context : Context) (rule : Rule) : List Event :=
  expression (Text.trim rule.expression) ++
  match Expression.evaluate rule.expression context with
  | .error fault =>
    [event .warning "rule ignored" [("expression", .text rule.expression),
      ("error", .text fault.message)]]
  | .ok mask =>
    [event .debug "evaluated rule" [("expression", .text rule.expression),
      ("matched_rows", .count mask.count)]]

/-- The columns from which the names are taken. -/
def nameSource : Option NameSource → Event
  | some source => event .debug "detected name columns" [("source", .text source.label)]
  | none => event .debug "no name columns, identity aggregation skipped" []

/-- The scoring of a dataset, which gave a report. -/
def scoring (settings : ScoringSettings) (dataset : Dataset) (rules : Rules) (report : Report) :
    List Event :=
  nameSource report.nameSource ::
  rules.flatMap (rule (Report.contextOf settings dataset)) ++
  [event .info "scoring complete" [("rows", .count dataset.rows), ("rules", .count rules.length),
    ("activations", .count report.activations.length), ("ignored", .count report.ignored.length),
    ("identities", .count report.identities.length)]]

/-- The export of rows to a file. -/
def exported (path : Text) (format : ExportFormat) (rows : Nat) : List Event :=
  let message := match format with
    | .csv => "Wrote CSV file"
    | .parquet => "Wrote Parquet file"
  [event .debug message [("path", .text path), ("rows", .count rows)],
    event .info "exported results" [("path", .text path), ("rows", .count rows),
      ("format", .text format.name)]]

end Log

end RiskTally
