import RiskTally.Csv.Printer
import RiskTally.Csv.Sheet

/-!
# Every way to write records

Records can be written in many ways: each field as it is or in quotes, each line with any
of three line ends, the last one with none, and blank lines anywhere.  `SheetText` says
which texts these are, one rule for each choice, and the reader gives the records back
from all of them.  Between two lines the scanner holds no part of a record; it may still
wait for the line feed of a line end, which then leaves a blank line or none.

## Main results

* `Scanner.run_fieldText`, `Scanner.run_recordText`: what the scanner holds after a field
  and after a record.
* `Scanner.kept_run_sheetText`: what it holds after lines.
* `sheetText_print`: printed records are written in one of these ways.
* `Sheet.read_sheetText`: the sheet that is read from any of them.
-/

namespace RiskTally.Csv

/-! ## How records are written -/

/-- The ways to end a line. -/
def lineEnds : List Text :=
  [['\n'], ['\r', '\n'], ['\r']]

/-- How a field may be written. -/
inductive FieldText (field : Text) : Text → Prop where
  /-- As it is. -/
  | bare : field.head? ≠ some '"' → ',' ∉ field → '\r' ∉ field → '\n' ∉ field →
      FieldText field field
  /-- In quotes, its own quotes doubled. -/
  | enclosed : FieldText field ('"' :: (doubleQuotes field ++ ['"']))

/-- How a record may be written, its line end left out. -/
inductive RecordText : List Text → Text → Prop where
  | one {field text} : FieldText field text → RecordText [field] text
  | cons {field text fields rest} : FieldText field text → RecordText fields rest →
      RecordText (field :: fields) (text ++ ',' :: rest)

/-- How records may be written, one on a line. -/
inductive SheetText : List (List Text) → Text → Prop where
  | empty : SheetText [] []
  /-- A blank line. -/
  | blank {ending records rest} : ending ∈ lineEnds → SheetText records rest →
      SheetText records (ending ++ rest)
  | line {fields text ending records rest} : RecordText fields text → ending ∈ lineEnds →
      SheetText records rest → SheetText (fields :: records) (text ++ (ending ++ rest))
  /-- A last line without its end. -/
  | last {fields text} : RecordText fields text → SheetText [fields] text

theorem fieldText_printField (field : Text) : FieldText field (printField field) := by
  unfold printField
  by_cases hspecial : field.any isSpecial = true
  · rw [if_pos hspecial]
    exact .enclosed
  · rw [if_neg hspecial]
    have hplain : ∀ c, isSpecial c = true → c ∉ field := fun c hc hmem =>
      hspecial (List.any_eq_true.2 ⟨c, hmem, hc⟩)
    exact .bare (fun hfirst => hplain '"' rfl (List.mem_of_head? hfirst)) (hplain ',' rfl)
      (hplain '\r' rfl) (hplain '\n' rfl)

theorem recordText_intercalate {fields : List Text} (h : fields ≠ []) :
    RecordText fields ([','].intercalate (fields.map printField)) := by
  induction fields with
  | nil => exact absurd rfl h
  | cons field fields ih =>
      cases fields with
      | nil => simpa using RecordText.one (fieldText_printField field)
      | cons next fields =>
          have hrest := RecordText.cons (fieldText_printField field) (ih (by simp))
          simpa using hrest

/-- The printer writes records in one of these ways. -/
theorem sheetText_print {records : List (List Text)} (h : ∀ fields ∈ records, fields ≠ []) :
    SheetText records (print records) := by
  induction records with
  | nil => exact .empty
  | cons fields records ih =>
      have hrecord := recordText_intercalate (h fields (by simp))
      have hrest := ih fun other hother => h other (by simp [hother])
      have hprint : print (fields :: records) =
          [','].intercalate (fields.map printField) ++ (['\n'] ++ print records) :=
        List.append_assoc ..
      rw [hprint]
      exact .line hrecord (by decide) hrest

/-! ## Reading a field -/

namespace Scanner

/-- The scanner is before a field. -/
structure AtField (s : Scanner) : Prop where
  mode : s.mode = .bare ∨ s.mode = .returned
  field : s.field = []

/-- Outside quotes every mode reads a character alike, but for a quote that may be the second
of two and a line feed that belongs to a carriage return. -/
theorem step_eq_stepBare {s : Scanner} {c : Char} (hquoted : s.mode ≠ .quoted)
    (hclosing : s.mode = .closing → c ≠ '"') (hreturned : s.mode = .returned → c ≠ '\n') :
    s.step c = s.stepBare c := by
  unfold step
  cases hmode : s.mode with
  | bare => rfl
  | quoted => exact absurd hmode hquoted
  | closing => exact if_neg (hclosing hmode)
  | returned => exact if_neg (hreturned hmode)

theorem stepBare_eq_push {s : Scanner} {c : Char} (hquote : c = '"' → s.field ≠ [])
    (hcomma : c ≠ ',') (hreturn : c ≠ '\r') (hfeed : c ≠ '\n') :
    s.stepBare c = s.push .bare c := by
  unfold stepBare
  rw [if_neg fun h => hquote h.1 h.2, if_neg hcomma, if_neg hreturn, if_neg hfeed]

/-- The rest of a field outside quotes; a quote in it is as any other character. -/
theorem run_plain {s : Scanner} (hmode : s.mode = .bare) (hfield : s.field ≠ []) {text : Text}
    (hcomma : ',' ∉ text) (hreturn : '\r' ∉ text) (hfeed : '\n' ∉ text) :
    s.run text = ⟨.bare, text.reverse ++ s.field, s.fields, s.records⟩ := by
  induction text generalizing s with
  | nil => rw [← hmode]; rfl
  | cons c text ih =>
      simp only [List.mem_cons, not_or] at hcomma hreturn hfeed
      have hstep : s.step c = s.push .bare c := by
        rw [step_eq_stepBare (by simp [hmode]) (by simp [hmode]) (by simp [hmode])]
        exact stepBare_eq_push (fun _ => hfield) (Ne.symm hcomma.1) (Ne.symm hreturn.1)
          (Ne.symm hfeed.1)
      show (s.step c).run text = _
      rw [hstep, ih rfl (by simp [push]) hcomma.2 hreturn.2 hfeed.2]
      simp [push]

/-- The inside of a field in quotes. -/
theorem run_doubleQuotes {s : Scanner} (hmode : s.mode = .quoted) (field : Text) :
    s.run (doubleQuotes field) = ⟨.quoted, field.reverse ++ s.field, s.fields, s.records⟩ := by
  induction field generalizing s with
  | nil => rw [← hmode]; rfl
  | cons c field ih =>
      have hchar : s.run (if c = '"' then ['"', '"'] else [c]) = s.push .quoted c := by
        by_cases hc : c = '"'
        · subst hc
          rw [if_pos rfl]
          show (s.step '"').step '"' = _
          simp [step, hmode, push]
        · rw [if_neg hc]
          show s.step c = _
          simp [step, hmode, hc]
      show s.run ((if c = '"' then ['"', '"'] else [c]) ++ doubleQuotes field) = _
      rw [run_append, hchar, ih rfl]
      simp [push]

/-- After a field the scanner holds it and is outside quotes.  It waits for a line feed
only if it did before and has read nothing. -/
theorem run_fieldText {s : Scanner} (hs : s.AtField) {field text : Text}
    (h : FieldText field text) :
    ∃ mode, s.run text = ⟨mode, field.reverse, s.fields, s.records⟩ ∧ mode ≠ .quoted ∧
      (mode = .returned → field = [] ∧ s.mode = .returned) := by
  obtain ⟨hmode, hfield⟩ := hs
  have hclosed : s.mode ≠ .closing := by rcases hmode with h | h <;> simp [h]
  have houtside : s.mode ≠ .quoted := by rcases hmode with h | h <;> simp [h]
  cases h with
  | bare hfirst hcomma hreturn hfeed =>
      cases field with
      | nil =>
          refine ⟨s.mode, ?_, houtside, fun hreturned => ⟨rfl, hreturned⟩⟩
          show s = ⟨s.mode, [], s.fields, s.records⟩
          rw [← hfield]
      | cons c field =>
          simp only [List.mem_cons, not_or] at hcomma hreturn hfeed
          have hquote : c ≠ '"' := fun hc => hfirst (by rw [hc]; rfl)
          have hstep : s.step c = s.push .bare c := by
            rw [step_eq_stepBare houtside (fun h => absurd h hclosed) fun _ => Ne.symm hfeed.1]
            exact stepBare_eq_push (fun h => absurd h hquote) (Ne.symm hcomma.1)
              (Ne.symm hreturn.1) (Ne.symm hfeed.1)
          refine ⟨.bare, ?_, by simp, by simp⟩
          show (s.step c).run field = _
          rw [hstep, run_plain rfl (by simp [push]) hcomma.2 hreturn.2 hfeed.2]
          simp [push, hfield]
  | enclosed =>
      have hopen : s.step '"' = ⟨.quoted, [], s.fields, s.records⟩ := by
        rw [step_eq_stepBare houtside (fun h => absurd h hclosed) fun _ => by decide]
        simp [stepBare, hfield]
      refine ⟨.closing, ?_, by simp, by simp⟩
      show (s.step '"').run (doubleQuotes field ++ ['"']) = _
      rw [run_append, hopen, run_doubleQuotes rfl, List.append_nil]
      rfl

/-! ## Reading a record -/

/-- After a record the scanner holds all of its fields and is outside quotes.  It waits for
a line feed only if it did before and the record is a single empty field. -/
theorem run_recordText {fields : List Text} {text : Text} (h : RecordText fields text)
    {s : Scanner} (hs : s.AtField) :
    ∃ mode field before, s.run text = ⟨mode, field, before, s.records⟩ ∧
      (field.reverse :: before).reverse = s.fields.reverse ++ fields ∧ mode ≠ .quoted ∧
      (mode = .returned → fields = [[]] ∧ s.mode = .returned) := by
  induction h generalizing s with
  | @one field text hfield =>
      obtain ⟨mode, hrun, hquoted, hreturned⟩ := run_fieldText hs hfield
      refine ⟨mode, _, _, hrun, by simp, hquoted, fun hmode => ?_⟩
      obtain ⟨hempty, hbefore⟩ := hreturned hmode
      exact ⟨by rw [hempty], hbefore⟩
  | @cons field text fields rest hfield _ ih =>
      obtain ⟨mode, hrun, hquoted, -⟩ := run_fieldText hs hfield
      have hcomma : (s.run text).step ',' = ⟨.bare, [], field :: s.fields, s.records⟩ := by
        rw [hrun, step_eq_stepBare hquoted (fun _ => by decide) fun _ => by decide]
        simp [stepBare, endField]
      obtain ⟨mode', field', before, hrest, hfields, hquoted', hreturned⟩ :=
        ih (s := ⟨.bare, [], field :: s.fields, s.records⟩) ⟨.inl rfl, rfl⟩
      refine ⟨mode', field', before, ?_, ?_, hquoted', fun hmode => ?_⟩
      · rw [run_append]
        show ((s.run text).step ',').run rest = _
        rw [hcomma, hrest]
      · rw [hfields]
        simp
      · -- The comma has ended any waiting, so that the rest began outside quotes.
        exact absurd (hreturned hmode).2 (by simp)

/-! ## Reading lines -/

/-- The scanner is before a line and holds no part of a record. -/
structure AtLine (s : Scanner) : Prop extends AtField s where
  fields : s.fields = []

/-- The scanner holds a record whose line has not ended, not even in part. -/
structure AfterRecord (fields : List Text) (s : Scanner) : Prop where
  mode : s.mode = .bare ∨ s.mode = .closing
  fields : (s.field.reverse :: s.fields).reverse = fields

theorem AtLine.afterRecord {s : Scanner} (hs : s.AtLine) (hmode : s.mode = .bare) :
    s.AfterRecord [[]] :=
  ⟨.inl hmode, by rw [hs.field, hs.fields]; rfl⟩

/-- A record on a line of its own. -/
theorem run_record {s : Scanner} (hs : s.AtLine) {fields : List Text} {text : Text}
    (h : RecordText fields text) (hblank : fields ≠ [[]]) :
    (s.run text).AfterRecord fields ∧ (s.run text).records = s.records := by
  obtain ⟨mode, field, before, hrun, hfields, hquoted, hreturned⟩ :=
    run_recordText h hs.toAtField
  rw [hs.fields] at hfields
  rw [hrun]
  refine ⟨⟨?_, hfields⟩, rfl⟩
  cases mode with
  | bare => exact .inl rfl
  | quoted => exact absurd rfl hquoted
  | closing => exact .inr rfl
  | returned => exact absurd (hreturned rfl).1 hblank

/-- A line end closes the record before it. -/
theorem run_lineEnd {s : Scanner} {fields : List Text} (hs : s.AfterRecord fields)
    {ending : Text} (h : ending ∈ lineEnds) :
    ∃ mode, (mode = .bare ∨ mode = .returned) ∧
      s.run ending = ⟨mode, [], [], ⟨fields, true⟩ :: s.records⟩ := by
  obtain ⟨hmode, rfl⟩ := hs
  have hend : ∀ c, c = '\n' ∨ c = '\r' → s.step c = s.stepBare c := by
    intro c hc
    refine step_eq_stepBare ?_ (fun _ => ?_) fun hreturned => ?_
    · rcases hmode with hmode | hmode <;> simp [hmode]
    · rcases hc with rfl | rfl <;> decide
    · rcases hmode with hmode | hmode <;> simp [hmode] at hreturned
  have hreturn : s.step '\r' = s.endRecord .returned true := by
    rw [hend _ (.inr rfl)]
    simp [stepBare]
  simp only [lineEnds, List.mem_cons, List.not_mem_nil, or_false] at h
  rcases h with rfl | rfl | rfl
  · refine ⟨.bare, .inl rfl, ?_⟩
    show s.step '\n' = _
    rw [hend _ (.inl rfl)]
    simp [stepBare, endRecord]
  · refine ⟨.bare, .inl rfl, ?_⟩
    show (s.step '\r').step '\n' = _
    rw [hreturn]
    rfl
  · exact ⟨.returned, .inr rfl, hreturn⟩

/-- The records so far, blank lines left out. -/
def kept (s : Scanner) : List Record :=
  s.records.reverse.filter fun record => !record.isBlank

theorem kept_cons (mode : Mode) (field : Text) (fields : List Text) (record : Record)
    (records : List Record) :
    kept ⟨mode, field, fields, record :: records⟩ =
      kept ⟨mode, field, fields, records⟩ ++ if record.isBlank then [] else [record] := by
  simp only [kept, List.reverse_cons, List.filter_append]
  by_cases hblank : record.isBlank = true
  · simp [hblank]
  · simp [hblank]

/-- A record that is no blank line is kept. -/
theorem kept_cons_of_ne {fields : List Text} (hblank : fields ≠ [[]]) (mode : Mode) (field : Text)
    (before : List Text) (records : List Record) :
    kept ⟨mode, field, before, ⟨fields, true⟩ :: records⟩ =
      kept ⟨mode, field, before, records⟩ ++ [⟨fields, true⟩] := by
  rw [kept_cons, if_neg (by simpa [Record.isBlank] using hblank)]

/-- A blank line leaves nothing. -/
theorem run_blankLine {s : Scanner} (hs : s.AtLine) {ending : Text} (h : ending ∈ lineEnds) :
    (s.run ending).AtLine ∧ (s.run ending).kept = s.kept := by
  rcases hs.mode with hmode | hmode
  · obtain ⟨mode, houtside, hrun⟩ := run_lineEnd (hs.afterRecord hmode) h
    rw [hrun]
    exact ⟨⟨⟨houtside, rfl⟩, rfl⟩, (kept_cons ..).trans (List.append_nil _)⟩
  · -- The line feed is that of the line before, or a carriage return comes first.
    obtain ⟨mode, field, fields, records⟩ := s
    obtain ⟨⟨-, rfl⟩, rfl⟩ := hs
    obtain rfl : mode = .returned := hmode
    simp only [lineEnds, List.mem_cons, List.not_mem_nil, or_false] at h
    rcases h with rfl | rfl | rfl
    · exact ⟨⟨⟨.inl rfl, rfl⟩, rfl⟩, rfl⟩
    · exact ⟨⟨⟨.inl rfl, rfl⟩, rfl⟩, (kept_cons ..).trans (List.append_nil _)⟩
    · exact ⟨⟨⟨.inr rfl, rfl⟩, rfl⟩, (kept_cons ..).trans (List.append_nil _)⟩

/-- A line leaves its record. -/
theorem run_line {s : Scanner} (hs : s.AtLine) {fields : List Text} {text ending : Text}
    (h : RecordText fields text) (hblank : fields ≠ [[]]) (hending : ending ∈ lineEnds) :
    ((s.run text).run ending).AtLine ∧
      ((s.run text).run ending).kept = s.kept ++ [⟨fields, true⟩] := by
  obtain ⟨hafter, hrecords⟩ := run_record hs h hblank
  obtain ⟨mode, houtside, hrun⟩ := run_lineEnd hafter hending
  rw [hrun, hrecords]
  exact ⟨⟨⟨houtside, rfl⟩, rfl⟩, kept_cons_of_ne hblank ..⟩

theorem finish_of_atLine {s : Scanner} (hs : s.AtLine) : s.finish = s := by
  have houtside : s.mode ≠ .quoted := by
    rcases hs.mode with hmode | hmode <;> simp [hmode]
  unfold finish
  rw [if_neg houtside, if_pos ⟨hs.field, hs.fields⟩]

/-- The end of the text ends a record that is no blank line. -/
theorem kept_finish {s : Scanner} {fields : List Text} (hs : s.AfterRecord fields)
    (hblank : fields ≠ [[]]) : s.finish.kept = s.kept ++ [⟨fields, true⟩] := by
  obtain ⟨hmode, rfl⟩ := hs
  have houtside : s.mode ≠ .quoted := by
    rcases hmode with hmode | hmode <;> simp [hmode]
  have hopen : ¬ (s.field = [] ∧ s.fields = []) := by
    rintro ⟨hfield, hfields⟩
    rw [hfield, hfields] at hblank
    exact hblank rfl
  unfold finish
  rw [if_neg houtside, if_neg hopen]
  exact kept_cons_of_ne hblank ..

/-- From lines the scanner keeps their records. -/
theorem kept_run_sheetText {records : List (List Text)} {text : Text} (h : SheetText records text)
    (hblank : ∀ fields ∈ records, fields ≠ [[]]) {s : Scanner} (hs : s.AtLine) :
    (s.run text).finish.kept = s.kept ++ records.map fun fields => ⟨fields, true⟩ := by
  induction h generalizing s with
  | empty =>
      show s.finish.kept = _
      rw [finish_of_atLine hs, List.map_nil, List.append_nil]
  | @blank ending records rest hending _ ih =>
      obtain ⟨hline, hkept⟩ := run_blankLine hs hending
      rw [run_append, ih hblank hline, hkept]
  | @line fields text ending records rest hrecord hending _ ih =>
      obtain ⟨hline, hkept⟩ := run_line hs hrecord (hblank fields (by simp)) hending
      have hrest := ih (fun other hother => hblank other (by simp [hother])) hline
      rw [run_append, run_append, hrest, hkept, List.append_assoc]
      rfl
  | @last fields text hrecord =>
      obtain ⟨hafter, hrecords⟩ := run_record hs hrecord (hblank fields (by simp))
      rw [kept_finish hafter (hblank fields (by simp)), kept, hrecords]
      rfl

end Scanner

/-! ## Reading a sheet -/

/-- The records of a text are those that were written in it. -/
theorem records_of_sheetText {records : List (List Text)} {text : Text}
    (h : SheetText records text) (hblank : ∀ fields ∈ records, fields ≠ [[]]) :
    Csv.records text = records.map fun fields => ⟨fields, true⟩ :=
  Scanner.kept_run_sheetText h hblank (s := Scanner.start) ⟨⟨.inl rfl, rfl⟩, rfl⟩

/-- Of complete records those that are no wider fit, and of records that are left open none. -/
theorem partition_fits_append (width : Nat) {closed opened : List Record}
    (hclosed : ∀ record ∈ closed, record.complete = true)
    (hopened : ∀ record ∈ opened, record.complete = false) :
    (closed ++ opened).partition (·.fits width) =
      (closed.filter fun record => record.fields.length ≤ width,
        (closed.filter fun record => width < record.fields.length) ++ opened) := by
  have hfits : ∀ record ∈ closed,
      record.fits width = decide (record.fields.length ≤ width) := by
    intro record hrecord
    rw [Record.fits, hclosed record hrecord, Bool.true_and]
  have hwider : ∀ record ∈ closed,
      (!record.fits width) = decide (width < record.fields.length) := by
    intro record hrecord
    rw [hfits record hrecord, ← decide_not, decide_eq_decide]
    omega
  have hunfit : ∀ record ∈ opened, record.fits width = false := by
    intro record hrecord
    rw [Record.fits, hopened record hrecord, Bool.false_and]
  have hnone : opened.filter (·.fits width) = [] :=
    List.filter_eq_nil_iff.2 fun record hrecord => by simp [hunfit record hrecord]
  have hall : opened.filter (fun record => !record.fits width) = opened :=
    List.filter_eq_self.2 fun record hrecord => by simp [hunfit record hrecord]
  have hkept : (closed ++ opened).filter (·.fits width) =
      closed.filter fun record => record.fields.length ≤ width := by
    rw [List.filter_append, List.filter_congr hfits, hnone, List.append_nil]
  have hdropped : (closed ++ opened).filter (fun record => !record.fits width) =
      (closed.filter fun record => width < record.fields.length) ++ opened := by
    rw [List.filter_append, List.filter_congr hwider, hall]
  rw [List.partition_eq_filter_filter]
  exact Prod.ext hkept hdropped

/-- Of complete records those that are no wider than the header fit. -/
theorem partition_fits (width : Nat) (records : List (List Text)) :
    (records.map fun fields => (⟨fields, true⟩ : Record)).partition (·.fits width) =
      ((records.filter fun fields => fields.length ≤ width).map (⟨·, true⟩),
        (records.filter fun fields => width < fields.length).map (⟨·, true⟩)) := by
  have hclosed : ∀ record ∈ records.map fun fields => (⟨fields, true⟩ : Record),
      record.complete = true := by
    simp
  have hopened : ∀ record ∈ ([] : List Record), record.complete = false := by simp
  have hparts := partition_fits_append width hclosed hopened
  rwa [List.append_nil, List.append_nil, List.filter_map, List.filter_map] at hparts

/-- Reading gives back what was written, in whatever way: the header, if its names all
differ, and the records that are no wider, in order, their fields as they were, with absent
cells up to the width of the header.  The wider ones are counted. -/
theorem Sheet.read_sheetText {header : List Text} {records : List (List Text)} {text : Text}
    (h : SheetText (header :: records) text)
    (hblank : ∀ fields ∈ header :: records, fields ≠ [[]]) (hnames : header.Nodup) :
    Sheet.read text = .ok
      { header := header
        rows := (records.filter fun fields => fields.length ≤ header.length).map
          (padTo header.length)
        skipped := records.countP fun fields => header.length < fields.length } := by
  have hwidth := distinct_of_nodup hnames
  rw [Sheet.read, records_of_sheetText h hblank, List.map_cons]
  simp only [Sheet.ofRecords, if_pos]
  rw [partition_fits, hwidth]
  dsimp only
  rw [List.map_map, List.length_map, List.countP_eq_length_filter]
  rfl

/-- A blank line before the header, a quoted field with all that must be quoted, a carriage
return and a blank line, a quote inside a bare field, a line that is too long and a last
line that is short and has no end. -/
theorem Sheet.read_sheetText_mixed_lines :
    ∃ (records : List (List Text)) (text : Text),
      text = "\r\n\"id\",note\n1,\"a \"\"b\"\",\n\"\r\r\n,c\"d\r\n1,2,3\n\n2".toList ∧
      SheetText (["id".toList, "note".toList] :: records) text ∧
      Sheet.read text = .ok
        { header := ["id".toList, "note".toList]
          rows :=
            [[some "1".toList, some "a \"b\",\n".toList], [some [], some "c\"d".toList],
              [some "2".toList, none]]
          skipped := 1 } := by
  have hbare : ∀ field : Text, (field.head? ≠ some '"' ∧ ',' ∉ field ∧ '\r' ∉ field ∧
      '\n' ∉ field) → FieldText field field := fun _ h => .bare h.1 h.2.1 h.2.2.1 h.2.2.2
  have hheader : RecordText ["id".toList, "note".toList] "\"id\",note".toList :=
    .cons .enclosed (.one (hbare "note".toList (by decide)))
  have hquoted : RecordText ["1".toList, "a \"b\",\n".toList] _ :=
    .cons (hbare "1".toList (by decide)) (.one .enclosed)
  have hinner : RecordText [[], "c\"d".toList] _ :=
    .cons (hbare [] (by decide)) (.one (hbare "c\"d".toList (by decide)))
  have hlong : RecordText ["1".toList, "2".toList, "3".toList] _ :=
    .cons (hbare _ (by decide)) (.cons (hbare _ (by decide)) (.one (hbare _ (by decide))))
  have hshort : RecordText ["2".toList] _ := .one (hbare _ (by decide))
  have hfeed : ['\n'] ∈ lineEnds := by decide
  have hreturn : ['\r'] ∈ lineEnds := by decide
  have hboth : ['\r', '\n'] ∈ lineEnds := by decide
  have hsheet := SheetText.blank hboth <| .line hheader hfeed <| .line hquoted hreturn <|
    .blank hboth <| .line hinner hboth <| .line hlong hfeed <| .blank hfeed <| .last hshort
  have hread := read_sheetText hsheet (by decide) (by decide)
  exact ⟨_, _, by rfl, hsheet, hread.trans rfl⟩

end RiskTally.Csv
