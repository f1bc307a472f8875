import Mathlib.Data.List.Induction
import RiskTally.Proofs.Renderings

/-!
# Texts that end inside quotes

A text may end before its last quotes are closed.  The record that they leave open is never a
row.  As a header it leaves no sheet, and after one it is counted with the records that are
skipped.  But blank lines are left out before records are counted, and a record that holds only
an open quote looks like one.  So a quote alone on the last line is not counted, and the sheet
is that of the text without it.

## Main results

* `Scanner.reads_step`: the rules by which the scanner reads a character.
* `Scanner.complete_of_mem_run`, `Scanner.exists_lines`: the records of a text are complete, and
  they are those of the lines before the last one.
* `Scanner.isBlank_unclosed_iff`: which open records look like a blank line.
* `Sheet.unclosed_record_counted_iff`: the sheet of a text that ends inside quotes, and when the
  open record is counted.
* `Sheet.lone_quote_not_counted`: a text in which it is not.
-/

namespace RiskTally.Csv

/-! ## Last lines -/

/-- The text is empty or its last character ends a line. -/
def endsLine (text : Text) : Bool :=
  text.getLast?.all fun c => c == '\n' || c == '\r'

/-- The last line is a quote and nothing else. -/
def EndsInLoneQuote (text : Text) : Prop :=
  text.getLast? = some '"' ∧ endsLine text.dropLast = true

instance (text : Text) : Decidable (EndsInLoneQuote text) :=
  inferInstanceAs (Decidable (_ ∧ _))

theorem endsLine_concat (text : Text) (c : Char) :
    endsLine (text ++ [c]) = true ↔ c = '\n' ∨ c = '\r' := by
  simp [endsLine]

theorem endsInLoneQuote_concat (text : Text) (c : Char) :
    EndsInLoneQuote (text ++ [c]) ↔ c = '"' ∧ endsLine text = true := by
  simp [EndsInLoneQuote]

namespace Scanner

/-! ## Reading a character -/

/-- How the scanner reads a character, one rule for each place in which it may stand. -/
inductive Reads (s : Scanner) : Char → Scanner → Prop where
  /-- A quote before a field opens it. -/
  | opens : s.AtField → Reads s '"' ⟨.quoted, [], s.fields, s.records⟩
  | inside {c : Char} : s.mode = .quoted → c ≠ '"' → Reads s c (s.push .quoted c)
  | closes : s.mode = .quoted → Reads s '"' ⟨.closing, s.field, s.fields, s.records⟩
  /-- The second of two quotes inside quotes. -/
  | doubled : s.mode = .closing → Reads s '"' (s.push .quoted '"')
  | plain {c : Char} : s.mode ≠ .quoted → c ≠ ',' → c ≠ '\r' → c ≠ '\n' →
      (c = '"' → s.mode ≠ .closing ∧ s.field ≠ []) → Reads s c (s.push .bare c)
  | fieldEnd : s.mode ≠ .quoted → Reads s ',' s.endField
  | carriageReturn : s.mode ≠ .quoted → Reads s '\r' (s.endRecord .returned true)
  | lineFeed : s.mode ≠ .quoted → s.mode ≠ .returned → Reads s '\n' (s.endRecord .bare true)
  /-- The line feed that belongs to a carriage return. -/
  | secondEnd : s.mode = .returned → Reads s '\n' ⟨.bare, s.field, s.fields, s.records⟩

theorem reads_stepBare {s : Scanner} {c : Char} (hquoted : s.mode ≠ .quoted)
    (hclosing : s.mode = .closing → c ≠ '"') (hreturned : s.mode = .returned → c ≠ '\n') :
    s.Reads c (s.stepBare c) := by
  unfold stepBare
  split
  · rename_i hopens
    obtain ⟨rfl, hfield⟩ := hopens
    rw [hfield]
    refine .opens ⟨?_, hfield⟩
    cases hmode : s.mode with
    | bare => exact .inl rfl
    | quoted => exact absurd hmode hquoted
    | closing => exact absurd rfl (hclosing hmode)
    | returned => exact .inr rfl
  rename_i hopens
  split
  · rename_i hcomma
    exact hcomma ▸ .fieldEnd hquoted
  rename_i hcomma
  split
  · rename_i hreturn
    exact hreturn ▸ .carriageReturn hquoted
  rename_i hreturn
  split
  · rename_i hfeed
    exact hfeed ▸ .lineFeed hquoted fun hmode => hreturned hmode hfeed
  · rename_i hfeed
    exact .plain hquoted hcomma hreturn hfeed fun hquote =>
      ⟨fun hmode => hclosing hmode hquote, fun hfield => hopens ⟨hquote, hfield⟩⟩

/-- Every character is read by one of the rules. -/
theorem reads_step (s : Scanner) (c : Char) : s.Reads c (s.step c) := by
  unfold step
  cases hmode : s.mode with
  | bare => exact reads_stepBare (by simp [hmode]) (by simp [hmode]) (by simp [hmode])
  | quoted =>
      dsimp only
      split
      · rename_i hquote
        exact hquote ▸ .closes hmode
      · rename_i hquote
        exact .inside hmode hquote
  | closing =>
      dsimp only
      split
      · rename_i hquote
        exact hquote ▸ .doubled hmode
      · rename_i hquote
        exact reads_stepBare (by simp [hmode]) (fun _ => hquote) (by simp [hmode])
  | returned =>
      dsimp only
      split
      · rename_i hfeed
        exact hfeed ▸ .secondEnd hmode
      · rename_i hfeed
        exact reads_stepBare (by simp [hmode]) (by simp [hmode]) fun _ => hfeed

namespace Reads

variable {s s' : Scanner} {c : Char} (h : s.Reads c s')

include h

/-- A character ends no record, or it ends one with its line. -/
theorem records_eq : s'.records = s.records ∨
    s'.AtLine ∧ ∃ fields, s'.records = ⟨fields, true⟩ :: s.records := by
  cases h with
  | carriageReturn => exact .inr ⟨⟨⟨.inr rfl, rfl⟩, rfl⟩, _, rfl⟩
  | lineFeed => exact .inr ⟨⟨⟨.inl rfl, rfl⟩, rfl⟩, _, rfl⟩
  | opens | inside | closes | doubled | plain | fieldEnd | secondEnd => exact .inl rfl

theorem atLine_of_returned (hmode : s'.mode = .returned) : s'.AtLine := by
  cases h with
  | carriageReturn => exact ⟨⟨.inr rfl, rfl⟩, rfl⟩
  | opens | inside | closes | doubled | plain | fieldEnd | lineFeed | secondEnd => cases hmode

theorem eq_quote_of_closing (hmode : s'.mode = .closing) : c = '"' := by
  cases h with
  | closes => rfl
  | opens | inside | doubled | plain | fieldEnd | carriageReturn | lineFeed | secondEnd =>
      cases hmode

/-- Of the characters before a field those that end a line stand before a record. -/
theorem atLine_iff (hreturned : s.mode = .returned → s.AtLine) (hfield : s'.AtField) :
    s'.AtLine ↔ c = '\n' ∨ c = '\r' := by
  cases h with
  | opens | inside | closes | doubled => exact absurd hfield.mode (by simp [push])
  | plain => exact absurd hfield.field (by simp [push])
  | fieldEnd => exact iff_of_false (fun hline => List.cons_ne_nil _ _ hline.fields) (by decide)
  | carriageReturn => exact iff_of_true ⟨hfield, rfl⟩ (.inr rfl)
  | lineFeed => exact iff_of_true ⟨hfield, rfl⟩ (.inl rfl)
  | secondEnd hmode => exact iff_of_true ⟨hfield, (hreturned hmode).fields⟩ (.inl rfl)

/-- A character leaves the scanner inside quotes by opening them or as a part of the field. -/
theorem quoted_cases (hmode : s'.mode = .quoted) :
    (c = '"' ∧ s.AtField ∧ s' = ⟨.quoted, [], s.fields, s.records⟩) ∨
      s'.field ≠ [] ∧ (c = '"' → s.mode = .closing) := by
  cases h with
  | opens hopens => exact .inl ⟨rfl, hopens, rfl⟩
  | inside _ hne => exact .inr ⟨List.cons_ne_nil _ _, fun hquote => absurd hquote hne⟩
  | doubled hclosing => exact .inr ⟨List.cons_ne_nil _ _, fun _ => hclosing⟩
  | closes | plain | fieldEnd | carriageReturn | lineFeed | secondEnd => cases hmode

end Reads

/-! ## Reading a text -/

theorem run_concat (s : Scanner) (text : Text) (c : Char) :
    s.run (text ++ [c]) = (s.run text).step c :=
  run_append s text [c]

theorem complete_of_mem_run (text : Text) :
    ∀ record ∈ (start.run text).records, record.complete = true := by
  induction text using List.reverseRecOn with
  | nil => exact fun record hrecord => absurd hrecord List.not_mem_nil
  | append_singleton text c ih =>
      rw [run_concat]
      intro record hrecord
      rcases (reads_step (start.run text) c).records_eq with hsame | ⟨-, fields, hnew⟩
      · exact ih record (hsame ▸ hrecord)
      · rw [hnew] at hrecord
        rcases List.mem_cons.1 hrecord with rfl | hold
        · rfl
        · exact ih record hold

/-- The records of a text are those of the lines before the last one. -/
theorem exists_lines (text : Text) : ∃ lines line, text = lines ++ line ∧
    (start.run lines).AtLine ∧ (start.run lines).records = (start.run text).records := by
  induction text using List.reverseRecOn with
  | nil => exact ⟨[], [], rfl, ⟨⟨.inl rfl, rfl⟩, rfl⟩, rfl⟩
  | append_singleton text c ih =>
      rw [run_concat]
      -- The last line goes on, or it has ended and the next one is still empty.
      rcases (reads_step (start.run text) c).records_eq with hsame | ⟨hline, -⟩
      · obtain ⟨lines, line, htext, hlines, hrecords⟩ := ih
        exact ⟨lines, line ++ [c], by rw [htext, List.append_assoc], hlines,
          hrecords.trans hsame.symm⟩
      · exact ⟨text ++ [c], [], (List.append_nil _).symm, run_concat start text c ▸ hline,
          congrArg records (run_concat start text c)⟩

theorem atLine_of_returned {text : Text} (h : (start.run text).mode = .returned) :
    (start.run text).AtLine := by
  cases text using List.reverseRecOn with
  | nil => cases h
  | append_singleton text c =>
      rw [run_concat] at h ⊢
      exact (reads_step _ c).atLine_of_returned h

/-- Quotes are about to close only after a quote, and no line ends there. -/
theorem endsLine_of_closing {text : Text} (h : (start.run text).mode = .closing) :
    endsLine text = false := by
  cases text using List.reverseRecOn with
  | nil => cases h
  | append_singleton text c =>
      rw [run_concat] at h
      rw [(reads_step _ c).eq_quote_of_closing h, ← Bool.not_eq_true, endsLine_concat]
      decide

/-- Of the texts that end before a field those that end a line stand before a record. -/
theorem atLine_run_iff {text : Text} (h : (start.run text).AtField) :
    (start.run text).AtLine ↔ endsLine text = true := by
  cases text using List.reverseRecOn with
  | nil => exact iff_of_true ⟨h, rfl⟩ rfl
  | append_singleton text c =>
      rw [run_concat] at h ⊢
      rw [(reads_step _ c).atLine_iff atLine_of_returned h, endsLine_concat]

/-! ## The record that is left open -/

/-- The record that the end of the text leaves open. -/
def unclosed (s : Scanner) : Record :=
  ⟨(s.field.reverse :: s.fields).reverse, false⟩

theorem isBlank_unclosed (s : Scanner) :
    s.unclosed.isBlank = true ↔ s.field = [] ∧ s.fields = [] := by
  have hfields : (s.field.reverse :: s.fields).reverse = [[]] ↔
      s.field.reverse :: s.fields = [[]] :=
    List.reverse_eq_iff
  rw [Record.isBlank, beq_iff_eq, unclosed, hfields]
  simp

/-- Inside quotes the last character of a text has just opened them, or the field is not empty
and the last line is no lone quote. -/
theorem quoted_cases {text : Text} (h : (start.run text).mode = .quoted) :
    (∃ before, text = before ++ ['"'] ∧ (start.run before).AtField ∧
        start.run text =
          ⟨.quoted, [], (start.run before).fields, (start.run before).records⟩) ∨
      (start.run text).field ≠ [] ∧ ¬ EndsInLoneQuote text := by
  cases text using List.reverseRecOn with
  | nil => cases h
  | append_singleton text c =>
      rw [run_concat] at h ⊢
      rcases (reads_step _ c).quoted_cases h with ⟨rfl, hopens, hstep⟩ | ⟨hfield, hclosing⟩
      · exact .inl ⟨text, rfl, hopens, hstep⟩
      · refine .inr ⟨hfield, fun hlone => ?_⟩
        -- A quote that does not open quotes stands after another one.
        obtain ⟨hquote, hlast⟩ := (endsInLoneQuote_concat text c).1 hlone
        rw [endsLine_of_closing (hclosing hquote)] at hlast
        cases hlast

/-- A record that is left open inside quotes looks like a blank line exactly if it is a quote
alone on the last line. -/
theorem isBlank_unclosed_iff {text : Text} (h : (start.run text).mode = .quoted) :
    (start.run text).unclosed.isBlank = true ↔ EndsInLoneQuote text := by
  rw [isBlank_unclosed]
  rcases quoted_cases h with ⟨before, rfl, hopens, hrun⟩ | ⟨hfield, hlone⟩
  · rw [hrun, endsInLoneQuote_concat, ← atLine_run_iff hopens]
    exact ⟨fun hempty => ⟨rfl, hopens, hempty.2⟩, fun hline => ⟨rfl, hline.2.fields⟩⟩
  · exact iff_of_false (fun hempty => hfield hempty.1) hlone

/-- Before a quote alone on the last line the scanner is before a record, and has the same
ones. -/
theorem run_dropLast {text : Text} (h : (start.run text).mode = .quoted)
    (hlone : EndsInLoneQuote text) :
    (start.run text.dropLast).AtLine ∧
      (start.run text.dropLast).records = (start.run text).records := by
  rcases quoted_cases h with ⟨before, rfl, hopens, hrun⟩ | ⟨-, hother⟩
  · rw [List.dropLast_concat, hrun]
    exact ⟨(atLine_run_iff hopens).2 ((endsInLoneQuote_concat _ _).1 hlone).2, rfl⟩
  · exact absurd hlone hother

end Scanner

/-! ## Records -/

/-- The records of whole lines. -/
theorem records_of_atLine {lines text : Text} (h : (Scanner.start.run lines).AtLine)
    (hsame : (Scanner.start.run lines).records = (Scanner.start.run text).records) :
    records lines = (Scanner.start.run text).kept := by
  show (Scanner.start.run lines).finish.kept = _
  rw [Scanner.finish_of_atLine h, Scanner.kept, hsame]
  rfl

theorem complete_of_mem_kept {text : Text} {record : Record}
    (h : record ∈ (Scanner.start.run text).kept) : record.complete = true :=
  Scanner.complete_of_mem_run text record (List.mem_reverse.1 (List.mem_filter.1 h).1)

/-- A text that ends inside quotes has the record that is left open after the others, unless it
looks like a blank line. -/
theorem records_of_quoted {text : Text} (h : (Scanner.start.run text).mode = .quoted) :
    records text = (Scanner.start.run text).kept ++
      if EndsInLoneQuote text then [] else [(Scanner.start.run text).unclosed] := by
  have hfinish : (Scanner.start.run text).finish =
      ⟨.bare, [], [], (Scanner.start.run text).unclosed :: (Scanner.start.run text).records⟩ :=
    if_pos h
  show (Scanner.start.run text).finish.kept = _
  rw [hfinish, Scanner.kept_cons]
  simp only [Scanner.isBlank_unclosed_iff h]
  rfl

/-- The sheet of complete records, and of ones that are left open below them, which are
skipped. -/
theorem Sheet.ofRecords_append {header : Record} {rest opened : List Record}
    (hcomplete : ∀ record ∈ header :: rest, record.complete = true)
    (hopened : ∀ record ∈ opened, record.complete = false) :
    Sheet.ofRecords (header :: rest ++ opened) = .ok
      { header := distinct header.fields
        rows := (rest.filter fun record => record.fields.length ≤ header.fields.length).map
          fun record => padTo header.fields.length record.fields
        skipped := (rest.countP fun record => header.fields.length < record.fields.length) +
          opened.length } := by
  have hheader : header.complete = true := hcomplete header (by simp)
  have hrest : ∀ record ∈ rest, record.complete = true :=
    fun record hrecord => hcomplete record (List.mem_cons_of_mem _ hrecord)
  rw [List.cons_append, Sheet.ofRecords, if_pos hheader]
  dsimp only
  rw [partition_fits_append _ hrest hopened, List.length_append, List.countP_eq_length_filter]

/-! ## Sheets -/

/-- Without a complete record there is no header. -/
theorem Sheet.read_of_quoted_nil {text : Text} (h : (Scanner.start.run text).mode = .quoted)
    (hcompleted : (Scanner.start.run text).kept = []) :
    Sheet.read text = .error (if EndsInLoneQuote text then .noColumns else .unterminatedHeader) := by
  rw [Sheet.read, records_of_quoted h, hcompleted]
  split
  · rfl
  · rfl

/-- The record that is left open is no row, and it is counted unless it looks like a blank
line. -/
theorem Sheet.read_of_quoted_cons {text : Text} (h : (Scanner.start.run text).mode = .quoted)
    {header : Record} {rest : List Record}
    (hcompleted : (Scanner.start.run text).kept = header :: rest) :
    Sheet.read text = .ok
      { header := distinct header.fields
        rows := (rest.filter fun record => record.fields.length ≤ header.fields.length).map
          fun record => padTo header.fields.length record.fields
        skipped := (rest.countP fun record => header.fields.length < record.fields.length) +
          if EndsInLoneQuote text then 0 else 1 } := by
  have hcomplete : ∀ record ∈ header :: rest, record.complete = true :=
    fun record hrecord => complete_of_mem_kept (hcompleted ▸ hrecord)
  rw [Sheet.read, records_of_quoted h, hcompleted]
  split
  · exact ofRecords_append hcomplete (by simp)
  · exact ofRecords_append hcomplete (by simp [Scanner.unclosed])

/-- The sheet of a text that ends inside quotes.  The complete records are those of the lines
before the last one, blank lines left out.  If there is none, there is no sheet.  Else the first
of them is the header, the others that are no wider are the rows, and the wider ones are
skipped.  The record that is left open is skipped and counted with these, unless it is a quote
alone on the last line: then the text reads as without the quote. -/
theorem Sheet.unclosed_record_counted_iff {text : Text}
    (h : (Scanner.start.run text).mode = .quoted) :
    let completed := (Scanner.start.run text).kept
    (∃ lines line, text = lines ++ line ∧ (Scanner.start.run lines).AtLine ∧
      records lines = completed) ∧
    (completed = [] → Sheet.read text =
      .error (if EndsInLoneQuote text then .noColumns else .unterminatedHeader)) ∧
    (∀ header rest, completed = header :: rest → ∃ sheet, Sheet.read text = .ok sheet ∧
      sheet.header = distinct header.fields ∧
      sheet.rows = (rest.filter fun record => record.fields.length ≤ header.fields.length).map
        (fun record => padTo header.fields.length record.fields) ∧
      sheet.rows.length =
        (rest.countP fun record => record.fields.length ≤ header.fields.length) ∧
      sheet.skipped = (rest.countP fun record => header.fields.length < record.fields.length) +
        (if EndsInLoneQuote text then 0 else 1) ∧
      (1 ≤ sheet.skipped ↔ ¬ EndsInLoneQuote text ∨
        ∃ record ∈ rest, header.fields.length < record.fields.length)) ∧
    (EndsInLoneQuote text → Sheet.read text = Sheet.read text.dropLast) := by
  intro completed
  refine ⟨?_, read_of_quoted_nil h, ?_, fun hlone => ?_⟩
  · obtain ⟨lines, line, htext, hlines, hsame⟩ := Scanner.exists_lines text
    exact ⟨lines, line, htext, hlines, records_of_atLine hlines hsame⟩
  · intro header rest hcompleted
    refine ⟨_, read_of_quoted_cons h hcompleted, rfl, rfl, ?_, rfl, ?_⟩
    · rw [List.length_map, List.countP_eq_length_filter]
    · have hwider : 0 < (rest.countP fun record =>
          header.fields.length < record.fields.length) ↔
            ∃ record ∈ rest, header.fields.length < record.fields.length := by
        simp only [List.countP_pos_iff, decide_eq_true_eq]
      rw [← hwider]
      by_cases hlone : EndsInLoneQuote text
      · rw [if_pos hlone, Nat.add_zero]
        exact ⟨.inr, fun hcounted => hcounted.resolve_left (not_not_intro hlone)⟩
      · rw [if_neg hlone]
        exact iff_of_true (Nat.le_add_left 1 _) (.inl hlone)
  · obtain ⟨hlines, hsame⟩ := Scanner.run_dropLast h hlone
    rw [Sheet.read, Sheet.read, records_of_atLine hlines hsame, records_of_quoted h,
      if_pos hlone, List.append_nil]

/-- A header that is repeated, a line that is too long, a blank one, a short one, and a record
that is left open in its second field, which holds a line feed and a quote. -/
theorem Sheet.unclosed_record_counted_iff_three_lines :
    let text := "a,a\n1,2,3\n\n4\r\n5,\"6\n\"\"7".toList
    (Scanner.start.run text).mode = .quoted ∧
      (Scanner.start.run text).kept =
        [⟨["a".toList, "a".toList], true⟩, ⟨["1".toList, "2".toList, "3".toList], true⟩,
          ⟨["4".toList], true⟩] ∧
      ∃ sheet, Sheet.read text = .ok sheet ∧
        sheet.header = ["a".toList, "a.1".toList] ∧
        sheet.rows = [[some "4".toList, none]] ∧
        sheet.skipped = 2 := by
  intro text
  have hquoted : (Scanner.start.run text).mode = .quoted := by decide
  have hcompleted : (Scanner.start.run text).kept =
      [⟨["a".toList, "a".toList], true⟩, ⟨["1".toList, "2".toList, "3".toList], true⟩,
        ⟨["4".toList], true⟩] := by decide
  obtain ⟨-, -, hsheet, -⟩ := unclosed_record_counted_iff hquoted
  obtain ⟨sheet, hread, hheader, hrows, -, hskipped, -⟩ := hsheet _ _ hcompleted
  exact ⟨hquoted, hcompleted, sheet, hread, hheader, hrows, hskipped⟩

/-- A quote alone on the last line is open at the end of the text, and no record is skipped. -/
theorem Sheet.lone_quote_not_counted :
    let text := "a\n1\n\"".toList
    (Scanner.start.run text).mode = .quoted ∧
      (Scanner.start.run text).kept = [⟨["a".toList], true⟩, ⟨["1".toList], true⟩] ∧
      Sheet.read text = .ok
        { header := ["a".toList], rows := [[some "1".toList]], skipped := 0 } := by
  decide

end RiskTally.Csv
