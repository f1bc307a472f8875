import RiskTally.Present.Summary

/-!
# Colored output

A terminal reads control sequences among the characters that it shows: one that turns a color on,
and the one that turns colors off.  What is written with colors has each of them where a span
begins or ends.  So whoever drops the sequences is left with what is written without colors, and
every color is turned off before the next one is turned on.  All that is asked of the texts is
that they hold no escape character; the numbers, labels and messages of the library hold none.

## Main results

* `Styled.flatMap_pieces`: reading control sequences loses nothing of a text.
* `Styled.pieces_render`: what a terminal reads of spans.
* `Present.colors_only`: what is shown with colors and without.
-/

namespace RiskTally

/-- The character that control sequences begin with. -/
def escape : Char := '\x1b'

/-! ## What a terminal reads -/

/-- A character that is shown, or a control sequence. -/
inductive Piece where
  | shown (c : Char)
  | opening (code : Text)
  | reset
  deriving DecidableEq, Repr

namespace Piece

/-- What stands before the number of a color. -/
def lead : Text :=
  [escape, '[', '3', '8', ';', '5', ';']

/-- A piece as it is written. -/
def text : Piece → Text
  | shown c => [c]
  | opening code => lead ++ code ++ ['m']
  | reset => [escape, '[', '0', 'm']

/-- The character that is shown. -/
def char? : Piece → Option Char
  | shown c => some c
  | _ => none

/-- The piece turns a color on. -/
def isOpening : Piece → Bool
  | opening _ => true
  | _ => false

/-- The number in the sequence that turns a color on, if a text begins with one. -/
def code? (text : Text) : Option Text := do
  let rest ← Text.after? lead text
  let code := rest.takeWhile Char.isDigit
  if code ≠ [] ∧ (rest.dropWhile Char.isDigit).head? = some 'm' then some code else none

/-- The first piece of a text: a sequence if the text begins with one. -/
def first (c : Char) (rest : Text) : Piece :=
  if Text.startsWith (text reset) (c :: rest) then reset
  else ((code? (c :: rest)).map opening).getD (shown c)

end Piece

namespace Styled

/-- The pieces of a text whose first `skip` characters still belong to a sequence. -/
def piecesFrom : (skip : Nat) → Text → List Piece
  | _, [] => []
  | skip + 1, _ :: text => piecesFrom skip text
  | 0, c :: text =>
    Piece.first c text :: piecesFrom ((Piece.first c text).text.length - 1) text

/-- The characters and control sequences of a text. -/
def pieces (text : Text) : List Piece :=
  piecesFrom 0 text

/-- The text without its control sequences. -/
def uncolored (text : Text) : Text :=
  (pieces text).filterMap Piece.char?

/-- The control sequences of a text. -/
def controls (text : Text) : List Piece :=
  (pieces text).filter fun piece => piece.char?.isNone

/-- Every color is turned off before another one is turned on, and the last one too. -/
inductive Closed : List Piece → Prop
  | nil : Closed []
  | span (code : Text) {rest : List Piece} (h : Closed rest) :
      Closed (.opening code :: .reset :: rest)

/-- With colors the spans are written as without them, but for sequences that turn colors on and
off again. -/
structure ColorsOnly (spans : Styled) : Prop where
  text : uncolored (render true spans) = render false spans
  closed : Closed (controls (render true spans))
  balanced : (controls (render true spans)).countP Piece.isOpening =
    (controls (render true spans)).count .reset

/-! ## The pieces of a text -/

theorem code?_eq_some_iff {text code : Text} :
    Piece.code? text = some code ↔ code ≠ [] ∧ (∀ c ∈ code, c.isDigit = true) ∧
      ∃ rest, text = (Piece.opening code).text ++ rest := by
  simp only [Piece.code?, Option.bind_eq_bind, Option.bind_eq_some_iff,
    Text.after?_eq_some_iff, Option.ite_none_right_eq_some, Option.some.injEq]
  constructor
  · rintro ⟨more, rfl, ⟨hne, hhead⟩, rfl⟩
    refine ⟨hne, List.all_eq_true.1 List.all_takeWhile, ?_⟩
    obtain ⟨rest, hrest⟩ := List.head?_eq_some_iff.1 hhead
    refine ⟨rest, ?_⟩
    have hmore := List.takeWhile_append_dropWhile (p := Char.isDigit) (l := more)
    rw [hrest] at hmore
    simp [Piece.text, hmore]
  · rintro ⟨hne, hdigits, rest, rfl⟩
    refine ⟨code ++ 'm' :: rest, by simp [Piece.text], ?_⟩
    have htake : (code ++ 'm' :: rest).takeWhile Char.isDigit = code := by
      rw [List.takeWhile_append_of_pos hdigits]
      simp
    have hdrop : (code ++ 'm' :: rest).dropWhile Char.isDigit = 'm' :: rest := by
      rw [List.dropWhile_append_of_pos hdigits]
      rfl
    rw [htake, hdrop]
    exact ⟨⟨hne, rfl⟩, rfl⟩

theorem prefix_text_first (c : Char) (rest : Text) : (Piece.first c rest).text <+: c :: rest := by
  unfold Piece.first
  split
  · rename_i hreset
    exact Text.startsWith_iff.1 hreset
  · cases hcode : Piece.code? (c :: rest) with
    | none => exact ⟨rest, rfl⟩
    | some code =>
        obtain ⟨-, -, more, hmore⟩ := code?_eq_some_iff.1 hcode
        exact ⟨more, hmore.symm⟩

theorem text_ne_nil (piece : Piece) : piece.text ≠ [] := by
  cases piece <;> simp [Piece.text]

theorem drop_length_first (c : Char) (rest : Text) :
    rest.drop ((Piece.first c rest).text.length - 1) =
      (c :: rest).drop (Piece.first c rest).text.length := by
  have hpos := List.length_pos_iff.2 (text_ne_nil (Piece.first c rest))
  rw [← List.drop_succ_cons (a := c), Nat.sub_add_cancel hpos]

theorem flatMap_piecesFrom (skip : Nat) (text : Text) :
    (piecesFrom skip text).flatMap Piece.text = text.drop skip := by
  induction text generalizing skip with
  | nil => simp [piecesFrom]
  | cons c rest ih =>
      cases skip with
      | succ skip => exact ih skip
      | zero =>
          rw [piecesFrom, List.flatMap_cons, ih, drop_length_first]
          exact List.prefix_iff_eq_append.1 (prefix_text_first c rest)

/-- The pieces of a text are the text. -/
theorem flatMap_pieces (text : Text) : (pieces text).flatMap Piece.text = text :=
  flatMap_piecesFrom 0 text

example : pieces "\x1b[38;5;9mA\x1b[0m\x1b[m".toList =
    [.opening ['9'], .shown 'A', .reset, .shown escape, .shown '[', .shown 'm'] := by decide +kernel

theorem piecesFrom_eq (skip : Nat) (text : Text) :
    piecesFrom skip text = pieces (text.drop skip) := by
  induction text generalizing skip with
  | nil => cases skip <;> rfl
  | cons c rest ih =>
      cases skip with
      | succ skip => exact ih skip
      | zero => rfl

/-- A text that begins with a piece goes on after it. -/
theorem pieces_append (piece : Piece) {c : Char} {rest more : Text}
    (htext : piece.text ++ more = c :: rest) (hfirst : Piece.first c rest = piece) :
    pieces (piece.text ++ more) = piece :: pieces more := by
  rw [htext, pieces, piecesFrom, piecesFrom_eq, drop_length_first, hfirst, ← htext,
    List.drop_left]

theorem first_of_ne {c : Char} (h : c ≠ escape) (rest : Text) : Piece.first c rest = .shown c := by
  have hreset : ¬ Text.startsWith (Piece.text .reset) (c :: rest) := by
    rw [Text.startsWith_iff]
    exact fun hprefix => h (List.cons_prefix_cons.1 hprefix).1.symm
  have hcode : Piece.code? (c :: rest) = none := by
    rw [Option.eq_none_iff_forall_ne_some]
    intro code hcode
    obtain ⟨-, -, more, hmore⟩ := code?_eq_some_iff.1 hcode
    exact h (List.cons.inj hmore).1
  rw [Piece.first, if_neg hreset, hcode]
  rfl

/-- Characters other than the escape character are shown. -/
theorem pieces_shown {text : Text} (h : escape ∉ text) (more : Text) :
    pieces (text ++ more) = text.map .shown ++ pieces more := by
  induction text with
  | nil => rfl
  | cons c text ih =>
      obtain ⟨hc, htext⟩ := not_or.1 (mt List.mem_cons.2 h)
      have hfirst := first_of_ne (Ne.symm hc) (text ++ more)
      have hpieces : pieces ([c] ++ (text ++ more)) = .shown c :: pieces (text ++ more) :=
        pieces_append _ rfl hfirst
      rw [List.cons_append, List.map_cons, List.cons_append, ← ih htext]
      exact hpieces

theorem pieces_reset (more : Text) : pieces (reset ++ more) = .reset :: pieces more := by
  have hreset : Text.startsWith (Piece.text .reset) (Piece.text .reset ++ more) :=
    Text.startsWith_iff.2 (List.prefix_append _ _)
  exact pieces_append .reset rfl (if_pos hreset)

theorem pieces_opening (color : Color) (more : Text) :
    pieces (opening color ++ more) = .opening color.code :: pieces more := by
  have hcode : Piece.code? ((Piece.opening color.code).text ++ more) = some color.code := by
    refine code?_eq_some_iff.2 ⟨?_, ?_, more, rfl⟩
    · cases color <;> decide
    · cases color <;> decide
  -- The two sequences differ in their third character.
  have hreset : ¬ Text.startsWith (Piece.text .reset) ((Piece.opening color.code).text ++ more) :=
    Bool.false_ne_true
  refine pieces_append (.opening color.code) rfl ?_
  refine (if_neg hreset).trans ?_
  exact congrArg (fun code => (Option.map Piece.opening code).getD (.shown escape)) hcode

/-! ## Rendered spans -/

/-- No text of a span holds the escape character. -/
def Unescaped (spans : Styled) : Prop :=
  ∀ span ∈ spans, escape ∉ spanText span

/-- What a terminal reads of a span. -/
def spanPieces : Span → List Piece
  | .plain text => text.map .shown
  | .colored color text => .opening color.code :: (text.map .shown ++ [.reset])

/-- What a terminal reads of spans. -/
theorem pieces_render {spans : Styled} (h : Unescaped spans) :
    pieces (render true spans) = spans.flatMap spanPieces := by
  induction spans with
  | nil => rfl
  | cons span spans ih =>
      have hrest := ih fun other hother => h other (List.mem_cons_of_mem _ hother)
      have hspan := h span List.mem_cons_self
      rw [List.flatMap_cons, ← hrest]
      show pieces (renderSpan true span ++ render true spans) = _
      cases span with
      | plain text => exact pieces_shown hspan _
      | colored color text =>
          simp only [renderSpan, spanPieces, if_true, List.append_assoc, List.cons_append,
            List.nil_append]
          have htext : escape ∉ text := hspan
          rw [pieces_opening, pieces_shown htext, pieces_reset]

/-- Dropping the sequences leaves the texts of the spans. -/
theorem uncolored_render {spans : Styled} (h : Unescaped spans) :
    uncolored (render true spans) = render false spans := by
  have hshown : ∀ text : Text, (text.map Piece.shown).filterMap Piece.char? = text := by
    intro text
    rw [List.filterMap_map]
    exact List.filterMap_some
  rw [uncolored, pieces_render h, render_false, List.filterMap_flatMap]
  refine congrArg (List.flatMap · spans) (funext fun span => ?_)
  cases span with
  | plain text => exact hshown text
  | colored color text =>
      rw [spanPieces, List.filterMap_cons_none rfl, List.filterMap_append, hshown]
      exact List.append_nil text

/-- The sequences that a span is written with. -/
def spanControls : Span → List Piece
  | .plain _ => []
  | .colored color _ => [.opening color.code, .reset]

theorem controls_render {spans : Styled} (h : Unescaped spans) :
    controls (render true spans) = spans.flatMap spanControls := by
  have hshown : ∀ text : Text,
      (text.map Piece.shown).filter (fun piece => piece.char?.isNone) = [] := by
    intro text
    simp [List.filter_eq_nil_iff, Piece.char?]
  rw [controls, pieces_render h, List.filter_flatMap]
  refine congrArg (List.flatMap · spans) (funext fun span => ?_)
  cases span with
  | plain text => exact hshown text
  | colored color text => simp [spanPieces, spanControls, Piece.char?]

theorem closed_spanControls (spans : Styled) : Closed (spans.flatMap spanControls) := by
  induction spans with
  | nil => exact .nil
  | cons span spans ih =>
      cases span with
      | plain text => exact ih
      | colored color text => exact .span color.code ih

theorem Closed.balanced {controls : List Piece} (h : Closed controls) :
    controls.countP Piece.isOpening = controls.count .reset := by
  induction h with
  | nil => rfl
  | span code _ ih => simp [List.countP_cons, Piece.isOpening, ih]

/-- Spans without the escape character are written with colors as without them. -/
theorem colorsOnly_of_unescaped {spans : Styled} (h : Unescaped spans) : ColorsOnly spans := by
  have hclosed : Closed (controls (render true spans)) := by
    rw [controls_render h]
    exact closed_spanControls spans
  exact ⟨uncolored_render h, hclosed, hclosed.balanced⟩

/-! ## Spans without the escape character -/

theorem unescaped_nil : Unescaped [] := by
  simp [Unescaped]

theorem unescaped_cons {span : Span} {spans : Styled} (h : escape ∉ spanText span)
    (hrest : Unescaped spans) : Unescaped (span :: spans) :=
  List.forall_mem_cons.2 ⟨h, hrest⟩

theorem unescaped_append {spans more : Styled} (h : Unescaped spans) (hmore : Unescaped more) :
    Unescaped (spans ++ more) :=
  List.forall_mem_append.2 ⟨h, hmore⟩

theorem unescaped_map {α : Type} {span : α → Span} {items : List α}
    (h : ∀ item ∈ items, escape ∉ spanText (span item)) : Unescaped (items.map span) :=
  List.forall_mem_map.2 h

theorem unescaped_flatMap {α : Type} {spans : α → Styled} {items : List α}
    (h : ∀ item ∈ items, Unescaped (spans item)) : Unescaped (items.flatMap spans) := by
  intro span hspan
  obtain ⟨item, hitem, hmem⟩ := List.mem_flatMap.1 hspan
  exact h item hitem span hmem

end Styled

/-! ## The texts that are shown -/

@[simp] theorem escape_not_mem_natText (n : Nat) : escape ∉ natText n := fun hmem =>
  absurd (isDigit_of_mem_natText hmem) (by decide)

@[simp] theorem escape_not_mem_intText (i : Int) : escape ∉ intText i := by
  unfold intText
  split
  · exact List.not_mem_cons_of_ne_of_not_mem (by decide) (escape_not_mem_natText _)
  · exact escape_not_mem_natText _

theorem mem_of_mem_groupDigits {c : Char} {digits : Text} (h : c ∈ groupDigits digits) :
    c = ',' ∨ c ∈ digits := by
  fun_induction groupDigits digits with
  | case1 => exact .inr h
  | case2 a b c rest hrest ih =>
      simp only [List.mem_cons] at h ⊢
      rcases h with h | h | h | h | h
      · exact .inr (.inl h)
      · exact .inr (.inr (.inl h))
      · exact .inr (.inr (.inr (.inl h)))
      · exact .inl h
      · exact (ih h).imp_right fun hrest => .inr (.inr (.inr hrest))
  | case3 => exact .inr h

@[simp] theorem escape_not_mem_groupedText (n : Int64) : escape ∉ groupedText n := by
  have hdigits : escape ∉ (groupDigits (natText n.toInt.natAbs).reverse).reverse := by
    rw [List.mem_reverse]
    intro hmem
    rcases mem_of_mem_groupDigits hmem with hcomma | hdigit
    · exact absurd hcomma (by decide)
    · exact escape_not_mem_natText _ (List.mem_reverse.1 hdigit)
  unfold groupedText
  dsimp only
  split
  · exact List.not_mem_cons_of_ne_of_not_mem (by decide) hdigits
  · exact hdigits

@[simp] theorem escape_not_mem_weight (weight : Weight) : escape ∉ weight.label := by
  cases weight with
  | fixed amount => exact escape_not_mem_intText _
  | perRow => decide

@[simp] theorem escape_not_mem_level (level : Level) : escape ∉ level.label := by
  cases level <;> decide

@[simp] theorem escape_not_mem_queryFault (fault : QueryFault) : escape ∉ fault.message := by
  unfold QueryFault.message
  split
  · decide
  · simp +decide

/-- What a summary shows of a report holds no escape character. -/
structure Report.Unescaped (report : Report) : Prop where
  ignored : ∀ rule ∈ report.ignored, escape ∉ rule.expression ∧ escape ∉ rule.fault.message
  activations : ∀ a ∈ report.activations, escape ∉ a.expression

/-- What is shown of a profile holds no escape character. -/
structure Profile.Unescaped (profile : Profile) : Prop where
  name : escape ∉ profile.name
  activations : ∀ a ∈ profile.activations, escape ∉ a.expression
  files : ∀ entry ∈ profile.breakdown, escape ∉ entry.1
  reason : ∀ status ∈ profile.watchlist, escape ∉ status.reason

namespace Present

open Styled

theorem escape_not_mem_line {parts : List Text} (h : ∀ part ∈ parts, escape ∉ part) :
    escape ∉ spanText (line parts) := by
  simp only [line, spanText, List.mem_append, List.mem_flatten, not_or, not_exists, not_and]
  exact ⟨h, by decide⟩

theorem unescaped_warnings {texts : List Text} (h : ∀ text ∈ texts, escape ∉ text) :
    Unescaped (warnings texts) := by
  unfold warnings
  split
  · exact unescaped_nil
  · refine unescaped_cons (by simp +decide [spanText]) (unescaped_map fun text htext => ?_)
    exact escape_not_mem_line (by simp +decide [h text htext])

theorem unescaped_summary {report : Report} (h : report.Unescaped) (rulesLoaded : Nat) :
    Unescaped (summary rulesLoaded report) := by
  refine unescaped_append (unescaped_cons ?_ (unescaped_map fun rule hrule => ?_))
    (unescaped_cons ?_ (unescaped_map fun a ha => ?_))
  · exact escape_not_mem_line (by simp +decide)
  · obtain ⟨hexpression, hfault⟩ := h.ignored rule hrule
    simp +decide [ignored, spanText, hexpression, hfault]
  · exact escape_not_mem_line (by simp +decide)
  · exact escape_not_mem_line (by simp +decide [h.activations a ha])

/-! ## Profiles -/

theorem escape_not_mem_highlight {expression label : Text}
    (h : highlight? expression = some label) (hexpression : escape ∉ expression) :
    escape ∉ label := by
  unfold highlight? at h
  split at h
  · rw [← Option.some.inj h]
    decide
  · split at h
    · rwa [← Option.some.inj h]
    · split at h
      · rwa [← Option.some.inj h]
      · contradiction

theorem unescaped_highlights {activations : List Activation}
    (h : ∀ a ∈ activations, escape ∉ a.expression) (shown : List Text) :
    Unescaped (highlights shown activations) := by
  induction activations generalizing shown with
  | nil => exact unescaped_nil
  | cons a activations ih =>
      obtain ⟨ha, hrest⟩ := List.forall_mem_cons.1 h
      unfold highlights
      cases hlabel : highlight? a.expression with
      | none => exact ih hrest shown
      | some label =>
          dsimp only
          split
          · exact ih hrest shown
          · refine unescaped_cons (escape_not_mem_line ?_) (ih hrest _)
            simp +decide [escape_not_mem_highlight hlabel ha]

theorem unescaped_conciseDetails {profile : Profile} (h : profile.Unescaped) :
    Unescaped (conciseDetails profile) := by
  refine unescaped_append (unescaped_cons (escape_not_mem_line (by simp +decide)) ?_)
    (unescaped_highlights h.activations [])
  cases profile.watchlist with
  | none => exact unescaped_nil
  | some status =>
      dsimp only
      split
      · exact unescaped_cons (escape_not_mem_line (by simp +decide)) unescaped_nil
      · exact unescaped_nil

theorem unescaped_watchlistDetails {status : WatchlistStatus} (h : escape ∉ status.reason)
    (count : Option Nat) : Unescaped (watchlistDetails count status) := by
  refine unescaped_append (unescaped_append (unescaped_append ?_ ?_) ?_) ?_
  · exact unescaped_cons (escape_not_mem_line (by simp +decide)) unescaped_nil
  · cases count with
    | none => exact unescaped_nil
    | some count => exact unescaped_cons (escape_not_mem_line (by simp +decide)) unescaped_nil
  · exact unescaped_cons (escape_not_mem_line (by split <;> simp +decide))
      (unescaped_cons (escape_not_mem_line (by simp +decide)) unescaped_nil)
  · split
    · exact unescaped_nil
    · exact unescaped_cons (escape_not_mem_line (by simp +decide [h])) unescaped_nil

theorem unescaped_breakdownDetails {breakdown : List (Text × Nat)}
    (h : ∀ entry ∈ breakdown, escape ∉ entry.1) : Unescaped (breakdownDetails breakdown) := by
  unfold breakdownDetails
  split
  · exact unescaped_nil
  · refine unescaped_cons (escape_not_mem_line (by simp +decide))
      (unescaped_map fun entry hentry => ?_)
    exact escape_not_mem_line (by simp +decide [h entry hentry])

theorem unescaped_ruleDetails {a : Activation} (h : escape ∉ a.expression) :
    Unescaped (ruleDetails a) := by
  refine unescaped_cons ?_ (unescaped_cons ?_ (unescaped_cons ?_ unescaped_nil))
  · simp +decide [spanText, h]
  · simp +decide [spanText]
  · decide

theorem unescaped_verboseDetails {profile : Profile} (h : profile.Unescaped) :
    Unescaped (verboseDetails profile) := by
  refine unescaped_append (unescaped_append ?_ (unescaped_breakdownDetails h.files))
    (unescaped_cons (escape_not_mem_line (by simp +decide))
      (unescaped_flatMap fun a ha => unescaped_ruleDetails (h.activations a ha)))
  have hreason := h.reason
  cases hstatus : profile.watchlist with
  | none => exact unescaped_nil
  | some status => exact unescaped_watchlistDetails (hreason status hstatus) _

theorem unescaped_profileHead {profile : Profile} (h : profile.Unescaped) :
    Unescaped (profileHead profile) := by
  refine unescaped_cons ?_ (unescaped_cons ?_ (unescaped_cons ?_ (unescaped_cons ?_
    (unescaped_cons ?_ (unescaped_cons ?_ unescaped_nil)))))
  · exact escape_not_mem_line (by simp +decide [h.name])
  · exact escape_not_mem_line (by simp +decide)
  · decide
  · exact escape_not_mem_level profile.level
  · decide
  · exact escape_not_mem_line (by simp +decide)

theorem unescaped_profile {answer : Except QueryFault Profile}
    (h : ∀ profile, answer = .ok profile → profile.Unescaped) (concise : Bool) :
    Unescaped (profile concise answer) := by
  refine unescaped_cons (by decide) ?_
  cases answer with
  | error fault =>
      exact unescaped_cons (escape_not_mem_line (by simp)) unescaped_nil
  | ok profile =>
      have hprofile := h profile rfl
      refine unescaped_append (unescaped_profileHead hprofile) ?_
      split
      · exact unescaped_conciseDetails hprofile
      · exact unescaped_verboseDetails hprofile

/-- Warnings, summaries and profiles are shown with colors as without them, whatever they say, in
few words or in many. -/
theorem colors_only {texts : List Text} (htexts : ∀ text ∈ texts, escape ∉ text)
    (rulesLoaded : Nat) {report : Report} (hreport : report.Unescaped)
    {answer : Except QueryFault Profile}
    (hanswer : ∀ profile, answer = .ok profile → profile.Unescaped) (concise : Bool) :
    ColorsOnly (warnings texts) ∧ ColorsOnly (summary rulesLoaded report) ∧
      ColorsOnly (profile concise answer) ∧
      ∀ watchlistNames : Option Nat,
        ColorsOnly (run concise ⟨texts, watchlistNames, rulesLoaded, report, some answer⟩) := by
  have hwarnings := unescaped_warnings htexts
  have hsummary := unescaped_summary hreport rulesLoaded
  have hprofile := unescaped_profile hanswer concise
  refine ⟨colorsOnly_of_unescaped hwarnings, colorsOnly_of_unescaped hsummary,
    colorsOnly_of_unescaped hprofile, fun watchlistNames => colorsOnly_of_unescaped ?_⟩
  refine unescaped_append (unescaped_append (unescaped_append hwarnings ?_) hsummary) hprofile
  cases watchlistNames with
  | none => exact unescaped_nil
  | some names => exact unescaped_cons (escape_not_mem_line (by simp +decide)) unescaped_nil

/-- A warning, a rule that was ignored and a full profile with one rule. -/
theorem colors_only_full_profile :
    ∃ (texts : List Text) (report : Report) (shown : Profile),
      (∀ text ∈ texts, escape ∉ text) ∧ report.Unescaped ∧ shown.Unescaped ∧
      render true (summary 1 report) =
        "Rules loaded: 1 | Ignored: 1\n".toList ++
        "\x1b[38;5;9m[IGNORED] Age ~ 3 -> unknown comparison operator '~'\n\x1b[0m".toList ++
        "Activations:\n".toList ∧
      ColorsOnly (warnings texts) ∧ ColorsOnly (summary 1 report) ∧
      ColorsOnly (profile false (.ok shown)) ∧
      controls (render true (profile false (.ok shown))) =
        [.opening "13".toList, .reset, .opening "14".toList, .reset, .opening "8".toList,
          .reset] := by
  let texts : List Text := ["b.csv: no columns".toList]
  let report : Report :=
    { scores := [], levels := [], names := none, sources := [], identities := []
      activations := []
      ignored := [⟨"Age ~ 3".toList, .unknownOperator "~".toList⟩]
      nameSource := none }
  let shown : Profile :=
    { name := "Ana".toList, score := 25, level := .medium
      activations := [⟨"Age > 60".toList, .fixed 25, 1⟩]
      records := 1, breakdown := [("a.csv".toList, 1)]
      watchlist := some ⟨false, 0, []⟩, watchlistCount := some 2 }
  have htexts : ∀ text ∈ texts, escape ∉ text := by decide
  have hreport : report.Unescaped := ⟨by decide +kernel, by decide⟩
  have hshown : shown.Unescaped := ⟨by decide, by decide, by decide, by decide⟩
  have hanswer : ∀ profile, Except.ok shown = (.ok profile : Except QueryFault Profile) →
      profile.Unescaped := fun profile heq => Except.ok.inj heq ▸ hshown
  obtain ⟨hwarnings, hsummary, hprofile, -⟩ := colors_only htexts 1 hreport hanswer false
  exact ⟨texts, report, shown, htexts, hreport, hshown, by decide +kernel, hwarnings, hsummary,
    hprofile, by decide +kernel⟩

end Present

end RiskTally
