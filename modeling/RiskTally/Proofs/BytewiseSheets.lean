import Mathlib.Data.List.Basic
import RiskTally.Proofs.TableSheets

/-!
# Sheets read byte by byte

Read as ISO-8859-1, the UTF-8 bytes of a text show a character for every byte.  The four
characters that shape a sheet are single bytes and stay what they are, and no byte of another
character looks like one of them.  So the scanner goes through both texts side by side, holds
the respelled part of what it holds in the plain text, and finds the same records.  Names that
are repeated get the same numbers, because no two texts have the same bytes.

## Main results

* `Scanner.run_respell`: the scanner on a respelled text.
* `Csv.distinct_map`: renaming repetitions commutes with respelling the names.
* `Sheet.read_respell`: the sheet of a respelled text is the respelled sheet.
* `Sheet.same_shape_in_latin1`: UTF-8 bytes hold a sheet of one shape in both encodings.
-/

namespace RiskTally

namespace Csv

/-! ## Respelling -/

/-- Texts for characters that keep the shape of a sheet: what shapes it stays, and what does
not is neither lost nor turned into something that does. -/
structure Respelling where
  ofChar : Char → Text
  ofChar_of_special : ∀ c, isSpecial c = true → ofChar c = [c]
  ofChar_ne_nil : ∀ c, isSpecial c = false → ofChar c ≠ []
  ordinary_of_mem_ofChar : ∀ c, isSpecial c = false → ∀ d ∈ ofChar c, isSpecial d = false

variable (r : Respelling)

namespace Respelling

/-- A text with every character respelled. -/
def apply (text : Text) : Text :=
  text.flatMap r.ofChar

@[simp] theorem apply_nil : r.apply [] = [] := rfl

@[simp] theorem apply_cons (c : Char) (text : Text) :
    r.apply (c :: text) = r.ofChar c ++ r.apply text :=
  List.flatMap_cons

@[simp] theorem apply_append (a b : Text) : r.apply (a ++ b) = r.apply a ++ r.apply b :=
  List.flatMap_append

theorem apply_eq_nil_iff {text : Text} : r.apply text = [] ↔ text = [] := by
  cases text with
  | nil => simp
  | cons c text =>
      have hc : r.ofChar c ≠ [] := by
        cases hspecial : isSpecial c with
        | true => simp [r.ofChar_of_special c hspecial]
        | false => exact r.ofChar_ne_nil c hspecial
      simp [hc]

end Respelling

/-- A record with every field respelled. -/
def Record.respell (record : Record) : Record :=
  ⟨record.fields.map r.apply, record.complete⟩

/-- A sheet with every name and every cell respelled. -/
def Sheet.respell (sheet : Sheet) : Sheet where
  header := sheet.header.map r.apply
  rows := sheet.rows.map fun row => row.map fun cell => cell.map r.apply
  skipped := sheet.skipped

/-! ## The scanner -/

namespace Scanner

/-- A scanner that holds the respelled fields. -/
def respell (s : Scanner) : Scanner :=
  ⟨s.mode, (r.apply s.field.reverse).reverse, s.fields.map r.apply,
    s.records.map (Record.respell r)⟩

/-- A character that shapes nothing is added to the field. -/
theorem step_of_ordinary (s : Scanner) {c : Char} (h : isSpecial c = false) :
    s.step c = s.push (if s.mode = .quoted then .quoted else .bare) c := by
  obtain ⟨⟨⟨hcomma, hquote⟩, hfeed⟩, hreturn⟩ :
      ((c ≠ ',' ∧ c ≠ '"') ∧ c ≠ '\n') ∧ c ≠ '\r' := by
    simpa [isSpecial] using h
  by_cases hquoted : s.mode = .quoted
  · rw [if_pos hquoted, step, hquoted]
    exact if_neg hquote
  · rw [if_neg hquoted, step_eq_stepBare hquoted (fun _ => hquote) fun _ => hfeed]
    exact stepBare_eq_push (fun hc => absurd hc hquote) hcomma hreturn hfeed

/-- So is a text of such characters. -/
theorem run_of_ordinary (s : Scanner) {text : Text} (hne : text ≠ [])
    (h : ∀ c ∈ text, isSpecial c = false) :
    s.run text =
      ⟨if s.mode = .quoted then .quoted else .bare, text.reverse ++ s.field, s.fields,
        s.records⟩ := by
  induction text generalizing s with
  | nil => exact absurd rfl hne
  | cons c text ih =>
      have hstep := step_of_ordinary s (h c (by simp))
      show (s.step c).run text = _
      cases text with
      | nil =>
          rw [hstep]
          rfl
      | cons d text =>
          rw [ih _ (by simp) fun e he => h e (by simp [he]), hstep]
          by_cases hquoted : s.mode = .quoted
          · simp [push, hquoted]
          · simp [push, hquoted]

theorem respell_push (s : Scanner) (mode : Mode) (c : Char) :
    (s.push mode c).respell r =
      ⟨mode, (r.ofChar c).reverse ++ (s.respell r).field, (s.respell r).fields,
        (s.respell r).records⟩ := by
  simp [respell, push]

theorem respell_endField (s : Scanner) : s.endField.respell r = (s.respell r).endField := by
  simp [respell, endField]

theorem respell_endRecord (s : Scanner) (mode : Mode) (complete : Bool) :
    (s.endRecord mode complete).respell r = (s.respell r).endRecord mode complete := by
  simp [respell, endRecord, Record.respell]

theorem respell_field_eq_nil_iff (s : Scanner) : (s.respell r).field = [] ↔ s.field = [] := by
  simp [respell, r.apply_eq_nil_iff]

/-- Outside quotes a character that shapes a sheet does the same to the respelled scanner. -/
theorem stepBare_respell (s : Scanner) {c : Char} (h : isSpecial c = true) :
    (s.respell r).stepBare c = (s.stepBare c).respell r := by
  have hpush : ∀ mode, (s.push mode c).respell r = (s.respell r).push mode c := by
    intro mode
    rw [respell_push, r.ofChar_of_special c h]
    rfl
  unfold stepBare
  simp only [respell_field_eq_nil_iff]
  split
  · rfl
  split
  · exact (respell_endField r s).symm
  split
  · exact (respell_endRecord r s ..).symm
  split
  · exact (respell_endRecord r s ..).symm
  · exact (hpush _).symm

/-- One character of the plain text, respelled for the respelled scanner. -/
theorem run_ofChar (s : Scanner) (c : Char) :
    (s.respell r).run (r.ofChar c) = (s.step c).respell r := by
  cases hspecial : isSpecial c with
  | false =>
      rw [run_of_ordinary _ (r.ofChar_ne_nil c hspecial) (r.ordinary_of_mem_ofChar c hspecial),
        step_of_ordinary s hspecial, respell_push]
      rfl
  | true =>
      have hbare := stepBare_respell r s hspecial
      have hpush : (s.push .quoted c).respell r = (s.respell r).push .quoted c := by
        rw [respell_push, r.ofChar_of_special c hspecial]
        rfl
      rw [r.ofChar_of_special c hspecial]
      show (s.respell r).step c = _
      unfold step
      rw [show (s.respell r).mode = s.mode from rfl]
      cases s.mode with
      | bare => exact hbare
      | quoted =>
          dsimp only
          split
          · rfl
          · exact hpush.symm
      | closing =>
          dsimp only
          split
          · exact hpush.symm
          · exact hbare
      | returned =>
          dsimp only
          split
          · rfl
          · exact hbare

/-- After a respelled text the scanner holds the respelled fields. -/
theorem run_respell (s : Scanner) (text : Text) :
    (s.respell r).run (r.apply text) = (s.run text).respell r := by
  induction text generalizing s with
  | nil => rfl
  | cons c text ih =>
      rw [Respelling.apply_cons, run_append, run_ofChar, ih]
      rfl

theorem finish_respell (s : Scanner) : (s.respell r).finish = s.finish.respell r := by
  have hfields : (s.respell r).fields = [] ↔ s.fields = [] := List.map_eq_nil_iff
  unfold finish
  simp only [respell_field_eq_nil_iff, hfields]
  rw [show (s.respell r).mode = s.mode from rfl]
  split
  · exact (respell_endRecord r s ..).symm
  split
  · rfl
  · exact (respell_endRecord r s ..).symm

end Scanner

/-! ## Records -/

theorem Record.isBlank_respell (record : Record) :
    (record.respell r).isBlank = record.isBlank := by
  obtain ⟨fields, complete⟩ := record
  rw [Bool.eq_iff_iff]
  simp only [isBlank, respell, beq_iff_eq]
  rcases fields with _ | ⟨field, _ | ⟨other, fields⟩⟩
  · simp
  · simp [r.apply_eq_nil_iff]
  · simp

/-- The records of a respelled text. -/
theorem records_respell (text : Text) :
    records (r.apply text) = (records text).map (Record.respell r) := by
  have hrun : (Scanner.start.run (r.apply text)).finish =
      (Scanner.start.run text).finish.respell r := by
    rw [← Scanner.finish_respell, ← Scanner.run_respell]
    rfl
  unfold records
  rw [hrun]
  show ((List.map _ _).reverse.filter _) = _
  rw [← List.map_reverse, List.filter_map]
  exact congrArg _ (List.filter_congr fun record _ =>
    congrArg not (Record.isBlank_respell r record))

/-! ## The header -/

section Header

variable {f : Text → Text} (hf : ∀ a b, f a = f b → a = b)
  (hsuffix : ∀ name k, f (suffixed name k) = suffixed (f name) k)

include hf hsuffix

theorem freshName_map (taken : List Text) (name : Text) :
    freshName (taken.map f) (f name) = f (freshName taken name) := by
  have htaken : ∀ candidate, (taken.map f).contains (f candidate) = taken.contains candidate := by
    intro candidate
    rw [Bool.eq_iff_iff, List.contains_iff_mem, List.contains_iff_mem]
    exact List.mem_map_of_injective fun a b => hf a b
  have hcandidates : ∀ numbers : List Nat,
      numbers.map (suffixed (f name)) = (numbers.map (suffixed name)).map f := by
    intro numbers
    rw [List.map_map]
    exact List.map_congr_left fun k _ => (hsuffix name k).symm
  unfold freshName
  rw [htaken, List.length_map, hcandidates]
  split
  · have hfree : (fun candidate => !(taken.map f).contains candidate) ∘ f =
        fun candidate => !taken.contains candidate :=
      funext fun candidate => congrArg not (htaken candidate)
    dsimp only
    rw [List.find?_map, hfree, Option.getD_map]
  · rfl

theorem distinctFrom_map (taken names : List Text) :
    distinctFrom (taken.map f) (names.map f) = (distinctFrom taken names).map f := by
  induction names generalizing taken with
  | nil => rfl
  | cons name names ih =>
      simp only [List.map_cons, distinctFrom]
      rw [freshName_map hf hsuffix, ← ih]
      simp

/-- Names that are respelled one by one, no two alike, and with the suffix of a repetition
kept, are renamed alike. -/
theorem distinct_map (names : List Text) : distinct (names.map f) = (distinct names).map f :=
  distinctFrom_map hf hsuffix [] names

end Header

/-! ## Sheets -/

theorem padTo_map (f : Text → Text) (width : Nat) (fields : List Text) :
    padTo width (fields.map f) = (padTo width fields).map fun cell => cell.map f := by
  simp [padTo]

/-- Respelled records fit where the plain ones do. -/
theorem partition_respell (width : Nat) (records : List Record) :
    (records.map (Record.respell r)).partition (·.fits width) =
      ((records.partition (·.fits width)).1.map (Record.respell r),
        (records.partition (·.fits width)).2.map (Record.respell r)) := by
  have hfits : ∀ record : Record, (record.respell r).fits width = record.fits width := by
    intro record
    simp [Record.fits, Record.respell]
  simp only [List.partition_eq_filter_filter, List.filter_map, Function.comp_def, hfits]

/-- The sheet of a respelled text is the respelled sheet, and where there is none the fault is
the same. -/
theorem Sheet.read_respell (hinjective : ∀ a b, r.apply a = r.apply b → a = b)
    (hsuffix : ∀ name k, r.apply (suffixed name k) = suffixed (r.apply name) k) (text : Text) :
    Sheet.read (r.apply text) = (Sheet.read text).map (Sheet.respell r) := by
  unfold Sheet.read
  rw [records_respell]
  cases records text with
  | nil => rfl
  | cons header records =>
      have hwidth : (header.respell r).fields.length = header.fields.length := List.length_map _
      have hheader : distinct (header.respell r).fields = (distinct header.fields).map r.apply :=
        distinct_map hinjective hsuffix _
      have hrows : ∀ kept : List Record,
          (kept.map (Record.respell r)).map (fun record =>
            padTo header.fields.length record.fields) =
          (kept.map fun record => padTo header.fields.length record.fields).map fun row =>
            row.map fun cell => cell.map r.apply := by
        intro kept
        rw [List.map_map, List.map_map]
        exact List.map_congr_left fun record _ => padTo_map ..
      simp only [List.map_cons, ofRecords]
      rw [show (header.respell r).complete = header.complete from rfl, hwidth, hheader,
        partition_respell, List.length_map, hrows]
      split
      · rfl
      · rfl

end Csv

/-! ## Bytes as characters -/

namespace Utf8

/-- A character of ASCII is one byte. -/
theorem utf8EncodeChar_of_ascii {c : Char} (h : c.toNat < 0x80) :
    String.utf8EncodeChar c = [UInt8.ofNat c.toNat] := by
  have hcode : c.val.toNat = c.toNat := rfl
  unfold String.utf8EncodeChar
  dsimp only
  rw [if_pos (by omega), hcode]

/-- All bytes of a character past ASCII are past ASCII. -/
theorem le_of_mem_utf8EncodeChar {c : Char} (h : 0x80 ≤ c.toNat) {b : UInt8}
    (hb : b ∈ String.utf8EncodeChar c) : 0x80 ≤ b.toNat := by
  have hcode : c.val.toNat = c.toNat := rfl
  have hbyte : ∀ n, 0x80 ≤ n → n ≤ 0xFF → b = UInt8.ofNat n → 0x80 ≤ b.toNat := by
    rintro n hlow hhigh rfl
    rwa [toNat_ofNat_of_le hhigh]
  unfold String.utf8EncodeChar at hb
  dsimp only at hb
  rw [if_neg (by omega)] at hb
  split at hb
  · simp only [List.mem_cons, List.not_mem_nil, or_false] at hb
    rcases hb with hb | hb <;> exact hbyte _ (by omega) (by omega) hb
  split at hb
  · simp only [List.mem_cons, List.not_mem_nil, or_false] at hb
    rcases hb with hb | hb | hb <;> exact hbyte _ (by omega) (by omega) hb
  · simp only [List.mem_cons, List.not_mem_nil, or_false] at hb
    rcases hb with hb | hb | hb | hb <;> exact hbyte _ (by omega) (by omega) hb

/-- No two texts have the same bytes. -/
theorem encode_injective {a b : Text} (h : encode a = encode b) : a = b := by
  have hdecode := congrArg decode h
  rw [decode_encode, decode_encode] at hdecode
  exact Except.ok.inj hdecode

end Utf8

namespace Encoding

/-- The character of a byte past ASCII shapes no sheet. -/
theorem isSpecial_ofByte {b : UInt8} (h : 0x80 ≤ b.toNat) :
    Csv.isSpecial (Char.ofNat b.toNat) = false := by
  have hcode := toNat_ofByte b
  have hne : ∀ c : Char, c.toNat < 0x80 → Char.ofNat b.toNat ≠ c := by
    rintro c hc rfl
    omega
  simp [Csv.isSpecial, hne]

/-- A character of ASCII is read from its byte. -/
theorem decodeLatin1_ascii {c : Char} (h : c.toNat < 0x80) :
    decodeLatin1 (String.utf8EncodeChar c) = [c] := by
  rw [Utf8.utf8EncodeChar_of_ascii h]
  show [Char.ofNat (UInt8.ofNat c.toNat).toNat] = [c]
  rw [Utf8.toNat_ofNat_of_le (by omega), Char.ofNat_toNat]

theorem decodeLatin1_special {c : Char} (h : Csv.isSpecial c = true) :
    decodeLatin1 (String.utf8EncodeChar c) = [c] := by
  refine decodeLatin1_ascii ?_
  simp only [Csv.isSpecial, Bool.or_eq_true, beq_iff_eq] at h
  rcases h with ((rfl | rfl) | rfl) | rfl <;> decide

theorem decodeLatin1_ne_nil (c : Char) : decodeLatin1 (String.utf8EncodeChar c) ≠ [] := by
  simp [decodeLatin1]

/-- No byte of a character that shapes no sheet is read as one that does. -/
theorem ordinary_of_mem_decodeLatin1 {c d : Char} (h : Csv.isSpecial c = false)
    (hd : d ∈ decodeLatin1 (String.utf8EncodeChar c)) : Csv.isSpecial d = false := by
  by_cases hascii : c.toNat < 0x80
  · rw [decodeLatin1_ascii hascii, List.mem_singleton] at hd
    rwa [hd]
  · obtain ⟨b, hb, rfl⟩ := List.mem_map.1 hd
    exact isSpecial_ofByte (Utf8.le_of_mem_utf8EncodeChar (by omega) hb)

/-- The characters that ISO-8859-1 reads in the UTF-8 bytes of a character. -/
def bytewise : Csv.Respelling where
  ofChar c := decodeLatin1 (String.utf8EncodeChar c)
  ofChar_of_special _ h := decodeLatin1_special h
  ofChar_ne_nil c _ := decodeLatin1_ne_nil c
  ordinary_of_mem_ofChar _ h _ hd := ordinary_of_mem_decodeLatin1 h hd

theorem bytewise_apply (text : Text) :
    bytewise.apply text = decodeLatin1 (Utf8.encode text) :=
  List.map_flatMap.symm

theorem bytewise_injective (a b : Text) (h : bytewise.apply a = bytewise.apply b) : a = b := by
  rw [bytewise_apply, bytewise_apply] at h
  exact Utf8.encode_injective (decodeLatin1_injective h)

/-- A text of ASCII is read as it is. -/
theorem bytewise_of_ascii {text : Text} (h : ∀ c ∈ text, c.toNat < 0x80) :
    bytewise.apply text = text := by
  induction text with
  | nil => rfl
  | cons c text ih =>
      rw [Csv.Respelling.apply_cons, ih fun d hd => h d (List.mem_cons_of_mem _ hd)]
      show decodeLatin1 (String.utf8EncodeChar c) ++ text = c :: text
      rw [decodeLatin1_ascii (h c (by simp))]
      rfl

/-- The number of a repeated name is read as it is. -/
theorem bytewise_suffixed (name : Text) (k : Nat) :
    bytewise.apply (Csv.suffixed name k) = Csv.suffixed (bytewise.apply name) k := by
  have hnumber : bytewise.apply ('.' :: natText k) = '.' :: natText k := by
    refine bytewise_of_ascii fun c hc => ?_
    rcases List.mem_cons.1 hc with rfl | hdigit
    · decide
    · have hrange := isDigit_of_mem_natText hdigit
      simp only [Char.isDigit, Bool.and_eq_true, decide_eq_true_eq,
        UInt32.le_iff_toNat_le] at hrange
      exact Nat.lt_of_le_of_lt hrange.2 (by decide)
  rw [Csv.suffixed, Csv.Respelling.apply_append, hnumber]
  rfl

end Encoding

/-! ## One shape in both encodings -/

namespace Csv.Sheet

/-- The sheet that ISO-8859-1 finds in UTF-8 bytes. -/
theorem read_decodeLatin1 (text : Text) :
    Sheet.read (Encoding.decodeLatin1 (Utf8.encode text)) =
      (Sheet.read text).map (Sheet.respell Encoding.bytewise) := by
  rw [← Encoding.bytewise_apply]
  exact read_respell _ Encoding.bytewise_injective Encoding.bytewise_suffixed text

/-- The UTF-8 bytes of a text that does not begin with a byte-order mark hold a sheet in
ISO-8859-1 exactly if they do in UTF-8.  Both sheets skip as many records and have as many
rows, with absent cells in the same places; and every name, those of repetitions included,
and every cell of one is what ISO-8859-1 reads in the UTF-8 bytes of that of the other. -/
theorem same_shape_in_latin1 {text : Text} (h : text.head? ≠ some Encoding.byteOrderMark) :
    let bytes := Utf8.encode text
    let reading := fun value => Encoding.decodeLatin1 (Utf8.encode value)
    Encoding.utf8.decode bytes = .ok text ∧
    Encoding.latin1.decode bytes = .ok (reading text) ∧
    ((∃ sheet, Sheet.read (reading text) = .ok sheet) ↔ ∃ sheet, Sheet.read text = .ok sheet) ∧
    ∀ sheet, Sheet.read text = .ok sheet → ∃ other, Sheet.read (reading text) = .ok other ∧
      other.skipped = sheet.skipped ∧
      other.rows.length = sheet.rows.length ∧
      other.rows.map (fun row => row.map Option.isNone) =
        sheet.rows.map (fun row => row.map Option.isNone) ∧
      other.header = sheet.header.map reading ∧
      other.rows = sheet.rows.map fun row => row.map fun cell => cell.map reading := by
  intro bytes reading
  have hread : Sheet.read (reading text) =
      (Sheet.read text).map (Sheet.respell Encoding.bytewise) :=
    read_decodeLatin1 text
  have hreading : Encoding.bytewise.apply = reading := funext Encoding.bytewise_apply
  refine ⟨Encoding.decode_utf8_encode h, rfl, ?_, fun sheet hsheet => ?_⟩
  · rw [hread]
    cases Sheet.read text <;> simp [Except.map]
  · rw [hsheet] at hread
    refine ⟨_, hread, rfl, List.length_map _, ?_, ?_, ?_⟩
    · simp [respell, Function.comp_def]
    · rw [← hreading]
      rfl
    · rw [← hreading]
      rfl

/-- A name that is repeated with an accent, a quoted name with a line feed and a quote, a short
record, a long one and one that is never closed. -/
theorem same_shape_in_latin1_accents :
    let text := "ñ,\"a\n€\"\"\",ñ\r\nü\n1,2,3,4\n,é,\"\"\n\"ö".toList
    text.head? ≠ some Encoding.byteOrderMark ∧
    Sheet.read text = .ok
      { header := ["ñ".toList, "a\n€\"".toList, "ñ.1".toList]
        rows := [[some "ü".toList, none, none], [some [], some "é".toList, some []]]
        skipped := 2 } ∧
    Encoding.latin1.decode (Utf8.encode text) =
      .ok (Encoding.decodeLatin1 (Utf8.encode text)) ∧
    Sheet.read (Encoding.decodeLatin1 (Utf8.encode text)) = .ok
      { header := ["Ã±".toList, "a\nâ\x82¬\"".toList, "Ã±.1".toList]
        rows := [[some "Ã¼".toList, none, none], [some [], some "Ã©".toList, some []]]
        skipped := 2 } := by
  intro text
  have hmark : text.head? ≠ some Encoding.byteOrderMark := by decide
  obtain ⟨-, hlatin1, -, hsheets⟩ := same_shape_in_latin1 hmark
  have hread : Sheet.read text = .ok
      { header := ["ñ".toList, "a\n€\"".toList, "ñ.1".toList]
        rows := [[some "ü".toList, none, none], [some [], some "é".toList, some []]]
        skipped := 2 } := rfl
  obtain ⟨⟨header, rows, skipped⟩, hother, rfl, -, -, rfl, rfl⟩ := hsheets _ hread
  exact ⟨hmark, hread, hlatin1, hother.trans (congrArg Except.ok (by decide +kernel))⟩

end Csv.Sheet

end RiskTally
