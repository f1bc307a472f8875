import RiskTally.Frame
import RiskTally.Proofs.BytewiseSheets

/-!
# The encoding of a UTF-8 file

Unless other encodings are set a file is tried in UTF-8 and then in ISO-8859-1, and an attempt
fails also when the text that was decoded is no sheet.  On UTF-8 bytes the second attempt is
then lost as well, because both encodings find sheets of one shape.  A byte-order mark is the
exception: UTF-8 drops it, while in ISO-8859-1 its three bytes stand before the header, where
they keep a quote from opening or are a name of their own.

## Main results

* `FileRead.ofBytes_encode`: what becomes of a UTF-8 file, told from its text alone.
* `FileRead.encoding_ne_utf8_iff`: a UTF-8 file is read in another encoding exactly if its
  byte-order mark makes a sheet of it.
* `FileRead.marked_quote_in_latin1`: a file of which this is true.
-/

namespace RiskTally

namespace Encoding

/-- A text that changes when a byte-order mark is dropped begins with one. -/
theorem eq_cons_of_dropMark_ne {text : Text} (h : dropMark text ≠ text) :
    text = byteOrderMark :: dropMark text := by
  cases text with
  | nil => exact absurd rfl h
  | cons c text =>
      by_cases hc : c = byteOrderMark
      · rw [dropMark, if_pos hc, hc]
      · exact absurd (show dropMark (c :: text) = c :: text from if_neg hc) h

end Encoding

namespace FileRead

/-- An attempt whose decoding succeeds fails only as the reading of the sheet does. -/
theorem attempt_of_decode {settings : ReadSettings} {bytes : Bytes} {encoding : Encoding}
    {text : Text} (h : encoding.decode bytes = .ok text) :
    attempt settings bytes encoding = (Csv.Sheet.read text).map fun sheet =>
      (⟨Frame.ofSheet settings sheet, encoding, sheet.skipped⟩ : FileRead) := by
  unfold attempt
  rw [h]
  dsimp only
  cases Csv.Sheet.read text <;> rfl

theorem attempt_utf8_encode (settings : ReadSettings) (text : Text) :
    attempt settings (Utf8.encode text) .utf8 =
      (Csv.Sheet.read (Encoding.dropMark text)).map fun sheet =>
        (⟨Frame.ofSheet settings sheet, .utf8, sheet.skipped⟩ : FileRead) := by
  apply attempt_of_decode
  rw [Encoding.decode, Utf8.decode_encode]
  rfl

theorem attempt_latin1_encode (settings : ReadSettings) (text : Text) :
    attempt settings (Utf8.encode text) .latin1 =
      (Csv.Sheet.read text).map fun sheet =>
        (⟨Frame.ofSheet settings (sheet.respell Encoding.bytewise), .latin1, sheet.skipped⟩ :
          FileRead) := by
  have hdecode : Encoding.latin1.decode (Utf8.encode text) =
      .ok (Encoding.decodeLatin1 (Utf8.encode text)) := rfl
  rw [attempt_of_decode hdecode, Csv.Sheet.read_decodeLatin1]
  cases Csv.Sheet.read text <;> rfl

/-- A UTF-8 file is the sheet of its text without a byte-order mark; if that is none, the
sheet of its whole text, read byte by byte; and if that is none either, the fault is that of
the whole text. -/
theorem ofBytes_encode (emptyTokens : List Text) (text : Text) :
    let settings : ReadSettings := ⟨ReadSettings.default.encodings, emptyTokens⟩
    ofBytes settings (Utf8.encode text) =
      match Csv.Sheet.read (Encoding.dropMark text), Csv.Sheet.read text with
      | .ok sheet, _ => .ok ⟨Frame.ofSheet settings sheet, .utf8, sheet.skipped⟩
      | .error _, .ok sheet =>
        .ok ⟨Frame.ofSheet settings (sheet.respell Encoding.bytewise), .latin1, sheet.skipped⟩
      | .error _, .error fault => .error fault := by
  intro settings
  show firstOf settings (Utf8.encode text) .noEncodings [.utf8, .latin1] = _
  simp only [firstOf, attempt_utf8_encode, attempt_latin1_encode]
  cases Csv.Sheet.read (Encoding.dropMark text) with
  | ok sheet => rfl
  | error fault => cases Csv.Sheet.read text <;> rfl

/-- In the encodings that are tried unless others are set, a UTF-8 file is read in another
encoding than UTF-8 exactly if it begins with a byte-order mark, is no sheet without it and is
one with it. -/
theorem encoding_ne_utf8_iff (emptyTokens : List Text) (text : Text) :
    (∃ read, ofBytes ⟨ReadSettings.default.encodings, emptyTokens⟩ (Utf8.encode text) = .ok read ∧
      read.encoding ≠ .utf8) ↔
    ∃ rest, text = Encoding.byteOrderMark :: rest ∧
      (∃ fault, Csv.Sheet.read rest = .error fault) ∧
      ∃ sheet, Csv.Sheet.read text = .ok sheet := by
  rw [ofBytes_encode]
  constructor
  · rintro ⟨read, hread, hencoding⟩
    cases hplain : Csv.Sheet.read (Encoding.dropMark text) with
    | ok sheet =>
        rw [hplain] at hread
        obtain rfl := Except.ok.inj hread
        exact absurd rfl hencoding
    | error fault =>
        cases hwhole : Csv.Sheet.read text with
        | error other =>
            rw [hplain, hwhole] at hread
            exact absurd hread (by simp)
        | ok sheet =>
            have hmark : Encoding.dropMark text ≠ text := by
              intro hsame
              rw [hsame, hwhole] at hplain
              exact absurd hplain (by simp)
            exact ⟨_, Encoding.eq_cons_of_dropMark_ne hmark, ⟨fault, hplain⟩, sheet, rfl⟩
  · rintro ⟨rest, rfl, ⟨fault, hfault⟩, sheet, hsheet⟩
    have hdrop : Encoding.dropMark (Encoding.byteOrderMark :: rest) = rest := by
      rw [Encoding.dropMark, if_pos rfl]
    rw [hdrop, hfault, hsheet]
    exact ⟨_, rfl, by simp⟩

/-- A file with a byte-order mark and an open quote in its header.  Without the mark it is
refused; with it the quote does not open, and the file is read byte by byte with the mark in
its first name. -/
theorem marked_quote_in_latin1 :
    ∃ text bytes read, Utf8.encode text = bytes ∧
      bytes = [0xEF, 0xBB, 0xBF, 0x22, 0x69, 0x64, 0x0A, 0x31, 0x0A] ∧
      ofBytes .default bytes = .ok read ∧
      read.encoding = .latin1 ∧
      read.frame.columns.keys = ["ï»¿\"id".toList] ∧
      read.frame.rows = 1 ∧
      ofBytes .default (bytes.drop 3) = .error .unterminatedHeader := by
  refine ⟨"\uFEFF\"id\n1\n".toList, _, _, rfl, ?_, rfl, rfl, ?_, ?_, rfl⟩
  · decide +kernel
  · decide +kernel
  · decide +kernel

end FileRead

end RiskTally
