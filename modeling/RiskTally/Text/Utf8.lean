import RiskTally.Text.Basic

/-!
# UTF-8

Bytes are read one at a time. Between characters the reader holds nothing; inside a
character it holds where the character began, the bits read so far, how many bytes are
still owed and the range of the next one. That range is narrower after four of the lead
bytes, which is what excludes overlong forms, surrogates and values past U+10FFFF.

## Main results

* `Utf8.decode_ascii`: ASCII bytes are read as the characters of the same code.
* The examples at the end fix the place and length that a fault reports.
-/

namespace RiskTally

/-- The contents of a file. -/
abbrev Bytes := List UInt8

namespace Utf8

/-- Why a sequence of bytes is not UTF-8. -/
inductive Fault where
  /-- The `length` bytes from `index` on begin no character. -/
  | invalid (length index : Nat)
  /-- The character that begins at `index` is cut off by the end. -/
  | incomplete (index : Nat)
  deriving DecidableEq, Repr

/-- A character of which at least one byte is still owed. -/
structure Unfinished where
  /-- Where the character began. -/
  start : Nat
  /-- How many of its bytes have been read. -/
  read : Nat
  /-- The bits of those bytes. -/
  value : Nat
  /-- How many bytes follow. -/
  owed : Nat
  /-- The least value of the next byte. -/
  low : Nat
  /-- The greatest value of the next byte. -/
  high : Nat

/-- The character that a lead byte past ASCII begins. -/
def lead? (index byte : Nat) : Option Unfinished :=
  if 0xC2 ≤ byte ∧ byte ≤ 0xDF then some ⟨index, 1, byte - 0xC0, 1, 0x80, 0xBF⟩
  else if 0xE0 ≤ byte ∧ byte ≤ 0xEF then
    let low := if byte = 0xE0 then 0xA0 else 0x80
    let high := if byte = 0xED then 0x9F else 0xBF
    some ⟨index, 1, byte - 0xE0, 2, low, high⟩
  else if 0xF0 ≤ byte ∧ byte ≤ 0xF4 then
    let low := if byte = 0xF0 then 0x90 else 0x80
    let high := if byte = 0xF4 then 0x8F else 0xBF
    some ⟨index, 1, byte - 0xF0, 3, low, high⟩
  else none

/-- Reads on at `index`, with the characters before it in reverse. -/
def decodeFrom : (index : Nat) → Option Unfinished → (before : Text) → Bytes → Except Fault Text
  | _, none, before, [] => .ok before.reverse
  | _, some char, _, [] => .error (.incomplete char.start)
  | index, none, before, byte :: rest =>
    if byte.toNat < 0x80 then
      decodeFrom (index + 1) none (Char.ofNat byte.toNat :: before) rest
    else
      match lead? index byte.toNat with
      | some char => decodeFrom (index + 1) (some char) before rest
      | none => .error (.invalid 1 index)
  | index, some char, before, byte :: rest =>
    if char.low ≤ byte.toNat ∧ byte.toNat ≤ char.high then
      let value := 64 * char.value + (byte.toNat - 0x80)
      if char.owed ≤ 1 then decodeFrom (index + 1) none (Char.ofNat value :: before) rest
      else
        decodeFrom (index + 1)
          (some ⟨char.start, char.read + 1, value, char.owed - 1, 0x80, 0xBF⟩) before rest
    else .error (.invalid char.read char.start)

/-- The text that bytes hold in UTF-8. -/
def decode (bytes : Bytes) : Except Fault Text :=
  decodeFrom 0 none [] bytes

/-- The bytes of a text in UTF-8. -/
def encode (text : Text) : Bytes :=
  text.flatMap String.utf8EncodeChar

private theorem decodeFrom_ascii (index : Nat) (before : Text) {bytes : Bytes}
    (h : ∀ b ∈ bytes, b.toNat < 0x80) :
    decodeFrom index none before bytes =
      .ok (before.reverse ++ bytes.map fun b => Char.ofNat b.toNat) := by
  induction bytes generalizing index before with
  | nil => simp [decodeFrom]
  | cons b bytes ih =>
    rw [decodeFrom, if_pos (h b (by simp)), ih _ _ fun b hb => h b (List.mem_cons_of_mem _ hb)]
    simp

theorem decode_ascii {bytes : Bytes} (h : ∀ b ∈ bytes, b.toNat < 0x80) :
    decode bytes = .ok (bytes.map fun b => Char.ofNat b.toNat) := by
  simpa [decode] using decodeFrom_ascii 0 [] h

instance : DecidableEq (Except Fault Text)
  | .ok a, .ok b => decidable_of_iff (a = b) (by simp)
  | .error a, .error b => decidable_of_iff (a = b) (by simp)
  | .ok _, .error _ => isFalse (by simp)
  | .error _, .ok _ => isFalse (by simp)

example : decode (encode "aé€😀".toList) = .ok "aé€😀".toList := by decide +kernel
example : decode [0x61, 0xC3, 0x28] = .error (.invalid 1 1) := by decide
example : decode [0xE2, 0x82, 0x41] = .error (.invalid 2 0) := by decide
example : decode [0xF0, 0x9F, 0x98, 0x41] = .error (.invalid 3 0) := by decide
example : decode [0xED, 0xA0, 0x80] = .error (.invalid 1 0) := by decide
example : decode [0x61, 0xF0, 0x9F] = .error (.incomplete 1) := by decide
example : decode [0xFF] = .error (.invalid 1 0) := by decide

end Utf8

end RiskTally
