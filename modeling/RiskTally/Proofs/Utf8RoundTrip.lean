import RiskTally.Text.Utf8

/-!
# Texts come back from their bytes

The bytes of a character are a lead byte, which says how many follow, and that many
bytes of six bits each.  The reader takes them one at a time; the range of the byte after
the lead is what the bits of a character in shortest form leave to it.

## Main results

* `Utf8.decodeFrom_utf8EncodeChar`: the reader takes the bytes of a character as that
  character.
* `Utf8.decode_encode`: a text is read back from its bytes.
-/

namespace RiskTally.Utf8

/-! ## One byte -/

theorem toNat_ofNat_of_le {n : Nat} (h : n ≤ 0xFF) : (UInt8.ofNat n).toNat = n :=
  UInt8.toNat_ofNat_of_lt' (Nat.lt_of_le_of_lt h (by decide))

/-- A lead byte opens a character. -/
theorem decodeFrom_lead {index byte : Nat} {char : Unfinished} (hlow : 0x80 ≤ byte)
    (hhigh : byte ≤ 0xFF) (hchar : lead? index byte = some char) (before : Text)
    (rest : Bytes) :
    decodeFrom index none before (UInt8.ofNat byte :: rest) =
      decodeFrom (index + 1) (some char) before rest := by
  rw [decodeFrom, toNat_ofNat_of_le hhigh, if_neg (by omega), hchar]

/-- A byte in range, after which others are owed, adds its six bits. -/
theorem decodeFrom_middle {bits low high : Nat} (hbits : bits < 64) (hlow : low ≤ bits + 128)
    (hhigh : bits + 128 ≤ high) (index start read value owed : Nat) (before : Text)
    (rest : Bytes) :
    decodeFrom index (some ⟨start, read, value, owed + 2, low, high⟩) before
        (UInt8.ofNat (bits + 128) :: rest) =
      decodeFrom (index + 1) (some ⟨start, read + 1, 64 * value + bits, owed + 1, 0x80, 0xBF⟩)
        before rest := by
  rw [decodeFrom, toNat_ofNat_of_le (by omega), if_pos ⟨hlow, hhigh⟩, Nat.add_sub_cancel]
  exact if_neg (show ¬ owed + 2 ≤ 1 by omega)

/-- The byte in range that was owed last ends the character. -/
theorem decodeFrom_last {bits low high : Nat} (hbits : bits < 64) (hlow : low ≤ bits + 128)
    (hhigh : bits + 128 ≤ high) (index start read value : Nat) (before : Text) (rest : Bytes) :
    decodeFrom index (some ⟨start, read, value, 1, low, high⟩) before
        (UInt8.ofNat (bits + 128) :: rest) =
      decodeFrom (index + 1) none (Char.ofNat (64 * value + bits) :: before) rest := by
  rw [decodeFrom, toNat_ofNat_of_le (by omega), if_pos ⟨hlow, hhigh⟩, Nat.add_sub_cancel]
  exact if_pos (Nat.le_refl 1)

/-! ## One character -/

/-- A character of two bytes. -/
theorem decodeFrom_two {v : Nat} (hlow : 0x80 ≤ v) (hhigh : v ≤ 0x7FF) (index : Nat)
    (before : Text) (rest : Bytes) :
    decodeFrom index none before
        (UInt8.ofNat (v / 64 % 32 + 192) :: UInt8.ofNat (v % 64 + 128) :: rest) =
      decodeFrom (index + 2) none (Char.ofNat v :: before) rest := by
  have hlead : lead? index (v / 64 % 32 + 192) =
      some ⟨index, 1, v / 64 % 32, 1, 0x80, 0xBF⟩ := by
    rw [lead?, if_pos (by omega), Nat.add_sub_cancel]
  have hsum : 64 * (v / 64 % 32) + v % 64 = v := by omega
  rw [decodeFrom_lead (by omega) (by omega) hlead,
    decodeFrom_last (by omega) (by omega) (by omega), hsum]

/-- A character of three bytes.  The range of the second leaves out surrogates and what two
bytes could say. -/
theorem decodeFrom_three {v : Nat} (hlow : 0x800 ≤ v) (hhigh : v ≤ 0xFFFF)
    (hvalid : v < 0xD800 ∨ 0xDFFF < v) (index : Nat) (before : Text) (rest : Bytes) :
    decodeFrom index none before
        (UInt8.ofNat (v / 4096 % 16 + 224) :: UInt8.ofNat (v / 64 % 64 + 128) ::
          UInt8.ofNat (v % 64 + 128) :: rest) =
      decodeFrom (index + 3) none (Char.ofNat v :: before) rest := by
  obtain ⟨low, high, hlead, hsecond, hsecond'⟩ : ∃ low high,
      lead? index (v / 4096 % 16 + 224) = some ⟨index, 1, v / 4096 % 16, 2, low, high⟩ ∧
        low ≤ v / 64 % 64 + 128 ∧ v / 64 % 64 + 128 ≤ high := by
    rw [lead?, if_neg (by omega), if_pos (by omega), Nat.add_sub_cancel]
    refine ⟨_, _, rfl, ?_, ?_⟩
    · split <;> omega
    · split <;> omega
  have hsum : 64 * (64 * (v / 4096 % 16) + v / 64 % 64) + v % 64 = v := by omega
  rw [decodeFrom_lead (by omega) (by omega) hlead,
    decodeFrom_middle (by omega) hsecond hsecond',
    decodeFrom_last (by omega) (by omega) (by omega), hsum]

/-- A character of four bytes.  The range of the second leaves out what three bytes could
say and what is past the last character. -/
theorem decodeFrom_four {v : Nat} (hlow : 0x10000 ≤ v) (hhigh : v < 0x110000) (index : Nat)
    (before : Text) (rest : Bytes) :
    decodeFrom index none before
        (UInt8.ofNat (v / 262144 % 8 + 240) :: UInt8.ofNat (v / 4096 % 64 + 128) ::
          UInt8.ofNat (v / 64 % 64 + 128) :: UInt8.ofNat (v % 64 + 128) :: rest) =
      decodeFrom (index + 4) none (Char.ofNat v :: before) rest := by
  obtain ⟨low, high, hlead, hsecond, hsecond'⟩ : ∃ low high,
      lead? index (v / 262144 % 8 + 240) = some ⟨index, 1, v / 262144 % 8, 3, low, high⟩ ∧
        low ≤ v / 4096 % 64 + 128 ∧ v / 4096 % 64 + 128 ≤ high := by
    rw [lead?, if_neg (by omega), if_neg (by omega), if_pos (by omega), Nat.add_sub_cancel]
    refine ⟨_, _, rfl, ?_, ?_⟩
    · split <;> omega
    · split <;> omega
  have hsum : 64 * (64 * (64 * (v / 262144 % 8) + v / 4096 % 64) + v / 64 % 64) + v % 64 = v := by
    omega
  rw [decodeFrom_lead (by omega) (by omega) hlead,
    decodeFrom_middle (by omega) hsecond hsecond',
    decodeFrom_middle (by omega) (by omega) (by omega),
    decodeFrom_last (by omega) (by omega) (by omega), hsum]

/-- The reader takes the bytes of a character as that character. -/
theorem decodeFrom_utf8EncodeChar (index : Nat) (before : Text) (c : Char) (rest : Bytes) :
    decodeFrom index none before (String.utf8EncodeChar c ++ rest) =
      decodeFrom (index + (String.utf8EncodeChar c).length) none (c :: before) rest := by
  have hvalid : c.toNat < 0xD800 ∨ 0xDFFF < c.toNat ∧ c.toNat < 0x110000 := c.valid
  have hcode : c.val.toNat = c.toNat := rfl
  unfold String.utf8EncodeChar
  dsimp only
  by_cases hone : c.val.toNat ≤ 127
  · have hchar : Char.ofNat c.val.toNat = c := Char.ofNat_toNat c
    rw [if_pos hone, List.singleton_append, decodeFrom, toNat_ofNat_of_le (by omega),
      if_pos (by omega), hchar]
    rfl
  rw [if_neg hone]
  by_cases htwo : c.val.toNat ≤ 2047
  · have hrun := decodeFrom_two (by omega) htwo index before rest
    rw [if_pos htwo]
    rwa [hcode, Char.ofNat_toNat] at hrun
  rw [if_neg htwo]
  by_cases hthree : c.val.toNat ≤ 65535
  · have hrun := decodeFrom_three (by omega) hthree (by omega) index before rest
    rw [if_pos hthree]
    rwa [hcode, Char.ofNat_toNat] at hrun
  · have hrun := decodeFrom_four (v := c.toNat) (by omega) (by omega) index before rest
    rw [if_neg hthree]
    rwa [Char.ofNat_toNat] at hrun

/-- A text is read back from its bytes. -/
theorem decode_encode (text : Text) : decode (encode text) = .ok text := by
  have hrun : ∀ (index : Nat) (before : Text),
      decodeFrom index none before (encode text) = .ok (before.reverse ++ text) := by
    induction text with
    | nil => simp [encode, decodeFrom]
    | cons c text ih =>
        intro index before
        show decodeFrom index none before (String.utf8EncodeChar c ++ encode text) = _
        rw [decodeFrom_utf8EncodeChar, ih]
        simp
  exact hrun 0 []

end RiskTally.Utf8
