import Mathlib.Data.Set.Function
import RiskTally.Proofs.EncodingFallback

/-!
# What bytes say in each encoding

The reader of UTF-8 accepts nothing but the bytes of texts: from the bytes that it has taken
for a character, the range of each of them says that they are the bytes of that character in
shortest form.  So UTF-8 bytes say one text, and only a byte-order mark, which is dropped once,
can make two of them say the same.  In ISO-8859-1 all bytes say a text, each byte one of the
first 256 characters.

## Main results

* `Utf8.exists_char_of_cons`: the bytes that were taken for a character are its bytes.
* `Utf8.decode_eq_ok_iff`: the reader accepts the bytes of a text and nothing else.
* `Utf8.length_encode_eq_iff`: only the characters of ASCII have one byte each.
* `Encoding.decode_utf8_eq_ok_iff`: one byte-order mark is dropped.
* `Encoding.bijOn_decodeLatin1`: bytes are the texts of the first 256 characters.
* `Encoding.decodes_exactly`: the two encodings, and where they agree.
-/

namespace RiskTally

namespace Utf8

/-! ## The bytes that make up a character -/

theorem val_ofNat {v : Nat} (h : v < 0xD800 ∨ 0xDFFF < v ∧ v < 0x110000) :
    (Char.ofNat v).val.toNat = v := by
  rw [Char.ofNat, dif_pos h]
  rfl

theorem eq_ofNat {byte : UInt8} {n : Nat} (h : byte.toNat = n) : byte = UInt8.ofNat n := by
  rw [← h, UInt8.ofNat_toNat]

/-- A byte that was owed was there and in range, and its six bits were added. -/
theorem exists_bits_of_decodeFrom {index : Nat} {char : Unfinished} {before text : Text}
    {bytes : Bytes} (hlow : 0x80 ≤ char.low)
    (h : decodeFrom index (some char) before bytes = .ok text) :
    ∃ bits rest, bytes = UInt8.ofNat (bits + 128) :: rest ∧ char.low ≤ bits + 128 ∧
      bits + 128 ≤ char.high ∧
      (if char.owed ≤ 1 then
        decodeFrom (index + 1) none (Char.ofNat (64 * char.value + bits) :: before) rest
      else
        decodeFrom (index + 1) (some ⟨char.start, char.read + 1, 64 * char.value + bits,
          char.owed - 1, 0x80, 0xBF⟩) before rest) = .ok text := by
  cases bytes with
  | nil => exact absurd h (by simp [decodeFrom])
  | cons byte rest =>
      rw [decodeFrom] at h
      split at h
      · rename_i hrange
        refine ⟨byte.toNat - 128, rest, ?_, by omega, by omega, h⟩
        rw [← eq_ofNat (show byte.toNat = byte.toNat - 128 + 128 by omega)]
      · exact absurd h (by simp)

section Lead

variable {index : Nat} {byte : UInt8} {before text : Text} {rest : Bytes}

/-- A lead byte of two was followed by the other one. -/
theorem exists_char_of_two (hlead : 0xC2 ≤ byte.toNat) (hlead' : byte.toNat ≤ 0xDF)
    (h : decodeFrom (index + 1) (some ⟨index, 1, byte.toNat - 0xC0, 1, 0x80, 0xBF⟩) before rest =
      .ok text) :
    ∃ c rest', byte :: rest = String.utf8EncodeChar c ++ rest' ∧
      ∃ next, decodeFrom next none (c :: before) rest' = .ok text := by
  obtain ⟨bits, rest, rfl, hlow, hhigh, hnext⟩ := exists_bits_of_decodeFrom (by simp) h
  simp only at hlow hhigh hnext
  obtain ⟨v, hv⟩ : ∃ v, v = 64 * (byte.toNat - 0xC0) + bits := ⟨_, rfl⟩
  rw [if_pos (by simp), ← hv] at hnext
  refine ⟨Char.ofNat v, rest, ?_, _, hnext⟩
  unfold String.utf8EncodeChar
  rw [val_ofNat (by omega)]
  dsimp only
  rw [if_neg (by omega), if_pos (by omega), eq_ofNat (show byte.toNat = v / 64 % 32 + 192 by omega),
    show v % 64 = bits by omega]
  rfl

/-- A lead byte of three was followed by the other two.  The range of the second keeps the
character out of the surrogates and of those of two bytes. -/
theorem exists_char_of_three {low high : Nat} (hlead : 0xE0 ≤ byte.toNat)
    (hlead' : byte.toNat ≤ 0xEF) (hlow : low = if byte.toNat = 0xE0 then 0xA0 else 0x80)
    (hhigh : high = if byte.toNat = 0xED then 0x9F else 0xBF)
    (h : decodeFrom (index + 1) (some ⟨index, 1, byte.toNat - 0xE0, 2, low, high⟩) before rest =
      .ok text) :
    ∃ c rest', byte :: rest = String.utf8EncodeChar c ++ rest' ∧
      ∃ next, decodeFrom next none (c :: before) rest' = .ok text := by
  have hrange : 0x80 ≤ low ∧ high ≤ 0xBF := by
    constructor
    · rw [hlow]
      split <;> omega
    · rw [hhigh]
      split <;> omega
  obtain ⟨second, rest, rfl, hlow₂, hhigh₂, hnext⟩ := exists_bits_of_decodeFrom hrange.1 h
  simp only at hlow₂ hhigh₂ hnext
  rw [if_neg (by simp)] at hnext
  obtain ⟨third, rest, rfl, hlow₃, hhigh₃, hnext⟩ := exists_bits_of_decodeFrom (by simp) hnext
  simp only at hlow₃ hhigh₃ hnext
  obtain ⟨v, hv⟩ : ∃ v, v = 64 * (64 * (byte.toNat - 0xE0) + second) + third := ⟨_, rfl⟩
  rw [if_pos (by simp), ← hv] at hnext
  have hshortest : 0x800 ≤ v := by
    split at hlow <;> omega
  have hvalid : v < 0xD800 ∨ 0xDFFF < v ∧ v < 0x110000 := by
    split at hhigh <;> omega
  refine ⟨Char.ofNat v, rest, ?_, _, hnext⟩
  unfold String.utf8EncodeChar
  rw [val_ofNat hvalid]
  dsimp only
  rw [if_neg (by omega), if_neg (by omega), if_pos (by omega),
    eq_ofNat (show byte.toNat = v / 4096 % 16 + 224 by omega),
    show v / 64 % 64 = second by omega, show v % 64 = third by omega]
  rfl

/-- A lead byte of four was followed by the other three.  The range of the second keeps the
character above those of three bytes and below the end. -/
theorem exists_char_of_four {low high : Nat} (hlead : 0xF0 ≤ byte.toNat)
    (hlead' : byte.toNat ≤ 0xF4) (hlow : low = if byte.toNat = 0xF0 then 0x90 else 0x80)
    (hhigh : high = if byte.toNat = 0xF4 then 0x8F else 0xBF)
    (h : decodeFrom (index + 1) (some ⟨index, 1, byte.toNat - 0xF0, 3, low, high⟩) before rest =
      .ok text) :
    ∃ c rest', byte :: rest = String.utf8EncodeChar c ++ rest' ∧
      ∃ next, decodeFrom next none (c :: before) rest' = .ok text := by
  have hrange : 0x80 ≤ low ∧ high ≤ 0xBF := by
    constructor
    · rw [hlow]
      split <;> omega
    · rw [hhigh]
      split <;> omega
  obtain ⟨second, rest, rfl, hlow₂, hhigh₂, hnext⟩ := exists_bits_of_decodeFrom hrange.1 h
  simp only at hlow₂ hhigh₂ hnext
  rw [if_neg (by simp)] at hnext
  obtain ⟨third, rest, rfl, hlow₃, hhigh₃, hnext⟩ := exists_bits_of_decodeFrom (by simp) hnext
  simp only at hlow₃ hhigh₃ hnext
  rw [if_neg (by simp)] at hnext
  obtain ⟨fourth, rest, rfl, hlow₄, hhigh₄, hnext⟩ := exists_bits_of_decodeFrom (by simp) hnext
  simp only at hlow₄ hhigh₄ hnext
  obtain ⟨v, hv⟩ : ∃ v, v = 64 * (64 * (64 * (byte.toNat - 0xF0) + second) + third) + fourth :=
    ⟨_, rfl⟩
  rw [if_pos (by simp), ← hv] at hnext
  have hshortest : 0x10000 ≤ v := by
    split at hlow <;> omega
  have hlast : v < 0x110000 := by
    split at hhigh <;> omega
  refine ⟨Char.ofNat v, rest, ?_, _, hnext⟩
  unfold String.utf8EncodeChar
  rw [val_ofNat (by omega)]
  dsimp only
  rw [if_neg (by omega), if_neg (by omega), if_neg (by omega),
    eq_ofNat (show byte.toNat = v / 262144 % 8 + 240 by omega),
    show v / 4096 % 64 = second by omega, show v / 64 % 64 = third by omega,
    show v % 64 = fourth by omega]
  rfl

/-- Whatever is read between characters begins with the bytes of a character. -/
theorem exists_char_of_cons (h : decodeFrom index none before (byte :: rest) = .ok text) :
    ∃ c rest', byte :: rest = String.utf8EncodeChar c ++ rest' ∧
      ∃ next, decodeFrom next none (c :: before) rest' = .ok text := by
  rw [decodeFrom] at h
  split at h
  · rename_i hascii
    have hcode := Encoding.toNat_ofByte byte
    refine ⟨Char.ofNat byte.toNat, rest, ?_, _, h⟩
    rw [utf8EncodeChar_of_ascii (by omega), hcode, UInt8.ofNat_toNat]
    rfl
  · split at h
    · rename_i char hchar
      unfold lead? at hchar
      dsimp only at hchar
      split at hchar
      · rename_i htwo
        obtain rfl := Option.some.inj hchar
        exact exists_char_of_two htwo.1 htwo.2 h
      · split at hchar
        · rename_i hthree
          obtain rfl := Option.some.inj hchar
          exact exists_char_of_three hthree.1 hthree.2 rfl rfl h
        · split at hchar
          · rename_i hfour
            obtain rfl := Option.some.inj hchar
            exact exists_char_of_four hfour.1 hfour.2 rfl rfl h
          · exact absurd hchar (by simp)
    · exact absurd h (by simp)

end Lead

/-! ## The bytes that make up a text -/

theorem encode_cons (c : Char) (text : Text) :
    encode (c :: text) = String.utf8EncodeChar c ++ encode text :=
  List.flatMap_cons

/-- What was read is what the bytes are the bytes of. -/
theorem encode_of_decodeFrom {index : Nat} {before text : Text} {bytes : Bytes}
    (h : decodeFrom index none before bytes = .ok text) :
    ∃ tail, text = before.reverse ++ tail ∧ encode tail = bytes := by
  -- The bytes get fewer by a whole character, so the induction is on how many there are.
  obtain ⟨n, hn⟩ : ∃ n, bytes.length = n := ⟨_, rfl⟩
  induction n using Nat.strongRecOn generalizing index before bytes with
  | _ n ih =>
      cases bytes with
      | nil =>
          rw [decodeFrom] at h
          exact ⟨[], by simpa using (Except.ok.inj h).symm, rfl⟩
      | cons byte rest =>
          obtain ⟨c, rest', hbytes, next, hrest⟩ := exists_char_of_cons h
          have hlength := congrArg List.length hbytes
          have hpos := c.utf8Size_pos
          rw [List.length_append, String.length_utf8EncodeChar] at hlength
          obtain ⟨tail, rfl, rfl⟩ := ih rest'.length (by omega) hrest rfl
          exact ⟨c :: tail, by simp, by rw [hbytes, encode_cons]⟩

/-- The reader accepts the bytes of a text and nothing else. -/
theorem decode_eq_ok_iff {bytes : Bytes} {text : Text} :
    decode bytes = .ok text ↔ bytes = encode text := by
  constructor
  · intro h
    obtain ⟨tail, rfl, rfl⟩ := encode_of_decodeFrom h
    rfl
  · rintro rfl
    exact decode_encode text

/-- A character has at least one byte, and only those of ASCII have one. -/
theorem length_encode_eq_iff (text : Text) :
    text.length ≤ (encode text).length ∧
      ((encode text).length = text.length ↔ ∀ c ∈ text, c.toNat < 0x80) := by
  induction text with
  | nil => simp [encode]
  | cons c text ih =>
      have hpos := c.utf8Size_pos
      have hone : c.utf8Size = 1 ↔ c.toNat < 0x80 := by
        rw [Char.utf8Size_eq_one_iff, UInt32.le_iff_toNat_le, ← Nat.lt_succ_iff]
        rfl
      rw [encode_cons, List.length_append, String.length_utf8EncodeChar, List.length_cons,
        List.forall_mem_cons, ← ih.2, ← hone]
      omega

end Utf8

/-! ## Texts and bytes -/

namespace Encoding

theorem dropMark_eq (text : Text) :
    dropMark text = if text.head? = some byteOrderMark then text.tail else text := by
  cases text with
  | nil => rfl
  | cons c text => simp [dropMark]

/-- UTF-8 bytes say the text that they are the bytes of, without one byte-order mark. -/
theorem decode_utf8_eq_ok_iff {bytes : Bytes} {text : Text} :
    utf8.decode bytes = .ok text ↔ ∃ whole, bytes = Utf8.encode whole ∧ dropMark whole = text := by
  rw [decode]
  cases hdecode : Utf8.decode bytes with
  | ok whole =>
      obtain rfl := Utf8.decode_eq_ok_iff.1 hdecode
      constructor
      · intro h
        exact ⟨whole, rfl, Except.ok.inj h⟩
      · rintro ⟨other, hother, rfl⟩
        rw [Utf8.encode_injective hother]
        rfl
  | error fault =>
      constructor
      · intro h
        exact absurd h (by simp [Except.map])
      · rintro ⟨whole, rfl, -⟩
        rw [Utf8.decode_encode] at hdecode
        exact absurd hdecode (by simp)

/-- Bytes are the texts of the first 256 characters. -/
theorem bijOn_decodeLatin1 :
    Set.BijOn decodeLatin1 Set.univ {text | ∀ c ∈ text, c.toNat ≤ 0xFF} := by
  refine ⟨fun bytes _ c hc => ?_, fun a _ b _ h => decodeLatin1_injective h, fun text htext => ?_⟩
  · obtain ⟨b, -, rfl⟩ := List.mem_map.1 hc
    have hbyte := b.toNat_lt
    rw [toNat_ofByte]
    omega
  · refine ⟨text.map fun c => UInt8.ofNat c.toNat, Set.mem_univ _, ?_⟩
    rw [decodeLatin1, List.map_map]
    refine (List.map_congr_left fun c hc => ?_).trans (List.map_id text)
    rw [Function.comp_apply, Utf8.toNat_ofNat_of_le (htext c hc), Char.ofNat_toNat, id]

/-- Different bytes say one text only through a byte-order mark in front of one of them. -/
theorem marked_of_decode_eq {bytes other : Bytes} {text : Text} (hne : bytes ≠ other)
    (h : utf8.decode bytes = .ok text) (h' : utf8.decode other = .ok text) :
    bytes = Utf8.encode [byteOrderMark] ++ other ∨
      other = Utf8.encode [byteOrderMark] ++ bytes := by
  obtain ⟨left, rfl, hleft⟩ := decode_utf8_eq_ok_iff.1 h
  obtain ⟨right, rfl, hright⟩ := decode_utf8_eq_ok_iff.1 h'
  have hmark : ∀ rest, Utf8.encode (byteOrderMark :: rest) =
      Utf8.encode [byteOrderMark] ++ Utf8.encode rest := fun rest => by
    rw [Utf8.encode_cons, Utf8.encode_cons, List.append_assoc]
    rfl
  by_cases hplain : dropMark left = left
  · by_cases hplain' : dropMark right = right
    · rw [← hplain, ← hplain', hleft, hright] at hne
      exact absurd rfl hne
    · right
      rw [eq_cons_of_dropMark_ne hplain', hright, ← hleft, hplain, hmark]
  · by_cases hplain' : dropMark right = right
    · left
      rw [eq_cons_of_dropMark_ne hplain, hleft, ← hright, hplain', hmark]
    · rw [eq_cons_of_dropMark_ne hplain, eq_cons_of_dropMark_ne hplain', hleft, hright] at hne
      exact absurd rfl hne

theorem length_dropMark_le (text : Text) : (dropMark text).length ≤ text.length := by
  rw [dropMark_eq]
  split
  · rw [List.length_tail]
    omega
  · exact Nat.le_refl _

/-- The two encodings say the same of ASCII only. -/
theorem decode_utf8_eq_latin1_iff {bytes : Bytes} :
    utf8.decode bytes = latin1.decode bytes ↔ ∀ b ∈ bytes, b.toNat < 0x80 := by
  constructor
  · intro h
    obtain ⟨whole, rfl, hwhole⟩ := decode_utf8_eq_ok_iff.1 h
    -- ISO-8859-1 finds as many characters as there are bytes, so that in UTF-8 none has more.
    have hdropped := length_dropMark_le whole
    have hleast := Utf8.length_encode_eq_iff whole
    rw [hwhole, length_decodeLatin1] at hdropped
    have hascii := hleast.2.1 (Nat.le_antisymm hdropped hleast.1)
    intro b hb
    obtain ⟨c, hc, hbyte⟩ := List.mem_flatMap.1 hb
    have hcode := hascii c hc
    rw [Utf8.utf8EncodeChar_of_ascii hcode, List.mem_singleton] at hbyte
    rwa [hbyte, Utf8.toNat_ofNat_of_le (by omega)]
  · intro h
    have hfirst : (decodeLatin1 bytes).head? ≠ some byteOrderMark := by
      intro hmark
      obtain ⟨b, hb, hcode⟩ := List.mem_map.1 (List.mem_of_head? hmark)
      have hsmall := h b hb
      have hlarge := congrArg Char.toNat hcode
      rw [toNat_ofByte] at hlarge
      have hmark : byteOrderMark.toNat = 0xFEFF := rfl
      omega
    have hdecode : Utf8.decode bytes = .ok (decodeLatin1 bytes) := Utf8.decode_ascii h
    rw [decode, decode, hdecode]
    exact congrArg Except.ok (dropMark_eq_self hfirst)

/-- In UTF-8 the bytes of a text say that text, without one byte-order mark if it begins with
one, and all other bytes are refused; so different bytes say one text only if one of them is
the other one with the mark in front.  In ISO-8859-1 all bytes say a text, one character for
each byte, and that is a bijection onto the texts of the first 256 characters.  The two
encodings agree on ASCII and on nothing else. -/
theorem decodes_exactly (bytes : Bytes) :
    (∀ text, bytes = Utf8.encode text → utf8.decode bytes =
      .ok (if text.head? = some byteOrderMark then text.tail else text)) ∧
    ((∃ fault, utf8.decode bytes = .error fault) ↔ ¬ ∃ text, bytes = Utf8.encode text) ∧
    (∀ other text, bytes ≠ other → utf8.decode bytes = .ok text → utf8.decode other = .ok text →
      bytes = Utf8.encode [byteOrderMark] ++ other ∨
        other = Utf8.encode [byteOrderMark] ++ bytes) ∧
    latin1.decode bytes = .ok (decodeLatin1 bytes) ∧
    (decodeLatin1 bytes).length = bytes.length ∧
    Set.BijOn decodeLatin1 Set.univ {text | ∀ c ∈ text, c.toNat ≤ 0xFF} ∧
    (utf8.decode bytes = latin1.decode bytes ↔ ∀ b ∈ bytes, b.toNat < 0x80) := by
  refine ⟨fun text htext => ?_, ?_, fun other text => marked_of_decode_eq, rfl,
    length_decodeLatin1 bytes, bijOn_decodeLatin1, decode_utf8_eq_latin1_iff⟩
  · rw [← dropMark_eq, decode_utf8_eq_ok_iff]
    exact ⟨text, htext, rfl⟩
  · constructor
    · rintro ⟨fault, hfault⟩ ⟨text, htext⟩
      have hok : utf8.decode bytes = .ok (dropMark text) :=
        decode_utf8_eq_ok_iff.2 ⟨text, htext, rfl⟩
      rw [hfault] at hok
      exact absurd hok (by simp)
    · intro hnone
      cases hdecode : utf8.decode bytes with
      | error fault => exact ⟨fault, rfl⟩
      | ok text =>
          obtain ⟨whole, hwhole, -⟩ := decode_utf8_eq_ok_iff.1 hdecode
          exact absurd ⟨whole, hwhole⟩ hnone

/-- The two bytes of one letter, with a byte-order mark in front and without one. -/
theorem decodes_exactly_marked_letter :
    ∃ (bytes other : Bytes) (text : Text), bytes = [0xEF, 0xBB, 0xBF, 0xC3, 0xB1] ∧
      bytes = Utf8.encode (byteOrderMark :: text) ∧ bytes ≠ other ∧
      utf8.decode bytes = .ok text ∧ utf8.decode other = .ok text ∧
      bytes = Utf8.encode [byteOrderMark] ++ other ∧
      utf8.decode bytes ≠ latin1.decode bytes := by
  let bytes : Bytes := [0xEF, 0xBB, 0xBF, 0xC3, 0xB1]
  let other : Bytes := [0xC3, 0xB1]
  have hbytes : bytes = Utf8.encode [byteOrderMark, 'ñ'] := by decide +kernel
  have hother : other = Utf8.encode ['ñ'] := by decide +kernel
  have hne : bytes ≠ other := by decide
  obtain ⟨htext, -, hmarked, -, -, -, hagree⟩ := decodes_exactly bytes
  have hletter : utf8.decode bytes = .ok ['ñ'] := htext _ hbytes
  have hletter' : utf8.decode other = .ok ['ñ'] := (decodes_exactly other).1 _ hother
  have hfront : ¬ other = Utf8.encode [byteOrderMark] ++ bytes := by decide +kernel
  refine ⟨bytes, other, ['ñ'], rfl, hbytes, hne, hletter, hletter',
    (hmarked other _ hne hletter hletter').resolve_right hfront, fun hsame => ?_⟩
  exact absurd (hagree.1 hsame 0xEF (by simp [bytes])) (by decide)

end Encoding

end RiskTally
