import RiskTally.Text.Utf8

/-!
# Text encodings

The encodings that a file may be read in. UTF-8 refuses ill-formed bytes and drops one
byte-order mark at the start; in ISO-8859-1 every byte is the character of its own code.

## Main results

* `Encoding.length_decodeLatin1`, `Encoding.decodeLatin1_injective`: ISO-8859-1 loses nothing.
-/

namespace RiskTally

/-- An encoding in which a file may be read. -/
inductive Encoding where
  | utf8
  | latin1
  deriving DecidableEq, Repr

namespace Encoding

/-- The registered name of the encoding. -/
def name : Encoding → Text
  | utf8 => "UTF-8".toList
  | latin1 => "ISO-8859-1".toList

/-- The mark that some programs write before the text of a file. -/
def byteOrderMark : Char := '\uFEFF'

/-- The text without one byte-order mark at its start. -/
def dropMark : Text → Text
  | [] => []
  | c :: text => if c = byteOrderMark then text else c :: text

/-- Every byte as the character of its own code. -/
def decodeLatin1 (bytes : Bytes) : Text :=
  bytes.map fun b => Char.ofNat b.toNat

/-- The text that bytes hold in an encoding. -/
def decode (encoding : Encoding) (bytes : Bytes) : Except Utf8.Fault Text :=
  match encoding with
  | utf8 => (Utf8.decode bytes).map dropMark
  | latin1 => .ok (decodeLatin1 bytes)

theorem length_decodeLatin1 (bytes : Bytes) : (decodeLatin1 bytes).length = bytes.length := by
  simp [decodeLatin1]

/-- A byte is the code of its character. -/
theorem toNat_ofByte (b : UInt8) : (Char.ofNat b.toNat).toNat = b.toNat := by
  have : b.toNat < 256 := b.toNat_lt
  rw [Char.ofNat, dif_pos (Or.inl (by omega))]
  rfl

theorem decodeLatin1_injective {a b : Bytes} (h : decodeLatin1 a = decodeLatin1 b) : a = b := by
  refine (List.map_inj_right fun x y hxy => ?_).1 h
  have := congrArg Char.toNat hxy
  simp only [toNat_ofByte] at this
  exact UInt8.toNat_inj.1 this

end Encoding

end RiskTally
