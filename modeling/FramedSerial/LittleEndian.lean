/-!
# Bytes and little-endian words

Everything that travels on a serial line is a list of bytes. The two words that a
frame header needs are split and joined here through natural numbers rather than
through shifts and masks: division and remainder by 256 are what `omega` can reason
about, so the round trips below need no bit-level argument.
-/

namespace FramedSerial

/-- A stretch of bytes, the first one first. -/
abbrev Bytes := List UInt8

namespace LittleEndian

/-- The two bytes of a 16-bit word, the low one first. -/
def ofUInt16 (w : UInt16) : Bytes :=
  [UInt8.ofNat w.toNat, UInt8.ofNat (w.toNat / 256)]

/-- The 16-bit word whose low byte is `b0`. -/
def toUInt16 (b0 b1 : UInt8) : UInt16 :=
  UInt16.ofNat (b0.toNat + 256 * b1.toNat)

/-- The four bytes of a 32-bit word, the lowest one first. -/
def ofUInt32 (w : UInt32) : Bytes :=
  [UInt8.ofNat w.toNat, UInt8.ofNat (w.toNat / 256), UInt8.ofNat (w.toNat / 65536),
    UInt8.ofNat (w.toNat / 16777216)]

/-- The 32-bit word whose lowest byte is `b0`. -/
def toUInt32 (b0 b1 b2 b3 : UInt8) : UInt32 :=
  UInt32.ofNat (b0.toNat + 256 * b1.toNat + 65536 * b2.toNat + 16777216 * b3.toNat)

@[simp] theorem length_ofUInt16 (w : UInt16) : (ofUInt16 w).length = 2 := rfl

@[simp] theorem length_ofUInt32 (w : UInt32) : (ofUInt32 w).length = 4 := rfl

theorem toNat_toUInt16 (b0 b1 : UInt8) : (toUInt16 b0 b1).toNat = b0.toNat + 256 * b1.toNat := by
  have h0 := b0.toNat_lt
  have h1 := b1.toNat_lt
  simp only [toUInt16, UInt16.toNat_ofNat']
  omega

theorem toNat_toUInt32 (b0 b1 b2 b3 : UInt8) :
    (toUInt32 b0 b1 b2 b3).toNat
      = b0.toNat + 256 * b1.toNat + 65536 * b2.toNat + 16777216 * b3.toNat := by
  have h0 := b0.toNat_lt
  have h1 := b1.toNat_lt
  have h2 := b2.toNat_lt
  have h3 := b3.toNat_lt
  simp only [toUInt32, UInt32.toNat_ofNat']
  omega

/-- Joining the bytes of a word gives the word back. -/
theorem toUInt16_ofUInt16 (w : UInt16) :
    toUInt16 (UInt8.ofNat w.toNat) (UInt8.ofNat (w.toNat / 256)) = w := by
  have h := w.toNat_lt
  apply UInt16.toNat_inj.1
  rw [toNat_toUInt16]
  simp only [UInt8.toNat_ofNat']
  omega

theorem ofUInt16_injective {v w : UInt16} (h : ofUInt16 v = ofUInt16 w) : v = w := by
  simp only [ofUInt16, List.cons.injEq, and_true] at h
  rw [← toUInt16_ofUInt16 v, h.1, h.2, toUInt16_ofUInt16]

/-- Splitting a joined word gives its bytes back. -/
theorem ofUInt16_toUInt16 (b0 b1 : UInt8) : ofUInt16 (toUInt16 b0 b1) = [b0, b1] := by
  have h0 := b0.toNat_lt
  have h1 := b1.toNat_lt
  simp only [ofUInt16, toNat_toUInt16, List.cons.injEq, and_true]
  constructor <;> apply UInt8.toNat_inj.1 <;> simp only [UInt8.toNat_ofNat'] <;> omega

/-- Splitting a joined 32-bit word gives its bytes back, so a word is read from exactly one
sequence of bytes. -/
theorem ofUInt32_toUInt32 (b0 b1 b2 b3 : UInt8) :
    ofUInt32 (toUInt32 b0 b1 b2 b3) = [b0, b1, b2, b3] := by
  have h0 := b0.toNat_lt
  have h1 := b1.toNat_lt
  have h2 := b2.toNat_lt
  have h3 := b3.toNat_lt
  simp only [ofUInt32, toNat_toUInt32, List.cons.injEq, and_true]
  refine ⟨?_, ?_, ?_, ?_⟩ <;> apply UInt8.toNat_inj.1 <;>
    simp only [UInt8.toNat_ofNat'] <;> omega

end LittleEndian

end FramedSerial
