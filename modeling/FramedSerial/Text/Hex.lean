import FramedSerial.LittleEndian

/-!
# Hexadecimal text

Bytes print as two small digits each. Reading them back is more liberal: digits of either
case count, and blanks and colons between them do not.
-/

namespace FramedSerial

/-- The small hexadecimal digit of a number below sixteen. -/
def hexDigit (n : Nat) : Char :=
  if n < 10 then Char.ofNat (48 + n) else Char.ofNat (87 + n)

/-- The two digits of a byte. -/
def hexPair (b : UInt8) : List Char := [hexDigit (b.toNat / 16), hexDigit (b.toNat % 16)]

/-- The digits of bytes, two each. -/
def hexChars (bs : Bytes) : List Char := bs.flatMap hexPair

/-- The text of bytes. -/
def hexText (bs : Bytes) : String := String.ofList (hexChars bs)

theorem length_hexChars (bs : Bytes) : (hexChars bs).length = 2 * bs.length := by
  induction bs with
  | nil => rfl
  | cons b bs ih =>
    have h : hexChars (b :: bs) = hexPair b ++ hexChars bs := rfl
    rw [h, List.length_append, ih]
    simp [hexPair]
    omega

/-- The digits of a number in capitals, at least `width` of them. -/
def upperHex (width n : Nat) : String :=
  let digits := (Nat.toDigits 16 n).map Char.toUpper
  String.ofList (List.replicate (width - digits.length) '0' ++ digits)

end FramedSerial
