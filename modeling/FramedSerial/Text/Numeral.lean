/-!
# Numerals

A numeral is an optional sign and digits of some base, the first digit the highest. Its value
must lie within limits, and the first fault from the left decides what is reported: a numeral
that has grown too large is too large whatever follows, while a character that is no digit is
reported even where a digit would have been too much.
-/

namespace FramedSerial

/-- Why a text is no numeral. -/
inductive NumeralFault where
  | empty
  | invalidDigit
  | tooLarge
  | tooSmall
deriving DecidableEq

/-- The wording of a fault. -/
def NumeralFault.message : NumeralFault → String
  | .empty => "cannot parse integer from empty string"
  | .invalidDigit => "invalid digit found in string"
  | .tooLarge => "number too large to fit in target type"
  | .tooSmall => "number too small to fit in target type"

namespace Numeral

/-- The value of a digit, a letter counting from ten on in either case. -/
def digit? (base : Nat) (c : Char) : Option Nat :=
  let value :=
    if '0' ≤ c ∧ c ≤ '9' then some (c.toNat - '0'.toNat)
    else if 'a' ≤ c ∧ c ≤ 'z' then some (c.toNat - 'a'.toNat + 10)
    else if 'A' ≤ c ∧ c ≤ 'Z' then some (c.toNat - 'A'.toNat + 10)
    else none
  value.filter (· < base)

/-- Go on reading digits after a value of `acc`; a value above `limit` is the fault
`beyond`. -/
def readFrom (base limit : Nat) (beyond : NumeralFault) (acc : Nat) :
    List Char → Except NumeralFault Nat
  | [] => .ok acc
  | c :: cs =>
    match digit? base c with
    | none => .error .invalidDigit
    | some d =>
      if limit < acc * base + d then .error beyond
      else readFrom base limit beyond (acc * base + d) cs

/-- Read digits, of which there must be one. -/
def readDigits (base limit : Nat) (beyond : NumeralFault) (cs : List Char) :
    Except NumeralFault Nat :=
  if cs.isEmpty then .error .invalidDigit else readFrom base limit beyond 0 cs

theorem readDigits_cons (base limit : Nat) (beyond : NumeralFault) (c : Char) (cs : List Char) :
    readDigits base limit beyond (c :: cs) = readFrom base limit beyond 0 (c :: cs) := rfl

/-- Read a numeral of at most `limit`; a plus sign may stand before it. -/
def readNat (base limit : Nat) : List Char → Except NumeralFault Nat
  | [] => .error .empty
  | '+' :: cs => readDigits base limit .tooLarge cs
  | cs => readDigits base limit .tooLarge cs

theorem readNat_of_ne {base limit : Nat} {c : Char} (h : c ≠ '+') (cs : List Char) :
    readNat base limit (c :: cs) = readDigits base limit .tooLarge (c :: cs) := by
  unfold readNat
  split
  · next hnil => cases hnil
  · next hplus =>
    cases hplus
    exact absurd rfl h
  · rfl

/-- Read a numeral between `-low` and `high`. -/
def readInt (base low high : Nat) : List Char → Except NumeralFault Int
  | [] => .error .empty
  | '+' :: cs => (readDigits base high .tooLarge cs).map Int.ofNat
  | '-' :: cs => (readDigits base low .tooSmall cs).map fun n => -Int.ofNat n
  | cs => (readDigits base high .tooLarge cs).map Int.ofNat

end Numeral

end FramedSerial
