import FramedSerial.Command.Failure
import FramedSerial.Snapshot
import FramedSerial.Frame
import FramedSerial.Text.Blank
import FramedSerial.Text.Numeral

/-!
# Texts that stand for values

What a user writes on the command line: durations with a unit, frame types in either base,
attribute names, numbers and payloads in hexadecimal.
-/

namespace FramedSerial

/-- Why a text is not a value of an argument. -/
inductive ValueFault where
  /-- It is none of the values there are, or empty where it must not be. -/
  | notAllowed
  /-- The text does not read as a value, and this is why. -/
  | unreadable (reason : String)
deriving DecidableEq

/-- The greatest 64-bit word. -/
def maxWord : Nat := 18446744073709551615

/-! ## Durations -/

/-- The units a duration can be given in. -/
inductive TimeUnit where
  | seconds
  | millis
deriving DecidableEq

/-- So many of a unit. -/
def TimeUnit.times : TimeUnit → UInt64 → Duration
  | .seconds, n => .ofSeconds n
  | .millis, n => .ofMillis n

/-- The number in front of a unit, and the unit. Without a unit a number counts seconds. -/
def splitUnit (cs : List Char) : List Char × TimeUnit :=
  match cs.reverse with
  | 's' :: 'm' :: number => (number.reverse, .millis)
  | 's' :: number => (number.reverse, .seconds)
  | _ => (cs, .seconds)

/-- The duration a text stands for, such as `500ms`, `5s` or `5`. -/
def readDuration (text : String) : Except DurationFault Duration :=
  let cs := trimBlanks text.toList
  if cs.isEmpty then .error .empty
  else
    let (number, unit) := splitUnit cs
    match Numeral.readNat 10 maxWord number with
    | .error _ => .error (.invalid (String.ofList cs))
    | .ok 0 => .error .zero
    | .ok n => .ok (unit.times (UInt64.ofNat n))

/-! ## Frame types and attributes -/

/-- The number a text stands for, in base sixteen after `0x` and in base ten otherwise. -/
def readTypeNumber : List Char → Except NumeralFault Nat
  | '0' :: 'x' :: cs => Numeral.readNat 16 65535 cs
  | '0' :: 'X' :: cs => Numeral.readNat 16 65535 cs
  | cs => Numeral.readNat 10 65535 cs

/-- The frame type a text stands for. -/
def readFrameType (text : String) : Except ValueFault FrameType :=
  let text := trimmed text
  match readTypeNumber text.toList with
  | .ok n => .ok (UInt16.ofNat n)
  | .error e =>
    .error (.unreadable ("invalid frame type " ++ quoted text ++ ": " ++ e.message))

/-- The attribute a text names. -/
def readAttribute (text : String) : Except ValueFault Attribute :=
  match Attribute.ofName? (trimmed text) with
  | some a => .ok a
  | none =>
    let names := String.intercalate ", " (Attribute.all.map Attribute.name)
    .error (.unreadable
      ("unknown attribute " ++ quoted text ++ " (expected one of " ++ names ++ ")"))

/-! ## Numbers -/

/-- The line speed a text stands for. Any signed 64-bit number reads; one that is no unsigned
32-bit number is then out of range. -/
def readBaud (text : String) : Except ValueFault UInt32 :=
  match Numeral.readInt 10 9223372036854775808 9223372036854775807 text.toList with
  | .error e => .error (.unreadable e.message)
  | .ok n =>
    if 0 ≤ n ∧ n ≤ 4294967295 then .ok (UInt32.ofNat n.toNat)
    else .error (.unreadable (toString n ++ " is not in 0..=4294967295"))

/-- The capacity a text stands for. -/
def readCapacity (text : String) : Except ValueFault UInt64 :=
  match Numeral.readNat 10 maxWord text.toList with
  | .error e => .error (.unreadable e.message)
  | .ok n => .ok (UInt64.ofNat n)

/-- A path, which must not be empty. -/
def readPath (text : String) : Except ValueFault String :=
  if text.isEmpty then .error .notAllowed else .ok text

/-! ## Payloads -/

/-- The bytes of a text. -/
def textBytes (s : String) : Bytes := s.toByteArray.data.toList

/-- A byte that may stand anywhere in a hexadecimal payload: an ASCII blank or a colon. -/
def isHexSeparator (b : UInt8) : Bool :=
  b == 0x20 || b == 0x09 || b == 0x0A || b == 0x0C || b == 0x0D || b == 0x3A

/-- The text of two bytes: two ASCII characters, or one character of two bytes, or nothing if
they are neither. -/
def pairText (a b : UInt8) : List Char :=
  if a < 0x80 ∧ b < 0x80 then [Char.ofNat a.toNat, Char.ofNat b.toNat]
  else if 0xC2 ≤ a ∧ a ≤ 0xDF ∧ 0x80 ≤ b ∧ b ≤ 0xBF then
    [Char.ofNat ((a.toNat - 0xC0) * 64 + (b.toNat - 0x80))]
  else []

/-- The bytes that pairs of digits stand for. -/
def readHexPairs : Bytes → Except HexFault Bytes
  | [] => .ok []
  | [_] => .error .oddLength
  | a :: b :: rest =>
    match Numeral.readNat 16 255 (pairText a b) with
    | .error _ => .error (.invalidDigits (String.ofList (pairText a b)))
    | .ok n => (readHexPairs rest).map (UInt8.ofNat n :: ·)

/-- The payload a hexadecimal text stands for. -/
def readHex (text : String) : Except HexFault Bytes :=
  let digits := (textBytes text).filter fun b => !isHexSeparator b
  if digits.length % 2 = 0 then readHexPairs digits else .error .oddLength

end FramedSerial
