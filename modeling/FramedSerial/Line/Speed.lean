/-!
# Line speeds

A serial line runs at one of nine speeds. A terminal is told the speed by a code of its own,
which is not in proportion to the speed and jumps where the older codes ran out.
-/

namespace FramedSerial

/-- The speeds of a line. -/
inductive Speed where
  | b1200
  | b2400
  | b4800
  | b9600
  | b19200
  | b38400
  | b57600
  | b115200
  | b230400
deriving DecidableEq

namespace Speed

/-- Every speed, the slowest first. -/
def all : List Speed :=
  [.b1200, .b2400, .b4800, .b9600, .b19200, .b38400, .b57600, .b115200, .b230400]

/-- Bits per second. -/
def baud : Speed → UInt32
  | .b1200 => 1200
  | .b2400 => 2400
  | .b4800 => 4800
  | .b9600 => 9600
  | .b19200 => 19200
  | .b38400 => 38400
  | .b57600 => 57600
  | .b115200 => 115200
  | .b230400 => 230400

/-- What a terminal is told. -/
def code : Speed → Nat
  | .b1200 => 9
  | .b2400 => 11
  | .b4800 => 12
  | .b9600 => 13
  | .b19200 => 14
  | .b38400 => 15
  | .b57600 => 4097
  | .b115200 => 4098
  | .b230400 => 4099

/-- The speed of so many bits per second, if there is one. -/
def ofBaud? (n : UInt32) : Option Speed := all.find? fun s => s.baud == n

theorem ofBaud?_baud (s : Speed) : ofBaud? s.baud = some s := by cases s <;> rfl

/-- The speed of a terminal that nobody has set. -/
def initial : Speed := .b38400

/-- Bits per second unless told otherwise. -/
def defaultBaud : UInt32 := 9600

end Speed

end FramedSerial
