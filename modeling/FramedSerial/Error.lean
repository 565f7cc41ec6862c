import FramedSerial.Duration
import FramedSerial.IoError.Kind
import FramedSerial.IoError.Errno
import FramedSerial.LittleEndian
import FramedSerial.Text.Hex

/-!
# Errors and their wording

Three layers raise errors: the operating system, the framing, and the link that joins a
framed line to a reader. Each layer can carry an error of the one below, and an I/O error
can in turn be the dress in which a link error passes through a standard reader or writer,
so the three types are defined together.

The dress matters in one place. A reader that loops until its buffer is full retries an
error of kind `interrupted`, so an interrupted link read must not have that kind, or the
interrupt would be swallowed by the loop: `LinkError.toIo` gives it the kind `other` and
keeps the link error inside, where `IoError.isInterruption` finds it.
-/

namespace FramedSerial

/-- Why bytes at the head of a stream cannot be a frame that the receiver will wait for. -/
inductive Corruption where
  /-- The stream does not start with the signature. -/
  | badSignature (found : UInt32)
  /-- The header announces more bytes than the receiver can hold. -/
  | oversized (required capacity : Nat)
deriving DecidableEq

mutual

/-- An error of the operating system, or one dressed as such. -/
inductive IoError where
  /-- Nothing is known but the kind. -/
  | bare (kind : IoErrorKind)
  /-- A kind with a text of its own. -/
  | custom (kind : IoErrorKind) (text : String)
  /-- A system call failed with this number. -/
  | system (errno : Int)
  /-- A link error on its way through a standard reader or writer. -/
  | carrying (kind : IoErrorKind) (cause : LinkError)

/-- An error of the framing. -/
inductive FrameError where
  /-- A receiver was handed no bytes. -/
  | emptyChunk
  /-- A chunk does not fit beside the bytes already staged. -/
  | overflow (pending incoming capacity : Nat)
  /-- The bytes at hand cannot be a frame. -/
  | corrupt (cause : Corruption)
  /-- A payload is longer than a header can announce. -/
  | payloadTooLarge (size limit : Nat)
  /-- The byte stream below failed. -/
  | io (cause : IoError)

/-- An error of the link between a framed line and its user. -/
inductive LinkError where
  /-- Nothing to read, and the reader does not want to wait. -/
  | wouldBlock
  /-- Another party called the reader off. -/
  | interrupted
  /-- Nothing came within the time allowed. -/
  | timedOut (allowed : Duration)
  /-- No memory for a message of this size. -/
  | allocation (size : Nat)
  /-- The line failed. -/
  | transport (cause : IoError)
  /-- The framing failed. -/
  | frame (cause : FrameError)

end

deriving instance DecidableEq for IoError, FrameError, LinkError

/-- An error of opening a serial device. -/
inductive DeviceError where
  /-- The path could not be opened. -/
  | openFailed (path : String) (cause : IoError)
  /-- The opened file would not take the line settings. -/
  | configureFailed (path : String) (cause : IoError)
  /-- There is no such line speed. -/
  | unsupportedBaudRate (baud : UInt32)
  /-- The opened device failed. -/
  | io (cause : IoError)
deriving DecidableEq

/-! ## Wording -/

/-- The four bytes every frame starts with, as the word they spell. -/
def signature : UInt32 := 0x0BADF00D

/-- The wording of a corruption. -/
def Corruption.message : Corruption → String
  | .badSignature found =>
    "invalid frame signature 0x" ++ upperHex 8 found.toNat
      ++ " (expected 0x" ++ upperHex 8 signature.toNat ++ ")"
  | .oversized required capacity =>
    "frame of " ++ toString required ++ " bytes exceeds staging capacity " ++ toString capacity

mutual

/-- The wording of an I/O error. -/
def IoError.message : IoError → String
  | .bare kind => kind.text
  | .custom _ text => text
  | .system errno => Errno.text errno ++ " (os error " ++ toString errno ++ ")"
  | .carrying _ cause => cause.message

/-- The wording of a framing error. -/
def FrameError.message : FrameError → String
  | .emptyChunk => "empty chunk"
  | .overflow pending incoming capacity =>
    "staging overflow (" ++ toString pending ++ " pending + " ++ toString incoming
      ++ " incoming bytes, capacity " ++ toString capacity ++ ")"
  | .corrupt cause => cause.message
  | .payloadTooLarge size limit =>
    "payload too large (" ++ toString size ++ " bytes, max " ++ toString limit ++ ")"
  | .io cause => "frame I/O error: " ++ cause.message

/-- The wording of a link error. -/
def LinkError.message : LinkError → String
  | .wouldBlock => "no data available (would block)"
  | .interrupted => "read interrupted"
  | .timedOut allowed => "read timed out after " ++ allowed.text
  | .allocation size => "failed to allocate " ++ toString size ++ " byte transmit buffer"
  | .transport cause => "transport error: " ++ cause.message
  | .frame cause => "frame error: " ++ cause.message

end

/-- The wording of a device error. -/
def DeviceError.message : DeviceError → String
  | .openFailed path cause => "failed to open " ++ path ++ ": " ++ cause.message
  | .configureFailed path cause => "failed to configure " ++ path ++ ": " ++ cause.message
  | .unsupportedBaudRate baud => "unsupported baud rate: " ++ toString baud.toNat
  | .io cause => "transport I/O error: " ++ cause.message

/-! ## Link errors as I/O errors -/

namespace IoError

/-- The kind of an I/O error. -/
def kind : IoError → IoErrorKind
  | .bare kind => kind
  | .custom kind _ => kind
  | .system errno => Errno.kind errno
  | .carrying kind _ => kind

/-- The link error inside, if there is one. -/
def linkError? : IoError → Option LinkError
  | .carrying _ cause => some cause
  | _ => none

/-- A link read was called off, and this is the news of it. -/
def isInterruption (e : IoError) : Bool :=
  match e.linkError? with
  | some .interrupted => true
  | _ => false

end IoError

/-- A link error as the I/O error that a standard reader or writer reports. An error that
was an I/O error to begin with comes back as itself. -/
def LinkError.toIo : LinkError → IoError
  | .wouldBlock => .bare .wouldBlock
  | .interrupted => .carrying .other .interrupted
  | .timedOut allowed => .carrying .timedOut (.timedOut allowed)
  | .allocation size => .carrying .outOfMemory (.allocation size)
  | .transport cause => cause
  | .frame (.io cause) => cause
  | .frame cause => .carrying .invalidData (.frame cause)

/-- An interrupted read keeps its meaning and does not have the kind that reading loops
retry. -/
theorem LinkError.isInterruption_toIo_interrupted :
    LinkError.interrupted.toIo.isInterruption = true
      ∧ LinkError.interrupted.toIo.kind ≠ .interrupted := by
  decide

/-! ## Crashes -/

/-- The most bytes one allocation can have: the greatest signed 64-bit word. -/
def maxAllocation : Nat := 9223372036854775807

/-- A program error that no caller handles. -/
inductive Crash where
  /-- A clock reading past the greatest one was asked for. -/
  | deadlineOverflow
  /-- More memory than a machine word of signed bytes was asked for. -/
  | capacityOverflow
  /-- A sum that no machine word holds. -/
  | additionOverflow
  /-- A difference below zero. -/
  | subtractionOverflow
  /-- An index at or beyond the end of a buffer. -/
  | indexOutOfBounds (length index : Nat)
  /-- A remainder by zero. -/
  | remainderByZero
  /-- Standard output took no more bytes. -/
  | printFailed (cause : IoError)
deriving DecidableEq

/-- The wording of a crash. -/
def Crash.message : Crash → String
  | .deadlineOverflow => "overflow when adding duration to instant"
  | .capacityOverflow => "capacity overflow"
  | .additionOverflow => "attempt to add with overflow"
  | .subtractionOverflow => "attempt to subtract with overflow"
  | .indexOutOfBounds length index =>
    "index out of bounds: the len is " ++ toString length ++ " but the index is "
      ++ toString index
  | .remainderByZero => "attempt to calculate the remainder with a divisor of zero"
  | .printFailed cause => "failed printing to stdout: " ++ cause.message

end FramedSerial
