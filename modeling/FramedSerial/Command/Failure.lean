import FramedSerial.Error
import FramedSerial.Text.Quoted

/-!
# Failures of a command and exit codes

A command ends with an exit code or with a failure, and a failure has an exit code of its
own: scripts that call a command tell by it whether to wait, to fix the arguments or to look
at the line. A failure keeps its cause, so that code and wording are both read off the same
value.

An error of a lower layer that only passes on an I/O error counts as that I/O error, both for
the code and for the wording. A line failure met by the link is the exception: whatever kind
it has, it is the line that failed.
-/

namespace FramedSerial

/-- How a command ends, for the shell. -/
inductive ExitCode where
  | success
  | failure
  | transportError
  | permissionDenied
  | dataInvalid
  | usage
  | timeout
  | internal
  | interrupted
deriving DecidableEq

/-- The number that stands for an ending. -/
def ExitCode.number : ExitCode → Nat
  | .success => 0
  | .failure => 1
  | .transportError => 3
  | .permissionDenied => 50
  | .dataInvalid => 60
  | .usage => 64
  | .timeout => 124
  | .internal => 125
  | .interrupted => 130

/-- Why a text is no duration. -/
inductive DurationFault where
  | empty
  | invalid (text : String)
  | zero
deriving DecidableEq

/-- The wording of a fault. -/
def DurationFault.message : DurationFault → String
  | .empty => "duration must not be empty"
  | .invalid text => "invalid duration value: " ++ text
  | .zero => "duration must be greater than zero"

/-- Why a text is no hexadecimal payload. -/
inductive HexFault where
  | oddLength
  | invalidDigits (pair : String)
deriving DecidableEq

/-- The wording of a fault. -/
def HexFault.message : HexFault → String
  | .oddLength => "--hex needs an even number of digits"
  | .invalidDigits pair => "--hex has invalid digits " ++ quoted pair

/-- Why a command failed. What the command was about is said in `context`. -/
inductive Failure where
  | io (context : String) (cause : IoError)
  | device (context : String) (cause : DeviceError)
  | frame (context : String) (cause : FrameError)
  | link (context : String) (cause : LinkError)
  | duration (fault : DurationFault)
  | hex (fault : HexFault)
  /-- The line ended before the awaited report. -/
  | lineClosed
  /-- The awaited report did not come in time. -/
  | noReport (allowed : Duration)
deriving DecidableEq

namespace Failure

/-- The exit code of an I/O error. -/
def ioCode (e : IoError) : ExitCode :=
  if e.isInterruption then .interrupted
  else
    match e.kind with
    | .permissionDenied => .permissionDenied
    | .timedOut | .wouldBlock => .timeout
    | .interrupted => .interrupted
    | .notFound | .brokenPipe | .unexpectedEof | .connectionReset => .transportError
    | _ => .internal

/-- The exit code of a device error. -/
def deviceCode : DeviceError → ExitCode
  | .openFailed _ cause =>
    if cause.kind = .permissionDenied then .permissionDenied else .transportError
  | .configureFailed _ _ => .transportError
  | .unsupportedBaudRate _ => .usage
  | .io cause => ioCode cause

/-- The exit code of a framing error. -/
def frameCode : FrameError → ExitCode
  | .io cause => ioCode cause
  | .payloadTooLarge _ _ | .corrupt _ => .dataInvalid
  | .emptyChunk | .overflow _ _ _ => .internal

/-- The exit code of a link error. -/
def linkCode : LinkError → ExitCode
  | .interrupted => .interrupted
  | .wouldBlock | .timedOut _ => .timeout
  | .transport _ => .transportError
  | .frame cause => frameCode cause
  | .allocation _ => .internal

/-- The wording of a device error in a failure. -/
def deviceMessage : DeviceError → String
  | .io cause => cause.message
  | e => e.message

/-- The wording of a framing error in a failure. -/
def frameMessage : FrameError → String
  | .io cause => cause.message
  | e => e.message

/-- The wording of a link error in a failure. -/
def linkMessage : LinkError → String
  | .frame cause => frameMessage cause
  | e => e.message

/-- The exit code of a failure. -/
def code : Failure → ExitCode
  | .io _ cause => ioCode cause
  | .device _ cause => deviceCode cause
  | .frame _ cause => frameCode cause
  | .link _ cause => linkCode cause
  | .duration _ => .usage
  | .hex _ => .usage
  | .lineClosed => .transportError
  | .noReport _ => .timeout

/-- The wording of a failure. -/
def message : Failure → String
  | .io context cause => context ++ ": " ++ cause.message
  | .device context cause => context ++ ": " ++ deviceMessage cause
  | .frame context cause => context ++ ": " ++ frameMessage cause
  | .link context cause => context ++ ": " ++ linkMessage cause
  | .duration fault => fault.message
  | .hex fault => fault.message
  | .lineClosed => "serial stream closed before a state update arrived"
  | .noReport allowed => "no state update within " ++ allowed.text

end Failure

end FramedSerial
