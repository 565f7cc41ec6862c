import FramedSerial.Command.Failure
import FramedSerial.Command.Invocation
import FramedSerial.Command.Output
import FramedSerial.Line.Files
import FramedSerial.Link.LineScript
import FramedSerial.Link.Transmit

/-!
# What a command finds around it, and how it ends

Commands are functions of their surroundings: files, a serial device, standard input, a
standard output that may be out of order, the clock and the stamp that reports carry. What
they change is part of their result.

A device is described by what successive reads of it bring; when the list is at its end, the
device is silent. A command that waits at a silent device goes on waiting until its deadline,
until the user calls it off, or for ever.
-/

namespace FramedSerial

/-- A serial device. -/
structure Device where
  /-- What reads bring, before silence. -/
  reads : List (Except IoError Bytes)
  /-- The way out. -/
  transport : Transport

/-- What is around a program. -/
structure Surroundings where
  files : Files
  device : Device
  input : Bytes
  /-- Every write to standard output fails with this. -/
  outputFault : Option IoError
  now : Instant
  stamp : String
  /-- The user calls the program off once the device is silent. -/
  calledOff : Bool

/-- How a command ends. -/
inductive Conclusion where
  | exited (code : ExitCode)
  | failed (cause : Failure)
  | crashed (cause : Crash)
  /-- It goes on waiting. -/
  | waiting

/-- What a command did. -/
structure Run where
  printed : Bytes
  conclusion : Conclusion
  /-- The speed the device was set to, if it was opened. -/
  speed : Option Speed
  /-- The way out of the device after it. -/
  transport : Transport

namespace Surroundings

/-- The most bytes that a command reads at once. -/
def readSize : Nat := 256

/-- Open the chosen line. -/
def openLine (s : Surroundings) (line : LineChoice) : Except Failure Speed :=
  (Files.openDevice s.files line.path line.baud).mapError (.device "open failed")

/-- What reads of a file bring. -/
def fileReads (node : FileNode) : List (Except IoError Bytes) :=
  match node.contents with
  | .ok bytes => (pieces readSize bytes).map .ok
  | .error e => [.error e]

/-- A run that ends with this before it has opened a device. -/
def early (s : Surroundings) (conclusion : Conclusion) : Run :=
  ⟨[], conclusion, none, s.device.transport⟩

/-- Print what a command has to say and end as it says. -/
def finish (s : Surroundings) (speed : Option Speed) (transport : Transport)
    (outputs : List Output) (ending : Except Failure ExitCode) : Run :=
  match Output.printAll s.outputFault outputs with
  | .error cause => ⟨[], .crashed cause, speed, transport⟩
  | .ok printed =>
    match ending with
    | .ok code => ⟨printed, .exited code, speed, transport⟩
    | .error cause => ⟨printed, .failed cause, speed, transport⟩

end Surroundings

end FramedSerial
