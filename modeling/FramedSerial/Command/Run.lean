import FramedSerial.Command.Bridge
import FramedSerial.Command.Decode
import FramedSerial.Command.Send
import FramedSerial.Command.Status

/-!
# Doing what an invocation asks for

One function from an invocation and its surroundings to what was done.
-/

namespace FramedSerial

/-- The program's own name. -/
def programName : String := "enclink"

/-- The version of the program. -/
def programVersion : String := "0.1.0"

/-- The program's name and version on a line. -/
def versionLine : String := programName ++ " " ++ programVersion ++ "\n"

/-- What is printed for the version. -/
def versionOutputs (extended : Bool) : List Output :=
  if extended then [.line ("name: " ++ programName), .line ("version: " ++ programVersion)]
  else [.text versionLine]

/-- The format to use unless another is chosen: a program reads the output if no terminal
shows it. -/
def defaultFormat (onTerminal : Bool) : OutputFormat := if onTerminal then .table else .json

namespace Invocation

/-- Do what is asked for. -/
def run (s : Surroundings) (onTerminal : Bool) (i : Invocation) : Run :=
  let format := i.format.getD (defaultFormat onTerminal)
  match i.job with
  | .bridge t => Bridge.run s t
  | .status t => Status.run s format t
  | .send t => Send.run s format t
  | .decode t => Decode.run s format t
  | .version extended =>
    s.finish none s.device.transport (versionOutputs extended) (.ok .success)

end Invocation

end FramedSerial
