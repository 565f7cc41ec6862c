import FramedSerial.Command.Words
import FramedSerial.Decoder.Stats
import FramedSerial.Delivery
import FramedSerial.Line.Speed

/-!
# What the program is asked to do

The words of a command line and the environment lead to an `Invocation`, in which every
argument has its value or its default and those that exclude each other cannot both be
present: a message has one payload, and it is sent either in a frame of some type or as it
is.
-/

namespace FramedSerial

/-- A serial device and its speed. -/
structure LineChoice where
  path : String
  baud : UInt32
deriving DecidableEq

/-- Where the payload of a message comes from. -/
inductive PayloadSource where
  | nothing
  | text (text : String)
  | hex (text : String)
  | file (path : String)
deriving DecidableEq

/-- Forward what the line delivers until it ends. -/
structure BridgeJob where
  line : LineChoice
  forwardStdin : Bool
  nonblocking : Bool
  stagingCapacity : UInt64
  queueCapacity : UInt64
deriving DecidableEq

/-- Wait for a state report. -/
structure StatusJob where
  line : LineChoice
  /-- How long to wait, as it was written. -/
  timeout : String
  selected : Option Attribute
deriving DecidableEq

/-- Send one message. -/
structure SendJob where
  line : LineChoice
  /-- The type of the frame to send, or none to send the payload as it is. -/
  frameType : Option FrameType
  payload : PayloadSource
deriving DecidableEq

/-- Decode a capture. -/
structure DecodeJob where
  /-- The file that holds it; otherwise it is read from standard input. -/
  input : Option String
  stagingCapacity : UInt64
deriving DecidableEq

/-- What to do. -/
inductive Job where
  | bridge (job : BridgeJob)
  | status (job : StatusJob)
  | send (job : SendJob)
  | decode (job : DecodeJob)
  | version (extended : Bool)
deriving DecidableEq

/-- What to do, and how to tell about it. -/
structure Invocation where
  format : Option OutputFormat
  logFormat : LogFormat
  logLevel : Level
  job : Job
deriving DecidableEq

namespace Invocation

/-- How long to wait for a report unless told otherwise. -/
def defaultTimeout : String := "5s"

/-- How urgent a diagnostic must be to be written, unless told otherwise. -/
def defaultLevel : Level := .info

/-- The first value that a setting of the list has. -/
def find {α : Type} (settings : List Setting) (value : Setting → Option α) : Option α :=
  settings.findSome? value

/-- A setting is in the list. -/
def holds (settings : List Setting) (s : Setting) : Bool := settings.contains s

/-- The line that settings choose; the device is required. -/
def line (settings : List Setting) : Except Refusal LineChoice :=
  match find settings fun | .device path => some path | _ => none with
  | none => .error .missingArgument
  | some path =>
    let baud := find settings fun | .baudRate n => some n | _ => none
    .ok ⟨path, baud.getD Speed.defaultBaud⟩

/-- The staging capacity that settings choose. -/
def stagingCapacity (settings : List Setting) : UInt64 :=
  (find settings fun | .stagingCapacity n => some n | _ => none).getD
    (UInt64.ofNat defaultStagingCapacity)

/-- The payload that settings choose. -/
def payload (settings : List Setting) : PayloadSource :=
  (find settings fun
    | .data text => some (.text text)
    | .hex text => some (.hex text)
    | .file path => some (.file path)
    | _ => none).getD .nothing

/-- The type that settings choose, which is required unless the message is sent as it is. -/
def frameType (settings : List Setting) : Except Refusal (Option FrameType) :=
  match find settings fun | .frameType t => some t | _ => none with
  | some t => .ok (some t)
  | none => if holds settings .raw then .ok none else .error .missingArgument

/-- The job that a verb and its settings make. -/
def jobOf (verb : Verb) (settings : List Setting) : Except Refusal Job :=
  match verb with
  | .bridge => do
    return .bridge {
      line := ← line settings
      forwardStdin := holds settings .forwardStdin
      nonblocking := holds settings .nonblocking
      stagingCapacity := stagingCapacity settings
      queueCapacity := (find settings fun | .queueCapacity n => some n | _ => none).getD
        (UInt64.ofNat Delivery.defaultCapacity) }
  | .status => do
    return .status {
      line := ← line settings
      timeout := (find settings fun | .timeout text => some text | _ => none).getD defaultTimeout
      selected := find settings fun | .selected a => some a | _ => none }
  | .send => do
    return .send {
      line := ← line settings
      frameType := ← frameType settings
      payload := payload settings }
  | .decode =>
    return .decode {
      input := find settings fun | .input path => some path | _ => none
      stagingCapacity := stagingCapacity settings }
  | .version => return .version (holds settings .extended)

/-- The invocation that a job and the general settings make. Settings after the verb come
before those in front of it. -/
def ofSettings (job : Job) (settings : List Setting) : Invocation where
  format := find settings fun | .format f => some f | _ => none
  logFormat := (find settings fun | .logFormat f => some f | _ => none).getD .text
  logLevel := (find settings fun | .logLevel l => some l | _ => none).getD defaultLevel
  job := job

/-- Go on reading words before a verb. -/
def readFrom (env : List (String × String)) (r : Reading) : List String → Except Refusal Invocation
  | [] => do
    let r ← r.settle
    if r.settings.isEmpty then .error .nothingGiven else .error .missingVerb
  | word :: words =>
    let ready := !r.namesEnded && r.awaits.isNone
    if ready && word == "help" then .error (refuseHelp words)
    else
      match if ready then Verb.ofName? word else none with
      | some verb => do
        let inner ← Reading.ofWords env verb words
        let job ← jobOf verb inner.settings
        let outer ← r.settle
        return ofSettings job (inner.settings ++ outer.settings)
      | none => do
        let r ← r.step none word
        readFrom env r words

/-- The invocation that the words of a command line and the environment make. -/
def ofWords (env : List (String × String)) (words : List String) : Except Refusal Invocation :=
  readFrom env .start words

end Invocation

end FramedSerial
