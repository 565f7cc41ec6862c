import FramedSerial.Command.Run
import Std.Time.DateTime.Timestamp

/-!
# The program

Reads the command line, gathers the surroundings that the command needs, and carries out what
the command decides. What a command does is decided by the functions of the modules on
commands alone; here bytes are only fetched for them and put out after them. The commands
that wait for a line are fed a byte at a time, so that nothing is held back.

The line keeps the speed it is set to: whether there is such a speed is checked, and setting
it is left to the system. A wait for a report is given up at its deadline, and the program
ends when the last read of the line returns.
-/

namespace FramedSerial.Program

/-- The cause behind an error that the system reported. -/
def causeOf : IO.Error → IoError
  | .alreadyExists _ code _ | .invalidArgument _ code _ | .permissionDenied _ code _
  | .resourceExhausted _ code _ | .inappropriateType _ code _ | .noSuchThing _ code _
  | .noFileOrDirectory _ code _ | .interrupted _ code _ | .otherError code _
  | .resourceBusy code _ | .resourceVanished code _ | .unsupportedOperation code _
  | .hardwareFault code _ | .unsatisfiedConstraints code _ | .illegalOperation code _
  | .protocolError code _ | .timeExpired code _ => .system code.toNat
  | .unexpectedEof => .bare .unexpectedEof
  | .userError text => .custom .other text

/-- Try something that the system may refuse. -/
def attempt {α : Type} (action : IO α) : IO (Except IoError α) :=
  tryCatch (Except.ok <$> action) fun e => return .error (causeOf e)

/-- Everything up to the end of a stream. -/
partial def readAll (stream : IO.FS.Stream) (before : ByteArray) : IO ByteArray := do
  let chunk ← stream.read 4096
  if chunk.isEmpty then return before else readAll stream (before ++ chunk)

/-- What a path leads to. -/
def lookAt (path : String) : IO (Except IoError FileNode) := do
  match ← attempt (IO.FS.Handle.mk path .read) with
  | .error e => return .error e
  | .ok file =>
    if ← file.isTty then return .ok .terminal
    match ← attempt file.readBinToEnd with
    | .ok bytes => return .ok (.ordinary bytes.data.toList)
    | .error e =>
      if e = .system Errno.isADirectory then return .ok .directory else return .error e

/-- The paths that a job has to look at. -/
def pathsOf : Job → List String
  | .bridge t => [t.line.path]
  | .status t => [t.line.path]
  | .send t =>
    match t.payload with
    | .file path => [path, t.line.path]
    | _ => [t.line.path]
  | .decode t => t.input.toList
  | .version _ => []

/-- The files at these paths. -/
def filesAt (paths : List String) : IO Files := do
  let seen ← paths.mapM fun path => do return (path, ← lookAt path)
  return fun path => (seen.lookup path).getD (.error (.system Errno.notFound))

/-- The clock. -/
def clock : IO Instant := do
  let nanos ← IO.monoNanosNow
  return ⟨(nanos / 1000000000 : Nat), nanos % 1000000000⟩

/-- Everything around the program, but for what comes from a device: a silent device that
takes everything. -/
def gather (job : Job) : IO Surroundings := do
  let files ← filesAt (pathsOf job)
  let input ← match job with
    | .decode ⟨none, _⟩ => readAll (← IO.getStdin) ByteArray.empty
    | _ => pure ByteArray.empty
  let stamp ← Std.Time.Timestamp.now
  return {
    files := files
    device := ⟨[], Transport.ofScript []⟩
    input := input.data.toList
    outputFault := none
    now := ← clock
    stamp := toString stamp.toSecondsSinceUnixEpoch.val
    calledOff := false }

/-- Write bytes to standard output. -/
def put (bytes : Bytes) : IO Unit := do
  let out ← IO.getStdout
  out.write ⟨bytes.toArray⟩
  out.flush

/-- Tell how a command ended, and the number to exit with. -/
def tell : Conclusion → IO UInt32
  | .exited code => return UInt32.ofNat code.number
  | .failed cause => do
    IO.eprintln ("error: " ++ cause.message)
    return UInt32.ofNat cause.code.number
  | .crashed cause => do
    IO.eprintln cause.message
    return 101
  | .waiting => return 0

/-- Print what a command printed, and tell how it ended. -/
def carryOut (run : Run) : IO UInt32 := do
  match ← attempt (put run.printed) with
  | .ok () => tell run.conclusion
  | .error cause => tell (.crashed (.printFailed cause))

/-- Send what the command hands to the device; if the device refuses it, the command is told
so. -/
def send (s : Surroundings) (again : Surroundings → Run) (path : String) : IO UInt32 := do
  let run := again s
  if run.transport.accepted.isEmpty then carryOut run
  else
    let sent ← attempt do
      let device ← IO.FS.Handle.mk path .append
      device.write ⟨run.transport.accepted.toArray⟩
      device.flush
    match sent with
    | .ok () => carryOut run
    | .error cause =>
      carryOut (again { s with device := ⟨[], Transport.ofScript [.refuse cause]⟩ })

/-- What one read of a device brings. -/
def readDevice (device : IO.FS.Handle) : IO (Except IoError Bytes) := do
  let chunk ← attempt (device.read 1)
  return chunk.map fun bytes => bytes.data.toList

/-- What one read of a device brings before a deadline. -/
partial def readBefore (deadline : Instant) (read : Task (Except IO.Error (Except IoError Bytes))) :
    IO (Option (Except IoError Bytes)) := do
  if ← IO.hasFinished read then
    match read.get with
    | .ok outcome => return some outcome
    | .error e => return some (.error (causeOf e))
  else if deadline.le (← clock) then return none
  else
    IO.sleep 1
    readBefore deadline read

/-- What reads of a device bring until a report has come or the deadline passes. -/
partial def watch (device : IO.FS.Handle) (deadline : Instant) (w : Status.Watch) :
    IO (List (Except IoError Bytes)) := do
  let read ← IO.asTask (readDevice device)
  match ← readBefore deadline read with
  | none => return []
  | some outcome =>
    match w.meet outcome with
    | .inl _ => return [outcome]
    | .inr w => return outcome :: (← watch device deadline w)

/-- Copy standard input to a device. -/
partial def forwardInput (input : IO.FS.Stream) (device : IO.FS.Handle) : IO Unit := do
  let chunk ← input.read 1
  unless chunk.isEmpty do
    device.write chunk
    device.flush
    forwardInput input device

/-- Bridge what a device brings, printing as it goes. -/
partial def bridge (device : IO.FS.Handle) (b : Bridge) : IO UInt32 := do
  let (b, conclusion) := b.meet (← readDevice device)
  match ← attempt (put b.forwarder.written) with
  | .error cause => tell (.failed (.io "stdout write failed" cause))
  | .ok () =>
    match conclusion with
    | some conclusion => tell conclusion
    | none => bridge device { b with forwarder := { b.forwarder with writes := [] } }

/-- Do what an invocation asks for. -/
def perform (i : Invocation) : IO UInt32 := do
  let s ← gather i.job
  let onTerminal ← (← IO.getStdout).isTty
  let run := i.run s onTerminal
  match i.job, run.speed with
  | .send t, some _ => send s (i.run · onTerminal) t.line.path
  | .status t, some _ =>
    match readDuration t.timeout with
    | .error _ => carryOut run
    | .ok allowed =>
      match s.now.add? allowed with
      | none => carryOut run
      | some deadline =>
        let device ← IO.FS.Handle.mk t.line.path .read
        let reads ← watch device deadline .start
        carryOut (i.run { s with device := { s.device with reads } } onTerminal)
  | .bridge t, some _ =>
    match Bridge.ofJob none t s.device.transport with
    | .error _ => carryOut run
    | .ok b =>
      if t.forwardStdin then
        let out ← IO.FS.Handle.mk t.line.path .append
        let _ ← IO.asTask (forwardInput (← IO.getStdin) out)
      bridge (← IO.FS.Handle.mk t.line.path .read) b
  | _, _ => carryOut run

/-- Tell why the words of the command line do not lead to a run. -/
def refuse (r : Refusal) : IO UInt32 := do
  match r with
  | .versionWanted => IO.print versionLine
  | .helpWanted =>
    IO.println ("usage: " ++ programName ++ " [OPTIONS] "
      ++ String.intercalate "|" (Verb.all.map Verb.name))
  | r =>
    IO.eprintln ("error: " ++ (r.reason?.getD "the command line cannot be understood")
      ++ ((r.subject?.map (": " ++ ·)).getD ""))
  return UInt32.ofNat r.exitNumber

end FramedSerial.Program

/-- Read the command line and do what it asks for. -/
def main (args : List String) : IO UInt32 := do
  let names := ["ENCLINK_DEVICE", "ENCLINK_BAUD_RATE"]
  let env ← names.filterMapM fun name => do return (← IO.getEnv name).map (name, ·)
  match FramedSerial.Invocation.ofWords env args with
  | .ok i => FramedSerial.Program.perform i
  | .error r => FramedSerial.Program.refuse r
