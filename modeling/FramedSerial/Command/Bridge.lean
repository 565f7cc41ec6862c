import FramedSerial.Command.Forward
import FramedSerial.Command.Surroundings
import FramedSerial.Link

/-!
# Bridging a line to standard output

The pump takes in what the line delivers and the forwarder writes out what is queued. The
queue is all they share: when the pump ends, or the user calls the program off, the queue is
interrupted, and the forwarder ends when it has written everything.

Here the forwarder catches up after each turn of the line, which is what it does when it is
not held up. Its own steps, which can be interleaved with the other side in any order, are in
the module on forwarding.
-/

namespace FramedSerial

/-- A bridge at work. -/
structure Bridge where
  mode : ReadMode
  fault : Option IoError
  intake : Intake
  forwarder : Forwarder

namespace Bridge

/-- The forwarder writes what is queued; `stopped` says whether the other side has stopped. -/
def catchUp (b : Bridge) (stopped : Bool) : Bridge :=
  let (forwarder, queue) := b.forwarder.catchUp b.mode b.fault stopped b.intake.queue
  { b with forwarder, intake := { b.intake with queue } }

/-- The other side stops: the queue is interrupted and the forwarder goes to its end. -/
def stop (b : Bridge) : Bridge :=
  { b with intake := { b.intake with queue := b.intake.queue.interrupt } }.catchUp true

/-- How the bridge ends once the other side has stopped: by a failure of the forwarder, or as
the other side says. -/
def conclude (b : Bridge) (otherwise : Conclusion) : Option Conclusion :=
  match b.forwarder.phase with
  | .ended (.error cause) => some (.failed cause)
  | .ended (.ok ()) => some otherwise
  | _ => none

/-- Stop, and say how the bridge ends. -/
def finish (b : Bridge) (otherwise : Conclusion) : Bridge × Option Conclusion :=
  let b := b.stop
  (b, b.conclude otherwise)

/-- Meet what a read of the line brought: the bridge after it and, if it has ended, how. -/
def meet (b : Bridge) (outcome : Except IoError Bytes) : Bridge × Option Conclusion :=
  let (state, intake) := (b.intake.meet outcome).value
  let b := { b with intake }
  match state with
  | .ended => b.finish (.exited .success)
  | .failed cause => b.finish (.failed (.link "serial read failed" cause))
  | .flowing _ =>
    let b := b.catchUp false
    match b.forwarder.phase with
    | .ended (.error cause) => (b, some (.failed cause))
    | _ => (b, none)

/-- Bridge what reads bring. A silent line is waited at, unless the user calls the program
off. -/
def runReads (b : Bridge) (calledOff : Bool) :
    List (Except IoError Bytes) → Bridge × Option Conclusion
  | [] => if calledOff then b.finish (.exited .interrupted) else (b, none)
  | outcome :: later =>
    match b.meet outcome with
    | (b, some conclusion) => (b, some conclusion)
    | (b, none) => runReads b calledOff later

/-- The most bytes of standard input that go to the device at once. -/
def inputBlock : Nat := 8192

/-- The settings of the link that a job asks for. -/
def linkConfig (t : BridgeJob) : LinkConfig where
  stagingCapacity := t.stagingCapacity
  queueCapacity := t.queueCapacity
  mode := if t.nonblocking then .nonBlocking else .blocking
  timeout := none

/-- A bridge as a job asks for it, before anything has come from the line. -/
def ofJob (fault : Option IoError) (t : BridgeJob) (transport : Transport) :
    Except Crash Bridge :=
  (Link.create (linkConfig t) transport).map fun created =>
    let link := created.value
    ⟨link.mode, fault, link.intake, .start⟩

/-- Bridge the chosen line. -/
def run (s : Surroundings) (t : BridgeJob) : Run :=
  match s.openLine t.line with
  | .error cause => s.early (.failed cause)
  | .ok speed =>
    let transport := s.device.transport
    match ofJob s.outputFault t transport with
    | .error cause => ⟨[], .crashed cause, some speed, transport⟩
    | .ok b =>
      let transport :=
        if t.forwardStdin then (transport.writeEach (pieces inputBlock s.input)).value.2
        else transport
      let (b, conclusion) := b.runReads s.calledOff s.device.reads
      ⟨b.forwarder.written, conclusion.getD .waiting, some speed, transport⟩

end Bridge

end FramedSerial
