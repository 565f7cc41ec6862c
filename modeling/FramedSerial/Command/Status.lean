import FramedSerial.Command.Report
import FramedSerial.Command.Surroundings
import FramedSerial.Link.Route

/-!
# Waiting for a state report

The first state report that holds a snapshot ends the wait, whatever comes before it and
whatever follows it in the same chunk. A chunk that does not fit is lost, but the wait goes
on; the end of the line, a failure of it and the deadline end the wait without a result.
-/

namespace FramedSerial

namespace Status

/-- Route staged frames until one of them stores a snapshot, and say whether one did. -/
def routeUntilStored (d : StagedDecoder) (q : Delivery) : Bool × StagedDecoder × Delivery :=
  match _h : d.next.value with
  | (none, d') => (false, d', q)
  | (some f, d') =>
    match (q.route f).value with
    | (.stored _, q) => (true, d', q)
    | (_, q) => routeUntilStored d' q
termination_by d.pending.length
decreasing_by
  have := StagedDecoder.length_next_lt (d := d) (f := f) (by rw [_h])
  rwa [_h] at this

/-- A wait for a report: bytes that are no frame yet, and where frames go meanwhile. -/
structure Watch where
  decoder : StagedDecoder
  queue : Delivery

/-- A wait that has seen nothing. -/
def Watch.start : Watch := ⟨.empty defaultStagingCapacity, .ofDefaultCapacity⟩

/-- Meet what a read brought: the wait ends, with a queue that holds a report if there is one,
or goes on. -/
def Watch.meet (w : Watch) (outcome : Except IoError Bytes) : Except Failure Delivery ⊕ Watch :=
  match outcome with
  | .ok [] => .inl (.error .lineClosed)
  | .error e => .inl (.error (.io "serial read failed" e))
  | .ok chunk =>
    match (w.decoder.stage chunk).value with
    | (.error _, decoder) => .inr { w with decoder }
    | (.ok (), decoder) =>
      match routeUntilStored decoder w.queue with
      | (true, _, queue) => .inl (.ok queue)
      | (false, decoder, queue) => .inr ⟨decoder, queue⟩

/-- Wait for a report in what reads bring before the deadline; silence after them lasts until
the deadline. -/
def await (allowed : Duration) (w : Watch) : List (Except IoError Bytes) → Except Failure Delivery
  | [] => .error (.noReport allowed)
  | outcome :: later =>
    match w.meet outcome with
    | .inl result => result
    | .inr w => await allowed w later

/-- What is printed for a state: one attribute as it is published, or all of them. -/
def report (format : OutputFormat) (stamp : String) (selected : Option Attribute)
    (view : StatusView) : List Output :=
  match selected with
  | some a => [.bytes (textBytes (view.render a))]
  | none => Report.status format stamp view

/-- Wait for a report and print the state that the queue holds then. -/
def run (s : Surroundings) (format : OutputFormat) (t : StatusJob) : Run :=
  let opened := do
    let allowed ← (readDuration t.timeout).mapError Failure.duration
    let speed ← s.openLine t.line
    return (allowed, speed)
  match opened with
  | .error cause => s.early (.failed cause)
  | .ok (allowed, speed) =>
    let transport := s.device.transport
    match s.now.add? allowed with
    | none => ⟨[], .crashed .deadlineOverflow, some speed, transport⟩
    | some _ =>
      match await allowed .start s.device.reads with
      | .error cause => s.finish (some speed) transport [] (.error cause)
      | .ok queue =>
        s.finish (some speed) transport (report format s.stamp t.selected ⟨queue⟩) (.ok .success)

end Status

end FramedSerial
