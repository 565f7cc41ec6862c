import FramedSerial.Command.Failure
import FramedSerial.Delivery

/-!
# Forwarding what is queued

The forwarder copies bytes from the delivery queue to standard output while somebody else
fills the queue. It takes one step at a time, so that its steps and those of the other side
can be interleaved in any order.

In blocking mode it stops at an interrupt. In the polling mode it asks, each time it finds the
queue empty, whether the other side has stopped; bytes may have been queued between the two,
so it then drains the queue before it ends.
-/

namespace FramedSerial

/-- What a forwarder is about to do. -/
inductive ForwardPhase where
  /-- Read the queue. -/
  | reading
  /-- Ask whether the other side has stopped, having found the queue empty. -/
  | asking
  /-- Read what is left, the other side having stopped. -/
  | draining
  /-- Nothing any more. -/
  | ended (result : Except Failure Unit)

/-- A forwarder and what it has written, the last write first. -/
structure Forwarder where
  phase : ForwardPhase
  writes : List Bytes

namespace Forwarder

/-- A forwarder that has written nothing. -/
def start : Forwarder := ⟨.reading, []⟩

/-- The bytes that a forwarder has written, in their order. -/
def written (f : Forwarder) : Bytes := f.writes.reverse.flatten

/-- The most bytes that a forwarder reads at once. -/
def room : Nat := 256

/-- Write bytes that were read; a standard output that is out of order ends the forwarder. -/
def write (fault : Option IoError) (f : Forwarder) (bytes : Bytes) : Forwarder :=
  match fault with
  | none => { f with writes := bytes :: f.writes }
  | some cause => { f with phase := .ended (.error (.io "stdout write failed" cause)) }

/-- A write adds its bytes to the end of what was written. -/
theorem written_write (f : Forwarder) (bytes : Bytes) :
    (f.write none bytes).written = f.written ++ bytes := by
  simp [write, written]

/-- Read the queue without a deadline, `onEmpty` being the phase after a polling read that
finds nothing. -/
def readQueue (mode : ReadMode) (fault : Option IoError) (onEmpty : ForwardPhase)
    (f : Forwarder) (q : Delivery) : Option (Forwarder × Delivery) :=
  match q.turn room mode none ⟨0, 0⟩ with
  | none => none
  | some (.ok bytes, q) => some (f.write fault bytes, q)
  | some (.error .wouldBlock, q) => some ({ f with phase := onEmpty }, q)
  | some (.error .interrupted, q) => some ({ f with phase := .ended (.ok ()) }, q)
  | some (.error e, q) => some ({ f with phase := .ended (.error (.link "read failed" e)) }, q)

/-- One step, or none if the forwarder has to wait or has ended. `stopped` is what it is told
if it asks. -/
def step (mode : ReadMode) (fault : Option IoError) (stopped : Bool) (f : Forwarder)
    (q : Delivery) : Option (Forwarder × Delivery) :=
  match f.phase with
  | .reading => f.readQueue mode fault .asking q
  | .asking => some ({ f with phase := if stopped then .draining else .reading }, q)
  | .draining => f.readQueue .nonBlocking fault (.ended (.ok ())) q
  | .ended _ => none

/-- At most so many steps on end. -/
def steps (mode : ReadMode) (fault : Option IoError) (stopped : Bool) :
    Nat → Forwarder → Delivery → Forwarder × Delivery
  | 0, f, q => (f, q)
  | n + 1, f, q =>
    match f.step mode fault stopped q with
    | none => (f, q)
    | some (f, q) => steps mode fault stopped n f q

/-- Enough steps to write everything that is queued and, if the other side has stopped, to
end: one for each byte at most, and one for each change of phase. -/
def catchUp (mode : ReadMode) (fault : Option IoError) (stopped : Bool) (f : Forwarder)
    (q : Delivery) : Forwarder × Delivery :=
  f.steps mode fault stopped (q.ring.length + 4) q

end Forwarder

end FramedSerial
