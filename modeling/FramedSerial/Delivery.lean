import FramedSerial.Event
import FramedSerial.Ring

/-!
# The delivery queue

Bytes for the reader wait in a ring, beside the latest snapshot and a latch that an interrupt
sets. Several parties use the queue at once, each under a lock, so every operation here is
one critical section: `push`, `tryPop`, `interrupt`, `drain`, `store`, and for a read each
turn of its loop.

A read takes turns until one decides it. On each turn queued bytes come first, whatever else
is the case; with nothing queued, a reader that does not want to wait is told so, then the
latch is spent, and only then does the deadline count. A turn that decides nothing suspends
the reader until something happens, and something may have happened to another reader first,
so the next turn looks at everything again. `readAmid` runs the turns of one reader amid a
list of such happenings.

The count of evicted bytes is a natural number where the program has a word of 64 bits, for
no run evicts `2 ^ 64` bytes.
-/

namespace FramedSerial

/-- Whether a read waits for bytes. -/
inductive ReadMode where
  | blocking
  | nonBlocking
deriving DecidableEq

/-- Queued bytes and what is shared with their readers. -/
structure Delivery where
  ring : Ring
  snapshot : Snapshot
  /-- An interrupt is waiting for a reader. -/
  latch : Bool
  /-- Bytes that had to go for newer ones. -/
  evicted : Nat

/-- When a read gives up, and how long that was from its start. -/
structure Deadline where
  time : Instant
  allowed : Duration

/-- What happens to a queue while a reader is suspended. -/
inductive Happening where
  /-- Bytes are pushed. -/
  | pushed (bytes : Bytes)
  /-- The reader, or another one, is called off. -/
  | interrupted
  /-- Nothing; the reader wakes all the same. -/
  | nothing

/-- How a call ends that may have to wait. -/
inductive Ending (ε α : Type) where
  /-- It returns a result or an error. -/
  | returned (result : Except ε α)
  /-- It is still waiting after all that happened. -/
  | waiting
  /-- Its deadline is no reading of the clock. -/
  | crashed (cause : Crash)

/-- How a read ends. -/
abbrev ReadEnd := Ending LinkError Bytes

namespace Delivery

/-- The number of bytes a queue holds unless told otherwise. -/
def defaultCapacity : Nat := 2048

/-- A queue around this ring. -/
def ofRing (ring : Ring) : Delivery := ⟨ring, .initial, false, 0⟩

/-- An empty queue for a number of bytes that is known to be small enough. -/
def ofCapacity (capacity : Nat) (h : capacity < maxAllocation) : Delivery :=
  ofRing (Ring.ofCapacity capacity h)

/-- An empty queue for this many bytes. -/
def allocate (capacity : UInt64) : Except Crash Delivery :=
  (Ring.allocate capacity).map ofRing

/-- An empty queue of the usual size. -/
def ofDefaultCapacity : Delivery := ofCapacity defaultCapacity (by decide)

/-- Append bytes in order, and count the bytes that had to go. -/
def push (q : Delivery) (bytes : Bytes) : Logged (Nat × Delivery) := do
  let (ring, gone) := q.ring.pushAll bytes
  if 0 < gone then Logged.tell (.bytesEvicted gone)
  return (gone, { q with ring, evicted := q.evicted + gone })

/-- Append one byte, and say whether a byte had to go. -/
def pushByte (q : Delivery) (b : UInt8) : Logged (Bool × Delivery) := do
  let (gone, q) ← q.push [b]
  return (0 < gone, q)

/-- Take the oldest byte without waiting. -/
def tryPop (q : Delivery) : Except LinkError UInt8 × Delivery :=
  match q.ring.pop with
  | (some b, ring) => (.ok b, { q with ring })
  | (none, ring) => (.error .wouldBlock, { q with ring })

/-- Set the latch. -/
def interrupt (q : Delivery) : Delivery := { q with latch := true }

/-- Drop every waiting byte. -/
def drain (q : Delivery) : Delivery := { q with ring := q.ring.clear }

/-- Store both halves of a snapshot at once. -/
def store (q : Delivery) (s : Snapshot) : Delivery := { q with snapshot := s }

/-! ## Reads -/

/-- One turn of a read into a buffer of `room` bytes: the result and the queue after it, or
`none` if the reader has to wait. -/
def turn (q : Delivery) (room : Nat) (mode : ReadMode) (deadline : Option Deadline)
    (now : Instant) : Option (Except LinkError Bytes × Delivery) :=
  if q.ring.isEmpty then
    match mode with
    | .nonBlocking => some (.error .wouldBlock, q)
    | .blocking =>
      if q.latch then some (.error .interrupted, { q with latch := false })
      else
        match deadline with
        | none => none
        | some d => if d.time.le now then some (.error (.timedOut d.allowed), q) else none
  else
    let (bytes, ring) := q.ring.popUpTo room
    some (.ok bytes, { q with ring })

/-- A happening is one operation on the queue. -/
def meet (q : Delivery) : Happening → Logged Delivery
  | .pushed bytes => do
    let (_, q) ← q.push bytes
    return q
  | .interrupted => return q.interrupt
  | .nothing => return q

/-- The turns of a reader, one at each moment of the list after the first. A reader with a
deadline does not sleep past it, neither before the next happening nor with nothing left to
happen. Also says what the reader did not live to see. -/
def turns (q : Delivery) (room : Nat) (mode : ReadMode) (deadline : Option Deadline)
    (now : Instant) : List (Instant × Happening) →
      Logged (ReadEnd × Delivery × List (Instant × Happening))
  | [] =>
    match q.turn room mode deadline now with
    | some (result, q) => return (.returned result, q, [])
    | none =>
      match deadline.bind fun d => q.turn room mode deadline d.time with
      | some (result, q) => return (.returned result, q, [])
      | none => return (.waiting, q, [])
  | (moment, happening) :: later =>
    match q.turn room mode deadline now with
    | some (result, q) => return (.returned result, q, (moment, happening) :: later)
    | none =>
      match deadline.bind fun d =>
        if moment.le d.time then none else q.turn room mode deadline d.time with
      | some (result, q) => return (.returned result, q, (moment, happening) :: later)
      | none => do
        let q ← q.meet happening
        turns q room mode deadline moment later

/-- The deadline of a read that starts `now`. -/
def deadline (timeout : Option Duration) (now : Instant) : Except Crash (Option Deadline) :=
  match timeout with
  | none => .ok none
  | some allowed =>
    match now.add? allowed with
    | none => .error .deadlineOverflow
    | some time => .ok (some ⟨time, allowed⟩)

/-- A read into a buffer of `room` bytes that starts `now`. An empty buffer is full at once;
otherwise the deadline is worked out before anything is looked at. -/
def readAmid (q : Delivery) (room : Nat) (mode : ReadMode) (timeout : Option Duration)
    (now : Instant) (later : List (Instant × Happening)) :
    Logged (ReadEnd × Delivery × List (Instant × Happening)) :=
  if room = 0 then return (.returned (.ok []), q, later)
  else
    match deadline timeout now with
    | .error cause => return (.crashed cause, q, later)
    | .ok deadline => q.turns room mode deadline now later

/-- A read amid happenings that all take place, those too that the reader does not live to
see. -/
def readDuring (q : Delivery) (room : Nat) (mode : ReadMode) (timeout : Option Duration)
    (now : Instant) (happenings : List (Instant × Happening)) : Logged (ReadEnd × Delivery) := do
  let (ending, q, unseen) ← q.readAmid room mode timeout now happenings
  let q ← unseen.foldlM (fun q h => q.meet h.2) q
  return (ending, q)

/-- A read during which nothing happens. -/
def read (q : Delivery) (room : Nat) (mode : ReadMode) (timeout : Option Duration)
    (now : Instant) : ReadEnd × Delivery :=
  let (ending, q, _) := (q.readAmid room mode timeout now []).value
  (ending, q)

end Delivery

/-! ## The state as others see it -/

/-- A look at the snapshot of a queue, as it is when it is looked at. -/
structure StatusView where
  queue : Delivery

namespace StatusView

def snapshot (v : StatusView) : Snapshot := v.queue.snapshot

def rootState (v : StatusView) : UInt8 := v.snapshot.rootState

def version (v : StatusView) : UInt8 := v.snapshot.version

/-- The text published for an attribute. -/
def render (v : StatusView) (a : Attribute) : String := a.render v.snapshot

end StatusView

end FramedSerial
