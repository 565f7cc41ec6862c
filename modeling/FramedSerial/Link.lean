import FramedSerial.Link.Intake
import FramedSerial.Link.Transmit

/-!
# A link between a framed line and its user

A link is an intake, a transport for the way out, and the way its user reads. The intake and
the user share the queue and nothing else: what is received reaches the user through the
queue or the snapshot, and what the user writes goes straight to the transport.

Reading through a standard reader turns link errors into I/O errors. `readExact` is the loop
that such a reader runs to fill a buffer, and it must come to a stop at an interrupt.
-/

namespace FramedSerial

/-- The settings of a link. -/
structure LinkConfig where
  stagingCapacity : UInt64
  queueCapacity : UInt64
  mode : ReadMode
  timeout : Option Duration

/-- The usual settings. -/
def LinkConfig.usual : LinkConfig :=
  ⟨UInt64.ofNat defaultStagingCapacity, UInt64.ofNat Delivery.defaultCapacity, .blocking, none⟩

/-- An intake, a transport and the way the user reads. -/
structure Link where
  intake : Intake
  transport : Transport
  mode : ReadMode
  timeout : Option Duration

/-- How a call on a link ended, the link after it, and what has yet to happen. -/
structure LinkRead (α : Type) where
  ending : α
  link : Link
  later : List (Instant × Happening)

namespace Link

/-- Set a link up. -/
def create (config : LinkConfig) (transport : Transport) : Except Crash (Logged Link) := do
  let queue ← Delivery.allocate config.queueCapacity
  let decoder ← StagedDecoder.allocate config.stagingCapacity.toNat
  return do
    Logged.tell (.linkCreated config.stagingCapacity.toNat config.queueCapacity.toNat)
    return ⟨⟨decoder, queue⟩, transport, config.mode, config.timeout⟩

/-- The queue that both sides share. -/
def queue (l : Link) : Delivery := l.intake.queue

/-- The link with another state of its queue. -/
def withQueue (l : Link) (q : Delivery) : Link := { l with intake := { l.intake with queue := q } }

/-- Take in a chunk from the line. -/
def receive (l : Link) (chunk : Bytes) : Logged (Nat × Link) := do
  let (accepted, intake) ← l.intake.receive chunk
  return (accepted, { l with intake })

/-- Read the line until it ends, fails or is told to stop. -/
def pump (l : Link) (running : Bool) (turns : List LineTurn) : Logged (Pumped × Link) := do
  let pumped ← l.intake.pump running turns
  return (pumped, { l with intake := pumped.intake })

/-- Call a reader off. -/
def interrupt (l : Link) : Link := l.withQueue l.queue.interrupt

/-- Drop the bytes of an incomplete frame. -/
def resetStaging (l : Link) : Link := { l with intake := l.intake.reset }

/-- Drop everything that is on its way to the user. -/
def reset (l : Link) : Link :=
  let l := l.resetStaging
  l.withQueue l.queue.drain

/-- Read into a buffer of `room` bytes, amid what happens to the queue. -/
def readWith (l : Link) (mode : ReadMode) (room : Nat) (now : Instant)
    (later : List (Instant × Happening)) : Logged (LinkRead ReadEnd) := do
  let (ending, q, later) ← l.queue.readAmid room mode l.timeout now later
  return ⟨ending, l.withQueue q, later⟩

/-- Read in the link's own mode. -/
def read (l : Link) (room : Nat) (now : Instant) (later : List (Instant × Happening)) :
    Logged (LinkRead ReadEnd) :=
  l.readWith l.mode room now later

/-- A read amid happenings that all take place. -/
def readDuring (l : Link) (mode : ReadMode) (room : Nat) (now : Instant)
    (happenings : List (Instant × Happening)) : Logged (ReadEnd × Link) := do
  let (ending, q) ← l.queue.readDuring room mode l.timeout now happenings
  return (ending, l.withQueue q)

/-- A read during which a chunk comes from the line: if the read still waits at the arrival,
it goes on when the chunk has been received. -/
def readDuringReceive (l : Link) (mode : ReadMode) (room : Nat) (now arrival : Instant)
    (chunk : Bytes) : Logged (ReadEnd × Link) := do
  let waiting := if room = 0 then none else
    match Delivery.deadline l.timeout now with
    | .error _ => none
    | .ok deadline =>
      if (l.queue.turn room mode deadline now).isNone
          && deadline.all (fun d => arrival.le d.time) then some deadline else none
  match waiting with
  | some deadline =>
    let (_, l) ← l.receive chunk
    let (ending, q, _) ← l.queue.turns room mode deadline arrival []
    return (ending, l.withQueue q)
  | none =>
    let r ← l.readWith mode room now []
    let (_, l) ← r.link.receive chunk
    return (r.ending, l)

/-- Send a message. -/
def write (l : Link) (data : Bytes) : Logged (Except LinkError Nat × Link) := do
  let (result, transport) ← l.transport.transmit data
  return (result, { l with transport })

/-- Send a message through a standard writer. -/
def writeAll (l : Link) (data : Bytes) : Logged (Except IoError Unit × Link) := do
  let (result, transport) ← l.transport.writeAll data
  return (result, { l with transport })

/-! ## Filling a buffer -/

/-- The bytes that a filling loop has put into its buffer, and how it ended. -/
structure Filled where
  bytes : Bytes
  ending : Ending IoError Unit

/-- Fill a buffer of `room` bytes as a standard reader does: go on after a short read, try
again after an error of the kind `interrupted`, and stop at any other error or at the end of
the stream. Each turn of the loop fills a part of the buffer, spends the latch, or uses up
something that happens, which bounds the number of turns. -/
def fillBuffer (l : Link) (now : Instant) :
    Nat → Nat → List (Instant × Happening) → Logged (LinkRead Filled)
  | _, 0, later => return ⟨⟨[], Ending.returned (.ok ())⟩, l, later⟩
  | 0, _, later => return ⟨⟨[], .waiting⟩, l, later⟩
  | fuel + 1, room, later => do
    let r ← l.read room now later
    match r.ending with
    | .returned (.ok []) =>
      return ⟨⟨[], .returned (.error (.custom .unexpectedEof "failed to fill whole buffer"))⟩,
        r.link, r.later⟩
    | .returned (.ok bytes) =>
      let more ← fillBuffer r.link now fuel (room - bytes.length) r.later
      return { more with ending := { more.ending with bytes := bytes ++ more.ending.bytes } }
    | .returned (.error e) =>
      if e.toIo.kind = .interrupted then fillBuffer r.link now fuel room r.later
      else return ⟨⟨[], .returned (.error e.toIo)⟩, r.link, r.later⟩
    | .waiting => return ⟨⟨[], .waiting⟩, r.link, r.later⟩
    | .crashed cause => return ⟨⟨[], .crashed cause⟩, r.link, r.later⟩

/-- Fill a buffer of `room` bytes, amid what happens to the queue. -/
def readExact (l : Link) (room : Nat) (now : Instant) (later : List (Instant × Happening)) :
    Logged (LinkRead Filled) :=
  fillBuffer l now (room + later.length + 2) room later

end Link

end FramedSerial
