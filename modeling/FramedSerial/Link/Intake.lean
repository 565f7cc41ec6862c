import FramedSerial.Link.Route

/-!
# From the line into the queue

An intake joins a staged decoder to a delivery queue: what it receives is staged, and each
frame that becomes complete is routed before the next one is looked for. Nothing that can
arrive makes `receive` fail; what it cannot use it reports and drops.

`pump` receives whatever a reader of the line delivers until the line ends, fails or the
pump is stopped. The flag that stops it can fall at any time, so each turn of the reader says
whether it fell meanwhile; the pump looks at it only between turns. The bytes it has read are
a natural number where the program has a word of 64 bits, for no line brings `2 ^ 64` bytes.
-/

namespace FramedSerial

/-- A decoder and the queue it feeds. -/
structure Intake where
  decoder : StagedDecoder
  queue : Delivery

/-- One turn of a line's reader. -/
structure LineTurn where
  /-- The pump was told to stop while the reader was at work. -/
  stops : Bool
  /-- Bytes, no bytes at the end of the line, or an error. -/
  outcome : Except IoError Bytes

/-- How a pump ended. -/
structure Pumped where
  /-- The number of bytes read, or the error that ended it. -/
  result : Except LinkError Nat
  /-- How many turns the reader took. -/
  reads : Nat
  intake : Intake

namespace Intake

/-- Route every frame that is complete, each before the next is looked for. -/
def routeStaged (i : Intake) : Logged Intake :=
  match _h : i.decoder.next.value with
  | (none, decoder) => ⟨{ i with decoder }, i.decoder.next.events⟩
  | (some f, decoder) =>
    let routed := i.queue.route f
    let rest := routeStaged ⟨decoder, routed.value.2⟩
    ⟨rest.value, i.decoder.next.events ++ (routed.events ++ rest.events)⟩
termination_by i.decoder.pending.length
decreasing_by
  have := StagedDecoder.length_next_lt (d := i.decoder) (f := f) (by rw [_h])
  rwa [_h] at this

/-- Take in a chunk and say how many of its bytes were accepted: all of them, or none if the
chunk was empty or did not fit. -/
def receive (i : Intake) (chunk : Bytes) : Logged (Nat × Intake) := do
  let (result, decoder) ← i.decoder.stage chunk
  match result with
  | .ok () =>
    let i ← routeStaged { i with decoder }
    return (chunk.length, i)
  | .error .emptyChunk =>
    Logged.tell .emptyReceive
    return (0, { i with decoder })
  | .error _ => return (0, { i with decoder })

/-- Drop the bytes of an incomplete frame. -/
def reset (i : Intake) : Intake := { i with decoder := i.decoder.reset }

/-- An error after which the line is read again. -/
def isPassing (e : IoError) : Bool :=
  e.kind == .wouldBlock || e.kind == .interrupted || e.kind == .timedOut

/-- What a turn of the reader tells about the line. -/
inductive LineState where
  /-- So many bytes came. -/
  | flowing (count : Nat)
  /-- The line is at its end. -/
  | ended
  /-- The line failed for good. -/
  | failed (cause : LinkError)

/-- Meet the outcome of one turn of the reader. -/
def meet (i : Intake) (outcome : Except IoError Bytes) : Logged (LineState × Intake) :=
  match outcome with
  | .ok [] => return (.ended, i)
  | .ok chunk => do
    let (_, i) ← i.receive chunk
    return (.flowing chunk.length, i)
  | .error e =>
    if isPassing e then return (.flowing 0, i) else return (.failed (.transport e), i)

/-- Receive what the reader delivers. `running` is the flag, `total` counts the bytes read
and `reads` the turns taken so far. A reader without further turns is at the end of its
line. -/
def pumpFrom (running : Bool) (total reads : Nat) (i : Intake) : List LineTurn → Logged Pumped
  | [] =>
    if running then do
      Logged.tell (.lineClosed total)
      return ⟨.ok total, reads + 1, i⟩
    else return ⟨.ok total, reads, i⟩
  | t :: later =>
    if running then do
      let (state, i) ← i.meet t.outcome
      match state with
      | .flowing count => pumpFrom (!t.stops) (total + count) (reads + 1) i later
      | .ended =>
        Logged.tell (.lineClosed total)
        return ⟨.ok total, reads + 1, i⟩
      | .failed cause => return ⟨.error cause, reads + 1, i⟩
    else return ⟨.ok total, reads, i⟩

/-- Receive what the reader delivers, from the start. -/
def pump (i : Intake) (running : Bool) (turns : List LineTurn) : Logged Pumped :=
  pumpFrom running 0 0 i turns

end Intake

end FramedSerial
