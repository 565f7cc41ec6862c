import FramedSerial.Event
import FramedSerial.Frame.Scan

/-!
# What a decoder counts

Both decoders count the frames they hand out and the bytes they discard; a pull says how
many of each there were, so `DecodeStats.afterPull` is the only place where the two counters
move.

The counters are natural numbers, though the program keeps them in words of 64 bits. The two
agree up to `2 ^ 64`, and no run gets there: each count is of frames, bytes or chunks that went
by one after the other, and a thousand million a second would take five centuries.
-/

namespace FramedSerial

/-- The counters of a decoder. -/
structure DecodeStats where
  /-- Frames handed out. -/
  frames : Nat
  /-- Bytes discarded in search of a signature. -/
  resyncBytes : Nat
  /-- Chunks lost because they did not fit. -/
  overflowResets : Nat
deriving DecidableEq

namespace DecodeStats

/-- Nothing counted yet. -/
def zero : DecodeStats := ⟨0, 0, 0⟩

/-- The counters after a pull. -/
def afterPull (s : DecodeStats) (p : Pull) : DecodeStats :=
  { s with
    frames := s.frames + p.frame?.toList.length
    resyncBytes := s.resyncBytes + p.discarded.length }

end DecodeStats

/-- The number of bytes a decoder can have staged unless told otherwise. -/
def defaultStagingCapacity : Nat := 2048

/-- One event for each discarded byte. -/
def Pull.events (p : Pull) : List Event := p.discarded.map .byteDiscarded

@[simp] theorem Pull.length_events (p : Pull) : p.events.length = p.discarded.length := by
  simp [Pull.events]

end FramedSerial
