import FramedSerial.Decoder.Stats

/-!
# A decoder with a bounded store

Chunks of a byte stream arrive in any size, and the bytes that are not a frame yet wait in a
store of limited capacity. The limit is strict: a chunk that does not fit beside the waiting
bytes clears them and is dropped itself, because what would be left of either could not be
decoded anyway.

Frames are taken out lazily. Staging a chunk decodes nothing; each `next` decodes as far as
one frame, and frames that nobody asks for stay in the store.
-/

namespace FramedSerial

/-- A store of undecoded bytes, its limit and its counters. -/
structure StagedDecoder where
  capacity : Nat
  pending : Bytes
  stats : DecodeStats
deriving DecidableEq

namespace StagedDecoder

/-- An empty store of this capacity. -/
def empty (capacity : Nat) : StagedDecoder := ⟨capacity, [], .zero⟩

/-- An empty store, set aside in memory at once. -/
def allocate (capacity : Nat) : Except Crash StagedDecoder :=
  if capacity ≤ maxAllocation then .ok (empty capacity) else .error .capacityOverflow

/-- Add a chunk to the store. An empty chunk changes nothing; one that does not fit leaves
the store empty. -/
def stage (d : StagedDecoder) (chunk : Bytes) :
    Logged (Except FrameError Unit × StagedDecoder) :=
  if chunk.isEmpty then return (.error .emptyChunk, d)
  else if d.capacity < d.pending.length + chunk.length then do
    let cause := FrameError.overflow d.pending.length chunk.length d.capacity
    Logged.tell (.stagingReset cause)
    return (.error cause,
      { d with
        pending := []
        stats := { d.stats with overflowResets := d.stats.overflowResets + 1 } })
  else do
    let staged := d.pending ++ chunk
    Logged.tell (.chunkStaged staged.length)
    return (.ok (), { d with pending := staged })

/-- Take the next frame out of the store, if one is complete. -/
def next (d : StagedDecoder) : Logged (Option Frame × StagedDecoder) :=
  let p := pull d.capacity d.pending
  ⟨(p.frame?, { d with pending := p.rest, stats := d.stats.afterPull p }), p.events⟩

/-- Taking a frame out leaves less in the store. -/
theorem length_next_lt {d : StagedDecoder} {f : Frame} (h : d.next.value.1 = some f) :
    d.next.value.2.pending.length < d.pending.length := by
  have h' : (pull d.capacity d.pending).frame? = some f := h
  exact length_pull_lt (by rw [h']; rfl)

/-- Take out at most so many frames. -/
def takeFrames : Nat → StagedDecoder → Logged (List Frame × StagedDecoder)
  | 0, d => return ([], d)
  | n + 1, d => do
    let (f?, d) ← d.next
    match f? with
    | none => return ([], d)
    | some f =>
      let (fs, d) ← takeFrames n d
      return (f :: fs, d)

/-- Take out every complete frame. -/
def takeAll (d : StagedDecoder) : Logged (List Frame × StagedDecoder) :=
  match _h : d.next.value with
  | (none, d') => ⟨([], d'), d.next.events⟩
  | (some f, d') =>
    let more := takeAll d'
    ⟨(f :: more.value.1, more.value.2), d.next.events ++ more.events⟩
termination_by d.pending.length
decreasing_by
  have := length_next_lt (d := d) (f := f) (by rw [_h])
  rwa [_h] at this

/-- Empty the store; the counters stay. -/
def reset (d : StagedDecoder) : StagedDecoder := { d with pending := [] }

end StagedDecoder

end FramedSerial
