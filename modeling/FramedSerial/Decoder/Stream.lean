import FramedSerial.Decoder.Stats

/-!
# A decoder over somebody else's buffer

Here the undecoded bytes belong to the caller, who appends to them at will, so there is
nothing to overflow. What the capacity still does is to tell a header that cannot be meant:
one that announces a frame longer than the capacity is taken for a corrupted one.

At the end of the stream the bytes of an incomplete frame are of no use to anybody and are
dropped; they are not counted, since nobody was looking for a signature in them.
-/

namespace FramedSerial

/-- The greatest frame to expect and the counters. -/
structure StreamDecoder where
  capacity : Nat
  stats : DecodeStats
deriving DecidableEq

namespace StreamDecoder

/-- A decoder that has counted nothing. -/
def new (capacity : Nat) : StreamDecoder := ⟨capacity, .zero⟩

/-- Take the next frame off the head of the buffer, if one is complete, and say what is left
of the buffer. -/
def decode (d : StreamDecoder) (src : Bytes) :
    Logged (Option Frame × Bytes × StreamDecoder) :=
  let p := pull d.capacity src
  ⟨(p.frame?, p.rest, { d with stats := d.stats.afterPull p }), p.events⟩

/-- Decoding a frame leaves less of the buffer. -/
theorem length_decode_lt {d : StreamDecoder} {src : Bytes} {f : Frame}
    (h : (d.decode src).value.1 = some f) : (d.decode src).value.2.1.length < src.length := by
  have h' : (pull d.capacity src).frame? = some f := h
  exact length_pull_lt (by rw [h']; rfl)

/-- Take every complete frame off the head of the buffer. -/
def decodeAll (d : StreamDecoder) (src : Bytes) : Logged (List Frame × Bytes × StreamDecoder) :=
  match _h : (d.decode src).value with
  | (none, rest, d') => ⟨([], rest, d'), (d.decode src).events⟩
  | (some f, rest, d') =>
    let more := decodeAll d' rest
    ⟨(f :: more.value.1, more.value.2), (d.decode src).events ++ more.events⟩
termination_by src.length
decreasing_by
  have := @length_decode_lt d src f (by rw [_h])
  rwa [_h] at this

/-- As `decode`, when no more bytes will come: if no frame is complete, the rest of the
buffer is dropped. -/
def decodeLast (d : StreamDecoder) (src : Bytes) :
    Logged (Option Frame × Bytes × StreamDecoder) := do
  let (f?, rest, d) ← d.decode src
  match f? with
  | some f => return (some f, rest, d)
  | none =>
    if rest.isEmpty then return (none, [], d)
    else
      Logged.tell (.streamCutShort rest.length)
      return (none, [], d)

/-- Append a frame to a buffer. -/
def encode (f : Frame) (dst : Bytes) : Bytes := dst ++ f.wire

end StreamDecoder

end FramedSerial
