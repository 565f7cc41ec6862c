import FramedSerial.Proofs.Drain

/-!
# Decoding in turns

A stream reaches a decoder in chunks, and frames are taken out between the
chunks, one at a time, by a caller who may stop whenever he likes. None of
this shows in the end. Once everything staged has been taken out, the frames,
the counters and what is left are those of a decoder that was handed the whole
stream at once.

The reason is one invariant. Whatever a caller has taken so far is the
beginning of what draining the stream so far would give (`Drain.Begins`): more
bytes at the end keep it so, because draining may stop anywhere and go on, and
another frame taken keeps it so, because draining is pulling repeatedly. The
invariant speaks of the stream and of what was taken off it and of no decoder,
so it serves both of them.
-/

namespace FramedSerial

/-! ## Beginnings of a drain -/

/-- `x` is the first part of draining `s`, and draining its rest is the other
part. -/
def Drain.Begins (capacity : Nat) (s : Bytes) (x : Drain) : Prop :=
  drain capacity s = x.andThen (drain capacity x.rest)

namespace Drain

variable {capacity : Nat} {s : Bytes} {x y : Drain}

theorem begins_nothing (capacity : Nat) (s : Bytes) :
    Begins capacity s (nothing s) := rfl

theorem begins_pull (capacity : Nat) (s : Bytes) :
    Begins capacity s (pull capacity s).toDrain :=
  drain_eq_pull_andThen capacity s

theorem Begins.andThen (hx : Begins capacity s x) (hy : Begins capacity x.rest y) :
    Begins capacity s (x.andThen y) := by
  have hx' : drain capacity s = x.andThen (drain capacity x.rest) := hx
  have hy' : drain capacity x.rest = y.andThen (drain capacity y.rest) := hy
  show drain capacity s = (x.andThen y).andThen (drain capacity y.rest)
  rw [hx', hy', andThen_assoc]

/-- What has been taken stays a beginning when more bytes arrive. -/
theorem Begins.append (hx : Begins capacity s x) (t : Bytes) :
    Begins capacity (s ++ t) (x.andThen (nothing (x.rest ++ t))) := by
  have hx' : drain capacity s = x.andThen (drain capacity x.rest) := hx
  show drain capacity (s ++ t) =
    (x.andThen (nothing (x.rest ++ t))).andThen (drain capacity (x.rest ++ t))
  rw [drain_append, hx', andThen_assoc, andThen_assoc, rest_andThen,
    nothing_andThen, ← drain_append]

end Drain

/-- All that a decoder has made of a stream. -/
structure Decoded where
  /-- The frames it handed out. -/
  frames : List Frame
  stats : DecodeStats
  /-- The bytes it has made nothing of yet. -/
  rest : Bytes
deriving DecidableEq

/-! ## The decoder that stages -/

namespace StagedDecoder

/-- What a caller does. -/
inductive Call where
  /-- Feed a chunk, and take at most so many of the frames it completes. -/
  | feed (chunk : Bytes) (taken : Nat)
  /-- Take at most so many of the frames that are staged. -/
  | frames (taken : Nat)

/-- The bytes that a call brings. -/
def Call.bytes : Call → Bytes
  | .feed chunk _ => chunk
  | .frames _ => []

def yield (d : StagedDecoder) (taken : Nat) :
    Except FrameError (List Frame) × StagedDecoder :=
  let r := (d.takeFrames taken).value
  (.ok r.1, r.2)

/-- One call: the frames it hands out, or why it handed out none. -/
def call (d : StagedDecoder) :
    Call → Except FrameError (List Frame) × StagedDecoder
  | .feed chunk taken =>
    match (d.stage chunk).value with
    | (.ok (), d) => d.yield taken
    | (.error e, d) => (.error e, d)
  | .frames taken => d.yield taken

def calls (d : StagedDecoder) :
    List Call → List (Except FrameError (List Frame)) × StagedDecoder
  | [] => ([], d)
  | c :: later =>
    let r := d.call c
    let more := r.2.calls later
    (r.1 :: more.1, more.2)

/-- A chunk was lost, and what was staged with it. -/
def overflowed : Except FrameError (List Frame) → Bool
  | .error (.overflow _ _ _) => true
  | _ => false

/-- The frames that calls handed out. -/
def yielded (results : List (Except FrameError (List Frame))) : List Frame :=
  results.flatMap fun r => r.toOption.getD []

/-- Make these calls of a fresh decoder, and at last take out everything. -/
def decoded (capacity : Nat) (cs : List Call) : Decoded :=
  let r := (empty capacity).calls cs
  let last := r.2.takeAll.value
  ⟨yielded r.1 ++ last.1, last.2.stats, last.2.pending⟩

end StagedDecoder

/-! ## The decoder over a buffer -/

namespace StreamDecoder

/-- What the owner of the buffer does. -/
inductive Call where
  | append (bytes : Bytes)
  | decode

/-- The bytes that a call brings. -/
def Call.bytes : Call → Bytes
  | .append bytes => bytes
  | .decode => []

/-- One call, on a buffer: the frame it hands out, the buffer and the decoder
after it. -/
def call (d : StreamDecoder) (buffer : Bytes) :
    Call → Option Frame × Bytes × StreamDecoder
  | .append bytes => (none, buffer ++ bytes, d)
  | .decode => (d.decode buffer).value

def calls (d : StreamDecoder) (buffer : Bytes) :
    List Call → List Frame × Bytes × StreamDecoder
  | [] => ([], buffer, d)
  | c :: later =>
    let r := d.call buffer c
    let more := r.2.2.calls r.2.1 later
    (r.1.toList ++ more.1, more.2)

/-- Make these calls of a fresh decoder on an empty buffer, and at last decode
until no frame is left. -/
def decoded (capacity : Nat) (cs : List Call) : Decoded :=
  let r := (new capacity).calls [] cs
  let last := (r.2.2.decodeAll r.2.1).value
  ⟨r.1 ++ last.1, last.2.2.stats, last.2.1⟩

end StreamDecoder

/-- What draining a whole stream at once gives. -/
def Decoded.ofStream (capacity : Nat) (s : Bytes) : Decoded :=
  let x := drain capacity s
  ⟨x.frames, DecodeStats.zero.afterDrain x, x.rest⟩

theorem Drain.Begins.decoded {capacity : Nat} {s : Bytes} {x : Drain}
    (hx : x.Begins capacity s) :
    Decoded.ofStream capacity s = ⟨x.frames ++ (drain capacity x.rest).frames,
      (DecodeStats.zero.afterDrain x).afterDrain (drain capacity x.rest),
      (drain capacity x.rest).rest⟩ := by
  have hx' : drain capacity s = x.andThen (drain capacity x.rest) := hx
  rw [Decoded.ofStream, hx', DecodeStats.afterDrain_andThen]
  rfl

/-! ## The invariant through the calls of the staging decoder -/

namespace StagedDecoder

/-- The decoder has been fed `s` and has given `x` of it away. -/
structure Holds (capacity : Nat) (s : Bytes) (x : Drain) (d : StagedDecoder) : Prop where
  begins : x.Begins capacity s
  eq : d = (empty capacity).afterDrain x

theorem Holds.next {capacity : Nat} {s : Bytes} {x : Drain} {d : StagedDecoder}
    (h : Holds capacity s x d) :
    ∃ y, Holds capacity s y d.next.value.2 ∧
      y.frames = x.frames ++ d.next.value.1.toList := by
  obtain ⟨hx, rfl⟩ := h
  refine ⟨x.andThen (pull capacity x.rest).toDrain, ⟨?_, ?_⟩, rfl⟩
  · exact hx.andThen (Drain.begins_pull capacity x.rest)
  · rw [afterDrain_andThen]
    rfl

theorem Holds.takeFrames {capacity : Nat} {s : Bytes} (n : Nat) :
    ∀ {x : Drain} {d : StagedDecoder}, Holds capacity s x d →
      ∃ y, Holds capacity s y (d.takeFrames n).value.2 ∧
        y.frames = x.frames ++ (d.takeFrames n).value.1 := by
  induction n with
  | zero =>
      intro x d h
      exact ⟨x, h, (List.append_nil _).symm⟩
  | succ n ih =>
      intro x d h
      -- a pull that finds no frame may discard bytes all the same
      obtain ⟨y, hy, hframes⟩ := h.next
      simp only [StagedDecoder.takeFrames, Logged.value_bind]
      cases hf : d.next.value.1 with
      | none =>
          rw [hf] at hframes
          exact ⟨y, hy, hframes⟩
      | some f =>
          obtain ⟨z, hz, hmore⟩ := ih hy
          rw [hf] at hframes
          refine ⟨z, hz, ?_⟩
          rw [hmore, hframes, List.append_assoc]
          rfl

theorem Holds.call {capacity : Nat} {s : Bytes} {x : Drain} {d : StagedDecoder}
    (h : Holds capacity s x d) {c : Call} (hkept : overflowed (d.call c).1 = false) :
    ∃ y, Holds capacity (s ++ c.bytes) y (d.call c).2 ∧
      y.frames = x.frames ++ yielded [(d.call c).1] := by
  cases c with
  | frames taken =>
      obtain ⟨y, hy, hframes⟩ := h.takeFrames taken
      rw [Call.bytes, List.append_nil]
      refine ⟨y, hy, ?_⟩
      rw [hframes]
      simp [yielded, StagedDecoder.call, yield, Except.toOption]
  | feed chunk taken =>
      -- an empty chunk changes nothing, an overflow is excluded, and the rest
      -- is more bytes at the end of the stream
      simp only [StagedDecoder.call, stage_value] at hkept ⊢
      by_cases hempty : chunk = []
      · subst hempty
        simp only [if_true, Call.bytes, List.append_nil]
        exact ⟨x, h, by simp [yielded, Except.toOption]⟩
      · rw [if_neg hempty] at hkept ⊢
        by_cases hover : d.capacity < d.pending.length + chunk.length
        · rw [if_pos hover] at hkept
          cases hkept
        · rw [if_neg hover]
          have hstaged : Holds capacity (s ++ chunk)
              (x.andThen (Drain.nothing (x.rest ++ chunk)))
              { d with pending := d.pending ++ chunk } := by
            refine ⟨h.begins.append chunk, ?_⟩
            rw [afterDrain_andThen, h.eq]
            rfl
          obtain ⟨y, hy, hframes⟩ := hstaged.takeFrames taken
          refine ⟨y, hy, ?_⟩
          rw [hframes]
          simp [yielded, yield, Except.toOption, Drain.nothing]

theorem Holds.calls {capacity : Nat} :
    ∀ {cs : List Call} {s : Bytes} {x : Drain} {d : StagedDecoder},
      Holds capacity s x d → (∀ r ∈ (d.calls cs).1, overflowed r = false) →
      ∃ y, Holds capacity (s ++ cs.flatMap Call.bytes) y (d.calls cs).2 ∧
        y.frames = x.frames ++ yielded (d.calls cs).1 := by
  intro cs
  induction cs with
  | nil =>
      intro s x d h _
      exact ⟨x, by rwa [List.flatMap_nil, List.append_nil], (List.append_nil _).symm⟩
  | cons c later ih =>
      intro s x d h hkept
      obtain ⟨y, hy, hframes⟩ := h.call (hkept _ List.mem_cons_self)
      obtain ⟨z, hz, hmore⟩ := ih hy fun r hr => hkept r (List.mem_cons_of_mem _ hr)
      rw [List.append_assoc] at hz
      refine ⟨z, hz, ?_⟩
      rw [hmore, hframes, List.append_assoc]
      simp only [yielded, StagedDecoder.calls, List.flatMap_cons, List.flatMap_nil,
        List.append_nil]

theorem decoded_eq_ofStream {capacity : Nat} {cs : List Call}
    (hkept : ∀ r ∈ ((empty capacity).calls cs).1, overflowed r = false) :
    decoded capacity cs = .ofStream capacity (cs.flatMap Call.bytes) := by
  have hstart : Holds capacity [] (.nothing []) (empty capacity) :=
    ⟨Drain.begins_nothing capacity [], rfl⟩
  obtain ⟨x, hx, hframes⟩ := hstart.calls hkept
  simp only [Drain.nothing, List.nil_append] at hx hframes
  rw [hx.begins.decoded, decoded, takeAll_value, ← hframes, hx.eq]
  rfl

end StagedDecoder

/-! ## The invariant through the calls of the decoder over a buffer -/

namespace StreamDecoder

/-- The buffer has been appended `s`, and `x` of it has been decoded. -/
structure Holds (capacity : Nat) (s : Bytes) (x : Drain) (buffer : Bytes)
    (d : StreamDecoder) : Prop where
  begins : x.Begins capacity s
  buffer_eq : buffer = x.rest
  eq : d = ⟨capacity, DecodeStats.zero.afterDrain x⟩

theorem Holds.call {capacity : Nat} {s buffer : Bytes} {x : Drain}
    {d : StreamDecoder} (h : Holds capacity s x buffer d) (c : Call) :
    ∃ y, Holds capacity (s ++ c.bytes) y (d.call buffer c).2.1 (d.call buffer c).2.2 ∧
      y.frames = x.frames ++ (d.call buffer c).1.toList := by
  obtain ⟨hx, rfl, rfl⟩ := h
  cases c with
  | append bytes =>
      refine ⟨_, ⟨hx.append bytes, rfl, ?_⟩, rfl⟩
      rw [DecodeStats.afterDrain_andThen]
      rfl
  | decode =>
      rw [Call.bytes, List.append_nil]
      refine ⟨_, ⟨hx.andThen (Drain.begins_pull capacity x.rest), rfl, ?_⟩, rfl⟩
      rw [DecodeStats.afterDrain_andThen]
      rfl

theorem Holds.calls {capacity : Nat} :
    ∀ {cs : List Call} {s buffer : Bytes} {x : Drain} {d : StreamDecoder},
      Holds capacity s x buffer d →
      ∃ y, Holds capacity (s ++ cs.flatMap Call.bytes) y
          (d.calls buffer cs).2.1 (d.calls buffer cs).2.2 ∧
        y.frames = x.frames ++ (d.calls buffer cs).1 := by
  intro cs
  induction cs with
  | nil =>
      intro s buffer x d h
      exact ⟨x, by rwa [List.flatMap_nil, List.append_nil], (List.append_nil _).symm⟩
  | cons c later ih =>
      intro s buffer x d h
      obtain ⟨y, hy, hframes⟩ := h.call c
      obtain ⟨z, hz, hmore⟩ := ih hy
      rw [List.append_assoc] at hz
      refine ⟨z, hz, ?_⟩
      rw [hmore, hframes, List.append_assoc]
      rfl

theorem decoded_eq_ofStream (capacity : Nat) (cs : List Call) :
    decoded capacity cs = .ofStream capacity (cs.flatMap Call.bytes) := by
  have hstart : Holds capacity [] (.nothing []) [] (new capacity) :=
    ⟨Drain.begins_nothing capacity [], rfl, rfl⟩
  obtain ⟨x, hx, hframes⟩ := @Holds.calls _ cs _ _ _ _ hstart
  simp only [Drain.nothing, List.nil_append] at hx hframes
  rw [hx.begins.decoded, decoded, decodeAll_value, ← hframes, hx.buffer_eq, hx.eq]

end StreamDecoder

/-- However a stream is cut into chunks and however its frames are taken out
meanwhile, both decoders make of it what the decoder over a buffer makes of
all of it at once, as long as no chunk was lost. -/
theorem decoded_of_any_schedule (capacity : Nat) :
    (∀ cs : List StagedDecoder.Call,
      (∀ r ∈ ((StagedDecoder.empty capacity).calls cs).1,
        StagedDecoder.overflowed r = false) →
      StagedDecoder.decoded capacity cs =
        StreamDecoder.decoded capacity [.append (cs.flatMap StagedDecoder.Call.bytes)]) ∧
    (∀ cs : List StreamDecoder.Call,
      StreamDecoder.decoded capacity cs =
        StreamDecoder.decoded capacity [.append (cs.flatMap StreamDecoder.Call.bytes)]) := by
  have hwhole : ∀ s : Bytes, StreamDecoder.decoded capacity [.append s] =
      .ofStream capacity s := by
    intro s
    rw [StreamDecoder.decoded_eq_ofStream, List.flatMap_singleton]
    rfl
  constructor
  · intro cs hkept
    rw [StagedDecoder.decoded_eq_ofStream hkept, hwhole]
  · intro cs
    rw [StreamDecoder.decoded_eq_ofStream, hwhole]

/-- A header cut in two, frames asked for too early and too often, an empty
chunk, and a byte of the next frame at the end. -/
theorem decoded_of_split_header :
    let cs : List StagedDecoder.Call :=
      [.feed [0xEE, 0x0D] 0, .feed [0xF0, 0xAD, 0x0B, 4, 0, 2, 0] 3, .frames 0, .feed [] 1,
        .feed [5, 7, 0x0D] 1]
    (∀ r ∈ ((StagedDecoder.empty 12).calls cs).1, StagedDecoder.overflowed r = false) ∧
      StagedDecoder.decoded 12 cs =
        StreamDecoder.decoded 12 [.append (cs.flatMap StagedDecoder.Call.bytes)] ∧
      StagedDecoder.decoded 12 cs = ⟨[⟨4, [5, 7], by decide⟩], ⟨1, 1, 0⟩, [0x0D]⟩ := by
  intro cs
  have hkept : ∀ r ∈ ((StagedDecoder.empty 12).calls cs).1,
      StagedDecoder.overflowed r = false := by decide +kernel
  have heq := (decoded_of_any_schedule 12).1 cs hkept
  exact ⟨hkept, heq, heq.trans (by decide +kernel)⟩

end FramedSerial
