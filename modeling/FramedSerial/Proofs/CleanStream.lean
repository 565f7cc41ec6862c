import FramedSerial.Proofs.Course
import FramedSerial.Proofs.RoundTrip
import FramedSerial.Proofs.Schedule

/-!
# Decoding leaves only frames

A line carries noise, and among the noise something may look like a frame. Once
it has been taken for one, nobody can tell any more: written anew it is the wire
of a frame that the decoder's capacity allows for, and a stream of such wires is
decoded into just these frames, with no byte to discard and none left over. So
decoding is a projection. Doing it twice is doing it once, and the streams it
leaves alone are the wires in a row.

Nothing is asked of the noise. `wireSize_le_of_mem_drain` says of every frame
that comes out of any stream that it fits, and `drain_wires` asks no more of the
frames that go in.

The bytes that the user of a link reads are such a stream as well, because a
link passes wires on and not what it received: as long as no byte was lost on
the way through its queue, they are the wires of the frames it did not keep for
itself.
-/

namespace FramedSerial

/-- Frames and nothing else. -/
def Decoded.clean (fs : List Frame) : Decoded := ⟨fs, ⟨fs.length, 0, 0⟩, []⟩

/-! ## Writing frames anew -/

/-- Append frames to a buffer. -/
def StreamDecoder.encodeAll (fs : List Frame) (dst : Bytes) : Bytes :=
  fs.foldl (fun dst f => encode f dst) dst

/-- Append types and payloads to a buffer, up to the first payload that is too
long. -/
def Frame.encodeAll : List (FrameType × Bytes) → Bytes → Except FrameError Unit × Bytes
  | [], dst => (.ok (), dst)
  | (type, payload) :: more, dst =>
    match encode type payload dst with
    | (.ok (), dst) => encodeAll more dst
    | (.error e, dst) => (.error e, dst)

/-- What a frame is made of. -/
def Frame.parts (f : Frame) : FrameType × Bytes := (f.type, f.payload)

theorem StreamDecoder.encodeAll_eq (fs : List Frame) (dst : Bytes) :
    encodeAll fs dst = dst ++ fs.flatMap Frame.wire := by
  induction fs generalizing dst with
  | nil => exact (List.append_nil dst).symm
  | cons f fs ih =>
      show encodeAll fs (dst ++ f.wire) = _
      rw [ih, List.flatMap_cons, List.append_assoc]

/-- No frame is refused. -/
theorem Frame.encodeAll_parts (fs : List Frame) (dst : Bytes) :
    encodeAll (fs.map parts) dst = (.ok (), StreamDecoder.encodeAll fs dst) := by
  induction fs generalizing dst with
  | nil => rfl
  | cons f fs ih =>
      rw [List.map_cons, parts, encodeAll, encode_of_ofPayload f.ofPayload_payload]
      exact ih (dst ++ f.wire)

/-! ## Frames in a row -/

variable {capacity : Nat} {fs : List Frame}

theorem Decoded.ofStream_wires (hfit : ∀ f ∈ fs, f.wireSize ≤ capacity) :
    ofStream capacity (fs.flatMap Frame.wire) = clean fs := by
  rw [ofStream, drain_wires hfit]
  simp [DecodeStats.afterDrain, DecodeStats.zero, clean]

/-- Whatever a decoder over a buffer makes of a stream, it makes it of frames
that fit. -/
theorem StreamDecoder.wireSize_le_of_mem_decoded {cs : List Call} {f : Frame}
    (h : f ∈ (decoded capacity cs).frames) : f.wireSize ≤ capacity := by
  rw [decoded_eq_ofStream] at h
  exact wireSize_le_of_mem_drain h

theorem StagedDecoder.wireSize_le_of_mem_feed {d : StagedDecoder} {chunk : Bytes} {f : Frame}
    (h : f ∈ (d.feed chunk).1) : f.wireSize ≤ d.capacity := by
  rw [feed_value] at h
  split at h
  · cases h
  · split at h
    · cases h
    · exact wireSize_le_of_mem_drain h

/-! ## What a link passes on -/

namespace Course

/-- Every frame that was decoded is one that the decoder has room for. -/
structure AllFit (limit : Nat) (c : Course) : Prop where
  capacity : c.link.intake.decoder.capacity = limit
  decoded : ∀ f ∈ c.decoded, f.wireSize ≤ limit

theorem AllFit.start {link : Link} (h : link.intake.decoder.capacity = capacity) :
    AllFit capacity (start link) :=
  ⟨h, fun _ hf => nomatch hf⟩

theorem AllFit.step {c : Course} (h : AllFit capacity c) (op : Link.Operation) :
    AllFit capacity (c.step op) := by
  obtain ⟨hcapacity, hdecoded⟩ := h
  cases op with
  | receive chunk =>
      rw [step_receive]
      refine ⟨(StagedDecoder.capacity_feed _ _).trans hcapacity, ?_⟩
      intro f hf
      rcases List.mem_append.1 hf with hbefore | hnow
      · exact hdecoded f hbefore
      · rw [← hcapacity]
        exact StagedDecoder.wireSize_le_of_mem_feed hnow
  | read mode room now =>
      rw [step_read]
      exact ⟨hcapacity, hdecoded⟩
  | interrupt =>
      rw [step_interrupt]
      exact ⟨hcapacity, hdecoded⟩
  | status =>
      rw [step_status]
      exact ⟨hcapacity, hdecoded⟩
  | reset =>
      rw [step_reset]
      exact ⟨hcapacity, hdecoded⟩

theorem AllFit.run (ops : List Link.Operation) :
    ∀ {c : Course}, AllFit capacity c → AllFit capacity (c.run ops) := by
  induction ops with
  | nil =>
      intro c h
      exact h
  | cons op ops ih =>
      intro c h
      exact ih (h.step op)

/-- Only a reset drops what waits. -/
theorem drained_step {op : Link.Operation} (hop : op ≠ .reset) (c : Course) :
    (c.step op).drained = c.drained := by
  cases op with
  | reset => exact absurd rfl hop
  | receive chunk => rfl
  | read mode room now => rfl
  | interrupt => rfl
  | status => rfl

theorem drained_run {ops : List Link.Operation} (hops : ∀ op ∈ ops, op ≠ .reset) (c : Course) :
    (c.run ops).drained = c.drained := by
  induction ops generalizing c with
  | nil => rfl
  | cons op ops ih =>
      obtain ⟨hop, hmore⟩ := List.forall_mem_cons.1 hops
      exact (ih hmore (c.step op)).trans (drained_step hop c)

/-- The frames of a course that went to the user. -/
def forUser (c : Course) : List Frame := c.decoded.filter fun f => f.type ≠ FrameType.stateUpdate

/-- Without a reset and without an eviction, a user who has read everything has
read the wires of the frames that were meant for him. -/
theorem delivered_eq_wires {config : LinkConfig} {transport : Transport}
    {created : Logged Link} (h : Link.create config transport = .ok created)
    {ops : List Link.Operation} (hops : ∀ op ∈ ops, op ≠ .reset)
    (hevicted : ((start created.value).run ops).link.queue.evicted = 0)
    (hempty : ((start created.value).run ops).link.queued = []) :
    ((start created.value).run ops).delivered =
      ((start created.value).run ops).forUser.flatMap Frame.wire := by
  obtain ⟨l, hholds⟩ := (holds_start h).run ops
  have hbalances := hholds.follows.balances
  rw [drained_run hops] at hbalances
  exact hbalances.delivered_eq_pushed hevicted hempty

end Course

/-- Decoding is a projection. However a stream was decoded, its frames written
anew, by the encoder or from their parts, are decoded into themselves, and
writing these gives the same buffer. And what the user of a link has read, if he
has read everything and nothing was lost, is decoded with the capacity of the
link into the frames that were meant for him. -/
theorem decoded_clean :
    (∀ (capacity : Nat) (cs : List StreamDecoder.Call),
      let fs := (StreamDecoder.decoded capacity cs).frames
      let buffer := StreamDecoder.encodeAll fs []
      Frame.encodeAll (fs.map Frame.parts) [] = (.ok (), buffer) ∧
        ∀ again : List StreamDecoder.Call,
          again.flatMap StreamDecoder.Call.bytes = buffer →
          StreamDecoder.decoded capacity again = .clean fs ∧
            StreamDecoder.encodeAll (StreamDecoder.decoded capacity again).frames [] =
              buffer) ∧
    (∀ (config : LinkConfig) (transport : Transport) (created : Logged Link),
      Link.create config transport = .ok created →
      ∀ ops : List Link.Operation, (∀ op ∈ ops, op ≠ .reset) →
        let c := (Course.start created.value).run ops
        let capacity := config.stagingCapacity.toNat
        c.link.queue.evicted = 0 → c.link.queued = [] →
        (∀ cs : List StreamDecoder.Call,
          cs.flatMap StreamDecoder.Call.bytes = c.delivered →
          StreamDecoder.decoded capacity cs = .clean c.forUser) ∧
        (∀ cs : List StagedDecoder.Call,
          cs.flatMap StagedDecoder.Call.bytes = c.delivered →
          (∀ r ∈ ((StagedDecoder.empty capacity).calls cs).1,
            StagedDecoder.overflowed r = false) →
          StagedDecoder.decoded capacity cs = .clean c.forUser)) := by
  constructor
  · intro capacity cs fs buffer
    refine ⟨Frame.encodeAll_parts fs [], ?_⟩
    intro again hagain
    have hfit : ∀ f ∈ fs, f.wireSize ≤ capacity :=
      fun f hf => StreamDecoder.wireSize_le_of_mem_decoded hf
    have hdecoded : StreamDecoder.decoded capacity again = .clean fs := by
      have hwires : buffer = fs.flatMap Frame.wire := StreamDecoder.encodeAll_eq fs []
      rw [StreamDecoder.decoded_eq_ofStream, hagain, hwires, Decoded.ofStream_wires hfit]
    refine ⟨hdecoded, ?_⟩
    rw [hdecoded]
    rfl
  · intro config transport created h ops hops c capacity hevicted hempty
    have hcapacity : created.value.intake.decoder.capacity = capacity := by
      rw [(Link.create_ok h).1]
      rfl
    have hfit : Course.AllFit capacity c := (Course.AllFit.start hcapacity).run ops
    have hstream : Decoded.ofStream capacity c.delivered = .clean c.forUser := by
      rw [Course.delivered_eq_wires h hops hevicted hempty]
      exact Decoded.ofStream_wires fun f hf => hfit.decoded f (List.mem_filter.1 hf).1
    constructor
    · intro cs hcs
      rw [StreamDecoder.decoded_eq_ofStream, hcs, hstream]
    · intro cs hcs hkept
      rw [StagedDecoder.decoded_eq_ofStream hkept, hcs, hstream]

/-- A frame in the noise that carries a header, and the beginning of one behind
it. And a user who reads the wire of a frame in two parts, with a state report
before it and noise on either side. -/
theorem decoded_clean_of_noise :
    let inner : Frame := ⟨0x99, [0x0D, 0xF0, 0xAD, 0x0B, 1, 0, 0, 0], by decide⟩
    let noise : Bytes := [0xEE, 0x0D] ++ inner.wire ++ [0x0D, 0xF0]
    let config : LinkConfig := ⟨32, 16, .nonBlocking, none⟩
    let f : Frame := ⟨1, [8, 9], by decide⟩
    let ops : List Link.Operation :=
      [.receive [7, 0x0D, 0xF0, 0xAD, 0x0B, 4, 0, 2, 0, 5, 7, 0x0D, 0xF0], .status,
        .receive [0xAD, 0x0B, 1, 0, 2, 0, 8, 9, 3], .read .nonBlocking 3 ⟨0, 0⟩, .interrupt,
        .receive [], .read .nonBlocking 0 ⟨0, 0⟩, .read .nonBlocking 16 ⟨0, 0⟩]
    (StreamDecoder.decoded 16 [.append noise]).frames = [inner] ∧
      StreamDecoder.decoded 16 [.append inner.wire] = .clean [inner] ∧
      ∃ created, Link.create config (.ofScript []) = .ok created ∧
        (∀ op ∈ ops, op ≠ .reset) ∧
        let c := (Course.start created.value).run ops
        c.link.queue.evicted = 0 ∧ c.link.queued = [] ∧ c.delivered = f.wire ∧
          c.decoded.length = 2 ∧
          StreamDecoder.decoded 32 [.append (f.wire.take 5), .decode, .append (f.wire.drop 5)] =
            .clean [f] ∧
          StagedDecoder.decoded 32 [.feed (f.wire.take 5) 1, .feed (f.wire.drop 5) 0] =
            .clean [f] := by
  intro inner noise config f ops
  obtain ⟨hagain, hlink⟩ := decoded_clean
  have hframes : (StreamDecoder.decoded 16 [.append noise]).frames = [inner] := by
    decide +kernel
  have hrewritten := (hagain 16 [.append noise]).2 [.append inner.wire]
  rw [hframes] at hrewritten
  obtain ⟨created, hcreate, hevicted, hempty, hdelivered, hcount, huser⟩ :
      ∃ created, Link.create config (.ofScript []) = .ok created ∧
        let c := (Course.start created.value).run ops
        c.link.queue.evicted = 0 ∧ c.link.queued = [] ∧ c.delivered = f.wire ∧
          c.decoded.length = 2 ∧ c.forUser = [f] :=
    ⟨_, rfl, by decide +kernel⟩
  have hops : ∀ op ∈ ops, op ≠ .reset := by simp [ops]
  obtain ⟨hbuffered, hstaged⟩ := hlink config _ created hcreate ops hops hevicted hempty
  rw [hdelivered, huser] at hbuffered hstaged
  exact ⟨hframes, (hrewritten rfl).1, created, hcreate, hops, hevicted, hempty, hdelivered, hcount,
    hbuffered _ rfl, hstaged _ rfl (by decide +kernel)⟩

end FramedSerial
