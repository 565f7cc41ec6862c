import FramedSerial.Frame

/-!
# Finding the next frame in a byte stream

One look at the head of a stream has three outcomes: a complete frame, a byte that no frame
starts at, or too little to tell. `scan` is that look. It decides on eight bytes at a time,
so its answer for a stream does not change when more bytes arrive, unless the answer was
to wait.

Everything else repeats the look. `pull` discards bytes until a frame is complete or more
bytes are needed, and `drain` pulls until no frame is left. Both end because every look that
is not a wait shortens the stream.
-/

namespace FramedSerial

/-- What the head of a stream is. -/
inductive Scan where
  /-- A complete frame, and the stream after it. -/
  | frame (f : Frame) (rest : Bytes)
  /-- A byte that no frame starts at, and the stream after it. -/
  | discard (cause : Corruption) (rest : Bytes)
  /-- The beginning of a frame, perhaps. -/
  | wait

/-- Look at the head of a stream. A frame of more than `capacity` bytes would never be
complete, so a header that announces one is taken for a corrupted one. The body is walked no
further than the announced size, since the stream after a frame can be long. -/
def scan (capacity : Nat) : Bytes → Scan
  | s0 :: s1 :: s2 :: s3 :: t0 :: t1 :: n0 :: n1 :: body =>
    let found := LittleEndian.toUInt32 s0 s1 s2 s3
    let size := (LittleEndian.toUInt16 n0 n1).toNat
    let afterFirst := s1 :: s2 :: s3 :: t0 :: t1 :: n0 :: n1 :: body
    if found ≠ signature then .discard (.badSignature found) afterFirst
    else if capacity < headerSize + size then
      .discard (.oversized (headerSize + size) capacity) afterFirst
    else if (body.take size).length < size then .wait
    else
      .frame
        { type := LittleEndian.toUInt16 t0 t1
          payload := body.take size
          length_le := by
            have := (LittleEndian.toUInt16 n0 n1).toNat_lt
            simp only [List.length_take, maxPayload]
            omega }
        (body.drop size)
  | _ => .wait

/-- What is left after a frame is shorter by at least a header. -/
theorem length_lt_of_scan_frame {capacity : Nat} {src rest : Bytes} {f : Frame}
    (h : scan capacity src = .frame f rest) : rest.length + headerSize ≤ src.length := by
  unfold scan at h
  split at h
  · dsimp only at h
    split at h
    · cases h
    · split at h
      · cases h
      · split at h
        · cases h
        · cases h
          simp only [List.length_drop, List.length_cons, headerSize]
          omega
  · cases h

/-- A discard takes exactly the first byte. -/
theorem eq_cons_of_scan_discard {capacity : Nat} {src rest : Bytes} {c : Corruption}
    (h : scan capacity src = .discard c rest) : ∃ b, src = b :: rest := by
  unfold scan at h
  split at h
  · dsimp only at h
    split at h
    · cases h; exact ⟨_, rfl⟩
    · split at h
      · cases h; exact ⟨_, rfl⟩
      · split at h
        · cases h
        · cases h
  · cases h

theorem length_lt_of_scan_discard {capacity : Nat} {src rest : Bytes} {c : Corruption}
    (h : scan capacity src = .discard c rest) : rest.length < src.length := by
  obtain ⟨b, rfl⟩ := eq_cons_of_scan_discard h
  simp

/-- The outcome of discarding until a frame is complete or more bytes are needed. -/
structure Pull where
  /-- The frame, if one is complete. -/
  frame? : Option Frame
  /-- The stream after it. -/
  rest : Bytes
  /-- Why each discarded byte was discarded, the first one first. -/
  discarded : List Corruption

namespace Pull

/-- Discard until a frame is complete or more bytes are needed. `before` holds the reasons of
the bytes discarded so far, the last one first. -/
def onto (before : List Corruption) (capacity : Nat) (src : Bytes) : Pull :=
  match _h : scan capacity src with
  | .frame f rest => ⟨some f, rest, before.reverse⟩
  | .discard c rest => onto (c :: before) capacity rest
  | .wait => ⟨none, src, before.reverse⟩
termination_by src.length
decreasing_by exact length_lt_of_scan_discard _h

end Pull

/-- Discard until a frame is complete or more bytes are needed. -/
def pull (capacity : Nat) (src : Bytes) : Pull := Pull.onto [] capacity src

theorem Pull.onto_eq (before : List Corruption) (capacity : Nat) (src : Bytes) :
    Pull.onto before capacity src
      = { pull capacity src with
          discarded := before.reverse ++ (pull capacity src).discarded } := by
  induction src using (measure List.length).wf.induction generalizing before with
  | _ src ih =>
    unfold pull
    rw [Pull.onto, Pull.onto.eq_def []]
    split
    · simp
    · next c rest hs =>
      have hlt : rest.length < src.length := length_lt_of_scan_discard hs
      rw [ih rest hlt (c :: before), ih rest hlt [c]]
      simp
    · simp

theorem pull_of_frame {capacity : Nat} {src rest : Bytes} {f : Frame}
    (h : scan capacity src = .frame f rest) : pull capacity src = ⟨some f, rest, []⟩ := by
  rw [pull, Pull.onto]
  split <;> simp_all

theorem pull_of_wait {capacity : Nat} {src : Bytes} (h : scan capacity src = .wait) :
    pull capacity src = ⟨none, src, []⟩ := by
  rw [pull, Pull.onto]
  split <;> simp_all

theorem pull_of_discard {capacity : Nat} {src rest : Bytes} {c : Corruption}
    (h : scan capacity src = .discard c rest) :
    pull capacity src
      = { pull capacity rest with discarded := c :: (pull capacity rest).discarded } := by
  rw [pull, Pull.onto]
  split
  · simp_all
  · next c' rest' hs =>
    rw [h] at hs
    cases hs
    simp [Pull.onto_eq]
  · simp_all

/-- Pulling shortens the stream by the discarded bytes and by at least a header for a frame. -/
theorem length_pull (capacity : Nat) (src : Bytes) :
    (pull capacity src).rest.length + (pull capacity src).discarded.length
      + (if (pull capacity src).frame?.isSome then headerSize else 0) ≤ src.length := by
  induction src using (measure List.length).wf.induction with
  | _ src ih =>
    cases hs : scan capacity src with
    | frame f rest =>
      have := length_lt_of_scan_frame hs
      simpa [pull_of_frame hs] using this
    | wait => simp [pull_of_wait hs]
    | discard c rest =>
      have hlt := length_lt_of_scan_discard hs
      have := ih rest hlt
      rw [pull_of_discard hs]
      simp only [List.length_cons]
      omega

/-- A pull that finds a frame leaves less. -/
theorem length_pull_lt {capacity : Nat} {src : Bytes}
    (h : (pull capacity src).frame?.isSome) : (pull capacity src).rest.length < src.length := by
  have := length_pull capacity src
  simp only [h, if_true, headerSize] at this
  omega

/-- The outcome of pulling until no frame is left. -/
structure Drain where
  /-- The frames, in the order of the stream. -/
  frames : List Frame
  /-- The bytes that may yet become a frame. -/
  rest : Bytes
  /-- Why each discarded byte was discarded, the first one first. -/
  discarded : List Corruption

/-- Pull until no frame is left. -/
def drain (capacity : Nat) (src : Bytes) : Drain :=
  let p := pull capacity src
  match _h : p.frame? with
  | none => ⟨[], p.rest, p.discarded⟩
  | some f =>
    let d := drain capacity p.rest
    ⟨f :: d.frames, d.rest, p.discarded ++ d.discarded⟩
termination_by src.length
decreasing_by exact length_pull_lt (by rw [_h]; rfl)

end FramedSerial
