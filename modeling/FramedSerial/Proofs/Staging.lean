import FramedSerial.Proofs.Schedule

/-!
# What a decoder keeps waiting

Bytes are staged, frames are taken out, one or some or all of them, and now and
then the store is emptied, in any order. The store never holds more than its
capacity, and once everything has been taken out it holds less than that: a
complete header waits only for a body that fits. So a decoder that is kept
empty has room for the next byte at any time.

A chunk that does not fit costs all that waited and itself, and nothing
besides. What is left of the past after that is in the counters alone, and the
counters are only ever added to, so the decoder goes on as a new one would,
only that it counts on from where it was (`countingFrom`).
-/

namespace FramedSerial

namespace DecodeStats

def add (a b : DecodeStats) : DecodeStats :=
  ⟨a.frames + b.frames, a.resyncBytes + b.resyncBytes, a.overflowResets + b.overflowResets⟩

@[simp] theorem add_zero (a : DecodeStats) : a.add .zero = a := rfl

theorem afterDrain_add (a b : DecodeStats) (x : Drain) :
    (a.add b).afterDrain x = a.add (b.afterDrain x) := by
  simp only [add, afterDrain, Nat.add_assoc]

end DecodeStats

namespace StagedDecoder

/-! ## All that can be done to a decoder -/

inductive Act where
  /-- A chunk is fed. -/
  | stage (chunk : Bytes)
  /-- At most so many frames are taken out. -/
  | take (count : Nat)
  /-- Every frame is taken out. -/
  | drain
  | reset

/-- One act: the frames that come out, or why the chunk was refused. -/
def act (d : StagedDecoder) : Act → Except FrameError (List Frame) × StagedDecoder
  | .stage chunk =>
    let r := (d.stage chunk).value
    (r.1.map fun _ => [], r.2)
  | .take count => d.yield count
  | .drain =>
    let r := d.takeAll.value
    (.ok r.1, r.2)
  | .reset => (.ok [], d.reset)

def acts (d : StagedDecoder) :
    List Act → List (Except FrameError (List Frame)) × StagedDecoder
  | [] => ([], d)
  | a :: later =>
    let r := d.act a
    let more := r.2.acts later
    (r.1 :: more.1, more.2)

/-- Each byte is fed on its own, and whatever it completes is taken out. -/
def bytewise (s : Bytes) : List Act := s.flatMap fun b => [.stage [b], .drain]

variable {d : StagedDecoder} {chunk : Bytes}

theorem stage_of_fits (hne : chunk ≠ [])
    (hfits : d.pending.length + chunk.length ≤ d.capacity) :
    (d.stage chunk).value = (.ok (), { d with pending := d.pending ++ chunk }) := by
  rw [stage_value, if_neg hne, if_neg (Nat.not_lt_of_le hfits)]

theorem stage_of_overflow (hne : chunk ≠ [])
    (hover : d.capacity < d.pending.length + chunk.length) :
    (d.stage chunk).value =
      (.error (.overflow d.pending.length chunk.length d.capacity),
        { d with
          pending := []
          stats := { d.stats with overflowResets := d.stats.overflowResets + 1 } }) := by
  rw [stage_value, if_neg hne, if_pos hover]

/-! ## The bound -/

/-- A store of this capacity that is not overfull. -/
structure Bounded (capacity : Nat) (d : StagedDecoder) : Prop where
  capacity_eq : d.capacity = capacity
  pending_le : d.pending.length ≤ capacity

variable {capacity : Nat}

theorem bounded_empty (capacity : Nat) : Bounded capacity (empty capacity) :=
  ⟨rfl, Nat.zero_le _⟩

theorem Bounded.afterDrain (h : Bounded capacity d) {x : Drain}
    (hrest : x.rest.length ≤ d.pending.length) : Bounded capacity (d.afterDrain x) :=
  ⟨h.capacity_eq, Nat.le_trans hrest h.pending_le⟩

theorem Bounded.stage (h : Bounded capacity d) (chunk : Bytes) :
    Bounded capacity (d.stage chunk).value.2 := by
  by_cases hempty : chunk = []
  · rw [stage_value, if_pos hempty]
    exact h
  · by_cases hover : d.capacity < d.pending.length + chunk.length
    · rw [stage_of_overflow hempty hover]
      exact ⟨h.capacity_eq, Nat.zero_le _⟩
    · have hfits := Nat.le_of_not_lt hover
      rw [stage_of_fits hempty hfits]
      refine ⟨h.capacity_eq, ?_⟩
      rw [h.capacity_eq, ← List.length_append] at hfits
      exact hfits

theorem Bounded.next (h : Bounded capacity d) : Bounded capacity d.next.value.2 := by
  have hle := length_pull d.capacity d.pending
  exact h.afterDrain (x := (pull d.capacity d.pending).toDrain)
    (show (pull d.capacity d.pending).rest.length ≤ _ by omega)

theorem Bounded.takeFrames (n : Nat) :
    ∀ {d : StagedDecoder}, Bounded capacity d → Bounded capacity (d.takeFrames n).value.2 := by
  induction n with
  | zero => exact fun h => h
  | succ n ih =>
      intro d h
      simp only [StagedDecoder.takeFrames, Logged.value_bind]
      cases d.next.value.1 with
      | none => exact h.next
      | some f => exact ih h.next

theorem Bounded.takeAll (h : Bounded capacity d) : Bounded capacity d.takeAll.value.2 := by
  rw [takeAll_value]
  exact h.afterDrain (rest_drain_suffix _ _).length_le

theorem Bounded.act (h : Bounded capacity d) (a : Act) : Bounded capacity (d.act a).2 := by
  cases a with
  | stage chunk => exact h.stage chunk
  | take count => exact h.takeFrames count
  | drain => exact h.takeAll
  | reset => exact ⟨h.capacity_eq, Nat.zero_le _⟩

theorem Bounded.acts (as : List Act) :
    ∀ {d : StagedDecoder}, Bounded capacity d → Bounded capacity (d.acts as).2 := by
  induction as with
  | nil => exact fun h => h
  | cons a as ih => exact fun h => ih (h.act a)

theorem length_next_lt_max (hnone : d.next.value.1 = none) :
    d.next.value.2.pending.length < max d.capacity headerSize := by
  have hwaits := (undecided_rest_drain d.capacity d.pending).length_lt
  rw [drain_of_pull_none hnone] at hwaits
  exact hwaits

theorem length_takeAll_lt_max (d : StagedDecoder) :
    d.takeAll.value.2.pending.length < max d.capacity headerSize := by
  rw [takeAll_value]
  exact (undecided_rest_drain d.capacity d.pending).length_lt

/-! ## Counting on -/

/-- The same decoder, had it counted these before. -/
def countingFrom (d : StagedDecoder) (base : DecodeStats) : StagedDecoder :=
  { d with stats := base.add d.stats }

theorem eq_countingFrom (h : d.pending = []) :
    d = (empty d.capacity).countingFrom d.stats := by
  rw [countingFrom, empty, DecodeStats.add_zero, ← h]

theorem afterDrain_countingFrom (d : StagedDecoder) (base : DecodeStats) (x : Drain) :
    (d.countingFrom base).afterDrain x = (d.afterDrain x).countingFrom base := by
  simp only [afterDrain, countingFrom, DecodeStats.afterDrain_add]

theorem stage_countingFrom (d : StagedDecoder) (base : DecodeStats) (chunk : Bytes) :
    ((d.countingFrom base).stage chunk).value =
      ((d.stage chunk).value.1, (d.stage chunk).value.2.countingFrom base) := by
  simp only [stage_value, countingFrom]
  split
  · rfl
  · split <;> rfl

theorem next_countingFrom (d : StagedDecoder) (base : DecodeStats) :
    (d.countingFrom base).next.value =
      (d.next.value.1, d.next.value.2.countingFrom base) := by
  rw [next_value, next_value, afterDrain_countingFrom]
  rfl

theorem takeFrames_countingFrom (base : DecodeStats) (n : Nat) :
    ∀ d : StagedDecoder, ((d.countingFrom base).takeFrames n).value =
      ((d.takeFrames n).value.1, (d.takeFrames n).value.2.countingFrom base) := by
  induction n with
  | zero => intro d; rfl
  | succ n ih =>
      intro d
      simp only [takeFrames, Logged.value_bind, next_countingFrom]
      cases d.next.value.1 with
      | none => rfl
      | some f =>
          simp only [Logged.value_bind, ih]
          rfl

theorem takeAll_countingFrom (d : StagedDecoder) (base : DecodeStats) :
    (d.countingFrom base).takeAll.value =
      (d.takeAll.value.1, d.takeAll.value.2.countingFrom base) := by
  rw [takeAll_value, takeAll_value, afterDrain_countingFrom]
  rfl

theorem act_countingFrom (d : StagedDecoder) (base : DecodeStats) (a : Act) :
    (d.countingFrom base).act a = ((d.act a).1, (d.act a).2.countingFrom base) := by
  cases a with
  | stage chunk => simp only [act, stage_countingFrom]
  | take count => simp only [act, yield, takeFrames_countingFrom]
  | drain => simp only [act, takeAll_countingFrom]
  | reset => rfl

/-- What was counted before makes no difference to anything but the counters. -/
theorem acts_countingFrom (base : DecodeStats) (as : List Act) :
    ∀ d : StagedDecoder, (d.countingFrom base).acts as =
      ((d.acts as).1, (d.acts as).2.countingFrom base) := by
  induction as with
  | nil => intro d; rfl
  | cons a as ih =>
      intro d
      simp only [acts, act_countingFrom, ih]

/-! ## One byte at a time -/

theorem acts_bytewise_cons (hroom : d.pending.length < d.capacity) (b : UInt8) (s : Bytes) :
    let x := drain d.capacity (d.pending ++ [b])
    d.acts (bytewise (b :: s)) =
      (.ok [] :: .ok x.frames :: ((d.afterDrain x).acts (bytewise s)).1,
        ((d.afterDrain x).acts (bytewise s)).2) := by
  intro x
  have hstaged : d.act (.stage [b]) = (.ok [], { d with pending := d.pending ++ [b] }) := by
    simp only [act, stage_of_fits (List.cons_ne_nil b []) hroom]
    rfl
  have hdrained : act { d with pending := d.pending ++ [b] } .drain =
      (.ok x.frames, d.afterDrain x) := by
    simp only [act, takeAll_value]
    rfl
  have hbytes : bytewise (b :: s) = .stage [b] :: .drain :: bytewise s := rfl
  simp only [hbytes, acts, hstaged, hdrained]

/-- A decoder that is drained after each byte is where draining the whole
stream would be, and none of the bytes is refused. -/
theorem acts_bytewise (hcapacity : headerSize ≤ d.capacity)
    (hwaits : Undecided d.capacity d.pending) (s : Bytes) :
    let x := drain d.capacity (d.pending ++ s)
    (∀ r ∈ (d.acts (bytewise s)).1, r.isOk = true) ∧
      yielded (d.acts (bytewise s)).1 = x.frames ∧
      (d.acts (bytewise s)).2 = d.afterDrain x := by
  induction s generalizing d with
  | nil =>
      rw [List.append_nil, drain_of_wait (scan_of_undecided hwaits)]
      refine ⟨?_, rfl, rfl⟩
      intro r hr
      cases hr
  | cons b s ih =>
      have hroom : d.pending.length < d.capacity := by
        have hlt := hwaits.length_lt
        rwa [Nat.max_eq_left hcapacity] at hlt
      -- what the byte leaves waiting is undecided again
      let x := drain d.capacity (d.pending ++ [b])
      obtain ⟨hok, hframes, hstate⟩ := ih (d := d.afterDrain x) hcapacity
        (undecided_rest_drain d.capacity (d.pending ++ [b]))
      have hwhole : drain d.capacity (d.pending ++ b :: s) =
          x.andThen (drain d.capacity (x.rest ++ s)) := by
        rw [← drain_append, List.append_assoc]
        rfl
      rw [acts_bytewise_cons hroom, hwhole]
      refine ⟨?_, congrArg (x.frames ++ ·) hframes, ?_⟩
      · simpa [Except.isOk, Except.toBool] using hok
      · rw [afterDrain_andThen]
        exact hstate

/-! ## The law -/

/-- What can be said of a decoder of this capacity at any time. -/
structure Guarded (capacity : Nat) (d : StagedDecoder) : Prop where
  bounded : d.pending.length ≤ capacity
  /-- An empty chunk is refused without a trace. -/
  emptyChunk : d.stage [] = ⟨(.error .emptyChunk, d), []⟩
  /-- A chunk that fits is added to what waits. -/
  fits : ∀ chunk, chunk ≠ [] → d.pending.length + chunk.length ≤ capacity →
    (d.stage chunk).value = (.ok (), { d with pending := d.pending ++ chunk })
  /-- One that does not fit is dropped with all that waits, and that is counted. -/
  overflow : ∀ chunk, chunk ≠ [] → capacity < d.pending.length + chunk.length →
    (d.stage chunk).value =
      (.error (.overflow d.pending.length chunk.length capacity),
        { d with
          pending := []
          stats := { d.stats with overflowResets := d.stats.overflowResets + 1 } })
  overflows_iff : ∀ chunk, chunk ≠ [] → (overflowed (d.act (.stage chunk)).1 = true ↔
    capacity < d.pending.length + chunk.length)
  /-- Nothing is left of it but the counters. -/
  forgotten : ∀ chunk, chunk ≠ [] → capacity < d.pending.length + chunk.length →
    ∀ later : List Act, (d.act (.stage chunk)).2.acts later =
      (((empty capacity).acts later).1,
        ((empty capacity).acts later).2.countingFrom (d.act (.stage chunk)).2.stats)
  /-- Whoever asks for a frame and gets none leaves less than a capacity waiting. -/
  asked : d.next.value.1 = none → d.next.value.2.pending.length < max capacity headerSize
  drained : (d.act .drain).2.pending.length < max capacity headerSize
  /-- A drained decoder takes in any stream byte by byte, and is never behind. -/
  steady : headerSize ≤ capacity → ∀ s : Bytes,
    let start := (d.act .drain).2
    let r := start.acts (bytewise s)
    let whole := ((StreamDecoder.new capacity).decodeAll (start.pending ++ s)).value
    (∀ x ∈ r.1, x.isOk = true) ∧ yielded r.1 = whole.1 ∧ r.2.pending = whole.2.1 ∧
      r.2.stats = start.stats.add whole.2.2.stats

theorem Bounded.overflows_iff (h : Bounded capacity d) (hne : chunk ≠ []) :
    overflowed (d.act (.stage chunk)).1 = true ↔
      capacity < d.pending.length + chunk.length := by
  rw [← h.capacity_eq]
  by_cases hover : d.capacity < d.pending.length + chunk.length
  · refine iff_of_true ?_ hover
    simp only [StagedDecoder.act, stage_of_overflow hne hover]
    rfl
  · refine iff_of_false ?_ hover
    simp only [StagedDecoder.act, stage_of_fits hne (Nat.le_of_not_lt hover)]
    exact Bool.false_ne_true

theorem Bounded.steady (h : Bounded capacity d) (hcapacity : headerSize ≤ capacity) (s : Bytes) :
    let start := (d.act .drain).2
    let r := start.acts (bytewise s)
    let whole := ((StreamDecoder.new capacity).decodeAll (start.pending ++ s)).value
    (∀ x ∈ r.1, x.isOk = true) ∧ yielded r.1 = whole.1 ∧ r.2.pending = whole.2.1 ∧
      r.2.stats = start.stats.add whole.2.2.stats := by
  obtain rfl := h.capacity_eq
  have hstart : (d.act .drain).2 = d.afterDrain (drain d.capacity d.pending) := by
    simp only [StagedDecoder.act, takeAll_value]
  have hwaits := undecided_rest_drain d.capacity d.pending
  obtain ⟨hok, hframes, hstate⟩ := acts_bytewise
    (d := d.afterDrain (drain d.capacity d.pending)) hcapacity hwaits s
  rw [hstart]
  refine ⟨hok, ?_, ?_, ?_⟩
  · rw [StreamDecoder.decodeAll_value]
    exact hframes
  · rw [StreamDecoder.decodeAll_value, hstate]
    rfl
  · rw [StreamDecoder.decodeAll_value, hstate]
    exact DecodeStats.afterDrain_add (d.afterDrain (drain d.capacity d.pending)).stats .zero _

theorem Bounded.guarded (h : Bounded capacity d) : Guarded capacity d := by
  obtain rfl := h.capacity_eq
  constructor
  · exact h.pending_le
  · rfl
  · intro chunk hne hfits
    exact stage_of_fits hne hfits
  · intro chunk hne hover
    exact stage_of_overflow hne hover
  · intro chunk hne
    exact h.overflows_iff hne
  · intro chunk hne hover later
    have hleft : (d.act (.stage chunk)).2 = (empty d.capacity).countingFrom
        { d.stats with overflowResets := d.stats.overflowResets + 1 } := by
      simp only [StagedDecoder.act, stage_of_overflow hne hover]
      exact eq_countingFrom rfl
    rw [hleft, acts_countingFrom]
    rfl
  · exact length_next_lt_max
  · exact length_takeAll_lt_max d
  · exact h.steady

end StagedDecoder

/-- What is left of a buffer when no frame is, or when a frame was asked for and
none was complete, is less than a capacity. -/
theorem StreamDecoder.length_rest_lt (d : StreamDecoder) (src : Bytes) :
    ((d.decode src).value.1 = none →
      (d.decode src).value.2.1.length < max d.capacity headerSize) ∧
    (d.decodeAll src).value.2.1.length < max d.capacity headerSize := by
  have hwaits := (undecided_rest_drain d.capacity src).length_lt
  constructor
  · intro hnone
    rw [drain_of_pull_none hnone] at hwaits
    exact hwaits
  · rw [decodeAll_value]
    exact hwaits

/-- Whatever was done to a decoder, its store is bounded, a chunk that does not
fit leaves nothing behind but a count, and once drained it always has room for
a byte. What the decoder over a buffer leaves in it is bounded likewise. -/
theorem guarded_of_acts (capacity : Nat) :
    (∀ as : List StagedDecoder.Act,
      StagedDecoder.Guarded capacity ((StagedDecoder.empty capacity).acts as).2) ∧
    (∀ (stats : DecodeStats) (src : Bytes),
      let d : StreamDecoder := ⟨capacity, stats⟩
      ((d.decode src).value.1 = none →
        (d.decode src).value.2.1.length < max capacity headerSize) ∧
      (d.decodeAll src).value.2.1.length < max capacity headerSize) := by
  constructor
  · intro as
    exact (StagedDecoder.Bounded.acts as (StagedDecoder.bounded_empty capacity)).guarded
  · intro stats src
    exact StreamDecoder.length_rest_lt ⟨capacity, stats⟩ src

/-- Two bytes are discarded and a header waits. The chunk with its body brings
too much, and the frame after it is decoded as if nothing had been before. -/
theorem guarded_of_overflowing_body :
    let before : List StagedDecoder.Act :=
      [.stage [0xEE, 0xEE, 0x0D, 0xF0, 0xAD, 0x0B, 4, 0, 2, 0], .take 1]
    let d := ((StagedDecoder.empty 12).acts before).2
    let chunk : Bytes := [5, 7, 9, 9, 9]
    let later : List StagedDecoder.Act := [.stage [0x0D, 0xF0, 0xAD, 0x0B, 1, 0, 0, 0], .drain]
    StagedDecoder.Guarded 12 d ∧ chunk ≠ [] ∧ 12 < d.pending.length + chunk.length ∧
      (d.stage chunk).value = (.error (.overflow 8 5 12), ⟨12, [], ⟨0, 2, 1⟩⟩) ∧
      StagedDecoder.yielded ((d.act (.stage chunk)).2.acts later).1 = [⟨1, [], by decide⟩] ∧
      ((d.act (.stage chunk)).2.acts later).2 = ⟨12, [], ⟨1, 2, 1⟩⟩ := by
  intro before d chunk later
  have hguarded : StagedDecoder.Guarded 12 d := (guarded_of_acts 12).1 before
  have hne : chunk ≠ [] := List.cons_ne_nil 5 _
  have hover : 12 < d.pending.length + chunk.length := by decide +kernel
  have hrefused := hguarded.overflow chunk hne hover
  have hlater := hguarded.forgotten chunk hne hover later
  have hstate : d = ⟨12, [0x0D, 0xF0, 0xAD, 0x0B, 4, 0, 2, 0], ⟨0, 2, 0⟩⟩ := by decide +kernel
  have hleft : (d.act (.stage chunk)).2 = ⟨12, [], ⟨0, 2, 1⟩⟩ := by
    rw [StagedDecoder.act, hrefused, hstate]
  rw [hleft] at hlater ⊢
  refine ⟨hguarded, hne, hover, ?_, ?_, ?_⟩
  · rw [hrefused, hstate]
    rfl
  · rw [hlater]
    decide +kernel
  · rw [hlater]
    decide +kernel

end FramedSerial
