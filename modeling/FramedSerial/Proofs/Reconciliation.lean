import FramedSerial.Proofs.Course
import FramedSerial.Proofs.Pumping
import Mathlib.Algebra.GroupWithZero.Nat

/-!
# What was told and what was counted

A link counts in its decoder and in its queue, and it tells of the same matters
where they come up, so an operator who reads the log should come to the counts.
What joins the two is a list that neither of them keeps: the pieces in which
bytes have left the staging buffer. A piece has its bytes, and the log has a
notice for every piece but those that were cleared on request. So the notices in
the log are those of the pieces, in order, and the bytes that were ever staged
are the pieces, in order, and then what is staged now.

`Intake.Booked` says this, and what the counters did, of a passage from one
state to another and not of a state, so that passages can be put together. A
discarded byte is a passage, and so are a frame on its way, a push and a read; a
chunk, a pump and a whole run are put together from those, and no counter is
looked at again on the way.
-/

namespace FramedSerial

namespace Event

def isDiscard : Event → Bool
  | .byteDiscarded _ => true
  | _ => false

def isReset : Event → Bool
  | .stagingReset _ => true
  | _ => false

def isForwarded : Event → Bool
  | .frameForwarded _ _ => true
  | _ => false

def isTooShort : Event → Bool
  | .stateTooShort _ => true
  | _ => false

def stored? : Event → Option Snapshot
  | .stateStored s => some s
  | _ => none

/-- How many bytes it says had to go from the queue. -/
def gone : Event → Nat
  | .bytesEvicted n => n
  | _ => 0

/-- It tells of bytes that are no longer staged. -/
def tellsRemoval (e : Event) : Bool :=
  e.isDiscard || e.isReset || e.isForwarded || e.stored?.isSome || e.isTooShort

theorem tellsRemoval_eq_false_iff {e : Event} :
    e.tellsRemoval = false ↔ e.isDiscard = false ∧ e.isReset = false ∧ e.isForwarded = false ∧
      e.stored? = none ∧ e.isTooShort = false := by
  simp [tellsRemoval, and_assoc]

end Event

/-- What routing a frame tells first. -/
def Frame.notice (f : Frame) : Event :=
  if f.type = FrameType.stateUpdate then
    if f.isReport then .stateStored f.report else .stateTooShort f.payload.length
  else .frameForwarded f.type f.wireSize

/-- Bytes that left the staging buffer together. -/
inductive Removal where
  /-- No frame can start at the byte. -/
  | discarded (b : UInt8) (cause : Corruption)
  | frame (f : Frame)
  /-- A chunk did not fit beside them. -/
  | overflowed (bytes : Bytes) (cause : FrameError)
  /-- They were cleared on request. -/
  | cleared (bytes : Bytes)

namespace Removal

def bytes : Removal → Bytes
  | .discarded b _ => [b]
  | .frame f => f.wire
  | .overflowed bytes _ => bytes
  | .cleared bytes => bytes

/-- What the log has to say of it. -/
def notice? : Removal → Option Event
  | .discarded _ cause => some (.byteDiscarded cause)
  | .frame f => some f.notice
  | .overflowed _ cause => some (.stagingReset cause)
  | .cleared _ => none

end Removal

/-! ## Passages -/

namespace Intake

/-- A passage from one state of an intake to another, in which these bytes were
staged and this was told. -/
structure Booked (entered : Bytes) (log : List Event) (i i' : Intake) : Prop where
  removed : ∃ removals : List Removal,
    log.filter Event.tellsRemoval = removals.filterMap Removal.notice? ∧
      i.decoder.pending ++ entered = removals.flatMap Removal.bytes ++ i'.decoder.pending
  discards : i'.decoder.stats.resyncBytes =
    i.decoder.stats.resyncBytes + log.countP Event.isDiscard
  resets : i'.decoder.stats.overflowResets =
    i.decoder.stats.overflowResets + log.countP Event.isReset
  frames : i'.decoder.stats.frames = i.decoder.stats.frames +
    (log.countP Event.isForwarded + (log.filterMap Event.stored?).length +
      log.countP Event.isTooShort)
  evicted : i'.queue.evicted = i.queue.evicted + (log.map Event.gone).sum
  snapshot : i'.queue.snapshot = (log.filterMap Event.stored?).getLast?.getD i.queue.snapshot

variable {i i' i'' : Intake} {d : StagedDecoder} {q q' : Delivery}

theorem Booked.andThen {entered entered' : Bytes} {log log' : List Event}
    (h : Booked entered log i i') (h' : Booked entered' log' i' i'') :
    Booked (entered ++ entered') (log ++ log') i i'' := by
  obtain ⟨removals, htold, hbytes⟩ := h.removed
  obtain ⟨removals', htold', hbytes'⟩ := h'.removed
  constructor
  · refine ⟨removals ++ removals', ?_, ?_⟩
    · rw [List.filter_append, htold, htold', List.filterMap_append]
    · rw [← List.append_assoc, hbytes, List.append_assoc, hbytes', List.flatMap_append,
        List.append_assoc]
  · rw [h'.discards, h.discards, List.countP_append, Nat.add_assoc]
  · rw [h'.resets, h.resets, List.countP_append, Nat.add_assoc]
  · rw [h'.frames, h.frames, List.countP_append, List.countP_append, List.filterMap_append,
      List.length_append]
    omega
  · rw [h'.evicted, h.evicted, List.map_append, List.sum_append, Nat.add_assoc]
  · rw [h'.snapshot, h.snapshot, List.filterMap_append, List.getLast?_append]
    cases (log'.filterMap Event.stored?).getLast? <;> rfl

/-- The staging buffer has nothing to do with what is told, and the queue at
most lost bytes. -/
theorem booked_of_silent {log : List Event} (silent : ∀ e ∈ log, e.tellsRemoval = false)
    (evicted : q'.evicted = q.evicted + (log.map Event.gone).sum)
    (snapshot : q'.snapshot = q.snapshot) : Booked [] log ⟨d, q⟩ ⟨d, q'⟩ := by
  have hnone : ∀ p : Event → Bool, (∀ e ∈ log, p e = false) → log.countP p = 0 :=
    fun p hp => List.countP_eq_zero.2 fun e he => by simp [hp e he]
  have hsilent := fun e he => Event.tellsRemoval_eq_false_iff.1 (silent e he)
  have hstored : log.filterMap Event.stored? = [] :=
    List.filterMap_eq_nil_iff.2 fun e he => (hsilent e he).2.2.2.1
  constructor
  · refine ⟨[], ?_, List.append_nil _⟩
    exact List.filter_eq_nil_iff.2 fun e he => by simp [silent e he]
  · rw [hnone _ fun e he => (hsilent e he).1]
    rfl
  · rw [hnone _ fun e he => (hsilent e he).2.1]
    rfl
  · rw [hstored, hnone _ fun e he => (hsilent e he).2.2.1,
      hnone _ fun e he => (hsilent e he).2.2.2.2]
    rfl
  · exact evicted
  · rw [hstored]
    exact snapshot

theorem Booked.refl (i : Intake) : Booked [] [] i i :=
  booked_of_silent (fun _ h => by cases h) rfl rfl

end Intake

namespace StagedDecoder

end StagedDecoder

namespace Intake

/-- The bytes of chunks that are staged when they are received one after
another. -/
def entering (i : Intake) : List Bytes → Bytes
  | [] => []
  | chunk :: later =>
    let r := (i.receive chunk).value
    chunk.take r.1 ++ r.2.entering later

end Intake

namespace Link

/-! ## Runs -/

/-- What is done to a link: an operation, or what can be done to one of its two
ends alone while others use the queue. -/
inductive Deed where
  | operation (op : Operation)
  | pump (running : Bool) (turns : List LineTurn)
  | readDuring (mode : ReadMode) (room : Nat) (now : Instant)
      (happenings : List (Instant × Happening))
  | resetStaging
  | write (data : Bytes)

def act (l : Link) : Deed → Logged Link
  | .operation op => do
    let (_, l) ← l.perform op
    return l
  | .pump running turns => do
    let (_, l) ← l.pump running turns
    return l
  | .readDuring mode room now happenings => do
    let (_, l) ← l.readDuring mode room now happenings
    return l
  | .resetStaging => return l.resetStaging
  | .write data => do
    let (_, l) ← l.write data
    return l

/-- The bytes that are staged by a deed. -/
def entering (l : Link) : Deed → Bytes
  | .operation (.receive chunk) => l.intake.entering [chunk]
  | .pump running turns => l.intake.entering (Intake.chunks running turns)
  | _ => []

end Link

/-- A link, all that was told since it was set up, and all that was staged. -/
structure Logbook where
  link : Link
  log : List Event
  entered : Bytes

namespace Logbook

def opened (created : Logged Link) : Logbook := ⟨created.value, created.events, []⟩

def step (j : Logbook) (deed : Link.Deed) : Logbook :=
  { link := (j.link.act deed).value
    log := j.log ++ (j.link.act deed).events
    entered := j.entered ++ j.link.entering deed }

def run (j : Logbook) (deeds : List Link.Deed) : Logbook := deeds.foldl step j

variable {j : Logbook} {i : Intake}

end Logbook

end FramedSerial
