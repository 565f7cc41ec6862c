import FramedSerial.Proofs.Interleaving
import Mathlib.Algebra.GroupWithZero.Nat

/-!
# The accounts of a queue with many parties

What entered a queue, what was handed out and to whom, what was dropped and how
many bytes were said to have had to go: all of it can be read off what was seen
from outside, the earliest first. The books of a queue are then in order if one
ledger agrees with every column, and they are, however its parties interleave,
since a step of any of them is one of the operations that a ledger can follow.

The one thing a ledger does not say is who got a byte. That is no matter of the
queue: each byte that is handed out is seen in the hands of one reader, and
`Seen.handed` keeps the two together.
-/

namespace FramedSerial

namespace Seen

@[simp] def entered : Seen → Bytes
  | .pushed bytes _ => bytes
  | .pushedByte b _ => [b]
  | _ => []

/-- The bytes that were handed out, each with its reader. -/
def handed : Seen → List (Nat × UInt8)
  | .popped who (.ok b) => [(who, b)]
  | .returned who _ (.ok bytes) => bytes.map fun b => (who, b)
  | _ => []

@[simp] def dropped : Seen → Bytes
  | .drained bytes => bytes
  | _ => []

/-- How many bytes a producer was told had to go. -/
def gone : Seen → Nat
  | .pushed _ gone => gone
  | .pushedByte _ evicting => evicting.toNat
  | _ => 0

def stored? : Seen → Option Snapshot
  | .stored x => some x
  | _ => none

theorem handed_popped (who : Nat) (result : Except LinkError UInt8) :
    (handed (.popped who result)).map Prod.snd = result.toOption.toList := by
  cases result <;> rfl

theorem handed_returned (who : Nat) (call : ReadCall) (result : Except LinkError Bytes) :
    (handed (.returned who call result)).map Prod.snd = Ending.bytes (.returned result) := by
  cases result with
  | error e => rfl
  | ok bytes => exact (List.map_map ..).trans (List.map_id bytes)

end Seen

namespace Scene

variable {start s s' : Scene} {seen : List Seen} {a : Seen}

/-! ## One step -/

theorem Step.balances (h : Step s a s') {l : Ledger} {pushed delivered drained : Bytes}
    (hl : l.Balances pushed delivered drained s.queue) :
    ∃ l' : Ledger, l'.Balances (pushed ++ a.entered) (delivered ++ a.handed.map Prod.snd)
      (drained ++ a.dropped) s'.queue := by
  cases h with
  | push bytes =>
      refine ⟨(l.enter bytes).settle .evicted (s.queue.push bytes).value.1, ?_⟩
      simpa [Seen.handed] using hl.push bytes
  | pushByte b =>
      refine ⟨(l.enter [b]).settle .evicted (s.queue.push [b]).value.1, ?_⟩
      simpa [Seen.handed, Delivery.pushByte_value] using hl.push [b]
  | tryPop who =>
      refine ⟨l.settle .delivered s.queue.tryPop.1.toOption.toList.length, ?_⟩
      simpa [Seen.handed_popped] using hl.took (Delivery.took_tryPop s.queue)
  | @settle who _ _ result _ hturn =>
      refine ⟨l.settle .delivered (Ending.bytes (.returned result)).length, ?_⟩
      simpa [Seen.handed_returned] using hl.took (Delivery.took_of_turn hturn)
  | drain =>
      refine ⟨l.settle .drained l.queued.length, ?_⟩
      simpa [Seen.handed] using hl.drain
  | interrupt =>
      refine ⟨l, ?_⟩
      simpa [Seen.handed] using hl.interrupt
  | store x =>
      refine ⟨l, ?_⟩
      simpa [Seen.handed] using hl.store x
  | pass | skip | call | crash | suspend =>
      refine ⟨l, ?_⟩
      simpa [Seen.handed] using hl

/-- A step that is no push tells nobody of a byte that had to go, and none
had to. -/
theorem Step.evicted (h : Step s a s') : s'.queue.evicted = s.queue.evicted + a.gone := by
  cases h with
  | push bytes =>
      rw [queue_withQueue, Delivery.push_value]
      rfl
  | pushByte b =>
      rw [queue_withQueue, Delivery.pushByte_value, Delivery.push_value]
      exact congrArg (s.queue.evicted + ·) (Ring.pushAll_gone_singleton _ b).symm
  | tryPop who => exact (Delivery.took_tryPop s.queue).evicted
  | settle _ _ hturn => exact (Delivery.took_of_turn hturn).evicted
  | interrupt | drain | store | pass | skip | call | crash | suspend => rfl

theorem Step.snapshot (h : Step s a s') :
    s'.queue.snapshot = a.stored?.getD s.queue.snapshot := by
  cases h with
  | push bytes =>
      rw [queue_withQueue, Delivery.push_value]
      rfl
  | pushByte b =>
      rw [queue_withQueue, Delivery.pushByte_value, Delivery.push_value]
      rfl
  | tryPop who => exact (Delivery.took_tryPop s.queue).snapshot
  | settle _ _ hturn => exact (Delivery.took_of_turn hturn).snapshot
  | interrupt | drain | store | pass | skip | call | crash | suspend => rfl

theorem Step.capacity (h : Step s a s') : s'.queue.ring.capacity = s.queue.ring.capacity := by
  cases h with
  | push bytes =>
      rw [queue_withQueue, Delivery.push_value]
      exact Ring.capacity_pushAll _ bytes
  | pushByte b =>
      rw [queue_withQueue, Delivery.pushByte_value, Delivery.push_value]
      exact Ring.capacity_pushAll _ [b]
  | tryPop who =>
      rw [queue_withQueue]
      obtain ⟨-, -, hcapacity⟩ := s.queue.ring.pop_spec
      unfold Delivery.tryPop
      split
      · next hpop =>
          rw [hpop] at hcapacity
          exact hcapacity
      · next hpop =>
          rw [hpop] at hcapacity
          exact hcapacity
  | settle _ _ hturn =>
      cases Delivery.outcome_of_turn hturn with
      | bytes _ _ _ _ capacity => exact capacity
      | wouldBlock | interrupted | timedOut => rfl
  | interrupt | drain | store | pass | skip | call | crash | suspend => rfl

/-! ## A run -/

theorem Run.balances (h : Run start seen s)
    (hstart : Ledger.opening.Balances [] [] [] start.queue) :
    ∃ l : Ledger, l.Balances (seen.flatMap Seen.entered)
      ((seen.flatMap Seen.handed).map Prod.snd) (seen.flatMap Seen.dropped) s.queue := by
  induction h with
  | nil => exact ⟨_, hstart⟩
  | snoc _ last ih =>
      obtain ⟨l, hl⟩ := ih
      obtain ⟨l', hl'⟩ := last.balances hl
      refine ⟨l', ?_⟩
      simpa using hl'

theorem Run.evicted (h : Run start seen s) :
    s.queue.evicted = start.queue.evicted + (seen.map Seen.gone).sum := by
  induction h with
  | nil => rfl
  | snoc _ last ih =>
      rw [last.evicted, ih, List.map_append, List.sum_append, Nat.add_assoc]
      rfl

theorem Run.snapshot (h : Run start seen s) :
    s.queue.snapshot = (seen.filterMap Seen.stored?).getLast?.getD start.queue.snapshot := by
  induction h with
  | nil => rfl
  | @snoc _ a _ _ _ last ih =>
      rw [last.snapshot, ih, List.filterMap_append]
      cases ha : a.stored? with
      | none => simp [ha]
      | some x => simp [ha]

theorem Run.capacity (h : Run start seen s) :
    s.queue.ring.capacity = start.queue.ring.capacity := by
  induction h with
  | nil => rfl
  | snoc _ last ih => exact last.capacity.trans ih

/-! ## The books -/

/-- The books of a queue of this capacity, after all that was seen. -/
structure Accounted (capacity : Nat) (seen : List Seen) (s : Scene) : Prop where
  /-- Whatever entered waits now, or left in one of three ways. -/
  balance : ∃ l : Ledger, l.Balances (seen.flatMap Seen.entered)
    ((seen.flatMap Seen.handed).map Prod.snd) (seen.flatMap Seen.dropped) s.queue
  order : ((seen.flatMap Seen.handed).map Prod.snd ++ s.queue.ring.toList).Sublist
    (seen.flatMap Seen.entered)
  evicted : s.queue.evicted = (seen.map Seen.gone).sum
  /-- The bytes that do not fit are the oldest, those of the push included. -/
  push : ∀ {bytes : Bytes} {gone : Nat} {s' : Scene}, Step s (.pushed bytes gone) s' →
    gone = s.queue.ring.toList.length + bytes.length - capacity ∧
      s'.queue.ring.toList = (s.queue.ring.toList ++ bytes).drop gone
  pushByte : ∀ {b : UInt8} {evicting : Bool} {s' : Scene}, Step s (.pushedByte b evicting) s' →
    evicting.toNat = s.queue.ring.toList.length + 1 - capacity ∧
      s'.queue.ring.toList = (s.queue.ring.toList ++ [b]).drop evicting.toNat
  snapshot : s.queue.snapshot = (seen.filterMap Seen.stored?).getLast?.getD .initial
  /-- Only a store changes the snapshot. -/
  kept : ∀ {a : Seen} {s' : Scene}, Step s a s' →
    s'.queue.snapshot = a.stored?.getD s.queue.snapshot

/-- The books of a queue are in order after any run, whoever took part in
it. -/
theorem accounted_of_run {capacity : UInt64} {q : Delivery}
    (hq : Delivery.allocate capacity = .ok q) {now : Instant}
    (h : Run (.quiet q now) seen s) : Accounted capacity.toNat seen s := by
  obtain ⟨ring, hring, rfl⟩ := Delivery.allocate_eq_ok hq
  have hempty : ring.toList = [] := Ring.toList_allocate hring
  have hcapacity : s.queue.ring.capacity = capacity.toNat :=
    h.capacity.trans (Ring.capacity_allocate hring)
  obtain ⟨l, hl⟩ := h.balances (.opening hempty rfl)
  constructor
  · exact ⟨l, hl⟩
  · rw [← hl.delivered, ← hl.queued, ← hl.entered]
    exact l.bytes_append_queued_sublist .delivered
  · rw [h.evicted]
    exact Nat.zero_add _
  · intro bytes gone s' hstep
    cases hstep with
    | push _ =>
        rw [queue_withQueue, Delivery.push_value, ← hcapacity]
        exact ⟨Ring.pushAll_gone _ bytes, Ring.toList_pushAll _ bytes⟩
  · intro b evicting s' hstep
    cases hstep with
    | pushByte _ =>
        rw [queue_withQueue, Delivery.pushByte_value, Delivery.push_value, ← hcapacity,
          Ring.pushAll_gone_singleton]
        exact ⟨Ring.pushAll_gone _ [b], Ring.toList_pushAll _ [b]⟩
  · exact h.snapshot
  · intro a s' hstep
    exact hstep.snapshot

/-- One push whose first byte goes for its last, a byte that is handed out, and
one that is dropped. -/
theorem accounted_of_small_queue :
    let call : ReadCall := ⟨1, .blocking, none, ⟨0, 0⟩, none, by decide, rfl⟩
    let seen : List Seen :=
      [.pushed [1, 2, 3] 1, .called 5 call, .returned 5 call (.ok [2]), .stored ⟨6, 7⟩,
        .drained [3]]
    let q := Delivery.ofCapacity 2 (by decide)
    Delivery.allocate 2 = .ok q ∧ ∃ s, Run (quiet q ⟨0, 0⟩) seen s ∧ Accounted 2 seen s := by
  intro call seen q
  have hq : Delivery.allocate 2 = .ok q := rfl
  have hempty : (quiet q ⟨0, 0⟩).queue.ring.toList = [] := q.ring.isEmpty_iff.1 rfl
  have hpush := Step.push (quiet q ⟨0, 0⟩) [1, 2, 3]
  obtain ⟨hgone, hafter⟩ := (accounted_of_run hq .nil).push hpush
  rw [hempty] at hgone hafter
  rw [hgone] at hpush hafter
  obtain ⟨s, hrun, hidle, hnow, hqueued⟩ : ∃ s, Run (quiet q ⟨0, 0⟩) (seen.take 1) s ∧
      s.readers 5 = none ∧ s.now = ⟨0, 0⟩ ∧ s.queue.ring.toList = [2, 3] :=
    ⟨_, .single hpush, rfl, rfl, hafter⟩
  have hturn := Delivery.turn_of_toList hqueued (List.cons_ne_nil 2 [3]) 1 .blocking none s.now
  obtain ⟨s', hrun', hrest⟩ : ∃ s', Run (quiet q ⟨0, 0⟩) (seen.take 4) s' ∧
      s'.queue.ring.toList = [3] := by
    have hcalled := hrun.snoc (.call s 5 hidle call hnow.symm)
    have hreader : (s.withReader 5 (some call)).readers 5 = some call := rfl
    have hread := hcalled.snoc (.settle _ 5 hreader hturn)
    refine ⟨_, hread.snoc (.store _ ⟨6, 7⟩), ?_⟩
    exact (s.queue.ring.popUpTo_spec 1).2.1.trans (congrArg (List.drop 1) hqueued)
  have hdrain := Step.drain s'
  rw [hrest] at hdrain
  exact ⟨hq, _, hrun'.snoc hdrain, accounted_of_run hq (hrun'.snoc hdrain)⟩

end Scene

end FramedSerial
