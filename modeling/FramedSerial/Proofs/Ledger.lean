import FramedSerial.Delivery
import FramedSerial.Proofs.Window

/-!
# Where the bytes of a queue went

A ledger lists the bytes that were pushed into a queue, in the order of the
pushes: first those that have left it, each with what became of it, then those
that still wait. Bytes leave at the front only, so an operation settles some
number of the waiting bytes, all with one fate, and nothing is ever moved or
written twice. What the ledger says about itself therefore needs no queue to be
proved: whatever was delivered or waits is in the order of the pushes, and what
waits is the end of it all.

`Ledger.Balances` ties a ledger to a queue and to what was seen of it from
outside. One lemma for each operation keeps the balance.
-/

namespace FramedSerial

/-- What became of a byte that left a queue. -/
inductive Fate where
  | delivered
  /-- It had to go for a newer one. -/
  | evicted
  /-- It was dropped with all that waited. -/
  | drained
deriving DecidableEq

/-- The bytes that entered a queue, the oldest first. -/
structure Ledger where
  /-- Those that have left, with their fates. -/
  settled : List (UInt8 × Fate)
  queued : Bytes

namespace Ledger

def opening : Ledger := ⟨[], []⟩

def entered (l : Ledger) : Bytes := l.settled.map Prod.fst ++ l.queued

/-- The bytes that met a fate. -/
def bytes (l : Ledger) (fate : Fate) : Bytes :=
  (l.settled.filter fun e => e.2 = fate).map Prod.fst

def enter (l : Ledger) (bs : Bytes) : Ledger := { l with queued := l.queued ++ bs }

/-- The oldest `n` bytes that wait meet a fate. -/
def settle (l : Ledger) (fate : Fate) (n : Nat) : Ledger :=
  ⟨l.settled ++ (l.queued.take n).map fun b => (b, fate), l.queued.drop n⟩

@[simp] theorem queued_enter (l : Ledger) (bs : Bytes) :
    (l.enter bs).queued = l.queued ++ bs := rfl

@[simp] theorem bytes_enter (l : Ledger) (bs : Bytes) (fate : Fate) :
    (l.enter bs).bytes fate = l.bytes fate := rfl

@[simp] theorem entered_enter (l : Ledger) (bs : Bytes) :
    (l.enter bs).entered = l.entered ++ bs :=
  (List.append_assoc _ _ _).symm

@[simp] theorem queued_settle (l : Ledger) (fate : Fate) (n : Nat) :
    (l.settle fate n).queued = l.queued.drop n := rfl

@[simp] theorem entered_settle (l : Ledger) (fate : Fate) (n : Nat) :
    (l.settle fate n).entered = l.entered := by
  simp only [entered, settle, List.map_append, List.map_map, List.append_assoc]
  congr 1
  rw [show (Prod.fst ∘ fun b : UInt8 => (b, fate)) = id from rfl, List.map_id,
    List.take_append_drop]

@[simp] theorem enter_nil (l : Ledger) : l.enter [] = l := by
  simp [enter]

@[simp] theorem settle_zero (l : Ledger) (fate : Fate) : l.settle fate 0 = l := by
  simp [settle]

theorem bytes_settle_self (l : Ledger) (fate : Fate) (n : Nat) :
    (l.settle fate n).bytes fate = l.bytes fate ++ l.queued.take n := by
  simp only [bytes, settle, List.filter_append, List.map_append]
  congr 1
  have hall : ∀ e ∈ (l.queued.take n).map fun b => (b, fate), decide (e.2 = fate) = true := by
    intro e he
    obtain ⟨b, -, rfl⟩ := List.mem_map.1 he
    exact decide_eq_true rfl
  rw [List.filter_eq_self.2 hall, List.map_map]
  exact List.map_id _

theorem bytes_settle_of_ne (l : Ledger) {fate other : Fate} (hne : fate ≠ other) (n : Nat) :
    (l.settle fate n).bytes other = l.bytes other := by
  have hnone : ((l.queued.take n).map fun b => (b, fate)).filter (fun e => e.2 = other) = [] := by
    rw [List.filter_eq_nil_iff]
    intro e he
    obtain ⟨b, -, rfl⟩ := List.mem_map.1 he
    simpa using hne
  simp only [bytes, settle, List.filter_append, List.map_append]
  rw [hnone, List.map_nil, List.append_nil]

/-- What met one fate and what waits are in the order of the pushes. -/
theorem bytes_append_queued_sublist (l : Ledger) (fate : Fate) :
    (l.bytes fate ++ l.queued).Sublist l.entered :=
  (List.filter_sublist.map Prod.fst).append (List.Sublist.refl l.queued)

theorem ne_of_bytes_nil {l : Ledger} {fate : Fate} (h : l.bytes fate = []) :
    ∀ e ∈ l.settled, e.2 ≠ fate := by
  intro e he hfate
  have hmem : e.1 ∈ l.bytes fate :=
    List.mem_map_of_mem (List.mem_filter.2 ⟨he, decide_eq_true hfate⟩)
  rw [h] at hmem
  cases hmem

theorem bytes_of_forall {l : Ledger} {fate : Fate} (h : ∀ e ∈ l.settled, e.2 = fate) :
    l.bytes fate = l.settled.map Prod.fst := by
  rw [bytes, List.filter_eq_self.2 fun e he => decide_eq_true (h e he)]

theorem queued_suffix (l : Ledger) : l.queued <:+ l.entered :=
  ⟨l.settled.map Prod.fst, rfl⟩

end Ledger

/-! ## What one operation does -/

/-- The bytes that a read returns. -/
def Ending.bytes {ε : Type} : Ending ε Bytes → Bytes
  | .returned (.ok bs) => bs
  | _ => []

namespace Delivery

/-- These bytes went from the front of a queue, and at most the latch changed
besides. -/
structure Took (q q' : Delivery) (bs : Bytes) : Prop where
  taken : q.ring.toList = bs ++ q'.ring.toList
  snapshot : q'.snapshot = q.snapshot
  evicted : q'.evicted = q.evicted

theorem Took.nothing (q : Delivery) : Took q q [] := ⟨rfl, rfl, rfl⟩

variable {q q' : Delivery} {room : Nat} {mode : ReadMode} {now : Instant}

theorem allocate_eq_ok {capacity : UInt64} (h : allocate capacity = .ok q) :
    ∃ ring, Ring.allocate capacity = .ok ring ∧ q = ofRing ring := by
  unfold allocate at h
  cases hring : Ring.allocate capacity with
  | error cause =>
      rw [hring] at h
      cases h
  | ok ring =>
      rw [hring] at h
      cases h
      exact ⟨ring, rfl, rfl⟩

theorem push_value (q : Delivery) (bs : Bytes) :
    (q.push bs).value = ((q.ring.pushAll bs).2,
      { q with
        ring := (q.ring.pushAll bs).1
        evicted := q.evicted + (q.ring.pushAll bs).2 }) := by
  by_cases hgone : 0 < (q.ring.pushAll bs).2
  · simp only [push, if_pos hgone]
    rfl
  · simp only [push, if_neg hgone]
    rfl

/-- A push of one byte, told as yes or no. -/
theorem pushByte_value (q : Delivery) (b : UInt8) :
    (q.pushByte b).value = (decide (0 < (q.push [b]).value.1), (q.push [b]).value.2) := rfl

theorem took_of_turn {deadline : Option Deadline} {result : Except LinkError Bytes}
    (h : q.turn room mode deadline now = some (result, q')) :
    Took q q' (Ending.bytes (.returned result)) := by
  unfold turn at h
  split at h
  · -- an empty queue gives nothing, whatever else is the case
    split at h
    · cases h
      exact .nothing q
    · split at h
      · cases h
        exact ⟨rfl, rfl, rfl⟩
      · split at h
        · cases h
        · split at h
          · cases h
            exact .nothing q
          · cases h
  · cases h
    refine ⟨?_, rfl, rfl⟩
    show q.ring.toList = (q.ring.popUpTo room).1 ++ (q.ring.popUpTo room).2.toList
    obtain ⟨hbytes, hrest, -⟩ := q.ring.popUpTo_spec room
    rw [hbytes, hrest, List.take_append_drop]

/-- The recursion of a read. A turn decides it, now or at its deadline; or nothing
is left to happen and it waits; or it goes on after the next happening. -/
theorem turns_induction {room : Nat} {mode : ReadMode} {deadline : Option Deadline}
    {motive : Delivery → Logged (ReadEnd × Delivery × List (Instant × Happening)) → Prop}
    (settled : ∀ {q q' : Delivery} {time : Instant} {result : Except LinkError Bytes},
      q.turn room mode deadline time = some (result, q') →
        ∀ later, motive q ⟨(.returned result, q', later), []⟩)
    (waits : ∀ {q : Delivery} {now : Instant}, q.turn room mode deadline now = none →
      (∀ d, deadline = some d → q.turn room mode deadline d.time = none) →
        motive q ⟨(.waiting, q, []), []⟩)
    (goesOn : ∀ (q : Delivery) (happening : Happening) {more},
      motive (q.meet happening).value more →
        motive q ⟨more.value, (q.meet happening).events ++ more.events⟩)
    (later : List (Instant × Happening)) :
    ∀ (q : Delivery) (now : Instant), motive q (q.turns room mode deadline now later) := by
  induction later with
  | nil =>
      intro q now
      unfold turns
      split
      · next hturn => exact settled hturn []
      · next hturn =>
          split
          · next hbind =>
              obtain ⟨d, -, hthen⟩ := Option.bind_eq_some_iff.1 hbind
              exact settled hthen []
          · next hbind =>
              refine waits hturn ?_
              rintro d rfl
              exact hbind
  | cons next later ih =>
      intro q now
      unfold turns
      split
      · next hturn => exact settled hturn (next :: later)
      · split
        · next hbind =>
            obtain ⟨d, -, hthen⟩ := Option.bind_eq_some_iff.1 hbind
            split at hthen
            · cases hthen
            · exact settled hthen (next :: later)
        · exact goesOn q next.2 (ih _ next.1)

theorem took_turns (q : Delivery) (room : Nat) (mode : ReadMode) (deadline : Option Deadline)
    (now : Instant) :
    q.Took (q.turns room mode deadline now []).value.2.1
      (q.turns room mode deadline now []).value.1.bytes := by
  unfold turns
  split
  · next hturn => exact took_of_turn hturn
  · split
    · next hturn =>
        obtain ⟨d, -, hd⟩ := Option.bind_eq_some_iff.1 hturn
        exact took_of_turn hd
    · exact .nothing q

theorem took_readAmid (q : Delivery) (room : Nat) (mode : ReadMode)
    (timeout : Option Duration) (now : Instant) :
    q.Took (q.readAmid room mode timeout now []).value.2.1
      (q.readAmid room mode timeout now []).value.1.bytes := by
  unfold readAmid
  split
  · exact .nothing q
  · split
    · exact .nothing q
    · exact took_turns q room mode _ now

end Delivery

/-! ## The balance -/

/-- The ledger of a queue, into which `pushed` went, from which readers got
`delivered`, and whose drains dropped `drained`. -/
structure Ledger.Balances (l : Ledger) (pushed delivered drained : Bytes) (q : Delivery) :
    Prop where
  entered : l.entered = pushed
  delivered : l.bytes .delivered = delivered
  drained : l.bytes .drained = drained
  evicted : (l.bytes .evicted).length = q.evicted
  queued : l.queued = q.ring.toList

namespace Ledger.Balances

variable {l : Ledger} {pushed delivered drained : Bytes} {q : Delivery}

theorem opening {q : Delivery} (hring : q.ring.toList = []) (hevicted : q.evicted = 0) :
    Ledger.opening.Balances [] [] [] q :=
  ⟨rfl, rfl, rfl, hevicted.symm, hring.symm⟩

theorem push (h : l.Balances pushed delivered drained q) (bs : Bytes) :
    ((l.enter bs).settle .evicted (q.push bs).value.1).Balances (pushed ++ bs) delivered
      drained (q.push bs).value.2 := by
  have hle : (q.ring.pushAll bs).2 ≤ (q.ring.toList ++ bs).length := by
    rw [Ring.pushAll_gone, List.length_append]
    omega
  rw [Delivery.push_value]
  constructor
  · rw [entered_settle, entered_enter, h.entered]
  · rw [bytes_settle_of_ne _ (by decide), bytes_enter, h.delivered]
  · rw [bytes_settle_of_ne _ (by decide), bytes_enter, h.drained]
  · rw [bytes_settle_self, bytes_enter, queued_enter, List.length_append, h.evicted, h.queued,
      List.length_take_of_le hle]
  · rw [queued_settle, queued_enter, h.queued, Ring.toList_pushAll]

theorem took (h : l.Balances pushed delivered drained q) {q' : Delivery} {bs : Bytes}
    (ht : q.Took q' bs) :
    (l.settle .delivered bs.length).Balances pushed (delivered ++ bs) drained q' := by
  -- the ledger's waiting bytes split where the read stopped
  have htaken := h.queued.trans ht.taken
  constructor
  · rw [entered_settle, h.entered]
  · rw [bytes_settle_self, h.delivered, htaken, List.take_left]
  · rw [bytes_settle_of_ne _ (by decide), h.drained]
  · rw [bytes_settle_of_ne _ (by decide), h.evicted, ht.evicted]
  · rw [queued_settle, htaken, List.drop_left]

theorem drain (h : l.Balances pushed delivered drained q) :
    (l.settle .drained l.queued.length).Balances pushed delivered
      (drained ++ q.ring.toList) q.drain := by
  constructor
  · rw [entered_settle, h.entered]
  · rw [bytes_settle_of_ne _ (by decide), h.delivered]
  · rw [bytes_settle_self, h.drained, List.take_length, h.queued]
  · rw [bytes_settle_of_ne _ (by decide), h.evicted, Delivery.drain]
  · rw [queued_settle, List.drop_length]
    exact (Ring.toList_clear _).symm

theorem interrupt (h : l.Balances pushed delivered drained q) :
    l.Balances pushed delivered drained q.interrupt :=
  ⟨h.entered, h.delivered, h.drained, h.evicted, h.queued⟩

theorem store (h : l.Balances pushed delivered drained q) (s : Snapshot) :
    l.Balances pushed delivered drained (q.store s) :=
  ⟨h.entered, h.delivered, h.drained, h.evicted, h.queued⟩

/-- If nothing was dropped, nothing had to go and nothing waits, then readers got
all that was pushed. -/
theorem delivered_eq_pushed (h : l.Balances pushed delivered [] q) (hevicted : q.evicted = 0)
    (hempty : q.ring.toList = []) : delivered = pushed := by
  have hdrained := ne_of_bytes_nil h.drained
  have hgone := ne_of_bytes_nil (List.eq_nil_of_length_eq_zero (h.evicted.trans hevicted))
  have hall : ∀ e ∈ l.settled, e.2 = .delivered := by
    intro e he
    cases hfate : e.2 with
    | delivered => rfl
    | evicted => exact absurd hfate (hgone e he)
    | drained => exact absurd hfate (hdrained e he)
  calc delivered = l.bytes .delivered := h.delivered.symm
    _ = l.settled.map Prod.fst := bytes_of_forall hall
    _ = l.entered := by rw [Ledger.entered, h.queued, hempty, List.append_nil]
    _ = pushed := h.entered

end Ledger.Balances

end FramedSerial
