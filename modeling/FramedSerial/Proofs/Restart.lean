import FramedSerial.Proofs.Course
import FramedSerial.Proofs.Interleaving
import FramedSerial.Proofs.Staging

/-!
# A reset is a new start

A reset drops what waits in the decoder and in the queue and leaves the rest of
a link as it is. That does not make it the link it was in the beginning. The
last status is still there, and so is an interrupt nobody has answered; those
its user is meant to see. The counters go on from where they stood. And the ring
goes on from where it was, with the bytes of former frames in its free slots,
and of that nobody is to notice anything.

Equality of states would be too much to ask, so the statement is that of two
runs. `Link.Twins` relates two links that agree in all that an operation looks
at, and whose counters are apart by a fixed amount. Each operation gives both of
them the same answer and leaves them twins, so no sequence of operations tells
them apart, and the amount stays what it was at the reset. Of a ring all that an
operation looks at is the list of its bytes and its capacity, and for the
decoder `countingFrom` says the same.
-/

namespace FramedSerial

namespace Delivery

/-- Two queues that no reader can tell apart. The first has counted so many
evictions more. -/
structure Twins (gone : Nat) (q q' : Delivery) : Prop where
  queued : q.ring.toList = q'.ring.toList
  capacity : q.ring.capacity = q'.ring.capacity
  snapshot : q.snapshot = q'.snapshot
  latch : q.latch = q'.latch
  evicted : q.evicted = gone + q'.evicted

namespace Twins

variable {gone : Nat} {q q' : Delivery}

theorem push (h : Twins gone q q') (bs : Bytes) :
    Twins gone (q.push bs).value.2 (q'.push bs).value.2 := by
  have hgone : (q.ring.pushAll bs).2 = (q'.ring.pushAll bs).2 := by
    rw [Ring.pushAll_gone, Ring.pushAll_gone, h.queued, h.capacity]
  rw [push_value, push_value]
  refine ⟨?_, ?_, h.snapshot, h.latch, ?_⟩
  · show (q.ring.pushAll bs).1.toList = (q'.ring.pushAll bs).1.toList
    rw [Ring.toList_pushAll, Ring.toList_pushAll, h.queued, hgone]
  · show (q.ring.pushAll bs).1.capacity = (q'.ring.pushAll bs).1.capacity
    rw [Ring.capacity_pushAll, Ring.capacity_pushAll, h.capacity]
  · show q.evicted + (q.ring.pushAll bs).2 = gone + (q'.evicted + (q'.ring.pushAll bs).2)
    rw [hgone, h.evicted, Nat.add_assoc]

theorem route (h : Twins gone q q') (f : Frame) :
    Twins gone (q.route f).value.2 (q'.route f).value.2 := by
  by_cases hreport : f.isReport
  · rw [route_of_report hreport, route_of_report hreport]
    exact ⟨h.queued, h.capacity, rfl, h.latch, h.evicted⟩
  · by_cases htype : f.type = FrameType.stateUpdate
    · rw [route_of_tooShort htype hreport, route_of_tooShort htype hreport]
      exact h
    · rw [route_of_ne htype, route_of_ne htype]
      exact h.push f.wire

theorem routeAll (fs : List Frame) :
    ∀ {q q' : Delivery}, Twins gone q q' → Twins gone (q.routeAll fs) (q'.routeAll fs) := by
  induction fs with
  | nil => exact fun h => h
  | cons f fs ih => exact fun h => ih (h.route f)

theorem interrupt (h : Twins gone q q') : Twins gone q.interrupt q'.interrupt :=
  ⟨h.queued, h.capacity, h.snapshot, rfl, h.evicted⟩

theorem drain (h : Twins gone q q') : Twins gone q.drain q'.drain := by
  refine ⟨?_, h.capacity, h.snapshot, h.latch, h.evicted⟩
  show q.ring.clear.toList = q'.ring.clear.toList
  rw [Ring.toList_clear, Ring.toList_clear]

/-- A look at either decides the same, or both leave the reader waiting. -/
theorem turn (h : Twins gone q q') (room : Nat) (mode : ReadMode) (deadline : Option Deadline)
    (now : Instant) :
    Option.Rel (fun r r' => r.1 = r'.1 ∧ Twins gone r.2 r'.2)
      (q.turn room mode deadline now) (q'.turn room mode deadline now) := by
  by_cases hnil : q'.ring.toList = []
  · have hempty : q.ring.isEmpty = true := q.ring.isEmpty_iff.2 (h.queued.trans hnil)
    have hempty' : q'.ring.isEmpty = true := q'.ring.isEmpty_iff.2 hnil
    unfold Delivery.turn
    rw [if_pos hempty, if_pos hempty', h.latch]
    cases mode with
    | nonBlocking => exact .some ⟨rfl, h⟩
    | blocking =>
        cases q'.latch with
        | true => exact .some ⟨rfl, h.queued, h.capacity, h.snapshot, rfl, h.evicted⟩
        | false =>
            cases deadline with
            | none => exact .none
            | some d =>
                by_cases hreached : d.time.le now = true
                · simp only [hreached, if_true]
                  exact .some ⟨rfl, h⟩
                · simp only [hreached]
                  exact .none
  · rw [turn_of_toList h.queued hnil, turn_of_toList rfl hnil]
    obtain ⟨-, hrest, hcapacity⟩ := q.ring.popUpTo_spec room
    obtain ⟨-, hrest', hcapacity'⟩ := q'.ring.popUpTo_spec room
    refine .some ⟨rfl, ?_, ?_, h.snapshot, h.latch, h.evicted⟩
    · rw [hrest, hrest', h.queued]
    · rw [hcapacity, hcapacity', h.capacity]

theorem turns (h : Twins gone q q') (room : Nat) (mode : ReadMode) (deadline : Option Deadline)
    (now : Instant) :
    let r := (q.turns room mode deadline now []).value
    let r' := (q'.turns room mode deadline now []).value
    r.1 = r'.1 ∧ Twins gone r.2.1 r'.2.1 := by
  have hnow := h.turn room mode deadline now
  have hlate : Option.Rel (fun r r' => r.1 = r'.1 ∧ Twins gone r.2 r'.2)
      (deadline.bind fun d => q.turn room mode deadline d.time)
      (deadline.bind fun d => q'.turn room mode deadline d.time) := by
    cases deadline with
    | none => exact .none
    | some d => exact h.turn room mode (some d) d.time
  intro r r'
  simp only [r, r', Delivery.turns]
  generalize q.turn room mode deadline now = seen, q'.turn room mode deadline now = seen' at hnow ⊢
  generalize (deadline.bind fun d => q.turn room mode deadline d.time) = late,
    (deadline.bind fun d => q'.turn room mode deadline d.time) = late' at hlate ⊢
  cases hnow with
  | some hsame => exact ⟨congrArg Ending.returned hsame.1, hsame.2⟩
  | none =>
      cases hlate with
      | some hsame => exact ⟨congrArg Ending.returned hsame.1, hsame.2⟩
      | none => exact ⟨rfl, h⟩

theorem readAmid (h : Twins gone q q') (room : Nat) (mode : ReadMode)
    (timeout : Option Duration) (now : Instant) :
    let r := (q.readAmid room mode timeout now []).value
    let r' := (q'.readAmid room mode timeout now []).value
    r.1 = r'.1 ∧ Twins gone r.2.1 r'.2.1 := by
  unfold Delivery.readAmid
  by_cases hroom : room = 0
  · rw [if_pos hroom, if_pos hroom]
    exact ⟨rfl, h⟩
  · rw [if_neg hroom, if_neg hroom]
    cases Delivery.deadline timeout now with
    | error cause => exact ⟨rfl, h⟩
    | ok deadline => exact h.turns room mode deadline now

end Twins

/-! ### The capacity stays -/

variable {q q' : Delivery} {room : Nat} {mode : ReadMode} {now : Instant}

theorem capacity_route (q : Delivery) (f : Frame) :
    (q.route f).value.2.ring.capacity = q.ring.capacity := by
  by_cases hreport : f.isReport
  · rw [route_of_report hreport]
    rfl
  · by_cases htype : f.type = FrameType.stateUpdate
    · rw [route_of_tooShort htype hreport]
    · rw [route_of_ne htype, push_value]
      exact Ring.capacity_pushAll _ _

theorem capacity_routeAll (fs : List Frame) :
    ∀ q : Delivery, (q.routeAll fs).ring.capacity = q.ring.capacity := by
  induction fs with
  | nil => exact fun _ => rfl
  | cons f fs ih => exact fun q => (ih (q.route f).value.2).trans (capacity_route q f)

theorem capacity_of_turn {deadline : Option Deadline} {result : Except LinkError Bytes}
    (h : q.turn room mode deadline now = some (result, q')) :
    q'.ring.capacity = q.ring.capacity := by
  unfold turn at h
  split at h
  · split at h
    · cases h
      rfl
    · split at h
      · cases h
        rfl
      · split at h
        · cases h
        · split at h <;> cases h
          rfl
  · cases h
    exact (q.ring.popUpTo_spec room).2.2

theorem capacity_readAmid (q : Delivery) (room : Nat) (mode : ReadMode)
    (timeout : Option Duration) (now : Instant) :
    (q.readAmid room mode timeout now []).value.2.1.ring.capacity = q.ring.capacity := by
  unfold readAmid
  split
  · rfl
  · split
    · rfl
    · unfold turns
      split
      · next hturn => exact capacity_of_turn hturn
      · split
        · next hturn =>
            obtain ⟨d, -, hd⟩ := Option.bind_eq_some_iff.1 hturn
            exact capacity_of_turn hd
        · rfl

end Delivery

theorem StagedDecoder.feed_countingFrom (d : StagedDecoder) (base : DecodeStats)
    (chunk : Bytes) :
    (d.countingFrom base).feed chunk = ((d.feed chunk).1, (d.feed chunk).2.countingFrom base) := by
  unfold feed
  rw [stage_countingFrom]
  rcases (d.stage chunk).value with ⟨_ | _, d'⟩
  · rfl
  · exact takeAll_countingFrom d' base

namespace Link

/-! ## Links -/

/-- Perform operations one after another. -/
def performAll (l : Link) : List Operation → List Answer × Link
  | [] => ([], l)
  | op :: later =>
    let r := (l.perform op).value
    let more := r.2.performAll later
    (r.1 :: more.1, more.2)

/-- What can become of a link with these settings. -/
inductive Reached (config : LinkConfig) : Link → Prop where
  | created {transport : Transport} {new : Logged Link} (h : create config transport = .ok new) :
      Reached config new.value
  | performed {l : Link} (h : Reached config l) (op : Operation) :
      Reached config (l.perform op).value.2
  | wrote {l : Link} (h : Reached config l) (data : Bytes) :
      Reached config (l.write data).value.2

/-- The link with this status, and with an interrupt on its way or not. -/
def given (l : Link) (s : Snapshot) (interrupted : Bool) : Link :=
  let l := l.withQueue (l.queue.store s)
  if interrupted then l.interrupt else l

/-- Two links that no user can tell apart. The first has counted these more. -/
structure Twins (base : DecodeStats) (gone : Nat) (l l' : Link) : Prop where
  decoder : l.intake.decoder = l'.intake.decoder.countingFrom base
  queue : l.queue.Twins gone l'.queue
  timeout : l.timeout = l'.timeout

/-! ### No operation tells twins apart -/

variable {base : DecodeStats} {gone : Nat} {l l' : Link} {config : LinkConfig}

theorem Twins.perform (h : Twins base gone l l') (op : Operation) :
    (l.perform op).value.1 = (l'.perform op).value.1 ∧
      Twins base gone (l.perform op).value.2 (l'.perform op).value.2 := by
  obtain ⟨hdecoder, hqueue, htimeout⟩ := h
  cases op with
  | receive chunk =>
      simp only [Link.perform, Logged.value_bind, Logged.value_pure, receive_value, hdecoder,
        StagedDecoder.feed_countingFrom]
      exact ⟨rfl, rfl, hqueue.routeAll _, htimeout⟩
  | read mode room now =>
      obtain ⟨hending, htwins⟩ := hqueue.readAmid room mode l'.timeout now
      simp only [Link.perform, readWith, Logged.value_bind, Logged.value_pure, htimeout]
      exact ⟨congrArg Answer.read hending, hdecoder, htwins, htimeout⟩
  | interrupt => exact ⟨rfl, hdecoder, hqueue.interrupt, htimeout⟩
  | status => exact ⟨congrArg Answer.snapshot hqueue.snapshot, hdecoder, hqueue, htimeout⟩
  | reset =>
      refine ⟨rfl, ?_, hqueue.drain, htimeout⟩
      show l.intake.decoder.reset = l'.intake.decoder.reset.countingFrom base
      rw [hdecoder]
      rfl

theorem Twins.performAll (ops : List Operation) :
    ∀ {l l' : Link}, Twins base gone l l' →
      (l.performAll ops).1 = (l'.performAll ops).1 ∧
        Twins base gone (l.performAll ops).2 (l'.performAll ops).2 := by
  induction ops with
  | nil => exact fun h => ⟨rfl, h⟩
  | cons op ops ih =>
      intro l l' h
      obtain ⟨hanswer, hstep⟩ := h.perform op
      obtain ⟨hanswers, hrun⟩ := ih hstep
      exact ⟨congrArg₂ _ hanswer hanswers, hrun⟩

/-! ### What a link keeps of its settings -/

/-- The capacities and the timeout are those of the settings. -/
structure Configured (config : LinkConfig) (l : Link) : Prop where
  staging : l.intake.decoder.capacity = config.stagingCapacity.toNat
  queue : l.queue.ring.capacity = config.queueCapacity.toNat
  timeout : l.timeout = config.timeout

theorem Configured.perform (h : Configured config l) (op : Operation) :
    Configured config (l.perform op).value.2 := by
  obtain ⟨hstaging, hqueue, htimeout⟩ := h
  cases op with
  | receive chunk =>
      simp only [Link.perform, Logged.value_bind, Logged.value_pure, receive_value]
      exact ⟨(StagedDecoder.capacity_feed _ _).trans hstaging,
        (Delivery.capacity_routeAll _ _).trans hqueue, htimeout⟩
  | read mode room now =>
      simp only [Link.perform, readWith, Logged.value_bind, Logged.value_pure]
      exact ⟨hstaging, (Delivery.capacity_readAmid _ _ _ _ _).trans hqueue, htimeout⟩
  | interrupt => exact ⟨hstaging, hqueue, htimeout⟩
  | status => exact ⟨hstaging, hqueue, htimeout⟩
  | reset => exact ⟨hstaging, hqueue, htimeout⟩

theorem Reached.configured (h : Reached config l) : Configured config l := by
  induction h with
  | created h =>
      obtain ⟨-, ring, hring, rfl⟩ := create_eq_ok_iff.1 h
      exact ⟨rfl, Ring.capacity_allocate hring, rfl⟩
  | performed _ op ih => exact ih.perform op
  | wrote _ data ih => exact ⟨ih.staging, ih.queue, ih.timeout⟩

/-- Whether a link can be set up depends on its settings alone. -/
theorem Reached.exists_create (h : Reached config l) (other : Transport) :
    ∃ new, create config other = .ok new := by
  induction h with
  | created h =>
      obtain ⟨hfits, ring, hring, -⟩ := create_eq_ok_iff.1 h
      exact ⟨_, create_eq_ok_iff.2 ⟨hfits, ring, hring, rfl⟩⟩
  | performed _ op ih => exact ih
  | wrote _ data ih => exact ih

theorem Reached.performAll (ops : List Operation) :
    ∀ {l : Link}, Reached config l → Reached config (l.performAll ops).2 := by
  induction ops with
  | nil => exact fun h => h
  | cons op ops ih => exact fun h => ih (h.performed op)

theorem given_eq (h : l.queue.latch = false) (s : Snapshot) (interrupted : Bool) :
    l.given s interrupted =
      l.withQueue { l.queue with snapshot := s, latch := interrupted } := by
  cases interrupted with
  | true => rfl
  | false =>
      show l.withQueue { l.queue with snapshot := s } = _
      rw [← h]

/-- A link that was reset and a new one with its status and its latch are twins. -/
theorem Configured.twins_reset (h : Configured config l) {other : Transport} {new : Logged Link}
    (hnew : create config other = .ok new) :
    Twins l.intake.decoder.stats l.queue.evicted l.reset
      (new.value.given l.queue.snapshot l.queue.latch) := by
  obtain ⟨-, ring, hring, rfl⟩ := create_eq_ok_iff.1 hnew
  rw [given_eq rfl]
  refine ⟨?_, ⟨?_, ?_, rfl, rfl, rfl⟩, h.timeout⟩
  · rw [← h.staging]
    exact StagedDecoder.eq_countingFrom (d := l.intake.decoder.reset) rfl
  · exact (Ring.toList_clear _).trans (Ring.toList_allocate hring).symm
  · exact h.queue.trans (Ring.capacity_allocate hring).symm

/-- A reset changes neither the status nor the latch nor a counter. And whatever
is done to the link from then on, it answers as a new link would that was given
the same status and the same latch, and its counters are ahead of the new ones
by what they were at the reset. -/
theorem reset_like_new (h : Reached config l) (other : Transport) :
    (l.reset.queue.snapshot = l.queue.snapshot ∧ l.reset.queue.latch = l.queue.latch ∧
      l.reset.queue.evicted = l.queue.evicted ∧
      l.reset.intake.decoder.stats = l.intake.decoder.stats) ∧
    ∃ new, create config other = .ok new ∧
      ∀ later : List Operation,
        let r := l.reset.performAll later
        let r' := (new.value.given l.queue.snapshot l.queue.latch).performAll later
        r.1 = r'.1 ∧
          r.2.intake.decoder.stats = l.intake.decoder.stats.add r'.2.intake.decoder.stats ∧
          r.2.queue.evicted = l.queue.evicted + r'.2.queue.evicted ∧
          r.2.intake.decoder.pending = r'.2.intake.decoder.pending ∧
          r.2.queued = r'.2.queued := by
  refine ⟨⟨rfl, rfl, rfl, rfl⟩, ?_⟩
  obtain ⟨new, hnew⟩ := h.exists_create other
  refine ⟨new, hnew, ?_⟩
  intro later
  obtain ⟨hanswers, htwins⟩ := (h.configured.twins_reset hnew).performAll later
  refine ⟨hanswers, ?_, htwins.queue.evicted, ?_, htwins.queue.queued⟩
  · rw [htwins.decoder]
    rfl
  · rw [htwins.decoder]
    rfl

/-- The ring has gone round, an interrupt is on its way and most of a signature
is staged when the link is reset. What comes then would have made a header with
it, and the next frames drive each other out again. -/
theorem reset_like_new_of_wrapped_ring :
    let config : LinkConfig := ⟨32, 10, .nonBlocking, none⟩
    let before : List Operation :=
      [.receive [0x0D, 0xF0, 0xAD, 0x0B, 1, 0, 2, 0, 8, 9],
        .receive [0x0D, 0xF0, 0xAD, 0x0B, 2, 0, 0, 0], .read .nonBlocking 4 ⟨0, 0⟩,
        .receive [0x0D, 0xF0, 0xAD, 0x0B, 4, 0, 2, 0, 5, 7], .interrupt,
        .receive [0x0D, 0xF0, 0xAD]]
    let later : List Operation :=
      [.receive [0x0B, 1, 0, 0, 0], .read .nonBlocking 16 ⟨0, 0⟩,
        .receive [0x0D, 0xF0, 0xAD, 0x0B, 3, 0, 2, 0, 1, 2], .status,
        .receive [0x0D, 0xF0, 0xAD, 0x0B, 6, 0, 0, 0], .read .nonBlocking 3 ⟨0, 0⟩,
        .read .nonBlocking 16 ⟨0, 0⟩, .read .blocking 16 ⟨0, 0⟩]
    ∃ new, create config (.ofScript []) = .ok new ∧
      let l := (new.value.performAll before).2
      let r := l.reset.performAll later
      let r' := (new.value.given ⟨5, 7⟩ true).performAll later
      Reached config l ∧ l.queue.snapshot = ⟨5, 7⟩ ∧ l.queue.latch = true ∧
        l.queue.evicted = 8 ∧ l.queue.ring.cells.tail ≠ new.value.queue.ring.cells.tail ∧
        r.1 = r'.1 ∧ r.1.map Answer.bytes =
          [[], [], [], [], [], [1, 2, 0x0D], [0xF0, 0xAD, 0x0B, 6, 0, 0, 0], []] ∧
        r.2.intake.decoder.stats = ⟨5, 5, 0⟩ ∧ r'.2.intake.decoder.stats = ⟨2, 5, 0⟩ ∧
        r.2.queue.evicted = 8 + 8 := by
  intro config before later
  obtain ⟨new, hnew, hsnapshot, hlatch, hgone, htail, hcounted, hbytes, hstats, hevicted⟩ :
      ∃ new, create config (.ofScript []) = .ok new ∧
        let l := (new.value.performAll before).2
        let r' := (new.value.given ⟨5, 7⟩ true).performAll later
        l.queue.snapshot = ⟨5, 7⟩ ∧ l.queue.latch = true ∧ l.queue.evicted = 8 ∧
          l.queue.ring.cells.tail ≠ new.value.queue.ring.cells.tail ∧
          l.intake.decoder.stats = ⟨3, 0, 0⟩ ∧
          r'.1.map Answer.bytes =
            [[], [], [], [], [], [1, 2, 0x0D], [0xF0, 0xAD, 0x0B, 6, 0, 0, 0], []] ∧
          r'.2.intake.decoder.stats = ⟨2, 5, 0⟩ ∧ r'.2.queue.evicted = 8 :=
    ⟨_, rfl, by decide +kernel⟩
  have hreached := (Reached.created hnew).performAll before
  obtain ⟨-, new', hnew', hlater⟩ := reset_like_new hreached (.ofScript [])
  cases hnew.symm.trans hnew'
  obtain ⟨hanswers, hadded, htotal, -, -⟩ := hlater later
  rw [hsnapshot, hlatch] at hanswers hadded htotal
  refine ⟨new, hnew, hreached, hsnapshot, hlatch, hgone, htail, hanswers, ?_, ?_, hstats, ?_⟩
  · rw [hanswers, hbytes]
  · rw [hadded, hcounted, hstats]
    rfl
  · rw [htotal, hgone, hevicted]

end Link

end FramedSerial
