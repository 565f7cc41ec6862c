import FramedSerial.Command.Bridge
import FramedSerial.Proofs.Interleaving
import FramedSerial.Proofs.Routing
import FramedSerial.Proofs.Trace

/-!
# The forwarder leaves nothing behind

A forwarder reads the queue and writes out what it reads, while a producer
routes frames into the queue. When the producer has no more frames it says so,
and it interrupts the queue. A blocking forwarder ends at the interrupt, a
polling one when it is told, after one more look at everything that is there.

Both ways there is a moment between an empty queue and the end in which the last
frame may come. Neither forwarder falls into it, and for the same reason: it
ends only on an empty queue that it looked at after the producer was done. In
blocking mode the latch tells it so, which is set for the first time after the
last frame; in polling mode it has been told before it starts to drain.

Who else reads the queue would take bytes away from the forwarder, so here the
forwarder is the only reader; and the user does not call the program off.
-/

namespace FramedSerial

namespace Forwarder

variable {mode : ReadMode} {onEmpty : ForwardPhase} {stopped : Bool} {f f' : Forwarder}
  {q q' : Delivery}

/-- What a read of the queue comes to for a forwarder. -/
inductive Look (mode : ReadMode) (onEmpty : ForwardPhase) (f : Forwarder) (q : Delivery) :
    Forwarder → Delivery → Prop where
  | bytes {bs : Bytes} {q' : Delivery} (took : q.Took q' bs) (some : bs ≠ [])
      (latch : q'.latch = q.latch) : Look mode onEmpty f q (f.write none bs) q'
  | empty (polls : mode = .nonBlocking) (nothing : q.ring.toList = []) :
      Look mode onEmpty f q { f with phase := onEmpty } q
  | interrupted (waits : mode = .blocking) (nothing : q.ring.toList = [])
      (latch : q.latch = true) :
      Look mode onEmpty f q { f with phase := .ended (.ok ()) } { q with latch := false }

def call (mode : ReadMode) : ReadCall :=
  ⟨room, mode, none, ⟨0, 0⟩, none, by decide, rfl⟩

theorem outcome_of_turn {result : Except LinkError Bytes}
    (h : q.turn room mode none ⟨0, 0⟩ = some (result, q')) :
    q.Outcome ⟨0, 0⟩ (call mode) result q' :=
  Delivery.outcome_of_turn h

theorem look_of_readQueue (h : f.readQueue mode none onEmpty q = some (f', q')) :
    Look mode onEmpty f q f' q' := by
  unfold readQueue at h
  split at h
  · cases h
  · next bs q₁ hturn =>
      cases h
      cases outcome_of_turn hturn with
      | bytes oldest length some =>
          have htook := Delivery.took_of_turn hturn
          exact .bytes htook (List.length_pos_iff.1 some) rfl
  · next hturn =>
      cases h
      cases outcome_of_turn hturn with
      | wouldBlock polls nothing => exact .empty polls nothing
  · next hturn =>
      cases h
      cases outcome_of_turn hturn with
      | interrupted waits nothing latch => exact .interrupted waits nothing latch
  · next hother hother' hturn =>
      -- without a deadline there is no other way for a read to fail
      cases outcome_of_turn hturn with
      | wouldBlock => exact (hother rfl).elim
      | interrupted => exact (hother' rfl).elim
      | timedOut _ _ _ deadline => cases deadline

/-- Whatever a forwarder does, it writes what it takes. -/
theorem Look.written (h : Look mode onEmpty f q f' q') :
    ∃ bs, q.Took q' bs ∧ f'.written = f.written ++ bs := by
  cases h with
  | @bytes bs _ took => exact ⟨bs, took, written_write f bs⟩
  | empty => exact ⟨[], .nothing q, (List.append_nil _).symm⟩
  | interrupted => exact ⟨[], ⟨rfl, rfl, rfl⟩, (List.append_nil _).symm⟩

theorem written_of_step (h : f.step mode none stopped q = some (f', q')) :
    ∃ bs, q.Took q' bs ∧ f'.written = f.written ++ bs := by
  unfold step at h
  split at h
  · exact (look_of_readQueue h).written
  · cases h
    exact ⟨[], .nothing q, (List.append_nil _).symm⟩
  · exact (look_of_readQueue h).written
  · cases h

end Forwarder

/-! ## The forwarder comes to its end -/

/-- How many changes of its phase a forwarder still needs, once the producer is
done. -/
def ForwardPhase.rank : ForwardPhase → Nat
  | .reading => 3
  | .asking => 2
  | .draining => 1
  | .ended _ => 0

theorem ForwardPhase.ne_ended {p : ForwardPhase} (h : 0 < p.rank)
    (result : Except Failure Unit) : p ≠ .ended result := by
  rintro rfl
  exact Nat.lt_irrefl 0 h

theorem ForwardPhase.rank_le (p : ForwardPhase) : p.rank ≤ 3 := by
  cases p <;> simp [rank]

namespace Forwarder

variable {mode : ReadMode} {onEmpty : ForwardPhase} {f f' : Forwarder} {q q' : Delivery}

theorem exists_readQueue (hlatch : q.latch = true) :
    ∃ f' q', f.readQueue mode none onEmpty q = some (f', q') := by
  cases h : f.readQueue mode none onEmpty q with
  | some x => exact ⟨x.1, x.2, rfl⟩
  | none =>
      unfold readQueue at h
      split at h
      · next hturn =>
          have hidles : q.Idles ⟨0, 0⟩ (call mode) := Delivery.idles_of_turn hturn
          exact absurd hlatch (Bool.eq_false_iff.1 hidles.latch)
      all_goals cases h

theorem Look.fewer (h : Look mode onEmpty f q f' q') (hrank : onEmpty.rank < f.phase.rank) :
    q'.ring.toList.length + f'.phase.rank < q.ring.toList.length + f.phase.rank ∧
      (q.latch = true → q'.latch = true ∨ ∃ result, f'.phase = .ended result) := by
  cases h with
  | bytes took some latch =>
      have hlength := congrArg List.length took.taken
      have hpos := List.length_pos_iff.2 some
      rw [List.length_append] at hlength
      refine ⟨?_, fun hset => .inl (latch.trans hset)⟩
      show q'.ring.toList.length + f.phase.rank < q.ring.toList.length + f.phase.rank
      omega
  | empty => exact ⟨Nat.add_lt_add_left hrank _, .inl⟩
  | interrupted =>
      refine ⟨Nat.add_lt_add_left (Nat.lt_of_le_of_lt (Nat.zero_le _) hrank) _, ?_⟩
      exact fun _ => .inr ⟨_, rfl⟩

/-- With the latch set and the producer finished, no forwarder has to wait. -/
theorem exists_step (hlatch : q.latch = true) (hopen : ∀ result, f.phase ≠ .ended result) :
    ∃ f' q', f.step mode none true q = some (f', q') ∧
      q'.ring.toList.length + f'.phase.rank < q.ring.toList.length + f.phase.rank ∧
      (q'.latch = true ∨ ∃ result, f'.phase = .ended result) := by
  unfold step
  cases hphase : f.phase with
  | reading =>
      obtain ⟨f', q', hread⟩ : ∃ f' q', f.readQueue mode none .asking q = some (f', q') :=
        exists_readQueue hlatch
      have hfewer := (look_of_readQueue hread).fewer (by rw [hphase]; decide)
      rw [hphase] at hfewer
      exact ⟨f', q', hread, hfewer.1, hfewer.2 hlatch⟩
  | asking => exact ⟨_, q, rfl, Nat.add_lt_add_left (Nat.lt_succ_self 1) _, .inl hlatch⟩
  | draining =>
      obtain ⟨f', q', hread⟩ :
          ∃ f' q', f.readQueue .nonBlocking none (.ended (.ok ())) q = some (f', q') :=
        exists_readQueue hlatch
      have hfewer := (look_of_readQueue hread).fewer (by rw [hphase]; decide)
      rw [hphase] at hfewer
      exact ⟨f', q', hread, hfewer.1, hfewer.2 hlatch⟩
  | ended result => exact absurd hphase (hopen result)

theorem steps_of_ended {result : Except Failure Unit} (h : f.phase = .ended result)
    (stopped : Bool) (fuel : Nat) : f.steps mode none stopped fuel q = (f, q) := by
  cases fuel with
  | zero => rfl
  | succ n =>
      unfold steps step
      rw [h]

theorem ended_of_steps (fuel : Nat) :
    ∀ {f : Forwarder} {q : Delivery}, q.ring.toList.length + f.phase.rank ≤ fuel →
      (q.latch = true ∨ ∃ result, f.phase = .ended result) →
      ∃ result, (f.steps mode none true fuel q).1.phase = .ended result := by
  induction fuel with
  | zero =>
      intro f q hfuel _
      cases hphase : f.phase with
      | ended result => exact ⟨result, hphase⟩
      | reading | asking | draining =>
          rw [hphase, ForwardPhase.rank] at hfuel
          omega
  | succ n ih =>
      intro f q hfuel hready
      by_cases hended : ∃ result, f.phase = .ended result
      · obtain ⟨result, hended⟩ := hended
        rw [steps_of_ended hended]
        exact ⟨result, hended⟩
      · have hopen : ∀ result, f.phase ≠ .ended result := fun result h => hended ⟨result, h⟩
        obtain ⟨f', q', hstep, hfewer, hready'⟩ := exists_step (hready.resolve_right hended) hopen
        rw [steps, hstep]
        exact ih (by omega) hready'

theorem ended_of_catchUp (hready : q.latch = true ∨ ∃ result, f.phase = .ended result) :
    ∃ result, (f.catchUp mode none true q).1.phase = .ended result := by
  refine ended_of_steps _ ?_ hready
  have hrank := f.phase.rank_le
  rw [Ring.length_toList]
  omega

end Forwarder

/-! ## A forwarder and a producer -/

/-- A queue, its forwarder, and how far the producer is. -/
structure Relay where
  queue : Delivery
  forwarder : Forwarder
  /-- The producer has no more frames, and the forwarder is told so if it asks. -/
  finished : Bool
  /-- The producer has no more frames, and has interrupted the queue. -/
  interrupted : Bool

namespace Relay

inductive Act where
  | pushed (f : Frame) (gone : Nat)
  | finished
  | interrupted
  | wrote (bytes : Bytes)

def Act.frames : Act → List Frame
  | .pushed f _ => [f]
  | _ => []

def Act.book (l : Ledger) : Act → Ledger
  | .pushed f gone => (l.enter (forwarded [f])).settle .evicted gone
  | .wrote bytes => l.settle .delivered bytes.length
  | _ => l

def frames (acts : List Act) : List Frame := acts.flatMap Act.frames

/-- The books of the queue, kept by what was seen. -/
def ledger (acts : List Act) : Ledger := acts.foldl Act.book .opening

def start (queue : Delivery) : Relay := ⟨queue, .start, false, false⟩

/-- The producer finishes and interrupts in either order, but pushes nothing after
that. -/
inductive Step (mode : ReadMode) : Relay → Act → Relay → Prop where
  | push (r : Relay) (f : Frame) (unfinished : r.finished = false)
      (uninterrupted : r.interrupted = false) :
      Step mode r (.pushed f (r.queue.route f).value.1.gone)
        { r with queue := (r.queue.route f).value.2 }
  | finish (r : Relay) : Step mode r .finished { r with finished := true }
  | interrupt (r : Relay) :
      Step mode r .interrupted { r with queue := r.queue.interrupt, interrupted := true }
  | forward (r : Relay) {forwarder : Forwarder} {queue : Delivery}
      (h : r.forwarder.step mode none r.finished r.queue = some (forwarder, queue)) :
      Step mode r (.wrote (forwarder.written.drop r.forwarder.written.length))
        { r with forwarder, queue }

variable {mode : ReadMode} {r r' : Relay} {acts : List Act} {x : Act}

/-- The producer and the forwarder wait for each other as they should. -/
structure Orderly (r : Relay) : Prop where
  /-- The latch is set by the producer only, and spent by the forwarder only. -/
  latch : r.queue.latch = true → r.interrupted = true
  pending : r.interrupted = true →
    r.queue.latch = true ∨ ∃ result, r.forwarder.phase = .ended result
  draining : r.forwarder.phase = .draining → r.finished = true
  ended : ∀ result, r.forwarder.phase = .ended result → result = .ok () ∧
    r.queue.ring.toList = [] ∧ (r.finished = true ∨ r.interrupted = true)

theorem ledger_concat (acts : List Act) (x : Act) :
    ledger (acts ++ [x]) = x.book (ledger acts) := by
  rw [ledger, List.foldl_concat]
  rfl

theorem frames_concat (acts : List Act) (x : Act) :
    frames (acts ++ [x]) = frames acts ++ x.frames := by
  rw [frames, List.flatMap_append, List.flatMap_singleton]
  rfl

theorem frames_append (acts more : List Act) :
    frames (acts ++ more) = frames acts ++ frames more :=
  List.flatMap_append

theorem frames_concat_of_nil (acts : List Act) {x : Act} (h : x.frames = []) :
    frames (acts ++ [x]) = frames acts := by
  rw [frames_concat, h, List.append_nil]

theorem forwarded_frames_concat (acts : List Act) (x : Act) :
    forwarded (frames (acts ++ [x])) = forwarded (frames acts) ++ forwarded x.frames := by
  rw [frames_concat, forwarded_append]

/-! ## One step -/

theorem Orderly.push (h : r.Orderly) (f : Frame) (unfinished : r.finished = false)
    (uninterrupted : r.interrupted = false) :
    Orderly { r with queue := (r.queue.route f).value.2 } := by
  have hlatch : (r.queue.route f).value.2.latch = r.queue.latch := Delivery.latch_route _ f
  constructor
  · intro hset
    exact h.latch (hlatch.symm.trans hset)
  · intro hinterrupted
    rw [uninterrupted] at hinterrupted
    cases hinterrupted
  · exact h.draining
  · intro result hended
    obtain ⟨-, -, hfinished | hinterrupted⟩ := h.ended result hended
    · rw [unfinished] at hfinished
      cases hfinished
    · rw [uninterrupted] at hinterrupted
      cases hinterrupted

/-- The forwarder goes on without a change of the latch or of what it is told. -/
theorem Orderly.go (h : r.Orderly) {forwarder : Forwarder} {queue : Delivery}
    (hopen : ∀ result, r.forwarder.phase ≠ .ended result)
    (hopen' : ∀ result, forwarder.phase ≠ .ended result)
    (hdraining : forwarder.phase = .draining → r.finished = true)
    (hlatch : queue.latch = r.queue.latch) : Orderly { r with forwarder, queue } := by
  constructor
  · intro hset
    exact h.latch (hlatch.symm.trans hset)
  · intro hinterrupted
    rcases h.pending hinterrupted with hset | ⟨result, hended⟩
    · exact .inl (hlatch.trans hset)
    · exact absurd hended (hopen result)
  · exact hdraining
  · intro result hended
    exact absurd hended (hopen' result)

/-- The forwarder ends at an empty queue, the producer being done. -/
theorem Orderly.finish (h : r.Orderly) {forwarder : Forwarder} {queue : Delivery}
    (hended : forwarder.phase = .ended (.ok ())) (hempty : queue.ring.toList = [])
    (hdone : r.finished = true ∨ r.interrupted = true)
    (hlatch : queue.latch = true → r.queue.latch = true) :
    Orderly { r with forwarder, queue } := by
  constructor
  · intro hset
    exact h.latch (hlatch hset)
  · intro _
    exact .inr ⟨_, hended⟩
  · intro hdraining
    cases hended.symm.trans hdraining
  · intro result hresult
    cases hended.symm.trans hresult
    exact ⟨rfl, hempty, hdone⟩

theorem Orderly.forward (h : r.Orderly) {forwarder : Forwarder} {queue : Delivery}
    (hstep : r.forwarder.step mode none r.finished r.queue = some (forwarder, queue)) :
    Orderly { r with forwarder, queue } := by
  unfold Forwarder.step at hstep
  split at hstep
  · next hphase =>
      have hopen := ForwardPhase.ne_ended (p := r.forwarder.phase) (by rw [hphase]; decide)
      cases Forwarder.look_of_readQueue hstep with
      | bytes _ _ latch =>
          refine h.go hopen hopen ?_ latch
          exact h.draining
      | empty =>
          refine h.go hopen (fun _ => ForwardPhase.noConfusion) ?_ rfl
          exact ForwardPhase.noConfusion
      | interrupted _ nothing latch =>
          -- a latch that is set says that the last frame had come before this look
          exact h.finish rfl nothing (.inr (h.latch latch)) (fun hset => nomatch hset)
  · next hphase =>
      have hopen := ForwardPhase.ne_ended (p := r.forwarder.phase) (by rw [hphase]; decide)
      cases hstep
      refine h.go hopen ?_ ?_ rfl
      · intro result
        show (if r.finished = true then ForwardPhase.draining else .reading) ≠ .ended result
        split <;> exact ForwardPhase.noConfusion
      · show (if r.finished = true then ForwardPhase.draining else .reading) = .draining → _
        split
        · next hfinished => exact fun _ => hfinished
        · exact ForwardPhase.noConfusion
  · next hphase =>
      have hopen := ForwardPhase.ne_ended (p := r.forwarder.phase) (by rw [hphase]; decide)
      cases Forwarder.look_of_readQueue hstep with
      | bytes _ _ latch =>
          refine h.go hopen hopen ?_ latch
          exact h.draining
      | empty _ nothing =>
          -- and so does having been told before the draining began
          exact h.finish rfl nothing (.inl (h.draining hphase)) id
      | interrupted waits => cases waits
  · cases hstep

structure Holds (acts : List Act) (r : Relay) : Prop where
  balances : (ledger acts).Balances (forwarded (frames acts)) r.forwarder.written [] r.queue
  orderly : r.Orderly

theorem Holds.step (h : Holds acts r) (step : Step mode r x r') : Holds (acts ++ [x]) r' := by
  obtain ⟨hbalances, horderly⟩ := h
  cases step with
  | push f unfinished uninterrupted =>
      refine ⟨?_, horderly.push f unfinished uninterrupted⟩
      rw [ledger_concat, forwarded_frames_concat]
      exact Delivery.balances_route hbalances f
  | finish =>
      refine ⟨?_, ?_⟩
      · rw [ledger_concat, frames_concat_of_nil _ rfl]
        exact hbalances
      · refine ⟨horderly.latch, horderly.pending, fun _ => rfl, ?_⟩
        intro result hended
        obtain ⟨hresult, hempty, -⟩ := horderly.ended result hended
        exact ⟨hresult, hempty, .inl rfl⟩
  | interrupt =>
      refine ⟨?_, ?_⟩
      · rw [ledger_concat, frames_concat_of_nil _ rfl]
        exact hbalances.interrupt
      · refine ⟨fun _ => rfl, fun _ => .inl rfl, horderly.draining, ?_⟩
        intro result hended
        obtain ⟨hresult, hempty, -⟩ := horderly.ended result hended
        exact ⟨hresult, hempty, .inr rfl⟩
  | forward hstep =>
      refine ⟨?_, horderly.forward hstep⟩
      obtain ⟨bs, htook, hwritten⟩ := Forwarder.written_of_step hstep
      rw [ledger_concat, frames_concat_of_nil _ rfl, hwritten, List.drop_left]
      exact hbalances.took htook

/-! ## A run -/

theorem holds_start {capacity : UInt64} {queue : Delivery}
    (hqueue : Delivery.allocate capacity = .ok queue) : Holds [] (start queue) := by
  obtain ⟨ring, hring, rfl⟩ := Delivery.allocate_eq_ok hqueue
  refine ⟨.opening (Ring.toList_allocate hring) rfl, ?_⟩
  constructor
  · intro hset
    cases hset
  · intro hinterrupted
    cases hinterrupted
  · intro hdraining
    cases hdraining
  · intro _ hended
    cases hended

theorem Holds.trace {before : List Act} (h : Holds before r)
    (htrace : Trace (Step mode) r acts r') : Holds (before ++ acts) r' := by
  induction htrace with
  | nil =>
      rw [List.append_nil]
      exact h
  | snoc _ last ih =>
      rw [← List.append_assoc]
      exact ih.step last

theorem trace_of_steps (fuel : Nat) : ∀ r : Relay, ∃ acts,
    let after := r.forwarder.steps mode none r.finished fuel r.queue
    Trace (Step mode) r acts { r with forwarder := after.1, queue := after.2 } ∧
      frames acts = [] ∧ after.2.evicted = r.queue.evicted := by
  induction fuel with
  | zero => exact fun r => ⟨[], .nil, rfl, rfl⟩
  | succ n ih =>
      intro r
      unfold Forwarder.steps
      cases hstep : r.forwarder.step mode none r.finished r.queue with
      | none => exact ⟨[], .nil, rfl, rfl⟩
      | some after =>
          obtain ⟨acts, htrace, hframes, hevicted⟩ :=
            ih { r with forwarder := after.1, queue := after.2 }
          obtain ⟨bs, htook, -⟩ := Forwarder.written_of_step hstep
          exact ⟨_, .cons (Step.forward r hstep) htrace, hframes, hevicted.trans htook.evicted⟩

/-- When the producer is done, the forwarder comes to its end without anybody's
help. -/
theorem trace_of_catchUp (r : Relay) (hfinished : r.finished = true)
    (hready : r.queue.latch = true ∨ ∃ result, r.forwarder.phase = .ended result) :
    let after := r.forwarder.catchUp mode none r.finished r.queue
    ∃ acts result, Trace (Step mode) r acts { r with forwarder := after.1, queue := after.2 } ∧
      frames acts = [] ∧ after.2.evicted = r.queue.evicted ∧ after.1.phase = .ended result := by
  intro after
  obtain ⟨acts, htrace, hframes, hevicted⟩ := trace_of_steps (r.queue.ring.length + 4) r
  obtain ⟨result, hended⟩ : ∃ result, after.1.phase = .ended result := by
    show ∃ result, (r.forwarder.catchUp mode none r.finished r.queue).1.phase = .ended result
    rw [hfinished]
    exact Forwarder.ended_of_catchUp hready
  exact ⟨acts, result, htrace, hframes, hevicted, hended⟩

theorem trace_of_routeAll (fs : List Frame) : ∀ r : Relay, r.finished = false →
    r.interrupted = false → ∃ acts,
      Trace (Step mode) r acts { r with queue := r.queue.routeAll fs } ∧ frames acts = fs := by
  induction fs with
  | nil => exact fun r _ _ => ⟨[], .nil, rfl⟩
  | cons f fs ih =>
      intro r unfinished uninterrupted
      obtain ⟨acts, htrace, hframes⟩ :=
        ih { r with queue := (r.queue.route f).value.2 } unfinished uninterrupted
      exact ⟨_, .cons (Step.push r f unfinished uninterrupted) htrace, congrArg (f :: ·) hframes⟩

/-- What the forwarder leaves when it has ended. -/
structure Exhausted (acts : List Act) (r : Relay) (result : Except Failure Unit) : Prop where
  ok : result = .ok ()
  empty : r.queue.ring.toList = []
  /-- All that was pushed, byte by byte in its order, is in the books with a fate; -/
  settled : (ledger acts).settled.map Prod.fst = forwarded (frames acts)
  /-- it had to go, and the queue has counted these bytes, -/
  evicted : ((ledger acts).bytes .evicted).length = r.queue.evicted
  /-- or it was written, and nothing else was. -/
  written : (ledger acts).bytes .delivered = r.forwarder.written
  fates : ∀ e ∈ (ledger acts).settled, e.2 = .delivered ∨ e.2 = .evicted
  whole : r.queue.evicted = 0 → r.forwarder.written = forwarded (frames acts)

theorem Holds.exhausted (h : Holds acts r) {result : Except Failure Unit}
    (hended : r.forwarder.phase = .ended result) : Exhausted acts r result := by
  obtain ⟨hresult, hempty, -⟩ := h.orderly.ended result hended
  have hqueued : (ledger acts).queued = [] := h.balances.queued.trans hempty
  have hentered := h.balances.entered
  rw [Ledger.entered, hqueued, List.append_nil] at hentered
  have hfates : ∀ e ∈ (ledger acts).settled, e.2 = .delivered ∨ e.2 = .evicted := by
    intro e he
    have hdrained := Ledger.ne_of_bytes_nil h.balances.drained e he
    cases hfate : e.2 with
    | delivered => exact .inl rfl
    | evicted => exact .inr rfl
    | drained => exact absurd hfate hdrained
  exact ⟨hresult, hempty, hentered, h.balances.evicted, h.balances.delivered, hfates,
    fun hnone => h.balances.delivered_eq_pushed hnone hempty⟩

/-- However the frames of the producer, its end and the steps of a blocking or a
polling forwarder follow upon each other: once the forwarder has ended, it has
ended well, the queue is empty, and what was written is what was pushed without
what had to go. If nothing had to go that is everything, so that both kinds of
forwarder write the same. -/
theorem exhausted_of_ended {capacity : UInt64} {queue : Delivery}
    (hqueue : Delivery.allocate capacity = .ok queue)
    (h : Trace (Step mode) (start queue) acts r) {result : Except Failure Unit}
    (hended : r.forwarder.phase = .ended result) :
    Exhausted acts r result ∧
      ∀ {mode' : ReadMode} {acts' : List Act} {r' : Relay} {result' : Except Failure Unit},
        Trace (Step mode') (start queue) acts' r' → r'.forwarder.phase = .ended result' →
        frames acts' = frames acts → r.queue.evicted = 0 → r'.queue.evicted = 0 →
        r'.forwarder.written = r.forwarder.written := by
  have hexhausted := ((holds_start hqueue).trace h).exhausted hended
  refine ⟨hexhausted, ?_⟩
  intro mode' acts' r' result' h' hended' hframes hnone hnone'
  have hexhausted' := ((holds_start hqueue).trace h').exhausted hended'
  rw [List.nil_append] at hexhausted hexhausted'
  rw [hexhausted.whole hnone, hexhausted'.whole hnone', hframes]

/-- The only frame comes after a polling forwarder has found the queue empty and
before it asks. A blocking forwarder finds it there. -/
theorem exhausted_of_late_frame :
    let f : Frame := ⟨1, [], by decide⟩
    let queue := Delivery.ofCapacity 8 (by decide)
    Delivery.allocate 8 = .ok queue ∧
      ∃ acts r acts' r', Trace (Step .nonBlocking) (start queue) acts r ∧
        Trace (Step .blocking) (start queue) acts' r' ∧ frames acts = [f] ∧ frames acts' = [f] ∧
        Exhausted acts r (.ok ()) ∧ r'.forwarder.written = r.forwarder.written := by
  intro f queue
  have hqueue : Delivery.allocate 8 = .ok queue := rfl
  obtain ⟨acts, r, h, hframes, hfinished, hlatch, hnone⟩ : ∃ acts r,
      Trace (Step .nonBlocking) (start queue) acts r ∧ frames acts = [f] ∧
      r.finished = true ∧ r.queue.latch = true ∧ r.queue.evicted = 0 := by
    have hlook : Step .nonBlocking (start queue) _ _ := .forward (start queue) rfl
    have hdone := (((Trace.single hlook).snoc (.push _ f rfl rfl)).snoc (.interrupt _)).snoc
      (.finish _)
    exact ⟨_, _, hdone, rfl, rfl, rfl, by decide +kernel⟩
  obtain ⟨acts', r', h', hframes', hfinished', hlatch', hnone'⟩ : ∃ acts r,
      Trace (Step .blocking) (start queue) acts r ∧ frames acts = [f] ∧
      r.finished = true ∧ r.queue.latch = true ∧ r.queue.evicted = 0 := by
    have hpush : Step .blocking (start queue) _ _ := .push (start queue) f rfl rfl
    have hdone := ((Trace.single hpush).snoc (.interrupt _)).snoc (.finish _)
    exact ⟨_, _, hdone, rfl, rfl, rfl, by decide +kernel⟩
  obtain ⟨more, result, hmore, hwrites, hevicted, hended⟩ :=
    trace_of_catchUp r hfinished (.inl hlatch)
  obtain ⟨more', result', hmore', hwrites', hevicted', hended'⟩ :=
    trace_of_catchUp r' hfinished' (.inl hlatch')
  have hall : frames (acts ++ more) = [f] := by
    rw [frames_append, hframes, hwrites, List.append_nil]
  have hall' : frames (acts' ++ more') = [f] := by
    rw [frames_append, hframes', hwrites', List.append_nil]
  obtain ⟨hexhausted, halike⟩ := exhausted_of_ended hqueue (h.append hmore) hended
  cases hexhausted.ok
  exact ⟨hqueue, _, _, _, _, h.append hmore, h'.append hmore', hall, hall', hexhausted,
    halike (h'.append hmore') hended' (hall'.trans hall.symm) (hevicted.trans hnone)
      (hevicted'.trans hnone')⟩

/-- Whatever happened before: when the producer is done, nothing is left behind. -/
theorem exhausted_of_catchUp {capacity : UInt64} {queue : Delivery}
    (hqueue : Delivery.allocate capacity = .ok queue)
    (h : Trace (Step mode) (start queue) acts r) (hfinished : r.finished = true)
    (hinterrupted : r.interrupted = true) :
    let after := r.forwarder.catchUp mode none r.finished r.queue
    after.1.phase = .ended (.ok ()) ∧
      ∃ acts', frames acts' = frames acts ∧
        Exhausted acts' { r with forwarder := after.1, queue := after.2 } (.ok ()) := by
  intro after
  have hholds := (holds_start hqueue).trace h
  obtain ⟨more, result, hmore, hframes, -, hended⟩ :=
    trace_of_catchUp r hfinished (hholds.orderly.pending hinterrupted)
  have hexhausted := (hholds.trace hmore).exhausted hended
  cases hexhausted.ok
  refine ⟨hended, acts ++ more, ?_, hexhausted⟩
  rw [frames_append, hframes, List.append_nil]

end Relay

/-! ## A bridge

A bridge is a relay whose producer is the pump: what it reads from the line it
routes before it lets the forwarder catch up, and at the end of the line it stops
and says so. -/

/-- The frames that come of what these reads bring, up to the end of the line. -/
def StagedDecoder.framesOf (d : StagedDecoder) : List (Except IoError Bytes) → List Frame
  | [] | .ok [] :: _ => []
  | .ok (b :: bs) :: later => (d.feed (b :: bs)).1 ++ (d.feed (b :: bs)).2.framesOf later
  | .error e :: later => if Intake.isPassing e then d.framesOf later else []

namespace Bridge

open Relay (Exhausted)

def relay (b : Bridge) (done : Bool) : Relay := ⟨b.intake.queue, b.forwarder, done, done⟩

variable {b : Bridge} {capacity : UInt64} {queue : Delivery} {acts : List Relay.Act}

theorem exhausted_of_stop (hqueue : Delivery.allocate capacity = .ok queue)
    (hfault : b.fault = none)
    (h : Trace (Relay.Step b.mode) (.start queue) acts (b.relay false)) :
    b.stop.forwarder.phase = .ended (.ok ()) ∧
      ∃ acts', Relay.frames acts' = Relay.frames acts ∧
        Exhausted acts' (b.stop.relay true) (.ok ()) := by
  obtain ⟨mode, fault, intake, forwarder⟩ := b
  cases hfault
  have hdone := (h.snoc (.interrupt _)).snoc (.finish _)
  obtain ⟨hended, acts', hframes, hexhausted⟩ := Relay.exhausted_of_catchUp hqueue hdone rfl rfl
  refine ⟨hended, acts', ?_, hexhausted⟩
  rw [hframes, Relay.frames_concat_of_nil _ rfl, Relay.frames_concat_of_nil _ rfl]

theorem exists_trace_of_catchUp (hfault : b.fault = none) : ∃ more,
    Trace (Relay.Step b.mode) (b.relay false) more ((b.catchUp false).relay false) ∧
      Relay.frames more = [] := by
  obtain ⟨mode, fault, intake, forwarder⟩ := b
  cases hfault
  obtain ⟨more, htrace, hframes, -⟩ :=
    Relay.trace_of_steps (intake.queue.ring.length + 4) ⟨intake.queue, forwarder, false, false⟩
  exact ⟨more, htrace, hframes⟩

theorem exists_trace_of_flow (hqueue : Delivery.allocate capacity = .ok queue)
    (hfault : b.fault = none)
    (h : Trace (Relay.Step b.mode) (.start queue) acts (b.relay false)) {intake : Intake}
    {fs : List Frame} (hintake : intake.queue = b.intake.queue.routeAll fs) :
    let after := { b with intake }.catchUp false
    (∀ cause, after.forwarder.phase ≠ .ended (.error cause)) ∧
      ∃ acts', Relay.frames acts' = Relay.frames acts ++ fs ∧
        Trace (Relay.Step b.mode) (.start queue) acts' (after.relay false) := by
  intro after
  obtain ⟨pushes, hpushes, hfs⟩ := Relay.trace_of_routeAll fs (b.relay false) rfl rfl
  obtain ⟨writes, hwrites, hnone⟩ : ∃ more,
      Trace (Relay.Step b.mode) (Bridge.relay { b with intake } false) more (after.relay false) ∧
        Relay.frames more = [] :=
    exists_trace_of_catchUp (b := { b with intake }) hfault
  rw [relay, hintake] at hwrites
  have htrace := (h.append hpushes).append hwrites
  refine ⟨?_, acts ++ pushes ++ writes, ?_, htrace⟩
  · intro cause hended
    have hresult := ((Relay.holds_start hqueue).trace htrace).orderly.ended _ hended
    cases hresult.1
  · rw [Relay.frames_append, Relay.frames_append, hfs, hnone, List.append_nil]

theorem meet_of_flowing {outcome : Except IoError Bytes} {count : Nat} {intake : Intake}
    (h : (b.intake.meet outcome).value = (.flowing count, intake))
    (hwell : ∀ cause, ({ b with intake }.catchUp false).forwarder.phase ≠ .ended (.error cause)) :
    b.meet outcome = ({ b with intake }.catchUp false, none) := by
  unfold meet
  rw [h]
  dsimp only
  split
  · next cause hended => exact absurd hended (hwell cause)
  · rfl

theorem meet_cases (b : Bridge) (outcome : Except IoError Bytes) :
    (∃ otherwise, b.meet outcome = b.finish otherwise ∧
      ∀ later, b.intake.decoder.framesOf (outcome :: later) = []) ∨
    ∃ (intake : Intake) (fs : List Frame), intake.queue = b.intake.queue.routeAll fs ∧
      (∀ later, b.intake.decoder.framesOf (outcome :: later) =
        fs ++ intake.decoder.framesOf later) ∧
      ((∀ cause, ({ b with intake }.catchUp false).forwarder.phase ≠ .ended (.error cause)) →
        b.meet outcome = ({ b with intake }.catchUp false, none)) := by
  cases outcome with
  | ok chunk =>
      cases chunk with
      | nil => exact .inl ⟨_, rfl, fun _ => rfl⟩
      | cons c cs =>
          let fed := b.intake.decoder.feed (c :: cs)
          have hmeet : (b.intake.meet (.ok (c :: cs))).value =
              (.flowing (c :: cs).length, ⟨fed.2, b.intake.queue.routeAll fed.1⟩) := by
            simp only [Intake.meet, Logged.value_bind, Logged.value_pure, Intake.receive_value]
            rfl
          exact .inr ⟨_, fed.1, rfl, fun _ => rfl, meet_of_flowing hmeet⟩
  | error e =>
      cases hpassing : Intake.isPassing e with
      | true =>
          have hmeet : (b.intake.meet (.error e)).value = (.flowing 0, b.intake) := by
            rw [Intake.meet, hpassing]
            rfl
          refine .inr ⟨b.intake, [], rfl, ?_, meet_of_flowing hmeet⟩
          intro later
          rw [StagedDecoder.framesOf, if_pos hpassing]
          rfl
      | false =>
          have hmeet : (b.intake.meet (.error e)).value = (.failed (.transport e), b.intake) := by
            rw [Intake.meet, hpassing]
            rfl
          refine .inl ⟨.failed (.link "serial read failed" (.transport e)), ?_, ?_⟩
          · rw [meet, hmeet]
          · intro later
            rw [StagedDecoder.framesOf, hpassing]
            rfl

/-- All that comes of what a bridge reads from the line is written out before it
ends by itself, or has gone for what came later. -/
theorem exhausted_of_runReads (hqueue : Delivery.allocate capacity = .ok queue)
    (reads : List (Except IoError Bytes)) : ∀ {b : Bridge} {acts : List Relay.Act},
    b.fault = none → Trace (Relay.Step b.mode) (.start queue) acts (b.relay false) →
    ∀ {b' : Bridge} {conclusion : Conclusion},
      b.runReads false reads = (b', some conclusion) →
      b'.forwarder.phase = .ended (.ok ()) ∧
        ∃ acts', Relay.frames acts' = Relay.frames acts ++ b.intake.decoder.framesOf reads ∧
          Exhausted acts' (b'.relay true) (.ok ()) := by
  induction reads with
  | nil =>
      intro b acts _ _ b' conclusion hruns
      cases hruns
  | cons outcome later ih =>
      intro b acts hfault h b' conclusion hruns
      rw [runReads] at hruns
      rcases b.meet_cases outcome with ⟨otherwise, hmeet, hnone⟩ | ⟨intake, fs, hintake, hfs, hmeet⟩
      · have hstop := exhausted_of_stop hqueue hfault h
        have hfinish : b.finish otherwise = (b.stop, some otherwise) := by
          rw [finish, conclude, hstop.1]
        rw [hmeet, hfinish] at hruns
        cases hruns
        rw [hnone, List.append_nil]
        exact hstop
      · obtain ⟨hwell, acts', hframes, htrace⟩ := exists_trace_of_flow hqueue hfault h hintake
        rw [hmeet hwell] at hruns
        have hend := ih (b := { b with intake }.catchUp false) hfault htrace hruns
        rw [hframes, List.append_assoc] at hend
        rw [hfs]
        exact hend

end Bridge

end FramedSerial
