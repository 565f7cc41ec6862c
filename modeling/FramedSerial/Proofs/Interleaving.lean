import FramedSerial.Proofs.Ledger
import FramedSerial.Proofs.Trace

/-!
# Many parties at one queue

A queue is used by several parties at once, and the lock decides only that
their critical sections do not overlap. What can happen is therefore a relation
between scenes: a step is one critical section of somebody, or time passing. A
read is several steps, one when it is called and one for each look at the
queue, and between any two of them anything may happen. A reader may look
whenever it likes, so being woken for nothing needs no step of its own.

Each step says what was seen of it from outside, and a run is a list of steps,
known by what was seen. Nothing is assumed of the order.

What a look can come to is said once, in `Outcome`, by the bytes that wait and
without the loop that a look is a turn of. That loop is a run like any other:
`Delivery.run_of_readAmid` finds its steps.
-/

namespace FramedSerial

/-- A read under way. Its buffer has room, since one without is full at once,
and its deadline was worked out when it was called. -/
structure ReadCall where
  room : Nat
  mode : ReadMode
  timeout : Option Duration
  since : Instant
  deadline : Option Deadline
  room_pos : 0 < room
  deadline_eq : Delivery.deadline timeout since = .ok deadline

/-- A queue, the time, and the reads under way, each known by its reader. -/
structure Scene where
  queue : Delivery
  now : Instant
  readers : Nat → Option ReadCall

/-- What is seen of a step. -/
inductive Seen where
  | pushed (bytes : Bytes) (gone : Nat)
  | pushedByte (b : UInt8) (evicting : Bool)
  | popped (who : Nat) (result : Except LinkError UInt8)
  | interrupted
  /-- These bytes were dropped by a drain. -/
  | drained (bytes : Bytes)
  | stored (snapshot : Snapshot)
  | passed
  /-- A read into an empty buffer, which returns at once. -/
  | skipped (who : Nat)
  | called (who : Nat) (call : ReadCall)
  /-- A read whose deadline is no reading of the clock. -/
  | crashed (who : Nat) (cause : Crash)
  | suspended (who : Nat) (call : ReadCall)
  | returned (who : Nat) (call : ReadCall) (result : Except LinkError Bytes)

namespace Scene

/-- A queue that nobody reads. -/
def quiet (queue : Delivery) (now : Instant) : Scene := ⟨queue, now, fun _ => none⟩

def withQueue (s : Scene) (queue : Delivery) : Scene := { s with queue }

def withReader (s : Scene) (who : Nat) (call : Option ReadCall) : Scene :=
  { s with readers := Function.update s.readers who call }

@[simp] theorem queue_withQueue (s : Scene) (q : Delivery) : (s.withQueue q).queue = q := rfl

@[simp] theorem queue_withReader (s : Scene) (who : Nat) (call : Option ReadCall) :
    (s.withReader who call).queue = s.queue := rfl

/-- One critical section of somebody, or time passing. A blocking pop is the
call of a read into a buffer of one byte. -/
inductive Step : Scene → Seen → Scene → Prop where
  | push (s : Scene) (bytes : Bytes) :
      Step s (.pushed bytes (s.queue.push bytes).value.1)
        (s.withQueue (s.queue.push bytes).value.2)
  | pushByte (s : Scene) (b : UInt8) :
      Step s (.pushedByte b (s.queue.pushByte b).value.1)
        (s.withQueue (s.queue.pushByte b).value.2)
  | tryPop (s : Scene) (who : Nat) :
      Step s (.popped who s.queue.tryPop.1) (s.withQueue s.queue.tryPop.2)
  | interrupt (s : Scene) : Step s .interrupted (s.withQueue s.queue.interrupt)
  | drain (s : Scene) : Step s (.drained s.queue.ring.toList) (s.withQueue s.queue.drain)
  | store (s : Scene) (x : Snapshot) : Step s (.stored x) (s.withQueue (s.queue.store x))
  | pass (s : Scene) (later : Instant) (h : s.now.le later = true) :
      Step s .passed { s with now := later }
  | skip (s : Scene) (who : Nat) (idle : s.readers who = none) : Step s (.skipped who) s
  | call (s : Scene) (who : Nat) (idle : s.readers who = none) (call : ReadCall)
      (h : call.since = s.now) : Step s (.called who call) (s.withReader who (some call))
  | crash (s : Scene) (who : Nat) (idle : s.readers who = none) {timeout : Option Duration}
      {cause : Crash} (h : Delivery.deadline timeout s.now = .error cause) :
      Step s (.crashed who cause) s
  | suspend (s : Scene) (who : Nat) {call : ReadCall} (reads : s.readers who = some call)
      (h : s.queue.turn call.room call.mode call.deadline s.now = none) :
      Step s (.suspended who call) s
  | settle (s : Scene) (who : Nat) {call : ReadCall} (reads : s.readers who = some call)
      {result : Except LinkError Bytes} {q : Delivery}
      (h : s.queue.turn call.room call.mode call.deadline s.now = some (result, q)) :
      Step s (.returned who call result) ((s.withQueue q).withReader who none)

/-- What was seen from one scene to another, the earliest first. -/
abbrev Run : Scene → List Seen → Scene → Prop := Trace Step

end Scene

/-! ## What a look comes to -/

namespace Delivery

/-- The result of a look at a queue, and the queue after it. Bytes come first,
whatever else is the case; without any, the mode decides, then the latch, then
the clock. -/
inductive Outcome (q : Delivery) (now : Instant) (call : ReadCall) :
    Except LinkError Bytes → Delivery → Prop where
  | bytes {bs : Bytes} {ring : Ring}
      (oldest : bs = q.ring.toList.take (min call.room q.ring.toList.length))
      (length : bs.length = min call.room q.ring.toList.length) (some : 1 ≤ bs.length)
      (rest : ring.toList = q.ring.toList.drop bs.length)
      (capacity : ring.capacity = q.ring.capacity) :
      Outcome q now call (.ok bs) { q with ring }
  | wouldBlock (mode : call.mode = .nonBlocking) (empty : q.ring.toList = []) :
      Outcome q now call (.error .wouldBlock) q
  | interrupted (mode : call.mode = .blocking) (empty : q.ring.toList = [])
      (latch : q.latch = true) :
      Outcome q now call (.error .interrupted) { q with latch := false }
  | timedOut {d : Deadline} (mode : call.mode = .blocking) (empty : q.ring.toList = [])
      (latch : q.latch = false) (deadline : call.deadline = Option.some d)
      (reached : d.time.le now = true) :
      Outcome q now call (.error (.timedOut d.allowed)) q

/-- Why a look may leave its reader waiting. -/
structure Idles (q : Delivery) (now : Instant) (call : ReadCall) : Prop where
  mode : call.mode = .blocking
  empty : q.ring.toList = []
  latch : q.latch = false
  ahead : ∀ d, call.deadline = some d → d.time.le now = false

variable {q q' : Delivery} {now : Instant} {call : ReadCall}

theorem Outcome.ne_nil {bs : Bytes} (h : Outcome q now call (.ok bs) q') : bs ≠ [] := by
  cases h with
  | bytes _ _ some _ _ => exact List.length_pos_iff.1 some

theorem Outcome.latch_of_interrupted (h : Outcome q now call (.error .interrupted) q') :
    q.latch = true := by
  cases h with
  | interrupted _ _ latch => exact latch

theorem outcome_of_popUpTo (hne : q.ring.toList ≠ []) :
    Outcome q now call (.ok (q.ring.popUpTo call.room).1)
      { q with ring := (q.ring.popUpTo call.room).2 } := by
  obtain ⟨hbytes, hrest, hcapacity⟩ := q.ring.popUpTo_spec call.room
  have hlength : (q.ring.popUpTo call.room).1.length = min call.room q.ring.toList.length := by
    rw [hbytes, List.length_take]
  have hqueued := List.length_pos_iff.2 hne
  have hroom := call.room_pos
  refine .bytes ?_ hlength (by omega) ?_ hcapacity
  · rw [hbytes]
    exact List.take_eq_take_iff.2 (by omega)
  · rw [hrest, hlength]
    exact List.drop_eq_drop_iff.2 (by omega)

theorem turn_of_toList {bs : Bytes} (h : q.ring.toList = bs) (hne : bs ≠ []) (room : Nat)
    (mode : ReadMode) (deadline : Option Deadline) (now : Instant) :
    q.turn room mode deadline now =
      some (.ok (bs.take room), { q with ring := (q.ring.popUpTo room).2 }) := by
  have hempty : ¬ q.ring.isEmpty = true := by
    rw [q.ring.isEmpty_iff, h]
    exact hne
  unfold turn
  rw [if_neg hempty, ← h, ← (q.ring.popUpTo_spec room).1]

theorem outcome_of_turn {result : Except LinkError Bytes}
    (h : q.turn call.room call.mode call.deadline now = some (result, q')) :
    Outcome q now call result q' := by
  unfold turn at h
  split at h
  · next hempty =>
      have hnil := q.ring.isEmpty_iff.1 hempty
      split at h
      · next hmode =>
          cases h
          exact .wouldBlock hmode hnil
      · next hmode =>
          split at h
          · next hlatch =>
              cases h
              exact .interrupted hmode hnil hlatch
          · next hlatch =>
              have hclear : q.latch = false := by simpa using hlatch
              split at h
              · cases h
              · next d hd =>
                  split at h
                  · next hreached =>
                      cases h
                      exact .timedOut hmode hnil hclear hd hreached
                  · cases h
  · next hempty =>
      cases h
      exact outcome_of_popUpTo fun hnil => hempty (q.ring.isEmpty_iff.2 hnil)

theorem idles_of_turn (h : q.turn call.room call.mode call.deadline now = none) :
    q.Idles now call := by
  unfold turn at h
  split at h
  · next hempty =>
      have hnil := q.ring.isEmpty_iff.1 hempty
      split at h
      · cases h
      · next hmode =>
          split at h
          · cases h
          · next hlatch =>
              have hclear : q.latch = false := by simpa using hlatch
              split at h
              · next hd =>
                  refine ⟨hmode, hnil, hclear, ?_⟩
                  intro d hd'
                  rw [hd] at hd'
                  cases hd'
              · next d hd =>
                  split at h
                  · cases h
                  · next hahead =>
                      refine ⟨hmode, hnil, hclear, ?_⟩
                      intro d' hd'
                      rw [hd] at hd'
                      cases hd'
                      simpa using hahead
  · cases h

theorem took_tryPop (q : Delivery) : q.Took q.tryPop.2 q.tryPop.1.toOption.toList := by
  obtain ⟨hbyte, hrest, -⟩ := q.ring.pop_spec
  unfold tryPop
  split
  · next b ring hpop =>
      rw [hpop] at hbyte hrest
      refine ⟨?_, rfl, rfl⟩
      show q.ring.toList = [b] ++ ring.toList
      rw [hrest]
      exact List.eq_cons_of_mem_head? (Option.mem_def.2 hbyte.symm)
  · next ring hpop =>
      rw [hpop] at hbyte hrest
      have hnil : q.ring.toList = [] := List.head?_eq_none_iff.1 hbyte.symm
      refine ⟨?_, rfl, rfl⟩
      show q.ring.toList = [] ++ ring.toList
      rw [hrest, hnil]
      rfl

end Delivery

/-! ## The reading loop is a run

The loop of `Delivery.turns` is one reader amid what others do. Its steps are
looks at the queue, the happenings, and the time that passes up to each. -/

namespace Instant

theorem le_of_not_le {s t : Instant} (h : t.le s = false) : s.le t = true := by
  simp only [le, Bool.or_eq_false_iff, Bool.and_eq_false_iff, decide_eq_false_iff_not,
    beq_eq_false_iff_ne, Bool.or_eq_true, Bool.and_eq_true, decide_eq_true_eq, beq_iff_eq] at *
  omega

end Instant

namespace Scene

theorem run_of_happening (s : Scene) (happening : Happening) :
    ∃ seen, Run s seen (s.withQueue (s.queue.meet happening).value) := by
  cases happening with
  | pushed bytes => exact ⟨_, .single (Step.push s bytes)⟩
  | interrupted => exact ⟨_, .single (Step.interrupt s)⟩
  | nothing => exact ⟨[], .nil⟩

/-- A run in which a read by this reader comes to an end, if it does. -/
def Reads (s : Scene) (who : Nat) (call : ReadCall) (ending : ReadEnd) (q : Delivery) : Prop :=
  ∃ seen s', Run s seen s' ∧ s'.queue = q ∧
    ∀ result, ending = .returned result → ∃ before, seen = before ++ [.returned who call result]

variable {s : Scene} {who : Nat} {call : ReadCall}

theorem Reads.of_run {s' : Scene} {seen : List Seen} {ending : ReadEnd} {q : Delivery}
    (hrun : Run s seen s') (h : Reads s' who call ending q) : Reads s who call ending q := by
  obtain ⟨more, s'', hmore, hq, hend⟩ := h
  refine ⟨seen ++ more, s'', hrun.append hmore, hq, ?_⟩
  intro result hresult
  obtain ⟨before, rfl⟩ := hend result hresult
  exact ⟨seen ++ before, (List.append_assoc _ _ _).symm⟩

theorem reads_of_turn (hcall : s.readers who = some call) {result : Except LinkError Bytes}
    {q : Delivery} (h : s.queue.turn call.room call.mode call.deadline s.now = some (result, q)) :
    Reads s who call (.returned result) q := by
  refine ⟨_, _, .single (Step.settle s who hcall h), rfl, ?_⟩
  intro result' hresult
  cases hresult
  exact ⟨[], rfl⟩

/-- A reader who sees nothing now may be told at its deadline that time is up. -/
theorem reads_of_turn_at_deadline (hcall : s.readers who = some call)
    (hnow : s.queue.turn call.room call.mode call.deadline s.now = none) {d : Deadline}
    (hd : call.deadline = some d) {result : Except LinkError Bytes} {q : Delivery}
    (h : s.queue.turn call.room call.mode call.deadline d.time = some (result, q)) :
    Reads s who call (.returned result) q := by
  have hahead := (Delivery.idles_of_turn hnow).ahead d hd
  have hpass := Trace.single (Step.pass s d.time (Instant.le_of_not_le hahead))
  exact .of_run hpass (reads_of_turn (s := { s with now := d.time }) hcall h)

theorem reads_of_turns (later : List (Instant × Happening)) :
    ∀ {s : Scene}, s.readers who = some call →
      (s.now :: later.map Prod.fst).IsChain (fun a b => a.le b = true) →
      let r := (s.queue.turns call.room call.mode call.deadline s.now later).value
      Reads s who call r.1 r.2.1 := by
  induction later with
  | nil =>
      intro s hcall _
      unfold Delivery.turns
      split
      · next hnow => exact reads_of_turn hcall hnow
      · next hnow =>
          split
          · next hbind =>
              obtain ⟨d, hd, hthen⟩ := Option.bind_eq_some_iff.1 hbind
              exact reads_of_turn_at_deadline hcall hnow hd hthen
          · exact ⟨[], s, .nil, rfl, fun _ h => by cases h⟩
  | cons next later ih =>
      intro s hcall hclock
      obtain ⟨moment, happening⟩ := next
      rw [List.map_cons, List.isChain_cons_cons] at hclock
      unfold Delivery.turns
      split
      · next hnow => exact reads_of_turn hcall hnow
      · next hnow =>
          split
          · next hbind =>
              obtain ⟨d, hd, hthen⟩ := Option.bind_eq_some_iff.1 hbind
              split at hthen
              · cases hthen
              · exact reads_of_turn_at_deadline hcall hnow hd hthen
          · -- the reader sleeps until something happens, and looks again
            obtain ⟨seen, hseen⟩ := run_of_happening { s with now := moment } happening
            have hpass := Trace.single (Step.pass s moment hclock.1)
            exact .of_run (hpass.append hseen) (ih hcall hclock.2)

end Scene

/-- A read amid happenings, as it is carried out, is a run. -/
theorem Delivery.run_of_readAmid (q : Delivery) (room : Nat) (mode : ReadMode)
    (timeout : Option Duration) (now : Instant) (later : List (Instant × Happening))
    (hclock : (now :: later.map Prod.fst).IsChain (fun a b => a.le b = true)) :
    let r := (q.readAmid room mode timeout now later).value
    ∃ seen s, Scene.Run (.quiet q now) seen s ∧ s.queue = r.2.1 ∧
      ∀ result, r.1 = .returned result → 0 < room →
        ∃ call : ReadCall, call.room = room ∧ call.mode = mode ∧ call.timeout = timeout ∧
          ∃ before, seen = before ++ [.returned 0 call result] := by
  unfold readAmid
  split
  · next hroom =>
      refine ⟨_, _, .single (Scene.Step.skip (.quiet q now) 0 rfl), rfl, ?_⟩
      intro _ _ hpos
      omega
  · next hroom =>
      split
      · next cause hcause =>
          refine ⟨_, _, .single (Scene.Step.crash (.quiet q now) 0 rfl hcause), rfl, ?_⟩
          intro result hresult
          cases hresult
      · next deadline hdeadline =>
          let call : ReadCall :=
            ⟨room, mode, timeout, now, deadline, Nat.pos_of_ne_zero hroom, hdeadline⟩
          have hcalled := Trace.single (Scene.Step.call (.quiet q now) 0 rfl call rfl)
          have hreader : ((Scene.quiet q now).withReader 0 (some call)).readers 0 = some call := rfl
          obtain ⟨seen, s, hrun, hq, hend⟩ :=
            Scene.Reads.of_run hcalled (Scene.reads_of_turns later hreader hclock)
          exact ⟨seen, s, hrun, hq, fun result hresult _ =>
            ⟨call, rfl, rfl, rfl, hend result hresult⟩⟩

end FramedSerial
