import FramedSerial.Proofs.Interleaving
import FramedSerial.Proofs.Trace

/-!
# No reader sleeps through a change

`Interleaving` takes a critical section as one step and lets a reader look
whenever it likes. Here the lock is in the state and so is the condition on
which readers are suspended, and the question is whether a reader that sleeps
will be told of what it sleeps for.

A push and an interrupt notify after they have given up the lock. In between
anything may happen: another reader may take the byte, the interrupt may be
spent on somebody else, and a reader that saw neither may go to sleep. So it is
not true that nobody sleeps at a queue with bytes in it. But whoever does has
somebody on the way who will notify everyone.

Two things carry the proof. A reader that found nothing keeps the lock until it
is suspended, so nothing can come in between; and what makes a queue worth
waking up for is always the doing of somebody who then notifies. What a party
does to the queue under the lock is seen by nobody before the lock is given up,
so both are one step. A look and the suspension after it are two.
-/

namespace FramedSerial

/-- There is nothing at a queue that a reader waits for. -/
structure Delivery.Vacant (q : Delivery) : Prop where
  empty : q.ring.toList = []
  latch : q.latch = false

/-- What is done at a queue in one critical section, reads apart. -/
inductive Errand where
  | push (bytes : Bytes)
  | interrupt
  | tryPop
  | drain
  | store (x : Snapshot)

namespace Errand

def notifies : Errand → Bool
  | .push _ | .interrupt => true
  | .tryPop | .drain | .store _ => false

def apply (q : Delivery) : Errand → Delivery
  | .push bytes => (q.push bytes).value.2
  | .interrupt => q.interrupt
  | .tryPop => q.tryPop.2
  | .drain => q.drain
  | .store x => q.store x

def seen (q : Delivery) (who : Nat) : Errand → Seen
  | .push bytes => .pushed bytes (q.push bytes).value.1
  | .interrupt => .interrupted
  | .tryPop => .popped who q.tryPop.1
  | .drain => .drained q.ring.toList
  | .store x => .stored x

end Errand

inductive Purpose where
  | errand (e : Errand)
  | read (call : ReadCall)

inductive Phase where
  | away
  /-- It wants the lock, as a newcomer or as a reader that has been woken. -/
  | entering (purpose : Purpose)
  | inside (purpose : Purpose)
  /-- It has the lock, found nothing, and is about to be suspended. -/
  | resolved (call : ReadCall)
  | suspended (call : ReadCall)
  /-- It has given up the lock and has not notified anyone yet. -/
  | leaving (e : Errand)

namespace Phase

def holds : Phase → Bool
  | .inside _ | .resolved _ => true
  | _ => false

/-- It is a reader that found nothing. -/
def idles : Phase → Bool
  | .resolved _ | .suspended _ => true
  | _ => false

/-- What a notification makes of everyone. -/
def woken : Phase → Phase
  | .suspended call => .entering (.read call)
  | p => p

def call? : Phase → Option ReadCall
  | .entering (.read call) | .inside (.read call) | .resolved call | .suspended call => some call
  | _ => none

@[simp] theorem holds_woken (p : Phase) : p.woken.holds = p.holds := by
  cases p <;> rfl

@[simp] theorem call?_woken (p : Phase) : p.woken.call? = p.call? := by
  cases p <;> rfl

theorem woken_ne_suspended (p : Phase) (call : ReadCall) : p.woken ≠ .suspended call := by
  cases p <;> exact Phase.noConfusion

theorem woken_eq_resolved {p : Phase} {call : ReadCall} (h : p.woken = .resolved call) :
    p = .resolved call := by
  cases p <;> first | exact h | cases h

end Phase

/-- A queue behind a lock, the time, and where everyone is. -/
structure Monitor where
  queue : Delivery
  now : Instant
  /-- Who has the lock. -/
  lock : Option Nat
  phase : Nat → Phase

namespace Monitor

def start (queue : Delivery) (now : Instant) : Monitor := ⟨queue, now, none, fun _ => .away⟩

def move (m : Monitor) (who : Nat) (p : Phase) : Monitor :=
  { m with phase := Function.update m.phase who p }

def enter (m : Monitor) (who : Nat) (purpose : Purpose) : Monitor :=
  { m with lock := some who, phase := Function.update m.phase who (.inside purpose) }

/-- A party gives up the lock, with the queue as it is to be. -/
def release (m : Monitor) (who : Nat) (p : Phase) (queue : Delivery) : Monitor :=
  { m with queue, lock := none, phase := Function.update m.phase who p }

def notified (m : Monitor) : Monitor := { m with phase := fun who => (m.phase who).woken }

/-- Any party does its next thing, a reader wakes for no reason or for its
deadline, or time passes. -/
inductive Step : Monitor → List Seen → Monitor → Prop where
  | come (m : Monitor) (who : Nat) (idle : m.phase who = .away) (e : Errand) :
      Step m [] (m.move who (.entering (.errand e)))
  | call (m : Monitor) (who : Nat) (idle : m.phase who = .away) (call : ReadCall)
      (h : call.since = m.now) :
      Step m [.called who call] (m.move who (.entering (.read call)))
  | acquire (m : Monitor) (who : Nat) {purpose : Purpose} (wants : m.phase who = .entering purpose)
      (free : m.lock = none) :
      Step m [] (m.enter who purpose)
  | perform (m : Monitor) (who : Nat) {e : Errand} (inside : m.phase who = .inside (.errand e)) :
      Step m [e.seen m.queue who]
        (m.release who (if e.notifies then .leaving e else .away) (e.apply m.queue))
  | notify (m : Monitor) (who : Nat) {e : Errand} (leaves : m.phase who = .leaving e) :
      Step m [] (m.move who .away).notified
  | look (m : Monitor) (who : Nat) {call : ReadCall} (inside : m.phase who = .inside (.read call))
      (h : m.queue.turn call.room call.mode call.deadline m.now = none) :
      Step m [.suspended who call] (m.move who (.resolved call))
  | suspend (m : Monitor) (who : Nat) {call : ReadCall} (found : m.phase who = .resolved call) :
      Step m [] (m.release who (.suspended call) m.queue)
  | settle (m : Monitor) (who : Nat) {call : ReadCall}
      (inside : m.phase who = .inside (.read call)) {result : Except LinkError Bytes}
      {q : Delivery} (h : m.queue.turn call.room call.mode call.deadline m.now = some (result, q)) :
      Step m [.returned who call result] (m.release who .away q)
  | wake (m : Monitor) (who : Nat) {call : ReadCall} (sleeps : m.phase who = .suspended call) :
      Step m [] (m.move who (.entering (.read call)))
  | pass (m : Monitor) (later : Instant) (h : m.now.le later = true) :
      Step m [.passed] { m with now := later }

end Monitor

/-! ## The lock has one holder -/

/-- Who has the lock is in a critical section, and nobody else is. -/
def Exclusive (lock : Option Nat) (phase : Nat → Phase) : Prop :=
  ∀ who, lock = some who ↔ (phase who).holds = true

namespace Exclusive

variable {lock : Option Nat} {phase : Nat → Phase} {who other : Nat} {now p : Phase}

theorem eq (h : Exclusive lock phase) (hwho : (phase who).holds = true)
    (hother : (phase other).holds = true) : other = who :=
  Option.some.inj (((h other).2 hother).symm.trans ((h who).2 hwho))

theorem keep (h : Exclusive lock phase) (hnow : phase who = now) (hp : p.holds = now.holds) :
    Exclusive lock (Function.update phase who p) := by
  intro x
  rw [h x, Function.update_apply]
  split
  · next hx => rw [hx, hnow, hp]
  · exact Iff.rfl

theorem acquire (h : Exclusive none phase) (hp : p.holds = true) :
    Exclusive (some who) (Function.update phase who p) := by
  intro x
  rw [Function.update_apply]
  split
  · next hx => exact ⟨fun _ => hp, fun _ => congrArg some hx.symm⟩
  · next hx =>
      constructor
      · intro heq
        exact absurd (Option.some.inj heq).symm hx
      · intro hholds
        cases (h x).2 hholds

theorem release (h : Exclusive lock phase) (hnow : phase who = now) (hholds : now.holds = true)
    (hp : p.holds = false) : Exclusive none (Function.update phase who p) := by
  rw [← hnow] at hholds
  intro x
  rw [Function.update_apply]
  split
  · rw [hp]
    exact iff_of_false (Option.some_ne_none x).symm Bool.false_ne_true
  · next hx =>
      exact iff_of_false (Option.some_ne_none x).symm fun hother => hx (h.eq hholds hother)

end Exclusive

/-! ## What makes a queue worth waking up for -/

theorem Errand.vacant_apply {e : Errand} (he : e.notifies = false) {q : Delivery}
    (h : q.Vacant) : (e.apply q).Vacant := by
  obtain ⟨hempty, hlatch⟩ := h
  cases e with
  | push | interrupt => cases he
  | tryPop =>
      have htaken := (Delivery.took_tryPop q).taken
      rw [hempty] at htaken
      refine ⟨(List.append_eq_nil_iff.1 htaken.symm).2, ?_⟩
      show q.tryPop.2.latch = false
      unfold Delivery.tryPop
      split <;> exact hlatch
  | drain => exact ⟨Ring.toList_clear _, hlatch⟩
  | store => exact ⟨hempty, hlatch⟩

theorem Delivery.vacant_of_turn {q q' : Delivery} {call : ReadCall} {now : Instant}
    {result : Except LinkError Bytes}
    (hturn : q.turn call.room call.mode call.deadline now = some (result, q')) (h : q.Vacant) :
    q'.Vacant := by
  have htaken := (took_of_turn hturn).taken
  rw [h.empty] at htaken
  refine ⟨(List.append_eq_nil_iff.1 htaken.symm).2, ?_⟩
  cases outcome_of_turn hturn with
  | bytes | wouldBlock | timedOut => exact h.latch
  | interrupted => rfl

namespace Monitor

variable {m m' : Monitor} {acts : List (List Seen)} {seen : List Seen}

/-- Nobody needs to wake up, or somebody is on the way who wakes everyone. -/
def Attended (m : Monitor) : Prop :=
  m.queue.Vacant ∨ ∃ who e, m.phase who = .leaving e ∧ e.notifies = true

theorem Attended.mono (h : m.Attended) (hqueue : m.queue.Vacant → m'.queue.Vacant)
    (hphase : ∀ who e, m.phase who = .leaving e → m'.phase who = .leaving e) : m'.Attended := by
  rcases h with hvacant | ⟨who, e, hleaves, he⟩
  · exact .inl (hqueue hvacant)
  · exact .inr ⟨who, e, hphase who e hleaves, he⟩

/-- Who leaves goes on leaving while others move. -/
theorem leaving_update {who : Nat} {now : Phase} (hnow : m.phase who = now)
    (hstays : ∀ e, now ≠ .leaving e) (p : Phase) (other : Nat) (e : Errand)
    (h : m.phase other = .leaving e) : Function.update m.phase who p other = .leaving e := by
  rw [Function.update_of_ne]
  · exact h
  · rintro rfl
    exact hstays e (hnow.symm.trans h)

structure Sound (m : Monitor) : Prop where
  exclusive : Exclusive m.lock m.phase
  resolved : ∀ who call, m.phase who = .resolved call → m.queue.Vacant
  suspended : ∀ who call, m.phase who = .suspended call → m.Attended

variable {who : Nat}

/-- A party moves without making the queue worth waking up for. -/
theorem Sound.move (h : m.Sound) {queue : Delivery} {lock : Option Nat} {now p : Phase}
    (hnow : m.phase who = now) (hstays : ∀ e, now ≠ .leaving e)
    (hexclusive : Exclusive lock (Function.update m.phase who p))
    (hqueue : m.queue.Vacant → queue.Vacant) (hp : p.idles = true → queue.Vacant) :
    Sound { m with queue, lock, phase := Function.update m.phase who p } := by
  refine ⟨hexclusive, ?_, ?_⟩
  · intro other call hother
    simp only [Function.update_apply] at hother
    split at hother
    · exact hp (congrArg Phase.idles hother)
    · exact hqueue (h.resolved other call hother)
  · intro other call hother
    simp only [Function.update_apply] at hother
    split at hother
    · exact .inl (hp (congrArg Phase.idles hother))
    · exact (h.suspended other call hother).mono hqueue (leaving_update hnow hstays p)

/-- Who makes the queue worth waking up for had the lock, so no reader was about to
be suspended; and all who were suspended before will be notified. -/
theorem Sound.publish (h : m.Sound) {e : Errand} (he : e.notifies = true)
    (hinside : m.phase who = .inside (.errand e)) (queue : Delivery) :
    (m.release who (.leaving e) queue).Sound := by
  refine ⟨h.exclusive.release hinside rfl rfl, ?_, ?_⟩
  · intro other call hother
    simp only [release, Function.update_apply] at hother
    split at hother
    · cases hother
    · next hne =>
        have hwho : (m.phase who).holds = true := congrArg Phase.holds hinside
        exact absurd (h.exclusive.eq hwho (congrArg Phase.holds hother)) hne
  · intro _ _ _
    have hleaves : (m.release who (.leaving e) queue).phase who = .leaving e :=
      Function.update_self ..
    exact .inr ⟨who, e, hleaves, he⟩

theorem Sound.step (h : m.Sound) (step : Step m seen m') : m'.Sound := by
  cases step with
  | come _ idle | call _ idle =>
      exact h.move idle (fun _ => Phase.noConfusion) (h.exclusive.keep idle rfl) id
        Bool.noConfusion
  | acquire _ wants free =>
      have hfree : Exclusive none m.phase := free ▸ h.exclusive
      exact h.move wants (fun _ => Phase.noConfusion) (hfree.acquire rfl) id Bool.noConfusion
  | @perform who e inside =>
      cases he : e.notifies with
      | true => exact h.publish he inside _
      | false =>
          exact h.move inside (fun _ => Phase.noConfusion) (h.exclusive.release inside rfl rfl)
            (Errand.vacant_apply he) Bool.noConfusion
  | look _ inside hturn =>
      have hidles := Delivery.idles_of_turn hturn
      exact h.move inside (fun _ => Phase.noConfusion) (h.exclusive.keep inside rfl) id
        fun _ => ⟨hidles.empty, hidles.latch⟩
  | suspend _ found =>
      -- the lock was kept since the look, so what it found still holds
      exact h.move found (fun _ => Phase.noConfusion) (h.exclusive.release found rfl rfl) id
        fun _ => h.resolved _ _ found
  | settle _ inside hturn =>
      exact h.move inside (fun _ => Phase.noConfusion) (h.exclusive.release inside rfl rfl)
        (Delivery.vacant_of_turn hturn) Bool.noConfusion
  | wake _ sleeps =>
      exact h.move sleeps (fun _ => Phase.noConfusion) (h.exclusive.keep sleeps rfl) id
        Bool.noConfusion
  | notify _ leaves =>
      have hkept := h.exclusive.keep (p := .away) leaves rfl
      refine ⟨?_, ?_, ?_⟩
      · intro other
        have hother := hkept other
        rwa [← Phase.holds_woken] at hother
      · intro other call hother
        have hmoved : Function.update m.phase _ .away other = .resolved call :=
          Phase.woken_eq_resolved hother
        rw [Function.update_apply] at hmoved
        split at hmoved
        · cases hmoved
        · exact h.resolved other call hmoved
      · intro other call hother
        exact absurd hother (Phase.woken_ne_suspended _ call)
  | pass => exact ⟨h.exclusive, h.resolved, h.suspended⟩

/-! ## A run -/

variable {m₀ : Monitor}

theorem sound_start (queue : Delivery) (now : Instant) : (start queue now).Sound := by
  refine ⟨?_, ?_, ?_⟩
  · intro who
    exact iff_of_false (Option.some_ne_none who).symm Bool.false_ne_true
  · intro _ _ hphase
    cases hphase
  · intro _ _ hphase
    cases hphase

theorem Sound.trace (h : m₀.Sound) (htrace : Trace Step m₀ acts m) : m.Sound := by
  induction htrace with
  | nil => exact h
  | snoc _ last ih => exact ih.step last

/-- However many read, push and interrupt, in whatever order and woken for
whatever reason: if a reader sleeps and has not been notified, then there is
nothing at the queue that it waits for, or somebody who has changed the queue
has yet to notify everyone. -/
theorem attended_of_suspended {queue : Delivery} {now : Instant}
    (h : Trace Step (start queue now) acts m) {who : Nat} {call : ReadCall}
    (hsuspended : m.phase who = .suspended call) :
    (m.queue.ring.toList = [] ∧ m.queue.latch = false) ∨
      ∃ other e, m.phase other = .leaving e ∧ e.notifies = true := by
  have hsound := (sound_start queue now).trace h
  rcases hsound.suspended who call hsuspended with hvacant | hleaving
  · exact .inl ⟨hvacant.empty, hvacant.latch⟩
  · exact .inr hleaving

/-- A reader sleeps at an empty queue, and then a byte has been pushed by somebody
who has yet to notify it. -/
theorem attended_by_push :
    let queue := Delivery.ofCapacity 4 (by decide)
    let call : ReadCall := ⟨1, .blocking, none, ⟨0, 0⟩, none, by decide, rfl⟩
    ∃ acts m, Trace Step (start queue ⟨0, 0⟩) acts m ∧ m.phase 0 = .suspended call ∧
      m.queue.ring.toList = [7] ∧
      ((m.queue.ring.toList = [] ∧ m.queue.latch = false) ∨
        ∃ other e, m.phase other = .leaving e ∧ e.notifies = true) := by
  intro queue call
  have h₁ := Trace.single (Step.call (start queue ⟨0, 0⟩) 0 rfl call rfl)
  have h₂ := h₁.snoc (.acquire _ 0 rfl rfl)
  have h₃ := h₂.snoc (.look _ 0 rfl rfl)
  have h₄ := h₃.snoc (.suspend _ 0 rfl)
  have h₅ := h₄.snoc (.come _ 1 rfl (.push [7]))
  have h₆ := h₅.snoc (.acquire _ 1 rfl rfl)
  have h₇ := h₆.snoc (.perform _ 1 rfl)
  obtain ⟨m, h, hsuspended, hwaiting⟩ : ∃ m, Trace Step (start queue ⟨0, 0⟩) _ m ∧
      m.phase 0 = .suspended call ∧ m.queue.ring.toList = [7] :=
    ⟨_, h₇, rfl, by decide +kernel⟩
  exact ⟨_, m, h, hsuspended, hwaiting, attended_of_suspended h hsuspended⟩

/-! ## The same run without the lock

Forget the lock, the sleepers and those who have yet to notify: what is left is a
run of the scene, so all that holds of those runs holds here. -/

def scene (m : Monitor) : Scene := ⟨m.queue, m.now, Phase.call? ∘ m.phase⟩

end Monitor

theorem Errand.step (s : Scene) (who : Nat) (e : Errand) :
    Scene.Step s (e.seen s.queue who) (s.withQueue (e.apply s.queue)) := by
  cases e with
  | push bytes => exact .push s bytes
  | interrupt => exact .interrupt s
  | tryPop => exact .tryPop s who
  | drain => exact .drain s
  | store x => exact .store s x

namespace Monitor

variable {m m' : Monitor} {acts : List (List Seen)} {seen : List Seen}

theorem scene_move (m : Monitor) (who : Nat) (p : Phase) :
    (m.move who p).scene = m.scene.withReader who p.call? := by
  rw [scene, move, Function.comp_update]
  rfl

theorem scene_release (m : Monitor) (who : Nat) (p : Phase) (queue : Delivery) :
    (m.release who p queue).scene = (m.scene.withReader who p.call?).withQueue queue := by
  rw [scene, release, Function.comp_update]
  rfl

theorem scene_enter (m : Monitor) (who : Nat) (purpose : Purpose) :
    (m.enter who purpose).scene = m.scene.withReader who (Phase.inside purpose).call? := by
  rw [scene, enter, Function.comp_update]
  rfl

theorem scene_notified (m : Monitor) : m.notified.scene = m.scene := by
  rw [scene, notified]
  congr 1
  funext who
  exact Phase.call?_woken _

theorem withReader_scene {who : Nat} {call : Option ReadCall}
    (h : (m.phase who).call? = call) : m.scene.withReader who call = m.scene := by
  rw [Scene.withReader, ← h]
  exact congrArg (Scene.mk _ _) (Function.update_eq_self who m.scene.readers)

theorem run_of_step (step : Step m seen m') : Scene.Run m.scene seen m'.scene := by
  cases step with
  | come who idle =>
      rw [scene_move, withReader_scene]
      · exact .nil
      · rw [idle]; rfl
  | call who idle call h =>
      rw [scene_move]
      exact .single (Scene.Step.call m.scene who (congrArg Phase.call? idle) call h)
  | @acquire who purpose wants free =>
      rw [scene_enter, withReader_scene]
      · exact .nil
      · rw [wants]
        cases purpose <;> rfl
  | @perform who e inside =>
      rw [scene_release, withReader_scene]
      · exact .single (Errand.step m.scene who e)
      · rw [inside]
        split <;> rfl
  | notify who leaves =>
      rw [scene_notified, scene_move, withReader_scene]
      · exact .nil
      · rw [leaves]; rfl
  | @look who call inside h =>
      rw [scene_move, withReader_scene]
      · exact .single (Scene.Step.suspend m.scene who (congrArg Phase.call? inside) h)
      · rw [inside]; rfl
  | suspend who found =>
      rw [scene_release, withReader_scene]
      · exact .nil
      · rw [found]; rfl
  | @settle who call inside result q h =>
      rw [scene_release]
      exact .single (Scene.Step.settle m.scene who (congrArg Phase.call? inside) h)
  | wake who sleeps =>
      rw [scene_move, withReader_scene]
      · exact .nil
      · rw [sleeps]; rfl
  | pass later h => exact .single (Scene.Step.pass m.scene later h)

theorem run_of_trace {m₀ : Monitor} (h : Trace Step m₀ acts m) :
    Scene.Run m₀.scene acts.flatten m.scene := by
  induction h with
  | nil => exact .nil
  | snoc _ last ih =>
      rw [List.flatten_concat]
      exact ih.append (run_of_step last)

end Monitor

end FramedSerial
