import FramedSerial.Proofs.Interleaving
import Mathlib.Data.List.Induction

/-!
# What a read may return, and where an interrupt goes

Readers, writers and the clock go on in any order. What a read returns is still
decided by the queue as its last look found it, and a result that is no bytes
changes nothing but the latch, if that. One look is all there is to that part,
and `Outcome` has it.

The latch is the other part, and it takes the whole run. Only two things that
can be seen touch it: an interrupt sets it, and a read that was interrupted
clears it. So it is set exactly when some interrupt has not been answered yet,
and between two interrupted reads there was an interrupt, whoever they were.
-/

namespace FramedSerial

namespace Seen

/-- A read came back interrupted. -/
def calledOff : Seen → Bool
  | .returned _ _ (.error .interrupted) => true
  | _ => false

/-- The latch after what was seen, if it was `before`. -/
def latch (before : Bool) (a : Seen) : Bool :=
  match a with
  | .interrupted => true
  | a => before && !a.calledOff

theorem latch_of_calledOff {a : Seen} (h : a.calledOff = true) (before : Bool) :
    a.latch before = false := by
  unfold latch
  split
  · cases h
  · rw [h, Bool.not_true, Bool.and_false]

theorem latch_of_ne {a : Seen} (hne : a ≠ .interrupted) (h : a.calledOff = false)
    (before : Bool) : a.latch before = before := by
  unfold latch
  split
  · exact absurd rfl hne
  · rw [h, Bool.not_false, Bool.and_true]

/-- A latch that was clear and is set was set by an interrupt in between. -/
theorem interrupted_mem_of_latch {seen : List Seen} (h : seen.foldl latch false = true) :
    .interrupted ∈ seen := by
  induction seen with
  | nil => cases h
  | cons a seen ih =>
      by_cases ha : a = .interrupted
      · rw [ha]
        exact List.mem_cons_self
      · have hclear : a.latch false = false := by
          cases hoff : a.calledOff with
          | true => exact latch_of_calledOff hoff false
          | false => exact latch_of_ne ha hoff false
        rw [List.foldl_cons, hclear] at h
        exact List.mem_cons_of_mem a (ih h)

/-- An interrupt that no read has answered. -/
def Unanswered (seen : List Seen) : Prop :=
  ∃ before after, seen = before ++ .interrupted :: after ∧ ∀ a ∈ after, a.calledOff = false

theorem unanswered_concat {seen : List Seen} {a : Seen} :
    Unanswered (seen ++ [a]) ↔
      a = .interrupted ∨ (Unanswered seen ∧ a.calledOff = false) := by
  constructor
  · rintro ⟨before, after, heq, hafter⟩
    rcases List.eq_nil_or_concat' after with rfl | ⟨after, b, rfl⟩
    · exact .inl (List.append_singleton_inj.1 heq).2
    · rw [← List.cons_append, ← List.append_assoc] at heq
      obtain ⟨rfl, rfl⟩ := List.append_singleton_inj.1 heq
      refine .inr ⟨⟨before, after, rfl, ?_⟩, hafter a (by simp)⟩
      intro b hb
      exact hafter b (List.mem_append_left _ hb)
  · rintro (rfl | ⟨⟨before, after, rfl, hafter⟩, ha⟩)
    · exact ⟨seen, [], rfl, fun _ h => by cases h⟩
    · refine ⟨before, after ++ [a], by simp, ?_⟩
      intro b hb
      rcases List.mem_append.1 hb with hb | hb
      · exact hafter b hb
      · rw [List.mem_singleton.1 hb]
        exact ha

theorem foldl_latch_iff (seen : List Seen) : seen.foldl latch false = true ↔ Unanswered seen := by
  induction seen using List.reverseRecOn with
  | nil =>
      constructor
      · intro h
        cases h
      · rintro ⟨before, after, heq, -⟩
        simp at heq
  | append_singleton seen a ih =>
      rw [List.foldl_append, List.foldl_cons, List.foldl_nil, unanswered_concat, ← ih]
      by_cases ha : a = .interrupted
      · subst ha
        simp [latch]
      · cases hoff : a.calledOff with
        | true => simp [latch_of_calledOff hoff, ha]
        | false => simp [latch_of_ne ha hoff, ha]

end Seen

namespace Scene

variable {start s s' : Scene} {seen : List Seen} {a : Seen}

/-! ## The latch along a run -/

theorem Step.latch (h : Step s a s') : s'.queue.latch = a.latch s.queue.latch := by
  cases h with
  | push bytes =>
      rw [queue_withQueue, Delivery.push_value]
      exact (Seen.latch_of_ne (by simp) rfl _).symm
  | pushByte b =>
      rw [queue_withQueue, Delivery.pushByte_value, Delivery.push_value]
      exact (Seen.latch_of_ne (by simp) rfl _).symm
  | tryPop who =>
      rw [queue_withQueue, Seen.latch_of_ne (by simp) rfl]
      unfold Delivery.tryPop
      split <;> rfl
  | settle _ _ hturn =>
      -- of all results only one is an answer to an interrupt
      cases Delivery.outcome_of_turn hturn with
      | bytes => exact (Seen.latch_of_ne (by simp) rfl _).symm
      | wouldBlock => exact (Seen.latch_of_ne (by simp) rfl _).symm
      | interrupted => exact (Seen.latch_of_calledOff rfl _).symm
      | timedOut => exact (Seen.latch_of_ne (by simp) rfl _).symm
  | interrupt => rfl
  | drain | store | pass | skip | call | crash | suspend =>
      exact (Seen.latch_of_ne (by simp) rfl _).symm

theorem Run.latch (h : Run start seen s) :
    s.queue.latch = seen.foldl Seen.latch start.queue.latch := by
  induction h with
  | nil => rfl
  | snoc _ last ih =>
      rw [List.foldl_append, ← ih]
      exact last.latch

theorem Step.outcome {who : Nat} {call : ReadCall} {result : Except LinkError Bytes}
    (h : Step s (.returned who call result) s') :
    s.queue.Outcome s.now call result s'.queue := by
  cases h with
  | settle _ _ hturn => exact Delivery.outcome_of_turn hturn

theorem Step.latch_of_calledOff (h : Step s a s') (ha : a.calledOff = true) :
    s.queue.latch = true := by
  unfold Seen.calledOff at ha
  split at ha
  · exact h.outcome.latch_of_interrupted
  · cases ha

theorem Run.interrupted_between (h : Run start seen s) {before between after : List Seen}
    {x y : Seen} (heq : seen = before ++ x :: (between ++ y :: after))
    (hx : x.calledOff = true) (hy : y.calledOff = true) : .interrupted ∈ between := by
  rw [← List.cons_append, ← List.append_assoc] at heq
  obtain ⟨s₁, s₂, hrun, hstep, -⟩ := h.exists_step heq
  have hlatch := Run.latch hrun
  rw [hstep.latch_of_calledOff hy, List.foldl_append, List.foldl_cons,
    Seen.latch_of_calledOff hx] at hlatch
  exact Seen.interrupted_mem_of_latch hlatch.symm

/-! ## The law of reads -/

/-- What can be said of a scene, of all that was seen before it, and of
whatever comes next. -/
structure Orderly (seen : List Seen) (s : Scene) : Prop where
  /-- A read returns what its last look found. -/
  outcome : ∀ {who : Nat} {call : ReadCall} {result : Except LinkError Bytes} {s' : Scene},
    Step s (.returned who call result) s' → s.queue.Outcome s.now call result s'.queue
  /-- It never returns without a byte and without an error. -/
  nonempty : ∀ {who : Nat} {call : ReadCall} {s' : Scene},
    ¬ Step s (.returned who call (.ok [])) s'
  /-- It goes on waiting only if nothing calls for a result. -/
  suspended : ∀ {who : Nat} {call : ReadCall} {s' : Scene},
    Step s (.suspended who call) s' → s.queue.Idles s.now call ∧ s' = s
  /-- One interrupt calls off one read at most. -/
  spaced : ∀ {before between after : List Seen} {x y : Seen},
    seen = before ++ x :: (between ++ y :: after) → x.calledOff = true → y.calledOff = true →
      .interrupted ∈ between
  /-- An interrupt waits until a read has returned it, whatever else returns. -/
  latch : s.queue.latch = true ↔ Seen.Unanswered seen

/-- Whoever uses a queue and in whatever order, reads return what the queue
holds for them, and every interrupt is returned by one read or waits for
one. -/
theorem orderly_of_run {capacity : UInt64} {q : Delivery}
    (hq : Delivery.allocate capacity = .ok q) {now : Instant}
    (h : Run (.quiet q now) seen s) : Orderly seen s := by
  constructor
  · intro who call result s' hstep
    exact hstep.outcome
  · intro who call s' hstep
    exact hstep.outcome.ne_nil rfl
  · intro who call s' hstep
    cases hstep with
    | suspend _ _ hturn => exact ⟨Delivery.idles_of_turn hturn, rfl⟩
  · intro before between after x y heq hx hy
    exact h.interrupted_between heq hx hy
  · have hclear : q.latch = false := by
      obtain ⟨ring, -, rfl⟩ := Delivery.allocate_eq_ok hq
      rfl
    have hlatch := h.latch
    rw [show (quiet q now).queue.latch = false from hclear] at hlatch
    rw [hlatch, Seen.foldl_latch_iff]

/-- A reader that waits, and another that asks and then hurries. The first is
called off, and waits again; then its bytes come with another interrupt, which
stays. -/
theorem orderly_of_two_readers :
    let waits : ReadCall := ⟨2, .blocking, none, ⟨0, 0⟩, none, by decide, rfl⟩
    let asks : ReadCall := ⟨2, .nonBlocking, none, ⟨0, 0⟩, none, by decide, rfl⟩
    let hurries : ReadCall := ⟨3, .blocking, some ⟨1, 0, by decide⟩, ⟨0, 0⟩,
      some ⟨⟨1, 0⟩, ⟨1, 0, by decide⟩⟩, by decide, rfl⟩
    let seen : List Seen :=
      [.called 0 waits, .suspended 0 waits, .called 1 asks,
        .returned 1 asks (.error .wouldBlock), .interrupted,
        .returned 0 waits (.error .interrupted), .called 0 waits, .called 1 hurries, .passed,
        .suspended 0 waits, .returned 1 hurries (.error (.timedOut ⟨1, 0, by decide⟩)),
        .interrupted, .pushed [7, 8, 9] 1, .returned 0 waits (.ok [8, 9])]
    let q := Delivery.ofCapacity 2 (by decide)
    Delivery.allocate 2 = .ok q ∧ ∃ s, Run (quiet q ⟨0, 0⟩) seen s ∧ Orderly seen s := by
  intro waits asks hurries seen q
  have hq : Delivery.allocate 2 = .ok q := rfl
  obtain ⟨s, hrun, hreader, hring⟩ : ∃ s, Run (quiet q ⟨0, 0⟩) (seen.take 12) s ∧
      s.readers 0 = some waits ∧ s.queue.ring = q.ring := by
    have h₁ := Trace.single (Step.call (quiet q ⟨0, 0⟩) 0 rfl waits rfl)
    have h₂ := h₁.snoc (.suspend _ 0 rfl rfl)
    have h₃ := h₂.snoc (.call _ 1 rfl asks rfl)
    have h₄ := h₃.snoc (.settle _ 1 rfl rfl)
    have h₅ := h₄.snoc (.interrupt _)
    have h₆ := h₅.snoc (.settle _ 0 rfl rfl)
    have h₇ := h₆.snoc (.call _ 0 rfl waits rfl)
    have h₈ := h₇.snoc (.call _ 1 rfl hurries rfl)
    have h₉ := h₈.snoc (.pass _ ⟨1, 0⟩ rfl)
    have h₁₀ := h₉.snoc (.suspend _ 0 rfl rfl)
    have h₁₁ := h₁₀.snoc (.settle _ 1 rfl rfl)
    exact ⟨_, h₁₁.snoc (.interrupt _), rfl, rfl⟩
  have hbefore : s.queue.ring.toList = [] := by
    rw [hring]
    exact q.ring.isEmpty_iff.1 rfl
  have hcapacity : s.queue.ring.capacity = 2 := by
    rw [hring]
    rfl
  have hgone : (s.queue.push [7, 8, 9]).value.1 = 1 := by
    rw [Delivery.push_value, Ring.pushAll_gone, hbefore, hcapacity]
    rfl
  have hafter : (s.queue.push [7, 8, 9]).value.2.ring.toList = [8, 9] := by
    rw [Delivery.push_value, Ring.toList_pushAll, Ring.pushAll_gone, hbefore, hcapacity]
    rfl
  obtain ⟨s', hpushed, hreader', hqueued⟩ : ∃ s', Run (quiet q ⟨0, 0⟩) (seen.take 13) s' ∧
      s'.readers 0 = some waits ∧ s'.queue.ring.toList = [8, 9] := by
    have hpush := Step.push s [7, 8, 9]
    rw [hgone] at hpush
    exact ⟨_, hrun.snoc hpush, hreader, hafter⟩
  have hturn := Delivery.turn_of_toList hqueued (List.cons_ne_nil 8 [9]) 2 .blocking none s'.now
  have hread : Run _ seen _ := hpushed.snoc (.settle s' 0 hreader' hturn)
  exact ⟨hq, _, hread, orderly_of_run hq hread⟩

end Scene

end FramedSerial
