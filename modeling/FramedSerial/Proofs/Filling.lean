import FramedSerial.Link
import FramedSerial.Proofs.Interleaving
import Mathlib.Data.List.Induction

/-!
# Filling a buffer while others push and interrupt

A standard reader that fills a buffer looks at the queue again and again, and
between two looks anybody may push bytes or interrupt. It goes on after every
error of the kind `interrupted`, so the news of an interrupt would be lost on it
if it had that kind.

`Filling` is such a reader with the queue it reads, one step for each look and
one for each thing that others do. Nothing is assumed of their order. What a
look comes to is said once, in `Looked`; what any number of steps has come to is
`Lawful`, which holds of every run.
-/

namespace FramedSerial

/-- A buffer that is being filled, and the queue that it is filled from. -/
structure Filling where
  queue : Delivery
  /-- The front of the buffer. -/
  bytes : Bytes
  room : Nat
  failure : Option IoError

namespace Filling

def start (queue : Delivery) (room : Nat) : Filling := ⟨queue, [], room, none⟩

/-- The reader still needs bytes. -/
def Open (f : Filling) : Prop := f.failure = none ∧ 0 < f.room

instance (f : Filling) : Decidable f.Open := inferInstanceAs (Decidable (_ ∧ _))

def ending (f : Filling) : Ending IoError Unit :=
  match f.failure with
  | some e => .returned (.error e)
  | none => if f.room = 0 then .returned (.ok ()) else .waiting

/-- What the reader makes of the result of a look. -/
def settle (f : Filling) (result : Except LinkError Bytes) (queue : Delivery) : Filling :=
  match result with
  | .ok [] =>
    { f with queue, failure := some (.custom .unexpectedEof "failed to fill whole buffer") }
  | .ok bs => { f with queue, bytes := f.bytes ++ bs, room := f.room - bs.length }
  | .error e =>
    if e.toIo.kind = .interrupted then { f with queue }
    else { f with queue, failure := some e.toIo }

def look (f : Filling) (now : Instant) : Filling :=
  if f.Open then
    match f.queue.turn f.room .blocking none now with
    | some (result, queue) => f.settle result queue
    | none => f
  else f

/-- What somebody else does. -/
def meet (f : Filling) (happening : Happening) : Filling :=
  { f with queue := (f.queue.meet happening).value }

inductive Move where
  | look (now : Instant)
  | meet (happening : Happening)

def Move.happening? : Move → Option Happening
  | .look _ => none
  | .meet happening => some happening

/-- The bytes that a move adds to the queue. -/
def Move.bytes : Move → Bytes
  | .meet (.pushed bs) => bs
  | _ => []

def move (f : Filling) : Move → Filling
  | .look now => f.look now
  | .meet happening => f.meet happening

def run (f : Filling) (moves : List Move) : Filling := moves.foldl move f

theorem run_snoc (f : Filling) (moves : List Move) (m : Move) :
    f.run (moves ++ [m]) = (f.run moves).move m := by
  rw [run, List.foldl_append]
  rfl

/-! ## What a look comes to -/

/-- The reader needs bytes, there are none, and it is called off. -/
def Stranded (f : Filling) : Prop := f.Open ∧ f.queue.ring.toList = [] ∧ f.queue.latch = true

/-- The reader needs bytes, there are none, and nobody calls it off. -/
def Waits (f : Filling) : Prop := f.Open ∧ f.queue.ring.toList = [] ∧ f.queue.latch = false

/-- A reader and what it is after a look. -/
inductive Looked (f : Filling) : Filling → Prop where
  | ended (closed : ¬ f.Open) : Looked f f
  | fed {bs : Bytes} {ring : Ring} (goes : f.Open)
      (oldest : bs = f.queue.ring.toList.take f.room) (some : bs ≠ [])
      (rest : ring.toList = f.queue.ring.toList.drop f.room)
      (capacity : ring.capacity = f.queue.ring.capacity) :
      Looked f { f with
        queue := { f.queue with ring }
        bytes := f.bytes ++ bs
        room := f.room - bs.length }
  | calledOff (stranded : f.Stranded) :
      Looked f { f with
        queue := { f.queue with latch := false }
        failure := some LinkError.interrupted.toIo }
  | waits (waits : f.Waits) : Looked f f

variable {f g : Filling}

theorem settle_ok {bs : Bytes} (hne : bs ≠ []) (q : Delivery) :
    f.settle (.ok bs) q =
      { f with queue := q, bytes := f.bytes ++ bs, room := f.room - bs.length } := by
  cases bs with
  | nil => exact absurd rfl hne
  | cons b bs => rfl

theorem settle_interrupted (f : Filling) (q : Delivery) :
    f.settle (.error .interrupted) q =
      { f with queue := q, failure := some LinkError.interrupted.toIo } := by
  unfold settle
  exact if_neg LinkError.isInterruption_toIo_interrupted.2

/-- The read that a look is a turn of. -/
def call (f : Filling) (hroom : 0 < f.room) (now : Instant) : ReadCall :=
  ⟨f.room, .blocking, none, now, none, hroom, rfl⟩

@[simp] theorem room_call (f : Filling) (hroom : 0 < f.room) (now : Instant) :
    (f.call hroom now).room = f.room := rfl

theorem looked_settle {now : Instant} {result : Except LinkError Bytes} {q : Delivery}
    (hopen : f.Open) (h : f.queue.turn f.room .blocking none now = some (result, q)) :
    f.Looked (f.settle result q) := by
  have houtcome : f.queue.Outcome now (f.call hopen.2 now) result q := Delivery.outcome_of_turn h
  cases houtcome with
  | bytes oldest length some rest capacity =>
      rw [room_call] at oldest length
      have hne := List.length_pos_iff.1 some
      rw [settle_ok hne]
      refine .fed hopen ?_ hne ?_ capacity
      · rw [oldest]
        exact List.take_eq_take_iff.2 (by omega)
      · rw [rest, length]
        exact List.drop_eq_drop_iff.2 (by omega)
  | wouldBlock mode _ => cases mode
  | interrupted _ empty latch =>
      rw [settle_interrupted]
      exact .calledOff ⟨hopen, empty, latch⟩
  | timedOut _ _ _ deadline _ => cases deadline

theorem waits_of_turn {now : Instant} (hopen : f.Open)
    (h : f.queue.turn f.room .blocking none now = none) : f.Waits := by
  have hidles : f.queue.Idles now (f.call hopen.2 now) := Delivery.idles_of_turn h
  exact ⟨hopen, hidles.empty, hidles.latch⟩

theorem looked (f : Filling) (now : Instant) : f.Looked (f.look now) := by
  unfold look
  split
  · next hopen =>
      split
      · next hturn => exact looked_settle hopen hturn
      · next hturn => exact .waits (waits_of_turn hopen hturn)
  · next hclosed => exact .ended hclosed

/-! ## What is kept -/

/-- What has reached the buffer and what waits behind it. -/
def contents (f : Filling) : Bytes := f.bytes ++ f.queue.ring.toList

/-- The frame of a look: nothing is lost, moved or counted twice. -/
structure Keeps (f g : Filling) : Prop where
  contents : g.contents = f.contents
  size : g.bytes.length + g.room = f.bytes.length + f.room
  evicted : g.queue.evicted = f.queue.evicted
  capacity : g.queue.ring.capacity = f.queue.ring.capacity

theorem Looked.keeps (h : f.Looked g) : f.Keeps g := by
  cases h with
  | ended => exact ⟨rfl, rfl, rfl, rfl⟩
  | fed _ oldest _ rest capacity =>
      refine ⟨?_, ?_, rfl, capacity⟩
      · show f.bytes ++ _ ++ _ = f.bytes ++ _
        rw [oldest, rest, List.append_assoc, List.take_append_drop]
      · have hlength := congrArg List.length oldest
        rw [List.length_take] at hlength
        simp only [List.length_append]
        omega
  | calledOff => exact ⟨rfl, rfl, rfl, rfl⟩
  | waits => exact ⟨rfl, rfl, rfl, rfl⟩

/-- A look that does not end in failure leaves the latch alone. -/
theorem Looked.latch (h : f.Looked g) (hnone : g.failure = none) :
    f.failure = none ∧ g.queue.latch = f.queue.latch := by
  cases h with
  | ended => exact ⟨hnone, rfl⟩
  | fed goes => exact ⟨goes.1, rfl⟩
  | calledOff => cases hnone
  | waits => exact ⟨hnone, rfl⟩

theorem meet_pushed (f : Filling) (bs : Bytes) :
    f.meet (.pushed bs) = { f with
      queue := { f.queue with
        ring := (f.queue.ring.pushAll bs).1
        evicted := f.queue.evicted + (f.queue.ring.pushAll bs).2 } } := by
  show { f with queue := (f.queue.push bs).value.2 } = _
  rw [Delivery.push_value]

theorem contents_meet (f : Filling) (happening : Happening) :
    (f.meet happening).contents.Sublist (f.contents ++ (Move.meet happening).bytes) ∧
      (f.meet happening).contents.length + (f.meet happening).queue.evicted =
        (f.contents ++ (Move.meet happening).bytes).length + f.queue.evicted := by
  cases happening with
  | pushed bs =>
      rw [meet_pushed]
      show (f.bytes ++ (f.queue.ring.pushAll bs).1.toList).Sublist (f.contents ++ bs) ∧ _
      have hgone := f.queue.ring.pushAll_gone bs
      rw [contents, contents, f.queue.ring.toList_pushAll, List.append_assoc]
      constructor
      · exact (List.Sublist.refl f.bytes).append (List.drop_sublist _ _)
      · simp only [Move.bytes, List.length_append, List.length_drop]
        omega
  | interrupted =>
      show f.contents.Sublist (f.contents ++ []) ∧ _ = (f.contents ++ []).length + _
      rw [List.append_nil]
      exact ⟨List.Sublist.refl _, rfl⟩
  | nothing =>
      show f.contents.Sublist (f.contents ++ []) ∧ _ = (f.contents ++ []).length + _
      rw [List.append_nil]
      exact ⟨List.Sublist.refl _, rfl⟩

/-! ## Any number of steps -/

/-- One of the looks found the reader stranded, with these bytes in its buffer. -/
def CalledOff (queue : Delivery) (n : Nat) (moves : List Move) (bytes : Bytes) : Prop :=
  ∃ before now after, moves = before ++ .look now :: after ∧
    ((start queue n).run before).Stranded ∧ ((start queue n).run before).bytes = bytes

theorem CalledOff.snoc {queue : Delivery} {n : Nat} {moves : List Move} {bytes : Bytes}
    (h : CalledOff queue n moves bytes) (m : Move) :
    CalledOff queue n (moves ++ [m]) bytes := by
  obtain ⟨before, now, after, rfl, hfound⟩ := h
  exact ⟨before, now, after ++ [m], List.append_assoc _ _ _, hfound⟩

/-- What a reader has come to that set out to take `n` bytes from a queue. -/
structure Lawful (queue : Delivery) (n : Nat) (moves : List Move) (f : Filling) : Prop where
  size : f.bytes.length + f.room = n
  /-- What came has reached the buffer or waits, in the order in which it came, -/
  order : f.contents.Sublist (queue.ring.toList ++ moves.flatMap Move.bytes)
  /-- but for the bytes that had to go for newer ones. -/
  missing : f.contents.length + f.queue.evicted =
    (queue.ring.toList ++ moves.flatMap Move.bytes).length + queue.evicted
  /-- As long as the loop does not fail, no interrupt is spent. -/
  latch : f.failure = none →
    (f.queue.latch = true ↔ queue.latch = true ∨ .meet .interrupted ∈ moves)
  /-- It fails when it has run out of bytes and is called off, and only then. -/
  failed : ∀ {e}, f.failure = some e →
    e.isInterruption = true ∧ e.kind = .other ∧ CalledOff queue n moves f.bytes
  next : ∀ now, f.Looked (f.look now)

variable {queue : Delivery} {n : Nat} {moves : List Move}

theorem Lawful.start (queue : Delivery) (n : Nat) : Lawful queue n [] (start queue n) where
  size := Nat.zero_add n
  order := by
    rw [List.flatMap_nil, List.append_nil]
    exact List.Sublist.refl _
  missing := by
    rw [List.flatMap_nil, List.append_nil]
    rfl
  latch _ := by simp [Filling.start]
  failed h := by cases h
  next := looked _

theorem Lawful.meet (h : Lawful queue n moves f) (happening : Happening) :
    Lawful queue n (moves ++ [.meet happening]) (f.meet happening) := by
  obtain ⟨horder, hmissing⟩ := f.contents_meet happening
  constructor
  · exact h.size
  · rw [List.flatMap_append, List.flatMap_singleton, ← List.append_assoc]
    exact horder.trans (h.order.append (List.Sublist.refl _))
  · have hbefore := h.missing
    rw [List.flatMap_append, List.flatMap_singleton, ← List.append_assoc, List.length_append]
    rw [List.length_append] at hmissing
    omega
  · intro hfailure
    have hlatch := h.latch hfailure
    cases happening with
    | pushed bs =>
        rw [meet_pushed]
        simpa using hlatch
    | interrupted => simp [Filling.meet, Delivery.meet, Delivery.interrupt]
    | nothing =>
        show f.queue.latch = true ↔ _
        simpa using hlatch
  · intro e he
    obtain ⟨hnews, hkind, hoff⟩ := h.failed he
    exact ⟨hnews, hkind, hoff.snoc _⟩
  · exact looked _

theorem bytes_look (moves : List Move) (now : Instant) :
    (moves ++ [Move.look now]).flatMap Move.bytes = moves.flatMap Move.bytes := by
  rw [List.flatMap_append, List.flatMap_singleton]
  exact List.append_nil _

theorem Lawful.looked (h : Lawful queue n moves f) (hrun : f = (Filling.start queue n).run moves)
    (now : Instant) (hlooked : f.Looked g) : Lawful queue n (moves ++ [.look now]) g := by
  constructor
  · rw [hlooked.keeps.size]
    exact h.size
  · rw [hlooked.keeps.contents, bytes_look]
    exact h.order
  · rw [hlooked.keeps.contents, hlooked.keeps.evicted, bytes_look]
    exact h.missing
  · intro hnone
    obtain ⟨hbefore, hlatch⟩ := hlooked.latch hnone
    rw [hlatch, h.latch hbefore]
    simp
  · intro e he
    cases hlooked with
    | ended =>
        obtain ⟨hnews, hkind, hoff⟩ := h.failed he
        exact ⟨hnews, hkind, hoff.snoc _⟩
    | fed goes => cases goes.1.symm.trans he
    | calledOff stranded =>
        cases he
        exact ⟨rfl, rfl, moves, now, [], rfl, hrun ▸ stranded, by rw [← hrun]⟩
    | waits waits => cases waits.1.1.symm.trans he
  · exact Filling.looked _

/-- Whatever happens in whatever order. -/
theorem lawful_run (queue : Delivery) (n : Nat) (moves : List Move) :
    Lawful queue n moves ((start queue n).run moves) := by
  induction moves using List.reverseRecOn with
  | nil => exact .start queue n
  | append_singleton moves m ih =>
      rw [run_snoc]
      cases m with
      | look now => exact ih.looked rfl now (looked _ now)
      | meet happening => exact ih.meet happening

end Filling

end FramedSerial
