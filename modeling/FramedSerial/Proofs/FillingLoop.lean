import FramedSerial.Proofs.Filling

/-!
# The loop that fills a buffer

`Link.readExact` is a filling, and one in which the reader looks whenever it
can: whatever others do finds it waiting, with nothing in the queue and the
latch clear. So what comes of it can be said exactly. A push leaves in the queue
what fits there, nothing else has to go, and the first interrupt is the last
thing that the loop lives to see (`JustCalled`).

The fuel of the loop is bookkeeping. A read that is not the last one brings a
byte at least, so the room that is left covers the reads to come, and the case
for a loop out of fuel is never reached.
-/

namespace FramedSerial

/-- What a happening leaves in an empty queue. -/
def Happening.left (capacity : Nat) : Happening → Bytes
  | .pushed bs => bs.drop (bs.length - capacity)
  | _ => []

namespace Filling

variable {f g h : Filling} {seen more : List (Instant × Happening)}

/-- A run in which the reader looks whenever it can, so that what others do
finds it waiting. -/
inductive Amid (f : Filling) : List (Instant × Happening) → Filling → Prop where
  | start : Amid f [] f
  | look {seen : List (Instant × Happening)} {g : Filling} (before : Amid f seen g)
      (now : Instant) : Amid f seen (g.look now)
  | meet {seen : List (Instant × Happening)} {g : Filling} (before : Amid f seen g)
      (waits : g.Waits) (moment : Instant) (happening : Happening) :
      Amid f (seen ++ [(moment, happening)]) (g.meet happening)

theorem Amid.trans (first : f.Amid seen g) (second : g.Amid more h) : f.Amid (seen ++ more) h := by
  induction second with
  | start =>
      rw [List.append_nil]
      exact first
  | look _ now ih => exact ih.look now
  | meet _ waits moment happening ih =>
      rw [← List.append_assoc]
      exact ih.meet waits moment happening

theorem Amid.run (amid : f.Amid seen g) :
    ∃ moves, moves.filterMap Move.happening? = seen.map Prod.snd ∧ g = f.run moves := by
  induction amid with
  | start => exact ⟨[], rfl, rfl⟩
  | look _ now ih =>
      obtain ⟨moves, hmoves, rfl⟩ := ih
      refine ⟨moves ++ [Move.look now], ?_, (run_snoc f moves (.look now)).symm⟩
      rw [List.filterMap_append, hmoves]
      exact List.append_nil _
  | meet _ _ moment happening ih =>
      obtain ⟨moves, hmoves, rfl⟩ := ih
      refine ⟨moves ++ [Move.meet happening], ?_, (run_snoc f moves (.meet happening)).symm⟩
      rw [List.filterMap_append, hmoves, List.map_append]
      rfl

theorem contents_meet_of_waits (waits : f.Waits) (happening : Happening) :
    (f.meet happening).contents = f.contents ++ happening.left f.queue.ring.capacity := by
  have hempty := waits.2.1
  cases happening with
  | pushed bs =>
      rw [meet_pushed, contents, contents, hempty, f.queue.ring.toList_pushAll,
        f.queue.ring.pushAll_gone, hempty, List.append_nil, List.nil_append, List.length_nil,
        Nat.zero_add]
      rfl
  | interrupted => exact (List.append_nil _).symm
  | nothing => exact (List.append_nil _).symm

theorem capacity_meet (f : Filling) (happening : Happening) :
    (f.meet happening).queue.ring.capacity = f.queue.ring.capacity := by
  cases happening with
  | pushed bs =>
      rw [meet_pushed]
      exact Ring.capacity_pushAll _ _
  | interrupted => rfl
  | nothing => rfl

theorem Amid.contents (amid : f.Amid seen g) :
    g.contents = f.contents ++ seen.flatMap (fun a => a.2.left f.queue.ring.capacity) ∧
      g.queue.ring.capacity = f.queue.ring.capacity := by
  induction amid with
  | start => exact ⟨(List.append_nil _).symm, rfl⟩
  | @look _ g _ now ih =>
      have hlooked := g.looked now
      rw [hlooked.keeps.contents, hlooked.keeps.capacity]
      exact ih
  | meet _ waits moment happening ih =>
      rw [contents_meet_of_waits waits, capacity_meet, ih.1, ih.2, List.flatMap_append,
        List.append_assoc, List.flatMap_singleton]
      exact ⟨rfl, rfl⟩

/-- Nobody interrupted. -/
def Calm (seen : List (Instant × Happening)) : Prop := ∀ moment, (moment, .interrupted) ∉ seen

/-- The latch was set from the start, and the reader never waited, or it was
set by the last thing that happened. -/
def JustCalled (latch : Bool) (seen : List (Instant × Happening)) : Prop :=
  (latch = true ∧ seen = []) ∨
    (latch = false ∧ ∃ before moment, seen = before ++ [(moment, .interrupted)] ∧ Calm before)

/-- How far an interrupt has got. -/
inductive Course (f : Filling) (seen : List (Instant × Happening)) (g : Filling) : Prop where
  | calm (failure : g.failure = none) (calm : Calm seen) (latch : g.queue.latch = f.queue.latch)
      (started : seen ≠ [] → f.queue.latch = false)
  | stranded (stranded : g.Stranded) (called : JustCalled f.queue.latch seen)
  | failed (failure : g.failure = some LinkError.interrupted.toIo) (room : 0 < g.room)
      (empty : g.queue.ring.toList = []) (latch : g.queue.latch = false)
      (called : JustCalled f.queue.latch seen)

theorem Course.look (course : f.Course seen g) {h : Filling} (hlooked : g.Looked h) :
    f.Course seen h := by
  cases hlooked with
  | ended => exact course
  | fed goes oldest some =>
      cases course with
      | calm failure calm latch started => exact .calm failure calm latch started
      | stranded stranded =>
          rw [stranded.2.1, List.take_nil] at oldest
          exact absurd oldest some
      | failed failure => cases goes.1.symm.trans failure
  | calledOff stranded =>
      cases course with
      | calm failure calm latch started =>
          -- the latch that is set now was set all the time
          have hlatch := latch.symm.trans stranded.2.2
          have hseen : seen = [] := by
            by_contra hne
            cases (started hne).symm.trans hlatch
          exact .failed rfl stranded.1.2 stranded.2.1 rfl (.inl ⟨hlatch, hseen⟩)
      | stranded _ called => exact .failed rfl stranded.1.2 stranded.2.1 rfl called
      | failed failure => cases stranded.1.1.symm.trans failure
  | waits => exact course

theorem Course.meet (course : f.Course seen g) (waits : g.Waits) (moment : Instant)
    (happening : Happening) : f.Course (seen ++ [(moment, happening)]) (g.meet happening) := by
  obtain ⟨hopen, hempty, hclear⟩ := waits
  cases course with
  | calm failure calm latch started =>
      have hbefore := latch.symm.trans hclear
      cases happening with
      | pushed bs =>
          rw [meet_pushed]
          refine .calm failure ?_ latch fun _ => hbefore
          simpa [Calm] using calm
      | interrupted =>
          exact .stranded ⟨hopen, hempty, rfl⟩ (.inr ⟨hbefore, seen, moment, rfl, calm⟩)
      | nothing =>
          refine .calm failure ?_ latch fun _ => hbefore
          simpa [Calm] using calm
  | stranded stranded => cases hclear.symm.trans stranded.2.2
  | failed failure => cases hopen.1.symm.trans failure

theorem Amid.course (amid : f.Amid seen g) (hnone : f.failure = none) : f.Course seen g := by
  induction amid with
  | start => exact .calm hnone (fun _ => List.not_mem_nil) rfl (fun h => absurd rfl h)
  | look _ now ih => exact ih.look (looked _ now)
  | meet _ waits moment happening ih => exact ih.meet waits moment happening

/-! ## The loop -/

/-- How a read ended, and what the filling has become by it. -/
inductive Answered (f : Filling) : ReadEnd → List (Instant × Happening) → Filling → Prop where
  | fed {bs : Bytes} {unseen : List (Instant × Happening)} {g : Filling} (some : bs ≠ [])
      (bytes : g.bytes = f.bytes ++ bs) (room : g.room = f.room - bs.length)
      (failure : g.failure = none) : Answered f (.returned (.ok bs)) unseen g
  | calledOff {unseen : List (Instant × Happening)} {g : Filling} (bytes : g.bytes = f.bytes)
      (failure : g.failure = some LinkError.interrupted.toIo) :
      Answered f (.returned (.error .interrupted)) unseen g
  | waiting {g : Filling} (bytes : g.bytes = f.bytes) (waits : g.Waits) :
      Answered f .waiting [] g

theorem Answered.of_meet {happening : Happening} {ending : ReadEnd}
    {unseen : List (Instant × Happening)} (answered : (f.meet happening).Answered ending unseen g) :
    f.Answered ending unseen g := by
  cases answered with
  | fed some bytes room failure => exact .fed some bytes room failure
  | calledOff bytes failure => exact .calledOff bytes failure
  | waiting bytes waits => exact .waiting bytes waits

theorem answered_of_turn {now : Instant} {result : Except LinkError Bytes} {q : Delivery}
    (hopen : f.Open) (h : f.queue.turn f.room .blocking none now = some (result, q))
    (unseen : List (Instant × Happening)) :
    (f.look now).queue = q ∧ f.Answered (.returned result) unseen (f.look now) := by
  have hlook : f.look now = f.settle result q := by
    rw [look, if_pos hopen, h]
  rw [hlook]
  have houtcome : f.queue.Outcome now (f.call hopen.2 now) result q := Delivery.outcome_of_turn h
  cases houtcome with
  | bytes _ _ some =>
      have hne := List.length_pos_iff.1 some
      rw [settle_ok hne]
      exact ⟨rfl, .fed hne rfl rfl hopen.1⟩
  | wouldBlock mode _ => cases mode
  | interrupted =>
      rw [settle_interrupted]
      exact ⟨rfl, .calledOff rfl rfl⟩
  | timedOut _ _ _ deadline _ => cases deadline

theorem amid_of_turn {now : Instant} {result : Except LinkError Bytes} {q : Delivery}
    (hopen : f.Open) (h : f.queue.turn f.room .blocking none now = some (result, q))
    (later : List (Instant × Happening)) :
    ∃ seen g, later = seen ++ later ∧ f.Amid seen g ∧ q = g.queue ∧
      f.Answered (.returned result) later g := by
  obtain ⟨hqueue, hanswered⟩ := answered_of_turn hopen h later
  exact ⟨[], f.look now, rfl, Amid.start.look now, hqueue.symm, hanswered⟩

/-- A read is a run that ends with it. -/
theorem amid_turns (later : List (Instant × Happening)) :
    ∀ {f : Filling} (now : Instant), f.Open →
      let r := (f.queue.turns f.room .blocking none now later).value
      ∃ seen g, later = seen ++ r.2.2 ∧ f.Amid seen g ∧ r.2.1 = g.queue ∧
        f.Answered r.1 r.2.2 g := by
  induction later with
  | nil =>
      intro f now hopen
      unfold Delivery.turns
      split
      · next hturn => exact amid_of_turn hopen hturn []
      · next hturn =>
          exact ⟨[], f, rfl, .start, rfl, .waiting rfl (waits_of_turn hopen hturn)⟩
  | cons next later ih =>
      intro f now hopen
      obtain ⟨moment, happening⟩ := next
      unfold Delivery.turns
      split
      · next hturn => exact amid_of_turn hopen hturn ((moment, happening) :: later)
      · next hturn =>
          -- the reader sleeps until something happens, and looks again
          have hfirst := Amid.start.meet (waits_of_turn hopen hturn) moment happening
          obtain ⟨seen, g, hlater, hamid, hqueue, hanswered⟩ :=
            ih (f := f.meet happening) moment hopen
          refine ⟨(moment, happening) :: seen, g, ?_, hfirst.trans hamid, hqueue, ?_⟩
          · exact congrArg _ hlater
          · exact hanswered.of_meet

end Filling

namespace Link

/-- The loop and the filling that it is. -/
structure Fills (l : Link) (f : Filling) (later : List (Instant × Happening))
    (r : LinkRead Filled) (seen : List (Instant × Happening)) (g : Filling) : Prop where
  later : later = seen ++ r.later
  amid : f.Amid seen g
  link : r.link = l.withQueue g.queue
  bytes : g.bytes = f.bytes ++ r.ending.bytes
  ending : r.ending.ending = g.ending
  waiting : g.Open → g.Waits ∧ r.later = []

variable {l : Link} {f : Filling}

theorem read_value (hmode : l.mode = .blocking) (htimeout : l.timeout = none) {room : Nat}
    (hroom : 0 < room) (now : Instant) (later : List (Instant × Happening)) :
    (l.read room now later).value =
      let r := (l.queue.turns room .blocking none now later).value
      ⟨r.1, l.withQueue r.2.1, r.2.2⟩ := by
  have hne : room ≠ 0 := Nat.ne_of_gt hroom
  simp only [read, readWith, Delivery.readAmid, hmode, htimeout, if_neg hne, Delivery.deadline,
    Logged.value_bind, Logged.value_pure]

theorem fillBuffer_full (l : Link) (now : Instant) (fuel : Nat)
    (later : List (Instant × Happening)) :
    (l.fillBuffer now fuel 0 later).value = ⟨⟨[], .returned (.ok ())⟩, l, later⟩ := by
  cases fuel <;> rfl

section Turns

variable {l' : Link} {fuel room : Nat} {now : Instant} {later unseen : List (Instant × Happening)}

theorem fillBuffer_of_bytes (hroom : 0 < room) {bs : Bytes} (hne : bs ≠ [])
    (h : (l.read room now later).value = ⟨.returned (.ok bs), l', unseen⟩) :
    (l.fillBuffer now (fuel + 1) room later).value =
      let more := (l'.fillBuffer now fuel (room - bs.length) unseen).value
      { more with ending := { more.ending with bytes := bs ++ more.ending.bytes } } := by
  obtain ⟨room, rfl⟩ := Nat.exists_eq_add_one_of_ne_zero (Nat.ne_of_gt hroom)
  obtain ⟨b, bs, rfl⟩ := List.exists_cons_of_ne_nil hne
  simp only [fillBuffer, Logged.value_bind, h, Logged.value_pure]

theorem fillBuffer_of_error (hroom : 0 < room) {e : LinkError} (hkind : e.toIo.kind ≠ .interrupted)
    (h : (l.read room now later).value = ⟨.returned (.error e), l', unseen⟩) :
    (l.fillBuffer now (fuel + 1) room later).value =
      ⟨⟨[], .returned (.error e.toIo)⟩, l', unseen⟩ := by
  obtain ⟨room, rfl⟩ := Nat.exists_eq_add_one_of_ne_zero (Nat.ne_of_gt hroom)
  simp only [fillBuffer, Logged.value_bind, h, if_neg hkind, Logged.value_pure]

theorem fillBuffer_of_waiting (hroom : 0 < room)
    (h : (l.read room now later).value = ⟨.waiting, l', unseen⟩) :
    (l.fillBuffer now (fuel + 1) room later).value = ⟨⟨[], .waiting⟩, l', unseen⟩ := by
  obtain ⟨room, rfl⟩ := Nat.exists_eq_add_one_of_ne_zero (Nat.ne_of_gt hroom)
  simp only [fillBuffer, Logged.value_bind, h, Logged.value_pure]

end Turns

theorem fills_of_full (hqueue : f.queue = l.queue) (hnone : f.failure = none) (hfull : f.room = 0)
    (now : Instant) (fuel : Nat) (later : List (Instant × Happening)) :
    l.Fills f later (l.fillBuffer now fuel f.room later).value [] f := by
  rw [hfull, fillBuffer_full]
  refine ⟨rfl, .start, ?_, (List.append_nil _).symm, ?_, ?_⟩
  · rw [hqueue]
    rfl
  · simp only [Filling.ending, hnone, hfull, if_true]
  · intro hopen
    exact absurd hfull (Nat.ne_of_gt hopen.2)

/-- The loop is a run. The induction is on the fuel, which covers the room that
is left, since a read that is not the last one brings a byte at least. -/
theorem fills_fillBuffer (fuel : Nat) :
    ∀ {l : Link} {f : Filling} (now : Instant) (later : List (Instant × Happening)),
      l.mode = .blocking → l.timeout = none → f.queue = l.queue → f.failure = none →
      f.room ≤ fuel →
      ∃ seen g, l.Fills f later (l.fillBuffer now fuel f.room later).value seen g := by
  induction fuel with
  | zero =>
      intro l f now later _ _ hqueue hnone hfuel
      exact ⟨[], f, fills_of_full hqueue hnone (Nat.le_zero.1 hfuel) now 0 later⟩
  | succ fuel ih =>
      intro l f now later hmode htimeout hqueue hnone hfuel
      by_cases hfull : f.room = 0
      · exact ⟨[], f, fills_of_full hqueue hnone hfull now _ later⟩
      · have hopen : f.Open := ⟨hnone, Nat.pos_of_ne_zero hfull⟩
        obtain ⟨seen, g, hlater, hamid, hg, hanswered⟩ := Filling.amid_turns later now hopen
        have hread := read_value hmode htimeout hopen.2 now later
        rw [← hqueue] at hread
        generalize (f.queue.turns f.room .blocking none now later).value = r at *
        obtain ⟨ending, q, unseen⟩ := r
        subst hg
        cases hanswered with
        | fed some bytes room failure =>
            -- short of room, the loop goes on with what is left
            have hpos := List.length_pos_iff.2 some
            obtain ⟨more, h, hfills⟩ := ih (l := l.withQueue g.queue) (f := g) now unseen hmode
              htimeout rfl failure (by omega)
            rw [fillBuffer_of_bytes hopen.2 some hread, ← room]
            refine ⟨seen ++ more, h, ?_, hamid.trans hfills.amid, hfills.link, ?_, hfills.ending,
              hfills.waiting⟩
            · rw [hlater, List.append_assoc]
              exact congrArg (seen ++ ·) hfills.later
            · rw [hfills.bytes, bytes, List.append_assoc]
        | calledOff bytes failure =>
            rw [fillBuffer_of_error hopen.2 LinkError.isInterruption_toIo_interrupted.2 hread]
            refine ⟨seen, g, hlater, hamid, rfl, ?_, ?_, ?_⟩
            · rw [bytes]
              exact (List.append_nil _).symm
            · simp only [Filling.ending, failure]
            · intro hgoes
              cases hgoes.1.symm.trans failure
        | waiting bytes waits =>
            rw [fillBuffer_of_waiting hopen.2 hread]
            refine ⟨seen, g, hlater, hamid, rfl, ?_, ?_, fun _ => ⟨waits, rfl⟩⟩
            · rw [bytes]
              exact (List.append_nil _).symm
            · simp only [Filling.ending, waits.1.1, if_neg (Nat.ne_of_gt waits.1.2)]

/-- How filling a buffer of `n` bytes ends, after these have happened. -/
inductive Ends (l : Link) (n : Nat) (seen : List (Instant × Happening)) (r : LinkRead Filled) :
    Prop where
  | full (ending : r.ending.ending = .returned (.ok ())) (length : r.ending.bytes.length = n)
      (calm : Filling.Calm seen) (latch : r.link.queue.latch = l.queue.latch)
      (started : seen ≠ [] → l.queue.latch = false)
  | calledOff {e : IoError} (ending : r.ending.ending = .returned (.error e))
      (news : e.isInterruption = true) (kind : e.kind = .other)
      (short : r.ending.bytes.length < n) (empty : r.link.queue.ring.toList = [])
      (latch : r.link.queue.latch = false) (called : Filling.JustCalled l.queue.latch seen)
  | waiting (ending : r.ending.ending = .waiting) (unseen : r.later = [])
      (short : r.ending.bytes.length < n) (empty : r.link.queue.ring.toList = [])
      (latch : r.link.queue.latch = false) (calm : Filling.Calm seen)
      (clear : l.queue.latch = false)

/-- What filling a buffer of `n` bytes comes to. What has reached the buffer
and what waits behind it are the bytes that waited at first and what every push
left in the empty queue, in this order. -/
structure FillsInOrder (l : Link) (n : Nat) (later seen : List (Instant × Happening))
    (r : LinkRead Filled) : Prop where
  later : later = seen ++ r.later
  link : r.link = l.withQueue r.link.queue
  contents : r.ending.bytes ++ r.link.queue.ring.toList =
    l.queue.ring.toList ++ seen.flatMap fun a => a.2.left l.queue.ring.capacity
  ends : l.Ends n seen r

theorem Fills.ends {n : Nat} {later seen : List (Instant × Happening)} {r : LinkRead Filled}
    {g : Filling} (h : l.Fills (.start l.queue n) later r seen g) : l.Ends n seen r := by
  obtain ⟨moves, -, hrun⟩ := h.amid.run
  have hsize := (Filling.lawful_run l.queue n moves).size
  rw [← hrun, h.bytes] at hsize
  have hqueue : r.link.queue = g.queue := by
    rw [h.link]
    rfl
  cases h.amid.course rfl with
  | calm failure calm latch started =>
      by_cases hfull : g.room = 0
      · refine .full ?_ ?_ calm ?_ started
        · rw [h.ending]
          simp only [Filling.ending, failure, hfull, if_true]
        · rw [hfull] at hsize
          exact hsize
        · rw [hqueue, latch]
          rfl
      · obtain ⟨⟨⟨-, hroom⟩, hempty, hclear⟩, hover⟩ :=
          h.waiting ⟨failure, Nat.pos_of_ne_zero hfull⟩
        refine .waiting ?_ hover ?_ ?_ ?_ calm (latch.symm.trans hclear)
        · rw [h.ending]
          simp only [Filling.ending, failure, if_neg hfull]
        · exact Nat.lt_of_lt_of_eq (Nat.lt_add_of_pos_right hroom) hsize
        · rw [hqueue, hempty]
        · rw [hqueue, hclear]
  | stranded stranded =>
      obtain ⟨⟨-, -, hclear⟩, -⟩ := h.waiting stranded.1
      cases hclear.symm.trans stranded.2.2
  | failed failure room empty latch called =>
      have hending : r.ending.ending = .returned (.error LinkError.interrupted.toIo) := by
        rw [h.ending]
        simp only [Filling.ending, failure]
      refine .calledOff hending rfl rfl ?_ ?_ ?_ called
      · exact Nat.lt_of_lt_of_eq (Nat.lt_add_of_pos_right room) hsize
      · rw [hqueue, empty]
      · rw [hqueue, latch]

/-- An interrupt is never lost on a reader that fills a buffer. In whatever
order others push and interrupt between its looks, it takes the bytes as they
come and fails at the first look that finds none and the latch set. The loop is
such a reader, and if others act while it waits, then it ends with the first
interrupt. -/
theorem interrupt_ends_readExact (hmode : l.mode = .blocking) (htimeout : l.timeout = none)
    (n : Nat) (now : Instant) (later : List (Instant × Happening)) :
    (∀ moves, Filling.Lawful l.queue n moves ((Filling.start l.queue n).run moves)) ∧
    ∃ seen moves, l.FillsInOrder n later seen (l.readExact n now later).value ∧
      moves.filterMap Filling.Move.happening? = seen.map Prod.snd ∧
      (l.readExact n now later).value.link.queue = ((Filling.start l.queue n).run moves).queue ∧
      (l.readExact n now later).value.ending.bytes =
        ((Filling.start l.queue n).run moves).bytes ∧
      (l.readExact n now later).value.ending.ending =
        ((Filling.start l.queue n).run moves).ending := by
  refine ⟨fun moves => Filling.lawful_run l.queue n moves, ?_⟩
  obtain ⟨seen, g, h⟩ := fills_fillBuffer (f := .start l.queue n) (n + later.length + 2) now later
    hmode htimeout rfl rfl (by simp only [Filling.start]; omega)
  obtain ⟨moves, hmoves, hrun⟩ := h.amid.run
  have hqueue : (l.readExact n now later).value.link.queue = g.queue := congrArg Link.queue h.link
  have hbytes : g.bytes = (l.readExact n now later).value.ending.bytes := h.bytes
  refine ⟨seen, moves, ⟨h.later, ?_, ?_, h.ends⟩, hmoves, ?_, ?_, ?_⟩
  · rw [hqueue]
    exact h.link
  · rw [hqueue, ← hbytes]
    exact h.amid.contents.1
  · rw [hqueue, hrun]
  · rw [← hbytes, hrun]
  · rw [← hrun]
    exact h.ending

/-- Five bytes come to a queue for three, and then an interrupt. The reader
gets what was left of the push and then the news, and the last push waits. If
all that happens before its first look, it gets what is left of it all, and
the news only then. -/
theorem readExact_ends_at_interrupt :
    let q := ((Delivery.ofCapacity 3 (by decide)).push [0x61, 0x62]).value.2
    let l : Link := ⟨⟨.empty 16, q⟩, .ofScript [], .blocking, none⟩
    let later : List (Instant × Happening) :=
      [(⟨1, 0⟩, .pushed [0x63, 0x64, 0x65, 0x66, 0x67]), (⟨2, 0⟩, .interrupted),
        (⟨3, 0⟩, .pushed [0x78])]
    let moves := later.map (fun a => Filling.Move.meet a.2) ++ [.look ⟨4, 0⟩, .look ⟨4, 0⟩]
    let r := (l.readExact 6 ⟨0, 0⟩ later).value
    let f := (Filling.start q 6).run moves
    l.mode = .blocking ∧ l.timeout = none ∧
      r.ending.bytes = [0x61, 0x62, 0x65, 0x66, 0x67] ∧
      (∃ e, r.ending.ending = .returned (.error e) ∧ e.isInterruption = true ∧
        e.kind = .other) ∧
      r.link.queue.ring.toList = [] ∧ r.link.queue.latch = false ∧
      r.later.map Prod.fst = [⟨3, 0⟩] ∧
      f.bytes = [0x66, 0x67, 0x78] ∧ f.failure = some LinkError.interrupted.toIo ∧
      Filling.CalledOff q 6 moves f.bytes := by
  intro q l later moves r f
  obtain ⟨hlawful, seen, _, hfills, -⟩ :=
    interrupt_ends_readExact (l := l) rfl rfl 6 ⟨0, 0⟩ later
  have hbytes : r.ending.bytes = [0x61, 0x62, 0x65, 0x66, 0x67] := by decide +kernel
  have hlater : r.later.map Prod.fst = [⟨3, 0⟩] := by decide +kernel
  have hfailure : f.failure = some LinkError.interrupted.toIo := by decide +kernel
  have hoff := ((hlawful moves).failed hfailure).2.2
  cases hfills.ends with
  | full _ length =>
      rw [hbytes] at length
      cases length
  | calledOff ending news kind _ empty latch =>
      exact ⟨rfl, rfl, hbytes, ⟨_, ending, news, kind⟩, empty, latch, hlater,
        by decide +kernel, hfailure, hoff⟩
  | waiting _ unseen =>
      rw [unseen] at hlater
      cases hlater

end Link

end FramedSerial
