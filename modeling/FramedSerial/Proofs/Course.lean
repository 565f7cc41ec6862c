import FramedSerial.Link
import FramedSerial.Proofs.Routing

/-!
# What a link does over its whole life

The transport hands chunks to a link while its user reads, looks at the status,
calls readers off and resets it, in any order. A course is a link together with
what an observer would have written down: the frames that were decoded, the
bytes that went into the queue for them, the bytes the user got, and the bytes
that were still waiting at a reset.

Decoder, routing, queue and reads meet in one invariant, `Course.Holds`. It
says of the decoder only its capacity, because what was decoded is in the
course, and leaves the rest to `Delivery.Follows`. `Course.Lawful` is what a
maintainer would ask of a link at any time, and follows from it.
-/

namespace FramedSerial

namespace Link

/-- What happens to a link. Nothing else happens during a read, so it gets what
is there when it starts. -/
inductive Operation where
  | receive (chunk : Bytes)
  | read (mode : ReadMode) (room : Nat) (now : Instant)
  | interrupt
  | status
  | reset

inductive Answer where
  | accepted (count : Nat)
  | read (ending : ReadEnd)
  | snapshot (s : Snapshot)
  | done

/-- The bytes that come back to the user. -/
def Answer.bytes : Answer → Bytes
  | .read ending => ending.bytes
  | _ => []

def perform (l : Link) : Operation → Logged (Answer × Link)
  | .receive chunk => do
    let (count, l) ← l.receive chunk
    return (.accepted count, l)
  | .read mode room now => do
    let r ← l.readWith mode room now []
    return (.read r.ending, r.link)
  | .interrupt => return (.done, l.interrupt)
  | .status => return (.snapshot l.queue.snapshot, l)
  | .reset => return (.done, l.reset)

def Operation.frames (l : Link) : Operation → List Frame
  | .receive chunk => (l.intake.decoder.feed chunk).1
  | _ => []

/-- The bytes that wait for the user. -/
def queued (l : Link) : Bytes := l.queue.ring.toList

theorem receive_value (l : Link) (chunk : Bytes) :
    (l.receive chunk).value = (l.intake.decoder.accepted chunk,
      { l with
        intake := ⟨(l.intake.decoder.feed chunk).2,
          l.queue.routeAll (l.intake.decoder.feed chunk).1⟩ }) := by
  simp only [receive, Logged.value_bind, Intake.receive_value]
  rfl

/-- A link can be set up if there is memory for its decoder and its queue. -/
theorem create_eq_ok_iff {config : LinkConfig} {transport : Transport} {new : Logged Link} :
    create config transport = .ok new ↔
      config.stagingCapacity.toNat ≤ maxAllocation ∧
        ∃ ring, Ring.allocate config.queueCapacity = .ok ring ∧
          new = do
            Logged.tell (.linkCreated config.stagingCapacity.toNat config.queueCapacity.toNat)
            return ⟨⟨.empty config.stagingCapacity.toNat, .ofRing ring⟩, transport, config.mode,
              config.timeout⟩ := by
  unfold create StagedDecoder.allocate Delivery.allocate
  cases hring : Ring.allocate config.queueCapacity with
  | error cause => simp [Except.map, bind, Except.bind]
  | ok ring =>
      by_cases hfits : config.stagingCapacity.toNat ≤ maxAllocation
      · simp [hfits, Except.map, bind, Except.bind, pure, Except.pure, eq_comm]
      · simp [hfits, Except.map, bind, Except.bind]

/-- A new link has nothing staged, nothing queued and nothing to count. -/
theorem create_ok {config : LinkConfig} {transport : Transport} {created : Logged Link}
    (h : create config transport = .ok created) :
    created.value.intake.decoder = .empty config.stagingCapacity.toNat ∧
      ∃ ring, Ring.allocate config.queueCapacity = .ok ring ∧
        created.value.queue = .ofRing ring := by
  obtain ⟨-, ring, hring, rfl⟩ := create_eq_ok_iff.1 h
  exact ⟨rfl, ring, hring, rfl⟩

end Link

/-- A link and what was seen of it. -/
structure Course where
  link : Link
  decoded : List Frame
  /-- The bytes that went into the queue for them. -/
  offered : Bytes
  delivered : Bytes
  /-- The bytes that waited when the link was reset. -/
  drained : Bytes

namespace Course

def start (link : Link) : Course := ⟨link, [], [], [], []⟩

/-- One operation, seen. -/
def step (c : Course) (op : Link.Operation) : Course :=
  let r := (c.link.perform op).value
  let frames := op.frames c.link
  { link := r.2
    decoded := c.decoded ++ frames
    offered := c.offered ++ c.link.queue.offered frames
    delivered := c.delivered ++ r.1.bytes
    drained := match op with
      | .reset => c.drained ++ c.link.queued
      | _ => c.drained }

def run (c : Course) (ops : List Link.Operation) : Course := ops.foldl step c

theorem step_receive (c : Course) (chunk : Bytes) :
    c.step (.receive chunk) =
      let fed := c.link.intake.decoder.feed chunk
      { c with
        link := { c.link with intake := ⟨fed.2, c.link.queue.routeAll fed.1⟩ }
        decoded := c.decoded ++ fed.1
        offered := c.offered ++ c.link.queue.offered fed.1 } := by
  simp only [step, Link.perform, Logged.value_bind, Logged.value_pure, Link.receive_value,
    Link.Operation.frames, Link.Answer.bytes, List.append_nil]

theorem step_read (c : Course) (mode : ReadMode) (room : Nat) (now : Instant) :
    c.step (.read mode room now) =
      let r := (c.link.queue.readAmid room mode c.link.timeout now []).value
      { c with link := c.link.withQueue r.2.1, delivered := c.delivered ++ r.1.bytes } := by
  simp only [step, Link.perform, Link.readWith, Logged.value_bind, Logged.value_pure,
    Link.Operation.frames, Link.Answer.bytes, Delivery.offered, List.append_nil]

theorem step_interrupt (c : Course) :
    c.step .interrupt = { c with link := c.link.interrupt } := by
  simp only [step, Link.perform, Logged.value_pure, Link.Operation.frames, Link.Answer.bytes,
    Delivery.offered, List.append_nil]

theorem step_status (c : Course) : c.step .status = c := by
  simp only [step, Link.perform, Logged.value_pure, Link.Operation.frames, Link.Answer.bytes,
    Delivery.offered, List.append_nil]

theorem step_reset (c : Course) :
    c.step .reset = { c with link := c.link.reset, drained := c.drained ++ c.link.queued } := by
  simp only [step, Link.perform, Logged.value_pure, Link.Operation.frames, Link.Answer.bytes,
    Delivery.offered, List.append_nil]

/-! ## The invariant -/

/-- A link whose decoder has this capacity, and the ledger of its queue. -/
structure Holds (capacity : Nat) (l : Ledger) (c : Course) : Prop where
  capacity : c.link.intake.decoder.capacity = capacity
  offered : c.offered = forwarded c.decoded
  follows : c.link.queue.Follows c.decoded c.delivered c.drained l

theorem holds_start {config : LinkConfig} {transport : Transport} {created : Logged Link}
    (h : Link.create config transport = .ok created) :
    Holds config.stagingCapacity.toNat .opening (start created.value) := by
  obtain ⟨hdecoder, ring, hring, hqueue⟩ := Link.create_ok h
  have hempty := Ring.toList_allocate hring
  refine ⟨?_, rfl, ?_, ?_⟩
  · rw [start, hdecoder]
    rfl
  · exact .opening (by rw [start, hqueue]; exact hempty) (by rw [start, hqueue]; rfl)
  · rw [start, hqueue]
    rfl

variable {capacity : Nat} {l : Ledger} {c : Course}

theorem Holds.step (h : Holds capacity l c) (op : Link.Operation) :
    ∃ l', Holds capacity l' (c.step op) := by
  obtain ⟨hcapacity, hoffered, hfollows⟩ := h
  cases op with
  | receive chunk =>
      -- the frames of the chunk are routed one by one, and the ledger grows with each
      obtain ⟨l', hl'⟩ := hfollows.routeAll (c.link.intake.decoder.feed chunk).1
      rw [step_receive]
      refine ⟨l', ?_, ?_, hl'⟩
      · exact (StagedDecoder.capacity_feed _ _).trans hcapacity
      · show c.offered ++ c.link.queue.offered _ = _
        rw [hoffered, Delivery.offered_eq, ← forwarded_append]
  | read mode room now =>
      rw [step_read]
      have htook := c.link.queue.took_readAmid room mode c.link.timeout now
      exact ⟨_, hcapacity, hoffered, hfollows.balances.took htook,
        htook.snapshot.trans hfollows.snapshot⟩
  | interrupt =>
      rw [step_interrupt]
      exact ⟨l, hcapacity, hoffered, hfollows.balances.interrupt, hfollows.snapshot⟩
  | status =>
      rw [step_status]
      exact ⟨l, hcapacity, hoffered, hfollows⟩
  | reset =>
      rw [step_reset]
      exact ⟨_, hcapacity, hoffered, hfollows.balances.drain, hfollows.snapshot⟩

theorem Holds.run (ops : List Link.Operation) :
    ∀ {l : Ledger} {c : Course}, Holds capacity l c → ∃ l', Holds capacity l' (c.run ops) := by
  induction ops with
  | nil =>
      intro l c h
      exact ⟨l, h⟩
  | cons op ops ih =>
      intro l c h
      obtain ⟨l₁, h₁⟩ := h.step op
      exact ih h₁

/-! ## The law -/

/-- What can be said of a link with a decoder of this capacity, whatever was
done to it. -/
structure Lawful (staging : Nat) (c : Course) : Prop where
  /-- A chunk is accepted as a whole or not at all. -/
  accepted : ∀ chunk : Bytes, (c.link.perform (.receive chunk)).value.1 =
    .accepted (if chunk = [] ∨ staging < c.link.intake.decoder.pending.length + chunk.length
      then 0 else chunk.length)
  /-- The queue was offered the frames that are not state reports. -/
  offered : c.offered = forwarded c.decoded
  /-- Every byte it was offered was delivered, evicted or drained, or waits. -/
  settled : ∃ l : Ledger, l.Balances c.offered c.delivered c.drained c.link.queue
  ordered : (c.delivered ++ c.link.queued).Sublist c.offered
  newest : c.link.queued <:+ c.offered
  cleared : (c.step .reset).link.queued = []
  /-- The status is what the last state report says. -/
  status : (c.link.perform .status).value.1 = .snapshot (latestReport c.decoded)

theorem Holds.lawful (h : Holds capacity l c) : Lawful capacity c := by
  obtain ⟨hcapacity, hoffered, hfollows⟩ := h
  have hbalances := hfollows.balances
  have hqueued : l.queued = c.link.queued := hbalances.queued
  rw [← hoffered] at hbalances
  -- order and suffix are facts about the ledger alone
  constructor
  · intro chunk
    rw [Link.perform, Logged.value_bind, Link.receive_value, StagedDecoder.accepted,
      hcapacity]
    rfl
  · exact hoffered
  · exact ⟨l, hbalances⟩
  · rw [← hbalances.delivered, ← hqueued, ← hbalances.entered]
    exact l.bytes_append_queued_sublist .delivered
  · rw [← hqueued, ← hbalances.entered]
    exact l.queued_suffix
  · rw [step_reset]
    exact Ring.toList_clear _
  · rw [← hfollows.snapshot]
    rfl

end Course

/-- Whatever happens to a link and in whatever order, it accepts chunks whole or
not at all, passes on the frames that are not state reports byte for byte,
loses none of their bytes without counting or dropping it, and shows the last
state report. -/
theorem Link.lawful_of_operations {config : LinkConfig} {transport : Transport}
    {created : Logged Link} (h : Link.create config transport = .ok created)
    (ops : List Link.Operation) :
    ((Course.start created.value).run ops).Lawful config.stagingCapacity.toNat := by
  obtain ⟨l, hl⟩ := (Course.holds_start h).run ops
  exact hl.lawful

/-- A report with a byte too many, a frame that is read in part, one that drives
out some of the rest, an empty chunk and one that does not fit, and another
frame after a reset. -/
theorem Link.lawful_of_small_queue :
    let config : LinkConfig := ⟨32, 10, .nonBlocking, none⟩
    let ops : List Link.Operation :=
      [.receive [0x0D, 0xF0, 0xAD, 0x0B, 4, 0, 3, 0, 5, 7, 9], .read .nonBlocking 4 ⟨0, 0⟩,
        .receive [0x0D, 0xF0, 0xAD, 0x0B, 1, 0, 1, 0, 8], .read .nonBlocking 4 ⟨0, 0⟩,
        .receive [], .receive [0x0D, 0xF0, 0xAD, 0x0B, 2, 0, 0, 0], .status,
        .receive (List.replicate 33 0), .interrupt, .reset, .read .blocking 4 ⟨0, 0⟩,
        .receive [0x0D, 0xF0, 0xAD, 0x0B, 3, 0, 0, 0]]
    ∃ created, Link.create config (.ofScript []) = .ok created ∧
      let c := (Course.start created.value).run ops
      c.Lawful 32 ∧ c.offered.length = 25 ∧ c.delivered = [0x0D, 0xF0, 0xAD, 0x0B] ∧
        c.link.queue.evicted = 3 ∧
        c.drained = [0, 8, 0x0D, 0xF0, 0xAD, 0x0B, 2, 0, 0, 0] ∧
        c.link.queued = [0x0D, 0xF0, 0xAD, 0x0B, 3, 0, 0, 0] := by
  intro config ops
  have hcreate : Link.create config (.ofScript []) = .ok _ := rfl
  exact ⟨_, hcreate, Link.lawful_of_operations hcreate ops, by decide +kernel⟩

end FramedSerial
