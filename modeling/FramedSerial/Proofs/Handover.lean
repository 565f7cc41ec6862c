import FramedSerial.Link.Transmit

/-!
# A message is handed over once and as it is

A short message goes out from the front of a block of fixed size, a long one
from a block of its own. Nobody is to notice: the transport is handed the
message, once, whatever its length, and the sender is told what the transport
said. A slip at the edge of the block, or the block itself going out with its
zeros, would show in the request, so `Sending.Plain` names the request of every
single call beside the number of calls.

A transport changes with every call, so each message of a run is kept with the
transport it found. What the transport has seen in the end is a sum over the
messages.
-/

namespace FramedSerial

/-- A message, the transport it found, and what came of sending it. -/
structure Sending where
  data : Bytes
  before : Transport
  result : Except LinkError Nat
  after : Transport
  events : List Event

namespace Sending

/-- Send a message and keep what came of it. -/
def ofMessage (t : Transport) (data : Bytes) : Sending :=
  let sent := t.transmit data
  ⟨data, t, sent.value.1, sent.value.2, sent.events⟩

/-- What the transport says to a write of just these bytes. -/
def wrote (x : Sending) : Except IoError Nat := (x.before.write x.data).1

/-- What it says to a flush after that. -/
def flushed (x : Sending) : Except IoError Unit := (x.before.write x.data).2.flush.1

/-- The message has bytes, so it is written. -/
def isWritten (x : Sending) : Bool := !x.data.isEmpty

/-- The write succeeds, so it is flushed. -/
def isFlushed (x : Sending) : Bool := x.isWritten && x.wrote.isOk

/-- The bytes that the transport took, whether it could be flushed or not. -/
def taken (x : Sending) : Bytes :=
  if x.isWritten then x.data.take (x.wrote.toOption.getD 0) else []

/-- The message went to the transport as if there were no block in between. -/
structure Plain (x : Sending) : Prop where
  /-- A message without bytes does not get as far as the transport. -/
  nothing : x.data = [] → x.result = .ok 0 ∧ x.after = x.before
  /-- Any other is written once, and nothing else is. -/
  request : x.data ≠ [] → x.after.calls = x.before.calls + 1 ∧ x.after.lastRequest = some x.data
  flushes : x.after.flushes = x.before.flushes + x.isFlushed.toNat
  count : x.data ≠ [] → ∀ n : Nat, x.result = .ok n ↔ x.wrote = .ok n ∧ x.flushed = .ok ()
  /-- The error of the step that failed, as it is. -/
  failure : x.data ≠ [] → ∀ e : LinkError, x.result = .error e ↔
    ∃ cause, e = .transport cause ∧
      (x.wrote = .error cause ∨ x.wrote.isOk ∧ x.flushed = .error cause)
  accepted : x.after.accepted = x.before.accepted ++ x.taken
  /-- Only a message that went out is told of, with its own length. -/
  told : x.events = match x.result with
    | .ok n => if x.isWritten then [.transmitted x.data.length n] else []
    | .error _ => []

end Sending

namespace Transport

/-! ## One message -/

theorem calls_write (t : Transport) (data : Bytes) :
    (t.write data).2.calls = t.calls + 1 ∧ (t.write data).2.lastRequest = some data ∧
      (t.write data).2.flushes = t.flushes := by
  unfold write
  dsimp only
  split <;> exact ⟨rfl, rfl, rfl⟩

theorem accepted_write (t : Transport) (data : Bytes) :
    (t.write data).2.accepted =
      t.accepted ++ data.take ((t.write data).1.toOption.getD 0) := by
  unfold write
  dsimp only
  split
  · rfl
  · rfl
  · show t.accepted = t.accepted ++ data.take 0
    rw [List.take_zero, List.append_nil]

theorem flush_after (t : Transport) :
    t.flush.2 = { t with flushes := t.flushes + 1, flushFailure := none } := by
  unfold flush
  dsimp only
  split
  · next h => rw [h]
  · rfl

/-- Sending is a write of the message and a flush, whichever block it is copied
to. -/
theorem transmit_of_ne_nil {t : Transport} {data : Bytes} (h : data ≠ []) :
    t.transmit data =
      match (t.write data).1 with
      | .error cause => ⟨(.error (.transport cause), (t.write data).2), []⟩
      | .ok n =>
        match (t.write data).2.flush.1 with
        | .error cause => ⟨(.error (.transport cause), (t.write data).2.flush.2), []⟩
        | .ok () => ⟨(.ok n, (t.write data).2.flush.2), [.transmitted data.length n]⟩ := by
  have hempty : ¬ data.isEmpty = true := by simpa using h
  unfold transmit
  rw [if_neg hempty, staged_eq]
  dsimp only
  rcases t.write data with ⟨cause | n, t₁⟩
  · rfl
  · dsimp only
    rcases t₁.flush with ⟨cause | ⟨⟩, t₂⟩
    · rfl
    · rfl

end Transport

namespace Sending

variable {x : Sending} {cause : IoError} {n : Nat}

theorem isWritten_of_ne_nil (h : x.data ≠ []) : x.isWritten = true := by
  simpa [isWritten] using h

/-- The write fails, and nothing is flushed. -/
theorem plain_of_refused (h : x.data ≠ []) (hwrote : x.wrote = .error cause)
    (hresult : x.result = .error (.transport cause))
    (hafter : x.after = (x.before.write x.data).2) (hevents : x.events = []) : x.Plain := by
  have hwritten := isWritten_of_ne_nil h
  obtain ⟨hcalls, hrequest, hflushes⟩ := x.before.calls_write x.data
  rw [← hafter] at hcalls hrequest hflushes
  constructor
  · exact fun hnil => absurd hnil h
  · exact fun _ => ⟨hcalls, hrequest⟩
  · rw [hflushes, isFlushed, hwrote, hwritten]
    rfl
  · intro _ k
    rw [hresult, hwrote]
    simp
  · intro _ e
    rw [hresult, hwrote]
    simp [Except.isOk, Except.toBool, eq_comm]
  · rw [hafter, taken, if_pos hwritten]
    exact x.before.accepted_write x.data
  · rw [hresult, hevents]

/-- The write succeeds, and what the flush comes to is the last word. -/
theorem plain_of_taken (h : x.data ≠ []) (hwrote : x.wrote = .ok n)
    (hresult : x.result = match x.flushed with
      | .ok () => .ok n
      | .error cause => .error (.transport cause))
    (hafter : x.after = (x.before.write x.data).2.flush.2)
    (hevents : x.events = match x.flushed with
      | .ok () => [.transmitted x.data.length n]
      | .error _ => []) : x.Plain := by
  have hwritten := isWritten_of_ne_nil h
  obtain ⟨hcalls, hrequest, hflushes⟩ := x.before.calls_write x.data
  rw [Transport.flush_after] at hafter
  constructor
  · exact fun hnil => absurd hnil h
  · rw [hafter]
    exact fun _ => ⟨hcalls, hrequest⟩
  · rw [hafter, isFlushed, hwrote, hwritten, hflushes]
    rfl
  · intro _ k
    rw [hresult, hwrote]
    cases x.flushed <;> simp
  · intro _ e
    rw [hresult, hwrote]
    cases x.flushed <;> simp [Except.isOk, Except.toBool, eq_comm]
  · rw [hafter, taken, if_pos hwritten]
    exact x.before.accepted_write x.data
  · rw [hresult, hevents, hwritten]
    cases x.flushed <;> rfl

theorem plain_of_nil (t : Transport) : (ofMessage t []).Plain := by
  constructor
  · exact fun _ => ⟨rfl, rfl⟩
  · exact fun h => absurd rfl h
  · rfl
  · exact fun h => absurd rfl h
  · exact fun h => absurd rfl h
  · exact (List.append_nil _).symm
  · rfl

/-- Whatever the message and the transport, the block in between is not to be
noticed. -/
theorem plain_ofMessage (t : Transport) (data : Bytes) : (ofMessage t data).Plain := by
  by_cases h : data = []
  · rw [h]
    exact plain_of_nil t
  · have hsent := Transport.transmit_of_ne_nil (t := t) h
    cases hwrote : (t.write data).1 with
    | error cause =>
        simp only [hwrote] at hsent
        refine plain_of_refused (x := ofMessage t data) h hwrote ?_ ?_ ?_
        · rw [ofMessage, hsent]
        · rw [ofMessage, hsent]
        · rw [ofMessage, hsent]
    | ok n =>
        simp only [hwrote] at hsent
        cases hflushed : (t.write data).2.flush.1 with
        | error cause =>
            simp only [hflushed] at hsent
            refine plain_of_taken (x := ofMessage t data) h hwrote ?_ ?_ ?_
            · rw [ofMessage, hsent, flushed, hflushed]
            · rw [ofMessage, hsent]
            · rw [ofMessage, hsent, flushed, hflushed]
        | ok _ =>
            simp only [hflushed] at hsent
            refine plain_of_taken (x := ofMessage t data) h hwrote ?_ ?_ ?_
            · rw [ofMessage, hsent, flushed, hflushed]
            · rw [ofMessage, hsent]
            · rw [ofMessage, hsent, flushed, hflushed]

end Sending

/-! ## A run of messages -/

namespace Transport

/-- Send messages one after another, whatever becomes of each. -/
def sendAll (t : Transport) : List Bytes → List Sending × Transport
  | [] => ([], t)
  | data :: later =>
    let first := Sending.ofMessage t data
    let more := first.after.sendAll later
    (first :: more.1, more.2)

/-- Each message finds the transport that the one before it left behind. -/
def Linked (t : Transport) : List Sending → Transport → Prop
  | [], t' => t' = t
  | x :: later, t' => x.before = t ∧ x.after.Linked later t'

/-- Between the two the transport has seen these messages, and nothing else. -/
structure Saw (t t' : Transport) (sendings : List Sending) : Prop where
  calls : t'.calls = t.calls + sendings.countP Sending.isWritten
  flushes : t'.flushes = t.flushes + sendings.countP Sending.isFlushed
  accepted : t'.accepted = t.accepted ++ sendings.flatMap Sending.taken

theorem Saw.cons {x : Sending} {t' : Transport} {later : List Sending} (hx : x.Plain)
    (h : x.after.Saw t' later) : x.before.Saw t' (x :: later) := by
  constructor
  · rw [h.calls, List.countP_cons]
    by_cases hdata : x.data = []
    · have hunwritten : x.isWritten = false := by simp [Sending.isWritten, hdata]
      rw [(hx.nothing hdata).2, hunwritten]
      rfl
    · rw [(hx.request hdata).1, Sending.isWritten_of_ne_nil hdata, if_pos rfl]
      omega
  · rw [h.flushes, hx.flushes, List.countP_cons]
    cases x.isFlushed <;> simp [Nat.add_comm, Nat.add_left_comm]
  · rw [h.accepted, hx.accepted, List.flatMap_cons, List.append_assoc]

theorem saw_of_linked {t' : Transport} {sendings : List Sending} :
    ∀ {t : Transport}, t.Linked sendings t' → (∀ x ∈ sendings, x.Plain) →
      t.Saw t' sendings := by
  induction sendings with
  | nil =>
      rintro t rfl -
      exact ⟨rfl, rfl, (List.append_nil _).symm⟩
  | cons x later ih =>
      rintro t ⟨rfl, hlinked⟩ hplain
      obtain ⟨hx, hlater⟩ := List.forall_mem_cons.1 hplain
      exact .cons hx (ih hlinked hlater)

theorem linked_sendAll (messages : List Bytes) :
    ∀ t : Transport, t.Linked (t.sendAll messages).1 (t.sendAll messages).2 ∧
      (t.sendAll messages).1.map Sending.data = messages ∧
      ∀ x ∈ (t.sendAll messages).1, x.Plain := by
  induction messages with
  | nil => exact fun t => ⟨rfl, rfl, List.forall_mem_nil _⟩
  | cons data later ih =>
      intro t
      obtain ⟨hlinked, hdata, hplain⟩ := ih (Sending.ofMessage t data).after
      exact ⟨⟨rfl, hlinked⟩, congrArg (data :: ·) hdata,
        List.forall_mem_cons.2 ⟨Sending.plain_ofMessage t data, hplain⟩⟩

/-- Whatever messages are sent and whatever the transport does, each message is
handed over by itself, once and as it is, and its sender is told what the
transport said. In the end the transport has seen the messages that have bytes,
and has taken what it said it took of each, in order. -/
theorem plain_of_sendAll (t : Transport) (messages : List Bytes) :
    let (sendings, t') := t.sendAll messages
    sendings.map Sending.data = messages ∧ t.Linked sendings t' ∧
      (∀ x ∈ sendings, x.Plain) ∧ t.Saw t' sendings := by
  obtain ⟨hlinked, hdata, hplain⟩ := linked_sendAll messages t
  exact ⟨hdata, hlinked, hplain, saw_of_linked hlinked hplain⟩

/-- Messages around the size of the block: one that just fits and is taken in
part, one that just does not and cannot be flushed, one without bytes, one that
is refused, and one that finds nothing in its way. -/
theorem plain_of_sendAll_around_the_block :
    let replies : List Reply := [.accept (some 2) none,
      .accept (some 3) (some (.bare .brokenPipe)), .refuse (.bare .interrupted)]
    let messages : List Bytes :=
      [List.replicate 128 7, List.replicate 129 8, [], [9], [10, 11]]
    let (sendings, t') := (Transport.ofScript replies).sendAll messages
    (∀ x ∈ sendings, x.Plain) ∧
      sendings.map (fun x => x.result.toOption) = [some 2, none, some 0, none, some 2] ∧
      sendings.map (fun x => x.after.lastRequest.map List.length) =
        [some 128, some 129, some 129, some 1, some 2] ∧
      t'.calls = 4 ∧ t'.flushes = 3 ∧ t'.accepted = [7, 7, 8, 8, 8, 10, 11] := by
  intro replies messages
  obtain ⟨-, -, hplain, -⟩ := plain_of_sendAll (.ofScript replies) messages
  exact ⟨hplain, by decide +kernel⟩

end Transport

end FramedSerial
