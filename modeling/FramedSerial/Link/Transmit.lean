import FramedSerial.Event

/-!
# From the user out to the line

A transport is whatever takes bytes on their way to the line. It may take fewer than it is
handed, refuse them, or fail when it is flushed; its script says which, one reply to each
write, and with no reply left it takes everything.

A message goes out in one write of exactly its bytes and one flush. What the transport is
handed is a copy: a short message is copied to the front of a block of fixed size, a long one
to a block of its own size.
-/

namespace FramedSerial

/-- What a transport does with one write. -/
inductive Reply where
  /-- It takes the bytes, up to a limit if there is one; the next flush may fail. -/
  | accept (limit : Option Nat) (flushFailure : Option IoError)
  /-- It fails. -/
  | refuse (cause : IoError)

/-- A transport with a script of replies, and what it has seen so far. -/
structure Transport where
  script : List Reply
  /-- The next flush fails with this. -/
  flushFailure : Option IoError
  calls : Nat
  flushes : Nat
  lastRequest : Option Bytes
  accepted : Bytes

namespace Transport

/-- A transport that follows a script. -/
def ofScript (script : List Reply) : Transport := ⟨script, none, 0, 0, none, []⟩

/-- Hand bytes to the transport once, and say how many it took. -/
def write (t : Transport) (data : Bytes) : Except IoError Nat × Transport :=
  let t := { t with calls := t.calls + 1, lastRequest := some data }
  let take := fun (t : Transport) (limit : Option Nat) =>
    let count := min (limit.getD data.length) data.length
    (.ok count, { t with accepted := t.accepted ++ data.take count })
  match t.script with
  | [] => take t none
  | .accept limit flushFailure :: script =>
    take { t with script, flushFailure := flushFailure.or t.flushFailure } limit
  | .refuse cause :: script => (.error cause, { t with script })

/-- Flush the transport. -/
def flush (t : Transport) : Except IoError Unit × Transport :=
  let t := { t with flushes := t.flushes + 1 }
  match t.flushFailure with
  | none => (.ok (), t)
  | some cause => (.error cause, { t with flushFailure := none })

/-- The size of the block that short messages are copied to. -/
def shortBlock : Nat := 128

/-- The copy of a message that the transport is handed: the front of a block of fixed size
for a short message, a block of its own for a long one. -/
def staged (data : Bytes) : Bytes :=
  if data.length ≤ shortBlock then
    (data ++ List.replicate (shortBlock - data.length) 0).take data.length
  else data

@[simp] theorem staged_eq (data : Bytes) : staged data = data := by
  unfold staged
  split <;> simp

/-- Send a message: one write and, if it succeeds, one flush. The transport may have taken
only part of it. Nothing is done for an empty message. -/
def transmit (t : Transport) (data : Bytes) : Logged (Except LinkError Nat × Transport) :=
  if data.isEmpty then return (.ok 0, t)
  else
    let request := staged data
    match t.write request with
    | (.error cause, t) => return (.error (.transport cause), t)
    | (.ok written, t) =>
      match t.flush with
      | (.error cause, t) => return (.error (.transport cause), t)
      | (.ok (), t) => do
        Logged.tell (.transmitted request.length written)
        return (.ok written, t)

/-! ## Sending all of a message

A writer that insists goes on with what was not taken. It ends because a transport that
fails without end is none: every failure uses up a reply or a pending flush failure. -/

/-- The failures a transport still has in store, at most. -/
def budget (t : Transport) : Nat := t.script.length + t.flushFailure.toList.length

theorem budget_write (t : Transport) (data : Bytes) :
    (t.write data).2.budget ≤ t.budget
      ∧ (∀ cause, (t.write data).1 = .error cause → (t.write data).2.budget < t.budget) := by
  unfold write budget
  dsimp only
  split
  · next h => simp [h]
  · next limit flushFailure script h =>
    cases flushFailure <;> cases t.flushFailure <;> simp [h, Option.or]
  · next cause script h => simp [h]

theorem budget_flush (t : Transport) :
    t.flush.2.budget ≤ t.budget
      ∧ (∀ cause, t.flush.1 = .error cause → t.flush.2.budget < t.budget) := by
  unfold flush budget
  dsimp only
  split
  · next h => simp [h]
  · next cause h => simp [h]

/-- Sending never adds failures, and one that fails uses one up. -/
theorem budget_transmit (t : Transport) (data : Bytes) :
    (t.transmit data).value.2.budget ≤ t.budget
      ∧ (∀ cause, (t.transmit data).value.1 = .error cause →
          (t.transmit data).value.2.budget < t.budget) := by
  unfold transmit
  split
  · simp
  · dsimp only
    have hw := budget_write t (staged data)
    split
    · next cause t₁ h =>
      rw [h] at hw
      exact ⟨hw.1, fun _ _ => hw.2 cause rfl⟩
    · next written t₁ h =>
      rw [h] at hw
      have hf := budget_flush t₁
      split
      · next cause t₂ h₂ =>
        rw [h₂] at hf
        have := hf.2 cause rfl
        have := hw.1
        simp only [Logged.value_pure] at *
        exact ⟨by omega, fun _ _ => by omega⟩
      · next t₂ h₂ =>
        rw [h₂] at hf
        simp only [Logged.value_bind, Logged.value_pure] at *
        exact ⟨by omega, fun _ h => by cases h⟩

/-- Send a message and go on with what was not taken, as a standard writer does: a write that
was interrupted is tried again, and one that takes nothing is an error. -/
def writeAll (t : Transport) (data : Bytes) : Logged (Except IoError Unit × Transport) :=
  if _hd : data = [] then return (.ok (), t)
  else
    match _h : (t.transmit data).value with
    | (.ok written, t') =>
      if _hw : written = 0 then
        ⟨(.error (.custom .writeZero "failed to write whole buffer"), t'),
          (t.transmit data).events⟩
      else
        let more := writeAll t' (data.drop written)
        ⟨more.value, (t.transmit data).events ++ more.events⟩
    | (.error cause, t') =>
      if cause.toIo.kind = .interrupted then
        let more := writeAll t' data
        ⟨more.value, (t.transmit data).events ++ more.events⟩
      else ⟨(.error cause.toIo, t'), (t.transmit data).events⟩
termination_by t.budget + data.length
decreasing_by
  · have hb := (budget_transmit t data).1
    rw [_h] at hb
    have := List.length_pos_iff.2 _hd
    simp only [List.length_drop] at *
    omega
  · have hb := (budget_transmit t data).2 cause (by rw [_h])
    rw [_h] at hb
    simp only at hb
    omega

/-- Send messages one after the other until one fails. -/
def writeEach (t : Transport) : List Bytes → Logged (Except IoError Unit × Transport)
  | [] => return (.ok (), t)
  | data :: later => do
    let (result, t) ← t.writeAll data
    match result with
    | .ok () => writeEach t later
    | .error cause => return (.error cause, t)

end Transport

end FramedSerial
