import FramedSerial.Link.Intake

/-!
# Pumping is receiving, chunk after chunk

A pump reads a line and looks between two reads whether it was told to stop. Of
all that may come of a read only data matter to the decoder and to the queue:
the pump leaves them where `receive` would, had it been handed the chunks one
after another. A read that brings nothing for the moment might as well not have
been made.

Which chunks these are is a question about the line and the flag, not about the
decoder, so it is answered on the list of turns alone. The flag decides first.
It is looked at before a read and not after it, so the read during which it
falls still counts (`heard`). Of these turns the pump takes those before the
first that ends the line or shows it broken (`chunks`), and that turn, if there
is one, says how it ends (`verdict`).
-/

namespace FramedSerial

/-- The kinds of errors that say nothing about the line. -/
def passingKinds : List IoErrorKind := [.wouldBlock, .interrupted, .timedOut]

namespace LineTurn

/-- The line may have more to say after this. -/
def goesOn (t : LineTurn) : Bool :=
  match t.outcome with
  | .ok bytes => !bytes.isEmpty
  | .error e => e.kind ∈ passingKinds

def chunk? (t : LineTurn) : Option Bytes := t.outcome.toOption

end LineTurn

namespace Intake

/-- Receive chunks one after another. -/
def receiveAll (i : Intake) (chunks : List Bytes) : Intake :=
  chunks.foldl (fun i chunk => (i.receive chunk).value.2) i

/-- The turns before the first look at the flag that finds it fallen. -/
def heard : Bool → List LineTurn → List LineTurn
  | false, _ => []
  | true, [] => []
  | true, t :: later => t :: heard (!t.stops) later

/-- The data that come before anything ends the pump. -/
def chunks (running : Bool) (turns : List LineTurn) : List Bytes :=
  ((heard running turns).takeWhile LineTurn.goesOn).filterMap LineTurn.chunk?

/-- The turn that ends the pump, unless it is the flag. -/
def ending? (running : Bool) (turns : List LineTurn) : Option LineTurn :=
  (heard running turns).find? fun t => !t.goesOn

/-- What a pump returns that has read so many bytes. -/
def verdict (ending? : Option LineTurn) (count : Nat) : Except LinkError Nat :=
  match ending? with
  | some ⟨_, .error e⟩ => .error (.transport e)
  | _ => .ok count

theorem isPassing_iff (e : IoError) : isPassing e = true ↔ e.kind ∈ passingKinds := by
  simp only [isPassing, passingKinds, Bool.or_eq_true, beq_iff_eq, or_assoc, List.mem_cons,
    List.not_mem_nil, or_false]

theorem receiveAll_append (i : Intake) (cs ds : List Bytes) :
    i.receiveAll (cs ++ ds) = (i.receiveAll cs).receiveAll ds :=
  List.foldl_append

/-! ## The first turn -/

variable {t : LineTurn} {later : List LineTurn}

@[simp] theorem chunks_false (turns : List LineTurn) : chunks false turns = [] := by
  cases turns <;> rfl

@[simp] theorem ending?_false (turns : List LineTurn) : ending? false turns = none := by
  cases turns <;> rfl

theorem chunks_of_goesOn (h : t.goesOn = true) :
    chunks true (t :: later) = t.chunk?.toList ++ chunks (!t.stops) later := by
  unfold chunks
  rw [heard, List.takeWhile_cons_of_pos h, List.filterMap_cons]
  cases t.chunk? <;> rfl

theorem chunks_of_ends (h : t.goesOn = false) : chunks true (t :: later) = [] := by
  unfold chunks
  rw [heard, List.takeWhile_cons_of_neg (by simp [h]), List.filterMap_nil]

theorem ending?_of_goesOn (h : t.goesOn = true) :
    ending? true (t :: later) = ending? (!t.stops) later := by
  unfold ending?
  rw [heard, List.find?_cons_of_neg (by simp [h])]

theorem ending?_of_ends (h : t.goesOn = false) : ending? true (t :: later) = some t := by
  unfold ending?
  rw [heard, List.find?_cons_of_pos (by simp [h])]

/-- A turn after which the pump goes on is received, if there is anything to
receive. -/
theorem meet_of_goesOn (h : t.goesOn = true) (i : Intake) :
    (i.meet t.outcome).value =
      (.flowing (t.chunk?.toList.flatten.length), i.receiveAll t.chunk?.toList) := by
  obtain ⟨stops, outcome⟩ := t
  cases outcome with
  | error e =>
      have hpassing : isPassing e = true := (isPassing_iff e).2 (of_decide_eq_true h)
      rw [meet, if_pos hpassing]
      rfl
  | ok bytes =>
      cases bytes with
      | nil => cases h
      | cons b bs =>
          show _ = (LineState.flowing [b :: bs].flatten.length, (i.receive (b :: bs)).value.2)
          rw [List.flatten_singleton]
          rfl

theorem pumpFrom_of_goesOn (h : t.goesOn = true) (total reads : Nat) (i : Intake) :
    (pumpFrom true total reads i (t :: later)).value =
      (pumpFrom (!t.stops) (total + t.chunk?.toList.flatten.length) (reads + 1)
        (i.receiveAll t.chunk?.toList) later).value := by
  simp only [pumpFrom, if_true, Logged.value_bind, meet_of_goesOn h]

theorem pumpFrom_of_ends (h : t.goesOn = false) (total reads : Nat) (i : Intake) :
    let p := (pumpFrom true total reads i (t :: later)).value
    p.intake = i ∧ p.result = verdict (some t) total := by
  obtain ⟨stops, outcome⟩ := t
  cases outcome with
  | error e =>
      have hfailed : isPassing e = false := by
        rw [Bool.eq_false_iff, Ne, isPassing_iff]
        exact of_decide_eq_false h
      simp [pumpFrom, meet, hfailed, verdict]
  | ok bytes =>
      cases bytes with
      | nil => exact ⟨rfl, rfl⟩
      | cons b bs => cases h

/-! ## All turns -/

theorem pumpFrom_value (turns : List LineTurn) :
    ∀ (running : Bool) (total reads : Nat) (i : Intake),
      let p := (pumpFrom running total reads i turns).value
      p.intake = i.receiveAll (chunks running turns) ∧
        p.result =
          verdict (ending? running turns) (total + (chunks running turns).flatten.length) := by
  induction turns with
  | nil =>
      intro running total reads i
      cases running <;> exact ⟨rfl, rfl⟩
  | cons t later ih =>
      intro running total reads i
      cases running with
      | false => exact ⟨rfl, rfl⟩
      | true =>
          cases h : t.goesOn with
          | false =>
              rw [chunks_of_ends h, ending?_of_ends h]
              exact pumpFrom_of_ends h total reads i
          | true =>
              obtain ⟨hintake, hresult⟩ := ih (!t.stops)
                (total + t.chunk?.toList.flatten.length) (reads + 1)
                (i.receiveAll t.chunk?.toList)
              rw [pumpFrom_of_goesOn h, chunks_of_goesOn h, ending?_of_goesOn h,
                receiveAll_append, List.flatten_append, List.length_append, ← Nat.add_assoc]
              exact ⟨hintake, hresult⟩

/-- A read that comes back empty-handed changes neither what is received nor how
it ends. -/
theorem insert_passing {e : IoError} (he : e.kind ∈ passingKinds) (before after : List LineTurn) :
    ∀ running : Bool,
      chunks running (before ++ ⟨false, .error e⟩ :: after) = chunks running (before ++ after) ∧
        ending? running (before ++ ⟨false, .error e⟩ :: after) =
          ending? running (before ++ after) := by
  have hpasses : (⟨false, .error e⟩ : LineTurn).goesOn = true := decide_eq_true he
  induction before with
  | nil =>
      intro running
      cases running with
      | false => simp
      | true => exact ⟨chunks_of_goesOn hpasses, ending?_of_goesOn hpasses⟩
  | cons t before ih =>
      intro running
      cases running with
      | false => simp
      | true =>
          obtain ⟨hchunks, hending⟩ := ih (!t.stops)
          rw [List.cons_append, List.cons_append]
          cases h : t.goesOn with
          | false =>
              rw [chunks_of_ends h, chunks_of_ends h, ending?_of_ends h, ending?_of_ends h]
              exact ⟨rfl, rfl⟩
          | true =>
              rw [chunks_of_goesOn h, chunks_of_goesOn h, ending?_of_goesOn h,
                ending?_of_goesOn h, hchunks, hending]
              exact ⟨rfl, rfl⟩

/-- A pump leaves the decoder and the queue as receiving the chunks would that
come before the line ends, fails, or the flag is seen to have fallen. It returns
how many bytes that were, or the error that ended it; and a read that would
block, was interrupted or ran out of time might as well not have been made. -/
theorem pump_eq_receiveAll (i : Intake) (running : Bool) (turns : List LineTurn) :
    let p := (i.pump running turns).value
    p.intake = i.receiveAll (chunks running turns) ∧
      p.result = verdict (ending? running turns) ((chunks running turns).flatten.length) ∧
      ∀ (e : IoError) (before after : List LineTurn),
        e.kind ∈ passingKinds → turns = before ++ after →
        let p' := (i.pump running (before ++ ⟨false, .error e⟩ :: after)).value
        p'.intake = p.intake ∧ p'.result = p.result := by
  obtain ⟨hintake, hresult⟩ := pumpFrom_value turns running 0 0 i
  rw [Nat.zero_add] at hresult
  refine ⟨hintake, hresult, ?_⟩
  rintro e before after he rfl
  obtain ⟨hintake', hresult'⟩ :=
    pumpFrom_value (before ++ ⟨false, .error e⟩ :: after) running 0 0 i
  obtain ⟨hchunks, hending⟩ := insert_passing he before after running
  rw [hchunks, ← hintake] at hintake'
  rw [Nat.zero_add, hchunks, hending, ← hresult] at hresult'
  exact ⟨hintake', hresult'⟩

/-- A line that breaks after a chunk too many for the decoder, with a timeout
between the first two reads or without it; and a flag that falls while the only
chunk that counts is read. -/
theorem pump_eq_receiveAll_of_broken_line :
    let i : Intake := ⟨.empty 16, .ofCapacity 16 (by decide)⟩
    let wire : Bytes := [0x0D, 0xF0, 0xAD, 0x0B, 1, 0, 0, 0]
    let beginning : List LineTurn := [⟨false, .ok [0x0D, 0xF0, 0xAD]⟩]
    let rest : List LineTurn :=
      [⟨false, .ok (List.replicate 14 7)⟩, ⟨false, .ok wire⟩, ⟨false, .error (.system 104)⟩,
        ⟨false, .ok wire⟩]
    let p := (i.pump true (beginning ++ rest)).value
    let p' := (i.pump true (beginning ++ ⟨false, .error (.bare .timedOut)⟩ :: rest)).value
    let stopped := (i.pump true
      [⟨false, .error (.bare .wouldBlock)⟩, ⟨true, .ok wire⟩, ⟨false, .ok wire⟩]).value
    p.intake = i.receiveAll [[0x0D, 0xF0, 0xAD], List.replicate 14 7, wire] ∧
      p.result = .error (.transport (.system 104)) ∧
      p.intake.queue.ring.toList = wire ∧ p.intake.decoder = ⟨16, [], ⟨1, 0, 1⟩⟩ ∧
      p'.intake = p.intake ∧ p'.result = p.result ∧
      stopped.intake = i.receiveAll [wire] ∧ stopped.result = .ok 8 := by
  intro i wire beginning rest p p' stopped
  obtain ⟨hintake, hresult, hpassing⟩ := pump_eq_receiveAll i true (beginning ++ rest)
  obtain ⟨hintake', hresult'⟩ :=
    hpassing (.bare .timedOut) beginning rest (by decide) rfl
  obtain ⟨hstopped, hcounted, -⟩ := pump_eq_receiveAll i true
    [⟨false, .error (.bare .wouldBlock)⟩, ⟨true, .ok wire⟩, ⟨false, .ok wire⟩]
  refine ⟨hintake, hresult, ?_, ?_, hintake', hresult', hstopped, hcounted⟩
  · decide +kernel
  · decide +kernel

end Intake

end FramedSerial
