import FramedSerial.Command.Status
import FramedSerial.Proofs.Interleaving

/-!
# Deadlines that the clock cannot read

Whoever waits no longer than some span turns the span into a moment, once and
before anything else is looked at. A clock reads no moments after its last one,
and spans are long enough to reach beyond it from almost anywhere. That is the
one thing that can go wrong with a bounded wait: a span from now on that
outlasts the clock is a crash, even where nobody would have waited, and any
other span leads to one of the ends that the wait is known to have.

What the clock can read is said in nanoseconds, where the sum of a reading and a
span is exact.
-/

namespace FramedSerial

/-- A span in nanoseconds. -/
def Duration.total (d : Duration) : Int := d.seconds.toNat * 1000000000 + d.nanos

namespace Instant

/-- A reading in nanoseconds. -/
def total (t : Instant) : Int := t.seconds * 1000000000 + t.nanos

/-- The last reading of the clock, in nanoseconds. -/
def lastTotal : Int := maxSeconds * 1000000000 + 999999999

end Instant

/-- The span that starts now is not over at the last reading of the clock. -/
def Duration.Outlasts (d : Duration) (now : Instant) : Prop :=
  Instant.lastTotal < now.total + d.total

instance (d : Duration) (now : Instant) : Decidable (d.Outlasts now) :=
  inferInstanceAs (Decidable (_ < _))

namespace Instant

variable {t : Instant} {d : Duration}

/-- A sum is no reading if the exact sum is after the last reading. -/
theorem add?_eq_none_iff : t.add? d = none ↔ d.Outlasts t := by
  unfold add? Duration.Outlasts lastTotal total Duration.total
  dsimp only
  split
  · next hle =>
      refine iff_of_false (by simp) ?_
      omega
  · next hgt =>
      refine iff_of_true rfl ?_
      omega

theorem le_refl (t : Instant) : t.le t = true := by
  simp [le]

end Instant

/-! ## Reads -/

namespace Delivery

/-- How a read may end. It waits for ever only if it is told to wait and not for
how long. -/
inductive Declared (mode : ReadMode) (timeout : Option Duration) : ReadEnd → Prop where
  | bytes {bs : Bytes} (some : bs ≠ []) : Declared mode timeout (.returned (.ok bs))
  | wouldBlock (waits : mode = .nonBlocking) :
      Declared mode timeout (.returned (.error .wouldBlock))
  | interrupted (waits : mode = .blocking) :
      Declared mode timeout (.returned (.error .interrupted))
  | timedOut {allowed : Duration} (waits : mode = .blocking) (bounded : timeout = some allowed) :
      Declared mode timeout (.returned (.error (.timedOut allowed)))
  | waiting (waits : mode = .blocking) (unbounded : timeout = none) :
      Declared mode timeout .waiting

/-- There is a bound, and the clock runs out before it is reached. -/
def Overruns (timeout : Option Duration) (now : Instant) : Prop :=
  ∃ allowed, timeout = some allowed ∧ allowed.Outlasts now

/-- All that a read can come to. -/
structure ReadEnds (q : Delivery) (room : Nat) (mode : ReadMode) (timeout : Option Duration)
    (now : Instant) (later : List (Instant × Happening)) : Prop where
  /-- A buffer without room is full at once, whatever the deadline is. -/
  skipped : room = 0 →
    (q.readAmid room mode timeout now later).value = (.returned (.ok []), q, later)
  crashed : room ≠ 0 → Overruns timeout now →
    (q.readAmid room mode timeout now later).value = (.crashed .deadlineOverflow, q, later)
  declared : room ≠ 0 → ¬ Overruns timeout now →
    Declared mode timeout (q.readAmid room mode timeout now later).value.1
  /-- A queue that holds bytes is read at once. -/
  bytes : room ≠ 0 → ¬ Overruns timeout now → q.ring.toList ≠ [] →
    ∃ q', q'.ring.toList = q.ring.toList.drop room ∧
      (q.readAmid room mode timeout now later).value =
        (.returned (.ok (q.ring.toList.take room)), q', later)

variable {q : Delivery} {mode : ReadMode} {timeout : Option Duration} {now : Instant}

theorem deadline_eq_error_iff {cause : Crash} :
    deadline timeout now = .error cause ↔ cause = .deadlineOverflow ∧ Overruns timeout now := by
  cases timeout with
  | none =>
      constructor
      · rintro ⟨⟩
      · rintro ⟨-, allowed, ⟨⟩, -⟩
  | some allowed =>
      rw [deadline]
      cases hsum : now.add? allowed with
      | none =>
          have hbeyond := Instant.add?_eq_none_iff.1 hsum
          constructor
          · rintro ⟨⟩
            exact ⟨rfl, allowed, rfl, hbeyond⟩
          · rintro ⟨rfl, -⟩
            rfl
      | some time =>
          constructor
          · rintro ⟨⟩
          · rintro ⟨-, allowed', hsome, hbeyond⟩
            cases hsome
            rw [Instant.add?_eq_none_iff.2 hbeyond] at hsum
            cases hsum

theorem timeout_of_deadline {d? : Option Deadline} (h : deadline timeout now = .ok d?) :
    timeout = d?.map Deadline.allowed := by
  cases timeout with
  | none =>
      cases h
      rfl
  | some allowed =>
      rw [deadline] at h
      split at h
      · cases h
      · cases h
        rfl

theorem Outcome.declared {call : ReadCall} {result : Except LinkError Bytes} {q' : Delivery}
    (h : Outcome q now call result q') : Declared call.mode call.timeout (.returned result) := by
  cases h with
  | bytes _ _ some _ _ => exact .bytes (List.length_pos_iff.1 some)
  | wouldBlock mode _ => exact .wouldBlock mode
  | interrupted mode _ _ => exact .interrupted mode
  | timedOut mode _ _ hdeadline _ =>
      have hbound := call.deadline_eq
      rw [hdeadline] at hbound
      exact .timedOut mode (timeout_of_deadline hbound)

/-- A reader that sees nothing and has a deadline sees at its deadline that it is
over. -/
theorem turn_at_deadline {call : ReadCall} {d : Deadline} (hd : call.deadline = some d) :
    ∃ r, q.turn call.room call.mode call.deadline d.time = some r := by
  cases hturn : q.turn call.room call.mode call.deadline d.time with
  | some r => exact ⟨r, rfl⟩
  | none =>
      have hahead := (idles_of_turn hturn).ahead d hd
      rw [Instant.le_refl] at hahead
      cases hahead

/-- A reader that is left waiting has no deadline. -/
theorem timeout_of_waiting {call : ReadCall}
    (h : ∀ d, call.deadline = some d →
      q.turn call.room call.mode call.deadline d.time = none) : call.timeout = none := by
  have hbound := timeout_of_deadline call.deadline_eq
  cases hd : call.deadline with
  | none => rwa [hd] at hbound
  | some d =>
      obtain ⟨r, hr⟩ := turn_at_deadline (q := q) hd
      rw [h d hd] at hr
      cases hr

theorem declared_turns (call : ReadCall) (later : List (Instant × Happening)) :
    ∀ (q : Delivery) (now : Instant), Declared call.mode call.timeout
      (q.turns call.room call.mode call.deadline now later).value.1 := by
  refine turns_induction (motive := fun _ r => Declared call.mode call.timeout r.value.1)
    ?settled ?waits ?goesOn later
  case settled =>
    intro q q' time result hturn _
    exact (outcome_of_turn hturn).declared
  case waits =>
    intro q now hturn hlate
    exact .waiting (idles_of_turn hturn).mode (timeout_of_waiting hlate)
  case goesOn =>
    intro q happening more h
    exact h

theorem turns_of_toList {room : Nat} (hne : q.ring.toList ≠ []) (deadline : Option Deadline)
    (later : List (Instant × Happening)) :
    (q.turns room mode deadline now later).value =
      (.returned (.ok (q.ring.toList.take room)),
        { q with ring := (q.ring.popUpTo room).2 }, later) := by
  have hturn := turn_of_toList (q := q) rfl hne room mode deadline now
  unfold turns
  rw [hturn]
  cases later <;> rfl

theorem readEnds (q : Delivery) (room : Nat) (mode : ReadMode) (timeout : Option Duration)
    (now : Instant) (later : List (Instant × Happening)) :
    q.ReadEnds room mode timeout now later := by
  constructor
  · rintro rfl
    rfl
  · intro hroom hbeyond
    rw [readAmid, if_neg hroom, deadline_eq_error_iff.2 ⟨rfl, hbeyond⟩]
    rfl
  · intro hroom hwithin
    rw [readAmid, if_neg hroom]
    cases hdeadline : deadline timeout now with
    | error cause => exact absurd (deadline_eq_error_iff.1 hdeadline).2 hwithin
    | ok deadline =>
        exact declared_turns
          ⟨room, mode, timeout, now, deadline, Nat.pos_of_ne_zero hroom, hdeadline⟩ later q now
  · intro hroom hwithin hne
    rw [readAmid, if_neg hroom]
    cases hdeadline : deadline timeout now with
    | error cause => exact absurd (deadline_eq_error_iff.1 hdeadline).2 hwithin
    | ok deadline =>
        obtain ⟨-, hrest, -⟩ := q.ring.popUpTo_spec room
        exact ⟨{ q with ring := (q.ring.popUpTo room).2 }, hrest,
          turns_of_toList hne deadline later⟩

end Delivery

/-! ## Waiting for a report -/

theorem Output.printAll_none (outputs : List Output) :
    printAll none outputs = .ok (outputs.flatMap content) := by
  induction outputs with
  | nil => rfl
  | cons o os ih =>
      rw [printAll, ih]
      rfl

/-- Only standard output can make printing fail, and with its own fault. -/
theorem Output.printAll_fault {fault : IoError} {outputs : List Output} {cause : Crash}
    (h : printAll (some fault) outputs = .error cause) : cause = .printFailed fault := by
  induction outputs with
  | nil => cases h
  | cons o os ih =>
      rw [printAll] at h
      cases ho : o.print (some fault) with
      | error crash =>
          rw [ho] at h
          cases h
          cases o with
          | bytes bs => cases ho
          | text s =>
              rw [print] at ho
              split at ho
              · cases ho
              · cases ho
                rfl
      | ok printed =>
          rw [ho] at h
          cases hrest : printAll (some fault) os with
          | error crash =>
              rw [hrest] at h
              cases h
              exact ih hrest
          | ok more =>
              rw [hrest] at h
              cases h

namespace Status

/-- Why a wait for a report may end without one. -/
inductive Unreported (allowed : Duration) (reads : List (Except IoError Bytes)) :
    Failure → Prop where
  | lineClosed (ended : .ok [] ∈ reads) : Unreported allowed reads .lineClosed
  | lineFailed {e : IoError} (failed : .error e ∈ reads) :
      Unreported allowed reads (.io "serial read failed" e)
  | noReport : Unreported allowed reads (.noReport allowed)

theorem Unreported.later {allowed : Duration} {outcome : Except IoError Bytes}
    {reads : List (Except IoError Bytes)} {cause : Failure}
    (h : Unreported allowed reads cause) : Unreported allowed (outcome :: reads) cause := by
  cases h with
  | lineClosed ended => exact .lineClosed (List.mem_cons_of_mem _ ended)
  | lineFailed failed => exact .lineFailed (List.mem_cons_of_mem _ failed)
  | noReport => exact .noReport

/-- No chunk ends the wait with an error. -/
theorem Watch.meet_chunk (w : Watch) (b : UInt8) (bs : Bytes) (cause : Failure) :
    w.meet (.ok (b :: bs)) ≠ .inl (.error cause) := by
  intro h
  simp only [meet] at h
  split at h
  · cases h
  · split at h
    · cases h
    · cases h

theorem unreported_of_await {allowed : Duration} {cause : Failure}
    (reads : List (Except IoError Bytes)) :
    ∀ w : Watch, await allowed w reads = .error cause → Unreported allowed reads cause := by
  induction reads with
  | nil =>
      rintro w ⟨⟩
      exact .noReport
  | cons outcome later ih =>
      intro w h
      rw [await] at h
      match outcome with
      | .ok [] =>
          cases h
          exact .lineClosed List.mem_cons_self
      | .error e =>
          cases h
          exact .lineFailed List.mem_cons_self
      | .ok (b :: bs) =>
          split at h
          · next hmeet =>
              rw [h] at hmeet
              exact absurd hmeet (w.meet_chunk b bs cause)
          · exact (ih _ h).later

/-- All that a wait for a report can come to, if it is allowed to last this
long. -/
structure Ends (s : Surroundings) (format : OutputFormat) (job : StatusJob)
    (allowed : Duration) : Prop where
  unopened : ∀ cause, s.openLine job.line = .error cause →
    run s format job = ⟨[], .failed cause, none, s.device.transport⟩
  crashed : ∀ speed, s.openLine job.line = .ok speed → allowed.Outlasts s.now →
    run s format job = ⟨[], .crashed .deadlineOverflow, some speed, s.device.transport⟩
  failed : ∀ speed cause, s.openLine job.line = .ok speed → ¬ allowed.Outlasts s.now →
    await allowed .start s.device.reads = .error cause →
      Unreported allowed s.device.reads cause ∧
        run s format job = ⟨[], .failed cause, some speed, s.device.transport⟩
  printed : ∀ speed queue, s.openLine job.line = .ok speed → ¬ allowed.Outlasts s.now →
    await allowed .start s.device.reads = .ok queue → s.outputFault = none →
      run s format job =
        ⟨(report format s.stamp job.selected ⟨queue⟩).flatMap Output.content, .exited .success,
          some speed, s.device.transport⟩
  /-- The update is lost only where nothing can be printed. -/
  unprinted : ∀ speed queue fault, s.openLine job.line = .ok speed →
    ¬ allowed.Outlasts s.now → await allowed .start s.device.reads = .ok queue →
      s.outputFault = some fault → (run s format job).conclusion = .exited .success ∨
        (run s format job).conclusion = .crashed (.printFailed fault)

variable {s : Surroundings} {format : OutputFormat} {job : StatusJob} {allowed : Duration}
  {speed : Speed}

theorem mapError_readDuration (hallowed : readDuration job.timeout = .ok allowed) :
    (readDuration job.timeout).mapError Failure.duration = .ok allowed := by
  rw [hallowed]
  rfl

theorem run_of_outlasts (hallowed : readDuration job.timeout = .ok allowed)
    (hopen : s.openLine job.line = .ok speed) (hbeyond : allowed.Outlasts s.now) :
    run s format job = ⟨[], .crashed .deadlineOverflow, some speed, s.device.transport⟩ := by
  have hsum := Instant.add?_eq_none_iff.2 hbeyond
  unfold run
  rw [mapError_readDuration hallowed, hopen]
  simp only [bind, Except.bind, pure, Except.pure, hsum]

theorem run_of_unreported (hallowed : readDuration job.timeout = .ok allowed)
    (hopen : s.openLine job.line = .ok speed) (hwithin : ¬ allowed.Outlasts s.now)
    {cause : Failure} (hawait : await allowed .start s.device.reads = .error cause) :
    run s format job = s.finish (some speed) s.device.transport [] (.error cause) := by
  obtain ⟨time, htime⟩ := Option.ne_none_iff_exists'.1 (mt Instant.add?_eq_none_iff.1 hwithin)
  unfold run
  rw [mapError_readDuration hallowed, hopen]
  simp only [bind, Except.bind, pure, Except.pure, htime, hawait]

theorem run_of_reported (hallowed : readDuration job.timeout = .ok allowed)
    (hopen : s.openLine job.line = .ok speed) (hwithin : ¬ allowed.Outlasts s.now)
    {queue : Delivery} (hawait : await allowed .start s.device.reads = .ok queue) :
    run s format job = s.finish (some speed) s.device.transport
      (report format s.stamp job.selected ⟨queue⟩) (.ok .success) := by
  obtain ⟨time, htime⟩ := Option.ne_none_iff_exists'.1 (mt Instant.add?_eq_none_iff.1 hwithin)
  unfold run
  rw [mapError_readDuration hallowed, hopen]
  simp only [bind, Except.bind, pure, Except.pure, htime, hawait]

theorem ends (hallowed : readDuration job.timeout = .ok allowed) :
    Ends s format job allowed := by
  constructor
  · intro cause hopen
    unfold run
    rw [hallowed, hopen]
    rfl
  · intro speed hopen hbeyond
    exact run_of_outlasts hallowed hopen hbeyond
  · intro speed cause hopen hwithin hawait
    exact ⟨unreported_of_await _ _ hawait, run_of_unreported hallowed hopen hwithin hawait⟩
  · intro speed queue hopen hwithin hawait hfault
    rw [run_of_reported hallowed hopen hwithin hawait, Surroundings.finish, hfault,
      Output.printAll_none]
  · intro speed queue fault hopen hwithin hawait hfault
    rw [run_of_reported hallowed hopen hwithin hawait, Surroundings.finish, hfault]
    cases hprinted : Output.printAll (some fault) (report format s.stamp job.selected ⟨queue⟩) with
    | error crash =>
        right
        rw [Output.printAll_fault hprinted]
    | ok printed =>
        left
        rfl

end Status

/-- A bounded wait ends in one of the ways it is known to end in, unless its
deadline is beyond the last reading of the clock. Then it crashes, and before it
has looked at anything: a read of a queue in which bytes wait, a read that does
not want to wait at all, and a wait for a report that is there already. -/
theorem bounded_wait_ends (q : Delivery) (room : Nat) (mode : ReadMode)
    (timeout : Option Duration) (now : Instant) (later : List (Instant × Happening))
    (s : Surroundings) (format : OutputFormat) (job : StatusJob) :
    q.ReadEnds room mode timeout now later ∧
      ∀ allowed : Duration, readDuration job.timeout = .ok allowed →
        Status.Ends s format job allowed :=
  ⟨q.readEnds room mode timeout now later, fun _ hallowed => Status.ends hallowed⟩

/-- A wait that may last until the last reading of the clock, and not a second
longer, is told in time that the line failed. -/
theorem bounded_wait_ends_at_the_last_reading :
    let second : Duration := ⟨1, 0, by decide⟩
    let s : Surroundings := {
      files := fun _ => .ok .terminal
      device := ⟨[.error (.system Errno.notATerminal)], .ofScript []⟩
      input := [], outputFault := none, now := ⟨9223372036854775806, 999999999⟩
      stamp := "", calledOff := false }
    ¬ second.Outlasts s.now ∧ second.Outlasts ⟨9223372036854775807, 0⟩ ∧
      Delivery.Declared .blocking (some second)
        (Delivery.ofDefaultCapacity.readAmid 1 .blocking (some second) s.now []).value.1 ∧
      Status.run s .json ⟨⟨"tty", 9600⟩, "1s", none⟩ =
        ⟨[], .failed (.io "serial read failed" (.system Errno.notATerminal)), some .b9600,
          s.device.transport⟩ := by
  intro second s
  have hwithin : ¬ second.Outlasts s.now := by decide
  obtain ⟨hread, hstatus⟩ := bounded_wait_ends .ofDefaultCapacity 1 .blocking (some second)
    s.now [] s .json ⟨⟨"tty", 9600⟩, "1s", none⟩
  refine ⟨hwithin, by decide, ?_, ?_⟩
  · refine hread.declared (by decide) ?_
    rintro ⟨allowed, hbound, hbeyond⟩
    rw [← Option.some.inj hbound] at hbeyond
    exact hwithin hbeyond
  · have hallowed : readDuration "1s" = .ok second := rfl
    have hopen : s.openLine ⟨"tty", 9600⟩ = .ok .b9600 := rfl
    have hawait : Status.await second .start s.device.reads =
        .error (.io "serial read failed" (.system Errno.notATerminal)) := rfl
    exact ((hstatus second hallowed).failed _ _ hopen hwithin hawait).2

/-- The longest span that a text can ask for is too long for any clock that shows
its origin or more. Bytes that wait, a mode that does not, and a report that is
there already are all the same to it. -/
theorem crash_beyond_the_clock :
    let longest : Duration := ⟨18446744073709551615, 0, by decide⟩
    let q := ((Delivery.ofCapacity 4 (by decide)).push [7]).value.2
    let s : Surroundings := {
      files := fun _ => .ok .terminal
      device := ⟨[.ok [0x0D, 0xF0, 0xAD, 0x0B, 4, 0, 2, 0, 5, 7]], .ofScript []⟩
      input := [], outputFault := none, now := ⟨100000, 0⟩, stamp := "", calledOff := false }
    readDuration "18446744073709551615s" = .ok longest ∧
      q.ring.toList = [7] ∧
      (q.read 1 .nonBlocking (some longest) ⟨100000, 0⟩).1 = .crashed .deadlineOverflow ∧
      (Status.await longest .start s.device.reads).toOption.map Delivery.snapshot = some ⟨5, 7⟩ ∧
      (Status.run s .json ⟨⟨"tty", 9600⟩, "18446744073709551615s", none⟩).conclusion =
        .crashed .deadlineOverflow := by
  exact ⟨rfl, by decide, rfl, by decide +kernel, rfl⟩

end FramedSerial
