import FramedSerial.Proofs.Ending
import FramedSerial.Proofs.Routing
import FramedSerial.Proofs.StateReport

/-!
# The first state report

A wait for a state report routes the frames of a line as a link does, and stops
at the first that the queue stores. It stops inside a chunk, at a frame, and what
is staged behind the frame is never looked at; it goes on over everything else.
So what a wait comes to is said by the frames of the line alone: it is a queue that
shows the first of them that is a report, and if there is none it is the way the
line ends.

What is printed is looked up in that queue, not in the frame. So the wait has to
stop at once: a second report that was routed behind the first would be the one that
is printed.

How the bytes fall into chunks does not matter, because the frames of some chunks
are the first of the frames of more (`drain_append`), and the first report among
them stays the first.
-/

namespace FramedSerial

theorem Frame.exists_payload_of_isReport (f : Frame) (h : f.isReport) :
    ∃ rootState version more, f.payload = rootState :: version :: more := by
  have hlong : 2 ≤ f.payload.length := (of_decide_eq_true h).2
  match hpayload : f.payload with
  | [] => rw [hpayload] at hlong; cases hlong
  | [_] => rw [hpayload] at hlong; simp at hlong
  | rootState :: version :: more => exact ⟨rootState, version, more, rfl⟩

namespace Delivery

/-- A report is stored, and nothing else is. -/
theorem route_stored_iff {q : Delivery} {f : Frame} {s : Snapshot} :
    (q.route f).value.1 = .stored s ↔ f.isReport ∧ s = f.report := by
  by_cases htype : f.type = FrameType.stateUpdate
  · by_cases hlong : Snapshot.minPayload ≤ f.payload.length
    · have hreport : f.isReport := decide_eq_true ⟨htype, hlong⟩
      rw [route, if_pos htype, Snapshot.ofPayload?_eq, if_pos hlong]
      constructor
      · rintro ⟨⟩
        exact ⟨hreport, rfl⟩
      · rintro ⟨-, rfl⟩
        rfl
    · rw [route, if_pos htype, Snapshot.ofPayload?_eq, if_neg hlong]
      constructor
      · rintro ⟨⟩
      · rintro ⟨hreport, -⟩
        exact absurd (of_decide_eq_true hreport).2 hlong
  · rw [route, if_neg htype]
    constructor
    · rintro ⟨⟩
    · rintro ⟨hreport, -⟩
      exact absurd (of_decide_eq_true hreport).1 htype

end Delivery

namespace Status

/-! ## One chunk -/

/-- What looking for a report among the staged frames comes to. A report that is
found is what the queue shows then; if there is none, every frame has been taken
out. -/
inductive Sought (d : StagedDecoder) : Bool × StagedDecoder × Delivery → Prop where
  | found {f : Frame} {d' : StagedDecoder} {q : Delivery}
      (first : (drain d.capacity d.pending).frames.find? Frame.isReport = some f)
      (shown : q.snapshot = f.report) : Sought d (true, d', q)
  | nothing {q : Delivery}
      (unreported : (drain d.capacity d.pending).frames.find? Frame.isReport = none) :
      Sought d (false, d.afterDrain (drain d.capacity d.pending), q)

/-- The look goes on over a frame that is no report. -/
theorem Sought.after {d : StagedDecoder} {f : Frame} (hskipped : ¬ f.isReport)
    (hf : (pull d.capacity d.pending).frame? = some f)
    {r : Bool × StagedDecoder × Delivery}
    (h : Sought (d.afterDrain (pull d.capacity d.pending).toDrain) r) : Sought d r := by
  have hdrain := drain_of_pull_some hf
  have hfind : (drain d.capacity d.pending).frames.find? Frame.isReport =
      (drain d.capacity (pull d.capacity d.pending).rest).frames.find? Frame.isReport := by
    rw [hdrain, Drain.frames_andThen, Pull.frames_toDrain, hf]
    exact List.find?_cons_of_neg hskipped
  cases h with
  | found first shown => exact .found (hfind.trans first) shown
  | nothing unreported =>
      have hnothing := @Sought.nothing d
      rw [hdrain, StagedDecoder.afterDrain_andThen, ← hdrain] at hnothing
      exact hnothing (hfind.trans unreported)

theorem sought_routeUntilStored (d : StagedDecoder) (q : Delivery) :
    Sought d (routeUntilStored d q) := by
  fun_induction routeUntilStored d q with
  | case1 d q d' h =>
      obtain ⟨hnone, rfl⟩ := Prod.mk.inj ((StagedDecoder.next_value d).symm.trans h)
      rw [← drain_of_pull_none hnone]
      refine .nothing ?_
      rw [drain_of_pull_none hnone, Pull.frames_toDrain, hnone]
      rfl
  | case2 d q f d' h s q' hroute =>
      obtain ⟨hf, rfl⟩ := Prod.mk.inj ((StagedDecoder.next_value d).symm.trans h)
      obtain ⟨hreport, rfl⟩ := Delivery.route_stored_iff.1 (congrArg Prod.fst hroute)
      refine .found (f := f) ?_ ?_
      · rw [drain_of_pull_some hf, Drain.frames_andThen, Pull.frames_toDrain, hf]
        exact List.find?_cons_of_pos hreport
      · have hqueue : (q.route f).value.2 = q' := congrArg Prod.snd hroute
        rw [← hqueue, Delivery.snapshot_route, if_pos hreport]
  | case3 d q f d' h r q' hother hroute ih =>
      obtain ⟨hf, rfl⟩ := Prod.mk.inj ((StagedDecoder.next_value d).symm.trans h)
      refine ih.after ?_ hf
      intro hreport
      have hstored : (q.route f).value.1 = .stored f.report :=
        Delivery.route_stored_iff.2 ⟨hreport, rfl⟩
      rw [hroute] at hstored
      exact hother _ hstored

/-! ## The whole wait -/

/-- How a line ends behind the chunks that it brings in time. -/
inductive LineEnd where
  /-- Its other end was closed. -/
  | closed
  | failed (e : IoError)
  /-- It is silent until the deadline. -/
  | silent

namespace LineEnd

/-- What reads bring from there on. What they would bring behind an end or a failure
is not read any more. -/
def reads (unread : List (Except IoError Bytes)) : LineEnd → List (Except IoError Bytes)
  | closed => .ok [] :: unread
  | failed e => .error e :: unread
  | silent => []

/-- Why there is no report then. -/
def failure (allowed : Duration) : LineEnd → Failure
  | closed => .lineClosed
  | failed e => .io "serial read failed" e
  | silent => .noReport allowed

/-- The exit code it has. -/
def code : LineEnd → ExitCode
  | closed => .transportError
  | failed e => Failure.ioCode e
  | silent => .timeout

theorem code_failure (ending : LineEnd) (allowed : Duration) :
    (ending.failure allowed).code = ending.code := by
  cases ending <;> rfl

end LineEnd

/-- No chunk that a wait is fed is too long to be staged. A chunk behind the report
is not fed. -/
def Keeps : Watch → List Bytes → Prop
  | _, [] => True
  | w, chunk :: later =>
    w.decoder.pending.length + chunk.length ≤ w.decoder.capacity ∧
      match w.meet (.ok chunk) with
      | .inl _ => True
      | .inr w => Keeps w later

instance instDecidableKeeps : ∀ (w : Watch) (chunks : List Bytes), Decidable (Keeps w chunks)
  | _, [] => .isTrue trivial
  | w, chunk :: later =>
    have : Decidable (match w.meet (.ok chunk) with
        | .inl _ => True
        | .inr w => Keeps w later) :=
      match w.meet (.ok chunk) with
      | .inl _ => .isTrue trivial
      | .inr w => instDecidableKeeps w later
    inferInstanceAs (Decidable (_ ∧ _))

/-- A wait that these bytes did not end. -/
def Watch.after (s : Bytes) (queue : Delivery) : Watch :=
  ⟨(StagedDecoder.empty defaultStagingCapacity).afterDrain (drain defaultStagingCapacity s), queue⟩

/-- What a wait comes to on a line with these frames: a queue that shows the first
report, or the way the line ends. -/
inductive Awaited (allowed : Duration) (ending : LineEnd) (frames : List Frame) :
    Except Failure Delivery → Prop where
  | reported {f : Frame} {queue : Delivery} (first : frames.find? Frame.isReport = some f)
      (shown : queue.snapshot = f.report) : Awaited allowed ending frames (.ok queue)
  | unreported (silent : frames.find? Frame.isReport = none) :
      Awaited allowed ending frames (.error (ending.failure allowed))

/-- One more chunk: either there is a report now, or the wait is where it would be
had it been given all bytes at once. -/
theorem Watch.meet_after {s chunk : Bytes} {queue : Delivery} (hne : chunk ≠ [])
    (hfits : (after s queue).decoder.pending.length + chunk.length ≤
      (after s queue).decoder.capacity)
    (hbefore : (drain defaultStagingCapacity s).frames.find? Frame.isReport = none) :
    (∃ f queue', (drain defaultStagingCapacity (s ++ chunk)).frames.find? Frame.isReport = some f ∧
      queue'.snapshot = f.report ∧ (after s queue).meet (.ok chunk) = .inl (.ok queue')) ∨
    (drain defaultStagingCapacity (s ++ chunk)).frames.find? Frame.isReport = none ∧
      ∃ queue', (after s queue).meet (.ok chunk) = .inr (after (s ++ chunk) queue') := by
  let staged : StagedDecoder :=
    { (after s queue).decoder with pending := (drain defaultStagingCapacity s).rest ++ chunk }
  have hstage : ((after s queue).decoder.stage chunk).value = (.ok (), staged) := by
    rw [StagedDecoder.stage_value, if_neg hne, if_neg (Nat.not_lt_of_le hfits)]
    rfl
  have hfind : (drain defaultStagingCapacity (s ++ chunk)).frames.find? Frame.isReport =
      (drain staged.capacity staged.pending).frames.find? Frame.isReport := by
    rw [drain_append, Drain.frames_andThen, List.find?_append, hbefore, Option.none_or]
    rfl
  rw [hfind]
  obtain ⟨b, bs, rfl⟩ := List.exists_cons_of_ne_nil hne
  have hsought := sought_routeUntilStored staged (after s queue).queue
  generalize hstored : routeUntilStored staged (after s queue).queue = r at hsought
  cases hsought with
  | found first shown =>
      refine .inl ⟨_, _, first, shown, ?_⟩
      simp only [meet, hstage, hstored]
  | @nothing queue' unreported =>
      refine .inr ⟨unreported, queue', ?_⟩
      simp only [meet, hstage, hstored]
      rw [after, drain_append _ s, StagedDecoder.afterDrain_andThen]
      rfl

theorem await_after {allowed : Duration} {ending : LineEnd}
    {unread : List (Except IoError Bytes)} {chunks : List Bytes} (hne : ∀ c ∈ chunks, c ≠ []) :
    ∀ {s : Bytes} {queue : Delivery},
      (drain defaultStagingCapacity s).frames.find? Frame.isReport = none →
      Keeps (.after s queue) chunks →
      Awaited allowed ending (drain defaultStagingCapacity (s ++ chunks.flatten)).frames
        (await allowed (.after s queue) (chunks.map .ok ++ ending.reads unread)) := by
  induction chunks with
  | nil =>
      intro s queue hbefore _
      have hawait : await allowed (.after s queue) (ending.reads unread) =
          .error (ending.failure allowed) := by
        cases ending <;> rfl
      rw [List.flatten_nil, List.append_nil, List.map_nil, List.nil_append, hawait]
      exact .unreported hbefore
  | cons c later ih =>
      intro s queue hbefore hkeeps
      obtain ⟨hc, hlater⟩ := List.forall_mem_cons.1 hne
      obtain ⟨hfits, hmore⟩ := hkeeps
      rw [List.map_cons, List.cons_append, await, List.flatten_cons, ← List.append_assoc]
      rcases Watch.meet_after hc hfits hbefore with
        ⟨f, queue', hf, hshown, hmeet⟩ | ⟨hnone, queue', hmeet⟩
      · -- what comes behind the report comes behind it in the frames as well
        rw [hmeet]
        refine .reported ?_ hshown
        rw [drain_append, Drain.frames_andThen, List.find?_append, hf, Option.some_or]
      · rw [hmeet] at hmore ⊢
        exact ih hlater hnone hmore

/-! ## What is printed -/

/-- A state of these two bytes as it is printed: the one that was asked for, or both. -/
def reportText (format : OutputFormat) (stamp : String) (selected : Option Attribute)
    (rootState version : UInt8) : String :=
  match selected with
  | some .rootState => toString rootState.toNat ++ "\n"
  | some .version => toString version.toNat ++ "\n"
  | none => Report.stateText stamp rootState version format

theorem content_report (format : OutputFormat) (stamp : String) (selected : Option Attribute)
    (view : StatusView) :
    (report format stamp selected view).flatMap Output.content =
      textBytes (reportText format stamp selected view.rootState view.version) := by
  match selected with
  | some .rootState => exact List.flatMap_singleton ..
  | some .version => exact List.flatMap_singleton ..
  | none => exact Report.content_status format stamp view

/-- A wait for a report ends with the first frame of the line that is one. The queue
shows the first two bytes of that frame then, and they are printed, or the one of
them that was asked for. It does not matter what comes before that frame, what
follows it, or how the bytes fall into chunks. Without such a frame nothing is
printed, and the exit code says how the line ended. -/
theorem first_report_ends_the_wait (s : Surroundings) (format : OutputFormat) (job : StatusJob)
    (ending : LineEnd) (unread : List (Except IoError Bytes)) {allowed : Duration} {speed : Speed}
    {chunks : List Bytes}
    (hallowed : readDuration job.timeout = .ok allowed)
    (hopen : s.openLine job.line = .ok speed) (hwithin : ¬ allowed.Outlasts s.now)
    (hreads : s.device.reads = chunks.map .ok ++ ending.reads unread)
    (hne : ∀ c ∈ chunks, c ≠ []) (hkeeps : Keeps .start chunks) :
    let frames := ((StreamDecoder.new defaultStagingCapacity).decodeAll chunks.flatten).value.1
    (∀ f, frames.find? Frame.isReport = some f →
      ∃ rootState version more, f.payload = rootState :: version :: more ∧
        (∃ queue : Delivery, queue.snapshot = ⟨rootState, version⟩ ∧
          run s format job = s.finish (some speed) s.device.transport
            (report format s.stamp job.selected ⟨queue⟩) (.ok .success)) ∧
        (s.outputFault = none → run s format job =
          ⟨textBytes (reportText format s.stamp job.selected rootState version),
            .exited .success, some speed, s.device.transport⟩)) ∧
    (frames.find? Frame.isReport = none →
      ∃ cause, cause.code = ending.code ∧
        run s format job = ⟨[], .failed cause, some speed, s.device.transport⟩) := by
  intro frames
  have hframes : frames = (drain defaultStagingCapacity chunks.flatten).frames :=
    congrArg Prod.fst (StreamDecoder.decodeAll_value _ _)
  have hstart : Watch.start = .after [] .ofDefaultCapacity := by
    rw [Watch.after, drain_nil]
    rfl
  have hawaited : Awaited allowed ending frames (await allowed .start s.device.reads) := by
    rw [hstart] at hkeeps
    rw [hstart, hreads, hframes]
    exact await_after hne (by rw [drain_nil]; rfl) hkeeps
  generalize hawait : await allowed .start s.device.reads = result at hawaited
  cases hawaited with
  | @reported first queue hfirst hshown =>
      refine ⟨?_, fun hnone => absurd (hfirst.symm.trans hnone) (Option.some_ne_none _)⟩
      intro f hf
      obtain rfl := Option.some.inj (hfirst.symm.trans hf)
      obtain ⟨rootState, version, more, hpayload⟩ := first.exists_payload_of_isReport
        (List.find?_some hfirst)
      have hrun : run s format job = s.finish (some speed) s.device.transport
          (report format s.stamp job.selected ⟨queue⟩) (.ok .success) :=
        run_of_reported hallowed hopen hwithin hawait
      have hsnapshot : queue.snapshot = ⟨rootState, version⟩ := by
        rw [hshown, Frame.report, hpayload]
        rfl
      refine ⟨rootState, version, more, hpayload, ⟨queue, hsnapshot, hrun⟩, ?_⟩
      intro hfault
      have htext : (report format s.stamp job.selected ⟨queue⟩).flatMap Output.content =
          textBytes (reportText format s.stamp job.selected rootState version) := by
        rw [content_report, StatusView.rootState, StatusView.version, StatusView.snapshot,
          hsnapshot]
      rw [hrun, Surroundings.finish_of_no_fault hfault, htext]
      rfl
  | unreported hsilent =>
      refine ⟨fun f hf => absurd (hf.symm.trans hsilent) (Option.some_ne_none _), fun _ => ?_⟩
      exact ⟨_, ending.code_failure allowed, run_of_unreported hallowed hopen hwithin hawait⟩

/-- An update that is too short, a frame for somebody else, and a report that is cut
in two, with another behind it in the same chunk. And the same line when it fails
before the report is complete. -/
theorem first_report_cut_in_two :
    let first : Frame := ⟨FrameType.stateUpdate, [5, 7, 1], by decide⟩
    let line : List Frame := [⟨FrameType.stateUpdate, [9], by decide⟩, ⟨1, [8, 9], by decide⟩,
      first, ⟨FrameType.stateUpdate, [6, 6], by decide⟩]
    let bytes := line.flatMap Frame.wire
    let job : StatusJob := ⟨⟨"tty", 9600⟩, "1s", some .version⟩
    let s (reads : List (Except IoError Bytes)) : Surroundings := {
      files := fun _ => .ok .terminal
      device := ⟨reads, .ofScript []⟩
      input := [], outputFault := none, now := ⟨0, 0⟩, stamp := "", calledOff := false }
    let whole := s [.ok (bytes.take 24), .ok (bytes.drop 24)]
    let broken := s [.ok (bytes.take 24), .error (.system Errno.notATerminal)]
    Keeps .start [bytes.take 24, bytes.drop 24] ∧ line.find? Frame.isReport = some first ∧
      run whole .json job = ⟨[55, 10], .exited .success, some .b9600, whole.device.transport⟩ ∧
      ∃ cause, cause.code = .internal ∧
        run broken .json job = ⟨[], .failed cause, some .b9600, broken.device.transport⟩ := by
  intro first line bytes job s whole broken
  have hallowed : readDuration "1s" = .ok ⟨1, 0, by decide⟩ := rfl
  have hkeeps : Keeps .start [bytes.take 24, bytes.drop 24] := by decide +kernel
  have hline : line.find? Frame.isReport = some first := by decide +kernel
  have hwhole : ((StreamDecoder.new defaultStagingCapacity).decodeAll
      [bytes.take 24, bytes.drop 24].flatten).value.1 = line := by
    rw [StreamDecoder.decodeAll_value]
    decide +kernel
  have hbroken : ((StreamDecoder.new defaultStagingCapacity).decodeAll
      [bytes.take 24].flatten).value.1.find? Frame.isReport = none := by
    rw [StreamDecoder.decodeAll_value]
    decide +kernel
  refine ⟨hkeeps, hline, ?_, ?_⟩
  · have h := first_report_ends_the_wait whole .json job .silent [] hallowed rfl (by decide) rfl
      (by decide +kernel) hkeeps
    rw [hwhole] at h
    obtain ⟨rootState, version, more, hpayload, -, hrun⟩ := h.1 first hline
    cases hpayload
    exact hrun rfl
  · have hfirst : Keeps .start [bytes.take 24] := by decide +kernel
    have h := first_report_ends_the_wait broken .json job (.failed (.system Errno.notATerminal)) []
      hallowed rfl (by decide) rfl (by decide +kernel) hfirst
    exact h.2 hbroken

end Status

end FramedSerial
