import FramedSerial.Command.Send
import FramedSerial.Proofs.CleanStream
import FramedSerial.Proofs.Ending
import FramedSerial.Proofs.Handover
import FramedSerial.Proofs.HexPayload
import FramedSerial.Proofs.Splitting

/-!
# A message is sent whole, or it is told

A message is made before the device is opened. If it cannot be made, because its
payload cannot be found or is longer than a header can say, nothing has happened to
the device. If it can, the device is handed all of it at once, and whoever decodes
what the device was handed gets the type and the payload back.

What the device answers is the exit code. There are three answers, the whole, a part
and an error, and there are three codes for them, so a script that sends a message
knows from the code alone what became of it.
-/

namespace FramedSerial

/-! ## What is sent -/

namespace Send

/-- Why there may be nothing to send. -/
inductive Unsendable (fs : Files) (job : SendJob) : Failure → Prop where
  | badHex {text : String} {fault : HexFault} (source : job.payload = .hex text)
      (bad : readHex text = .error fault) : Unsendable fs job (.hex fault)
  | noFile {path : String} {e : IoError} (source : job.payload = .file path)
      (missing : fs path = .error e) : Unsendable fs job (.io ("failed reading " ++ path) e)
  | unreadable {path : String} {node : FileNode} {e : IoError}
      (source : job.payload = .file path) (found : fs path = .ok node)
      (failed : node.contents = .error e) : Unsendable fs job (.io ("failed reading " ++ path) e)
  | tooLong {type : FrameType} {bytes : Bytes} (framed : job.frameType = some type)
      (found : payload fs job.payload = .ok bytes) (long : maxPayload < bytes.length) :
      Unsendable fs job (.frame "encode failed" (.payloadTooLarge bytes.length maxPayload))

theorem unsendable_of_payload {fs : Files} {job : SendJob} {cause : Failure}
    (h : payload fs job.payload = .error cause) : Unsendable fs job cause := by
  cases hsource : job.payload with
  | nothing =>
      rw [hsource] at h
      cases h
  | text text =>
      rw [hsource] at h
      cases h
  | hex text =>
      rw [hsource, payload] at h
      cases hread : readHex text with
      | ok bytes =>
          rw [hread] at h
          cases h
      | error fault =>
          rw [hread] at h
          cases h
          exact .badHex hsource hread
  | file path =>
      rw [hsource, payload] at h
      cases hnode : fs path with
      | error e =>
          rw [hnode] at h
          cases h
          exact .noFile hsource hnode
      | ok node =>
          simp only [hnode] at h
          cases hcontents : node.contents with
          | ok bytes =>
              rw [hcontents] at h
              cases h
          | error e =>
              rw [hcontents] at h
              cases h
              exact .unreadable hsource hnode hcontents

theorem prepared_of_payload {fs : Files} {job : SendJob} {bytes : Bytes}
    (h : payload fs job.payload = .ok bytes) :
    prepared fs job = message job.frameType bytes := by
  rw [prepared, h]
  rfl

theorem message_some {type : FrameType} {f : Frame} {bytes : Bytes}
    (h : Frame.ofPayload type bytes = .ok f) : message (some type) bytes = .ok f.wire := by
  rw [message, Frame.encode_of_ofPayload h]
  rfl

theorem message_of_lt {type : FrameType} {bytes : Bytes} (h : maxPayload < bytes.length) :
    message (some type) bytes =
      .error (.frame "encode failed" (.payloadTooLarge bytes.length maxPayload)) := by
  rw [message, Frame.encode_of_lt h]

/-- There is nothing to send for just these reasons. -/
theorem prepared_eq_error_iff {fs : Files} {job : SendJob} {cause : Failure} :
    prepared fs job = .error cause ↔ Unsendable fs job cause := by
  constructor
  · intro h
    cases hpayload : payload fs job.payload with
    | error e =>
        rw [prepared, hpayload] at h
        cases h
        exact unsendable_of_payload hpayload
    | ok bytes =>
        rw [prepared_of_payload hpayload] at h
        cases htype : job.frameType with
        | none =>
            rw [htype] at h
            cases h
        | some type =>
            rw [htype] at h
            by_cases hlong : maxPayload < bytes.length
            · rw [message_of_lt hlong] at h
              cases h
              exact .tooLong htype hpayload hlong
            · rw [message_some (Frame.ofPayload_of_le (Nat.le_of_not_lt hlong))] at h
              cases h
  · intro h
    cases h with
    | badHex source bad =>
        rw [prepared, source, payload, bad]
        rfl
    | noFile source missing =>
        rw [prepared, source, payload, missing]
        rfl
    | unreadable source found failed =>
        simp only [prepared, source, payload, found, failed]
        rfl
    | tooLong framed found long => rw [prepared_of_payload found, framed, message_of_lt long]

/-- Whoever decodes these bytes, in whatever parts they come and with whatever room
there is for them, gets this type and this payload and nothing else. -/
def ReadsBack (type : FrameType) (bytes wire : Bytes) : Prop :=
  ∃ f : Frame, f.type = type ∧ f.payload = bytes ∧ ∀ capacity, wire.length ≤ capacity →
    (∀ cs : List StreamDecoder.Call, cs.flatMap StreamDecoder.Call.bytes = wire →
      StreamDecoder.decoded capacity cs = .clean [f]) ∧
    (∀ chunks : List Bytes, (∀ c ∈ chunks, c ≠ []) → chunks.flatten = wire →
      (StagedDecoder.empty capacity).feedAll chunks = ([f], ⟨capacity, [], ⟨1, 0, 0⟩⟩))

theorem readsBack_wire (f : Frame) : ReadsBack f.type f.payload f.wire := by
  refine ⟨f, rfl, rfl, ?_⟩
  intro capacity hcapacity
  have hfit : ∀ g ∈ [f], g.wireSize ≤ capacity := by
    simpa only [List.forall_mem_singleton, Frame.length_wire] using hcapacity
  have hwires : f.wire = [f].flatMap Frame.wire := (List.append_nil f.wire).symm
  constructor
  · intro cs hcs
    rw [StreamDecoder.decoded_eq_ofStream, hcs, hwires, Decoded.ofStream_wires hfit]
  · -- all chunks together fit in the store, so none of them is lost
    intro chunks hne hchunks
    refine StagedDecoder.feedAll_wires hfit hne (hchunks.trans hwires) (fits_of_length_le ?_)
    rw [hchunks, Nat.zero_add]
    exact hcapacity

/-- What is sent is the payload, or the encoding of a frame that holds it. -/
theorem prepared_eq_ok {fs : Files} {job : SendJob} {wire : Bytes}
    (h : prepared fs job = .ok wire) :
    ∃ bytes, payload fs job.payload = .ok bytes ∧
      (job.frameType = none → wire = bytes) ∧
      ∀ type, job.frameType = some type →
        Frame.encode type bytes [] = (.ok (), wire) ∧ ReadsBack type bytes wire := by
  cases hpayload : payload fs job.payload with
  | error e =>
      rw [prepared, hpayload] at h
      cases h
  | ok bytes =>
      rw [prepared_of_payload hpayload] at h
      refine ⟨bytes, rfl, ?_, ?_⟩
      · intro htype
        rw [htype] at h
        cases h
        rfl
      · intro type htype
        rw [htype] at h
        by_cases hlong : maxPayload < bytes.length
        · rw [message_of_lt hlong] at h
          cases h
        · let f : Frame := ⟨type, bytes, Nat.le_of_not_lt hlong⟩
          have hframe : Frame.ofPayload type bytes = .ok f := Frame.ofPayload_of_le f.length_le
          rw [message_some hframe] at h
          cases h
          exact ⟨Frame.encode_of_ofPayload hframe [], readsBack_wire f⟩

end Send

/-! ## What the device answers -/

theorem Transport.le_of_write {t : Transport} {data : Bytes} {n : Nat}
    (h : (t.write data).1 = .ok n) : n ≤ data.length := by
  unfold write at h
  dsimp only at h
  split at h
  · cases h
    exact Nat.min_le_right ..
  · cases h
    exact Nat.min_le_right ..
  · cases h

namespace Sending

variable {x : Sending}

/-- The device fails the message, at the write or at the flush. -/
def FailedWith (x : Sending) (cause : IoError) : Prop :=
  x.wrote = .error cause ∨ x.wrote.isOk ∧ x.flushed = .error cause

/-- There is nothing to send, or the device takes a number of bytes, or it fails. -/
theorem Plain.result_cases (h : x.Plain) :
    x.data = [] ∧ x.result = .ok 0 ∨
    (x.data ≠ [] ∧ ∃ n, n ≤ x.data.length ∧ x.wrote = .ok n ∧ x.flushed = .ok () ∧
      x.result = .ok n) ∨
    (x.data ≠ [] ∧ ∃ cause, x.FailedWith cause ∧ x.result = .error (.transport cause)) := by
  by_cases hdata : x.data = []
  · exact .inl ⟨hdata, (h.nothing hdata).1⟩
  · cases hresult : x.result with
    | ok n =>
        obtain ⟨hwrote, hflushed⟩ := (h.count hdata n).1 hresult
        exact .inr (.inl ⟨hdata, n, Transport.le_of_write hwrote, hwrote, hflushed, rfl⟩)
    | error e =>
        obtain ⟨cause, rfl, hfailed⟩ := (h.failure hdata e).1 hresult
        exact .inr (.inr ⟨hdata, cause, hfailed, rfl⟩)

/-- The exit code that the answers come to. -/
def code (x : Sending) : ExitCode :=
  match x.result with
  | .ok n => if n < x.data.length then .failure else .success
  | .error cause => Failure.linkCode cause

theorem Plain.result_of_failed (h : x.Plain) {cause : IoError} (hdata : x.data ≠ [])
    (hfailed : x.FailedWith cause) : x.result = .error (.transport cause) :=
  (h.failure hdata _).2 ⟨cause, rfl, hfailed⟩

theorem Plain.code_eq_success_iff (h : x.Plain) :
    x.code = .success ↔ x.data = [] ∨ x.wrote = .ok x.data.length ∧ x.flushed = .ok () := by
  constructor
  · intro hcode
    rw [code] at hcode
    rcases h.result_cases with ⟨hdata, -⟩ | ⟨-, n, hle, hwrote, hflushed, hresult⟩ |
      ⟨-, cause, -, hresult⟩
    · exact .inl hdata
    · simp only [hresult] at hcode
      have hall : n = x.data.length := by
        by_contra hne
        rw [if_pos (by omega)] at hcode
        cases hcode
      exact .inr ⟨hall ▸ hwrote, hflushed⟩
    · rw [hresult] at hcode
      cases hcode
  · intro htaken
    by_cases hdata : x.data = []
    · rw [code, (h.nothing hdata).1, hdata]
      rfl
    · have hresult := (h.count hdata _).2 (htaken.resolve_left hdata)
      simp only [code, hresult, Nat.lt_irrefl, if_false]

theorem Plain.code_eq_failure_iff (h : x.Plain) :
    x.code = .failure ↔ ∃ n, n < x.data.length ∧ x.wrote = .ok n ∧ x.flushed = .ok () := by
  constructor
  · intro hcode
    rw [code] at hcode
    rcases h.result_cases with ⟨hdata, hresult⟩ | ⟨-, n, -, hwrote, hflushed, hresult⟩ |
      ⟨-, cause, -, hresult⟩
    · rw [hresult, hdata] at hcode
      cases hcode
    · simp only [hresult] at hcode
      refine ⟨n, ?_, hwrote, hflushed⟩
      by_contra hall
      rw [if_neg hall] at hcode
      cases hcode
    · rw [hresult] at hcode
      cases hcode
  · rintro ⟨n, hlt, htaken⟩
    have hdata : x.data ≠ [] := List.length_pos_iff.1 (Nat.zero_lt_of_lt hlt)
    have hresult := (h.count hdata n).2 htaken
    simp only [code, hresult, if_pos hlt]

end Sending

/-! ## The command -/

namespace Send

/-- What becomes of a message once the device is open. -/
structure Outcome (s : Surroundings) (speed : Speed) (x : Sending) (r : Run) : Prop where
  opened : r.speed = some speed
  /-- The device is not asked to write nothing. -/
  untouched : x.data = [] → r.transport = s.device.transport
  /-- It is asked once, and for the whole message. -/
  request : x.data ≠ [] → r.transport.calls = s.device.transport.calls + 1 ∧
    r.transport.lastRequest = some x.data
  success : s.outputFault = none → (r.conclusion.code? = some .success ↔
    x.data = [] ∨ x.wrote = .ok x.data.length ∧ x.flushed = .ok ())
  failure : s.outputFault = none → (r.conclusion.code? = some .failure ↔
    ∃ n, n < x.data.length ∧ x.wrote = .ok n ∧ x.flushed = .ok ())
  error : ∀ cause, x.data ≠ [] → x.FailedWith cause →
    r.conclusion = .failed (.link "send failed" (.transport cause)) ∧
      r.conclusion.code? = some .transportError

variable {s : Surroundings} {format : OutputFormat} {job : SendJob} {wire : Bytes} {speed : Speed}
  {cause : Failure}

theorem run_of_unopened (h : prepared s.files job = .ok wire)
    (hopen : s.openLine job.line = .error cause) :
    run s format job = ⟨[], .failed cause, none, s.device.transport⟩ := by
  unfold run
  rw [h]
  simp only [bind, Except.bind, hopen]
  rfl

theorem run_of_opened (h : prepared s.files job = .ok wire)
    (hopen : s.openLine job.line = .ok speed) :
    run s format job =
      let x := Sending.ofMessage s.device.transport wire
      match x.result with
      | .error cause => s.finish (some speed) x.after [] (.error (.link "send failed" cause))
      | .ok n => s.finish (some speed) x.after (Report.sent format job.frameType wire.length n)
          (.ok (if n < wire.length then .failure else .success)) := by
  unfold run
  rw [h]
  simp only [bind, Except.bind, pure, Except.pure, hopen, Sending.ofMessage]
  rcases (s.device.transport.transmit wire).value with ⟨cause | n, after⟩
  · rfl
  · rfl

theorem code?_of_opened (h : prepared s.files job = .ok wire)
    (hopen : s.openLine job.line = .ok speed) (hfault : s.outputFault = none) :
    (run s format job).conclusion.code? =
      some (Sending.ofMessage s.device.transport wire).code := by
  rw [run_of_opened h hopen, Sending.code]
  dsimp only
  cases (Sending.ofMessage s.device.transport wire).result with
  | error cause =>
      simp only [Surroundings.finish_of_no_fault hfault]
      rfl
  | ok n =>
      simp only [Surroundings.finish_of_no_fault hfault]
      rfl

theorem outcome_of_opened (h : prepared s.files job = .ok wire)
    (hopen : s.openLine job.line = .ok speed) :
    Outcome s speed (.ofMessage s.device.transport wire) (run s format job) := by
  have hplain := Sending.plain_ofMessage s.device.transport wire
  have hrun : run s format job = _ := run_of_opened h hopen
  dsimp only at hrun
  have hend : (run s format job).speed = some speed ∧
      (run s format job).transport = (Sending.ofMessage s.device.transport wire).after := by
    rw [hrun]
    cases (Sending.ofMessage s.device.transport wire).result <;>
      exact Surroundings.line_finish
  constructor
  · exact hend.1
  · intro hnil
    rw [hend.2, (hplain.nothing hnil).2]
    rfl
  · intro hne
    rw [hend.2]
    exact hplain.request hne
  · intro hfault
    rw [code?_of_opened h hopen hfault, Option.some_inj]
    exact hplain.code_eq_success_iff
  · intro hfault
    rw [code?_of_opened h hopen hfault, Option.some_inj]
    exact hplain.code_eq_failure_iff
  · intro cause hne hfailed
    rw [hrun, hplain.result_of_failed hne hfailed]
    -- nothing is printed, so nothing can keep the command from failing as it means to
    exact ⟨rfl, rfl⟩

/-- A message is sent, or it is told why not. If there is nothing to send, the device
is neither opened nor written. Otherwise what there is to send is the payload, or a
frame that anyone with room for it reads back as that type and that payload; and if
the device opens, it is handed just that, once, and the exit code is its answer. -/
theorem send_is_whole_or_told (s : Surroundings) (format : OutputFormat) (job : SendJob) :
    (∀ cause, prepared s.files job = .error cause ↔ Unsendable s.files job cause) ∧
    (∀ cause, Unsendable s.files job cause →
      run s format job = ⟨[], .failed cause, none, s.device.transport⟩) ∧
    ∀ wire, prepared s.files job = .ok wire →
      (∃ bytes, payload s.files job.payload = .ok bytes ∧
        (job.frameType = none → wire = bytes) ∧
        ∀ type, job.frameType = some type →
          Frame.encode type bytes [] = (.ok (), wire) ∧ ReadsBack type bytes wire) ∧
      (∀ cause, s.openLine job.line = .error cause →
        run s format job = ⟨[], .failed cause, none, s.device.transport⟩) ∧
      ∀ speed, s.openLine job.line = .ok speed →
        Outcome s speed (.ofMessage s.device.transport wire) (run s format job) := by
  refine ⟨fun _ => prepared_eq_error_iff,
    fun _ h => run_of_unprepared (prepared_eq_error_iff.2 h), ?_⟩
  intro wire h
  exact ⟨prepared_eq_ok h, fun _ hopen => run_of_unopened h hopen,
    fun _ hopen => outcome_of_opened h hopen⟩

/-- A frame that the device takes, takes in part, refuses, and takes but cannot flush;
and a payload that lacks a digit. -/
theorem send_is_whole_or_told_of_two_bytes :
    let s (replies : List Reply) : Surroundings := {
      files := fun _ => .ok .terminal
      device := ⟨[], .ofScript replies⟩
      input := [], outputFault := none, now := ⟨0, 0⟩, stamp := "", calledOff := false }
    let job (hex : String) : SendJob := ⟨⟨"tty", 9600⟩, some 4, .hex hex⟩
    let wire : Bytes := [0x0D, 0xF0, 0xAD, 0x0B, 4, 0, 2, 0, 5, 7]
    let sent (replies : List Reply) := run (s replies) .json (job "05:07")
    ReadsBack 4 [5, 7] wire ∧ (sent []).conclusion.code? = some .success ∧
      (sent [.accept (some 9) none]).conclusion.code? = some .failure ∧
      (sent [.refuse (.bare .interrupted)]).conclusion.code? = some .transportError ∧
      (sent [.accept none (some (.bare .timedOut))]).conclusion.code? = some .transportError ∧
      (sent [.accept (some 9) none]).transport.lastRequest = some wire ∧
      run (s []) .json (job "057") =
        ⟨[], .failed (.hex .oddLength), none, (s []).device.transport⟩ := by
  intro s job wire sent
  have hprepared : prepared (s []).files (job "05:07") = .ok wire := by decide +kernel
  have hsent : ∀ replies,
      Outcome (s replies) .b9600 (.ofMessage (.ofScript replies) wire) (sent replies) := by
    intro replies
    obtain ⟨-, -, h⟩ := send_is_whole_or_told (s replies) .json (job "05:07")
    exact (h wire hprepared).2.2 .b9600 rfl
  have hreadsBack : ReadsBack 4 [5, 7] wire := by
    obtain ⟨-, -, h⟩ := send_is_whole_or_told (s []) .json (job "05:07")
    obtain ⟨⟨bytes, hpayload, -, hframed⟩, -⟩ := h wire hprepared
    have hbytes : bytes = [5, 7] := by
      have hread : payload (s []).files (job "05:07").payload = .ok [5, 7] := by decide +kernel
      exact Except.ok.inj (hpayload.symm.trans hread)
    rw [← hbytes]
    exact (hframed 4 rfl).2
  refine ⟨hreadsBack, ?_, ?_, ?_, ?_, ?_, ?_⟩
  · exact ((hsent []).success rfl).2 (.inr ⟨rfl, rfl⟩)
  · exact ((hsent _).failure rfl).2 ⟨9, by decide, rfl, rfl⟩
  · exact ((hsent _).error (.bare .interrupted) (by decide) (.inl rfl)).2
  · exact ((hsent _).error (.bare .timedOut) (by decide) (.inr ⟨rfl, rfl⟩)).2
  · exact ((hsent _).request (by decide)).2
  · obtain ⟨-, h, -⟩ := send_is_whole_or_told (s []) .json (job "057")
    exact h _ (.badHex rfl (by decide +kernel))

end Send

end FramedSerial
