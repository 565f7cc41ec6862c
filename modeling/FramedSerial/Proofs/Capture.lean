import FramedSerial.Proofs.Ending
import FramedSerial.Proofs.Splitting

/-!
# Every capture is decoded

There is no capture that decoding fails on. A chunk is staged, or it is too long
and lost with what was staged before it, and decoding goes on either way; an empty
chunk, which would be refused, ends the capture before it is staged. Only the line
that the capture comes from can fail.

So a capture is accounted for to the byte. Each byte is in a frame that was
printed, was discarded where no frame starts, waits at the end, or was lost in a
reset, and what a reset loses is two whole things: the store and the chunk.
-/

namespace FramedSerial

namespace StagedDecoder

/-- What a chunk costs: if it is too long for the store, what was staged and the
chunk itself. -/
def lost (d : StagedDecoder) (chunk : Bytes) : List (Bytes × Bytes) :=
  if d.capacity < d.pending.length + chunk.length then [(d.pending, chunk)] else []

/-- What every reset loses, in order. -/
def losses (d : StagedDecoder) : List Bytes → List (Bytes × Bytes)
  | [] => []
  | chunk :: later => d.lost chunk ++ (d.feed chunk).2.losses later

/-- How many bytes were lost. -/
def lostBytes (losses : List (Bytes × Bytes)) : Nat :=
  (losses.map fun (staged, chunk) => staged.length + chunk.length).sum

/-- So many bytes gave these frames and cost these losses, and the counters say
so. -/
structure Accounts (d : StagedDecoder) (fed : Nat) (fs : List Frame)
    (losses : List (Bytes × Bytes)) (d' : StagedDecoder) : Prop where
  frames : d'.stats.frames = d.stats.frames + fs.length
  resets : d'.stats.overflowResets = d.stats.overflowResets + losses.length
  bytes : d.pending.length + d.stats.resyncBytes + fed =
    (fs.map Frame.wireSize).sum + d'.stats.resyncBytes + d'.pending.length + lostBytes losses

theorem accounts_nil (d : StagedDecoder) : d.Accounts 0 [] [] d := by
  refine ⟨rfl, rfl, ?_⟩
  simp only [lostBytes, List.map_nil, List.sum_nil]
  omega

theorem Accounts.andThen {d d' d'' : StagedDecoder} {fed more : Nat} {fs gs : List Frame}
    {losses losses' : List (Bytes × Bytes)} (h : d.Accounts fed fs losses d')
    (h' : d'.Accounts more gs losses' d'') :
    d.Accounts (fed + more) (fs ++ gs) (losses ++ losses') d'' := by
  obtain ⟨hframes, hresets, hbytes⟩ := h
  obtain ⟨hframes', hresets', hbytes'⟩ := h'
  constructor
  · rw [hframes', hframes, List.length_append, Nat.add_assoc]
  · rw [hresets', hresets, List.length_append, Nat.add_assoc]
  · simp only [lostBytes, List.map_append, List.sum_append] at *
    omega

theorem accounts_feed {chunk : Bytes} (hne : chunk ≠ []) (d : StagedDecoder) :
    d.Accounts chunk.length (d.feed chunk).1 (d.lost chunk) (d.feed chunk).2 := by
  by_cases hover : d.capacity < d.pending.length + chunk.length
  · rw [feed_of_overflow hne hover, lost, if_pos hover]
    refine ⟨rfl, rfl, ?_⟩
    simp only [lostBytes, List.map_cons, List.map_nil, List.sum_cons, List.sum_nil,
      List.length_nil]
    omega
  · have hlength := length_drain d.capacity (d.pending ++ chunk)
    rw [List.length_append] at hlength
    rw [feed_of_fits hne (Nat.le_of_not_lt hover), lost, if_neg hover]
    refine ⟨rfl, rfl, ?_⟩
    simp only [afterDrain, DecodeStats.afterDrain, lostBytes, List.map_nil, List.sum_nil]
    omega

theorem accounts_feedAll {chunks : List Bytes} (hne : ∀ c ∈ chunks, c ≠ []) :
    ∀ d : StagedDecoder, d.Accounts chunks.flatten.length (d.feedAll chunks).1
      (d.losses chunks) (d.feedAll chunks).2 := by
  induction chunks with
  | nil => exact accounts_nil
  | cons c later ih =>
      intro d
      obtain ⟨hc, hlater⟩ := List.forall_mem_cons.1 hne
      rw [List.flatten_cons, List.length_append]
      exact (accounts_feed hc d).andThen (ih hlater _)

end StagedDecoder

/-! ## What is printed for frames -/

namespace Report

/-- Whatever the format, a frame is one output. -/
theorem exists_frame_eq (format : OutputFormat) (stamp : String) (f : Frame) :
    ∃ output, frame format stamp f = [output] := by
  cases format <;> exact ⟨_, rfl⟩

theorem length_flatMap_frame (format : OutputFormat) (stamp : String) (fs : List Frame) :
    (fs.flatMap (frame format stamp)).length = fs.length := by
  induction fs with
  | nil => rfl
  | cons f fs ih =>
      obtain ⟨output, houtput⟩ := exists_frame_eq format stamp f
      rw [List.flatMap_cons, houtput, List.length_append, List.length_singleton, ih,
        List.length_cons, Nat.add_comm]

end Report

/-! ## The loop over the reads -/

theorem ne_nil_of_mem_pieces (limit : Nat) (bs : Bytes) : ∀ c ∈ pieces limit bs, c ≠ [] := by
  unfold pieces
  fun_induction cuts limit bs with
  | case1 => exact fun _ hc => nomatch hc
  | case2 bs h ih =>
      obtain ⟨hlimit, hbs⟩ := not_or.1 h
      refine List.forall_mem_cons.2 ⟨?_, ih⟩
      simp [hlimit, hbs]

theorem flatten_pieces {limit : Nat} (hlimit : limit ≠ 0) (bs : Bytes) :
    (pieces limit bs).flatten = bs := by
  unfold pieces
  fun_induction cuts limit bs with
  | case1 bs h => exact (h.resolve_left hlimit).symm
  | case2 bs h ih =>
      rw [List.map_cons, List.flatten_cons, ih, List.take_append_drop]

namespace Decode

/-- Reads that bring these chunks and then nothing more. Those that were interrupted
bring nothing and are no end. -/
inductive Delivers : List (Except IoError Bytes) → List Bytes → Prop where
  | silent : Delivers [] []
  | ended {unread : List (Except IoError Bytes)} : Delivers (.ok [] :: unread) []
  | interrupted {e : IoError} {reads : List (Except IoError Bytes)} {chunks : List Bytes}
      (kind : e.kind = .interrupted) (more : Delivers reads chunks) :
      Delivers (.error e :: reads) chunks
  | chunk {c : Bytes} {reads : List (Except IoError Bytes)} {chunks : List Bytes} (some : c ≠ [])
      (more : Delivers reads chunks) : Delivers (.ok c :: reads) (c :: chunks)

theorem Delivers.ne_nil {reads : List (Except IoError Bytes)} {chunks : List Bytes}
    (h : Delivers reads chunks) : ∀ c ∈ chunks, c ≠ [] := by
  induction h with
  | silent => exact fun _ hc => nomatch hc
  | ended => exact fun _ hc => nomatch hc
  | interrupted _ _ ih => exact ih
  | chunk some _ ih => exact List.forall_mem_cons.2 ⟨some, ih⟩

theorem delivers_map {chunks : List Bytes} (hne : ∀ c ∈ chunks, c ≠ []) :
    Delivers (chunks.map .ok) chunks := by
  induction chunks with
  | nil => exact .silent
  | cons c later ih =>
      obtain ⟨hc, hlater⟩ := List.forall_mem_cons.1 hne
      exact .chunk hc (ih hlater)

theorem capture_of_delivers {reads : List (Except IoError Bytes)} {chunks : List Bytes}
    (h : Delivers reads chunks) (report : Frame → List Output) :
    ∀ d : StagedDecoder, capture report d reads =
      ((d.feedAll chunks).1.flatMap report, .ok (d.feedAll chunks).2) := by
  induction h with
  | silent => exact fun d => rfl
  | ended => exact fun d => rfl
  | interrupted kind _ ih =>
      intro d
      rw [capture, if_pos kind, ih]
  | chunk some _ ih =>
      intro d
      rw [capture_cons some, ih, StagedDecoder.feedAll, List.flatMap_append]

/-- Whatever the reads bring, only one of them can fail, and with what failed it. -/
theorem capture_error {report : Frame → List Output} {cause : Failure}
    (reads : List (Except IoError Bytes)) :
    ∀ d : StagedDecoder, (capture report d reads).2 = .error cause →
      ∃ e, .error e ∈ reads ∧ e.kind ≠ .interrupted ∧ cause = .io "read failed" e := by
  induction reads with
  | nil => rintro d ⟨⟩
  | cons read later ih =>
      intro d h
      have hlater : ∀ d : StagedDecoder, (capture report d later).2 = .error cause → ∃ e,
          .error e ∈ read :: later ∧ e.kind ≠ .interrupted ∧ cause = .io "read failed" e := by
        intro d h
        obtain ⟨e, hmem, hkind⟩ := ih d h
        exact ⟨e, List.mem_cons_of_mem _ hmem, hkind⟩
      cases read with
      | error e =>
          rw [capture] at h
          split at h
          · exact hlater d h
          · next hkind =>
              cases h
              exact ⟨e, List.mem_cons_self, hkind, rfl⟩
      | ok chunk =>
          -- an empty chunk is the end, so the decoder is never handed one
          by_cases hempty : chunk = []
          · rw [hempty] at h
            cases h
          · rw [capture_cons hempty] at h
            exact hlater _ h

/-! ## The command -/

theorem run_eq_runOn {s : Surroundings} {format : OutputFormat} {t : DecodeJob}
    {reads : List (Except IoError Bytes)} (h : inputReads s t = .ok reads) :
    run s format t = runOn s format t.stagingCapacity.toNat reads := by
  rw [run, h]

/-- The bytes of the chosen input, if it can be read. -/
def content (s : Surroundings) (t : DecodeJob) : Option Bytes :=
  match t.input with
  | none => some s.input
  | some path =>
    match s.files path with
    | .ok node => node.contents.toOption
    | .error _ => none

theorem inputReads_of_content {s : Surroundings} {t : DecodeJob} {bytes : Bytes}
    (h : content s t = some bytes) :
    inputReads s t = .ok ((pieces Surroundings.readSize bytes).map .ok) := by
  unfold content at h
  unfold inputReads
  cases hinput : t.input with
  | none =>
      rw [hinput] at h
      cases h
      rfl
  | some path =>
      simp only [hinput] at h
      cases hnode : s.files path with
      | error e =>
          rw [hnode] at h
          cases h
      | ok node =>
          simp only [hnode, Surroundings.fileReads] at h ⊢
          cases hcontents : node.contents with
          | error e =>
              rw [hcontents] at h
              cases h
          | ok contents =>
              rw [hcontents] at h
              cases h
              rfl

/-- A run that decoded a capture in these chunks into these frames, and what it says
of them. -/
structure Decodes (s : Surroundings) (format : OutputFormat) (capacity : Nat)
    (chunks : List Bytes) (r : Run) (fs : List Frame) (d : StagedDecoder) : Prop where
  run : r = s.finish none s.device.transport
    (fs.flatMap (Report.frame format s.stamp) ++
      Report.stats format d.stats d.pending.length) (.ok .success)
  /-- In the raw format there is nothing that has to go out. -/
  success : s.outputFault = none ∨ format = .raw → r.conclusion = .exited .success
  raw : s.outputFault = none → format = .raw → r.printed = fs.flatMap Frame.wire
  frames : d.stats.frames = fs.length
  /-- So many frames are printed. -/
  outputs : (fs.flatMap (Report.frame format s.stamp)).length = d.stats.frames
  resets : d.stats.overflowResets = ((StagedDecoder.empty capacity).losses chunks).length
  bytes : chunks.flatten.length =
    (fs.map Frame.wireSize).sum + d.stats.resyncBytes + d.pending.length +
      StagedDecoder.lostBytes ((StagedDecoder.empty capacity).losses chunks)

/-- In the raw format only the wires of the frames are printed. -/
theorem raw_outputs (fs : List Frame) (stamp : String) (stats : DecodeStats) (pending : Nat) :
    fs.flatMap (Report.frame .raw stamp) ++ Report.stats .raw stats pending =
      (fs.map Frame.wire).map .bytes := by
  rw [Report.stats, List.append_nil, List.map_map]
  exact List.flatMap_pure_eq_map _ fs

theorem decodes_runOn {capacity : Nat} (hcapacity : capacity ≤ maxAllocation)
    {reads : List (Except IoError Bytes)} {chunks : List Bytes} (h : Delivers reads chunks)
    (s : Surroundings) (format : OutputFormat) :
    ∃ fs d, Decodes s format capacity chunks (runOn s format capacity reads) fs d := by
  obtain ⟨hframes, hresets, hbytes⟩ :=
    StagedDecoder.accounts_feedAll h.ne_nil (StagedDecoder.empty capacity)
  generalize hfed : (StagedDecoder.empty capacity).feedAll chunks = fed at *
  obtain ⟨fs, d⟩ := fed
  have hrun : runOn s format capacity reads = s.finish none s.device.transport
      (fs.flatMap (Report.frame format s.stamp) ++
        Report.stats format d.stats d.pending.length) (.ok .success) := by
    rw [runOn, StagedDecoder.allocate, if_pos hcapacity]
    simp only [capture_of_delivers h, hfed]
  have hcount : d.stats.frames = fs.length := by
    rw [hframes]
    exact Nat.zero_add _
  refine ⟨fs, d, hrun, ?_, ?_, hcount, ?_, ?_, ?_⟩
  · rintro (hfault | rfl)
    · rw [hrun, Surroundings.finish_of_no_fault hfault]
      rfl
    · obtain ⟨printed, hprinted⟩ := Output.printAll_bytes s.outputFault (fs.map Frame.wire)
      rw [hrun, raw_outputs, Surroundings.finish_of_printed hprinted]
      rfl
  · rintro hfault rfl
    rw [hrun, raw_outputs, Surroundings.finish_of_no_fault hfault, List.flatMap_map,
      List.flatMap_map]
    rfl
  · rw [Report.length_flatMap_frame, hcount]
  · rw [hresets]
    exact Nat.zero_add _
  · rw [← hbytes]
    exact (Nat.zero_add _).symm

/-- Only the input can fail. -/
theorem runOn_failed {s : Surroundings} {format : OutputFormat} {capacity : Nat}
    {reads : List (Except IoError Bytes)} {cause : Failure}
    (h : (runOn s format capacity reads).conclusion = .failed cause) :
    ∃ e, .error e ∈ reads ∧ e.kind ≠ .interrupted ∧ cause = .io "read failed" e := by
  unfold runOn at h
  cases hallocated : StagedDecoder.allocate capacity with
  | error crash =>
      rw [hallocated] at h
      cases h
  | ok d =>
      simp only [hallocated] at h
      cases hresult : (capture (Report.frame format s.stamp) d reads).2 with
      | error e =>
          simp only [hresult] at h
          cases Surroundings.ending_of_failed h
          exact capture_error reads d hresult
      | ok d' =>
          simp only [hresult] at h
          cases Surroundings.ending_of_failed h

/-- Decoding a capture does not fail, whatever the capture holds and however reads
bring it, as long as its store can be set aside. Every byte of it is in a frame that
was printed, was discarded, waits at the end, or was lost with a store and a chunk.
If decoding ends with a failure after all, a read failed. -/
theorem decode_accounts_for_the_capture (s : Surroundings) (format : OutputFormat) (t : DecodeJob)
    (hcapacity : t.stagingCapacity.toNat ≤ maxAllocation) :
    let capacity := t.stagingCapacity.toNat
    (∀ reads chunks, Delivers reads chunks →
      ∃ fs d, Decodes s format capacity chunks (runOn s format capacity reads) fs d) ∧
    (∀ bytes, content s t = some bytes →
      ∃ chunks fs d, chunks.flatten = bytes ∧
        Decodes s format capacity chunks (run s format t) fs d) ∧
    (∀ reads cause, (runOn s format capacity reads).conclusion = .failed cause →
      ∃ e, .error e ∈ reads ∧ e.kind ≠ .interrupted ∧ cause = .io "read failed" e) ∧
    (∀ reads, inputReads s t = .ok reads → run s format t = runOn s format capacity reads) := by
  intro capacity
  refine ⟨fun _ _ h => decodes_runOn hcapacity h s format, ?_, fun _ _ h => runOn_failed h,
    fun _ h => run_eq_runOn h⟩
  intro bytes hcontent
  have hdelivers := delivers_map (ne_nil_of_mem_pieces Surroundings.readSize bytes)
  obtain ⟨fs, d, hdecodes⟩ := decodes_runOn hcapacity hdelivers s format
  rw [← run_eq_runOn (inputReads_of_content hcontent)] at hdecodes
  exact ⟨_, fs, d, flatten_pieces (by decide) bytes, hdecodes⟩

/-- A store for twelve bytes: a capture that fits, and reads of one that does not, with
an interruption between them. The second chunk is lost together with the byte that
was staged before it. -/
theorem decode_accounts_for_a_lost_chunk :
    let f : Frame := ⟨4, [5, 7], by decide⟩
    let t : DecodeJob := ⟨none, 12⟩
    let s : Surroundings := {
      files := fun _ => .ok .terminal
      device := ⟨[], .ofScript []⟩
      input := 0xEE :: f.wire, outputFault := none, now := ⟨0, 0⟩, stamp := ""
      calledOff := false }
    let chunks := [f.wire ++ [0x0D], List.replicate 12 9, f.wire]
    let reads := [.ok (f.wire ++ [0x0D]), .error (.bare .interrupted),
      .ok (List.replicate 12 9), .ok f.wire]
    t.stagingCapacity.toNat ≤ maxAllocation ∧ Delivers reads chunks ∧
      content s t = some (0xEE :: f.wire) ∧
      (run s .raw t).conclusion = .exited .success ∧ (run s .raw t).printed = f.wire ∧
      (runOn s .raw 12 reads).conclusion = .exited .success ∧
      (runOn s .raw 12 reads).printed = f.wire ++ f.wire ∧
      ∃ fs d, Decodes s .raw 12 chunks (runOn s .raw 12 reads) fs d ∧
        fs.flatMap Frame.wire = f.wire ++ f.wire ∧ d.stats.overflowResets = 1 ∧
        33 = (fs.map Frame.wireSize).sum + d.stats.resyncBytes + d.pending.length + 13 := by
  intro f t s chunks reads
  have hcapacity : t.stagingCapacity.toNat ≤ maxAllocation := by decide
  have hdelivers : Delivers reads chunks :=
    .chunk (by decide) (.interrupted rfl (.chunk (by decide) (.chunk (by decide) .silent)))
  have hlosses : (StagedDecoder.empty 12).losses chunks = [([0x0D], List.replicate 12 9)] := by
    decide +kernel
  have hprinted : (runOn s .raw 12 reads).printed = f.wire ++ f.wire := by decide +kernel
  obtain ⟨hreads, hcontent, -, -⟩ := decode_accounts_for_the_capture s .raw t hcapacity
  obtain ⟨_, _, _, _, hrun⟩ := hcontent (0xEE :: f.wire) rfl
  obtain ⟨fs, d, h⟩ := hreads reads chunks hdelivers
  have hresets := h.resets
  have hbytes := h.bytes
  simp only [show t.stagingCapacity.toNat = 12 from rfl, hlosses] at hresets hbytes
  exact ⟨hcapacity, hdelivers, rfl, hrun.success (.inl rfl), by decide +kernel,
    h.success (.inl rfl), hprinted, fs, d, h, (h.raw rfl rfl).symm.trans hprinted, hresets, hbytes⟩

/-- Nobody can set aside a store for more bytes than a signed word counts. -/
theorem decode_crashes_on_a_vast_store :
    let s : Surroundings := {
      files := fun _ => .ok .terminal
      device := ⟨[], .ofScript []⟩
      input := [], outputFault := none, now := ⟨0, 0⟩, stamp := "", calledOff := false }
    content s ⟨none, 9223372036854775808⟩ = some [] ∧
      (run s .json ⟨none, 9223372036854775808⟩).conclusion = .crashed .capacityOverflow ∧
      Delivers [] [] ∧
      (runOn s .json (9223372036854775808 : UInt64).toNat []).conclusion =
        .crashed .capacityOverflow := by
  exact ⟨rfl, rfl, .silent, rfl⟩

end Decode

end FramedSerial
