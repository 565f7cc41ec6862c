import FramedSerial.Command.Decode
import FramedSerial.Proofs.Pumping
import FramedSerial.Proofs.Routing
import FramedSerial.Proofs.Segmentation

/-!
# When split frames come through

A reader cuts a stream of frames wherever it likes, and the decoder has to take
in a whole read before it takes out a frame. So a frame that would fit in the
store may still be lost: its beginning waits there, and the read that brings
its end brings more, and there is no room for both. The store is cleared then,
as for any chunk that does not fit.

Nothing else decides. While the reads fit, the decoder is where draining the
bytes so far would be, and what waits is the beginning of the frame that was
cut, so whether the next read fits can be told from the sizes of the frames and
the reads alone (`Fits`). Once a read does not fit its bytes are gone, and the
frames that come out are too short, all together, to be the frames that were
sent.
-/

namespace FramedSerial

/-! ## Frames in a row -/

/-- How many of the first `n` bytes of these wires belong to a frame that is
not complete yet. -/
def unfinished : List Frame → Nat → Nat
  | [], n => n
  | f :: fs, n => if n < f.wireSize then n else unfinished fs (n - f.wireSize)

/-- Every read finds room beside what waits of the frame it starts in. The
first read starts at this position. -/
def Fits (capacity : Nat) (fs : List Frame) : Nat → List Bytes → Prop
  | _, [] => True
  | n, c :: later =>
    unfinished fs n + c.length ≤ capacity ∧ Fits capacity fs (n + c.length) later

instance instDecidableFits (capacity : Nat) (fs : List Frame) :
    ∀ (n : Nat) (reads : List Bytes), Decidable (Fits capacity fs n reads)
  | _, [] => .isTrue trivial
  | n, c :: later =>
    have := instDecidableFits capacity fs (n + c.length) later
    inferInstanceAs (Decidable (_ ∧ _))

variable {capacity : Nat} {fs : List Frame}

/-- A frame that is cut anywhere is waited for. -/
theorem scan_of_cut_wire {f : Frame} (hf : f.wireSize ≤ capacity) {s t : Bytes}
    (hcut : s ++ t = f.wire) (ht : t ≠ []) : scan capacity s = .wait := by
  have hwire : scan capacity (s ++ t) = .frame f [] := by
    have hscan := scan_wire hf []
    rwa [List.append_nil, ← hcut] at hscan
  cases hs : scan capacity s with
  | wait => rfl
  | frame g rest =>
      rw [scan_append_of_frame hs t] at hwire
      injection hwire with _ hrest
      exact absurd (List.append_eq_nil_iff.1 hrest).2 ht
  | discard c rest =>
      rw [scan_append_of_discard hs t] at hwire
      cases hwire

/-- What waits after a part of the wires is the beginning of the frame that was
cut. -/
theorem length_rest_drain (hfit : ∀ f ∈ fs, f.wireSize ≤ capacity) {s t : Bytes}
    (h : s ++ t = fs.flatMap Frame.wire) :
    (drain capacity s).rest.length = unfinished fs s.length := by
  induction fs generalizing s with
  | nil =>
      obtain ⟨rfl, -⟩ := List.append_eq_nil_iff.1 h
      rw [drain_of_wait (scan_of_undecided (.inl (by decide)))]
      rfl
  | cons f fs ih =>
      obtain ⟨hf, hmore⟩ := List.forall_mem_cons.1 hfit
      rw [List.flatMap_cons] at h
      rw [unfinished]
      by_cases hlt : s.length < f.wireSize
      · rw [if_pos hlt]
        rw [← f.length_wire] at hlt
        obtain ⟨u, hu⟩ := List.prefix_of_prefix_length_le ⟨t, h⟩ (List.prefix_append _ _)
          (Nat.le_of_lt hlt)
        have hne : u ≠ [] := by
          rintro rfl
          rw [← hu, List.append_nil] at hlt
          omega
        rw [drain_of_wait (scan_of_cut_wire hf hu hne)]
        rfl
      · rw [if_neg hlt]
        rw [← f.length_wire] at hlt
        obtain ⟨u, rfl⟩ := List.prefix_of_prefix_length_le (List.prefix_append _ _) ⟨t, h⟩
          (Nat.le_of_not_lt hlt)
        rw [List.append_assoc] at h
        rw [drain_of_frame (scan_wire hf u), Drain.rest_andThen,
          ih hmore (List.append_cancel_left h), List.length_append, Frame.length_wire,
          Nat.add_sub_cancel_left]

theorem unfinished_eq_zero_or_lt {n : Nat} (hn : n ≤ (fs.flatMap Frame.wire).length) :
    unfinished fs n = 0 ∨ ∃ f ∈ fs, unfinished fs n < f.wireSize := by
  induction fs generalizing n with
  | nil => exact .inl (Nat.le_zero.1 hn)
  | cons f fs ih =>
      rw [List.flatMap_cons, List.length_append, Frame.length_wire] at hn
      rw [unfinished]
      by_cases hlt : n < f.wireSize
      · rw [if_pos hlt]
        exact .inr ⟨f, List.mem_cons_self, hlt⟩
      · rw [if_neg hlt]
        rcases ih (n := n - f.wireSize) (by omega) with hzero | ⟨g, hg, hless⟩
        · exact .inl hzero
        · exact .inr ⟨g, List.mem_cons_of_mem f hg, hless⟩

theorem unfinished_le (fs : List Frame) (n : Nat) : unfinished fs n ≤ n := by
  induction fs generalizing n with
  | nil => exact Nat.le_refl n
  | cons f fs ih =>
      rw [unfinished]
      split
      · exact Nat.le_refl n
      · exact Nat.le_trans (ih _) (Nat.sub_le n f.wireSize)

/-- Reads fit that are no longer, all together, than the store is. -/
theorem fits_of_length_le {reads : List Bytes} :
    ∀ {n : Nat}, n + reads.flatten.length ≤ capacity → Fits capacity fs n reads := by
  induction reads with
  | nil => exact fun _ => trivial
  | cons c later ih =>
      intro n h
      rw [List.flatten_cons, List.length_append] at h
      have hle := unfinished_le fs n
      exact ⟨by omega, ih (by omega)⟩

/-! ## Reads fed one after another -/

namespace StagedDecoder

/-- Feed chunks one after another, and take out every frame each time. -/
def feedAll (d : StagedDecoder) : List Bytes → List Frame × StagedDecoder
  | [] => ([], d)
  | chunk :: later =>
    let r := d.feed chunk
    let more := r.2.feedAll later
    (r.1 ++ more.1, more.2)

variable {d : StagedDecoder} {chunk : Bytes}

theorem feed_of_fits (hne : chunk ≠ [])
    (hfits : d.pending.length + chunk.length ≤ d.capacity) :
    d.feed chunk = ((drain d.capacity (d.pending ++ chunk)).frames,
      d.afterDrain (drain d.capacity (d.pending ++ chunk))) := by
  rw [feed_value, if_neg hne, if_neg (Nat.not_lt_of_le hfits)]

theorem feed_of_overflow (hne : chunk ≠ [])
    (hover : d.capacity < d.pending.length + chunk.length) :
    d.feed chunk = ([], { d with
      pending := []
      stats := { d.stats with overflowResets := d.stats.overflowResets + 1 } }) := by
  rw [feed_value, if_neg hne, if_pos hover]

theorem length_frames_drain_le (capacity : Nat) (s : Bytes) :
    ((drain capacity s).frames.map Frame.wireSize).sum + (drain capacity s).rest.length ≤
      s.length := by
  have hlength := length_drain capacity s
  omega

/-- Each reset costs a byte at least, which neither comes out in a frame nor
waits. -/
theorem length_feed_le (hne : chunk ≠ []) :
    ((d.feed chunk).1.map Frame.wireSize).sum + (d.feed chunk).2.pending.length +
      (d.feed chunk).2.stats.overflowResets ≤
    d.pending.length + d.stats.overflowResets + chunk.length := by
  by_cases hover : d.capacity < d.pending.length + chunk.length
  · have hpos := List.length_pos_iff.2 hne
    rw [feed_of_overflow hne hover]
    simp only [List.map_nil, List.sum_nil, List.length_nil]
    omega
  · have hle := length_frames_drain_le d.capacity (d.pending ++ chunk)
    rw [List.length_append] at hle
    rw [feed_of_fits hne (Nat.le_of_not_lt hover)]
    show ((drain d.capacity (d.pending ++ chunk)).frames.map Frame.wireSize).sum +
      (drain d.capacity (d.pending ++ chunk)).rest.length + d.stats.overflowResets ≤ _
    omega

theorem overflowResets_le_feed (hne : chunk ≠ []) :
    d.stats.overflowResets ≤ (d.feed chunk).2.stats.overflowResets := by
  by_cases hover : d.capacity < d.pending.length + chunk.length
  · rw [feed_of_overflow hne hover]
    exact Nat.le_succ _
  · rw [feed_of_fits hne (Nat.le_of_not_lt hover)]
    exact Nat.le_refl _

theorem length_feedAll_le {reads : List Bytes} (hreads : ∀ c ∈ reads, c ≠ []) :
    ((d.feedAll reads).1.map Frame.wireSize).sum + (d.feedAll reads).2.pending.length +
      (d.feedAll reads).2.stats.overflowResets ≤
    d.pending.length + d.stats.overflowResets + reads.flatten.length := by
  induction reads generalizing d with
  | nil =>
      simp only [feedAll, List.map_nil, List.sum_nil, List.flatten_nil, List.length_nil]
      omega
  | cons c later ih =>
      obtain ⟨hne, hlater⟩ := List.forall_mem_cons.1 hreads
      have hone := length_feed_le (d := d) hne
      have hmore := ih (d := (d.feed c).2) hlater
      simp only [feedAll, List.map_append, List.sum_append, List.flatten_cons,
        List.length_append]
      omega

theorem overflowResets_le_feedAll {reads : List Bytes} (hreads : ∀ c ∈ reads, c ≠ []) :
    d.stats.overflowResets ≤ (d.feedAll reads).2.stats.overflowResets := by
  induction reads generalizing d with
  | nil => exact Nat.le_refl _
  | cons c later ih =>
      obtain ⟨hne, hlater⟩ := List.forall_mem_cons.1 hreads
      exact Nat.le_trans (overflowResets_le_feed hne) (ih hlater)

/-! ### Up to the first read that does not fit -/

/-- A read that fits leaves the decoder where draining everything up to the
end of it would. -/
theorem feed_of_drained {s : Bytes} (hne : chunk ≠ [])
    (hroom : (drain capacity s).rest.length + chunk.length ≤ capacity) :
    ((empty capacity).afterDrain (drain capacity s)).feed chunk =
      ((drain capacity ((drain capacity s).rest ++ chunk)).frames,
        (empty capacity).afterDrain (drain capacity (s ++ chunk))) := by
  rw [feed_of_fits hne hroom, drain_append capacity s chunk, afterDrain_andThen]
  rfl

theorem feedAll_of_fits (hfit : ∀ f ∈ fs, f.wireSize ≤ capacity) {reads : List Bytes}
    (hreads : ∀ c ∈ reads, c ≠ []) {s : Bytes} (h : s ++ reads.flatten = fs.flatMap Frame.wire)
    (hroom : Fits capacity fs s.length reads) :
    let r := ((empty capacity).afterDrain (drain capacity s)).feedAll reads
    (drain capacity s).frames ++ r.1 = fs ∧ r.2 = ⟨capacity, [], ⟨fs.length, 0, 0⟩⟩ := by
  induction reads generalizing s with
  | nil =>
      rw [List.flatten_nil, List.append_nil] at h
      rw [h, drain_wires hfit]
      refine ⟨List.append_nil fs, ?_⟩
      simp [feedAll, afterDrain, empty, DecodeStats.afterDrain, DecodeStats.zero]
  | cons c later ih =>
      obtain ⟨hne, hmore⟩ := List.forall_mem_cons.1 hreads
      obtain ⟨hfirst, hlater⟩ := hroom
      rw [← length_rest_drain hfit h] at hfirst
      rw [List.flatten_cons, ← List.append_assoc] at h
      rw [← List.length_append] at hlater
      obtain ⟨hframes, hend⟩ := ih hmore h hlater
      have hcut : (drain capacity (s ++ c)).frames =
          (drain capacity s).frames ++ (drain capacity ((drain capacity s).rest ++ c)).frames := by
        rw [drain_append, Drain.frames_andThen]
      rw [hcut, List.append_assoc] at hframes
      simp only [feedAll]
      rw [feed_of_drained hne hfirst]
      exact ⟨hframes, hend⟩

theorem feedAll_wires (hfit : ∀ f ∈ fs, f.wireSize ≤ capacity) {reads : List Bytes}
    (hreads : ∀ c ∈ reads, c ≠ []) (h : reads.flatten = fs.flatMap Frame.wire)
    (hroom : Fits capacity fs 0 reads) :
    (empty capacity).feedAll reads = (fs, ⟨capacity, [], ⟨fs.length, 0, 0⟩⟩) := by
  have hall := feedAll_of_fits hfit hreads ((List.nil_append _).trans h) hroom
  rw [drain_nil] at hall
  exact Prod.ext hall.1 hall.2

theorem overflowResets_of_not_fits (hfit : ∀ f ∈ fs, f.wireSize ≤ capacity)
    {reads : List Bytes} (hreads : ∀ c ∈ reads, c ≠ []) {s : Bytes}
    (h : s ++ reads.flatten = fs.flatMap Frame.wire) (hroom : ¬ Fits capacity fs s.length reads) :
    0 < (((empty capacity).afterDrain (drain capacity s)).feedAll
      reads).2.stats.overflowResets := by
  induction reads generalizing s with
  | nil => exact absurd trivial hroom
  | cons c later ih =>
      obtain ⟨hne, hmore⟩ := List.forall_mem_cons.1 hreads
      have hwaiting := length_rest_drain hfit h
      simp only [feedAll]
      by_cases hfirst : unfinished fs s.length + c.length ≤ capacity
      · have hlater : ¬ Fits capacity fs (s ++ c).length later := by
          rw [List.length_append]
          exact fun hlater => hroom ⟨hfirst, hlater⟩
        rw [List.flatten_cons, ← List.append_assoc] at h
        rw [← hwaiting] at hfirst
        rw [feed_of_drained hne hfirst]
        exact ih hmore h hlater
      · -- the reset is counted now, and later reads take nothing back
        rw [← hwaiting] at hfirst
        rw [feed_of_overflow hne (Nat.lt_of_not_le hfirst)]
        refine Nat.lt_of_lt_of_le ?_ (overflowResets_le_feedAll hmore)
        exact Nat.succ_pos _

end StagedDecoder

/-! ## The two loops that read -/

theorem Delivery.routeAll_append (q : Delivery) (fs gs : List Frame) :
    q.routeAll (fs ++ gs) = (q.routeAll fs).routeAll gs :=
  List.foldl_append ..

/-- A turn that brings bytes. -/
def LineTurn.brings (chunk : Bytes) : LineTurn := ⟨false, .ok chunk⟩

theorem Intake.pumpFrom_reads {reads : List Bytes} (hreads : ∀ c ∈ reads, c ≠ []) :
    ∀ (total n : Nat) (i : Intake),
      (i.pumpFrom true total n (reads.map .brings)).value =
        ⟨.ok (total + reads.flatten.length), n + reads.length + 1,
          ⟨(i.decoder.feedAll reads).2, i.queue.routeAll (i.decoder.feedAll reads).1⟩⟩ := by
  induction reads with
  | nil => intro total n i; rfl
  | cons c later ih =>
      intro total n i
      obtain ⟨hne, hlater⟩ := List.forall_mem_cons.1 hreads
      have hgoes : (LineTurn.brings c).goesOn = true := by
        simpa [LineTurn.goesOn, LineTurn.brings] using hne
      have hreceived : (i.receive c).value.2 =
          ⟨(i.decoder.feed c).2, i.queue.routeAll (i.decoder.feed c).1⟩ :=
        congrArg Prod.snd (i.receive_value c)
      rw [List.map_cons, pumpFrom_of_goesOn hgoes]
      show (pumpFrom true (total + [c].flatten.length) (n + 1) (i.receive c).value.2
        (later.map .brings)).value = _
      rw [hreceived, List.flatten_singleton, ih hlater, StagedDecoder.feedAll,
        Delivery.routeAll_append, List.flatten_cons, List.length_append, List.length_cons,
        Nat.add_assoc, Nat.add_right_comm n]
      rfl

/-- A chunk is fed to the decoder, and the frames that come out are reported. -/
theorem Decode.capture_cons {chunk : Bytes} (hne : chunk ≠ []) (report : Frame → List Output)
    (d : StagedDecoder) (later : List (Except IoError Bytes)) :
    capture report d (.ok chunk :: later) =
      ((d.feed chunk).1.flatMap report ++ (capture report (d.feed chunk).2 later).1,
        (capture report (d.feed chunk).2 later).2) := by
  rw [capture, StagedDecoder.stage_value, if_neg hne]
  · by_cases hover : d.capacity < d.pending.length + chunk.length
    · rw [if_pos hover, StagedDecoder.feed_of_overflow hne hover]
      rfl
    · rw [if_neg hover, StagedDecoder.feed_of_fits hne (Nat.le_of_not_lt hover)]
      simp only [StagedDecoder.takeAll_value]
      rfl
  · exact hne

theorem Decode.capture_reads {reads : List Bytes} (hreads : ∀ c ∈ reads, c ≠ [])
    (report : Frame → List Output) :
    ∀ d : StagedDecoder, capture report d (reads.map .ok) =
      ((d.feedAll reads).1.flatMap report, .ok (d.feedAll reads).2) := by
  induction reads with
  | nil => intro d; rfl
  | cons c later ih =>
      intro d
      obtain ⟨hne, hlater⟩ := List.forall_mem_cons.1 hreads
      rw [List.map_cons, capture_cons hne, ih hlater, StagedDecoder.feedAll, List.flatMap_append]

/-! ## What comes through -/

theorem fits_of_small (hcapacity : 256 ≤ capacity)
    (hsmall : ∀ f ∈ fs, f.wireSize + 255 ≤ capacity) {reads : List Bytes}
    (hreads : ∀ c ∈ reads, c.length ≤ 256) :
    ∀ {n : Nat}, n + reads.flatten.length = (fs.flatMap Frame.wire).length →
      Fits capacity fs n reads := by
  induction reads with
  | nil => intro n _; trivial
  | cons c later ih =>
      intro n h
      obtain ⟨hshort, hmore⟩ := List.forall_mem_cons.1 hreads
      rw [List.flatten_cons, List.length_append] at h
      have hinside : n ≤ (fs.flatMap Frame.wire).length := by omega
      refine ⟨?_, ih hmore (by omega)⟩
      rcases unfinished_eq_zero_or_lt hinside with hzero | ⟨f, hf, hlt⟩
      · omega
      · have hroom := hsmall f hf
        omega

/-- Frames that are cut into reads come through, each once and in order and
with nothing left of them, exactly if every read fits. Where one does not, a
reset is counted and a frame is missing. Small frames always come through. -/
theorem frames_of_reads (hcapacity : 256 ≤ capacity) (hfit : ∀ f ∈ fs, f.wireSize ≤ capacity)
    {reads : List Bytes} (hreads : ∀ c ∈ reads, 1 ≤ c.length ∧ c.length ≤ 256)
    (hbytes : reads.flatten = fs.flatMap Frame.wire) (queue : Delivery)
    (report : Frame → List Output) :
    ∃ frames d,
      (Intake.pump ⟨.empty capacity, queue⟩ true (reads.map .brings)).value =
        ⟨.ok reads.flatten.length, reads.length + 1, ⟨d, queue.routeAll frames⟩⟩ ∧
      Decode.capture report (.empty capacity) (reads.map .ok) =
        (frames.flatMap report, .ok d) ∧
      (Fits capacity fs 0 reads → frames = fs ∧ d = ⟨capacity, [], ⟨fs.length, 0, 0⟩⟩) ∧
      (¬ Fits capacity fs 0 reads → frames ≠ fs ∧ 0 < d.stats.overflowResets) ∧
      ((∀ f ∈ fs, f.wireSize + 255 ≤ capacity) → Fits capacity fs 0 reads) := by
  have hne : ∀ c ∈ reads, c ≠ [] := fun c hc => List.length_pos_iff.1 (hreads c hc).1
  have hnil : drain capacity [] = .nothing [] :=
    drain_of_wait (scan_of_undecided (.inl (by decide)))
  have hstart : (StagedDecoder.empty capacity).afterDrain (.nothing []) = .empty capacity := rfl
  have hwhole : [] ++ reads.flatten = fs.flatMap Frame.wire := hbytes
  refine ⟨_, _, ?_, Decode.capture_reads hne report _, ?_, ?_, ?_⟩
  · rw [Intake.pump, Intake.pumpFrom_reads hne, Nat.zero_add, Nat.zero_add]
  · intro hroom
    have hall := StagedDecoder.feedAll_of_fits hfit hne hwhole hroom
    rw [hnil, hstart] at hall
    exact hall
  · intro hroom
    have hreset := StagedDecoder.overflowResets_of_not_fits hfit hne hwhole hroom
    rw [hnil, hstart] at hreset
    refine ⟨?_, hreset⟩
    intro hsame
    -- the reset took a byte, and there is none to spare
    have hle := StagedDecoder.length_feedAll_le (d := .empty capacity) hne
    have hsizes : (fs.flatMap Frame.wire).length = (fs.map Frame.wireSize).sum := by
      simp only [List.length_flatMap, Frame.length_wire]
    rw [hsame, hbytes, hsizes] at hle
    simp only [StagedDecoder.empty, DecodeStats.zero, List.length_nil] at hle hreset
    omega
  · intro hsmall
    refine fits_of_small hcapacity hsmall (fun c hc => (hreads c hc).2) ?_
    rw [Nat.zero_add, hbytes]

/-- A frame as large as the store, in two reads, and one right behind it. -/
theorem frames_of_reads_to_the_brim :
    let fs : List Frame := [⟨1, List.replicate 248 9, by decide +kernel⟩, ⟨4, [5, 7], by decide⟩]
    let s := fs.flatMap Frame.wire
    let reads := [s.take 100, (s.drop 100).take 156, s.drop 256]
    let queue := Delivery.ofDefaultCapacity
    let report : Frame → List Output := fun f => [.bytes f.wire]
    (∀ f ∈ fs, f.wireSize ≤ 256) ∧ (∀ c ∈ reads, 1 ≤ c.length ∧ c.length ≤ 256) ∧
      reads.flatten = fs.flatMap Frame.wire ∧ Fits 256 fs 0 reads ∧
      (Intake.pump ⟨.empty 256, queue⟩ true (reads.map .brings)).value =
        ⟨.ok 266, 4, ⟨⟨256, [], ⟨2, 0, 0⟩⟩, queue.routeAll fs⟩⟩ ∧
      Decode.capture report (.empty 256) (reads.map .ok) =
        (fs.flatMap report, .ok ⟨256, [], ⟨2, 0, 0⟩⟩) := by
  intro fs s reads queue report
  have hfit : ∀ f ∈ fs, f.wireSize ≤ 256 := by decide +kernel
  have hreads : ∀ c ∈ reads, 1 ≤ c.length ∧ c.length ≤ 256 := by decide +kernel
  have hbytes : reads.flatten = fs.flatMap Frame.wire := by decide +kernel
  have hroom : Fits 256 fs 0 reads := by decide +kernel
  have hlength : reads.flatten.length = 266 := by decide +kernel
  obtain ⟨frames, d, hpump, hcapture, hwhole, -, -⟩ :=
    frames_of_reads (Nat.le_refl 256) hfit hreads hbytes queue report
  obtain ⟨rfl, rfl⟩ := hwhole hroom
  rw [hlength] at hpump
  exact ⟨hfit, hreads, hbytes, hroom, hpump, hcapture⟩

/-- Two frames that would fit in the store, and a read that does not. -/
theorem frames_lost_to_a_long_read :
    let fs : List Frame := [⟨1, List.replicate 241 9, by decide +kernel⟩, ⟨2, [], by decide⟩]
    let s := fs.flatMap Frame.wire
    let reads := [s.take 1, s.drop 1]
    let queue := Delivery.ofDefaultCapacity
    let report : Frame → List Output := fun f => [.bytes f.wire]
    (∀ f ∈ fs, f.wireSize ≤ 256) ∧ (∀ c ∈ reads, 1 ≤ c.length ∧ c.length ≤ 256) ∧
      reads.flatten = fs.flatMap Frame.wire ∧
      (Intake.pump ⟨.empty 256, queue⟩ true (reads.map .brings)).value =
        ⟨.ok 257, 3, ⟨⟨256, [], ⟨0, 0, 1⟩⟩, queue⟩⟩ ∧
      Decode.capture report (.empty 256) (reads.map .ok) =
        ([], .ok ⟨256, [], ⟨0, 0, 1⟩⟩) := by
  intro fs s reads queue report
  have hfit : ∀ f ∈ fs, f.wireSize ≤ 256 := by decide +kernel
  have hreads : ∀ c ∈ reads, 1 ≤ c.length ∧ c.length ≤ 256 := by decide +kernel
  have hbytes : reads.flatten = fs.flatMap Frame.wire := by decide +kernel
  have hlength : reads.flatten.length = 257 := by decide +kernel
  have hne : ∀ c ∈ reads, c ≠ [] := fun c hc => List.length_pos_iff.1 (hreads c hc).1
  have hfed : (StagedDecoder.empty 256).feedAll reads = ([], ⟨256, [], ⟨0, 0, 1⟩⟩) := by
    decide +kernel
  refine ⟨hfit, hreads, hbytes, ?_, ?_⟩
  · rw [Intake.pump, Intake.pumpFrom_reads hne, hfed, hlength]
    rfl
  · rw [Decode.capture_reads hne, hfed]
    rfl

end FramedSerial
