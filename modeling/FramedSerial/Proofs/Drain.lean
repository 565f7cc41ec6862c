import FramedSerial.Decoder.Staged
import FramedSerial.Decoder.Stream
import FramedSerial.Proofs.Scan

/-!
# Both decoders drain a stream

`drain` repeats `pull`, and `pull` repeats `scan`; the two decoders repeat
`pull` with their counters beside it. So there is one loop, and it is followed
here one look at a time: `scan_induction` is that recursion as an induction
principle.

The statement that everything else rests on is `drain_append`. Draining a
stream and then what is left of it with more bytes behind gives what draining
all of it at once gives. Nothing has to be known about where the first stream
ends, because a look that was decided stays decided and a look that was not
took nothing away.
-/

namespace FramedSerial

/-! ## One look at a time -/

theorem eq_wire_of_scan {capacity : Nat} {s rest : Bytes} {f : Frame}
    (h : scan capacity s = .frame f rest) :
    s = f.wire ++ rest ∧ f.wireSize ≤ capacity := by
  obtain ⟨hcomplete, hwire, rfl⟩ := complete_of_scan h
  have hsplit : f.wire ++ s.drop (announced s) = s := by
    rw [hwire, List.take_append_drop]
  refine ⟨hsplit.symm, ?_⟩
  have hfits := hcomplete.opens.fits
  rwa [← hsplit, announced_wire] at hfits

theorem scan_append_of_frame {capacity : Nat} {s rest : Bytes} {f : Frame}
    (h : scan capacity s = .frame f rest) (t : Bytes) :
    scan capacity (s ++ t) = .frame f (rest ++ t) := by
  obtain ⟨rfl, hf⟩ := eq_wire_of_scan h
  rw [List.append_assoc]
  exact scan_wire hf _

theorem scan_append_of_discard {capacity : Nat} {s rest : Bytes} {c : Corruption}
    (h : scan capacity s = .discard c rest) (t : Bytes) :
    scan capacity (s ++ t) = .discard c (rest ++ t) := by
  obtain ⟨s0, s1, s2, s3, t0, t1, n0, n1, body, rfl⟩ :=
    exists_header (refuses_of_scan h).long
  simp only [List.cons_append]
  simp only [scan] at h ⊢
  split at h
  · next hsigned =>
      rw [if_pos hsigned]
      cases h
      rfl
  · next hsigned =>
      rw [if_neg hsigned]
      split at h
      · next hover =>
          rw [if_pos hover]
          cases h
          rfl
      · split at h <;> cases h

/-- The recursion of every decoding loop: a look either waits, or takes
something off the head of the stream and leaves the rest to the loop. -/
@[elab_as_elim]
theorem scan_induction (capacity : Nat) {motive : Bytes → Prop}
    (wait : ∀ s, scan capacity s = .wait → motive s)
    (frame : ∀ s f rest, scan capacity s = .frame f rest → motive rest → motive s)
    (discard : ∀ s c rest, scan capacity s = .discard c rest → motive rest → motive s)
    (s : Bytes) : motive s := by
  induction s using (measure List.length).wf.induction with
  | _ s ih =>
      cases hs : scan capacity s with
      | wait => exact wait s hs
      | frame f rest =>
          have hlt := length_lt_of_scan_frame hs
          have hpos : 0 < headerSize := by decide
          exact frame s f rest hs (ih rest (show rest.length < s.length by omega))
      | discard c rest =>
          exact discard s c rest hs (ih rest (length_lt_of_scan_discard hs))

/-! ## Draining -/

namespace Drain

def nothing (s : Bytes) : Drain := ⟨[], s, []⟩

/-- What is drained first, and what is drained from there. -/
def andThen (a b : Drain) : Drain :=
  ⟨a.frames ++ b.frames, b.rest, a.discarded ++ b.discarded⟩

theorem andThen_assoc (a b c : Drain) :
    (a.andThen b).andThen c = a.andThen (b.andThen c) := by
  simp only [andThen, List.append_assoc]

@[simp] theorem nothing_andThen (s : Bytes) (a : Drain) :
    (nothing s).andThen a = a := rfl

@[simp] theorem rest_andThen (a b : Drain) : (a.andThen b).rest = b.rest := rfl

@[simp] theorem frames_andThen (a b : Drain) :
    (a.andThen b).frames = a.frames ++ b.frames := rfl

@[simp] theorem discarded_andThen (a b : Drain) :
    (a.andThen b).discarded = a.discarded ++ b.discarded := rfl

end Drain

/-- A pull as a part of a drain. -/
def Pull.toDrain (p : Pull) : Drain := ⟨p.frame?.toList, p.rest, p.discarded⟩

@[simp] theorem Pull.frames_toDrain (p : Pull) :
    p.toDrain.frames = p.frame?.toList := rfl

theorem drain_of_pull_none {capacity : Nat} {s : Bytes}
    (h : (pull capacity s).frame? = none) :
    drain capacity s = (pull capacity s).toDrain := by
  rw [drain]
  split
  · rw [Pull.toDrain, h]
    rfl
  · next f hf => rw [h] at hf; cases hf

theorem drain_of_pull_some {capacity : Nat} {s : Bytes} {f : Frame}
    (h : (pull capacity s).frame? = some f) :
    drain capacity s =
      (pull capacity s).toDrain.andThen (drain capacity (pull capacity s).rest) := by
  rw [drain]
  split
  · next hf => rw [h] at hf; cases hf
  · next g hg =>
      rw [Pull.toDrain, hg]
      rfl

theorem drain_of_wait {capacity : Nat} {s : Bytes} (h : scan capacity s = .wait) :
    drain capacity s = .nothing s := by
  have hp := pull_of_wait h
  rw [drain_of_pull_none (by rw [hp]), hp]
  rfl

theorem drain_nil (capacity : Nat) : drain capacity [] = .nothing [] :=
  drain_of_wait (scan_of_undecided (.inl (by decide)))

theorem drain_of_frame {capacity : Nat} {s rest : Bytes} {f : Frame}
    (h : scan capacity s = .frame f rest) :
    drain capacity s = (Drain.mk [f] rest []).andThen (drain capacity rest) := by
  have hp := pull_of_frame h
  rw [drain_of_pull_some (f := f) (by rw [hp]), hp]
  rfl

theorem drain_of_discard {capacity : Nat} {s rest : Bytes} {c : Corruption}
    (h : scan capacity s = .discard c rest) :
    drain capacity s = (Drain.mk [] rest [c]).andThen (drain capacity rest) := by
  have hp := pull_of_discard h
  cases hf : (pull capacity rest).frame? with
  | none =>
      rw [drain_of_pull_none (s := s) (by rw [hp]; exact hf), hp, drain_of_pull_none hf]
      rfl
  | some f =>
      rw [drain_of_pull_some (s := s) (f := f) (by rw [hp]; exact hf), hp,
        drain_of_pull_some hf]
      rfl

/-- Draining is pulling once and draining what the pull leaves, also when the
pull finds no frame: it leaves nothing to take off then. -/
theorem drain_eq_pull_andThen (capacity : Nat) (s : Bytes) :
    drain capacity s =
      (pull capacity s).toDrain.andThen (drain capacity (pull capacity s).rest) := by
  induction s using scan_induction capacity with
  | wait s hs =>
      rw [pull_of_wait hs, drain_of_wait hs]
      rfl
  | frame s f rest hs _ =>
      rw [pull_of_frame hs, drain_of_frame hs]
      rfl
  | discard s c rest hs ih =>
      rw [drain_of_discard hs, ih, pull_of_discard hs]
      rfl

/-- A stream may be drained before all of it is there. -/
theorem drain_append (capacity : Nat) (s t : Bytes) :
    drain capacity (s ++ t) =
      (drain capacity s).andThen (drain capacity ((drain capacity s).rest ++ t)) := by
  -- on the looks at `s` alone; the bytes behind it change none that was decided
  induction s using scan_induction capacity with
  | wait s hs =>
      rw [drain_of_wait hs]
      rfl
  | frame s f rest hs ih =>
      rw [drain_of_frame (scan_append_of_frame hs t), drain_of_frame hs, ih,
        Drain.andThen_assoc, Drain.rest_andThen]
      rfl
  | discard s c rest hs ih =>
      rw [drain_of_discard (scan_append_of_discard hs t), drain_of_discard hs, ih,
        Drain.andThen_assoc, Drain.rest_andThen]
      rfl

/-! ### What a drain gives and what it leaves -/

theorem wireSize_le_of_mem_drain {capacity : Nat} {s : Bytes} {f : Frame}
    (h : f ∈ (drain capacity s).frames) : f.wireSize ≤ capacity := by
  induction s using scan_induction capacity with
  | wait s hs =>
      rw [drain_of_wait hs] at h
      cases h
  | frame s g rest hs ih =>
      rw [drain_of_frame hs] at h
      rcases List.mem_cons.1 h with rfl | hmore
      · exact (eq_wire_of_scan hs).2
      · exact ih hmore
  | discard s c rest hs ih =>
      rw [drain_of_discard hs] at h
      exact ih h

theorem rest_drain_suffix (capacity : Nat) (s : Bytes) : (drain capacity s).rest <:+ s := by
  induction s using scan_induction capacity with
  | wait s hs =>
      rw [drain_of_wait hs]
      exact List.suffix_refl s
  | frame s f rest hs ih =>
      obtain ⟨rfl, -⟩ := eq_wire_of_scan hs
      rw [drain_of_frame hs]
      exact ih.trans (List.suffix_append _ _)
  | discard s c rest hs ih =>
      obtain ⟨b, rfl⟩ := eq_cons_of_scan_discard hs
      rw [drain_of_discard hs]
      exact ih.trans (List.suffix_cons b rest)

theorem undecided_rest_drain (capacity : Nat) (s : Bytes) :
    Undecided capacity (drain capacity s).rest := by
  induction s using scan_induction capacity with
  | wait s hs =>
      rw [drain_of_wait hs]
      exact undecided_of_scan hs
  | frame s f rest hs ih =>
      rw [drain_of_frame hs]
      exact ih
  | discard s c rest hs ih =>
      rw [drain_of_discard hs]
      exact ih

/-- Frames in a row are taken one by one, whatever they carry. -/
theorem drain_wires {capacity : Nat} {fs : List Frame}
    (hfit : ∀ f ∈ fs, f.wireSize ≤ capacity) :
    drain capacity (fs.flatMap Frame.wire) = ⟨fs, [], []⟩ := by
  induction fs with
  | nil => exact drain_nil capacity
  | cons f fs ih =>
      obtain ⟨hf, hmore⟩ := List.forall_mem_cons.1 hfit
      rw [List.flatMap_cons, drain_of_frame (scan_wire hf _), ih hmore]
      rfl

/-! ## The two decoders -/

def DecodeStats.afterDrain (s : DecodeStats) (x : Drain) : DecodeStats :=
  { s with
    frames := s.frames + x.frames.length
    resyncBytes := s.resyncBytes + x.discarded.length }

theorem DecodeStats.afterDrain_andThen (s : DecodeStats) (a b : Drain) :
    s.afterDrain (a.andThen b) = (s.afterDrain a).afterDrain b := by
  simp only [afterDrain, Drain.andThen, List.length_append, Nat.add_assoc]

/-- The decoder after its store was drained so. -/
def StagedDecoder.afterDrain (d : StagedDecoder) (x : Drain) : StagedDecoder :=
  { d with pending := x.rest, stats := d.stats.afterDrain x }

theorem StagedDecoder.afterDrain_andThen (d : StagedDecoder) (a b : Drain) :
    d.afterDrain (a.andThen b) = (d.afterDrain a).afterDrain b := by
  simp only [afterDrain, DecodeStats.afterDrain_andThen, Drain.rest_andThen]

theorem StagedDecoder.stage_value (d : StagedDecoder) (chunk : Bytes) :
    (d.stage chunk).value =
      if chunk = [] then (.error .emptyChunk, d)
      else if d.capacity < d.pending.length + chunk.length then
        (.error (.overflow d.pending.length chunk.length d.capacity),
          { d with
            pending := []
            stats := { d.stats with overflowResets := d.stats.overflowResets + 1 } })
      else (.ok (), { d with pending := d.pending ++ chunk }) := by
  unfold stage
  simp only [List.isEmpty_iff]
  split
  · rfl
  · split <;> rfl

theorem StagedDecoder.next_value (d : StagedDecoder) :
    d.next.value = ((pull d.capacity d.pending).frame?,
      d.afterDrain (pull d.capacity d.pending).toDrain) := rfl

theorem StagedDecoder.takeAll_value (d : StagedDecoder) :
    d.takeAll.value =
      ((drain d.capacity d.pending).frames, d.afterDrain (drain d.capacity d.pending)) := by
  fun_induction StagedDecoder.takeAll d with
  | case1 d d' h =>
      rw [next_value, Prod.mk.injEq] at h
      rw [drain_of_pull_none h.1, ← h.2, Pull.toDrain, h.1]
      rfl
  | case2 d f d' h more ih =>
      rw [next_value, Prod.mk.injEq] at h
      obtain ⟨hf, rfl⟩ := h
      rw [drain_of_pull_some hf, afterDrain_andThen, Drain.frames_andThen,
        Pull.frames_toDrain, hf]
      simp only [more, ih]
      rfl

theorem StreamDecoder.decode_value (d : StreamDecoder) (src : Bytes) :
    (d.decode src).value = ((pull d.capacity src).frame?, (pull d.capacity src).rest,
      { d with stats := d.stats.afterDrain (pull d.capacity src).toDrain }) := rfl

theorem StreamDecoder.decodeAll_value (d : StreamDecoder) (src : Bytes) :
    (d.decodeAll src).value =
      ((drain d.capacity src).frames, (drain d.capacity src).rest,
        { d with stats := d.stats.afterDrain (drain d.capacity src) }) := by
  fun_induction StreamDecoder.decodeAll d src with
  | case1 d src rest d' h =>
      simp only [decode_value, Prod.mk.injEq] at h
      obtain ⟨hf, rfl, rfl⟩ := h
      rw [drain_of_pull_none hf, Pull.frames_toDrain, hf]
      rfl
  | case2 d src f rest d' h more ih =>
      simp only [decode_value, Prod.mk.injEq] at h
      obtain ⟨hf, rfl, rfl⟩ := h
      rw [drain_of_pull_some hf, DecodeStats.afterDrain_andThen, Drain.frames_andThen,
        Pull.frames_toDrain, hf]
      simp only [more, ih]
      rfl

end FramedSerial
