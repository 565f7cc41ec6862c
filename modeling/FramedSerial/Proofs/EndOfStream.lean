import FramedSerial.Proofs.Schedule
import FramedSerial.Proofs.Segmentation

/-!
# The end of a stream

When no more bytes will come, a decoder over a buffer is asked once more and
again until it finds nothing. A last call differs from any other only where it
finds no frame: what is left then cannot become one any more and is dropped. So
the last calls hand out the frames that are still buffered, one by one, then
nothing, and from there on there is nothing to hand out.

Whether a frame was taken out before the end or by a last call does not show.
What was decoded before is the beginning of a drain (`Drain.Begins`), the last
calls are the rest of it, and the tail that the drain leaves is what they drop.
The tail is in none of the counters; it is told, and the stream is accounted for
with it and not without.
-/

namespace FramedSerial

/-- How many bytes of an incomplete frame it says were dropped. -/
def Event.cutShort : Event → Nat
  | .streamCutShort n => n
  | _ => 0

theorem Pull.sum_cutShort (p : Pull) : (p.events.map Event.cutShort).sum = 0 := by
  rw [Pull.events, List.map_map]
  induction p.discarded with
  | nil => rfl
  | cons c cs ih => exact (Nat.zero_add _).trans ih

namespace StreamDecoder

/-- Make so many last calls: what each of them finds, and the buffer and the
decoder after them. -/
def lasts (d : StreamDecoder) (buffer : Bytes) :
    Nat → Logged (List (Option Frame) × Bytes × StreamDecoder)
  | 0 => return ([], buffer, d)
  | n + 1 => do
    let (found, buffer, d) ← d.decodeLast buffer
    let (more, buffer, d) ← lasts d buffer n
    return (found :: more, buffer, d)

/-- The decoder after so much was decoded. -/
def afterDrain (d : StreamDecoder) (x : Drain) : StreamDecoder :=
  { d with stats := d.stats.afterDrain x }

theorem afterDrain_andThen (d : StreamDecoder) (a b : Drain) :
    d.afterDrain (a.andThen b) = (d.afterDrain a).afterDrain b := by
  simp only [afterDrain, DecodeStats.afterDrain_andThen]

variable {d : StreamDecoder} {buffer : Bytes}

/-! ## One last call -/

/-- A last call that finds a frame is a call like any other. -/
theorem decodeLast_of_some {f : Frame} (h : (pull d.capacity buffer).frame? = some f) :
    d.decodeLast buffer = d.decode buffer := by
  simp only [decodeLast, decode, h, bind, Logged.bind, pure, Logged.pure, List.append_nil]

/-- What a last call tells that drops these bytes. -/
def dropNotice (rest : Bytes) : List Event :=
  if rest.isEmpty then [] else [.streamCutShort rest.length]

theorem sum_cutShort_dropNotice (rest : Bytes) :
    ((dropNotice rest).map Event.cutShort).sum = rest.length := by
  cases rest <;> rfl

/-- A last call that finds none drops what decoding leaves. -/
theorem decodeLast_of_none (h : (pull d.capacity buffer).frame? = none) :
    d.decodeLast buffer = ⟨(none, [], d.afterDrain (drain d.capacity buffer)),
      (pull d.capacity buffer).events ++ dropNotice (drain d.capacity buffer).rest⟩ := by
  rw [drain_of_pull_none h]
  simp only [decodeLast, decode, h, bind, Logged.bind]
  show _ = (⟨_, _ ++ dropNotice (pull d.capacity buffer).rest⟩ : Logged _)
  rw [dropNotice]
  split
  · rfl
  · rfl

theorem overflowResets_decodeLast (d : StreamDecoder) (buffer : Bytes) :
    (d.decodeLast buffer).value.2.2.stats.overflowResets = d.stats.overflowResets := by
  cases h : (pull d.capacity buffer).frame? with
  | none =>
      rw [decodeLast_of_none h]
      rfl
  | some f =>
      rw [decodeLast_of_some h]
      rfl

/-! ## Last calls -/

theorem lasts_nil (d : StreamDecoder) (n : Nat) :
    d.lasts [] n = ⟨(List.replicate n none, [], d), []⟩ := by
  have hwait : scan d.capacity [] = .wait := scan_of_undecided (.inl (by decide))
  have hpull := pull_of_wait hwait
  induction n with
  | zero => rfl
  | succ n ih =>
      have hnone : d.decodeLast [] = ⟨(none, [], d), []⟩ := by
        rw [decodeLast_of_none (by rw [hpull]), drain_of_wait hwait, hpull]
        rfl
      simp only [lasts, hnone, bind, Logged.bind, pure, Logged.pure, ih]
      rfl

theorem overflowResets_lasts (n : Nat) :
    ∀ (d : StreamDecoder) (buffer : Bytes),
      (d.lasts buffer n).value.2.2.stats.overflowResets = d.stats.overflowResets := by
  induction n with
  | zero => exact fun d buffer => rfl
  | succ n ih =>
      intro d buffer
      simp only [lasts, Logged.value_bind, Logged.value_pure, ih]
      exact overflowResets_decodeLast d buffer

/-- They find the frames that are still buffered, each once and in order, and
nothing after them. -/
theorem lasts_found (n : Nat) :
    ∀ (d : StreamDecoder) (buffer : Bytes), (d.lasts buffer n).value.1 =
      (List.range n).map fun i => (drain d.capacity buffer).frames[i]? := by
  induction n with
  | zero => exact fun d buffer => rfl
  | succ n ih =>
      intro d buffer
      rw [List.range_succ_eq_map, List.map_cons, List.map_map]
      cases h : (pull d.capacity buffer).frame? with
      | none =>
          simp only [lasts, Logged.value_bind, Logged.value_pure, decodeLast_of_none h, lasts_nil,
            drain_of_pull_none h, Pull.frames_toDrain, h]
          show _ = none :: (List.range n).map fun _ => none
          rw [List.map_const', List.length_range]
      | some f =>
          simp only [lasts, Logged.value_bind, Logged.value_pure, decodeLast_of_some h,
            decode_value, ih, drain_of_pull_some h, Drain.frames_andThen, Pull.frames_toDrain, h]
          rfl

/-- One call more than there are frames empties the buffer. What it drops is what
draining the buffer would leave. -/
theorem lasts_of_lt (n : Nat) :
    ∀ {d : StreamDecoder} {buffer : Bytes}, (drain d.capacity buffer).frames.length < n →
      (d.lasts buffer n).value.2 = ([], d.afterDrain (drain d.capacity buffer)) ∧
        ((d.lasts buffer n).events.map Event.cutShort).sum =
          (drain d.capacity buffer).rest.length := by
  induction n with
  | zero => exact fun h => absurd h (Nat.not_lt_zero _)
  | succ n ih =>
      intro d buffer hlt
      cases h : (pull d.capacity buffer).frame? with
      | none =>
          simp only [lasts, Logged.value_bind, Logged.value_pure, Logged.events_bind,
            Logged.events_pure, decodeLast_of_none h, lasts_nil, List.append_nil, List.map_append,
            List.sum_append, Pull.sum_cutShort, sum_cutShort_dropNotice, Nat.zero_add, and_self]
      | some f =>
          -- this call drops nothing; the bytes behind the frame are left to the others
          rw [drain_of_pull_some h] at hlt ⊢
          rw [Drain.frames_andThen, Pull.frames_toDrain, h] at hlt
          have hmore : (drain d.capacity (pull d.capacity buffer).rest).frames.length < n := by
            simpa using hlt
          obtain ⟨hstate, hdropped⟩ :=
            ih (d := d.afterDrain (pull d.capacity buffer).toDrain) hmore
          simp only [lasts, Logged.value_bind, Logged.value_pure, Logged.events_bind,
            Logged.events_pure, decodeLast_of_some h, List.append_nil, List.map_append,
            List.sum_append, decode_value, afterDrain_andThen, Drain.rest_andThen]
          have htold : ((d.decode buffer).events.map Event.cutShort).sum = 0 :=
            Pull.sum_cutShort _
          rw [htold, Nat.zero_add]
          exact ⟨hstate, hdropped⟩

/-! ## The end of any schedule -/

/-- Asked for often enough, by position, all of a list is found. -/
theorem filterMap_getElem?_range {α : Type} (xs : List α) :
    ∀ {n : Nat}, xs.length ≤ n → ((List.range n).map fun i => xs[i]?).filterMap id = xs := by
  induction xs with
  | nil =>
      intro n _
      simp
  | cons x xs ih =>
      intro n hn
      obtain ⟨n, rfl⟩ := Nat.exists_eq_add_of_lt (Nat.lt_of_lt_of_le (Nat.succ_pos _) hn)
      rw [Nat.zero_add, List.range_succ_eq_map, List.map_cons, List.map_map]
      refine congrArg (x :: ·) (ih (n := n) ?_)
      simpa using hn

namespace Holds

variable {capacity n : Nat} {s buffer : Bytes} {x : Drain} {d : StreamDecoder}

theorem of_calls (capacity : Nat) (cs : List Call) :
    ∃ x, Holds capacity (cs.flatMap Call.bytes) x ((new capacity).calls [] cs).2.1
        ((new capacity).calls [] cs).2.2 ∧
      x.frames = ((new capacity).calls [] cs).1 := by
  have hstart : Holds capacity [] (.nothing []) [] (new capacity) :=
    ⟨Drain.begins_nothing capacity [], rfl, rfl⟩
  exact hstart.calls

theorem frames (h : Holds capacity s x buffer d) :
    x.frames ++ (drain d.capacity buffer).frames = (drain capacity s).frames := by
  obtain ⟨hbegins, rfl, rfl⟩ := h
  have hwhole : drain capacity s = x.andThen (drain capacity x.rest) := hbegins
  rw [hwhole, Drain.frames_andThen]

theorem overflowResets (h : Holds capacity s x buffer d) : d.stats.overflowResets = 0 := by
  rw [h.eq]
  rfl

/-- What was decoded before the end and what the last calls find make up one drain
of the whole stream. -/
theorem lasts (h : Holds capacity s x buffer d)
    (hlt : (drain d.capacity buffer).frames.length < n) :
    (d.lasts buffer n).value.2 = ([], (new capacity).afterDrain (drain capacity s)) ∧
      ((d.lasts buffer n).events.map Event.cutShort).sum = (drain capacity s).rest.length := by
  obtain ⟨hbegins, rfl, rfl⟩ := h
  have hwhole : drain capacity s = x.andThen (drain capacity x.rest) := hbegins
  rw [hwhole, afterDrain_andThen, Drain.rest_andThen]
  exact lasts_of_lt n hlt

end Holds

/-- However a stream was decoded before it ended, the last calls hand out the
frames that are still buffered and then nothing. All frames together are those of
decoding the whole stream at once. One call more than there are frames buffered,
or any number more, leaves the buffer empty; what was dropped by then is the tail
that decoding leaves, which no counter counts. -/
theorem finished_of_any_schedule (capacity : Nat) (cs : List Call) (n : Nat) :
    let s := cs.flatMap Call.bytes
    let whole := ((new capacity).decodeAll s).value
    let (taken, buffer, d) := (new capacity).calls [] cs
    let buffered := (d.decodeAll buffer).value.1
    let last := d.lasts buffer n
    let (found, left, done) := last.value
    let dropped := (last.events.map Event.cutShort).sum
    taken ++ buffered = whole.1 ∧ found = ((List.range n).map fun i => buffered[i]?) ∧
      d.stats.overflowResets = 0 ∧ done.stats.overflowResets = 0 ∧
      (buffered.length < n →
        taken ++ found.filterMap id = whole.1 ∧ left = [] ∧ done = whole.2.2 ∧
          dropped = whole.2.1.length ∧ whole.2.1 <:+ s ∧ Undecided capacity whole.2.1 ∧
          s.length = (whole.1.map Frame.wireSize).sum + done.stats.resyncBytes + dropped) := by
  intro s whole
  have hwhole : whole = ((drain capacity s).frames, (drain capacity s).rest,
      (new capacity).afterDrain (drain capacity s)) := decodeAll_value _ _
  obtain ⟨x, hx, htaken⟩ := Holds.of_calls capacity cs
  generalize (new capacity).calls [] cs = r at hx htaken ⊢
  obtain ⟨taken, buffer, d⟩ := r
  change Holds capacity s x buffer d at hx
  have hframes := hx.frames
  have hfound := lasts_found n d buffer
  have hresets := overflowResets_lasts n d buffer
  have hend := @Holds.lasts _ n _ _ _ _ hx
  rw [htaken] at hframes
  rw [hx.overflowResets] at hresets
  simp only [hwhole, decodeAll_value]
  generalize d.lasts buffer n = last at hfound hresets hend ⊢
  obtain ⟨⟨found, left, done⟩, events⟩ := last
  refine ⟨hframes, hfound, hx.overflowResets, hresets, ?_⟩
  intro hlt
  obtain ⟨hstate, hdropped⟩ := hend hlt
  obtain ⟨rfl, rfl⟩ := Prod.mk.inj hstate
  have hall : found.filterMap id = (drain d.capacity buffer).frames := by
    rw [show found = _ from hfound, filterMap_getElem?_range _ (Nat.le_of_lt hlt)]
  refine ⟨by rw [hall]; exact hframes, rfl, rfl, hdropped, rest_drain_suffix _ _,
    undecided_rest_drain _ _, ?_⟩
  -- the tail is what the counters leave out
  have hlength := length_drain capacity s
  show s.length = ((drain capacity s).frames.map Frame.wireSize).sum +
    (0 + (drain capacity s).discarded.length) + (events.map Event.cutShort).sum
  rw [hdropped]
  omega

/-- A frame that is cut in two and decoded in time, two that are asked for after
the end, and a signature that is not complete. -/
theorem finished_with_a_cut_signature :
    let f : Frame := ⟨4, [5, 7], by decide⟩
    let g : Frame := ⟨1, [9], by decide⟩
    let cs : List Call :=
      [.append (0xEE :: f.wire.take 3), .decode, .append (f.wire.drop 3 ++ g.wire), .decode,
        .append (f.wire ++ [0x0D, 0xF0, 0xAD])]
    let (taken, buffer, d) := (new 12).calls [] cs
    let last := d.lasts buffer 4
    let (found, left, done) := last.value
    let dropped := (last.events.map Event.cutShort).sum
    (d.decodeAll buffer).value.1.length < 4 ∧ taken = [f] ∧
      found = [some g, some f, none, none] ∧ taken ++ found.filterMap id = [f, g, f] ∧
      left = [] ∧ done.stats = ⟨3, 1, 0⟩ ∧ dropped = 3 ∧
      (cs.flatMap Call.bytes).length =
        ([f, g, f].map Frame.wireSize).sum + done.stats.resyncBytes + dropped := by
  intro f g cs
  have hwhole : ((new 12).decodeAll (cs.flatMap Call.bytes)).value =
      ([f, g, f], [0x0D, 0xF0, 0xAD], ⟨12, ⟨3, 1, 0⟩⟩) := by
    rw [decodeAll_value]
    decide +kernel
  have hcalls : (new 12).calls [] cs =
      ([f], g.wire ++ f.wire ++ [0x0D, 0xF0, 0xAD], ⟨12, ⟨1, 1, 0⟩⟩) := by decide +kernel
  have hbuffered : ((⟨12, ⟨1, 1, 0⟩⟩ : StreamDecoder).decodeAll
      (g.wire ++ f.wire ++ [0x0D, 0xF0, 0xAD])).value.1 = [g, f] := by
    rw [decodeAll_value]
    decide +kernel
  have h := finished_of_any_schedule 12 cs 4
  simp only [hwhole, hcalls, hbuffered] at h ⊢
  generalize lasts _ _ 4 = last at h ⊢
  obtain ⟨⟨found, left, done⟩, events⟩ := last
  obtain ⟨-, hfound, -, -, hend⟩ := h
  obtain ⟨hall, hleft, hdone, hdropped, -, -, hlength⟩ := hend (by decide)
  exact ⟨by decide, trivial, hfound, hall, hleft, congrArg stats hdone, hdropped, hlength⟩

end StreamDecoder

end FramedSerial
