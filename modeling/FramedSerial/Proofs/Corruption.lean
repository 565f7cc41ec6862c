import FramedSerial.Proofs.Resync

/-!
# What a corrupted stretch can swallow

Corrupted bytes may spell a header that a receiver believes, and then whatever
comes next is taken for its payload, good frames included, and false headers
can follow each other in a chain. The damage still ends soon. The last thing
that is taken off the stream from inside the corrupted stretch is no longer
than the capacity, and a byte of it at least lies inside, so the next look is
at one of the first `capacity - 1` bytes behind the stretch, or at the first
byte after them (`exists_begins_behind`).

That look may fall into the middle of a frame. If the signature occurs among
the good frames only where they start, nothing is believed before the next
start, and from there on the frames are taken one by one. So the decoder has
lost at most the frames that start before it was back, and it is back early
enough for all the others.
-/

namespace FramedSerial

/-- The signature occurs in the wires of these frames only where one of them
starts. -/
def SignedAtStarts (fs : List Frame) : Prop :=
  ∀ s, s <:+ fs.flatMap Frame.wire → signatureBytes <+: s →
    ∃ after, after <:+ fs ∧ s = after.flatMap Frame.wire

instance (fs : List Frame) : Decidable (SignedAtStarts fs) :=
  decidable_of_iff
    (∀ s ∈ (fs.flatMap Frame.wire).tails, signatureBytes <+: s →
      ∃ after ∈ fs.tails, s = after.flatMap Frame.wire)
    (by simp only [List.mem_tails, SignedAtStarts])

variable {capacity : Nat}

/-! ## The first look behind the stretch -/

/-- A decoder never waits for a whole capacity's worth of bytes. -/
theorem length_rest_drain_lt (hcapacity : headerSize ≤ capacity) (s : Bytes) :
    (drain capacity s).rest.length < capacity := by
  have hlt := (undecided_rest_drain capacity s).length_lt
  rwa [Nat.max_eq_left hcapacity] at hlt

/-- Draining comes to a stop in the bytes behind a stretch, less than a
capacity behind its end, unless it waits before it gets there. -/
theorem exists_begins_behind (hcapacity : headerSize ≤ capacity) (g w : Bytes) :
    (∃ x : Drain, x.Begins capacity (g ++ w) ∧
        ∃ u, w = u ++ x.rest ∧ u.length < capacity) ∨
      w.length < (drain capacity (g ++ w)).rest.length := by
  have hpos : 0 < headerSize := by decide
  have hhere : ∃ x : Drain, x.Begins capacity w ∧ ∃ u, w = u ++ x.rest ∧ u.length < capacity :=
    ⟨.nothing w, Drain.begins_nothing capacity w, [], rfl, show 0 < capacity by omega⟩
  obtain ⟨s, hs⟩ : ∃ s, s = g ++ w := ⟨_, rfl⟩
  rw [← hs]
  -- on the looks that start inside the stretch; the one that leaves it decides
  induction s using scan_induction capacity generalizing g with
  | wait s hscan =>
      cases g with
      | nil => exact .inl (hs ▸ hhere)
      | cons a g =>
          right
          rw [drain_of_wait hscan, hs]
          show w.length < (a :: g ++ w).length
          rw [List.length_append, List.length_cons]
          omega
  | frame s f rest hscan ih =>
      have hfirst : (Drain.mk [f] rest []).Begins capacity s := drain_of_frame hscan
      obtain ⟨hsplit, hf⟩ := eq_wire_of_scan hscan
      cases g with
      | nil => exact .inl (hs ▸ hhere)
      | cons a g =>
          rw [hs] at hsplit
          rcases List.append_eq_append_iff.1 hsplit with ⟨u, hwire, hw⟩ | ⟨g', -, hrest⟩
          · -- the frame leaves the stretch
            have hlength := congrArg List.length hwire
            rw [Frame.length_wire, List.length_append, List.length_cons] at hlength
            exact .inl ⟨_, hfirst, u, hw, by omega⟩
          · rcases ih g' hrest with ⟨x, hx, hu⟩ | hwaits
            · exact .inl ⟨_, hfirst.andThen hx, hu⟩
            · right
              rw [drain_of_frame hscan]
              exact hwaits
  | discard s c rest hscan ih =>
      have hfirst : (Drain.mk [] rest [c]).Begins capacity s := drain_of_discard hscan
      obtain ⟨b, hb⟩ := eq_cons_of_scan_discard hscan
      cases g with
      | nil => exact .inl (hs ▸ hhere)
      | cons a g =>
          rw [hs, List.cons_append, List.cons.injEq] at hb
          rcases ih g hb.2.symm with ⟨x, hx, hu⟩ | hwaits
          · exact .inl ⟨_, hfirst.andThen hx, hu⟩
          · right
            rw [drain_of_discard hscan]
            exact hwaits

/-! ## From the middle of a frame to the next -/

/-- From anywhere among good frames on, the next frame to start is taken, and
so are all behind it. -/
theorem drain_of_suffix {fs late : List Frame} (hfit : ∀ f ∈ fs, f.wireSize ≤ capacity)
    (hsigned : SignedAtStarts fs) (hlate : late <:+ fs) (hne : late ≠ []) :
    ∀ {x : Bytes}, x ++ late.flatMap Frame.wire <:+ fs.flatMap Frame.wire →
      late <:+ (drain capacity (x ++ late.flatMap Frame.wire)).frames ∧
        (drain capacity (x ++ late.flatMap Frame.wire)).rest = [] := by
  intro x
  induction x with
  | nil =>
      intro _
      rw [List.nil_append, drain_wires fun f hf => hfit f (hlate.subset hf)]
      exact ⟨List.suffix_refl late, rfl⟩
  | cons b x ih =>
      intro hin
      by_cases hstart : signatureBytes <+: b :: x ++ late.flatMap Frame.wire
      · -- a frame starts here, and it starts before the late ones
        obtain ⟨after, hafter, heq⟩ := hsigned _ hin hstart
        rw [heq, drain_wires fun f hf => hfit f (hafter.subset hf)]
        refine ⟨?_, rfl⟩
        rcases List.suffix_or_suffix_of_suffix hlate hafter with h | ⟨more, rfl⟩
        · exact h
        · have hlength := congrArg List.length heq
          rw [List.flatMap_append] at hlength
          simp only [List.length_append, List.length_cons] at hlength
          omega
      · obtain ⟨f, late', rfl⟩ := List.exists_cons_of_ne_nil hne
        have hrefuses : Refuses capacity (b :: x ++ (f :: late').flatMap Frame.wire) := by
          have hsize := f.headerSize_le_wireSize
          refine ⟨?_, .inl hstart⟩
          rw [List.flatMap_cons]
          simp only [List.length_append, Frame.length_wire]
          omega
        obtain ⟨c, hc⟩ := scan_of_refuses hrefuses
        rw [drain_of_discard hc]
        exact ih ((List.suffix_cons b _).trans hin)

/-! ## What comes through -/

/-- What a decoder makes of good frames behind a corrupted stretch. A frame
that starts `capacity - 1` bytes or more behind the stretch comes out, as do
all that follow it, and nothing else comes out after them. -/
structure Recovers (capacity : Nat) (fs : List Frame) (x : Decoded) : Prop where
  late : ∀ {early late : List Frame}, fs = early ++ late →
    capacity - 1 ≤ (early.flatMap Frame.wire).length → late <:+ x.frames
  settled : ∀ {early late : List Frame}, fs = early ++ late →
    capacity - 1 ≤ (early.flatMap Frame.wire).length → late ≠ [] → x.rest = []
  /-- Whatever it waits for, a capacity's worth of bytes will decide it. -/
  short : x.rest.length < capacity

variable {fs : List Frame}

theorem drain_behind_stretch (hcapacity : headerSize ≤ capacity)
    (hfit : ∀ f ∈ fs, f.wireSize ≤ capacity) (hsigned : SignedAtStarts fs) (g : Bytes)
    {early late : List Frame} (heq : fs = early ++ late)
    (hstart : capacity - 1 ≤ (early.flatMap Frame.wire).length) :
    late <:+ (drain capacity (g ++ fs.flatMap Frame.wire)).frames ∧
      (late ≠ [] → (drain capacity (g ++ fs.flatMap Frame.wire)).rest = []) := by
  have hwires : fs.flatMap Frame.wire = early.flatMap Frame.wire ++ late.flatMap Frame.wire := by
    rw [heq, List.flatMap_append]
  rcases exists_begins_behind hcapacity g (fs.flatMap Frame.wire) with
    ⟨x, hx, u, hu, hshort⟩ | hwaits
  · have hx' : drain capacity (g ++ fs.flatMap Frame.wire) =
      x.andThen (drain capacity x.rest) := hx
    -- the first look behind the stretch is not behind the start of the late frames
    obtain ⟨y, hy⟩ : ∃ y, x.rest = y ++ late.flatMap Frame.wire := by
      rcases List.append_eq_append_iff.1 (hu.symm.trans hwires) with ⟨y, -, hy⟩ | ⟨y, hy, hy'⟩
      · exact ⟨y, hy⟩
      · have hlength := congrArg List.length hy
        rw [List.length_append] at hlength
        have hnil : y = [] := List.length_eq_zero_iff.1 (by omega)
        rw [hnil, List.nil_append] at hy'
        exact ⟨[], hy'.symm⟩
    by_cases hne : late = []
    · exact ⟨hne ▸ List.nil_suffix, fun h => absurd hne h⟩
    · have hin : y ++ late.flatMap Frame.wire <:+ fs.flatMap Frame.wire := ⟨u, by rw [hu, hy]⟩
      obtain ⟨hframes, hrest⟩ := drain_of_suffix hfit hsigned ⟨early, heq.symm⟩ hne hin
      rw [hx', hy]
      exact ⟨hframes.trans (List.suffix_append _ _), fun _ => hrest⟩
  · -- a decoder that still waits in the stretch has not seen enough for a late frame
    have hrest := length_rest_drain_lt hcapacity (g ++ fs.flatMap Frame.wire)
    have hlength := congrArg List.length hwires
    rw [List.length_append] at hlength
    omega

theorem recovers_ofStream (hcapacity : headerSize ≤ capacity)
    (hfit : ∀ f ∈ fs, f.wireSize ≤ capacity) (hsigned : SignedAtStarts fs) (g : Bytes) :
    Recovers capacity fs (.ofStream capacity (g ++ fs.flatMap Frame.wire)) := by
  constructor
  · intro early late heq hstart
    exact (drain_behind_stretch hcapacity hfit hsigned g heq hstart).1
  · intro early late heq hstart
    exact (drain_behind_stretch hcapacity hfit hsigned g heq hstart).2
  · exact length_rest_drain_lt hcapacity _

/-- Whatever stands before them, good frames are lost only near the start: of
any bytes and the frames behind them, both decoders make the frames that start
`capacity - 1` bytes or more behind those bytes, and nothing after them. -/
theorem decoded_of_corruption (hcapacity : headerSize ≤ capacity)
    (hfit : ∀ f ∈ fs, f.wireSize ≤ capacity) (hsigned : SignedAtStarts fs) (g : Bytes) :
    (∀ cs : List StreamDecoder.Call,
      cs.flatMap StreamDecoder.Call.bytes = g ++ fs.flatMap Frame.wire →
      Recovers capacity fs (StreamDecoder.decoded capacity cs)) ∧
    (∀ cs : List StagedDecoder.Call,
      cs.flatMap StagedDecoder.Call.bytes = g ++ fs.flatMap Frame.wire →
      (∀ r ∈ ((StagedDecoder.empty capacity).calls cs).1,
        StagedDecoder.overflowed r = false) →
      Recovers capacity fs (StagedDecoder.decoded capacity cs)) := by
  have hstream := recovers_ofStream hcapacity hfit hsigned g
  constructor
  · intro cs hbytes
    rw [StreamDecoder.decoded_eq_ofStream, hbytes]
    exact hstream
  · intro cs hbytes hkept
    rw [StagedDecoder.decoded_eq_ofStream hkept, hbytes]
    exact hstream

/-- Two false headers in a row. The first announces a byte that is there, and
the second takes the header of the first good frame for its payload; what is
left of that frame is discarded. -/
theorem decoded_of_false_headers :
    let g : Bytes := [0xEE, 0x0D, 0xF0, 0xAD, 0x0B, 1, 0, 1, 0, 0x0D,
      0x0D, 0xF0, 0xAD, 0x0B, 1, 0, 8, 0]
    let early : List Frame := [⟨1, [5, 7], by decide⟩, ⟨2, [], by decide⟩]
    let late : List Frame := [⟨3, [9], by decide⟩, ⟨4, [5, 7], by decide⟩]
    let fs := early ++ late
    let s := g ++ fs.flatMap Frame.wire
    let cs : List StagedDecoder.Call :=
      [.feed (s.take 15) 0, .frames 1, .feed ((s.drop 15).take 11) 0, .frames 2,
        .feed ((s.drop 26).take 11) 1, .feed ((s.drop 37).take 15) 1, .feed (s.drop 52) 0]
    headerSize ≤ 16 ∧ (∀ f ∈ fs, f.wireSize ≤ 16) ∧ SignedAtStarts fs ∧
      cs.flatMap StagedDecoder.Call.bytes = s ∧
      (∀ r ∈ ((StagedDecoder.empty 16).calls cs).1, StagedDecoder.overflowed r = false) ∧
      16 - 1 ≤ (early.flatMap Frame.wire).length ∧
      late <:+ (StagedDecoder.decoded 16 cs).frames ∧
      (StagedDecoder.decoded 16 cs).rest = [] ∧
      ⟨1, [5, 7], by decide⟩ ∉ (StagedDecoder.decoded 16 cs).frames := by
  intro g early late fs s cs
  have hcapacity : headerSize ≤ 16 := by decide
  have hfit : ∀ f ∈ fs, f.wireSize ≤ 16 := by decide
  have hsigned : SignedAtStarts fs := by decide +kernel
  have hbytes : cs.flatMap StagedDecoder.Call.bytes = s := by decide
  have hkept : ∀ r ∈ ((StagedDecoder.empty 16).calls cs).1,
      StagedDecoder.overflowed r = false := by decide +kernel
  have hstart : 16 - 1 ≤ (early.flatMap Frame.wire).length := by decide
  have hrecovers := (decoded_of_corruption hcapacity hfit hsigned g).2 cs hbytes hkept
  exact ⟨hcapacity, hfit, hsigned, hbytes, hkept, hstart, hrecovers.late rfl hstart,
    hrecovers.settled rfl hstart (List.cons_ne_nil _ _), by decide +kernel⟩

end FramedSerial
