import FramedSerial.Proofs.Schedule
import FramedSerial.Proofs.Segmentation
import Mathlib.Data.List.Infix

/-!
# Frames among noise

A line that carries frames with noise between them is decoded into exactly the
frames, and the noise is counted byte for byte. Noise may hold the signature
as long as no header that begins in it could be believed; a payload may hold
anything, whole encoded frames too, since it is taken off the stream with its
header before any byte of it is looked at.

What could go wrong is at the seam. Noise may end in a part of the signature,
and the frame behind it starts with the signature, so the two could spell one
signature together. They cannot: the signature has no proper end that is also
a beginning of it (`not_signed_across`). So the discarding stops exactly where
the frame starts, and `Segmentation` of the whole stream can be written down.
-/

namespace FramedSerial

/-! ## Noise -/

/-- Bytes that will all be discarded, whatever frame follows: wherever the
signature occurs in them, the header is whole and announces too much. -/
def Noise (capacity : Nat) (g : Bytes) : Prop :=
  ∀ s, s <:+ g → signatureBytes <+: s →
    headerSize ≤ s.length ∧ capacity < announced s

instance (capacity : Nat) (g : Bytes) : Decidable (Noise capacity g) :=
  decidable_of_iff
    (∀ s ∈ g.tails, signatureBytes <+: s → headerSize ≤ s.length ∧ capacity < announced s)
    (by simp only [List.mem_tails, Noise])

theorem Noise.tail {capacity : Nat} {b : UInt8} {g : Bytes}
    (h : Noise capacity (b :: g)) : Noise capacity g :=
  fun s hs => h s (hs.trans (List.suffix_cons b g))

/-- The signature does not overlap itself: it does not begin in the last bytes
before another one. -/
theorem not_signed_across {g : Bytes} (hne : g ≠ []) (hlt : g.length < 4)
    (rest : Bytes) : ¬ signatureBytes <+: g ++ (signatureBytes ++ rest) := by
  rw [signatureBytes_eq]
  match g, hne, hlt with
  | [a], _, _ => simp [List.cons_prefix_cons]
  | [a, b], _, _ => simp [List.cons_prefix_cons]
  | [a, b, c], _, _ => simp [List.cons_prefix_cons]

theorem signatureBytes_prefix_wire (f : Frame) : ∃ rest, f.wire = signatureBytes ++ rest :=
  ⟨_, by rw [Frame.wire, header, List.append_assoc, List.append_assoc]; rfl⟩

/-- Noise refuses every frame at its first byte, with a frame right behind it
too. -/
theorem Noise.refuses {capacity : Nat} {g : Bytes} (hg : Noise capacity g)
    (hne : g ≠ []) (f : Frame) (rest : Bytes) :
    Refuses capacity (g ++ (f.wire ++ rest)) := by
  have hlong : headerSize ≤ (f.wire ++ rest).length := by
    have hsize := f.headerSize_le_wireSize
    rw [List.length_append, Frame.length_wire]
    omega
  refine ⟨by rw [List.length_append]; omega, ?_⟩
  by_cases hsigned : signatureBytes <+: g ++ (f.wire ++ rest)
  · right
    by_cases hlt : g.length < 4
    · -- The signature would end in the frame's own.
      obtain ⟨more, hmore⟩ := signatureBytes_prefix_wire f
      rw [hmore, List.append_assoc] at hsigned
      exact absurd hsigned (not_signed_across hne hlt _)
    · have hinside : signatureBytes <+: g :=
        List.prefix_of_prefix_length_le hsigned (List.prefix_append g _)
          (by rw [signatureBytes_eq]; simpa using hlt)
      obtain ⟨hheader, hover⟩ := hg g (List.suffix_refl g) hinside
      rwa [announced_append hheader]
  · exact .inl hsigned

/-! ## The segmentation of a noisy stream -/

theorem Segmentation.noise {capacity : Nat} {f : Frame} {rest tail : Bytes}
    {segments : List Segment}
    (h : Segmentation capacity (f.wire ++ rest) segments tail) :
    ∀ {g : Bytes}, Noise capacity g →
      Segmentation capacity (g ++ (f.wire ++ rest))
        (g.map Segment.discarded ++ segments) tail := by
  intro g
  induction g with
  | nil => intro _; exact h
  | cons b g ih =>
      intro hg
      exact .discarded (hg.refuses (List.cons_ne_nil b g) f rest) (ih hg.tail)

theorem Segmentation.wire {capacity : Nat} {f : Frame} {rest tail : Bytes}
    {segments : List Segment} (hf : f.wireSize ≤ capacity)
    (h : Segmentation capacity rest segments tail) :
    Segmentation capacity (f.wire ++ rest) (.frame f :: segments) tail := by
  have hsize : announced (f.wire ++ rest) = f.wire.length := by
    rw [announced_wire, Frame.length_wire]
  refine .frame (complete_wire hf rest) ?_ ?_
  · rw [hsize, List.take_left]
  · rwa [hsize, List.drop_left]

/-- Noise and the frame behind it. -/
structure Stretch where
  gap : Bytes
  frame : Frame

namespace Stretch

def bytes (x : Stretch) : Bytes := x.gap ++ x.frame.wire

def segments (x : Stretch) : List Segment :=
  x.gap.map Segment.discarded ++ [.frame x.frame]

end Stretch

theorem framesOf_noise (g : Bytes) (segments : List Segment) :
    framesOf (g.map Segment.discarded ++ segments) = framesOf segments := by
  induction g with
  | nil => rfl
  | cons b g ih => rw [List.map_cons, List.cons_append, framesOf_discarded, ih]

theorem discardsOf_noise (g : Bytes) (segments : List Segment) :
    discardsOf (g.map Segment.discarded ++ segments) = g.length + discardsOf segments := by
  induction g with
  | nil => exact (Nat.zero_add _).symm
  | cons b g ih =>
      rw [List.map_cons, List.cons_append, discardsOf_discarded, ih, List.length_cons]
      omega

theorem framesOf_stretches (xs : List Stretch) :
    framesOf (xs.flatMap Stretch.segments) = xs.map Stretch.frame := by
  induction xs with
  | nil => rfl
  | cons x xs ih =>
      rw [List.flatMap_cons, Stretch.segments, List.append_assoc, framesOf_noise,
        List.singleton_append, framesOf_frame, ih, List.map_cons]

theorem discardsOf_stretches (xs : List Stretch) :
    discardsOf (xs.flatMap Stretch.segments) = (xs.map fun x => x.gap.length).sum := by
  induction xs with
  | nil => rfl
  | cons x xs ih =>
      rw [List.flatMap_cons, Stretch.segments, List.append_assoc, discardsOf_noise,
        List.singleton_append, discardsOf_frame, ih, List.map_cons, List.sum_cons]

theorem segmentation_of_stretches {capacity : Nat} {xs : List Stretch}
    (hfit : ∀ x ∈ xs, x.frame.wireSize ≤ capacity)
    (hgap : ∀ x ∈ xs, Noise capacity x.gap) :
    Segmentation capacity (xs.flatMap Stretch.bytes) (xs.flatMap Stretch.segments) [] := by
  induction xs with
  | nil => exact .tail (.inl (by decide))
  | cons x xs ih =>
      have hrest := ih (fun y hy => hfit y (List.mem_cons_of_mem x hy))
        (fun y hy => hgap y (List.mem_cons_of_mem x hy))
      have hframe := hrest.wire (hfit x List.mem_cons_self)
      have hall := hframe.noise (hgap x List.mem_cons_self)
      rw [List.flatMap_cons, List.flatMap_cons, Stretch.bytes, Stretch.segments,
        List.append_assoc, List.append_assoc]
      exact hall

/-- What a decoder makes of a noisy stream, handed over at once. -/
theorem ofStream_of_stretches {capacity : Nat} {xs : List Stretch}
    (hfit : ∀ x ∈ xs, x.frame.wireSize ≤ capacity)
    (hgap : ∀ x ∈ xs, Noise capacity x.gap) :
    Decoded.ofStream capacity (xs.flatMap Stretch.bytes) =
      ⟨xs.map Stretch.frame, ⟨xs.length, (xs.map fun x => x.gap.length).sum, 0⟩, []⟩ := by
  obtain ⟨hframes, hrest, hdiscarded⟩ := (segmentation_of_stretches hfit hgap).drain_eq
  rw [framesOf_stretches] at hframes
  rw [discardsOf_stretches] at hdiscarded
  simp only [Decoded.ofStream, DecodeStats.afterDrain, DecodeStats.zero, hframes, hrest,
    hdiscarded, List.length_map, Nat.zero_add]

/-- Frames among noise are decoded exactly: each frame once and in order, each
byte of noise discarded and counted, each look at the start of a frame or at a
byte of noise, and nothing left over. -/
theorem decoded_of_stretches {capacity : Nat} {xs : List Stretch}
    (hfit : ∀ x ∈ xs, x.frame.wireSize ≤ capacity)
    (hgap : ∀ x ∈ xs, Noise capacity x.gap) :
    Segmentation capacity (xs.flatMap Stretch.bytes) (xs.flatMap Stretch.segments) [] ∧
    (∀ cs : List StagedDecoder.Call,
      cs.flatMap StagedDecoder.Call.bytes = xs.flatMap Stretch.bytes →
      (∀ r ∈ ((StagedDecoder.empty capacity).calls cs).1,
        StagedDecoder.overflowed r = false) →
      StagedDecoder.decoded capacity cs =
        ⟨xs.map Stretch.frame, ⟨xs.length, (xs.map fun x => x.gap.length).sum, 0⟩, []⟩) ∧
    (∀ cs : List StreamDecoder.Call,
      cs.flatMap StreamDecoder.Call.bytes = xs.flatMap Stretch.bytes →
      StreamDecoder.decoded capacity cs =
        ⟨xs.map Stretch.frame, ⟨xs.length, (xs.map fun x => x.gap.length).sum, 0⟩, []⟩) := by
  refine ⟨segmentation_of_stretches hfit hgap, ?_, ?_⟩
  · intro cs hbytes hkept
    rw [StagedDecoder.decoded_eq_ofStream hkept, hbytes, ofStream_of_stretches hfit hgap]
  · intro cs hbytes
    rw [StreamDecoder.decoded_eq_ofStream, hbytes, ofStream_of_stretches hfit hgap]

/-- A header that announces too much and three bytes of the signature, then a
frame that carries a frame; behind it a frame without any noise. -/
theorem decoded_of_frame_in_frame :
    let xs : List Stretch :=
      [⟨[0xEE, 0x0D, 0xF0, 0xAD, 0x0B, 4, 0, 9, 0, 0x0D, 0xF0, 0xAD],
          ⟨7, [0x0D, 0xF0, 0xAD, 0x0B, 1, 0, 0, 0], by decide⟩⟩,
        ⟨[], ⟨4, [5, 7], by decide⟩⟩]
    let s := xs.flatMap Stretch.bytes
    let cs : List StagedDecoder.Call :=
      [.feed (s.take 12) 1, .feed ((s.drop 12).take 9) 0, .frames 1,
        .feed ((s.drop 21).take 7) 4, .feed (s.drop 28) 0]
    (∀ x ∈ xs, x.frame.wireSize ≤ 16) ∧ (∀ x ∈ xs, Noise 16 x.gap) ∧
      cs.flatMap StagedDecoder.Call.bytes = s ∧
      (∀ r ∈ ((StagedDecoder.empty 16).calls cs).1, StagedDecoder.overflowed r = false) ∧
      StagedDecoder.decoded 16 cs = ⟨xs.map Stretch.frame, ⟨2, 12, 0⟩, []⟩ := by
  intro xs s cs
  have hfit : ∀ x ∈ xs, x.frame.wireSize ≤ 16 := by decide
  have hgap : ∀ x ∈ xs, Noise 16 x.gap := by decide +kernel
  have hbytes : cs.flatMap StagedDecoder.Call.bytes = s := by decide
  have hkept : ∀ r ∈ ((StagedDecoder.empty 16).calls cs).1,
      StagedDecoder.overflowed r = false := by decide +kernel
  exact ⟨hfit, hgap, hbytes, hkept, (decoded_of_stretches hfit hgap).2.1 cs hbytes hkept⟩

end FramedSerial
