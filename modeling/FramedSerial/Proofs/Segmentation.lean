import FramedSerial.Proofs.Drain
import Mathlib.Algebra.GroupWithZero.Nat

/-!
# Decoding is the one segmentation of the stream

A grammar of streams, stated without the decoder: a stream is cut into frames
and single discarded bytes, each of them forced by the bytes at its own
position, until a tail is left that could still become a frame. At every
position exactly one of the three rules applies, so a stream has one
segmentation and no more, and the decoder has no choice but to find it.

Nothing of the stream is lost or read twice: the segments and the tail, put
end to end, are the stream. That is what makes the counters a balance sheet.
-/

namespace FramedSerial

/-- What decoding takes off a stream in one look. -/
inductive Segment where
  /-- The wire of a frame. -/
  | frame (f : Frame)
  /-- A byte that no frame starts at. -/
  | discarded (b : UInt8)
deriving DecidableEq

namespace Segment

def bytes : Segment → Bytes
  | .frame f => f.wire
  | .discarded b => [b]

def frame? : Segment → Option Frame
  | .frame f => some f
  | .discarded _ => none

end Segment

/-- `Segmentation capacity s segments tail`: the stream `s` falls into these
segments and this tail, each segment as the bytes from its position on
demand. -/
inductive Segmentation (capacity : Nat) : Bytes → List Segment → Bytes → Prop where
  | tail {s : Bytes} (h : Undecided capacity s) : Segmentation capacity s [] s
  | frame {s tail : Bytes} {segments : List Segment} {f : Frame}
      (h : Complete capacity s) (wire : f.wire = s.take (announced s))
      (more : Segmentation capacity (s.drop (announced s)) segments tail) :
      Segmentation capacity s (.frame f :: segments) tail
  | discarded {b : UInt8} {s tail : Bytes} {segments : List Segment}
      (h : Refuses capacity (b :: s)) (more : Segmentation capacity s segments tail) :
      Segmentation capacity (b :: s) (.discarded b :: segments) tail

/-- The frames of a segmentation, in order. -/
def framesOf (segments : List Segment) : List Frame :=
  segments.filterMap Segment.frame?

/-- How many bytes a segmentation discards. -/
def discardsOf (segments : List Segment) : Nat :=
  segments.countP fun x => x.frame?.isNone

@[simp] theorem framesOf_frame (f : Frame) (segments : List Segment) :
    framesOf (.frame f :: segments) = f :: framesOf segments := rfl

@[simp] theorem framesOf_discarded (b : UInt8) (segments : List Segment) :
    framesOf (.discarded b :: segments) = framesOf segments := rfl

@[simp] theorem discardsOf_frame (f : Frame) (segments : List Segment) :
    discardsOf (.frame f :: segments) = discardsOf segments :=
  List.countP_cons_of_neg (by simp [Segment.frame?])

@[simp] theorem discardsOf_discarded (b : UInt8) (segments : List Segment) :
    discardsOf (.discarded b :: segments) = discardsOf segments + 1 :=
  List.countP_cons_of_pos rfl

theorem length_flatMap_bytes (segments : List Segment) :
    (segments.flatMap Segment.bytes).length =
      ((framesOf segments).map Frame.wireSize).sum + discardsOf segments := by
  induction segments with
  | nil => rfl
  | cons x segments ih =>
      rw [List.flatMap_cons, List.length_append, ih]
      cases x with
      | frame f =>
          rw [framesOf_frame, discardsOf_frame, List.map_cons, List.sum_cons,
            Segment.bytes, Frame.length_wire, Nat.add_assoc]
      | discarded b =>
          rw [framesOf_discarded, discardsOf_discarded, Segment.bytes,
            List.length_singleton]
          omega

namespace Segmentation

theorem bytes_eq {capacity : Nat} {s tail : Bytes} {segments : List Segment}
    (h : Segmentation capacity s segments tail) :
    s = segments.flatMap Segment.bytes ++ tail := by
  induction h with
  | tail _ => rfl
  | @frame s tail segments f _ wire _ ih =>
      rw [List.flatMap_cons, List.append_assoc, ← ih, Segment.bytes, wire,
        List.take_append_drop]
  | discarded _ _ ih =>
      rw [List.flatMap_cons, List.append_assoc, ← ih]
      rfl

/-- Every stream has a segmentation: the loop that looks for one ends because
each segment takes something off the stream. -/
theorem exists_segmentation (capacity : Nat) (s : Bytes) :
    ∃ segments tail, Segmentation capacity s segments tail := by
  induction s using scan_induction capacity with
  | wait s hs => exact ⟨[], s, .tail (undecided_of_scan hs)⟩
  | frame s f rest hs ih =>
      obtain ⟨segments, tail, hmore⟩ := ih
      obtain ⟨hcomplete, hwire, rfl⟩ := complete_of_scan hs
      exact ⟨.frame f :: segments, tail, .frame hcomplete hwire hmore⟩
  | discard s c rest hs ih =>
      obtain ⟨segments, tail, hmore⟩ := ih
      obtain ⟨b, rfl⟩ := eq_cons_of_scan_discard hs
      exact ⟨.discarded b :: segments, tail, .discarded (refuses_of_scan hs) hmore⟩

/-- Draining a stream finds the segmentation it has. -/
theorem drain_eq {capacity : Nat} {s tail : Bytes} {segments : List Segment}
    (h : Segmentation capacity s segments tail) :
    (drain capacity s).frames = framesOf segments ∧
      (drain capacity s).rest = tail ∧
      (drain capacity s).discarded.length = discardsOf segments := by
  induction h with
  | tail h =>
      rw [drain_of_wait (scan_of_undecided h)]
      exact ⟨rfl, rfl, rfl⟩
  | frame h wire _ ih =>
      obtain ⟨g, hg, hs⟩ := scan_of_complete h
      obtain ⟨hframes, hrest, hdiscarded⟩ := ih
      rw [drain_of_frame hs, Frame.wire_injective (wire.trans hg.symm)]
      refine ⟨?_, hrest, ?_⟩
      · rw [Drain.frames_andThen, hframes]
        rfl
      · rw [Drain.discarded_andThen, List.nil_append, hdiscarded, discardsOf_frame]
  | discarded h _ ih =>
      obtain ⟨c, hs⟩ := scan_of_refuses h
      obtain ⟨hframes, hrest, hdiscarded⟩ := ih
      rw [drain_of_discard hs]
      refine ⟨?_, hrest, ?_⟩
      · rw [Drain.frames_andThen, List.nil_append]
        exact hframes
      · rw [Drain.discarded_andThen, List.length_append, List.tail_cons, hdiscarded,
          discardsOf_discarded, Nat.add_comm]
        rfl

/-- A stream has no second segmentation: the rules exclude each other at every
position, and a frame is known by its wire. -/
theorem unique {capacity : Nat} {s tail tail' : Bytes}
    {segments segments' : List Segment} (h : Segmentation capacity s segments tail)
    (h' : Segmentation capacity s segments' tail') :
    segments' = segments ∧ tail' = tail := by
  -- on the first segmentation; the second can only use the same rule
  induction h generalizing segments' with
  | tail h =>
      cases h' with
      | tail _ => exact ⟨rfl, rfl⟩
      | frame h' _ _ => exact absurd h h'.not_undecided
      | discarded h' _ => exact absurd h h'.not_undecided
  | frame h wire _ ih =>
      cases h' with
      | tail h' => exact absurd h' h.not_undecided
      | frame _ wire' more' =>
          obtain ⟨rfl, rfl⟩ := ih more'
          rw [Frame.wire_injective (wire'.trans wire.symm)]
          exact ⟨rfl, rfl⟩
      | discarded h' _ => exact absurd h' h.not_refuses
  | discarded h _ ih =>
      cases h' with
      | tail h' => exact absurd h' h.not_undecided
      | frame h' _ _ => exact absurd h h'.not_refuses
      | discarded _ more' =>
          obtain ⟨rfl, rfl⟩ := ih more'
          exact ⟨rfl, rfl⟩

end Segmentation

/-- Every byte of a stream is in a frame, or discarded, or left. -/
theorem length_drain (capacity : Nat) (s : Bytes) :
    s.length = ((drain capacity s).frames.map Frame.wireSize).sum +
      (drain capacity s).discarded.length + (drain capacity s).rest.length := by
  obtain ⟨segments, tail, h⟩ := Segmentation.exists_segmentation capacity s
  obtain ⟨hframes, hrest, hdiscarded⟩ := h.drain_eq
  have hlength := congrArg List.length h.bytes_eq
  rwa [List.length_append, length_flatMap_bytes, ← hframes, ← hrest, ← hdiscarded] at hlength

/-- Decoding until no frame is left finds the segmentation of the stream, the
only one there is, and counts what is in it. -/
theorem StreamDecoder.decodeAll_segmentation (capacity : Nat) (s : Bytes) :
    let (frames, rest, d) := ((StreamDecoder.new capacity).decodeAll s).value
    ∃ segments, Segmentation capacity s segments rest ∧
      (∀ segments' tail, Segmentation capacity s segments' tail →
        segments' = segments ∧ tail = rest) ∧
      s = segments.flatMap Segment.bytes ++ rest ∧
      frames = framesOf segments ∧
      d.stats.frames = (framesOf segments).length ∧
      d.stats.resyncBytes = discardsOf segments ∧
      s.length = (frames.map Frame.wireSize).sum + d.stats.resyncBytes + rest.length := by
  obtain ⟨segments, tail, h⟩ := Segmentation.exists_segmentation capacity s
  obtain ⟨hframes, hrest, hdiscarded⟩ := h.drain_eq
  have hlength := congrArg List.length h.bytes_eq
  rw [List.length_append, length_flatMap_bytes] at hlength
  rw [StreamDecoder.decodeAll_value]
  simp only [StreamDecoder.new, DecodeStats.afterDrain, DecodeStats.zero, Nat.zero_add,
    hframes, hrest, hdiscarded]
  exact ⟨segments, h, fun _ _ h' => h.unique h', h.bytes_eq, rfl, rfl, rfl, hlength⟩

end FramedSerial
