import FramedSerial.Proofs.Corruption
import FramedSerial.Proofs.Interleaving
import FramedSerial.Proofs.Routing

/-!
# Overflow costs the oldest frames

A queue that is too small for what is routed into it keeps the last bytes of
the wires and knows nothing of frames, so what it hands out may begin in the
middle of one. A decoder makes nothing of that first piece and loses nothing
besides. The piece is shorter than the frame that it was cut from, so no frame
starts in it, and if the signature occurs only where frames start, then the
piece is noise: it is discarded byte by byte, up to the first frame that is
whole.

Which frames those are is a question of sizes alone. They are the longest end
of the list whose wires fit into the queue, `newest`.
-/

namespace FramedSerial

/-! ## The frames that fit -/

/-- The longest end of a list of frames whose wires fit into so many bytes. -/
def newest (room : Nat) : List Frame → List Frame
  | [] => []
  | f :: fs =>
    if ((f :: fs).flatMap Frame.wire).length ≤ room then f :: fs else newest room fs

variable {room : Nat} {fs : List Frame}

theorem newest_suffix (room : Nat) (fs : List Frame) : newest room fs <:+ fs := by
  induction fs with
  | nil => exact List.suffix_refl []
  | cons f fs ih =>
      rw [newest]
      split
      · exact List.suffix_refl _
      · exact ih.trans (List.suffix_cons f fs)

theorem length_newest_le (room : Nat) (fs : List Frame) :
    ((newest room fs).flatMap Frame.wire).length ≤ room := by
  induction fs with
  | nil => exact Nat.zero_le _
  | cons f fs ih =>
      rw [newest]
      split
      · next hfits => exact hfits
      · exact ih

theorem suffix_newest {late : List Frame} (h : late <:+ fs)
    (hfits : (late.flatMap Frame.wire).length ≤ room) : late <:+ newest room fs := by
  induction fs with
  | nil => exact h
  | cons f fs ih =>
      rw [newest]
      split
      · exact h
      · next hover =>
          rcases List.suffix_cons_iff.1 h with rfl | h
          · exact absurd hfits hover
          · exact ih h

/-- What overflow leaves of the frames in front of those that fit: nothing, or
an end of the last of them. -/
inductive CutOff : List Frame → Bytes → Prop where
  | nothing : CutOff [] []
  | last {before : List Frame} {f : Frame} {cut : Bytes} (tail : cut <:+ f.wire)
      (short : cut.length < f.wireSize) : CutOff (before ++ [f]) cut

/-- The last bytes of some wires are the frames that fit and what is left of the
frame in front of them. -/
theorem drop_wires_eq (room : Nat) (fs : List Frame) :
    ∃ early cut, fs = early ++ newest room fs ∧ CutOff early cut ∧
      (fs.flatMap Frame.wire).drop ((fs.flatMap Frame.wire).length - room) =
        cut ++ (newest room fs).flatMap Frame.wire := by
  obtain ⟨early, hsplit⟩ := newest_suffix room fs
  have hle := length_newest_le room fs
  have hwires : fs.flatMap Frame.wire =
      early.flatMap Frame.wire ++ (newest room fs).flatMap Frame.wire := by
    rw [← List.flatMap_append, hsplit]
  rcases List.eq_nil_or_concat' early with rfl | ⟨before, f, rfl⟩
  · refine ⟨[], [], hsplit.symm, .nothing, ?_⟩
    rw [hwires, List.flatMap_nil, List.nil_append, Nat.sub_eq_zero_of_le hle, List.drop_zero]
  · -- the frame in front does not fit as well, so the cut goes through it
    have hover : room < f.wireSize + ((newest room fs).flatMap Frame.wire).length := by
      by_contra hfits
      have hmore : f :: newest room fs <:+ fs :=
        ⟨before, (List.append_cons before f _).trans hsplit⟩
      have hin : f :: newest room fs <:+ newest room fs := by
        refine suffix_newest hmore ?_
        rw [List.flatMap_cons, List.length_append, Frame.length_wire]
        omega
      have hlength := hin.length_le
      rw [List.length_cons] at hlength
      omega
    rw [List.flatMap_append, List.flatMap_singleton] at hwires
    have hlength := congrArg List.length hwires
    simp only [List.length_append, Frame.length_wire] at hlength
    obtain ⟨n, hn⟩ : ∃ n, (fs.flatMap Frame.wire).length - room =
        (before.flatMap Frame.wire).length + n ∧ 0 < n ∧ n ≤ f.wireSize :=
      ⟨(fs.flatMap Frame.wire).length - room - (before.flatMap Frame.wire).length, by omega⟩
    refine ⟨before ++ [f], f.wire.drop n, hsplit.symm, .last (List.drop_suffix n _) ?_, ?_⟩
    · rw [List.length_drop, Frame.length_wire]
      omega
    · rw [hn.1, hwires, List.append_assoc, List.drop_append, List.drop_eq_nil_of_le (by omega),
        List.nil_append, Nat.add_sub_cancel_left,
        List.drop_append_of_le_length (by rw [Frame.length_wire]; exact hn.2.2)]

/-! ## A cut frame is noise -/

/-- Nothing starts in what is left of a frame, if all that is left fits into a
queue that the next longer list of whole frames does not fit into. -/
theorem noise_of_cut (capacity : Nat) (hsigned : SignedAtStarts fs) {cut : Bytes}
    (hin : cut ++ (newest room fs).flatMap Frame.wire <:+ fs.flatMap Frame.wire)
    (hfits : (cut ++ (newest room fs).flatMap Frame.wire).length ≤ room) :
    Noise capacity cut := by
  intro s hs hstart
  obtain ⟨before, rfl⟩ := hs
  rw [List.append_assoc] at hin hfits
  obtain ⟨after, hafter, heq⟩ := hsigned _ ((List.suffix_append _ _).trans hin)
    (hstart.trans (List.prefix_append s _))
  -- frames that start inside the piece are more than fit
  have hlate : after <:+ newest room fs := by
    refine suffix_newest hafter ?_
    rw [← heq]
    rw [List.length_append] at hfits
    omega
  have hle := (hlate.flatMap Frame.wire).length_le
  have hlength := congrArg List.length heq
  rw [List.length_append] at hlength
  have hnil : s = [] := List.length_eq_zero_iff.1 (by omega)
  rw [hnil, signatureBytes_eq] at hstart
  simp at hstart

/-- A decoder discards the piece and takes the frames. -/
theorem ofStream_of_noise {capacity : Nat} {g : Bytes} (hg : Noise capacity g)
    (hfit : ∀ f ∈ fs, f.wireSize ≤ capacity) (hne : fs ≠ []) :
    Decoded.ofStream capacity (g ++ fs.flatMap Frame.wire) =
      ⟨fs, ⟨fs.length, g.length, 0⟩, []⟩ := by
  obtain ⟨f, fs, rfl⟩ := List.exists_cons_of_ne_nil hne
  have hclean : Noise capacity [] := by
    intro s hs hstart
    rw [List.suffix_nil.1 hs, signatureBytes_eq] at hstart
    simp at hstart
  let xs : List Stretch := ⟨g, f⟩ :: fs.map fun f => ⟨[], f⟩
  have hfits : ∀ x ∈ xs, x.frame.wireSize ≤ capacity := by
    simpa [xs] using List.forall_mem_cons.1 hfit
  have hgaps : ∀ x ∈ xs, Noise capacity x.gap := by
    simpa [xs] using ⟨hg, fun _ _ => hclean⟩
  simpa [xs, Stretch.bytes, List.flatMap_map, Function.comp_def] using
    ofStream_of_stretches hfits hgaps

/-! ## Routing all and reading all -/

namespace Delivery

variable {q : Delivery}

theorem ring_routeAll (fs : List Frame) :
    ∀ q : Delivery, (q.routeAll fs).ring = (q.ring.pushAll (forwarded fs)).1 := by
  induction fs with
  | nil => intro q; rfl
  | cons f fs ih =>
      intro q
      rw [routeAll_cons, ih, ← List.singleton_append, forwarded_append, Ring.pushAll_append]
      by_cases htype : f.type = FrameType.stateUpdate
      · rw [forwarded_of_stateUpdate htype, Ring.pushAll_nil]
        by_cases hreport : f.isReport
        · rw [route_of_report hreport]
          rfl
        · rw [route_of_tooShort htype hreport]
      · rw [route_of_ne htype, forwarded_of_ne htype, push_value]

/-- Routed into an empty queue, frames leave the last bytes of their wires. -/
theorem toList_routeAll (hempty : q.ring.toList = []) (fs : List Frame) :
    (q.routeAll fs).ring.toList =
      (forwarded fs).drop ((forwarded fs).length - q.ring.capacity) := by
  rw [ring_routeAll, Ring.toList_pushAll, Ring.pushAll_gone, hempty, List.nil_append,
    List.length_nil, Nat.zero_add]

theorem read_spec (q : Delivery) (room : Nat) (mode : ReadMode) (now : Instant) :
    (q.read room mode none now).1.bytes = q.ring.toList.take room ∧
      (q.read room mode none now).2.ring.toList = q.ring.toList.drop room := by
  have htook : q.ring.toList = (q.read room mode none now).1.bytes ++
      (q.read room mode none now).2.ring.toList := (q.took_readAmid room mode none now).taken
  have hbytes : (q.read room mode none now).1.bytes = q.ring.toList.take room := by
    by_cases hnil : q.ring.toList = []
    · rw [hnil] at htook
      rw [hnil, List.take_nil]
      exact (List.append_eq_nil_iff.1 htook.symm).1
    · by_cases hroom : room = 0
      · rw [hroom, List.take_zero]
        rfl
      · simp only [read, readAmid, if_neg hroom, deadline, turns,
          turn_of_toList rfl hnil]
        rfl
  refine ⟨hbytes, ?_⟩
  rw [hbytes] at htook
  exact List.append_cancel_left (htook.symm.trans (List.take_append_drop room _).symm)

/-- Reads one after another: the bytes they return, and the queue after them. -/
def readEach (q : Delivery) (mode : ReadMode) (now : Instant) : List Nat → Bytes × Delivery
  | [] => ([], q)
  | room :: rooms =>
    let first := q.read room mode none now
    let more := first.2.readEach mode now rooms
    (first.1.bytes ++ more.1, more.2)

theorem readEach_spec (mode : ReadMode) (now : Instant) (rooms : List Nat) :
    ∀ q : Delivery, (q.readEach mode now rooms).1 = q.ring.toList.take rooms.sum ∧
      (q.readEach mode now rooms).2.ring.toList = q.ring.toList.drop rooms.sum := by
  induction rooms with
  | nil => intro q; exact ⟨rfl, rfl⟩
  | cons room rooms ih =>
      intro q
      obtain ⟨hbytes, hrest⟩ := q.read_spec room mode now
      obtain ⟨hmore, hlast⟩ := ih (q.read room mode none now).2
      rw [hrest] at hmore hlast
      rw [List.sum_cons]
      refine ⟨?_, ?_⟩
      · show (q.read room mode none now).1.bytes ++ _ = _
        rw [hbytes, hmore, List.take_add]
      · show ((q.read room mode none now).2.readEach mode now rooms).2.ring.toList = _
        rw [hlast, List.drop_drop]

end Delivery

/-- A queue that overflows costs the oldest frames. Whatever goes into it, the
frames whose wires fit come out whole and in order; of what is left of the
frame in front of them each byte is discarded and counted. -/
theorem decoded_of_overflow {capacity : Nat} {q : Delivery} (hempty : q.ring.toList = [])
    (hforwards : ∀ f ∈ fs, f.type ≠ FrameType.stateUpdate)
    (hfit : ∀ f ∈ fs, f.wireSize ≤ capacity) (hsigned : SignedAtStarts fs)
    (hsome : newest q.ring.capacity fs ≠ []) (mode : ReadMode) (now : Instant)
    {rooms : List Nat}
    (hrooms : min q.ring.capacity (fs.flatMap Frame.wire).length ≤ rooms.sum) :
    let late := newest q.ring.capacity fs
    let read := (q.routeAll fs).readEach mode now rooms
    read.2.ring.toList = [] ∧
    ∃ early cut, fs = early ++ late ∧ CutOff early cut ∧
      read.1 = cut ++ late.flatMap Frame.wire ∧
      ∀ cs : List StreamDecoder.Call, cs.flatMap StreamDecoder.Call.bytes = read.1 →
        StreamDecoder.decoded capacity cs = ⟨late, ⟨late.length, cut.length, 0⟩, []⟩ := by
  intro late read
  obtain ⟨early, cut, hsplit, hcut, hdrop⟩ := drop_wires_eq q.ring.capacity fs
  have hwires : forwarded fs = fs.flatMap Frame.wire := by
    rw [forwarded, List.filter_eq_self.2 fun f hf => decide_eq_true (hforwards f hf)]
  have hqueued : (q.routeAll fs).ring.toList = cut ++ late.flatMap Frame.wire := by
    rw [Delivery.toList_routeAll hempty, hwires, hdrop]
  have hlength : (cut ++ late.flatMap Frame.wire).length =
      min q.ring.capacity (fs.flatMap Frame.wire).length := by
    rw [← hdrop, List.length_drop]
    omega
  obtain ⟨hbytes, hrest⟩ := Delivery.readEach_spec mode now rooms (q.routeAll fs)
  rw [hqueued, List.take_of_length_le (by omega)] at hbytes
  rw [hqueued, List.drop_eq_nil_of_le (by omega)] at hrest
  have hnoise : Noise capacity cut := by
    refine noise_of_cut capacity hsigned ?_ (hlength ▸ Nat.min_le_left _ _)
    exact hdrop ▸ List.drop_suffix _ _
  refine ⟨hrest, early, cut, hsplit, hcut, hbytes, ?_⟩
  intro cs hcs
  rw [StreamDecoder.decoded_eq_ofStream, hcs, hbytes]
  exact ofStream_of_noise hnoise
    (fun f hf => hfit f ((newest_suffix _ _).subset hf)) hsome

/-- Twenty-five bytes hold two of four frames and the last five of the eight
bytes of another, which begin in its signature. -/
theorem decoded_of_overflow_inside_signature :
    let late : List Frame := [⟨3, [9], by decide⟩, ⟨6, [5, 7, 8], by decide⟩]
    let fs : List Frame := [⟨1, [5, 7], by decide⟩, ⟨2, [], by decide⟩] ++ late
    let q := Delivery.ofCapacity 25 (by decide)
    let rooms := [3, 0, 40]
    let read := (q.routeAll fs).readEach .nonBlocking ⟨0, 0⟩ rooms
    q.ring.toList = [] ∧ (∀ f ∈ fs, f.type ≠ FrameType.stateUpdate) ∧
      (∀ f ∈ fs, f.wireSize ≤ 16) ∧ SignedAtStarts fs ∧ newest q.ring.capacity fs = late ∧
      min q.ring.capacity (fs.flatMap Frame.wire).length ≤ rooms.sum ∧
      read.2.ring.toList = [] ∧ read.1.take 5 = [0x0B, 2, 0, 0, 0] ∧
      ∀ cs : List StreamDecoder.Call, cs.flatMap StreamDecoder.Call.bytes = read.1 →
        StreamDecoder.decoded 16 cs = ⟨late, ⟨2, 5, 0⟩, []⟩ := by
  intro late fs q rooms read
  have hempty : q.ring.toList = [] := q.ring.isEmpty_iff.1 rfl
  have hforwards : ∀ f ∈ fs, f.type ≠ FrameType.stateUpdate := by decide
  have hfit : ∀ f ∈ fs, f.wireSize ≤ 16 := by decide
  have hsigned : SignedAtStarts fs := by decide +kernel
  have hnewest : newest q.ring.capacity fs = late := by decide +kernel
  have hrooms : min q.ring.capacity (fs.flatMap Frame.wire).length ≤ rooms.sum := by
    decide +kernel
  obtain ⟨hread, early, cut, -, -, hbytes, hdecoded⟩ := decoded_of_overflow hempty hforwards hfit
    hsigned (by rw [hnewest]; exact List.cons_ne_nil _ _) .nonBlocking ⟨0, 0⟩ hrooms
  have hlength : read.1.length = 25 := by decide +kernel
  have hcut : cut.length = 5 := by
    have hsum := (congrArg List.length hbytes).symm.trans hlength
    rw [List.length_append, hnewest, show (late.flatMap Frame.wire).length = 20 from rfl] at hsum
    omega
  rw [hnewest, hcut] at hdecoded
  exact ⟨hempty, hforwards, hfit, hsigned, hnewest, hrooms, hread, by decide +kernel, hdecoded⟩

end FramedSerial
