import FramedSerial.Frame.Scan

/-!
# What one look at a stream decides

`scan` joins words out of the first eight bytes and compares them. What its
three answers mean is said here without it, in terms of the stream alone: the
stream may open a frame, it may refuse every frame at its first byte, or it
may be too short to tell. The three exclude each other and leave nothing out,
so each answer of `scan` is equivalent to one of them, and no later proof has
to open the definition again.

Both decided answers read only bytes that are already there. That is why they
stand when the stream grows, and why the parsers built on `scan` do not care
how a stream was cut.
-/

namespace FramedSerial

/-- The four bytes that open every frame. -/
def signatureBytes : Bytes := LittleEndian.ofUInt32 signature

/-- The size that a header announces: its own eight bytes and the
little-endian number in the last two of them. -/
def announced (s : Bytes) : Nat :=
  headerSize + ((s.getD 6 0).toNat + 256 * (s.getD 7 0).toNat)

/-- The stream starts with a header that a receiver of this capacity
believes. -/
structure Opens (capacity : Nat) (s : Bytes) : Prop where
  long : headerSize ≤ s.length
  signed : signatureBytes <+: s
  fits : announced s ≤ capacity

/-- A believed header, and all that it announces. -/
structure Complete (capacity : Nat) (s : Bytes) : Prop where
  opens : Opens capacity s
  present : announced s ≤ s.length

/-- Eight bytes are there, and they are no header that a receiver of this
capacity believes. -/
structure Refuses (capacity : Nat) (s : Bytes) : Prop where
  long : headerSize ≤ s.length
  unfit : ¬ signatureBytes <+: s ∨ capacity < announced s

/-- More bytes are needed to tell. -/
def Undecided (capacity : Nat) (s : Bytes) : Prop :=
  s.length < headerSize ∨ (Opens capacity s ∧ s.length < announced s)

/-! ## The header, read byte by byte -/

theorem signatureBytes_eq : signatureBytes = [0x0D, 0xF0, 0xAD, 0x0B] := by
  decide

theorem exists_header {s : Bytes} (h : headerSize ≤ s.length) :
    ∃ s0 s1 s2 s3 t0 t1 n0 n1 body,
      s = s0 :: s1 :: s2 :: s3 :: t0 :: t1 :: n0 :: n1 :: body := by
  match s, h with
  | s0 :: s1 :: s2 :: s3 :: t0 :: t1 :: n0 :: n1 :: body, _ =>
      exact ⟨s0, s1, s2, s3, t0, t1, n0, n1, body, rfl⟩

theorem toUInt32_eq_signature_iff {s0 s1 s2 s3 : UInt8} {rest : Bytes} :
    LittleEndian.toUInt32 s0 s1 s2 s3 = signature ↔
      signatureBytes <+: s0 :: s1 :: s2 :: s3 :: rest := by
  have hsplit : signatureBytes <+: s0 :: s1 :: s2 :: s3 :: rest ↔
      signatureBytes = [s0, s1, s2, s3] := by
    rw [signatureBytes_eq]
    simp only [List.cons_prefix_cons, List.nil_prefix, and_true, List.cons.injEq]
  rw [hsplit]
  constructor
  · intro h
    rw [signatureBytes, ← h, LittleEndian.ofUInt32_toUInt32]
  · intro h
    rw [signatureBytes_eq] at h
    simp only [List.cons.injEq, and_true] at h
    obtain ⟨rfl, rfl, rfl, rfl⟩ := h
    decide

theorem announced_cons {s0 s1 s2 s3 t0 t1 n0 n1 : UInt8} {body : Bytes} :
    announced (s0 :: s1 :: s2 :: s3 :: t0 :: t1 :: n0 :: n1 :: body) =
      headerSize + (LittleEndian.toUInt16 n0 n1).toNat := by
  rw [LittleEndian.toNat_toUInt16]
  rfl

/-- Bytes that spell the signature, a type and a length are the header that a
frame of that type and length is written with. -/
theorem header_of_bytes {s0 s1 s2 s3 t0 t1 n0 n1 : UInt8} {size : Nat}
    (hsigned : LittleEndian.toUInt32 s0 s1 s2 s3 = signature)
    (hsize : size = (LittleEndian.toUInt16 n0 n1).toNat) :
    header (LittleEndian.toUInt16 t0 t1) (UInt16.ofNat size) =
      [s0, s1, s2, s3, t0, t1, n0, n1] := by
  rw [header, hsize, UInt16.ofNat_toNat, ← hsigned, LittleEndian.ofUInt32_toUInt32,
    LittleEndian.ofUInt16_toUInt16, LittleEndian.ofUInt16_toUInt16]
  rfl

theorem announced_append {s : Bytes} (h : headerSize ≤ s.length) (t : Bytes) :
    announced (s ++ t) = announced s := by
  obtain ⟨s0, s1, s2, s3, t0, t1, n0, n1, body, rfl⟩ := exists_header h
  rfl

/-! ## The three answers -/

theorem complete_or_refuses_or_undecided (capacity : Nat) (s : Bytes) :
    Complete capacity s ∨ Refuses capacity s ∨ Undecided capacity s := by
  by_cases hlong : headerSize ≤ s.length
  · by_cases hfit : signatureBytes <+: s ∧ announced s ≤ capacity
    · have hopens : Opens capacity s := ⟨hlong, hfit.1, hfit.2⟩
      by_cases hpresent : announced s ≤ s.length
      · exact .inl ⟨hopens, hpresent⟩
      · exact .inr (.inr (.inr ⟨hopens, by omega⟩))
    · refine .inr (.inl ⟨hlong, ?_⟩)
      by_cases hsigned : signatureBytes <+: s
      · exact .inr (Nat.lt_of_not_le fun h => hfit ⟨hsigned, h⟩)
      · exact .inl hsigned
  · exact .inr (.inr (.inl (by omega)))

theorem Complete.not_refuses {capacity : Nat} {s : Bytes}
    (h : Complete capacity s) : ¬ Refuses capacity s := by
  intro hr
  rcases hr.unfit with hsigned | hover
  · exact hsigned h.opens.signed
  · exact absurd h.opens.fits (Nat.not_le_of_lt hover)

theorem Complete.not_undecided {capacity : Nat} {s : Bytes}
    (h : Complete capacity s) : ¬ Undecided capacity s := by
  rintro (hshort | ⟨_, hmore⟩)
  · exact absurd h.opens.long (Nat.not_le_of_lt hshort)
  · exact absurd h.present (Nat.not_le_of_lt hmore)

theorem Refuses.not_undecided {capacity : Nat} {s : Bytes}
    (h : Refuses capacity s) : ¬ Undecided capacity s := by
  rintro (hshort | ⟨hopens, _⟩)
  · exact absurd h.long (Nat.not_le_of_lt hshort)
  · rcases h.unfit with hsigned | hover
    · exact hsigned hopens.signed
    · exact absurd hopens.fits (Nat.not_le_of_lt hover)

/-- What cannot be told yet is less than a capacity, or than a header where a
capacity is smaller still. -/
theorem Undecided.length_lt {capacity : Nat} {s : Bytes} (h : Undecided capacity s) :
    s.length < max capacity headerSize := by
  rcases h with hshort | ⟨hopens, hmore⟩
  · omega
  · have hfits := hopens.fits
    omega

theorem scan_of_refuses {capacity : Nat} {s : Bytes} (h : Refuses capacity s) :
    ∃ c, scan capacity s = .discard c s.tail := by
  obtain ⟨s0, s1, s2, s3, t0, t1, n0, n1, body, rfl⟩ := exists_header h.long
  by_cases hsigned : LittleEndian.toUInt32 s0 s1 s2 s3 = signature
  · have hover := h.unfit.resolve_left fun hn => hn (toUInt32_eq_signature_iff.1 hsigned)
    rw [announced_cons] at hover
    rw [scan]
    simp only [hsigned, hover, ne_eq, not_true_eq_false, if_false, if_true]
    exact ⟨_, rfl⟩
  · rw [scan]
    simp only [hsigned, ne_eq, not_false_eq_true, if_true]
    exact ⟨_, rfl⟩

theorem scan_of_undecided {capacity : Nat} {s : Bytes}
    (h : Undecided capacity s) : scan capacity s = .wait := by
  rcases h with hshort | ⟨hopens, hmore⟩
  · unfold scan
    split
    · simp only [List.length_cons, headerSize] at hshort
      omega
    · rfl
  · obtain ⟨s0, s1, s2, s3, t0, t1, n0, n1, body, rfl⟩ := exists_header hopens.long
    have hsigned := toUInt32_eq_signature_iff.2 hopens.signed
    have hfits := hopens.fits
    rw [announced_cons] at hfits hmore
    simp only [List.length_cons, headerSize] at hmore
    rw [scan]
    simp only [hsigned, ne_eq, not_true_eq_false, if_false]
    rw [if_neg (by omega), if_pos (by rw [List.length_take]; omega)]

theorem scan_of_complete {capacity : Nat} {s : Bytes} (h : Complete capacity s) :
    ∃ f : Frame, f.wire = s.take (announced s) ∧
      scan capacity s = .frame f (s.drop (announced s)) := by
  obtain ⟨s0, s1, s2, s3, t0, t1, n0, n1, body, rfl⟩ := exists_header h.opens.long
  have hsigned := toUInt32_eq_signature_iff.2 h.opens.signed
  have hfits := h.opens.fits
  have hpresent := h.present
  rw [announced_cons] at hfits hpresent
  simp only [List.length_cons, headerSize] at hpresent
  have hbody : (body.take (LittleEndian.toUInt16 n0 n1).toNat).length =
      (LittleEndian.toUInt16 n0 n1).toNat := by
    rw [List.length_take]
    omega
  have hbound := (LittleEndian.toUInt16 n0 n1).toNat_lt
  refine ⟨⟨LittleEndian.toUInt16 t0 t1,
    body.take (LittleEndian.toUInt16 n0 n1).toNat, by rw [hbody, maxPayload]; omega⟩, ?_, ?_⟩
  · rw [Frame.wire, header_of_bytes hsigned hbody, announced_cons, headerSize, Nat.add_comm]
    rfl
  · rw [scan]
    simp only [hsigned, ne_eq, not_true_eq_false, if_false]
    rw [if_neg (by omega), if_neg (by omega), announced_cons, headerSize, Nat.add_comm]
    rfl

/-- A look at a stream answers in one of three ways, each for its own reason. -/
theorem scan_cases (capacity : Nat) (s : Bytes) :
    (∃ f : Frame, Complete capacity s ∧ f.wire = s.take (announced s) ∧
      scan capacity s = .frame f (s.drop (announced s))) ∨
    (∃ c, Refuses capacity s ∧ scan capacity s = .discard c s.tail) ∨
    (Undecided capacity s ∧ scan capacity s = .wait) := by
  rcases complete_or_refuses_or_undecided capacity s with hc | hr | hu
  · obtain ⟨f, hwire, hf⟩ := scan_of_complete hc
    exact .inl ⟨f, hc, hwire, hf⟩
  · obtain ⟨c, hd⟩ := scan_of_refuses hr
    exact .inr (.inl ⟨c, hr, hd⟩)
  · exact .inr (.inr ⟨hu, scan_of_undecided hu⟩)

theorem refuses_of_scan {capacity : Nat} {s rest : Bytes} {c : Corruption}
    (h : scan capacity s = .discard c rest) : Refuses capacity s := by
  rcases scan_cases capacity s with ⟨f, -, -, hs⟩ | ⟨c', hr, -⟩ | ⟨-, hs⟩
  · rw [hs] at h
    cases h
  · exact hr
  · rw [hs] at h
    cases h

theorem undecided_of_scan {capacity : Nat} {s : Bytes}
    (h : scan capacity s = .wait) : Undecided capacity s := by
  rcases scan_cases capacity s with ⟨f, -, -, hs⟩ | ⟨c, -, hs⟩ | ⟨hu, -⟩
  · rw [hs] at h
    cases h
  · rw [hs] at h
    cases h
  · exact hu

theorem complete_of_scan {capacity : Nat} {s rest : Bytes} {f : Frame}
    (h : scan capacity s = .frame f rest) :
    Complete capacity s ∧ f.wire = s.take (announced s) ∧ rest = s.drop (announced s) := by
  rcases scan_cases capacity s with ⟨g, hc, hwire, hs⟩ | ⟨c, -, hs⟩ | ⟨-, hs⟩
  · rw [hs] at h
    cases h
    exact ⟨hc, hwire, rfl⟩
  · rw [hs] at h
    cases h
  · rw [hs] at h
    cases h

/-! ## Frames at the head of a stream -/

theorem announced_wire (f : Frame) (rest : Bytes) :
    announced (f.wire ++ rest) = f.wireSize := by
  have hbound := f.length_le
  have hwire : announced (f.wire ++ rest) = headerSize + (LittleEndian.toUInt16
      (UInt8.ofNat (UInt16.ofNat f.payload.length).toNat)
      (UInt8.ofNat ((UInt16.ofNat f.payload.length).toNat / 256))).toNat := announced_cons
  rw [hwire, LittleEndian.toUInt16_ofUInt16, UInt16.toNat_ofNat', Frame.wireSize]
  simp only [maxPayload] at hbound
  omega

theorem complete_wire {capacity : Nat} {f : Frame} (hf : f.wireSize ≤ capacity)
    (rest : Bytes) : Complete capacity (f.wire ++ rest) := by
  have hsize := announced_wire f rest
  have hlong := f.headerSize_le_wireSize
  have hlength : (f.wire ++ rest).length = f.wireSize + rest.length := by
    rw [List.length_append, Frame.length_wire]
  refine ⟨⟨by omega, ?_, by omega⟩, by omega⟩
  rw [Frame.wire, header, List.append_assoc, List.append_assoc, List.append_assoc]
  exact List.prefix_append _ _

/-- Two frames with the same bytes are the same frame. -/
theorem Frame.wire_injective {f g : Frame} (h : f.wire = g.wire) : f = g := by
  simp only [Frame.wire, header, List.append_assoc, List.append_cancel_left_eq] at h
  obtain ⟨htype, hrest⟩ := List.append_inj h rfl
  obtain ⟨-, hpayload⟩ := List.append_inj hrest rfl
  cases f
  cases g
  cases LittleEndian.ofUInt16_injective htype
  cases hpayload
  rfl

theorem scan_wire {capacity : Nat} {f : Frame} (hf : f.wireSize ≤ capacity)
    (rest : Bytes) : scan capacity (f.wire ++ rest) = .frame f rest := by
  obtain ⟨g, hwire, hg⟩ := scan_of_complete (complete_wire hf rest)
  have hcut : (f.wire ++ rest).take (announced (f.wire ++ rest)) = f.wire := by
    rw [announced_wire, ← Frame.length_wire, List.take_left]
  have hrest : (f.wire ++ rest).drop (announced (f.wire ++ rest)) = rest := by
    rw [announced_wire, ← Frame.length_wire, List.drop_left]
  rw [hg, hrest, Frame.wire_injective (hwire.trans hcut)]

end FramedSerial
