import FramedSerial.Proofs.Drain

/-!
# Encoding and decoding are inverse

A frame on the wire is read back as it was written, whatever bytes stand
behind it, and nothing of them is read. The other way round is the stronger
half: whatever is read as a frame is exactly what writing that frame produces.
So a frame has one wire form, no bytes that differ from it are taken for the
frame, and a reader that keeps the wire and one that writes it anew cannot be
told apart.

Only the sixteen bits of the length stand in the way. A payload they cannot
count is refused before anything is written.
-/

namespace FramedSerial

/-- The head of a stream is taken for a frame exactly if it is the frame's wire
and the capacity allows for it. -/
theorem scan_eq_frame_iff {capacity : Nat} {s rest : Bytes} {f : Frame} :
    scan capacity s = .frame f rest ↔ s = f.wire ++ rest ∧ f.wireSize ≤ capacity := by
  constructor
  · exact eq_wire_of_scan
  · rintro ⟨rfl, hf⟩
    exact scan_wire hf rest

namespace Frame

variable {type : FrameType} {payload : Bytes}

theorem ofPayload_of_le (h : payload.length ≤ maxPayload) :
    ofPayload type payload = .ok ⟨type, payload, h⟩ :=
  dif_pos h

theorem ofPayload_of_lt (h : maxPayload < payload.length) :
    ofPayload type payload = .error (.payloadTooLarge payload.length maxPayload) :=
  dif_neg (Nat.not_le_of_lt h)

theorem encode_of_ofPayload {f : Frame} (h : ofPayload type payload = .ok f) (dst : Bytes) :
    encode type payload dst = (.ok (), dst ++ f.wire) := by
  rw [encode, h]

theorem encode_of_lt (h : maxPayload < payload.length) (dst : Bytes) :
    encode type payload dst = (.error (.payloadTooLarge payload.length maxPayload), dst) := by
  rw [encode, ofPayload_of_lt h]

/-- What is encoded is read back, with anything behind it. -/
theorem scan_encode {capacity : Nat} (hpayload : payload.length ≤ maxPayload)
    (hcapacity : headerSize + payload.length ≤ capacity) (dst rest : Bytes) :
    ∃ f appended, encode type payload dst = (.ok (), dst ++ appended) ∧
      appended.length = headerSize + payload.length ∧
      scan capacity (appended ++ rest) = .frame f rest ∧
      ofPayload type payload = .ok f ∧ f.type = type ∧ f.payload = payload := by
  have hmade : ofPayload type payload = .ok ⟨type, payload, hpayload⟩ := ofPayload_of_le hpayload
  refine ⟨_, _, encode_of_ofPayload hmade dst, ?_, ?_, hmade, rfl, rfl⟩
  · exact length_wire _
  · exact scan_wire hcapacity rest

/-- What is read is what would be encoded. -/
theorem encode_of_scan {capacity : Nat} {s rest : Bytes} {f : Frame}
    (h : scan capacity s = .frame f rest) :
    s = f.wire ++ rest ∧ (∀ dst, encode f.type f.payload dst = (.ok (), dst ++ f.wire)) ∧
      ofPayload f.type f.payload = .ok f ∧ f.wireSize ≤ capacity := by
  obtain ⟨hs, hf⟩ := scan_eq_frame_iff.1 h
  exact ⟨hs, encode_of_ofPayload f.ofPayload_payload, f.ofPayload_payload, hf⟩

/-- Encoding and decoding are inverse on all that the format can express, and
a payload that it cannot express is refused without a trace. -/
theorem encode_scan_inverse :
    (∀ (type : FrameType) (payload dst rest : Bytes) (capacity : Nat),
      payload.length ≤ maxPayload → headerSize + payload.length ≤ capacity →
      ∃ f appended, encode type payload dst = (.ok (), dst ++ appended) ∧
        appended.length = headerSize + payload.length ∧
        scan capacity (appended ++ rest) = .frame f rest ∧
        ofPayload type payload = .ok f ∧ f.type = type ∧ f.payload = payload) ∧
    (∀ (capacity : Nat) (s rest : Bytes) (f : Frame), scan capacity s = .frame f rest →
      s = f.wire ++ rest ∧ (∀ dst, encode f.type f.payload dst = (.ok (), dst ++ f.wire)) ∧
        ofPayload f.type f.payload = .ok f ∧ f.wireSize ≤ capacity) ∧
    (∀ (type : FrameType) (payload dst : Bytes), maxPayload < payload.length →
      encode type payload dst = (.error (.payloadTooLarge payload.length maxPayload), dst) ∧
        ofPayload type payload = .error (.payloadTooLarge payload.length maxPayload)) := by
  refine ⟨?_, ?_, ?_⟩
  · intro type payload dst rest capacity hpayload hcapacity
    exact scan_encode hpayload hcapacity dst rest
  · intro capacity s rest f h
    exact encode_of_scan h
  · intro type payload dst h
    exact ⟨encode_of_lt h dst, ofPayload_of_lt h⟩

/-- The longest payload with the beginning of a signature behind it, a frame
that carries an encoded frame, and a payload with a byte too many. -/
theorem encode_scan_inverse_at_the_limit :
    let longest : Bytes := List.replicate 65535 7
    let tooLong : Bytes := List.replicate 65536 7
    let f : Frame := ⟨0x99, [0x0D, 0xF0, 0xAD, 0x0B, 1, 0, 0, 0], by decide⟩
    let s : Bytes := [0x0D, 0xF0, 0xAD, 0x0B, 0x99, 0, 8, 0, 0x0D, 0xF0, 0xAD, 0x0B, 1, 0, 0, 0, 5]
    longest.length ≤ maxPayload ∧ headerSize + longest.length ≤ 65543 ∧
      (∃ f appended, encode 4 longest [1] = (.ok (), [1] ++ appended) ∧
        appended.length = headerSize + longest.length ∧
        scan 65543 (appended ++ [0x0D, 0xF0]) = .frame f [0x0D, 0xF0] ∧
        ofPayload 4 longest = .ok f ∧ f.type = 4 ∧ f.payload = longest) ∧
      scan 16 s = .frame f [5] ∧ s = f.wire ++ [5] ∧
      encode 0x99 f.payload [] = (.ok (), f.wire) ∧
      maxPayload < tooLong.length ∧
      encode 4 tooLong [1] = (.error (.payloadTooLarge tooLong.length maxPayload), [1]) := by
  intro longest tooLong f s
  have hlongest : longest.length ≤ maxPayload := by
    rw [List.length_replicate]
    decide
  have hcapacity : headerSize + longest.length ≤ 65543 := by
    rw [List.length_replicate]
    decide
  have htooLong : maxPayload < tooLong.length := by
    rw [List.length_replicate]
    decide
  have hscan : scan 16 s = .frame f [5] := by rfl
  obtain ⟨hforth, hback, hrefused⟩ := encode_scan_inverse
  obtain ⟨hs, hencode, -, -⟩ := hback 16 s [5] f hscan
  exact ⟨hlongest, hcapacity, hforth 4 longest [1] [0x0D, 0xF0] 65543 hlongest hcapacity, hscan,
    hs, hencode [], htooLong, (hrefused 4 tooLong [1] htooLong).1⟩

end Frame

end FramedSerial
