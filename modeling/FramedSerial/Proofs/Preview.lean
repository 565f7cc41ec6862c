import FramedSerial.Proofs.HexSpelling
import FramedSerial.Proofs.JsonFields

/-!
# A payload and what is shown of it

A payload is shown as the text it is, or else by its digits. The digits of one
payload can be the text of another, so what is shown does not say which of the
two it was. The size does: a text takes as many bytes as the payload has, digits
take twice as many, and only nothing is as long as twice itself. So a payload can
be read back from its size and what is shown of it.

A report puts the two into one line, and a line tells its fields apart. What is
printed of a frame is thus enough to have the frame again.
-/

namespace FramedSerial

/-! ## Texts as bytes -/

theorem fromUTF8?_textBytes (text : String) :
    String.fromUTF8? ⟨(textBytes text).toArray⟩ = some text := by
  have hbytes : (⟨(textBytes text).toArray⟩ : ByteArray) = text.toByteArray := by
    rw [textBytes, Array.toArray_toList]
  rw [hbytes, String.fromUTF8?, dif_pos text.isValidUTF8]
  rfl

theorem textBytes_of_fromUTF8? {payload : Bytes} {text : String}
    (h : String.fromUTF8? ⟨payload.toArray⟩ = some text) : textBytes text = payload := by
  unfold String.fromUTF8? at h
  split at h
  · cases h
    rfl
  · cases h

theorem length_utf8Bytes {cs : List Char} (h : ∀ c ∈ cs, c.toNat < 0x80) :
    (cs.flatMap String.utf8EncodeChar).length = cs.length := by
  induction cs with
  | nil => rfl
  | cons c cs ih =>
      obtain ⟨hc, hcs⟩ := List.forall_mem_cons.1 h
      rw [List.flatMap_cons, utf8EncodeChar_of_lt hc, List.singleton_append, List.length_cons,
        List.length_cons, ih hcs]

theorem exists_digit_of_mem {c : Char} {payload : Bytes} (h : c ∈ (hexText payload).toList) :
    ∃ n < 16, c = hexDigit n := by
  rw [hexText, String.toList_ofList, hexChars_eq] at h
  obtain ⟨n, hn, rfl⟩ := List.mem_map.1 h
  exact ⟨n, lt_of_mem_halves n hn, rfl⟩

theorem length_textBytes_hexText (payload : Bytes) :
    (textBytes (hexText payload)).length = 2 * payload.length := by
  have hascii : ∀ c ∈ (hexText payload).toList, c.toNat < 0x80 := by
    intro c hc
    obtain ⟨n, hn, rfl⟩ := exists_digit_of_mem hc
    exact (hexDigit_lt hn).1
  rw [textBytes_eq, length_utf8Bytes hascii, hexText, String.toList_ofList, length_hexChars]

/-! ## Previews -/

theorem payloadPreview_cases (payload : Bytes) :
    textBytes (payloadPreview payload) = payload ∨ payloadPreview payload = hexText payload := by
  unfold payloadPreview
  split
  · next text htext =>
      split
      · exact .inr rfl
      · exact .inl (textBytes_of_fromUTF8? htext)
  · exact .inr rfl

/-- A text without control characters is shown as it is. -/
theorem payloadPreview_textBytes {text : String}
    (h : ∀ c ∈ text.toList, Unicode.isControl c = false) :
    payloadPreview (textBytes text) = text := by
  have hnone : text.toList.any Unicode.isControl = false := by
    rw [List.any_eq_false]
    intro c hc
    rw [h c hc]
    decide
  simp only [payloadPreview, fromUTF8?_textBytes, hnone]
  rfl

theorem isControl_hexDigit {n : Nat} (h : n < 16) : Unicode.isControl (hexDigit n) = false := by
  have hall : ∀ n < 16, Unicode.isControl (hexDigit n) = false := by decide
  exact hall n h

/-- The payload of this size of which this is shown. -/
def payloadOf? (size : Nat) (shown : String) : Option Bytes :=
  if (textBytes shown).length = size then some (textBytes shown) else (readHex shown).toOption

theorem payloadOf?_payloadPreview (payload : Bytes) :
    payloadOf? payload.length (payloadPreview payload) = some payload := by
  rcases payloadPreview_cases payload with htext | hhex
  · rw [payloadOf?, htext, if_pos rfl]
  · have hread := (readHex_of_respells (.refl (hexText payload).toList)).1
    rw [hhex, payloadOf?, length_textBytes_hexText, hread]
    split
    · -- twice a size is that size
      next hsize =>
        have hnil : payload = [] := List.length_eq_zero_iff.1 (by omega)
        rw [hnil]
        rfl
    · rfl

theorem eq_of_payloadPreview {p q : Bytes} (hsize : p.length = q.length)
    (h : payloadPreview p = payloadPreview q) : p = q := by
  rw [← Option.some.injEq, ← payloadOf?_payloadPreview p, hsize, h, payloadOf?_payloadPreview]

/-! ## Lines -/

theorem Output.line_injective {s t : String} (h : line s = line t) : s = t := by
  rw [line, line, Output.text.injEq, ← String.toList_inj, String.toList_append,
    String.toList_append] at h
  exact String.toList_inj.1 (List.append_cancel_right h)

namespace Report

/-- The fields of a report that are about the payload. -/
def payloadFields (payload : Bytes) : List (String × JsonScalar) :=
  [("payload_size", .number payload.length), ("payload", .text (payloadPreview payload))]

theorem frame_json_injective {stamp stamp' : String} {f g : Frame}
    (h : frame .json stamp f = frame .json stamp' g) : stamp = stamp' ∧ f = g := by
  have hfields := jsonObject_injective (Output.line_injective (List.singleton_inj.1 h))
  simp only [List.cons.injEq, Prod.mk.injEq, JsonScalar.number.injEq, JsonScalar.text.injEq,
    true_and, and_true] at hfields
  obtain ⟨htype, -, hsize, hpreview, hstamp⟩ := hfields
  obtain ⟨type, payload, hlength⟩ := f
  obtain ⟨type', payload', hlength'⟩ := g
  obtain rfl : type = type' := UInt16.toNat_inj.1 htype
  obtain rfl := eq_of_payloadPreview hsize hpreview
  exact ⟨hstamp, rfl⟩

/-- Payloads of one size are shown alike only if they are the same. So the two
fields of a report that are about the payload determine it, and the line they
stand in determines the frame; what is shown does not do it alone, since the
digits of any payload are a text as well, of twice its size. -/
theorem payload_told_by_its_fields :
    (∀ p q : Bytes, p.length = q.length → payloadPreview p = payloadPreview q → p = q) ∧
    (∀ (stamp : String) (f : Frame), ∃ before after : List (String × JsonScalar),
      frame .json stamp f =
        [.line (jsonObject (before ++ payloadFields f.payload ++ after))]) ∧
    (∀ (stamp stamp' : String) (f g : Frame),
      frame .json stamp f = frame .json stamp' g → stamp = stamp' ∧ f = g) ∧
    ∀ p : Bytes, payloadPreview (textBytes (hexText p)) = hexText p ∧
      (textBytes (hexText p)).length = 2 * p.length := by
  refine ⟨fun p q => eq_of_payloadPreview, ?_, fun _ _ _ _ => frame_json_injective, ?_⟩
  · intro stamp f
    exact ⟨[("frame_type", .number f.type.toNat), ("frame_type_name", .text f.type.name)],
      [("timestamp", .text stamp)], rfl⟩
  · intro p
    refine ⟨payloadPreview_textBytes fun c hc => ?_, length_textBytes_hexText p⟩
    obtain ⟨n, hn, rfl⟩ := exists_digit_of_mem hc
    exact isControl_hexDigit hn

/-- Two bytes that are no text and the text of their digits are shown alike, but for
their sizes. Two payloads of one size that are shown alike, one of them given as a
text, are the same, and so are the frames around them. -/
theorem payload_told_from_its_digits :
    payloadPreview [0xAA, 0xBB] = "aabb" ∧ payloadPreview (textBytes "aabb") = "aabb" ∧
      (textBytes "aabb").length = 4 ∧
      ([0x68, 0x69] : Bytes).length = (textBytes "hi").length ∧
      payloadPreview [0x68, 0x69] = payloadPreview (textBytes "hi") ∧
      ([0x68, 0x69] : Bytes) = textBytes "hi" ∧
      frame .json "0" ⟨0x99, [0x68, 0x69], by decide⟩ =
        frame .json "0" ⟨0x99, textBytes "hi", by decide⟩ ∧
      (⟨0x99, [0x68, 0x69], by decide⟩ : Frame) = ⟨0x99, textBytes "hi", by decide⟩ := by
  obtain ⟨halike, -, hlines, hdigits⟩ := payload_told_by_its_fields
  have hsize : ([0x68, 0x69] : Bytes).length = (textBytes "hi").length := by decide
  have hshown : payloadPreview [0x68, 0x69] = payloadPreview (textBytes "hi") := by decide
  have hline : frame .json "0" ⟨0x99, [0x68, 0x69], by decide⟩ =
      frame .json "0" ⟨0x99, textBytes "hi", by decide⟩ := rfl
  obtain ⟨haabb, htwice⟩ := hdigits [0xAA, 0xBB]
  exact ⟨by decide, haabb, htwice, hsize, hshown, halike _ _ hsize hshown, hline,
    (hlines _ _ _ _ hline).2⟩

end Report

end FramedSerial
