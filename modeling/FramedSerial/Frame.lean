import FramedSerial.Error

/-!
# Frames and their wire form

A frame is a type and a payload. On the wire it is an eight-byte header (the signature, the
type and the payload's length, each little-endian) followed by the payload as it is. The
length field has sixteen bits, so a payload has at most 65535 bytes; that bound is part of
the type, and `Frame.ofPayload` is where a longer payload is refused.
-/

namespace FramedSerial

/-- The type code in a frame's header. -/
abbrev FrameType := UInt16

namespace FrameType

/-- The type of the frames that report the peer's state. -/
def stateUpdate : FrameType := 4

/-- The name a type is shown by. -/
def name (t : FrameType) : String :=
  if t = stateUpdate then "STATE_UPDATE" else "OPAQUE"

end FrameType

/-- The length of a header. -/
def headerSize : Nat := 8

/-- The length of the longest payload. -/
def maxPayload : Nat := 65535

/-- A type and a payload that a header can announce. -/
structure Frame where
  type : FrameType
  payload : Bytes
  length_le : payload.length ≤ maxPayload
deriving DecidableEq

/-- The header of a frame whose payload has `size` bytes. -/
def header (type : FrameType) (size : UInt16) : Bytes :=
  LittleEndian.ofUInt32 signature ++ LittleEndian.ofUInt16 type ++ LittleEndian.ofUInt16 size

namespace Frame

/-- The frame of this type and payload. -/
def ofPayload (type : FrameType) (payload : Bytes) : Except FrameError Frame :=
  if h : payload.length ≤ maxPayload then .ok ⟨type, payload, h⟩
  else .error (.payloadTooLarge payload.length maxPayload)

/-- The bytes of a frame on the wire. -/
def wire (f : Frame) : Bytes :=
  header f.type (UInt16.ofNat f.payload.length) ++ f.payload

/-- The number of bytes of a frame on the wire. -/
def wireSize (f : Frame) : Nat := headerSize + f.payload.length

@[simp] theorem length_wire (f : Frame) : f.wire.length = f.wireSize := by
  simp [wire, header, wireSize, headerSize]
  omega

theorem headerSize_le_wireSize (f : Frame) : headerSize ≤ f.wireSize :=
  Nat.le_add_right _ _

theorem ofPayload_payload (f : Frame) : ofPayload f.type f.payload = .ok f := by
  simp [ofPayload, f.length_le]

/-- Append the wire form of a type and a payload to a buffer; a payload that is too long
leaves the buffer as it was. -/
def encode (type : FrameType) (payload : Bytes) (dst : Bytes) :
    Except FrameError Unit × Bytes :=
  match ofPayload type payload with
  | .ok f => (.ok (), dst ++ f.wire)
  | .error e => (.error e, dst)

end Frame

end FramedSerial
