import FramedSerial.Command.Argument
import FramedSerial.Command.Output
import FramedSerial.Decoder.Stats
import FramedSerial.Delivery
import FramedSerial.Text.Json
import FramedSerial.Text.Table

/-!
# What commands print

Each result has four forms: an object for programs, a table, a line for people, and the raw
form, which holds nothing that was not on the wire and so leaves counters out.

A payload is shown as text if it is UTF-8 without control characters and in hexadecimal
otherwise. The two can look alike, but never at the same length of payload.
-/

namespace FramedSerial

/-- The text a payload is shown by. -/
def payloadPreview (payload : Bytes) : String :=
  match String.fromUTF8? ⟨payload.toArray⟩ with
  | some s => if s.toList.any Unicode.isControl then hexText payload else s
  | none => hexText payload

namespace Report

/-- A frame type as it is shown. -/
def typeText (t : FrameType) : String := "0x" ++ upperHex 4 t.toNat

/-- A table with one row. -/
def singleRow (cells : List (String × String)) : Output :=
  .line (Table.mk (cells.map (·.1)) [cells.map (·.2)]).render

/-- A decoded frame. The stamp is the time of the report. -/
def frame (format : OutputFormat) (stamp : String) (f : Frame) : List Output :=
  match format with
  | .json => [.line (jsonObject [
      ("frame_type", .number f.type.toNat),
      ("frame_type_name", .text f.type.name),
      ("payload_size", .number f.payload.length),
      ("payload", .text (payloadPreview f.payload)),
      ("timestamp", .text stamp)])]
  | .table => [singleRow [
      ("TYPE", typeText f.type),
      ("NAME", f.type.name),
      ("SIZE", toString f.payload.length),
      ("PAYLOAD", payloadPreview f.payload)]]
  | .pretty => [.line ("type=" ++ typeText f.type ++ " (" ++ f.type.name ++ ") size="
      ++ toString f.payload.length ++ " payload=" ++ payloadPreview f.payload)]
  | .raw => [.bytes f.wire]

/-- A state, as it is seen now. -/
def status (format : OutputFormat) (stamp : String) (view : StatusView) : List Output :=
  let snapshot := view.snapshot
  match format with
  | .json => [.line (jsonObject [
      ("root_state", .number snapshot.rootState.toNat),
      ("version", .number snapshot.version.toNat),
      ("timestamp", .text stamp)])]
  | .table => [.line (Table.mk ["ATTRIBUTE", "VALUE"]
      (Attribute.all.map fun a => [a.name, trimmed (view.render a)])).render]
  | .pretty => [.line ("root_state=" ++ toString snapshot.rootState.toNat ++ " version="
      ++ toString snapshot.version.toNat)]
  | .raw => Attribute.all.map fun a => .text (view.render a)

/-- The counters of a decoder at the end of a capture, and the bytes it still holds. -/
def stats (format : OutputFormat) (s : DecodeStats) (pending : Nat) : List Output :=
  match format with
  | .json => [.line (jsonObject [
      ("frames", .number s.frames),
      ("resync_bytes", .number s.resyncBytes),
      ("overflow_resets", .number s.overflowResets),
      ("pending", .number pending)])]
  | .table => [singleRow [
      ("FRAMES", toString s.frames),
      ("RESYNC BYTES", toString s.resyncBytes),
      ("OVERFLOW RESETS", toString s.overflowResets),
      ("PENDING", toString pending)]]
  | .pretty => [.line ("frames=" ++ toString s.frames ++ " resync_bytes="
      ++ toString s.resyncBytes ++ " overflow_resets=" ++ toString s.overflowResets
      ++ " pending=" ++ toString pending)]
  | .raw => []

/-- A message that was sent: its frame type if it has one, its size, and how much of it the
device took. -/
def sent (format : OutputFormat) (type : Option FrameType) (requested written : Nat) :
    List Output :=
  match format with
  | .json => [.line (jsonObject [
      ("frame_type", (type.map fun t => JsonScalar.number t.toNat).getD .null),
      ("frame_type_name", (type.map fun t => JsonScalar.text t.name).getD .null),
      ("requested", .number requested),
      ("written", .number written)])]
  | .table => [singleRow [
      ("TYPE", (type.map typeText).getD "raw"),
      ("REQUESTED", toString requested),
      ("WRITTEN", toString written)]]
  | .pretty => [.line ("sent " ++ toString written ++ "/" ++ toString requested ++ " bytes")]
  | .raw => []

end Report

end FramedSerial
