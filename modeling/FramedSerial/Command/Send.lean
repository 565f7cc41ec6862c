import FramedSerial.Command.Report
import FramedSerial.Command.Surroundings

/-!
# Sending one message

The payload is found and framed before the device is opened, so a message that cannot be
sent leaves the device alone. The device is handed the message once, and if it takes only
part of it the command says so and fails.
-/

namespace FramedSerial

namespace Send

/-- The payload of a message. -/
def payload (fs : Files) : PayloadSource → Except Failure Bytes
  | .nothing => .ok []
  | .text text => .ok (textBytes text)
  | .hex text => (readHex text).mapError .hex
  | .file path =>
    match fs path with
    | .error e => .error (.io ("failed reading " ++ path) e)
    | .ok node => (node.contents).mapError (.io ("failed reading " ++ path))

/-- The bytes to send: a frame around the payload if there is a type, the payload otherwise. -/
def message (type : Option FrameType) (payload : Bytes) : Except Failure Bytes :=
  match type with
  | none => .ok payload
  | some t =>
    match Frame.encode t payload [] with
    | (.ok (), wire) => .ok wire
    | (.error e, _) => .error (.frame "encode failed" e)

/-- The bytes to send for this job, with its payload looked up. -/
def prepared (fs : Files) (t : SendJob) : Except Failure Bytes := do
  let payload ← payload fs t.payload
  message t.frameType payload

/-- Send a message. -/
def run (s : Surroundings) (format : OutputFormat) (t : SendJob) : Run :=
  let opened := do
    let wire ← prepared s.files t
    let speed ← s.openLine t.line
    return (wire, speed)
  match opened with
  | .error cause => s.early (.failed cause)
  | .ok (wire, speed) =>
    match (s.device.transport.transmit wire).value with
    | (.error cause, transport) =>
      s.finish (some speed) transport [] (.error (.link "send failed" cause))
    | (.ok written, transport) =>
      s.finish (some speed) transport (Report.sent format t.frameType wire.length written)
        (.ok (if written < wire.length then .failure else .success))

end Send

end FramedSerial
