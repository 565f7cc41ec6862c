import FramedSerial.Decoder.Staged
import FramedSerial.Delivery

/-!
# Where a frame goes

A state report updates the snapshot and is then done with; every other frame goes to the
reader with its header, byte for byte as it came. Either way the queue changes in one
critical section per frame, so a reader that has seen a byte of a frame also sees every
report that came before it.
-/

namespace FramedSerial

/-- What became of a frame. -/
inductive Routed where
  /-- It was a state report and is the snapshot now. -/
  | stored (snapshot : Snapshot)
  /-- It was a state report too short to be one. -/
  | tooShort (length : Nat)
  /-- It was queued for the reader, at the cost of older bytes. -/
  | forwarded (size evicted : Nat)

/-- Send a frame where it belongs. -/
def Delivery.route (q : Delivery) (f : Frame) : Logged (Routed × Delivery) :=
  if f.type = FrameType.stateUpdate then
    match Snapshot.ofPayload? f.payload with
    | some s => do
      Logged.tell (.stateStored s)
      return (.stored s, q.store s)
    | none => do
      Logged.tell (.stateTooShort f.payload.length)
      return (.tooShort f.payload.length, q)
  else do
    Logged.tell (.frameForwarded f.type f.wireSize)
    let (evicted, q) ← q.push f.wire
    return (.forwarded f.wireSize evicted, q)

end FramedSerial
