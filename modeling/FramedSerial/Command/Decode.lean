import FramedSerial.Command.Report
import FramedSerial.Command.Surroundings
import FramedSerial.Decoder.Staged

/-!
# Decoding a capture

A capture is read in chunks, every chunk is staged, and each complete frame is printed. A
chunk that does not fit is lost together with what was staged; the decoder counts such
losses, and the capture is decoded all the same.
-/

namespace FramedSerial

namespace Decode

/-- Decode what reads bring: what is printed for the frames, and the decoder at the end of
the capture or the failure that ended it. An interrupted read is tried again. -/
def capture (report : Frame → List Output) (d : StagedDecoder) :
    List (Except IoError Bytes) → List Output × Except Failure StagedDecoder
  | [] => ([], .ok d)
  | .ok [] :: _ => ([], .ok d)
  | .error e :: later =>
    if e.kind = .interrupted then capture report d later else ([], .error (.io "read failed" e))
  | .ok chunk :: later =>
    match (d.stage chunk).value with
    | (.ok (), d) =>
      let (frames, d) := d.takeAll.value
      let (outputs, result) := capture report d later
      (frames.flatMap report ++ outputs, result)
    | (.error (.overflow _ _ _), d) => capture report d later
    | (.error e, _) => ([], .error (.frame "decode failed" e))

/-- What reads of the chosen input bring. -/
def inputReads (s : Surroundings) (t : DecodeJob) :
    Except Failure (List (Except IoError Bytes)) :=
  match t.input with
  | none => .ok ((pieces Surroundings.readSize s.input).map .ok)
  | some path =>
    match s.files path with
    | .ok node => .ok (Surroundings.fileReads node)
    | .error e => .error (.io ("failed opening " ++ path) e)

/-- Decode what reads of an open input bring, with room for this many bytes. -/
def runOn (s : Surroundings) (format : OutputFormat) (capacity : Nat)
    (reads : List (Except IoError Bytes)) : Run :=
  match StagedDecoder.allocate capacity with
  | .error cause => s.early (.crashed cause)
  | .ok d =>
    let (outputs, result) := capture (Report.frame format s.stamp) d reads
    match result with
    | .error cause => s.finish none s.device.transport outputs (.error cause)
    | .ok d =>
      s.finish none s.device.transport
        (outputs ++ Report.stats format d.stats d.pending.length) (.ok .success)

/-- Decode the chosen input. -/
def run (s : Surroundings) (format : OutputFormat) (t : DecodeJob) : Run :=
  match inputReads s t with
  | .error cause => s.early (.failed cause)
  | .ok reads => runOn s format t.stagingCapacity.toNat reads

end Decode

end FramedSerial
