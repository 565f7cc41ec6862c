import FramedSerial.Decoder.Stream
import FramedSerial.Line.SocketPair
import FramedSerial.Main
import FramedSerial.Proofs.Drain
import FramedSerial.Proofs.Segmentation
import FramedSerial.Proofs.Schedule
import FramedSerial.Proofs.Resync
import FramedSerial.Proofs.Window
import FramedSerial.Proofs.Ledger
import FramedSerial.Proofs.Routing
import FramedSerial.Proofs.Course
import FramedSerial.Proofs.Sliding
import FramedSerial.Proofs.Interleaving
import FramedSerial.Proofs.Latch
import FramedSerial.Proofs.Accounts
import FramedSerial.Proofs.Splitting
import FramedSerial.Proofs.Corruption
import FramedSerial.Proofs.RoundTrip
import FramedSerial.Proofs.Insistence
import FramedSerial.Proofs.FillingLoop
import FramedSerial.Proofs.Overflow
import FramedSerial.Proofs.Freshness
import FramedSerial.Proofs.Wakeup
import FramedSerial.Proofs.Forwarding
import FramedSerial.Proofs.Staging
import FramedSerial.Proofs.CleanStream
import FramedSerial.Proofs.Restart
import FramedSerial.Proofs.Pumping
import FramedSerial.Proofs.Handover
import FramedSerial.Proofs.HexPayload
import FramedSerial.Proofs.Deadline
import FramedSerial.Proofs.Reconciliation
import FramedSerial.Proofs.EndOfStream
import FramedSerial.Proofs.Capture
import FramedSerial.Proofs.WholeMessage
import FramedSerial.Proofs.FirstReport
import FramedSerial.Proofs.SlotIndices
import FramedSerial.Proofs.DurationGrammar
import FramedSerial.Proofs.HexSpelling
import FramedSerial.Proofs.JsonFields
import FramedSerial.Proofs.Preview
