import Xmodem.Report
import Xmodem.Transfer
import Xmodem.CommandLine.Rehearsal
import Xmodem.Checksum.Wide
import Xmodem.Decimal.Shortest
import Xmodem.Line.Port
import Xmodem.Line.Run
import Xmodem.Main
import Xmodem.Note.Wording
import Xmodem.ProgressReport
import Xmodem.Text.Json
import Xmodem.Text.Numeral
import Xmodem.Text.Quoted
import Xmodem.Proofs.Lossless
import Xmodem.Proofs.Budget
import Xmodem.Proofs.Agreement
import Xmodem.Proofs.SingleFault
import Xmodem.Proofs.Sender.Clock
import Xmodem.Proofs.Sender.Language
import Xmodem.Proofs.Termination
import Xmodem.Proofs.Receiver.Image
import Xmodem.Proofs.Delay
import Xmodem.Proofs.FrameCodec
import Xmodem.Proofs.Closing
import Xmodem.Proofs.Receiver.Closing
import Xmodem.Proofs.Sender.Closing
import Xmodem.Proofs.Containment
import Xmodem.Proofs.Performance
import Xmodem.Proofs.Receiver.Disturbance
import Xmodem.Proofs.Undisturbed
import Xmodem.Proofs.Receiver.Joining
import Xmodem.Proofs.Restarts
import Xmodem.Proofs.ErrorPatterns
import Xmodem.Proofs.Receiver.Hearing
import Xmodem.Proofs.Cancellation
import Xmodem.Proofs.Receiver.Idleness
import Xmodem.Proofs.Receiver.Replies
import Xmodem.Proofs.Receiver.Independence
import Xmodem.Proofs.Freshness
import Xmodem.Proofs.Sender.Verdict
import Xmodem.Proofs.Sender.Weighing
import Xmodem.Proofs.Sender.Noise
import Xmodem.Proofs.Silence
import Xmodem.Proofs.Loopback
import Xmodem.Proofs.Latency
import Xmodem.Proofs.Punctuality
import Xmodem.Proofs.CommandLine.Reception
import Xmodem.Proofs.CommandLine.PortUse
import Xmodem.Proofs.CommandLine.Conclusions
import Xmodem.Proofs.Redundancy
import Xmodem.Proofs.Sender.Ledger
