import Xmodem.Abort
import Xmodem.Frame

/-!
# Notes

A note is one remark about the course of a transfer.  Notes are data: what is remarked, and how
important it is.  Their wording is a matter of presentation.
-/

namespace Xmodem

/-- Importance of a note, and the threshold from which notes are shown. -/
inductive Severity where
  /-- Of interest when looking for a mistake. -/
  | debug
  /-- The normal course of events. -/
  | info
  /-- The end of a transfer, or a likely mistake. -/
  | warning
  /-- A failure of the program. -/
  | error
  /-- A threshold above all notes. -/
  | critical
  deriving DecidableEq, Repr

namespace Severity

/-- Name of a severity. -/
def name : Severity → String
  | debug => "DEBUG"
  | info => "INFO"
  | warning => "WARNING"
  | error => "ERROR"
  | critical => "CRITICAL"

/-- Position in the order of importance. -/
def rank : Severity → Nat
  | debug => 10
  | info => 20
  | warning => 30
  | error => 40
  | critical => 50

/-- All severities. -/
def all : List Severity :=
  [debug, info, warning, error, critical]

/-- The severity with a given name. -/
def ofName? (name : String) : Option Severity :=
  all.find? fun severity => severity.name == name

theorem ofName?_name (severity : Severity) : ofName? severity.name = some severity := by
  cases severity <;> decide

end Severity

/-- Direction in which progress is made. -/
inductive Direction where
  /-- A block was acknowledged by the peer. -/
  | sent
  /-- A block was stored. -/
  | received
  deriving DecidableEq, Repr

namespace Direction

/-- The past participle of a direction. -/
def name : Direction → String
  | sent => "sent"
  | received => "received"

end Direction

/-- Where a byte of noise was dropped. -/
inductive Occasion where
  /-- A sender waited for the receiver to start. -/
  | awaitingHandshake
  /-- A receiver waited for the sender to start. -/
  | awaitingSender
  /-- A sender waited for an answer. -/
  | sending (phase : SendPhase)
  /-- A receiver waited for the next packet. -/
  | receiving (phase : ReceivePhase)
  deriving DecidableEq, Repr

/-- What made a sender repeat a packet. -/
inductive RetryTrigger where
  /-- No answer in time. -/
  | timeout
  /-- A negative acknowledgement. -/
  | nak
  deriving DecidableEq, Repr

/-- What a receiver missed during an idle period. -/
inductive Idleness where
  /-- No packet began. -/
  | noBlock
  /-- A frame stopped after some bytes. -/
  | partialFrame (length : Nat)
  deriving DecidableEq, Repr

/-- A remark about the course of a transfer. -/
inductive Note (τ : Type) where
  /-- A sender heard nothing yet. -/
  | noHandshake (attempt : Nat)
  /-- A receiver heard nothing yet. -/
  | noSender (attempt : Nat)
  /-- A byte of noise was dropped. -/
  | discarded (byte : UInt8) (occasion : Occasion)
  /-- A sender learnt the checksum mode. -/
  | senderStarted (length : Nat) (mode : ChecksumMode)
  /-- A receiver heard the first packet. -/
  | receiverStarted (capacity : Nat) (mode : ChecksumMode)
  /-- A block was acknowledged. -/
  | acknowledged (number : UInt8) (cursor : Nat)
  /-- A packet is sent again. -/
  | retrying (trigger : RetryTrigger) (outstanding : Outstanding) (retry : Nat)
  /-- A receiver waited in vain. -/
  | idle (idleness : Idleness) (periods : Nat)
  /-- A damaged frame was refused. -/
  | rejected (error : FrameError)
  /-- The last block arrived once more. -/
  | duplicate (number : UInt8)
  /-- The first end of transmission is to be confirmed. -/
  | confirmingEot
  /-- A session was given up. -/
  | aborted (role : Role) (cause : AbortCause)
  /-- A session completed. -/
  | done (role : Role) (transferred : Nat) (duration : τ) (retransmits timeouts : Nat)
  /-- A session failed and the next one begins. -/
  | restarting (session : Nat) (reason : AbortReason)
  /-- An impaired line lost a byte. -/
  | dropped (line : String) (byte : UInt8)
  /-- A serial port was opened. -/
  | opened (port : String) (baud : Int) (flowControl : String)
  /-- Progress, with the rate since the last report when time passed. -/
  | progress (direction : Direction) (total : Int) (rate : Option τ)
  /-- The true length of an image is not known. -/
  | lengthUnknown
  deriving DecidableEq, Repr

namespace Note

variable {τ : Type}

/-- Importance of a note. -/
def severity : Note τ → Severity
  | senderStarted _ _ | receiverStarted _ _ | done _ _ _ _ _ | restarting _ _ | opened _ _ _
  | progress _ _ _ => .info
  | aborted _ _ | lengthUnknown => .warning
  | _ => .debug

end Note
end Xmodem
