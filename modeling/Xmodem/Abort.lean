/-!
# Aborted transfers

A transfer that does not complete ends for one of a fixed list of causes.  Every cause belongs to a
coarser reason, and the reason alone says whether trying the whole transfer again makes sense.
-/

namespace Xmodem

/-- The two ends of a transfer. -/
inductive Role where
  /-- The end that has the data. -/
  | sender
  /-- The end that wants the data. -/
  | receiver
  deriving DecidableEq, Repr

namespace Role

/-- Name of an end. -/
def name : Role → String
  | sender => "sender"
  | receiver => "receiver"

/-- The opposite end. -/
def peer : Role → Role
  | sender => receiver
  | receiver => sender

end Role

/-- What a sender is about to do. -/
inductive SendPhase where
  /-- Wait for the receiver to choose a checksum. -/
  | awaitingStart
  /-- Send the next block. -/
  | sendingBlock
  /-- Wait for the answer to a block. -/
  | awaitingAck
  /-- Announce the end of transmission. -/
  | sendingEot
  /-- Wait for the answer to the end of transmission. -/
  | awaitingEotAck
  /-- Nothing; everything was acknowledged. -/
  | completed
  /-- Nothing; the transfer was given up. -/
  | aborted
  deriving DecidableEq, Repr

namespace SendPhase

/-- Name of a phase. -/
def name : SendPhase → String
  | awaitingStart => "awaiting-start"
  | sendingBlock => "sending-block"
  | awaitingAck => "awaiting-ack"
  | sendingEot => "sending-eot"
  | awaitingEotAck => "awaiting-eot-ack"
  | completed => "completed"
  | aborted => "aborted"

/-- Whether nothing is left to do. -/
def finished : SendPhase → Bool
  | completed | aborted => true
  | _ => false

end SendPhase

/-- What a receiver is about to do. -/
inductive ReceivePhase where
  /-- Ask the sender to start. -/
  | awaitingStart
  /-- Wait for a block; there is room for one. -/
  | awaitingBlock
  /-- Wait for the end of transmission; the destination is full. -/
  | awaitingEotOrBlock
  /-- Nothing; the end of transmission was acknowledged. -/
  | completed
  /-- Nothing; the transfer was given up. -/
  | aborted
  deriving DecidableEq, Repr

namespace ReceivePhase

/-- Name of a phase. -/
def name : ReceivePhase → String
  | awaitingStart => "awaiting-start"
  | awaitingBlock => "awaiting-block"
  | awaitingEotOrBlock => "awaiting-eot-or-block"
  | completed => "completed"
  | aborted => "aborted"

/-- Whether nothing is left to do. -/
def finished : ReceivePhase → Bool
  | completed | aborted => true
  | _ => false

end ReceivePhase

/-- The reasons for which a transfer ends early. -/
inductive AbortReason where
  /-- No sender answered the request to start. -/
  | noSender
  /-- No receiver asked for the transfer. -/
  | noReceiver
  /-- The retry budget of a packet ran out. -/
  | tooManyRetries
  /-- The sender fell silent. -/
  | timedOut
  /-- The peer gave up. -/
  | canceledByPeer
  /-- A block with an unexpected number arrived. -/
  | outOfSequence
  /-- A block did not fit into the destination. -/
  | destinationExhausted
  /-- The line itself failed. -/
  | underlyingIoError
  deriving DecidableEq, Repr

namespace AbortReason

/-- Name of a reason. -/
def name : AbortReason → String
  | noSender => "no-sender"
  | noReceiver => "no-receiver"
  | tooManyRetries => "too-many-retries"
  | timedOut => "timed-out"
  | canceledByPeer => "canceled-by-peer"
  | outOfSequence => "out-of-sequence"
  | destinationExhausted => "destination-exhausted"
  | underlyingIoError => "underlying-io-error"

/-- All reasons. -/
def all : List AbortReason :=
  [noSender, noReceiver, tooManyRetries, timedOut, canceledByPeer, outOfSequence,
    destinationExhausted, underlyingIoError]

/-- The reason with a given name. -/
def ofName? (name : String) : Option AbortReason :=
  all.find? fun reason => reason.name == name

/-- Whether a fresh session can do better. -/
def retryable : AbortReason → Bool
  | destinationExhausted | underlyingIoError => false
  | _ => true

/-- An explanation; the name of the reason stands in for an empty one. -/
def explain (reason : AbortReason) (explanation : String) : String :=
  if explanation.isEmpty then reason.name else explanation

theorem mem_all (reason : AbortReason) : reason ∈ all := by
  cases reason <;> decide

theorem ofName?_name (reason : AbortReason) : ofName? reason.name = some reason := by
  cases reason <;> decide

end AbortReason

/-- What a sender waits to see acknowledged. -/
inductive Outstanding where
  /-- The block with a number. -/
  | block (number : UInt8)
  /-- The end of transmission. -/
  | endOfTransmission
  deriving DecidableEq, Repr

namespace Outstanding

/-- Text for the packet in question. -/
def text : Outstanding → String
  | block number => s!"block {number.toNat}"
  | endOfTransmission => "EOT"

end Outstanding

/-- The exact cause of an early end. -/
inductive AbortCause where
  /-- The receiver kept silent through all waits for the start. -/
  | receiverSilent (attempts : Nat)
  /-- The sender kept silent through all waits for the start. -/
  | senderSilentAtStart (attempts : Nat)
  /-- The sender fell silent after some bytes had been stored. -/
  | senderSilent (stored : Nat)
  /-- The retry budget of a packet ran out. -/
  | unacknowledged (outstanding : Outstanding) (retries : Nat)
  /-- The peer gave up before the first block. -/
  | canceledBeforeStart (peer : Role)
  /-- The receiver gave up while the sender was in some phase. -/
  | receiverCanceled (phase : SendPhase)
  /-- The sender gave up after some bytes had been stored. -/
  | senderCanceled (stored : Nat)
  /-- A block arrived that is neither the next nor the last one. -/
  | outOfSequence (expected actual : UInt8)
  /-- A block had no room, or more than padding beyond the room. -/
  | noRoom (number : UInt8) (offset capacity : Nat)
  /-- The line failed. -/
  | lineFault (message : String)
  deriving DecidableEq, Repr

namespace AbortCause

/-- The reason to which a cause belongs. -/
def reason : AbortCause → AbortReason
  | receiverSilent _ => .noReceiver
  | senderSilentAtStart _ => .noSender
  | senderSilent _ => .timedOut
  | unacknowledged _ _ => .tooManyRetries
  | canceledBeforeStart _ => .canceledByPeer
  | receiverCanceled _ => .canceledByPeer
  | senderCanceled _ => .canceledByPeer
  | outOfSequence _ _ => .outOfSequence
  | noRoom _ _ _ => .destinationExhausted
  | lineFault _ => .underlyingIoError

/-- Explanation of a cause. -/
def message : AbortCause → String
  | receiverSilent attempts => s!"receiver silent after {attempts} handshake attempts"
  | senderSilentAtStart attempts => s!"sender silent after {attempts} handshake attempts"
  | senderSilent stored => s!"sender silent after {stored} bytes"
  | unacknowledged outstanding retries =>
      outstanding.text ++ s!" not acknowledged after {retries} retries"
  | canceledBeforeStart peer => peer.name ++ " canceled before the first block"
  | receiverCanceled phase => "receiver canceled during " ++ phase.name
  | senderCanceled stored => s!"sender canceled after {stored} bytes"
  | outOfSequence expected actual =>
      s!"expected block {expected.toNat}, got {actual.toNat}"
  | noRoom number offset capacity =>
      s!"block {number.toNat} does not fit at offset {offset} of a {capacity}-byte destination"
  | lineFault message => "channel error: " ++ message

end AbortCause

/-- A transfer that ended early. -/
structure Failure where
  /-- Why it ended. -/
  cause : AbortCause
  /-- How many bytes had been transferred. -/
  transferred : Nat
  deriving DecidableEq, Repr

namespace Failure

/-- The reason to which the cause belongs. -/
def reason (failure : Failure) : AbortReason :=
  failure.cause.reason

/-- Whether a fresh session can do better. -/
def retryable (failure : Failure) : Bool :=
  failure.reason.retryable

/-- Explanation of the failure. -/
def message (failure : Failure) : String :=
  failure.cause.message

end Failure

/-- How a session ends: with a number of bytes or with a failure. -/
abbrev Outcome :=
  Except Failure Nat

end Xmodem
