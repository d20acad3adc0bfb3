import Xmodem.Session

/-!
# Senders

A sender waits for the receiver to choose a checksum, then sends one block at a time and waits for
its acknowledgement, and at last announces the end of transmission in the same manner.  Silence and
negative acknowledgements make it send the same bytes again until the retry budget is spent.
-/

namespace Xmodem
namespace Sender

/-- Why a sender writes. -/
inductive Writing where
  /-- A packet goes out for the first time. -/
  | first
  /-- The last packet goes out again. -/
  | again
  /-- The receiver is told that the transfer was given up. -/
  | cancel (cause : AbortCause)
  deriving DecidableEq, Repr

/-- What a sender is doing at the moment. -/
inductive Activity (τ : Type) where
  /-- Nothing; the session has not begun. -/
  | idle
  /-- Nothing; the next step is about to begin. -/
  | between
  /-- Waiting for a byte until a deadline. -/
  | listening (deadline : τ)
  /-- Writing. -/
  | writing (purpose : Writing)
  /-- Nothing; the session is over. -/
  | ended (outcome : Outcome)

end Sender

/-- A session that sends. -/
structure Sender (τ : Type) [Quantity τ] where
  /-- Limits and timeouts. -/
  policy : RetryPolicy τ
  /-- Length of the source. -/
  length : Nat
  /-- The part of the source that was not acknowledged. -/
  unsent : List UInt8
  /-- What the sender is about to do. -/
  phase : SendPhase
  /-- Checksum chosen by the receiver. -/
  mode : Option ChecksumMode
  /-- Number of source bytes that were acknowledged. -/
  cursor : Nat
  /-- Number of the current block. -/
  blockNumber : UInt8
  /-- How often the current packet was sent again. -/
  attempts : Nat
  /-- Silent waits for the start. -/
  handshakeAttempts : Nat
  /-- Bytes of the current packet. -/
  frame : List UInt8
  /-- Counters and instants. -/
  metrics : Metrics τ
  /-- What the sender is doing at the moment. -/
  activity : Sender.Activity τ

namespace Sender

variable {τ : Type} [Quantity τ]

/-- A sender that has not begun. -/
def start (policy : RetryPolicy τ) (source : List UInt8) (now : τ) : Sender τ where
  policy := policy
  length := source.length
  unsent := source
  phase := .awaitingStart
  mode := none
  cursor := 0
  blockNumber := 1
  attempts := 0
  handshakeAttempts := 0
  frame := []
  metrics := .fresh now
  activity := .idle

/-- The state shown to observers. -/
def status (sender : Sender τ) : Status :=
  .sending sender.phase sender.cursor sender.blockNumber sender.attempts sender.handshakeAttempts

/-- What has to be sent next. -/
def nextPhase (sender : Sender τ) : SendPhase :=
  if sender.cursor < sender.length then .sendingBlock else .sendingEot

/-- The current block. -/
def currentBlock (sender : Sender τ) : Block :=
  .ofChunk sender.blockNumber (sender.unsent.take blockSize) (List.length_take_le ..)

/-- The packet whose acknowledgement is awaited. -/
def outstanding (sender : Sender τ) : Outstanding :=
  if sender.phase = .awaitingEotAck then .endOfTransmission else .block sender.blockNumber

/-- End the session with an outcome. -/
def close (sender : Sender τ) (now : τ) (outcome : Outcome) : Sender τ :=
  { sender with
    metrics := { sender.metrics with finish := some now }
    activity := .ended outcome }

/-- End the current step normally. -/
def endStep (sender : Sender τ) : Sender τ × List (Event τ) :=
  let sender := { sender with activity := .between }
  (sender, [.stepped sender.status])

/-- Give up without telling the receiver. -/
def abort (sender : Sender τ) (now : τ) (cause : AbortCause) : Sender τ × List (Event τ) :=
  ({ sender with phase := .aborted }.close now (.error ⟨cause, sender.cursor⟩),
    [.note (.aborted .sender cause)])

/-- Give up and tell the receiver. -/
def abortNotifying (sender : Sender τ) (cause : AbortCause) : Sender τ × List (Event τ) :=
  ({ sender with phase := .aborted, activity := .writing (.cancel cause) },
    [.note (.aborted .sender cause)])

/-- Report success. -/
def complete (sender : Sender τ) (now : τ) : Sender τ × List (Event τ) :=
  let sender := sender.close now (.ok sender.cursor)
  let sender := { sender with metrics := { sender.metrics with bytes := sender.cursor } }
  (sender,
    [.note (.done .sender sender.cursor sender.metrics.duration sender.metrics.retransmits
      sender.metrics.timeouts)])

/-- Begin the step that the phase calls for. -/
def beginStep (sender : Sender τ) (now : τ) : Sender τ × List (Event τ) :=
  match sender.phase with
  | .awaitingStart =>
      ({ sender with activity := .listening (now + sender.policy.handshakeTimeout) }, [])
  | .sendingBlock =>
      ({ sender with
          frame := Frame.encode (sender.mode.getD .additive) sender.currentBlock
          activity := .writing .first }, [])
  | .sendingEot =>
      ({ sender with
          frame := [Signal.byte .endOfTransmission]
          activity := .writing .first }, [])
  | .awaitingAck | .awaitingEotAck =>
      ({ sender with activity := .listening (now + sender.policy.byteTimeout) }, [])
  | .completed => sender.complete now
  | .aborted => (sender, [])

/-- Send the current packet again, or give up when the budget is spent. -/
def retry (sender : Sender τ) (trigger : RetryTrigger) : Sender τ × List (Event τ) :=
  match sender.policy.decide sender.attempts with
  | .giveUp => sender.abortNotifying (.unacknowledged sender.outstanding sender.attempts)
  | .retry =>
      let attempts := sender.attempts + 1
      ({ sender with
          attempts := attempts
          metrics := { sender.metrics with retransmits := sender.metrics.retransmits + 1 }
          activity := .writing .again },
        [.note (.retrying trigger sender.outstanding attempts)])

/-- Take up the checksum mode that the receiver chose. -/
def begin (sender : Sender τ) (mode : ChecksumMode) : Sender τ × List (Event τ) :=
  let (sender, events) :=
    { sender with mode := some mode, phase := sender.nextPhase }.endStep
  (sender, .note (.senderStarted sender.length mode) :: events)

/-- Move on after an acknowledgement. -/
def acknowledged (sender : Sender τ) : Sender τ × List (Event τ) :=
  let sender := { sender with attempts := 0 }
  if sender.phase = .awaitingEotAck then
    { sender with phase := .completed }.endStep
  else
    let cursor := min (sender.cursor + blockSize) sender.length
    let number := sender.blockNumber
    let sender :=
      { sender with
        cursor := cursor
        unsent := sender.unsent.drop blockSize
        blockNumber := number + 1 }
    let (sender, events) := { sender with phase := sender.nextPhase }.endStep
    (sender, .note (.acknowledged number cursor) :: .progress .sent cursor :: events)

/-- Drop a byte of noise and keep waiting. -/
def discard (sender : Sender τ) (value : UInt8) (occasion : Occasion) :
    Sender τ × List (Event τ) :=
  (sender, [.note (.discarded value occasion)])

/-- React to a byte while waiting for the start. -/
def heardAtStart (sender : Sender τ) (now : τ) (value : UInt8) : Sender τ × List (Event τ) :=
  match PacketKind.ofLeadingByte? value with
  | some (.control .negativeAcknowledge) => sender.begin .additive
  | some (.control .requestCrc) => sender.begin .crc16
  | some (.control .cancel) => sender.abort now (.canceledBeforeStart .receiver)
  | _ => sender.discard value .awaitingHandshake

/-- React to a byte while waiting for an answer. -/
def heardReply (sender : Sender τ) (now : τ) (value : UInt8) : Sender τ × List (Event τ) :=
  match PacketKind.ofLeadingByte? value with
  | some (.control .acknowledge) => sender.acknowledged
  | some (.control .negativeAcknowledge) =>
      { sender with metrics := { sender.metrics with naks := sender.metrics.naks + 1 } }.retry .nak
  | some (.control .cancel) => sender.abort now (.receiverCanceled sender.phase)
  | _ => sender.discard value (.sending sender.phase)

/-- React to a byte. -/
def heard (sender : Sender τ) (now : τ) (value : UInt8) : Sender τ × List (Event τ) :=
  if sender.phase = .awaitingStart then sender.heardAtStart now value
  else sender.heardReply now value

/-- React to the end of a silent wait. -/
def heardNothing (sender : Sender τ) (now : τ) : Sender τ × List (Event τ) :=
  let sender :=
    { sender with metrics := { sender.metrics with timeouts := sender.metrics.timeouts + 1 } }
  if sender.phase = .awaitingStart then
    let attempts := sender.handshakeAttempts + 1
    let sender := { sender with handshakeAttempts := attempts }
    let (sender, events) :=
      if sender.policy.exhausted attempts then sender.abort now (.receiverSilent attempts)
      else sender.endStep
    (sender, .note (.noHandshake attempts) :: events)
  else
    sender.retry .timeout

/-- React to the end of a write. -/
def wrote (sender : Sender τ) (now : τ) : Writing → Sender τ × List (Event τ)
  | .first =>
      if sender.phase = .sendingBlock then
        { sender with
          phase := .awaitingAck
          metrics := { sender.metrics with blocks := sender.metrics.blocks + 1 } }.endStep
      else
        { sender with phase := .awaitingEotAck }.endStep
  | .again => sender.endStep
  | .cancel cause => (sender.close now (.error ⟨cause, sender.cursor⟩), [])

/-- The action at an instant. -/
def action (sender : Sender τ) (now : τ) : Action τ :=
  match sender.activity with
  | .idle | .between => .proceed
  | .listening deadline =>
      let remaining := deadline - now
      if remaining ≤ 0 then .proceed else .read remaining
  | .writing (.cancel _) => .write [Signal.byte .cancel]
  | .writing _ => .write sender.frame
  | .ended _ => .stop

/-- The sender after an answer, and the events on the way.  An answer to another action than the
current one changes nothing. -/
def next (sender : Sender τ) (now : τ) (answer : Answer) : Sender τ × List (Event τ) :=
  match sender.activity, answer with
  | .idle, .proceeded =>
      ({ sender with
          metrics := { sender.metrics with start := now }
          activity := .between }, [])
  | .between, .proceeded => sender.beginStep now
  | .listening deadline, .proceeded =>
      if deadline - now ≤ 0 then sender.heardNothing now else (sender, [])
  | .listening _, .silence => sender.heardNothing now
  | .listening _, .byte value => sender.heard now value
  | .writing purpose, .written => sender.wrote now purpose
  | .listening _, .fault fault => sender.abort now (.lineFault fault.message)
  | .writing _, .fault fault => sender.abort now (.lineFault fault.message)
  | _, _ => (sender, [])

section Steps

variable {sender : Sender τ} {now deadline : τ} {purpose : Writing}

theorem next_between (rests : sender.activity = .between) :
    sender.next now .proceeded = sender.beginStep now := by
  unfold next
  simp only [rests]

theorem next_listening_silence (listens : sender.activity = .listening deadline) :
    sender.next now .silence = sender.heardNothing now := by
  unfold next
  simp only [listens]

theorem next_listening_byte (listens : sender.activity = .listening deadline) (value : UInt8) :
    sender.next now (.byte value) = sender.heard now value := by
  unfold next
  simp only [listens]

theorem next_written (writes : sender.activity = .writing purpose) :
    sender.next now .written = sender.wrote now purpose := by
  unfold next
  simp only [writes]

end Steps

/-- The outcome of a sender that is over. -/
def outcome? (sender : Sender τ) : Option Outcome :=
  match sender.activity with
  | .ended outcome => some outcome
  | _ => none

instance : Session (Sender τ) τ where
  role _ := .sender
  idle sender := match sender.activity with
    | .idle => true
    | _ => false
  action := action
  next := next
  outcome? := outcome?

theorem session_next (sender : Sender τ) (now : τ) (answer : Answer) :
    Session.next sender now answer = sender.next now answer := rfl

end Sender
end Xmodem
