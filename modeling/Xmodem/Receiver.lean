import Xmodem.Destination
import Xmodem.Session

/-!
# Receivers

A receiver asks for a checksum mode until the sender starts, and from then on only answers.  It
stores blocks in order, acknowledges the last block again when it is repeated, refuses damaged
frames once the line is quiet, and gives up on any other block.
-/

namespace Xmodem
namespace Receiver

/-- Why a receiver writes. -/
inductive Writing where
  /-- The sender is asked to start. -/
  | request
  /-- A block was stored. -/
  | acceptance
  /-- The last block arrived once more. -/
  | repetition
  /-- A frame was damaged. -/
  | rejection
  /-- The first end of transmission is to be confirmed. -/
  | confirmation
  /-- The transfer is complete. -/
  | completion
  /-- The sender is told that the transfer was given up. -/
  | cancel (cause : AbortCause)
  deriving DecidableEq, Repr

/-- The byte written for a purpose. -/
def Writing.byte (mode : ChecksumMode) : Writing → UInt8
  | .request => match mode with
      | .additive => Signal.byte .requestAdditive
      | .crc16 => Signal.byte .requestCrc
  | .acceptance | .repetition | .completion => Signal.byte .acknowledge
  | .rejection | .confirmation => Signal.byte .negativeAcknowledge
  | .cancel _ => Signal.byte .cancel

/-- What a receiver is doing at the moment. -/
inductive Activity (τ : Type) where
  /-- Nothing; the session has not begun. -/
  | idle
  /-- Nothing; the next step is about to begin. -/
  | between
  /-- Waiting for the first byte of a packet until a deadline. -/
  | listening (deadline : τ)
  /-- Reading the rest of a frame; the bytes so far. -/
  | collecting (raw : Array UInt8)
  /-- Waiting for a quiet line until a deadline. -/
  | draining (deadline : τ)
  /-- Writing. -/
  | writing (purpose : Writing)
  /-- Nothing; the session is over. -/
  | ended (outcome : Outcome)

/-- The choices made by the caller of a session. -/
structure Setup (τ : Type) [Quantity τ] where
  /-- Limits and timeouts. -/
  policy : RetryPolicy τ
  /-- Checksum asked for. -/
  mode : ChecksumMode
  /-- True length of the image, when it is known. -/
  expectedLength : Option Nat
  /-- Whether the end of transmission has to be repeated. -/
  confirmEot : Bool

end Receiver

/-- The reasons to refuse a destination. -/
inductive DestinationError where
  /-- The destination must not change. -/
  | readOnly
  /-- The image would be longer than the destination, or of negative length. -/
  | lengthDoesNotFit (expected : Int) (capacity : Nat)
  deriving DecidableEq, Repr

namespace DestinationError

/-- Explanation of an error. -/
def message : DestinationError → String
  | readOnly => "destination buffer is read-only"
  | lengthDoesNotFit expected capacity =>
      s!"expected_length {expected} does not fit in {capacity} bytes"

end DestinationError

/-- A session that receives. -/
structure Receiver (τ : Type) [Quantity τ] where
  /-- The choices made by the caller. -/
  setup : Receiver.Setup τ
  /-- Where the blocks go. -/
  destination : Destination
  /-- What the receiver is about to do. -/
  phase : ReceivePhase
  /-- Number of bytes stored. -/
  cursor : Nat
  /-- Number of the next block. -/
  expectedBlock : UInt8
  /-- Number of the last block that was stored. -/
  lastAccepted : Option UInt8
  /-- How many bytes of the last block were stored. -/
  lastLength : Nat
  /-- Silent waits for the start. -/
  handshakeAttempts : Nat
  /-- Idle periods since a packet began. -/
  idlePeriods : Nat
  /-- Whether the last packet was an end of transmission to be confirmed. -/
  eotPending : Bool
  /-- Counters and instants. -/
  metrics : Metrics τ
  /-- What the receiver is doing at the moment. -/
  activity : Receiver.Activity τ

namespace Receiver

variable {τ : Type} [Quantity τ]

/-- A receiver that has not begun. -/
def start (setup : Setup τ) (destination : Destination) (now : τ) : Receiver τ where
  setup := setup
  destination := destination
  phase := .awaitingStart
  cursor := 0
  expectedBlock := 1
  lastAccepted := none
  lastLength := 0
  handshakeAttempts := 0
  idlePeriods := 0
  eotPending := false
  metrics := .fresh now
  activity := .idle

/-- Check the destination and the length of the image before anything else. -/
def open? (policy : RetryPolicy τ) (mode : ChecksumMode) (expectedLength : Option Int)
    (confirmEot : Bool) (destination : Destination) (now : τ) :
    Except DestinationError (Receiver τ) :=
  if destination.readOnly then
    .error .readOnly
  else
    let ready (expectedLength : Option Nat) : Receiver τ :=
      start ⟨policy, mode, expectedLength, confirmEot⟩ destination now
    match expectedLength with
    | none => .ok (ready none)
    | some length =>
        if 0 ≤ length ∧ length ≤ destination.capacity then .ok (ready (some length.toNat))
        else .error (.lengthDoesNotFit length destination.capacity)

/-- Number of bytes that fit. -/
def capacity (receiver : Receiver τ) : Nat :=
  receiver.destination.capacity

/-- The state shown to observers. -/
def status (receiver : Receiver τ) : Status :=
  .receiving receiver.phase receiver.cursor receiver.expectedBlock receiver.lastAccepted
    receiver.handshakeAttempts receiver.idlePeriods

/-- What to wait for next. -/
def waitingPhase (receiver : Receiver τ) : ReceivePhase :=
  if receiver.capacity ≤ receiver.cursor then .awaitingEotOrBlock else .awaitingBlock

/-- Number of padding bytes at the end of some bytes. -/
def paddingLength (bytes : List UInt8) : Nat :=
  (bytes.reverse.takeWhile (· == padding)).length

/-- Number of bytes transferred: the known length once it is reached, and otherwise all stored
bytes, in a complete transfer without the padding of the last block. -/
def transferred (receiver : Receiver τ) : Nat :=
  let stored :=
    if receiver.phase = .completed then
      receiver.cursor - paddingLength
        (receiver.destination.slice (receiver.cursor - receiver.lastLength) receiver.cursor)
    else
      receiver.cursor
  match receiver.setup.expectedLength with
  | some length => if length ≤ receiver.cursor then length else stored
  | none => stored

/-- End the session with an outcome. -/
def close (receiver : Receiver τ) (now : τ) (outcome : Outcome) : Receiver τ :=
  { receiver with
    metrics := { receiver.metrics with finish := some now }
    activity := .ended outcome }

/-- End the current step normally. -/
def endStep (receiver : Receiver τ) : Receiver τ × List (Event τ) :=
  let receiver := { receiver with activity := .between }
  (receiver, [.stepped receiver.status])

/-- Give up without telling the sender. -/
def abort (receiver : Receiver τ) (now : τ) (cause : AbortCause) :
    Receiver τ × List (Event τ) :=
  let receiver := { receiver with phase := .aborted }
  (receiver.close now (.error ⟨cause, receiver.transferred⟩), [.note (.aborted .receiver cause)])

/-- Give up and tell the sender. -/
def abortNotifying (receiver : Receiver τ) (cause : AbortCause) :
    Receiver τ × List (Event τ) :=
  ({ receiver with phase := .aborted, activity := .writing (.cancel cause) },
    [.note (.aborted .receiver cause)])

/-- Report success. -/
def complete (receiver : Receiver τ) (now : τ) : Receiver τ × List (Event τ) :=
  let transferred := receiver.transferred
  let receiver := receiver.close now (.ok transferred)
  let receiver := { receiver with metrics := { receiver.metrics with bytes := transferred } }
  (receiver,
    [.note (.done .receiver transferred receiver.metrics.duration receiver.metrics.retransmits
      receiver.metrics.timeouts)])

/-- Wait for the first byte of a packet. -/
def listen (receiver : Receiver τ) (now : τ) : Receiver τ :=
  { receiver with activity := .listening (now + receiver.setup.policy.handshakeTimeout) }

/-- Begin the step that the phase calls for. -/
def beginStep (receiver : Receiver τ) (now : τ) : Receiver τ × List (Event τ) :=
  match receiver.phase with
  | .awaitingStart => ({ receiver with activity := .writing .request }, [])
  | .awaitingBlock | .awaitingEotOrBlock => (receiver.listen now, [])
  | .completed => receiver.complete now
  | .aborted => (receiver, [])

/-- Count an idle period, and give up at the last one. -/
def idle (receiver : Receiver τ) (now : τ) (idleness : Idleness) :
    Receiver τ × List (Event τ) :=
  let periods := receiver.idlePeriods + 1
  let receiver :=
    { receiver with
      idlePeriods := periods
      metrics := { receiver.metrics with timeouts := receiver.metrics.timeouts + 1 } }
  let (receiver, events) :=
    if receiver.setup.policy.exhausted periods then
      receiver.abort now (.senderSilent receiver.cursor)
    else
      receiver.endStep
  (receiver, .note (.idle idleness periods) :: events)

/-- React to the end of a silent wait for a packet. -/
def heardNothing (receiver : Receiver τ) (now : τ) : Receiver τ × List (Event τ) :=
  if receiver.phase = .awaitingStart then
    let attempts := receiver.handshakeAttempts + 1
    let receiver :=
      { receiver with
        handshakeAttempts := attempts
        metrics := { receiver.metrics with timeouts := receiver.metrics.timeouts + 1 } }
    let (receiver, events) :=
      if receiver.setup.policy.exhausted attempts then
        receiver.abort now (.senderSilentAtStart attempts)
      else
        receiver.endStep
    (receiver, .note (.noSender attempts) :: events)
  else
    receiver.idle now .noBlock

/-- Begin to read the rest of a frame. -/
def openFrame (receiver : Receiver τ) : Receiver τ × List (Event τ) :=
  ({ receiver with
      idlePeriods := 0
      eotPending := false
      activity := .collecting #[startOfBlock] }, [])

/-- React to the end of transmission. -/
def endOfTransmission (receiver : Receiver τ) : Receiver τ × List (Event τ) :=
  if receiver.setup.confirmEot ∧ ¬ receiver.eotPending then
    ({ receiver with
        idlePeriods := 0
        eotPending := true
        activity := .writing .confirmation }, [.note .confirmingEot])
  else
    ({ receiver with idlePeriods := 0, activity := .writing .completion }, [])

/-- Note the first packet of a transfer. -/
def meetSender (receiver : Receiver τ) : Receiver τ × List (Event τ) :=
  if receiver.phase = .awaitingStart then
    ({ receiver with phase := receiver.waitingPhase },
      [.note (.receiverStarted receiver.capacity receiver.setup.mode)])
  else
    (receiver, [])

/-- React to the first byte of a packet. -/
def heard (receiver : Receiver τ) (now : τ) (value : UInt8) : Receiver τ × List (Event τ) :=
  match PacketKind.ofLeadingByte? value with
  | some .data =>
      let (receiver, before) := receiver.meetSender
      let (receiver, after) := receiver.openFrame
      (receiver, before ++ after)
  | some (.control .endOfTransmission) =>
      let (receiver, before) := receiver.meetSender
      let (receiver, after) := receiver.endOfTransmission
      (receiver, before ++ after)
  | some (.control .cancel) =>
      receiver.abort now
        (if receiver.phase = .awaitingStart then .canceledBeforeStart .sender
          else .senderCanceled receiver.cursor)
  | _ =>
      (receiver, [.note (.discarded value
        (if receiver.phase = .awaitingStart then .awaitingSender
          else .receiving receiver.phase))])

/-- How many bytes of the next block have room. -/
def room (receiver : Receiver τ) : Nat :=
  min blockSize (receiver.capacity - receiver.cursor)

/-- Whether a payload can be stored: there is room, and only padding lies beyond it. -/
def hasRoomFor (receiver : Receiver τ) (payload : List UInt8) : Bool :=
  receiver.room ≠ 0 && (payload.drop receiver.room).all (· == padding)

/-- Store the next block, or give up when it has no room. -/
def accept (receiver : Receiver τ) (block : Block) : Receiver τ × List (Event τ) :=
  if receiver.hasRoomFor block.payload then
    let room := receiver.room
    let cursor := receiver.cursor
    ({ receiver with
        destination := receiver.destination.store cursor (block.payload.take room)
        cursor := cursor + room
        lastLength := room
        lastAccepted := some block.number
        expectedBlock := block.number + 1
        metrics := { receiver.metrics with blocks := receiver.metrics.blocks + 1 }
        activity := .writing .acceptance }, [])
  else
    receiver.abortNotifying (.noRoom block.number receiver.cursor receiver.capacity)

/-- React to a frame without damage. -/
def receiveBlock (receiver : Receiver τ) (block : Block) : Receiver τ × List (Event τ) :=
  if block.number = receiver.expectedBlock then
    receiver.accept block
  else if receiver.lastAccepted = some block.number then
    ({ receiver with
        metrics := { receiver.metrics with retransmits := receiver.metrics.retransmits + 1 }
        activity := .writing .repetition }, [.note (.duplicate block.number)])
  else
    receiver.abortNotifying (.outOfSequence receiver.expectedBlock block.number)

/-- React to all bytes of a frame. -/
def receiveFrame (receiver : Receiver τ) (now : τ) (raw : List UInt8) :
    Receiver τ × List (Event τ) :=
  match Frame.decode receiver.setup.mode raw with
  | .ok block => receiver.receiveBlock block
  | .error error =>
      ({ receiver with
          metrics := { receiver.metrics with naks := receiver.metrics.naks + 1 }
          activity := .draining (now + receiver.setup.policy.handshakeTimeout) },
        [.note (.rejected error)])

/-- React to one more byte of a frame. -/
def collect (receiver : Receiver τ) (now : τ) (raw : Array UInt8) (value : UInt8) :
    Receiver τ × List (Event τ) :=
  let raw := raw.push value
  if raw.size < Frame.length receiver.setup.mode then
    ({ receiver with activity := .collecting raw }, [])
  else
    receiver.receiveFrame now raw.toList

/-- Refuse a damaged frame. -/
def reject (receiver : Receiver τ) : Receiver τ × List (Event τ) :=
  ({ receiver with activity := .writing .rejection }, [])

/-- React to the end of a write. -/
def wrote (receiver : Receiver τ) (now : τ) : Writing → Receiver τ × List (Event τ)
  | .request => (receiver.listen now, [])
  | .acceptance =>
      let (receiver, events) := { receiver with phase := receiver.waitingPhase }.endStep
      (receiver, .progress .received receiver.cursor :: events)
  | .repetition | .rejection | .confirmation => receiver.endStep
  | .completion => { receiver with phase := .completed }.endStep
  | .cancel cause => (receiver.close now (.error ⟨cause, receiver.transferred⟩), [])

/-- The action at an instant. -/
def action (receiver : Receiver τ) (now : τ) : Action τ :=
  match receiver.activity with
  | .idle | .between => .proceed
  | .listening deadline =>
      let remaining := deadline - now
      if remaining ≤ 0 then .proceed else .read remaining
  | .collecting _ => .read receiver.setup.policy.byteTimeout
  | .draining deadline =>
      if now < deadline then .read receiver.setup.policy.purgeTimeout else .proceed
  | .writing purpose => .write [purpose.byte receiver.setup.mode]
  | .ended _ => .stop

/-- The receiver after an answer, and the events on the way.  An answer to another action than the
current one changes nothing. -/
def next (receiver : Receiver τ) (now : τ) (answer : Answer) : Receiver τ × List (Event τ) :=
  match receiver.activity, answer with
  | .idle, .proceeded =>
      ({ receiver with
          metrics := { receiver.metrics with start := now }
          activity := .between }, [])
  | .between, .proceeded => receiver.beginStep now
  | .listening deadline, .proceeded =>
      if deadline - now ≤ 0 then receiver.heardNothing now else (receiver, [])
  | .listening _, .silence => receiver.heardNothing now
  | .listening _, .byte value => receiver.heard now value
  | .collecting raw, .byte value => receiver.collect now raw value
  | .collecting raw, .silence => receiver.idle now (.partialFrame raw.size)
  | .draining deadline, .proceeded =>
      if now < deadline then (receiver, []) else receiver.reject
  | .draining _, .silence => receiver.reject
  | .writing purpose, .written => receiver.wrote now purpose
  | .listening _, .fault fault => receiver.abort now (.lineFault fault.message)
  | .collecting _, .fault fault => receiver.abort now (.lineFault fault.message)
  | .draining _, .fault fault => receiver.abort now (.lineFault fault.message)
  | .writing _, .fault fault => receiver.abort now (.lineFault fault.message)
  | _, _ => (receiver, [])

section Steps

variable {receiver : Receiver τ} {now deadline : τ} {raw : Array UInt8} {purpose : Writing}

theorem next_between (rests : receiver.activity = .between) :
    receiver.next now .proceeded = receiver.beginStep now := by
  unfold next
  simp only [rests]

theorem next_listening_overdue (listens : receiver.activity = .listening deadline)
    (none_left : deadline - now ≤ 0) :
    receiver.next now .proceeded = receiver.heardNothing now := by
  unfold next
  simp only [listens, none_left, if_true]

theorem next_listening_silence (listens : receiver.activity = .listening deadline) :
    receiver.next now .silence = receiver.heardNothing now := by
  unfold next
  simp only [listens]

theorem next_listening_byte (listens : receiver.activity = .listening deadline) (value : UInt8) :
    receiver.next now (.byte value) = receiver.heard now value := by
  unfold next
  simp only [listens]

theorem next_collecting_silence (collects : receiver.activity = .collecting raw) :
    receiver.next now .silence = receiver.idle now (.partialFrame raw.size) := by
  unfold next
  simp only [collects]

theorem next_collecting_byte (collects : receiver.activity = .collecting raw) (value : UInt8) :
    receiver.next now (.byte value) = receiver.collect now raw value := by
  unfold next
  simp only [collects]

theorem next_draining_overdue (drains : receiver.activity = .draining deadline)
    (past : ¬ now < deadline) : receiver.next now .proceeded = receiver.reject := by
  unfold next
  simp only [drains, past, if_false]

theorem next_draining_silence (drains : receiver.activity = .draining deadline) :
    receiver.next now .silence = receiver.reject := by
  unfold next
  simp only [drains]

theorem next_draining_byte (drains : receiver.activity = .draining deadline) (value : UInt8) :
    receiver.next now (.byte value) = (receiver, []) := by
  unfold next
  simp only [drains]

theorem next_written (writes : receiver.activity = .writing purpose) :
    receiver.next now .written = receiver.wrote now purpose := by
  unfold next
  simp only [writes]

end Steps

/-- The outcome of a receiver that is over. -/
def outcome? (receiver : Receiver τ) : Option Outcome :=
  match receiver.activity with
  | .ended outcome => some outcome
  | _ => none

instance : Session (Receiver τ) τ where
  role _ := .receiver
  idle receiver := match receiver.activity with
    | .idle => true
    | _ => false
  action := action
  next := next
  outcome? := outcome?

theorem session_next (receiver : Receiver τ) (now : τ) (answer : Answer) :
    Session.next receiver now answer = receiver.next now answer := rfl

end Receiver
end Xmodem
