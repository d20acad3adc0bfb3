import Xmodem.Proofs.Counters
import Xmodem.Proofs.Timing
import Xmodem.Proofs.Turn
import Xmodem.Sender

/-!
# Turns of a sender

Between its turns a sender waits for the start or for the answer to one packet.  Every lemma takes
one answer and follows the sender until it waits again or has ended.
-/

namespace Xmodem

/-- The answer that triggers a repetition. -/
def RetryTrigger.answer : RetryTrigger → Answer
  | .timeout => .silence
  | .nak => .byte (Signal.byte .negativeAcknowledge)

namespace Sender

open Packets

/-- What a sender does at the packet at some place: sending it. -/
def sendPhase (source : List UInt8) (place : Nat) : SendPhase :=
  if place < blockCount source then .sendingBlock else .sendingEot

/-- What a sender does at the packet at some place: waiting for the answer. -/
def replyPhase (source : List UInt8) (place : Nat) : SendPhase :=
  if place < blockCount source then .awaitingAck else .awaitingEotAck

variable (policy : RetryPolicy Rat) (mode : ChecksumMode) (source : List UInt8)

/-- A sender that has not heard from the receiver. -/
def greeting (handshakes : Nat) (metrics : Metrics Rat) (phase : SendPhase)
    (activity : Activity Rat) : Sender Rat :=
  { start policy source 0 with
    handshakeAttempts := handshakes
    metrics := metrics
    phase := phase
    activity := activity }

/-- A sender to which all packets before some place were acknowledged. -/
def atPlace (place attempts handshakes : Nat) (metrics : Metrics Rat) (phase : SendPhase)
    (frame : List UInt8) (activity : Activity Rat) : Sender Rat where
  policy := policy
  length := source.length
  unsent := source.drop (blockSize * place)
  phase := phase
  mode := some mode
  cursor := min (blockSize * place) source.length
  blockNumber := .ofNat (place + 1)
  attempts := attempts
  handshakeAttempts := handshakes
  frame := frame
  metrics := metrics
  activity := activity

/-- A sender that waits for the answer to the packet at some place. -/
def waiting (place attempts handshakes : Nat) (metrics : Metrics Rat) (deadline : Rat) :
    Sender Rat :=
  atPlace policy mode source place attempts handshakes metrics (replyPhase source place)
    (packet mode source place) (.listening deadline)

/-- A sender to which everything was acknowledged. -/
def completed (handshakes : Nat) (metrics : Metrics Rat) (now : Rat) : Sender Rat :=
  atPlace policy mode source (blockCount source) 0 handshakes
    { metrics with bytes := source.length, finish := some now } .completed
    (packet mode source (blockCount source)) (.ended (.ok source.length))

/-- A sender that gave up at some place. -/
def abandoned (place attempts handshakes : Nat) (metrics : Metrics Rat) (cause : AbortCause)
    (now : Rat) : Sender Rat :=
  atPlace policy mode source place attempts handshakes { metrics with finish := some now } .aborted
    (packet mode source place)
    (.ended (.error ⟨cause, min (blockSize * place) source.length⟩))

/-- A sender that gave up before the start. -/
def unheard (handshakes : Nat) (metrics : Metrics Rat) (cause : AbortCause) (now : Rat) :
    Sender Rat :=
  greeting policy source handshakes { metrics with finish := some now } .aborted
    (.ended (.error ⟨cause, 0⟩))

variable {policy mode source} {place attempts handshakes : Nat} {metrics : Metrics Rat}
  {wire : Wire} {now deadline : Rat} {frame : List UInt8}

theorem sending_sendPhase (source : List UInt8) (place : Nat) :
    sendPhase source place = .sendingBlock ∨ sendPhase source place = .sendingEot :=
  ite_eq_or_eq ..

theorem awaiting_replyPhase (source : List UInt8) (place : Nat) :
    replyPhase source place = .awaitingAck ∨ replyPhase source place = .awaitingEotAck :=
  ite_eq_or_eq ..

theorem sendPhase_ne_awaitingStart (source : List UInt8) (place : Nat) :
    sendPhase source place ≠ .awaitingStart := by
  obtain sends | sends := sending_sendPhase source place <;> simp [sends]

theorem replyPhase_ne_awaitingStart (source : List UInt8) (place : Nat) :
    replyPhase source place ≠ .awaitingStart := by
  obtain awaits | awaits := awaiting_replyPhase source place <;> simp [awaits]

theorem action_listening {sender : Sender Rat} (listens : sender.activity = .listening deadline)
    (early : now < deadline) : Session.action sender now = .read (deadline - now) := by
  simp [Session.action, action, listens, early]

theorem turn_waiting {sender : Sender Rat} (listens : sender.activity = .listening deadline)
    (early : now < deadline) (quiet : wire.backward = []) :
    Turn .a now sender wire sender wire (.until deadline) :=
  .block (action_listening listens early) quiet (add_sub_cancel now _)

theorem next_between_reply :
    ((atPlace policy mode source place attempts handshakes metrics (replyPhase source place)
        (packet mode source place) .between).next now .proceeded).1 =
      waiting policy mode source place attempts handshakes metrics
        (now + policy.byteTimeout) := by
  rw [next_between rfl]
  by_cases inside : place < blockCount source <;>
    simp [atPlace, beginStep, replyPhase, inside, waiting]

theorem turn_listen (quiet : wire.backward = []) :
    Turn .a now
      (atPlace policy mode source place attempts handshakes metrics (replyPhase source place)
        (packet mode source place) .between)
      wire
      (waiting policy mode source place attempts handshakes metrics (now + policy.byteTimeout))
      wire (.until (now + policy.byteTimeout)) := by
  refine .proceed rfl ?_
  rw [session_next, next_between_reply]
  exact turn_waiting rfl (policy.lt_add_byteTimeout _) quiet

theorem next_between_send :
    ((atPlace policy mode source place attempts handshakes metrics (sendPhase source place)
        frame .between).next now .proceeded).1 =
      atPlace policy mode source place attempts handshakes metrics (sendPhase source place)
        (packet mode source place) (.writing .first) := by
  by_cases inside : place < blockCount source
  · simp only [sendPhase, inside, packet, if_true]
    rfl
  · simp only [sendPhase, inside, packet, if_false]
    rfl

theorem next_written_send :
    ((atPlace policy mode source place attempts handshakes metrics (sendPhase source place)
        (packet mode source place) (.writing .first)).next now .written).1 =
      atPlace policy mode source place attempts handshakes (metrics.introduce source place)
        (replyPhase source place) (packet mode source place) .between := by
  rw [next_written rfl]
  by_cases inside : place < blockCount source <;>
    simp [atPlace, Sender.wrote, endStep, sendPhase, replyPhase, inside, Metrics.introduce]

theorem turn_send (quiet : wire.backward = []) :
    Turn .a now
      (atPlace policy mode source place attempts handshakes metrics (sendPhase source place)
        frame .between)
      wire
      (waiting policy mode source place attempts handshakes (metrics.introduce source place)
        (now + policy.byteTimeout))
      (wire.wrote (packet mode source place) .a) (.until (now + policy.byteTimeout)) := by
  refine .proceed rfl ?_
  rw [session_next, next_between_send]
  refine .write rfl ?_
  rw [session_next, next_written_send]
  exact turn_listen quiet

theorem turn_greet (quiet : wire.backward = []) :
    Turn .a now (greeting policy source handshakes metrics .awaitingStart .between) wire
      (greeting policy source handshakes metrics .awaitingStart
        (.listening (now + policy.handshakeTimeout)))
      wire (.until (now + policy.handshakeTimeout)) := by
  exact .proceed rfl (turn_waiting rfl (policy.lt_add_handshakeTimeout _) quiet)

theorem turn_start (quiet : wire.backward = []) :
    Turn .a now (start policy source 0) wire
      (greeting policy source 0 (.fresh now) .awaitingStart
        (.listening (now + policy.handshakeTimeout)))
      wire (.until (now + policy.handshakeTimeout)) :=
  .proceed rfl (turn_greet quiet)

theorem next_called :
    ((greeting policy source handshakes metrics .awaitingStart (.listening deadline)).next now
        (.byte (Receiver.Writing.request.byte mode))).1 =
      atPlace policy mode source 0 0 handshakes metrics (sendPhase source 0) [] .between := by
  rw [next_listening_byte rfl]
  cases mode <;> by_cases some_block : 0 < source.length <;>
    simp [greeting, heard, heardAtStart, start, Receiver.Writing.byte, Signal.byte,
      PacketKind.ofLeadingByte?, startOfBlock, begin, endStep, nextPhase, atPlace, sendPhase,
      lt_blockCount_iff, some_block]

theorem turn_called (quiet : wire.backward = []) :
    Turn .a now
      ((greeting policy source handshakes metrics .awaitingStart (.listening deadline)).next now
        (.byte (Receiver.Writing.request.byte mode))).1
      wire
      (waiting policy mode source 0 0 handshakes (metrics.introduce source 0)
        (now + policy.byteTimeout))
      (wire.wrote (packet mode source 0) .a) (.until (now + policy.byteTimeout)) := by
  rw [next_called]
  exact turn_send quiet

theorem turn_uncalled (patient : handshakes + 1 < policy.maxHandshakeAttempts)
    (quiet : wire.backward = []) :
    Turn .a now
      ((greeting policy source handshakes metrics .awaitingStart (.listening deadline)).next now
        .silence).1
      wire
      (greeting policy source (handshakes + 1) (metrics.fail .timeout) .awaitingStart
        (.listening (now + policy.handshakeTimeout)))
      wire (.until (now + policy.handshakeTimeout)) := by
  have lasts : policy.exhausted (handshakes + 1 : Nat) = false := by
    rw [Bool.eq_false_iff, ne_eq, RetryPolicy.exhausted_iff]
    omega
  have begins : ((greeting policy source handshakes metrics .awaitingStart
        (.listening deadline)).next now .silence).1 =
      greeting policy source (handshakes + 1) (metrics.fail .timeout) .awaitingStart .between := by
    rw [next_listening_silence rfl]
    simp only [greeting, start, heardNothing, lasts]
    rfl
  rw [begins]
  exact turn_greet quiet

theorem turn_unheard (last : policy.maxHandshakeAttempts ≤ handshakes + 1) :
    Turn .a now
      ((greeting policy source handshakes metrics .awaitingStart (.listening deadline)).next now
        .silence).1
      wire
      (unheard policy source (handshakes + 1) (metrics.fail .timeout)
        (.receiverSilent (handshakes + 1)) now)
      wire .ended := by
  have spent : policy.exhausted (handshakes + 1 : Nat) = true := by
    rw [RetryPolicy.exhausted_iff]
    omega
  have ends : ((greeting policy source handshakes metrics .awaitingStart
        (.listening deadline)).next now .silence).1 =
      unheard policy source (handshakes + 1) (metrics.fail .timeout)
        (.receiverSilent (handshakes + 1)) now := by
    rw [next_listening_silence rfl]
    simp only [greeting, start, heardNothing, spent]
    rfl
  rw [ends]
  exact .stop rfl

theorem next_acknowledged (inside : place < blockCount source) :
    ((waiting policy mode source place attempts handshakes metrics deadline).next now
        (.byte (Signal.byte .acknowledge))).1 =
      atPlace policy mode source (place + 1) 0 handshakes metrics (sendPhase source (place + 1))
        (packet mode source place) .between := by
  have advances : min (min (blockSize * place) source.length + blockSize) source.length =
      min (blockSize * (place + 1)) source.length := by
    rw [Nat.mul_succ]
    omega
  rw [next_listening_byte rfl]
  simp [waiting, atPlace, heard, heardReply, replyPhase, inside, Signal.byte,
    PacketKind.ofLeadingByte?, startOfBlock, acknowledged, endStep, nextPhase, advances,
    sendPhase, lt_blockCount_iff, Nat.mul_succ]

theorem turn_acknowledged (inside : place < blockCount source) (quiet : wire.backward = []) :
    Turn .a now
      ((waiting policy mode source place attempts handshakes metrics deadline).next now
        (.byte (Signal.byte .acknowledge))).1
      wire
      (waiting policy mode source (place + 1) 0 handshakes (metrics.introduce source (place + 1))
        (now + policy.byteTimeout))
      (wire.wrote (packet mode source (place + 1)) .a) (.until (now + policy.byteTimeout)) := by
  rw [next_acknowledged inside]
  exact turn_send quiet

theorem digests_completed {inbox : List UInt8} :
    Digests now
      ((waiting policy mode source (blockCount source) attempts handshakes metrics deadline).next
        now (.byte (Signal.byte .acknowledge))).1
      inbox (completed policy mode source handshakes metrics now) inbox := by
  have all : source.length ≤ blockSize * blockCount source :=
    (blockCount_le_iff source _).mp le_rfl
  have begins : ((waiting policy mode source (blockCount source) attempts handshakes metrics
        deadline).next now (.byte (Signal.byte .acknowledge))).1 =
      atPlace policy mode source (blockCount source) 0 handshakes metrics .completed
        (packet mode source (blockCount source)) .between := by
    rw [next_listening_byte rfl]
    simp [waiting, atPlace, heard, heardReply, replyPhase, Signal.byte,
      PacketKind.ofLeadingByte?, startOfBlock, acknowledged, endStep]
  have ends : (Session.next (atPlace policy mode source (blockCount source) 0 handshakes metrics
        .completed (packet mode source (blockCount source)) .between) now .proceeded).1 =
      completed policy mode source handshakes metrics now := by
    rw [session_next, next_between rfl]
    simp [atPlace, beginStep, complete, close, completed, all]
  rw [begins]
  refine .proceed rfl ?_
  rw [ends]
  exact .done

theorem turn_completed :
    Turn .a now
      ((waiting policy mode source (blockCount source) attempts handshakes metrics deadline).next
        now (.byte (Signal.byte .acknowledge))).1
      wire (completed policy mode source handshakes metrics now) wire .ended := by
  apply digests_completed.turn rfl
  rw [Wire.withInbox_inbox]
  exact .stop rfl

theorem turn_retry (trigger : RetryTrigger) (few : attempts < policy.maxRetries)
    (quiet : wire.backward = []) :
    Turn .a now
      ((waiting policy mode source place attempts handshakes metrics deadline).next now
        trigger.answer).1
      wire
      (waiting policy mode source place (attempts + 1) handshakes (metrics.fail trigger).repeated
        (now + policy.byteTimeout))
      (wire.wrote (packet mode source place) .a) (.until (now + policy.byteTimeout)) := by
  have replies := replyPhase_ne_awaitingStart source place
  have begins : ((waiting policy mode source place attempts handshakes metrics deadline).next now
        trigger.answer).1 =
      atPlace policy mode source place (attempts + 1) handshakes (metrics.fail trigger).repeated
        (replyPhase source place) (packet mode source place) (.writing .again) := by
    cases trigger <;>
      simp [RetryTrigger.answer, next_listening_byte, next_listening_silence, waiting, atPlace,
        heard, heardNothing, heardReply, replies, Signal.byte, PacketKind.ofLeadingByte?,
        startOfBlock, retry, policy.decide_of_lt few, Metrics.fail, Metrics.repeated]
  rw [begins]
  refine .write rfl ?_
  exact turn_listen quiet

theorem turn_giveUp (trigger : RetryTrigger) (many : policy.maxRetries ≤ attempts) :
    ∃ cause, Turn .a now
      ((waiting policy mode source place attempts handshakes metrics deadline).next now
        trigger.answer).1
      wire
      (abandoned policy mode source place attempts handshakes (metrics.fail trigger) cause now)
      (wire.wrote [Signal.byte .cancel] .a) .ended := by
  have replies := replyPhase_ne_awaitingStart source place
  let sender := waiting policy mode source place attempts handshakes (metrics.fail trigger) deadline
  refine ⟨.unacknowledged sender.outstanding attempts, ?_⟩
  have begins : ((waiting policy mode source place attempts handshakes metrics deadline).next now
        trigger.answer).1 =
      { sender with
        phase := .aborted
        activity := .writing (.cancel (.unacknowledged sender.outstanding attempts)) } := by
    cases trigger <;>
      simp [RetryTrigger.answer, next_listening_byte, next_listening_silence, waiting, atPlace,
        heard, heardNothing, heardReply, replies, Signal.byte, PacketKind.ofLeadingByte?,
        startOfBlock, retry, policy.decide_of_le many, Metrics.fail, abortNotifying, outstanding,
        sender]
  rw [begins]
  exact .write rfl (.stop rfl)

theorem turn_canceled :
    Turn .a now
      ((waiting policy mode source place attempts handshakes metrics deadline).next now
        (.byte (Signal.byte .cancel))).1
      wire
      (abandoned policy mode source place attempts handshakes metrics
        (.receiverCanceled (replyPhase source place)) now)
      wire .ended := by
  have replies := replyPhase_ne_awaitingStart source place
  have ends : ((waiting policy mode source place attempts handshakes metrics deadline).next now
        (.byte (Signal.byte .cancel))).1 =
      abandoned policy mode source place attempts handshakes metrics
        (.receiverCanceled (replyPhase source place)) now := by
    rw [next_listening_byte rfl]
    simp [waiting, atPlace, heard, heardReply, replies, Signal.byte,
      PacketKind.ofLeadingByte?, startOfBlock, abort, close, abandoned]
  rw [ends]
  exact .stop rfl

/-- The bytes that mean something to a sender that waits for an answer. -/
def replies : List UInt8 :=
  [Signal.byte .acknowledge, Signal.byte .negativeAcknowledge, Signal.byte .cancel]

/-- A sender that waits for an answer takes a call for a refusal or for noise. -/
theorem request_refuses_or_noise (mode : ChecksumMode) :
    Receiver.Writing.request.byte mode = Signal.byte .negativeAcknowledge ∨
      Receiver.Writing.request.byte mode ∉ replies := by
  cases mode with
  | additive => exact .inl rfl
  | crc16 => exact .inr (by decide)

/-- The bytes that mean something to a sender that waits for the start. -/
def calls : List UInt8 :=
  [Signal.byte .requestAdditive, Signal.byte .requestCrc, Signal.byte .cancel]

theorem next_waiting_of_noise {value : UInt8} (noise : value ∉ replies) :
    ((waiting policy mode source place attempts handshakes metrics deadline).next now
      (.byte value)).1 =
      waiting policy mode source place attempts handshakes metrics deadline := by
  have answered : (waiting policy mode source place attempts handshakes metrics deadline).phase ≠
      .awaitingStart := replyPhase_ne_awaitingStart source place
  rw [next_listening_byte rfl]
  simp only [heard, answered, if_false, heardReply]
  split
  all_goals first
    | rfl
    | rename_i kind_eq
      rw [← PacketKind.leadingByte_of_ofLeadingByte? kind_eq] at noise
      exact absurd noise (by decide)

theorem next_greeting_of_noise {value : UInt8} (noise : value ∉ calls) :
    ((greeting policy source handshakes metrics .awaitingStart (.listening deadline)).next now
      (.byte value)).1 =
      greeting policy source handshakes metrics .awaitingStart (.listening deadline) := by
  rw [next_listening_byte rfl]
  simp only [greeting, heard, if_true, heardAtStart]
  split
  all_goals first
    | rfl
    | rename_i kind_eq
      rw [← PacketKind.leadingByte_of_ofLeadingByte? kind_eq] at noise
      exact absurd noise (by decide)

end Sender
end Xmodem
