import Xmodem.Proofs.Receiver.Turns
import Xmodem.Proofs.Scene
import Xmodem.Proofs.Sender.Turns

/-!
# Exchanges

The turns of the two ends, one after the other.  Every lemma names a scene in which one end has
something to react to and the scene that follows.  The other end may be in any state, as long as it
has nothing to do.
-/

namespace Xmodem
namespace Scene

open Packets Destination

variable {setup : Receiver.Setup Rat} {initial : Destination} {source : List UInt8}
  {forth back : Alteration} {sent answered : Nat} {backward forward bytes : List UInt8}
  {now first second : Rat} {senderPause receiverPause : Pause} {sender : Sender Rat}
  {receiver : Receiver Rat} {place attempts handshakes count idle : Nat} {pending : Bool}
  {metrics : Metrics Rat} {phase : ReceivePhase}

section Sender

theorem leads_of_call :
    Leads
      ⟨.greeting setup.policy source handshakes metrics .awaitingStart (.listening first), receiver,
        ⟨forth, back, sent, answered, [Receiver.Writing.request.byte setup.mode], forward⟩, now,
        .until first, receiverPause⟩
      ⟨.waiting setup.policy setup.mode source 0 0 handshakes (metrics.introduce source 0)
          (now + setup.policy.byteTimeout), receiver,
        ⟨forth, back, sent + 1, answered, [],
          forward ++ forth sent (packet setup.mode source 0)⟩, now,
        .until (now + setup.policy.byteTimeout), receiverPause⟩ :=
  leads_of_sender_byte rfl rfl (Sender.turn_called rfl)

theorem leads_of_acknowledge (inside : place < blockCount source) :
    Leads
      ⟨.waiting setup.policy setup.mode source place attempts handshakes metrics first, receiver,
        ⟨forth, back, sent, answered, [Signal.byte .acknowledge], forward⟩, now, .until first,
        receiverPause⟩
      ⟨.waiting setup.policy setup.mode source (place + 1) 0 handshakes
          (metrics.introduce source (place + 1)) (now + setup.policy.byteTimeout), receiver,
        ⟨forth, back, sent + 1, answered, [],
          forward ++ forth sent (packet setup.mode source (place + 1))⟩, now,
        .until (now + setup.policy.byteTimeout), receiverPause⟩ :=
  leads_of_sender_byte rfl rfl (Sender.turn_acknowledged inside rfl)

theorem leads_of_last_acknowledge :
    Leads
      ⟨.waiting setup.policy setup.mode source (blockCount source) attempts handshakes metrics
          first, receiver,
        ⟨forth, back, sent, answered, [Signal.byte .acknowledge], forward⟩, now, .until first,
        receiverPause⟩
      ⟨.completed setup.policy setup.mode source handshakes metrics now, receiver,
        ⟨forth, back, sent, answered, [], forward⟩, now, .ended, receiverPause⟩ :=
  leads_of_sender_byte rfl rfl Sender.turn_completed

theorem leads_of_refusal (few : attempts < setup.policy.maxRetries) :
    Leads
      ⟨.waiting setup.policy setup.mode source place attempts handshakes metrics first, receiver,
        ⟨forth, back, sent, answered, [Signal.byte .negativeAcknowledge], forward⟩, now,
        .until first, receiverPause⟩
      ⟨.waiting setup.policy setup.mode source place (attempts + 1) handshakes
          (metrics.fail .nak).repeated (now + setup.policy.byteTimeout), receiver,
        ⟨forth, back, sent + 1, answered, [],
          forward ++ forth sent (packet setup.mode source place)⟩, now,
        .until (now + setup.policy.byteTimeout), receiverPause⟩ :=
  leads_of_sender_byte rfl rfl (Sender.turn_retry .nak few rfl)

theorem leads_of_last_refusal (many : setup.policy.maxRetries ≤ attempts) :
    ∃ cause, Leads
      ⟨.waiting setup.policy setup.mode source place attempts handshakes metrics first, receiver,
        ⟨forth, back, sent, answered, [Signal.byte .negativeAcknowledge], forward⟩, now,
        .until first, receiverPause⟩
      ⟨.abandoned setup.policy setup.mode source place attempts handshakes (metrics.fail .nak)
          cause now, receiver,
        ⟨forth, back, sent + 1, answered, [], forward ++ forth sent [Signal.byte .cancel]⟩, now,
        .ended, receiverPause⟩ := by
  obtain ⟨cause, turn⟩ := Sender.turn_giveUp .nak many
  exact ⟨cause, leads_of_sender_byte rfl rfl turn⟩

theorem leads_of_cancellation :
    Leads
      ⟨.waiting setup.policy setup.mode source place attempts handshakes metrics first, receiver,
        ⟨forth, back, sent, answered, [Signal.byte .cancel], forward⟩, now, .until first,
        receiverPause⟩
      ⟨.abandoned setup.policy setup.mode source place attempts handshakes metrics
          (.receiverCanceled (Sender.replyPhase source place)) now, receiver,
        ⟨forth, back, sent, answered, [], forward⟩, now, .ended, receiverPause⟩ :=
  leads_of_sender_byte rfl rfl Sender.turn_canceled

theorem leads_of_noise {value : UInt8} (noise : value ∉ Sender.replies) (early : now < first) :
    Leads
      ⟨.waiting setup.policy setup.mode source place attempts handshakes metrics first, receiver,
        ⟨forth, back, sent, answered, [value], forward⟩, now, .until first, receiverPause⟩
      ⟨.waiting setup.policy setup.mode source place attempts handshakes metrics first, receiver,
        ⟨forth, back, sent, answered, [], forward⟩, now, .until first, receiverPause⟩ := by
  refine leads_of_sender_byte rfl rfl ?_
  dsimp only
  rw [Sender.next_waiting_of_noise noise]
  exact Sender.turn_waiting rfl early rfl

theorem leads_of_noise_before_start {value : UInt8} (noise : value ∉ Sender.calls)
    (early : now < first) :
    Leads
      ⟨.greeting setup.policy source handshakes metrics .awaitingStart (.listening first), receiver,
        ⟨forth, back, sent, answered, [value], forward⟩, now, .until first, receiverPause⟩
      ⟨.greeting setup.policy source handshakes metrics .awaitingStart (.listening first), receiver,
        ⟨forth, back, sent, answered, [], forward⟩, now, .until first, receiverPause⟩ := by
  refine leads_of_sender_byte rfl rfl ?_
  dsimp only
  rw [Sender.next_greeting_of_noise noise]
  exact Sender.turn_waiting rfl early rfl

end Sender

section Receiver

theorem leads_of_begin (early : now < first) :
    Leads
      ⟨sender, .start setup initial 0, ⟨forth, back, sent, answered, [], []⟩, now, .until first,
        .ready⟩
      ⟨sender,
        .calling setup initial source 0 (.fresh now)
          (.listening (now + setup.policy.handshakeTimeout)),
        ⟨forth, back, sent, answered + 1,
          back answered [Receiver.Writing.request.byte setup.mode], []⟩, now, .until first,
        .until (now + setup.policy.handshakeTimeout)⟩ :=
  leads_of_receiver_ready ⟨rfl, early⟩ rfl rfl (Receiver.turn_start rfl)

variable (opened : phase = .awaitingStart ∨ phase = Receiver.phaseAt initial.capacity count)

include opened

theorem leads_of_block (inside : count < blockCount source)
    (fits : Fits initial.capacity source count) (early : now < first) :
    Leads
      ⟨sender,
        .atBlocks setup initial source count handshakes idle pending metrics phase
          (.listening second),
        ⟨forth, back, sent, answered, [], packet setup.mode source count⟩, now, .until first,
        .until second⟩
      ⟨sender,
        .standing setup initial source (count + 1) handshakes 0 false metrics.stored
          (.listening (now + setup.policy.handshakeTimeout)),
        ⟨forth, back, sent, answered + 1, back answered [Signal.byte .acknowledge], []⟩, now,
        .until first, .until (now + setup.policy.handshakeTimeout)⟩ := by
  rw [packet_eq_cons inside]
  refine leads_of_receiver_byte ⟨rfl, early⟩ rfl rfl ?_
  refine Receiver.turn_frame opened [] (List.append_nil _).symm
    (Frame.length_encode ..) fun activity => ?_
  exact Receiver.turn_accept fits rfl

theorem leads_of_overflow (inside : count < blockCount source)
    (spills : ¬ Fits initial.capacity source count) (early : now < first) :
    Leads
      ⟨sender,
        .atBlocks setup initial source count handshakes idle pending metrics phase
          (.listening second),
        ⟨forth, back, sent, answered, [], packet setup.mode source count⟩, now, .until first,
        .until second⟩
      ⟨sender,
        .abandoned setup initial source count handshakes 0 false metrics
          (.noRoom (.ofNat (count + 1)) (offset initial.capacity count) initial.capacity) now,
        ⟨forth, back, sent, answered + 1, back answered [Signal.byte .cancel], []⟩, now,
        .until first, .ended⟩ := by
  rw [packet_eq_cons inside]
  refine leads_of_receiver_byte ⟨rfl, early⟩ rfl rfl ?_
  refine Receiver.turn_frame opened [] (List.append_nil _).symm
    (Frame.length_encode ..) fun activity => ?_
  exact Receiver.turn_overflow spills

/-- A damaged frame makes the receiver wait for a quiet line. -/
theorem leads_of_damage {error : FrameError}
    (damaged : Frame.decode setup.mode (startOfBlock :: bytes) = .error error)
    (whole : (startOfBlock :: bytes).length = Frame.length setup.mode) (early : now < first) :
    Leads
      ⟨sender,
        .atBlocks setup initial source count handshakes idle pending metrics phase
          (.listening second),
        ⟨forth, back, sent, answered, [], startOfBlock :: bytes⟩, now, .until first,
        .until second⟩
      ⟨sender,
        .standing setup initial source count handshakes 0 false metrics.refused
          (.draining (now + setup.policy.handshakeTimeout)),
        ⟨forth, back, sent, answered, [], []⟩, now, .until first,
        .until (now + setup.policy.purgeTimeout)⟩ := by
  refine leads_of_receiver_byte ⟨rfl, early⟩ rfl rfl ?_
  refine Receiver.turn_frame opened [] (List.append_nil _).symm whole fun activity => ?_
  exact Receiver.turn_refuse damaged

theorem leads_of_first_end (asks : setup.confirmEot = true) (early : now < first) :
    Leads
      ⟨sender,
        .atBlocks setup initial source count handshakes idle false metrics phase
          (.listening second),
        ⟨forth, back, sent, answered, [], [Signal.byte .endOfTransmission]⟩, now, .until first,
        .until second⟩
      ⟨sender,
        .standing setup initial source count handshakes 0 true metrics
          (.listening (now + setup.policy.handshakeTimeout)),
        ⟨forth, back, sent, answered + 1, back answered [Signal.byte .negativeAcknowledge], []⟩,
        now, .until first, .until (now + setup.policy.handshakeTimeout)⟩ :=
  leads_of_receiver_byte ⟨rfl, early⟩ rfl rfl (Receiver.turn_confirm opened asks rfl)

theorem leads_of_end (settled : setup.confirmEot = true → pending = true) (early : now < first) :
    Leads
      ⟨sender,
        .atBlocks setup initial source count handshakes idle pending metrics phase
          (.listening second),
        ⟨forth, back, sent, answered, [], [Signal.byte .endOfTransmission]⟩, now, .until first,
        .until second⟩
      ⟨sender, .completed setup initial source count handshakes pending metrics now,
        ⟨forth, back, sent, answered + 1, back answered [Signal.byte .acknowledge], []⟩, now,
        .until first, .ended⟩ :=
  leads_of_receiver_byte ⟨rfl, early⟩ rfl rfl (Receiver.turn_complete opened settled)

omit opened

theorem leads_of_repetition (inside : count < blockCount source) (early : now < first) :
    Leads
      ⟨sender,
        .standing setup initial source (count + 1) handshakes idle pending metrics
          (.listening second),
        ⟨forth, back, sent, answered, [], packet setup.mode source count⟩, now, .until first,
        .until second⟩
      ⟨sender,
        .standing setup initial source (count + 1) handshakes 0 false metrics.repeated
          (.listening (now + setup.policy.handshakeTimeout)),
        ⟨forth, back, sent, answered + 1, back answered [Signal.byte .acknowledge], []⟩, now,
        .until first, .until (now + setup.policy.handshakeTimeout)⟩ := by
  rw [packet_eq_cons inside]
  refine leads_of_receiver_byte ⟨rfl, early⟩ rfl rfl ?_
  refine Receiver.turn_frame (.inr rfl) [] (List.append_nil _).symm
    (Frame.length_encode ..) fun activity => ?_
  exact Receiver.turn_repeat rfl

theorem leads_of_receiver_cancellation :
    Leads
      ⟨sender,
        .atBlocks setup initial source count handshakes idle pending metrics phase
          (.listening second),
        ⟨forth, back, sent, answered, backward, [Signal.byte .cancel]⟩, now, .ended,
        .until second⟩
      ⟨sender,
        .abandoned setup initial source count handshakes idle pending metrics
          (Receiver.cancellation initial.capacity count phase) now,
        ⟨forth, back, sent, answered, backward, []⟩, now, .ended, .ended⟩ :=
  leads_of_receiver_byte (by simp [SenderRests]) rfl rfl Receiver.turn_canceled

end Receiver

end Scene
end Xmodem
