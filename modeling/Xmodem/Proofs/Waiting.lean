import Xmodem.Proofs.Lockstep
import Xmodem.Proofs.Receiver.Rest

/-!
# Waiting ends

Between two packets both ends wait.  When a wait ends in silence, a sender writes again and a
receiver waits on, as long as there is patience left, and otherwise they give up.
-/

namespace Xmodem

/-- How often a sender still writes or waits again after silence. -/
def Sender.patience (sender : Sender Rat) : Nat :=
  if sender.phase = .awaitingStart then
    sender.policy.maxHandshakeAttempts - sender.handshakeAttempts
  else
    sender.policy.maxRetries - sender.attempts

namespace Scene

open Packets

variable (setup : Receiver.Setup Rat) (initial : Destination) (source : List UInt8)

/-- A sender that waits for the start, or for the answer to the packet at some place. -/
inductive Waits : Nat → Rat → Sender Rat → Prop
  | greeting {handshakes : Nat} {metrics : Metrics Rat} {deadline : Rat} :
      Waits 0 deadline
        (.greeting setup.policy source handshakes metrics .awaitingStart (.listening deadline))
  | waiting {place attempts handshakes : Nat} {metrics : Metrics Rat} {deadline : Rat} :
      Waits place deadline
        (.waiting setup.policy setup.mode source place attempts handshakes metrics deadline)

/-- A receiver that waits for a packet and holds some blocks. -/
inductive Listens : Nat → Rat → Receiver Rat → Prop
  | calling {handshakes : Nat} {metrics : Metrics Rat} {deadline : Rat} :
      metrics.blocks = 0 →
      Listens 0 deadline
        (.calling setup initial source handshakes metrics (.listening deadline))
  | standing {count handshakes idle : Nat} {pending : Bool} {metrics : Metrics Rat}
      {deadline : Rat} :
      metrics.blocks = count →
      Listens count deadline
        (.standing setup initial source count handshakes idle pending metrics
          (.listening deadline))

/-- A sender that gave up at some place. -/
structure SenderQuits (place : Nat) (sender : Sender Rat) : Prop where
  cursor : sender.cursor = min (blockSize * place) source.length
  outcome : ∃ failure, sender.outcome? = some (.error failure)

/-- A receiver that gave up with some blocks. -/
structure ReceiverQuits (count : Nat) (receiver : Receiver Rat) : Prop where
  blocks : receiver.metrics.blocks = count
  phase : receiver.phase = .aborted
  outcome : ∃ failure, receiver.outcome? = some (.error failure) ∧
    failure.reason ≠ .outOfSequence ∧ failure.reason ≠ .destinationExhausted

/-- What becomes of a sender whose wait ends in silence. -/
inductive SenderSilenced (patience : Nat) (now : Rat) (wire : Wire) :
    Nat → Sender Rat → Wire → Pause → Prop
  /-- It waits for the start again. -/
  | greets {handshakes : Nat} {metrics : Metrics Rat} {later : Sender Rat} :
      later = .greeting setup.policy source handshakes metrics .awaitingStart
        (.listening (now + setup.policy.handshakeTimeout)) →
      later.patience < patience →
      SenderSilenced patience now wire 0 later wire (.until (now + setup.policy.handshakeTimeout))
  /-- It sends the packet again. -/
  | repeats {place attempts handshakes : Nat} {metrics : Metrics Rat} {later : Sender Rat} :
      later = .waiting setup.policy setup.mode source place attempts handshakes metrics
        (now + setup.policy.byteTimeout) →
      later.patience < patience →
      SenderSilenced patience now wire place later (wire.wrote (packet setup.mode source place) .a)
        (.until (now + setup.policy.byteTimeout))
  /-- It gives up. -/
  | quits {place : Nat} {later : Sender Rat} {after : Wire} :
      SenderQuits source place later →
      after = wire ∨ after = wire.wrote [Signal.byte .cancel] .a →
      SenderSilenced patience now wire place later after .ended

/-- What becomes of a receiver whose wait ends in silence. -/
inductive ReceiverSilenced (patience : Nat) (now : Rat) (wire : Wire) :
    Nat → Receiver Rat → Wire → Pause → Prop
  /-- It calls again. -/
  | calls {handshakes : Nat} {metrics : Metrics Rat} {later : Receiver Rat} :
      later = .calling setup initial source handshakes metrics
        (.listening (now + setup.policy.handshakeTimeout)) →
      metrics.blocks = 0 → later.patience < patience →
      ReceiverSilenced patience now wire 0 later
        (wire.wrote [Receiver.Writing.request.byte setup.mode] .b)
        (.until (now + setup.policy.handshakeTimeout))
  /-- It waits on. -/
  | waits {count : Nat} {later : Receiver Rat} :
      Listens setup initial source count (now + setup.policy.handshakeTimeout) later →
      later.patience < patience →
      ReceiverSilenced patience now wire count later wire
        (.until (now + setup.policy.handshakeTimeout))
  /-- It gives up. -/
  | quits {count : Nat} {later : Receiver Rat} :
      ReceiverQuits count later → ReceiverSilenced patience now wire count later wire .ended

variable {setup initial source} {place count attempts handshakes : Nat}
  {metrics : Metrics Rat} {sender : Sender Rat} {receiver : Receiver Rat}
  {first second deadline : Rat}

theorem Waits.cursor_eq (waits : Waits setup source place first sender) :
    sender.cursor = min (blockSize * place) source.length := by
  cases waits with
  | greeting => simp [Sender.greeting, Sender.start]
  | waiting => rfl

theorem Waits.outcome?_eq (waits : Waits setup source place first sender) :
    sender.outcome? = none := by
  cases waits <;> rfl

theorem Listens.blocks_eq (listens : Listens setup initial source count second receiver) :
    receiver.metrics.blocks = count := by
  cases listens with
  | calling blocks => exact blocks
  | standing blocks => exact blocks

theorem Listens.outcome?_eq (listens : Listens setup initial source count second receiver) :
    receiver.outcome? = none := by
  cases listens <;> rfl

theorem Listens.activity_eq (listens : Listens setup initial source count second receiver) :
    receiver.activity = .listening second := by
  cases listens <;> rfl

theorem Listens.phase_ne (listens : Listens setup initial source count second receiver) :
    receiver.phase ≠ .completed := by
  cases listens with
  | calling => simp [Receiver.calling, Receiver.atBlocks]
  | standing =>
      simp only [Receiver.standing, Receiver.atBlocks, Receiver.phaseAt]
      split <;> simp

/-- A receiver that waits for a packet, seen as one that holds its blocks. -/
theorem Listens.eq_atBlocks (listens : Listens setup initial source count second receiver) :
    ∃ handshakes idle pending metrics phase,
      (phase = .awaitingStart ∨ phase = Receiver.phaseAt initial.capacity count) ∧
      metrics.blocks = count ∧
      receiver = .atBlocks setup initial source count handshakes idle pending metrics phase
        (.listening second) := by
  cases listens with
  | calling blocks => exact ⟨_, _, _, _, _, .inl rfl, blocks, rfl⟩
  | standing blocks => exact ⟨_, _, _, _, _, .inr rfl, blocks, rfl⟩

theorem Uneventful.listens {metrics counters : Metrics Rat} {phase : ReceivePhase}
    (uneventful : Uneventful initial count metrics counters phase) (setup : Receiver.Setup Rat)
    (source : List UInt8) (deadline : Rat) :
    Listens setup initial source count deadline
      (.atBlocks setup initial source count 0 0 false counters phase (.listening deadline)) := by
  rcases uneventful.opened with ⟨rfl, rfl⟩ | rfl
  · exact .calling uneventful.blocks
  · exact .standing uneventful.blocks

theorem ReceiverQuits.orderly (quits : ReceiverQuits count receiver) (failure : Failure)
    (outcome : receiver.outcome? = some (.error failure)) :
    failure.reason ≠ .outOfSequence ∧ failure.reason ≠ .destinationExhausted := by
  obtain ⟨cause, cause_eq, orderly⟩ := quits.outcome
  rw [cause_eq, Option.some.injEq, Except.error.injEq] at outcome
  exact outcome ▸ orderly

theorem ReceiverQuits.phase_ne (quits : ReceiverQuits count receiver) :
    receiver.phase ≠ .completed := by
  rw [quits.phase]
  simp

theorem SenderQuits.outcome?_ne (quits : SenderQuits source place sender) (length : Nat) :
    sender.outcome? ≠ some (.ok length) := by
  obtain ⟨failure, outcome⟩ := quits.outcome
  rw [outcome]
  simp

theorem Listens.rests (listens : Listens setup initial source count second receiver) :
    receiver.Rests second := by
  cases listens with
  | calling => exact .calling rfl rfl
  | standing => exact .listening Receiver.met_standing rfl

theorem Listens.next_of_noise (listens : Listens setup initial source count deadline receiver)
    {value : UInt8} (noise : value ∉ Receiver.announcements) (now : Rat) :
    (receiver.next now (.byte value)).1 = receiver := by
  rw [Receiver.next_listening_byte listens.activity_eq]
  exact Receiver.heard_of_noise noise

theorem ReceiverQuits.failed (quits : ReceiverQuits count receiver) : receiver.Failed := by
  obtain ⟨failure, outcome, _⟩ := quits.outcome
  exact ⟨failure, outcome⟩

theorem senderQuits_unheard {cause : AbortCause} {now : Rat} :
    SenderQuits source 0
      (.unheard setup.policy source handshakes metrics cause now) where
  cursor := by simp [Sender.unheard, Sender.greeting, Sender.start]
  outcome := ⟨_, rfl⟩

theorem patience_greeting {activity : Sender.Activity Rat} :
    (Sender.greeting setup.policy source handshakes metrics .awaitingStart activity).patience =
      setup.policy.maxHandshakeAttempts - handshakes := rfl

theorem patience_waiting :
    (Sender.waiting setup.policy setup.mode source place attempts handshakes metrics
      deadline).patience = setup.policy.maxRetries - attempts := by
  simp only [Sender.patience, Sender.waiting, Sender.atPlace, Sender.replyPhase_ne_awaitingStart,
    if_false]

/-- A sender that hears nothing writes or waits again with less patience, or gives up. -/
theorem Waits.silenced (waits : Waits setup source place deadline sender) (now : Rat)
    (wire : Wire) (quiet : wire.backward = []) :
    ∃ later after pause, Turn .a now (sender.next now .silence).1 wire later after pause ∧
      SenderSilenced setup source sender.patience now wire place later after pause := by
  cases waits with
  | @greeting handshakes metrics _ =>
      rcases Nat.lt_or_ge (handshakes + 1) setup.policy.maxHandshakeAttempts with patient | last
      · refine ⟨_, _, _, Sender.turn_uncalled patient quiet, .greets rfl ?_⟩
        rw [patience_greeting, patience_greeting]
        omega
      · exact ⟨_, _, _, Sender.turn_unheard last, .quits senderQuits_unheard (.inl rfl)⟩
  | @waiting _ attempts handshakes metrics _ =>
      rcases Nat.lt_or_ge attempts setup.policy.maxRetries with few | many
      · refine ⟨_, _, _, Sender.turn_retry .timeout few quiet, .repeats rfl ?_⟩
        rw [patience_waiting, patience_waiting]
        omega
      · obtain ⟨cause, turn⟩ := Sender.turn_giveUp .timeout many
        exact ⟨_, _, _, turn, .quits ⟨rfl, _, rfl⟩ (.inr rfl)⟩

theorem patience_calling {activity : Receiver.Activity Rat} :
    (Receiver.calling setup initial source handshakes metrics activity).patience =
      setup.policy.maxHandshakeAttempts - handshakes := rfl

theorem patience_standing {idle : Nat} {pending : Bool} {activity : Receiver.Activity Rat} :
    (Receiver.standing setup initial source count handshakes idle pending metrics
      activity).patience = setup.policy.maxHandshakeAttempts - idle := by
  simp only [Receiver.patience, Receiver.standing, Receiver.atBlocks,
    Receiver.phaseAt_ne_awaitingStart, if_false]

/-- A receiver that hears nothing calls or waits again with less patience, or gives up. -/
theorem Listens.silenced (listens : Listens setup initial source count deadline receiver)
    (now : Rat) (wire : Wire) (quiet : wire.forward = []) :
    ∃ later after pause, Turn .b now (receiver.next now .silence).1 wire later after pause ∧
      ReceiverSilenced setup initial source receiver.patience now wire count later after
        pause := by
  cases listens with
  | @calling handshakes counters _ blocks =>
      have same : counters.silent.blocks = 0 := blocks
      rcases Nat.lt_or_ge (handshakes + 1) setup.policy.maxHandshakeAttempts with patient | last
      · refine ⟨_, _, _, Receiver.turn_call_again patient quiet, .calls rfl same ?_⟩
        rw [patience_calling, patience_calling]
        omega
      · refine ⟨_, _, _, Receiver.turn_call_in_vain last, .quits ⟨same, rfl, _, rfl, ?_⟩⟩
        simp [Failure.reason, AbortCause.reason]
  | @standing _ handshakes idle pending counters _ blocks =>
      have same : counters.silent.blocks = count := blocks
      rcases Nat.lt_or_ge (idle + 1) setup.policy.maxHandshakeAttempts with patient | last
      · refine ⟨_, _, _, Receiver.turn_silence patient quiet, .waits (.standing same) ?_⟩
        rw [patience_standing, patience_standing]
        omega
      · refine ⟨_, _, _, Receiver.turn_last_silence last, .quits ⟨same, rfl, _, rfl, ?_⟩⟩
        simp [Failure.reason, AbortCause.reason]

end Scene
end Xmodem
