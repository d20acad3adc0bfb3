import Xmodem.Proofs.Agreement

/-!
# Endings

When one end is over, the other one is soon over too: a receiver gives up, and a sender winds down
without any effect on the receiver.
-/

namespace Xmodem
namespace Scene

open Packets

variable {setup : Receiver.Setup Rat} {initial : Destination} {source : List UInt8}
  {forth back : Alteration} {sent answered place count attempts handshakes : Nat}
  {metrics : Metrics Rat} {sender : Sender Rat}
  {receiver : Receiver Rat} {wire : Wire} {backward forward : List UInt8}
  {now first second deadline : Rat} {pause : Pause} {good : Pair Rat → Prop}

/-- Whether the receiver of a pair has given up. -/
def Fails (pair : Pair Rat) : Prop :=
  pair.receiver.Failed

theorem ends_of_failed (failed : receiver.Failed) :
    Ends Fails ⟨sender, receiver, wire, now, .ended, .ended⟩ := by
  refine ends_of_ended rfl rfl fun pair _ receiver_eq => ?_
  rw [Fails, receiver_eq]
  exact failed

/-- On a line that stays silent, a receiver gives up in the end. -/
theorem ends_alone (rests : receiver.Rests deadline) (early : now ≤ deadline)
    (quiet : wire.forward = []) :
    Ends Fails ⟨sender, receiver, wire, now, .ended, .until deadline⟩ := by
  -- A refusal leaves the patience as it is, so the induction is on the rank.
  induction rank_eq : receiver.rank using Nat.strong_induction_on generalizing receiver wire now
    deadline with
  | _ rank induction =>
      subst rank_eq
      obtain ⟨later, after, pause, turn, quiet_after, settled, progress⟩ :=
        receiver.settles_silence rests deadline quiet
      have reaches : Reaches ⟨sender, receiver, wire, now, .ended, .until deadline⟩ _ :=
        reaches_of_receiver_timeout rfl quiet early (.inl rfl) turn
      refine reaches.ends ?_
      cases settled with
      | rests later_deadline rests =>
          have less := progress.resolve_left (by simp)
          exact induction _ less rests later_deadline.le quiet_after rfl
      | failed failed =>
          exact ends_of_failed failed

theorem ends_settled (settled : receiver.Settled now pause) (quiet : wire.forward = []) :
    Ends Fails ⟨sender, receiver, wire, now, .ended, pause⟩ := by
  cases settled with
  | rests early rests => exact ends_alone rests early.le quiet
  | failed failed => exact ends_of_failed failed

/-- When the sender is over, and no packet is on its way, the receiver gives up. -/
theorem ends_deserted (rests : receiver.Rests deadline) (early : now ≤ deadline)
    (last : wire.forward = [] ∨ ∃ value, value ≠ startOfBlock ∧
      value ≠ Signal.byte .endOfTransmission ∧ wire.forward = [value]) :
    Ends Fails ⟨sender, receiver, wire, now, .ended, .until deadline⟩ := by
  rcases last with quiet | ⟨value, no_frame, no_end, arrived⟩
  · exact ends_alone rests early quiet
  · let emptied : Wire := { wire with forward := [] }
    have quiet : emptied.forward = [] := rfl
    obtain ⟨later, after, pause, turn, quiet_after, settled⟩ :=
      receiver.settles_byte rests now quiet no_frame no_end
    have leads : Leads ⟨sender, receiver, wire, now, .ended, .until deadline⟩ _ :=
      leads_of_receiver_byte (by simp [SenderRests]) rfl arrived turn
    exact Reaches.ends (.single leads) (ends_settled settled quiet_after)

/-- When the receiver is over, a sender that hears nothing winds down. -/
theorem ends_unheard_quiet (holds : ∀ pair : Pair Rat, pair.receiver = receiver → good pair)
    (waits : Waits setup source place first sender) (early : now ≤ first) :
    Ends good
      ⟨sender, receiver, ⟨forth, back, sent, answered, [], forward⟩, now, .until first,
        .ended⟩ := by
  induction patience_eq : sender.patience using Nat.strong_induction_on
    generalizing sender first now sent forward with
  | _ patience induction =>
      subst patience_eq
      obtain ⟨later, after, pause, turn, silenced⟩ :=
        waits.silenced first ⟨forth, back, sent, answered, [], forward⟩ rfl
      have reaches : Reaches ⟨sender, receiver, ⟨forth, back, sent, answered, [], forward⟩, now,
          .until first, .ended⟩ _ := reaches_of_sender_timeout rfl rfl early (.inl rfl) turn
      refine reaches.ends ?_
      cases silenced with
      | greets later_eq less =>
          subst later_eq
          exact induction _ less .greeting (setup.policy.lt_add_handshakeTimeout _).le rfl
      | repeats later_eq less =>
          subst later_eq
          exact induction _ less .waiting (setup.policy.lt_add_byteTimeout _).le rfl
      | quits _ _ => exact ends_of_ended rfl rfl fun pair _ receiver_eq => holds pair receiver_eq

theorem ends_unheard (holds : ∀ pair : Pair Rat, pair.receiver = receiver → good pair)
    (early : now < first) (inside : place ≤ blockCount source)
    (answer : backward = [] ∨ ∃ value, backward = [value]) :
    Ends good
      ⟨.waiting setup.policy setup.mode source place attempts handshakes metrics first, receiver,
        ⟨forth, back, sent, answered, backward, forward⟩, now, .until first, .ended⟩ := by
  have both_ended {scene : Scene} (sender_over : scene.senderPause = .ended)
      (receiver_over : scene.receiverPause = .ended) (receiver_eq : scene.receiver = receiver) :
      scene.Ends good :=
    ends_of_ended sender_over receiver_over fun pair _ pair_eq =>
      holds pair (pair_eq.trans receiver_eq)
  have again : now ≤ now + setup.policy.byteTimeout := (setup.policy.lt_add_byteTimeout _).le
  rcases answer with rfl | ⟨value, rfl⟩
  · exact ends_unheard_quiet holds .waiting early.le
  by_cases reply : value ∈ Sender.replies
  · simp only [Sender.replies, List.mem_cons, List.not_mem_nil, or_false] at reply
    rcases reply with rfl | rfl | rfl
    · rcases inside.lt_or_eq with more | rfl
      · exact Reaches.ends (.single (leads_of_acknowledge more))
          (ends_unheard_quiet holds .waiting again)
      · exact Reaches.ends (.single leads_of_last_acknowledge) (both_ended rfl rfl rfl)
    · rcases Nat.lt_or_ge attempts setup.policy.maxRetries with few | many
      · exact Reaches.ends (.single (leads_of_refusal few))
          (ends_unheard_quiet holds .waiting again)
      · obtain ⟨cause, leads⟩ := leads_of_last_refusal many
        exact Reaches.ends (.single leads) (both_ended rfl rfl rfl)
    · exact Reaches.ends (.single leads_of_cancellation) (both_ended rfl rfl rfl)
  · exact Reaches.ends (.single (leads_of_noise reply early))
      (ends_unheard_quiet holds .waiting early.le)

end Scene
end Xmodem
