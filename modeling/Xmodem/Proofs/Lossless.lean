import Xmodem.Proofs.Lengths
import Xmodem.Proofs.Lockstep

/-!
# Lossless transfers

On a link that neither loses nor changes anything, a transfer either stores every block or ends at
the first block without room.  Which of the two happens, and all that the two ends report, is
determined by the source, the capacity, and the expected length.
-/

namespace Xmodem

open Packets Destination

/-- A transfer in which every block was stored. -/
structure Delivered (initial : Destination) (source : List UInt8) (expected : Option Nat)
    {γ : Type} (final : Pair Rat γ) : Prop where
  sent : final.sender.outcome? = some (.ok source.length)
  received : final.receiver.outcome? = some (.ok (imageLength initial.capacity source expected))
  content : final.receiver.destination.toList =
    (image source (blockCount source)).take (offset initial.capacity (blockCount source)) ++
      initial.toList.drop (offset initial.capacity (blockCount source))
  senderTimeouts : final.sender.metrics.timeouts = 0
  receiverTimeouts : final.receiver.metrics.timeouts = 0

/-- A transfer that ended at a block without room. -/
structure Overflowed (initial : Destination) (source : List UInt8) (place : Nat)
    (final : Pair Rat) : Prop where
  sent : ∃ failure, final.sender.outcome? = some (.error failure) ∧
    failure.reason = .canceledByPeer ∧ failure.transferred = blockSize * place
  received : ∃ failure, final.receiver.outcome? = some (.error failure) ∧
    failure.reason = .destinationExhausted
  content : final.receiver.destination.toList =
    (image source place).take (offset initial.capacity place) ++
      initial.toList.drop (offset initial.capacity place)
  senderTimeouts : final.sender.metrics.timeouts = 0
  receiverTimeouts : final.receiver.metrics.timeouts = 0

theorem Destination.toList_holding_eq (initial : Destination) (source : List UInt8)
    (count : Nat) :
    (initial.holding source count).toList =
      (image source count).take (offset initial.capacity count) ++
        initial.toList.drop (offset initial.capacity count) := by
  have total := length_toList initial
  have images := length_image source count
  rw [toList_holding, offset]
  rcases Nat.le_total (blockSize * count) initial.capacity with below | above
  · rw [Nat.min_eq_left below, List.take_of_length_le (by omega),
      List.take_of_length_le (by omega)]
  · rw [Nat.min_eq_right above, List.drop_of_length_le (by omega),
      List.drop_of_length_le (by omega)]

namespace Scene

variable {setup : Receiver.Setup Rat} {initial : Destination} {source : List UInt8}

theorem delivered_of_completed {metrics counters : Metrics Rat} {handshakes calls : Nat}
    {pending : Bool} {now later : Rat} {γ : Type} {pair : Pair Rat γ}
    (timeouts : metrics.timeouts = 0) (silences : counters.timeouts = 0)
    (sender : pair.sender =
      .completed setup.policy setup.mode source handshakes metrics later)
    (receiver : pair.receiver =
      .completed setup initial source (blockCount source) calls pending counters now) :
    Delivered initial source setup.expectedLength pair where
  sent := by rw [sender]; rfl
  received := by
    rw [receiver, ← Receiver.reported_completed]
    rfl
  content := by
    rw [receiver, ← toList_holding_eq]
    rfl
  senderTimeouts := by rw [sender]; exact timeouts
  receiverTimeouts := by rw [receiver]; exact silences

/-- When every block has room, the whole image is delivered. -/
theorem ends_delivered (fit : ∀ place < blockCount source, Fits initial.capacity source place)
    (retries : setup.confirmEot = true → 1 ≤ setup.policy.maxRetries) :
    (called setup initial source .none .none).Ends
      (Delivered initial source setup.expectedLength) := by
  obtain ⟨metrics, counters, phase, uneventful, reaches⟩ :=
    reaches_inStep le_rfl fit (fun write _ => Alteration.none_spares write)
      (fun write _ => Alteration.none_spares write)
  have early : (0 : Rat) < 0 + setup.policy.byteTimeout := setup.policy.lt_add_byteTimeout _
  have last : Alteration.none (blockCount source)
      (packet setup.mode source (blockCount source)) = [Signal.byte .endOfTransmission] :=
    packet_blockCount ..
  refine reaches.ends ?_
  rw [inStep, last]
  cases asks : setup.confirmEot with
  | false =>
      refine Reaches.ends (.head (leads_of_end uneventful.opens (by simp [asks]) early)
        (.single leads_of_last_acknowledge)) (ends_of_ended rfl rfl fun pair sender receiver => ?_)
      exact delivered_of_completed uneventful.timeouts uneventful.silences sender receiver
  | true =>
      have again : [] ++ Alteration.none (blockCount source + 1)
          (packet setup.mode source (blockCount source)) = [Signal.byte .endOfTransmission] :=
        packet_blockCount ..
      refine Reaches.ends (.head (leads_of_first_end uneventful.opens asks early)
        (.single (leads_of_refusal (retries asks)))) ?_
      rw [again]
      refine Reaches.ends (.head (leads_of_end (.inr rfl) (fun _ => rfl) early)
        (.single leads_of_last_acknowledge)) (ends_of_ended rfl rfl fun pair sender receiver => ?_)
      have timeouts : (metrics.fail .nak).repeated.timeouts = 0 := uneventful.timeouts
      exact delivered_of_completed timeouts uneventful.silences sender receiver

/-- At the first block without room, both ends give up. -/
theorem ends_overflowed {place : Nat} (inside : place < blockCount source)
    (fit : ∀ earlier < place, Fits initial.capacity source earlier)
    (spills : ¬ Fits initial.capacity source place) :
    (called setup initial source .none .none).Ends (Overflowed initial source place) := by
  obtain ⟨metrics, counters, phase, uneventful, reaches⟩ :=
    reaches_inStep inside.le fit (fun write _ => Alteration.none_spares write)
      (fun write _ => Alteration.none_spares write)
  have early : (0 : Rat) < 0 + setup.policy.byteTimeout := setup.policy.lt_add_byteTimeout _
  have before := (lt_blockCount_iff source place).mp inside
  refine Reaches.ends (reaches.trans (.head (leads_of_overflow uneventful.opens inside spills early)
    (.single leads_of_cancellation))) (ends_of_ended rfl rfl fun pair sender receiver => ?_)
  exact
    { sent := by
        rw [sender]
        exact ⟨_, rfl, rfl, Nat.min_eq_left before.le⟩
      received := by
        rw [receiver]
        exact ⟨_, rfl, rfl⟩
      content := by
        rw [receiver, ← toList_holding_eq]
        rfl
      senderTimeouts := by
        rw [sender]
        exact uneventful.timeouts
      receiverTimeouts := by
        rw [receiver]
        exact uneventful.silences }

end Scene

/-- A transfer over an undisturbed link delivers the image when all blocks have room, in full when
the source fits and does not end in padding, and ends at the first block without room otherwise.  -/
theorem undisturbed_transfer {policy : RetryPolicy Rat} {mode : ChecksumMode}
    {expected : Option Int} {confirm : Bool} {initial : Destination} {receiver : Receiver Rat}
    (source : List UInt8)
    (opens : Receiver.open? policy mode expected confirm initial 0 = .ok receiver)
    (retries : confirm = true → 1 ≤ policy.maxRetries) :
    ((∀ place < blockCount source, Fits initial.capacity source place) →
      ∃ (fuel : Nat) (final : Pair Rat), (Pair.start (.start policy source 0) receiver
        ⟨.fresh .none .none, .fresh .none .none⟩ none).complete fuel = some final ∧
        Delivered initial source (expected.map Int.toNat) final) ∧
    (∀ place < blockCount source, (∀ earlier < place, Fits initial.capacity source earlier) →
      ¬ Fits initial.capacity source place →
      ∃ fuel final, (Pair.start (.start policy source 0) receiver
        ⟨.fresh .none .none, .fresh .none .none⟩ none).complete fuel = some final ∧
        Overflowed initial source place final) ∧
    (source.length ≤ initial.capacity → source.getLast? ≠ some padding →
      (∀ length ∈ expected, (offset initial.capacity (blockCount source) : Int) < length) →
      imageLength initial.capacity source (expected.map Int.toNat) = source.length) := by
  obtain rfl := Receiver.eq_start_of_open? opens
  refine ⟨fun fit => ?_, fun place inside fit spills => ?_, fun fits ending unreached => ?_⟩
  · exact Scene.completes_of_called ⟨policy, mode, expected.map Int.toNat, confirm⟩
      (Scene.ends_delivered fit retries)
  · exact Scene.completes_of_called ⟨policy, mode, expected.map Int.toNat, confirm⟩
      (Scene.ends_overflowed inside fit spills)
  · have trimmed := trimmedLength_eq fits ending
    cases expected with
    | none => exact trimmed
    | some length =>
        have beyond := unreached length rfl
        have longer : ¬ length.toNat ≤ offset initial.capacity (blockCount source) := by omega
        simp only [Option.map_some, imageLength, longer, if_false, trimmed]

/-- Three bytes are delivered where there is room for them, and not where there is less. -/
theorem undisturbed_transfer_of_three_bytes :
    (Receiver.open? .brief .crc16 none true (.filled 3 0) 0 =
        .ok (.start ⟨.brief, .crc16, none, true⟩ (.filled 3 0) 0) ∧
      ∃ (fuel : Nat) (final : Pair Rat), (Pair.start (.start .brief [1, 2, 3] 0)
          (.start ⟨.brief, .crc16, none, true⟩ (.filled 3 0) 0)
          ⟨.fresh .none .none, .fresh .none .none⟩ none).complete fuel = some final ∧
        Delivered (.filled 3 0) [1, 2, 3] none final) ∧
    (Receiver.open? .brief .crc16 none true (.filled 2 0) 0 =
        .ok (.start ⟨.brief, .crc16, none, true⟩ (.filled 2 0) 0) ∧
      ∃ fuel final, (Pair.start (.start .brief [1, 2, 3] 0)
          (.start ⟨.brief, .crc16, none, true⟩ (.filled 2 0) 0)
          ⟨.fresh .none .none, .fresh .none .none⟩ none).complete fuel = some final ∧
        Overflowed (.filled 2 0) [1, 2, 3] 0 final) := by
  have opens (capacity : Nat) :
      Receiver.open? .brief .crc16 none true (.filled capacity 0) 0 =
        .ok (.start ⟨.brief, .crc16, none, true⟩ (.filled capacity 0) 0) := rfl
  have retries : true = true → 1 ≤ RetryPolicy.brief.maxRetries := fun _ => by decide
  refine ⟨⟨opens 3, ?_⟩, ⟨opens 2, ?_⟩⟩
  · exact (undisturbed_transfer [1, 2, 3] (opens 3) retries).1 (by decide +kernel)
  · exact (undisturbed_transfer [1, 2, 3] (opens 2) retries).2.1 0 (by decide) (by simp)
      (by decide +kernel)

end Xmodem
