import Xmodem.Proofs.Receiver.Closing
import Xmodem.Proofs.Sender.Closing

/-!
# Nothing escapes a session

Whatever its line does, a session that was run completes, or gives up for the reason that it shows.
No packet that a sender has to make and no frame that a receiver has to read is beyond what they can
handle, and a session that was run is not run again.
-/

namespace Xmodem

variable {τ : Type} [Quantity τ]

namespace Sender

variable {policy : RetryPolicy τ} {source : List UInt8} {sender : Sender τ}

theorem At.mode_ne_none {stage : Stage} (stands : At policy source stage sender)
    (rests : sender.activity = .between) (sends : sender.phase = .sendingBlock) :
    sender.mode ≠ none := by
  cases stands with
  | ready keeps _ _ | first keeps _ _ _ | again keeps _ _ _ _ _ | awaiting keeps _ _ _ _ =>
      rw [keeps.mode_eq]
      exact nofun
  | calling _ phase_eq _ => exact absurd (phase_eq.symm.trans sends) nofun
  | canceling doing => exact absurd (rests.symm.trans doing) nofun
  | completed phase_eq _ => exact absurd (phase_eq.symm.trans sends) nofun
  | ended doing => exact absurd (rests.symm.trans doing) nofun

/-- What a sender never has to cope with. -/
structure Able (sender : Sender τ) : Prop where
  /-- No part of the image is too long for a block. -/
  chunk : Block.ofChunk? sender.blockNumber.toNat (sender.unsent.take blockSize) =
    .ok sender.currentBlock
  /-- No block is sent before a checksum was chosen. -/
  mode : sender.activity = .between → sender.phase = .sendingBlock → sender.mode ≠ none

theorem ofChunk?_eq_currentBlock (sender : Sender τ) :
    Block.ofChunk? sender.blockNumber.toNat (sender.unsent.take blockSize) =
      .ok sender.currentBlock := by
  have number_eq : UInt8.ofInt sender.blockNumber.toNat = sender.blockNumber := by
    rw [← UInt8.toNat_inj, ← Int.natCast_inj, toNat_ofInt]
    have small := sender.blockNumber.toNat_lt
    omega
  rw [Block.ofChunk?, dif_pos (List.length_take_le ..), number_eq]
  rfl

theorem able_of_converses {now : τ} {moments : List (Moment (Sender τ) τ)}
    (talks : Converses (start policy source now) moments sender) : sender.Able := by
  obtain ⟨_, _, stands⟩ := exists_treads talks
  exact ⟨sender.ofChunk?_eq_currentBlock, stands.mode_ne_none⟩

end Sender

namespace Receiver

variable {setup : Setup τ} {initial : Destination} {receiver : Receiver τ}

/-- What a receiver never has to cope with. -/
structure Able (receiver : Receiver τ) : Prop where
  /-- All bytes of a frame are refused for damage only. -/
  frame : ∀ raw value error, receiver.activity = .collecting raw →
    Frame.length receiver.setup.mode ≤ raw.size + 1 →
    Frame.decode receiver.setup.mode (raw.push value).toList = .error error → error.IsDamage
  /-- Nothing is stored beyond the destination. -/
  room : receiver.cursor + receiver.room ≤ receiver.capacity

theorem At.room_le {course : Course} (stands : At setup initial course receiver) :
    receiver.cursor + receiver.room ≤ receiver.capacity := by
  have cursor_le : receiver.cursor ≤ receiver.capacity := by
    rw [stands.keeps.cursor_eq, capacity, stands.keeps.capacity_eq]
    exact Destination.offset_le ..
  have room_le : receiver.room ≤ receiver.capacity - receiver.cursor := Nat.min_le_right ..
  omega

theorem able_of_converses {now : τ} {moments : List (Moment (Receiver τ) τ)}
    (talks : Converses (start setup initial now) moments receiver) : receiver.Able := by
  obtain ⟨_, _, at_course⟩ := exists_treads talks
  refine ⟨fun raw value error collects whole read => ?_, at_course.room_le⟩
  obtain ⟨_, rfl⟩ | stands := stands_of_converses talks
  · exact absurd collects nofun
  · exact stands.isDamage collects whole read

end Receiver

/-- Whatever its line does, a session that was run is contained, and never has to cope with a
packet, a frame, or a checksum beyond its means. -/
theorem sessions_contained :
    (∀ (policy : RetryPolicy τ) (source : List UInt8) (now : τ)
        (moments : List (Moment (Sender τ) τ)) (sender : Sender τ),
      Converses (Sender.start policy source now) moments sender → moments ≠ [] →
        Contained (transcript Sender.waits moments) sender.account sender ∧ sender.Able) ∧
    (∀ (setup : Receiver.Setup τ) (initial : Destination) (now : τ)
        (moments : List (Moment (Receiver τ) τ)) (receiver : Receiver τ),
      Converses (Receiver.start setup initial now) moments receiver → moments ≠ [] →
        Contained (transcript Receiver.waits moments) receiver.account receiver ∧
          receiver.Able) ∧
    ∀ payload : List UInt8,
      0 ≤ Checksum.Wide.crc 0x1021 0 payload ∧ Checksum.Wide.crc 0x1021 0 payload < 65536 := by
  refine ⟨?_, ?_, ?_⟩
  · intro policy source now moments sender talks begun
    exact ⟨Sender.contained_of_converses talks begun, Sender.able_of_converses talks⟩
  · intro setup initial now moments receiver talks begun
    exact ⟨Receiver.contained_of_converses talks begun, Receiver.able_of_converses talks⟩
  · intro payload
    have small := (Checksum.crc16 payload).isLt
    rw [Checksum.Wide.crc_eq_crc16]
    omega

/-- A sender that cannot tell its receiver that it gave up, and a receiver that cannot acknowledge
the block that it stored. -/
theorem sessions_contained_of_spoiled_answers :
    let heard (signal : Signal) : ScriptItem Rat := .byte signal.byte
    let refusing : ScriptedLine Rat :=
      ⟨[heard .negativeAcknowledge, .silence, .silence, .silence, .silence], none,
        [(4, .system "gone")], 0⟩
    let frame := Frame.encode .additive (Packets.block [1, 2, 3] 0)
    let accepting : ScriptedLine Rat := ⟨frame.map .byte, none, [(1, .system "gone")], 0⟩
    let setup : Receiver.Setup Rat := ⟨.brief, .additive, none, false⟩
    (∃ after moments,
      (Run.mk (Sender.start .brief [1, 2, 3] 0) refusing 0 []).complete 60 = some after ∧
      Converses (Sender.start .brief [1, 2, 3] 0) moments after.session ∧ moments ≠ [] ∧
      after.session.abortReason? = some .underlyingIoError ∧
      Contained (transcript Sender.waits moments) after.session.account after.session) ∧
    ∃ after moments,
      (Run.mk (Receiver.start setup (.filled 3 0) 0) accepting 0 []).complete 400 = some after ∧
      Converses (Receiver.start setup (.filled 3 0) 0) moments after.session ∧ moments ≠ [] ∧
      after.session.abortReason? = some .underlyingIoError ∧ after.session.transferred = 3 ∧
      Contained (transcript Receiver.waits moments) after.session.account after.session := by
  intro heard refusing frame accepting setup
  have sends : ((Run.mk (Sender.start .brief [1, 2, 3] 0) refusing 0 []).complete 60).map
      (fun after => (after.session.abortReason?, after.history.isEmpty)) =
        some (some .underlyingIoError, false) := by
    decide +kernel
  have receives :
      ((Run.mk (Receiver.start setup (.filled 3 0) 0) accepting 0 []).complete 400).map
        (fun after => (after.session.abortReason?, after.session.transferred,
          after.history.isEmpty)) = some (some .underlyingIoError, 3, false) := by
    decide +kernel
  obtain ⟨sender, sends, same⟩ := Option.map_eq_some_iff.mp sends
  obtain ⟨blames, spoke⟩ := Prod.mk.inj same
  obtain ⟨talk, talks, notes⟩ := Run.exists_converses sends
  have begun : talk ≠ [] := by
    rintro rfl
    rw [notes] at spoke
    exact absurd spoke nofun
  obtain ⟨receiver, receives, same⟩ := Option.map_eq_some_iff.mp receives
  obtain ⟨receiver_blames, same⟩ := Prod.mk.inj same
  obtain ⟨stored, answered⟩ := Prod.mk.inj same
  obtain ⟨answers, replies, more⟩ := Run.exists_converses receives
  have opened : answers ≠ [] := by
    rintro rfl
    rw [more] at answered
    exact absurd answered nofun
  obtain ⟨senders, receivers, _⟩ := sessions_contained (τ := Rat)
  exact ⟨⟨sender, talk, sends, talks, begun, blames, (senders _ _ _ _ _ talks begun).1⟩,
    receiver, answers, receives, replies, opened, receiver_blames, stored,
    (receivers _ _ _ _ _ replies opened).1⟩

end Xmodem
