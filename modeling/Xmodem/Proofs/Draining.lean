import Mathlib.Algebra.Order.Ring.Rat
import Xmodem.Proofs.Muffling
import Xmodem.Proofs.Scanning

/-!
# After a damaged frame

The receiver has read a damaged frame and waits for a quiet line, while the sender may send the
packet again before the line is quiet.  The frame of a repeated packet is dropped, fills up what was
left of the damaged one, or loses its first byte when the wait for a quiet line ends in the midst of
it.
-/

namespace Xmodem
namespace Scene

open Packets

variable {setup : Receiver.Setup Rat} {initial : Destination} {source : List UInt8}
  {forth back : Alteration} {place sent answered attempts handshakes calls : Nat}
  {metrics counters : Metrics Rat} {receiver : Receiver Rat} {wire : Wire}
  {backward : List UInt8} {raw : Array UInt8} {now first second : Rat} {pause : Pause}

theorem carries_of_spares (spares : ∀ write ≥ sent, forth.Spares write) :
    forth.Carries setup.mode source place sent where
  packets _ _ write write_ge := .inl (spares write write_ge _)
  cancellation write write_ge := .inl (spares write write_ge _)

theorem answers_of_spares (spares : ∀ write, back.Spares write) : back.Answers setup.mode :=
  fun write _ => .inl (spares write _)

/-- Whether every pair ends well in which the packet at some place was just sent again and the
receiver waits for a quiet line, for so long that all repetitions before took no longer. -/
def DrainingEnds (setup : Receiver.Setup Rat) (initial : Destination) (source : List UInt8)
    (forth back : Alteration) (place attempts : Nat) : Prop :=
  ∀ ⦃sent answered handshakes calls metrics counters now limit⦄,
    (∀ write ≥ sent, forth.Spares write) → counters.blocks = place →
    setup.policy.handshakeTimeout ≤ (limit - now) + attempts * setup.policy.byteTimeout →
    Ends (Safe source)
      ⟨.waiting setup.policy setup.mode source place attempts handshakes metrics
          (now + setup.policy.byteTimeout),
        .standing setup initial source place calls 0 false counters (.draining limit),
        ⟨forth, back, sent, answered, [], []⟩, now, .until (now + setup.policy.byteTimeout),
        .until (now + setup.policy.purgeTimeout)⟩

section Frames

variable (long : source.length ≤ initial.capacity)
  (expects : setup.expectedLength = some source.length)
  (inside : place < blockCount source) (replies : ∀ write, back.Spares write)

include inside replies

/-- The packet that is sent again fills up what was left of a frame. -/
theorem ends_filled_up (spares : ∀ write ≥ sent, forth.Spares write)
    (blocks : counters.blocks = place) (short : raw.size < Frame.length setup.mode)
    (unread : ¬ Misread setup.mode source place raw.toList)
    (draining : DrainingEnds setup initial source forth back place attempts) :
    Ends (Safe source)
      ⟨.waiting setup.policy setup.mode source place attempts handshakes metrics
          (now + setup.policy.byteTimeout),
        .standing setup initial source place calls 0 false counters (.collecting raw),
        ⟨forth, back, sent, answered, [], packet setup.mode source place⟩, now,
        .until (now + setup.policy.byteTimeout), .until second⟩ := by
  have early : now < now + setup.policy.byteTimeout := setup.policy.lt_add_byteTimeout _
  obtain ⟨filling, rest, arrived, some_byte, whole, filled⟩ :=
    @exists_filling setup.mode source place inside raw short
  have collects {later : Receiver Rat} {after : Wire} {pause : Pause}
      (turn : ∀ activity, Turn .b now
        ((Receiver.standing setup initial source place calls 0 false counters
          activity).receiveFrame now (raw.toList ++ filling)).1
        ⟨forth, back, sent, answered, [], rest⟩ later after pause) :
      Leads
        ⟨.waiting setup.policy setup.mode source place attempts handshakes metrics
            (now + setup.policy.byteTimeout),
          .standing setup initial source place calls 0 false counters (.collecting raw),
          ⟨forth, back, sent, answered, [], packet setup.mode source place⟩, now,
          .until (now + setup.policy.byteTimeout), .until second⟩
        ⟨.waiting setup.policy setup.mode source place attempts handshakes metrics
            (now + setup.policy.byteTimeout), later, after, now,
          .until (now + setup.policy.byteTimeout), pause⟩ :=
    leads_of_receiver_bytes ⟨rfl, early⟩ rfl (packet_eq_cons inside) rfl
      (Receiver.turn_collect
        (.standing setup initial source place calls 0 false counters .between) arrived some_byte
        whole turn)
  cases read : Frame.decode setup.mode (raw.toList ++ filling) with
  | error error =>
      refine Reaches.ends (.single (collects fun activity => Receiver.turn_refuse read)) ?_
      refine draining spares blocks ?_
      have spent : 0 ≤ (attempts : Rat) * setup.policy.byteTimeout :=
        mul_nonneg (Nat.cast_nonneg attempts) setup.policy.byteTimeout_pos.le
      linarith
  | ok block =>
      have read_filled := read
      rw [filled] at read_filled
      obtain ⟨unexpected, unrepeated⟩ := unexpected_of_not_misread unread read_filled
      have aborts (activity : Receiver.Activity Rat) : Turn .b now
          ((Receiver.standing setup initial source place calls 0 false counters
            activity).receiveFrame now (raw.toList ++ filling)).1
          ⟨forth, back, sent, answered, [], rest⟩
          ((Receiver.standing setup initial source place calls 0 false counters .between).abort now
            (.outOfSequence (.ofNat (place + 1)) block.number)).1
          _ .ended := Receiver.turn_out_of_sequence read unexpected unrepeated
      refine Reaches.ends (.single (collects aborts)) ?_
      exact ends_unheard (safe_of_failed (Receiver.failed_abort _)) early inside.le
        (.inr ⟨_, replies answered _⟩)

/-- What was left of a frame is filled up by the repeated packet, or the sender gives up. -/
theorem ends_collecting (spares : ∀ write ≥ sent, forth.Spares write)
    (blocks : counters.blocks = place) (short : raw.size < Frame.length setup.mode)
    (unread : ¬ Misread setup.mode source place raw.toList)
    (answer : backward = [] ∨ backward = [Signal.byte .negativeAcknowledge])
    (early : now ≤ first) (soon : first ≤ second)
    (draining : attempts < setup.policy.maxRetries →
      DrainingEnds setup initial source forth back place (attempts + 1)) :
    Ends (Safe source)
      ⟨.waiting setup.policy setup.mode source place attempts handshakes metrics first,
        .standing setup initial source place calls 0 false counters (.collecting raw),
        ⟨forth, back, sent, answered, backward, []⟩, now, .until first, .until second⟩ := by
  have spares_on : ∀ write ≥ sent + 1, forth.Spares write := fun write write_ge =>
    spares write (Nat.le_of_succ_le write_ge)
  have rests : (Receiver.standing setup initial source place calls 0 false counters
      (.collecting raw)).Rests second := .collecting Receiver.met_standing rfl
  rcases Nat.lt_or_ge attempts setup.policy.maxRetries with few | many
  · have ends {metrics : Metrics Rat} {now : Rat} {more : Nat} : Ends (Safe source)
        ⟨.waiting setup.policy setup.mode source place (attempts + 1) handshakes metrics
            (now + setup.policy.byteTimeout),
          .standing setup initial source place calls 0 false counters (.collecting raw),
          ⟨forth, back, sent + 1, more, [], forth sent (packet setup.mode source place)⟩, now,
          .until (now + setup.policy.byteTimeout), .until second⟩ := by
      rw [spares sent le_rfl]
      exact ends_filled_up inside replies spares_on blocks short unread (draining few)
    rcases answer with rfl | rfl
    · exact Reaches.ends
        (reaches_of_sender_timeout rfl rfl early (.inr ⟨second, rfl, soon, rfl⟩)
          (Sender.turn_retry .timeout few rfl)) ends
    · exact Reaches.ends (.single (leads_of_refusal few)) ends
  · have carries : forth.Carries setup.mode source place sent := carries_of_spares spares
    rcases answer with rfl | rfl
    · obtain ⟨cause, turn⟩ := Sender.turn_giveUp .timeout many
      exact Reaches.ends
        (reaches_of_sender_timeout rfl rfl early (.inr ⟨second, rfl, soon, rfl⟩) turn)
        (ends_given_up carries rests soon)
    · obtain ⟨cause, leads⟩ := leads_of_last_refusal many
      exact Reaches.ends (.single leads) (ends_given_up carries rests (early.trans soon))

include long expects

theorem ends_scanned (spares : ∀ write ≥ sent, forth.Spares write)
    (scanned : Scanned setup initial source forth back sent place now receiver wire pause)
    (early : now < first) (soon : first ≤ now + setup.policy.byteTimeout)
    (draining : attempts < setup.policy.maxRetries →
      DrainingEnds setup initial source forth back place (attempts + 1)) :
    Ends (Safe source)
      ⟨.waiting setup.policy setup.mode source place attempts handshakes metrics first, receiver,
        wire, now, .until first, pause⟩ := by
  have carries : forth.Carries setup.mode source place sent := carries_of_spares spares
  have answers : back.Answers setup.mode := answers_of_spares replies
  have near : Near source place place := ⟨le_rfl, Nat.le_succ _, inside.le⟩
  cases scanned with
  | listens listens later answer =>
      rcases answer with rfl | rfl
      · exact calmEnds long expects answers carries _ listens (Nat.lt_succ_self _) near early.le
          later.le
      · exact ends_refusal carries (fun _ => writtenEnds long expects answers carries) listens
          later.le near
  | collects blocks short unread answer =>
      exact ends_collecting inside replies spares blocks short unread answer early.le soon draining
  | failed failed answer =>
      exact ends_unheard (safe_of_failed failed) early inside.le
        (answer.imp_right fun refused => ⟨_, refused⟩)

/-- When the wait for a quiet line ends in the midst of a repeated packet, its first byte is lost.
-/
theorem ends_undrained (spares : ∀ write ≥ sent, forth.Spares write)
    (blocks : counters.blocks = place) (past : second ≤ now)
    (harmless : Harmless setup.mode source place false
      (Frame.encode setup.mode (block source place)).tail)
    (draining : attempts < setup.policy.maxRetries →
      DrainingEnds setup initial source forth back place (attempts + 1)) {deadline : Rat} :
    Ends (Safe source)
      ⟨.waiting setup.policy setup.mode source place attempts handshakes metrics
          (now + setup.policy.byteTimeout),
        .standing setup initial source place calls 0 false counters (.draining second),
        ⟨forth, back, sent, answered, [], packet setup.mode source place⟩, now,
        .until (now + setup.policy.byteTimeout), .until deadline⟩ := by
  have early : now < now + setup.policy.byteTimeout := setup.policy.lt_add_byteTimeout _
  have later : now < now + setup.policy.handshakeTimeout := setup.policy.lt_add_handshakeTimeout _
  have short := length_tail_encode_lt setup.mode (block source place)
  have refused : back answered [Signal.byte .negativeAcknowledge] =
      [Signal.byte .negativeAcknowledge] := replies answered _
  have met : Receiver.Met (.standing setup initial source place calls 0 false counters
      (.draining second)) := Receiver.met_standing
  obtain ⟨final, after, pause, turn, scanned⟩ := @harmlessScans setup initial source forth back
    sent place now _ replies short false _ _ (answered + 1) _ (.standing blocks) later harmless
    (by simp) (.inr refused)
  have reads : Turn .b now
      ((Receiver.standing setup initial source place calls 0 false counters
        (.draining second)).next now (.byte startOfBlock)).1
      ⟨forth, back, sent, answered, [], (Frame.encode setup.mode (block source place)).tail⟩ final
      after pause := Receiver.turn_undrained met rfl past turn
  exact Reaches.ends
    (.single (leads_of_receiver_byte ⟨rfl, early⟩ rfl (packet_eq_cons inside) reads))
    (ends_scanned long expects inside replies spares scanned early le_rfl draining)

/-- When the line becomes quiet before the sender's timeout, the damaged frame is refused. -/
theorem ends_quick (quick : setup.policy.purgeTimeout < setup.policy.byteTimeout)
    (spares : ∀ write ≥ sent, forth.Spares write) (blocks : counters.blocks = place) :
    Ends (Safe source)
      ⟨.waiting setup.policy setup.mode source place attempts handshakes metrics
          (now + setup.policy.byteTimeout),
        .standing setup initial source place calls 0 false counters (.draining second),
        ⟨forth, back, sent, answered, [], []⟩, now, .until (now + setup.policy.byteTimeout),
        .until (now + setup.policy.purgeTimeout)⟩ := by
  have carries : forth.Carries setup.mode source place sent := carries_of_spares spares
  have near : Near source place place := ⟨le_rfl, Nat.le_succ _, inside.le⟩
  have quiet : now ≤ now + setup.policy.purgeTimeout := (setup.policy.lt_add_purgeTimeout _).le
  have late : now + setup.policy.purgeTimeout ≤
      now + setup.policy.purgeTimeout + setup.policy.handshakeTimeout :=
    (setup.policy.lt_add_handshakeTimeout _).le
  refine Reaches.ends
    (reaches_of_receiver_timeout rfl rfl quiet (.inr ⟨_, rfl, add_lt_add_right quick now, rfl⟩)
      (Receiver.turn_reject rfl)) ?_
  have refused : back answered [Signal.byte .negativeAcknowledge] =
      [Signal.byte .negativeAcknowledge] := replies answered _
  simp only [Wire.wrote, refused, List.nil_append]
  exact ends_refusal carries
    (fun _ => writtenEnds long expects (answers_of_spares replies) carries) (.standing blocks) late
    near

section Slow

variable (harmless : setup.policy.byteTimeout ≤ setup.policy.purgeTimeout →
  setup.policy.handshakeTimeout ≤ setup.policy.maxRetries * setup.policy.byteTimeout →
  Harmless setup.mode source place false (Frame.encode setup.mode (block source place)).tail)

include harmless

/-- A packet that is sent again is dropped as long as the receiver waits for a quiet line, and loses
its first byte afterwards. -/
theorem ends_repeated (slow : setup.policy.byteTimeout ≤ setup.policy.purgeTimeout)
    (few : attempts ≤ setup.policy.maxRetries) (spares : ∀ write ≥ sent, forth.Spares write)
    (blocks : counters.blocks = place)
    (waited : setup.policy.handshakeTimeout ≤
      (second - now) + attempts * setup.policy.byteTimeout)
    (draining : DrainingEnds setup initial source forth back place attempts)
    (further : attempts < setup.policy.maxRetries →
      DrainingEnds setup initial source forth back place (attempts + 1)) {deadline : Rat} :
    Ends (Safe source)
      ⟨.waiting setup.policy setup.mode source place attempts handshakes metrics
          (now + setup.policy.byteTimeout),
        .standing setup initial source place calls 0 false counters (.draining second),
        ⟨forth, back, sent, answered, [], packet setup.mode source place⟩, now,
        .until (now + setup.policy.byteTimeout), .until deadline⟩ := by
  have early : now < now + setup.policy.byteTimeout := setup.policy.lt_add_byteTimeout _
  rcases lt_or_ge now second with drained | past
  · have drops : Session.action (Receiver.standing setup initial source place calls 0 false counters
        (.draining second)) now = .read setup.policy.purgeTimeout := by
      simp [Session.action, Receiver.action, Receiver.standing, Receiver.atBlocks, drained]
    exact Reaches.ends
      (.single (leads_of_receiver_bytes ⟨rfl, early⟩ rfl (packet_eq_cons inside) drops
        (Receiver.turn_drain rfl drained)))
      (draining spares blocks waited)
  · -- The repetitions have outlasted the wait, and there are at most `maxRetries` of them.
    have counted : (attempts : Rat) ≤ setup.policy.maxRetries := Nat.cast_le.mpr few
    have longer : (attempts : Rat) * setup.policy.byteTimeout ≤
        setup.policy.maxRetries * setup.policy.byteTimeout :=
      mul_le_mul_of_nonneg_right counted setup.policy.byteTimeout_pos.le
    have outlasted : setup.policy.handshakeTimeout ≤
        setup.policy.maxRetries * setup.policy.byteTimeout := by linarith
    exact ends_undrained long expects inside replies spares blocks past (harmless slow outlasted)
      further

/-- After a damaged frame a transfer ends well, also when the line does not become quiet in time. -/
theorem ends_draining : DrainingEnds setup initial source forth back place attempts := by
  induction left_eq : setup.policy.maxRetries - attempts using Nat.strong_induction_on
    generalizing attempts with
  | _ left induction =>
      intro sent answered handshakes calls metrics counters now limit spares blocks waited
      rcases lt_or_ge setup.policy.purgeTimeout setup.policy.byteTimeout with quick | slow
      · exact ends_quick long expects inside replies quick spares blocks
      have again : now ≤ now + setup.policy.byteTimeout := (setup.policy.lt_add_byteTimeout _).le
      have later : now + setup.policy.byteTimeout ≤ now + setup.policy.purgeTimeout :=
        add_le_add_right slow now
      rcases Nat.lt_or_ge attempts setup.policy.maxRetries with few | many
      · have repeated : forth sent (packet setup.mode source place) =
            packet setup.mode source place := spares sent le_rfl _
        have waited_on : setup.policy.handshakeTimeout ≤
            (limit - (now + setup.policy.byteTimeout)) +
              (attempts + 1 : Nat) * setup.policy.byteTimeout := by
          push_cast
          linarith
        refine Reaches.ends
          (reaches_of_sender_timeout rfl rfl again (.inr ⟨_, rfl, later, rfl⟩)
            (Sender.turn_retry .timeout few rfl)) ?_
        simp only [Wire.wrote, repeated, List.nil_append]
        refine ends_repeated long expects inside replies harmless slow few
          (fun write write_ge => spares write (Nat.le_of_succ_le write_ge)) blocks waited_on
          (induction _ ?_ rfl) fun _ => induction _ ?_ rfl
        · omega
        · omega
      · obtain ⟨cause, turn⟩ := Sender.turn_giveUp .timeout many
        have rests : (Receiver.standing setup initial source place calls 0 false counters
            (.draining limit)).Rests (now + setup.policy.purgeTimeout) :=
          .draining Receiver.met_standing rfl
        have carries : forth.Carries setup.mode source place sent := carries_of_spares spares
        exact Reaches.ends
          (reaches_of_sender_timeout rfl rfl again (.inr ⟨_, rfl, later, rfl⟩) turn)
          (ends_given_up carries rests later)

end Slow

end Frames

end Scene
end Xmodem
