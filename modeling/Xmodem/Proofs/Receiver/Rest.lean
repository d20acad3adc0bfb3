import Xmodem.Proofs.Receiver.Turns

/-!
# Receivers left alone

Whatever a receiver has read, it rests in one of four ways afterwards or has given up.  When no end
of transmission is to come, it can only give up.
-/

namespace Xmodem
namespace Receiver

/-- A receiver that has given up. -/
def Failed (receiver : Receiver Rat) : Prop :=
  ∃ failure, receiver.outcome? = some (.error failure)

/-- A receiver that waits, with the deadline of its wait for a packet. -/
inductive Rests (deadline : Rat) (receiver : Receiver Rat) : Prop
  /-- It calls. -/
  | calling : receiver.phase = .awaitingStart → receiver.activity = .listening deadline →
      Rests deadline receiver
  /-- It waits for a packet. -/
  | listening : Met receiver → receiver.activity = .listening deadline → Rests deadline receiver
  /-- It waits for the rest of a frame. -/
  | collecting {raw : Array UInt8} : Met receiver → receiver.activity = .collecting raw →
      Rests deadline receiver
  /-- It waits for a quiet line. -/
  | draining {limit : Rat} : Met receiver → receiver.activity = .draining limit →
      Rests deadline receiver

/-- Either a receiver waits for something, or it has given up. -/
inductive Settled (now : Rat) (receiver : Receiver Rat) : Pause → Prop
  | rests {deadline : Rat} : now < deadline → Rests deadline receiver →
      Settled now receiver (.until deadline)
  | failed : Failed receiver → Settled now receiver .ended

variable {receiver : Receiver Rat} {wire : Wire} {now deadline : Rat}

theorem failed_abort (cause : AbortCause) : Failed (receiver.abort now cause).1 :=
  ⟨_, rfl⟩

theorem settled_listen (now : Rat) (met : Met receiver) :
    Settled now (receiver.listen now) (.until (now + receiver.setup.policy.handshakeTimeout)) :=
  .rests (receiver.setup.policy.lt_add_handshakeTimeout now) (.listening met rfl)

theorem settles_between (now : Rat) (met : Met receiver) (quiet : wire.forward = []) :
    ∃ later pause, Turn .b now { receiver with activity := .between } wire later wire pause ∧
      Settled now later pause :=
  ⟨_, _, turn_listen met quiet, settled_listen now met⟩

theorem settles_abort (quiet : wire.forward = []) (cause : AbortCause) :
    ∃ later after pause, Turn .b now (receiver.abortNotifying cause).1 wire later after pause ∧
      after.forward = [] ∧ Settled now later pause :=
  ⟨_, wire.wrote [Signal.byte .cancel] .b, _, .write rfl (.stop rfl), quiet, .failed ⟨_, rfl⟩⟩

/-- A receiver settles whatever a frame holds. -/
theorem settles_frame (met : Met receiver) (quiet : wire.forward = []) (raw : List UInt8) :
    ∃ later after pause, Turn .b now (receiver.receiveFrame now raw).1 wire later after pause ∧
      after.forward = [] ∧ Settled now later pause := by
  have met_after {later : Receiver Rat} : Met { later with phase := later.waitingPhase } := by
    simp only [Met, waitingPhase]
    split <;> simp
  have answered (wire : Wire) (quiet : wire.forward = []) :
      (wire.wrote [Signal.byte .acknowledge] .b).forward = [] := quiet
  cases decoded : Frame.decode receiver.setup.mode raw with
  | error error =>
      simp only [receiveFrame, decoded]
      exact ⟨_, _, _, turn_drain rfl (receiver.setup.policy.lt_add_handshakeTimeout _), rfl,
        .rests (receiver.setup.policy.lt_add_purgeTimeout _) (.draining met rfl)⟩
  | ok block =>
      simp only [receiveFrame, decoded, receiveBlock]
      split
      · simp only [accept]
        split
        · obtain ⟨later, pause, turn, settled⟩ :=
            settles_between now met_after (answered wire quiet)
          exact ⟨later, _, pause, .write rfl turn, quiet, settled⟩
        · exact settles_abort quiet _
      · split
        · have again : Met { receiver with metrics := receiver.metrics.repeated } := met
          obtain ⟨later, pause, turn, settled⟩ :=
            settles_between now again (answered wire quiet)
          exact ⟨later, _, pause, .write rfl turn, quiet, settled⟩
        · exact settles_abort quiet _

/-- How many silent waits a receiver still bears. -/
def patience (receiver : Receiver Rat) : Nat :=
  receiver.setup.policy.maxHandshakeAttempts -
    if receiver.phase = .awaitingStart then receiver.handshakeAttempts else receiver.idlePeriods

/-- How many silent waits lie before a receiver at most; one more when it first refuses a frame. -/
def rank (receiver : Receiver Rat) : Nat :=
  2 * receiver.patience + match receiver.activity with
    | .draining _ => 1
    | _ => 0

theorem settles_idle (now : Rat) (idleness : Idleness) (met : Met receiver)
    (quiet : wire.forward = []) :
    ∃ later pause, Turn .b now (receiver.idle now idleness).1 wire later wire pause ∧
      Settled now later pause ∧
      (pause = .ended ∨ later.rank < 2 * receiver.patience) := by
  have started : receiver.phase ≠ .awaitingStart := by
    rcases met with phase_eq | phase_eq <;> simp [phase_eq]
  rcases Nat.lt_or_ge (receiver.idlePeriods + 1) receiver.setup.policy.maxHandshakeAttempts with
    patient | last
  · refine ⟨_, _, turn_idle met patient quiet, settled_listen now met, .inr ?_⟩
    simp only [rank, patience, listen, started, if_false]
    omega
  · exact ⟨_, _, turn_desert last, .failed (failed_abort _), .inl rfl⟩

theorem settles_reject (now : Rat) (met : Met receiver) (quiet : wire.forward = []) :
    ∃ later after pause, Turn .b now receiver.reject.1 wire later after pause ∧
      after.forward = [] ∧ Settled now later pause ∧ later.rank = 2 * receiver.patience := by
  have quiet_after : (wire.wrote [Signal.byte .negativeAcknowledge] .b).forward = [] := quiet
  exact ⟨_, _, _, .write rfl (turn_listen met quiet_after), quiet, settled_listen now met, rfl⟩

theorem settles_call (now : Rat) (calls : receiver.phase = .awaitingStart)
    (quiet : wire.forward = []) :
    ∃ later after pause, Turn .b now (receiver.heardNothing now).1 wire later after pause ∧
      after.forward = [] ∧ Settled now later pause ∧
      (pause = .ended ∨ later.rank < 2 * receiver.patience) := by
  rcases Nat.lt_or_ge (receiver.handshakeAttempts + 1)
    receiver.setup.policy.maxHandshakeAttempts with patient | last
  · refine ⟨_, _, _, turn_uncalled calls patient quiet, quiet,
      .rests (receiver.setup.policy.lt_add_handshakeTimeout now) (.calling calls rfl), .inr ?_⟩
    simp only [rank, patience, listen, calls, if_true]
    omega
  · exact ⟨_, _, _, turn_unheard calls last, quiet, .failed (failed_abort _), .inl rfl⟩

theorem settles_heardNothing (waits : receiver.phase = .awaitingStart ∨ Met receiver) (now : Rat)
    (quiet : wire.forward = []) :
    ∃ later after pause, Turn .b now (receiver.heardNothing now).1 wire later after pause ∧
      after.forward = [] ∧ Settled now later pause ∧
      (pause = .ended ∨ later.rank < 2 * receiver.patience) := by
  rcases waits with calls | met
  · exact settles_call now calls quiet
  · have started : receiver.phase ≠ .awaitingStart := by
      rcases met with phase_eq | phase_eq <;> simp [phase_eq]
    obtain ⟨later, pause, turn, settled, progress⟩ := settles_idle now .noBlock met quiet
    simp only [heardNothing, started, if_false]
    exact ⟨later, wire, pause, turn, quiet, settled, progress⟩

/-- A silent line settles a receiver that rests, and brings it closer to giving up. -/
theorem settles_silence (rests : Rests deadline receiver) (now : Rat) (quiet : wire.forward = []) :
    ∃ later after pause, Turn .b now (receiver.next now .silence).1 wire later after pause ∧
      after.forward = [] ∧ Settled now later pause ∧
      (pause = .ended ∨ later.rank < receiver.rank) := by
  cases rests with
  | calling calls listens =>
      rw [next_listening_silence listens]
      simpa only [rank, listens, Nat.add_zero] using settles_heardNothing (.inl calls) now quiet
  | listening met listens =>
      rw [next_listening_silence listens]
      simpa only [rank, listens, Nat.add_zero] using settles_heardNothing (.inr met) now quiet
  | @collecting raw met collects =>
      obtain ⟨later, pause, turn, settled, progress⟩ :=
        settles_idle now (.partialFrame raw.size) met quiet
      rw [next_collecting_silence collects]
      simp only [rank, collects, Nat.add_zero]
      exact ⟨later, wire, pause, turn, quiet, settled, progress⟩
  | draining met drains =>
      obtain ⟨later, after, pause, turn, quiet_after, settled, rank_eq⟩ :=
        settles_reject now met quiet
      rw [next_draining_silence drains]
      refine ⟨later, after, pause, turn, quiet_after, settled, .inr ?_⟩
      rw [rank_eq]
      simp only [rank, drains]
      omega

theorem heard_of_noise {value : UInt8} (noise : value ∉ announcements) :
    (receiver.heard now value).1 = receiver := by
  unfold heard
  split
  all_goals first
    | rfl
    | rename_i kind_eq
      rw [← PacketKind.leadingByte_of_ofLeadingByte? kind_eq] at noise
      exact absurd noise (by decide)

/-- After noise a receiver that waits for a packet settles, also when its wait has ended. -/
theorem settles_noise (waits : receiver.phase = .awaitingStart ∨ Met receiver)
    (listens : receiver.activity = .listening deadline) (now : Rat) (quiet : wire.forward = []) :
    ∃ later after pause, Turn .b now receiver wire later after pause ∧
      after.forward = [] ∧ Settled now later pause := by
  have rests : Rests deadline receiver := by
    rcases waits with calls | met
    · exact .calling calls listens
    · exact .listening met listens
  rcases lt_or_ge now deadline with early | past
  · exact ⟨_, _, _, turn_listening listens early quiet, quiet, .rests early rests⟩
  · obtain ⟨later, after, pause, turn, quiet_after, settled, _⟩ :=
      settles_silence rests now quiet
    exact ⟨later, after, pause, turn_overdue listens past turn, quiet_after, settled⟩

theorem settles_heard (waits : receiver.phase = .awaitingStart ∨ Met receiver)
    (listens : receiver.activity = .listening deadline) (now : Rat) (quiet : wire.forward = [])
    {value : UInt8} (no_frame : value ≠ startOfBlock)
    (no_end : value ≠ Signal.byte .endOfTransmission) :
    ∃ later after pause, Turn .b now (receiver.heard now value).1 wire later after pause ∧
      after.forward = [] ∧ Settled now later pause := by
  by_cases cancels : value = Signal.byte .cancel
  · subst cancels
    exact ⟨_, _, _, .stop rfl, quiet, .failed ⟨_, rfl⟩⟩
  · have noise : value ∉ announcements := by
      simp [announcements, no_frame, no_end, cancels]
    rw [heard_of_noise noise]
    exact settles_noise waits listens now quiet

theorem settles_byte (rests : Rests deadline receiver) (now : Rat) (quiet : wire.forward = [])
    {value : UInt8} (no_frame : value ≠ startOfBlock)
    (no_end : value ≠ Signal.byte .endOfTransmission) :
    ∃ later after pause, Turn .b now (receiver.next now (.byte value)).1 wire later after pause ∧
      after.forward = [] ∧ Settled now later pause := by
  cases rests with
  | calling calls listens =>
      rw [next_listening_byte listens]
      exact settles_heard (.inl calls) listens now quiet no_frame no_end
  | listening met listens =>
      rw [next_listening_byte listens]
      exact settles_heard (.inr met) listens now quiet no_frame no_end
  | @collecting raw met collects =>
      rw [next_collecting_byte collects]
      simp only [collect]
      split
      · exact ⟨_, _, _, .block rfl quiet rfl, quiet,
          .rests (receiver.setup.policy.lt_add_byteTimeout _) (.collecting met rfl)⟩
      · exact settles_frame met quiet _
  | @draining limit met drains =>
      rw [next_draining_byte drains]
      rcases lt_or_ge now limit with early | past
      · exact ⟨_, _, _, turn_drain drains early, rfl,
          .rests (receiver.setup.policy.lt_add_purgeTimeout _) (.draining met drains)⟩
      · have quiet_after : (wire.wrote [Signal.byte .negativeAcknowledge] .b).forward = [] := quiet
        have waits : Turn .b now (receiver.listen now) _ (receiver.listen now) _ _ :=
          turn_listening rfl (receiver.setup.policy.lt_add_handshakeTimeout _) quiet_after
        exact ⟨_, _, _, turn_undrained met drains past waits, quiet, settled_listen now met⟩

end Receiver
end Xmodem
