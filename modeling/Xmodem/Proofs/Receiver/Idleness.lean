import Mathlib.Data.List.Induction
import Xmodem.Proofs.Receiver.Closing
import Xmodem.Proofs.Receiver.Hearing

/-!
# Idle periods

A receiver counts the idle periods since the last packet began, and gives up at the last one that
its policy bears.  They are the idle periods since the last message, as long as no frame begins
after one of them without being completed.  Otherwise there may be more of those: a sender that
begins one frame after the other, and completes none, is borne for ever.
-/

namespace Xmodem
namespace Receiver

/-- Whether no frame began after an idle period, unless a message followed. -/
def Steady (mode : ChecksumMode) (signs : List Sign) : Prop :=
  ∀ before after, signs = before ++ .heard startOfBlock :: after →
    (hearing mode before).attention = .packet →
      (hearing mode before).lapses = 0 ∨
        (hearing mode before).messages.length < (hearing mode signs).messages.length

/-- What the two counts of idle periods have to do with each other. -/
structure Hearing.Counts (hearing : Hearing) : Prop where
  recent_le : hearing.recent ≤ hearing.lapses
  fresh : ∀ raw, hearing.attention = .frame raw → hearing.recent = 0

section Counting

variable {mode : ChecksumMode} {signs : List Sign} {sign : Sign}

theorem Hearing.Counts.note {hearing : Hearing} (counts : hearing.Counts) (mode : ChecksumMode)
    (sign : Sign) : (hearing.note mode sign).Counts := by
  have notes := hearing.notes_note mode sign
  generalize hearing.note mode sign = later at notes ⊢
  cases notes with
  | keep _ _ lapses_eq recent_eq collecting =>
      constructor
      · rw [lapses_eq, recent_eq]
        exact counts.recent_le
      · intro raw collects
        obtain ⟨before, collects⟩ := collecting raw collects
        exact recent_eq.trans (counts.fresh before collects)
  | begin _ => exact ⟨Nat.zero_le _, fun _ _ => rfl⟩
  | finish _ => exact ⟨Nat.le_refl _, fun _ _ => rfl⟩
  | complete collects =>
      have none_yet := counts.fresh _ collects
      exact ⟨Nat.le_of_eq none_yet, fun _ _ => none_yet⟩
  | idle _ => exact ⟨Nat.succ_le_succ counts.recent_le, nofun⟩

theorem counts_hearing (mode : ChecksumMode) (signs : List Sign) :
    (hearing mode signs).Counts := by
  induction signs using List.reverseRecOn with
  | nil => exact ⟨Nat.le_refl _, nofun⟩
  | append_singleton signs sign induction =>
      rw [hearing_append_singleton]
      exact induction.note mode sign

/-- A sign that is no message may be taken back. -/
theorem Steady.of_append (steady : Steady mode (signs ++ [sign]))
    (same : (hearing mode (signs ++ [sign])).messages = (hearing mode signs).messages) :
    Steady mode signs := by
  rintro before after rfl attentive
  rw [← same]
  exact steady before (after ++ [sign]) (by simp) attentive

/-- When every frame that began after an idle period led to a message, all idle periods since the
last message are recent. -/
theorem Steady.recent_eq (steady : Steady mode signs) :
    (hearing mode signs).recent = (hearing mode signs).lapses := by
  induction signs using List.reverseRecOn with
  | nil => rfl
  | append_singleton signs sign induction =>
      have counts := counts_hearing mode signs
      have notes := (hearing mode signs).notes_note mode sign
      have shorter := steady.of_append
      have latest := steady signs []
      rw [hearing_append_singleton] at shorter latest ⊢
      generalize (hearing mode signs).note mode sign = later at notes shorter latest ⊢
      cases notes with
      | keep _ messages_eq lapses_eq recent_eq _ =>
          rw [lapses_eq, recent_eq]
          exact induction (shorter messages_eq)
      | begin attentive =>
          obtain none_yet | more := latest rfl attentive
          · exact none_yet.symm
          · exact absurd more (Nat.lt_irrefl _)
      | finish _ => rfl
      | complete collects => exact counts.fresh _ collects
      | idle _ => exact congrArg (· + 1) (induction (shorter rfl))

/-- Only the end of an idle period adds to the recent ones. -/
theorem recent_note_le (hearing : Hearing) (other : sign ≠ .silence) :
    (hearing.note mode sign).recent ≤ hearing.recent := by
  have notes := hearing.notes_note mode sign
  generalize hearing.note mode sign = later at notes ⊢
  cases notes with
  | keep _ _ _ recent_eq _ => exact Nat.le_of_eq recent_eq
  | begin _ | finish _ => exact Nat.zero_le _
  | complete _ => exact Nat.le_refl _
  | idle _ => exact absurd rfl other

end Counting

variable {τ : Type} [Quantity τ]

/-- Whether a receiver that bears some number of idle periods has not met as many of them, or gave
up at the last one. -/
inductive Patient (limit : Nat) (receiver : Receiver τ) : Prop
  | bears :
      receiver.idlePeriods < limit → receiver.abortReason? ≠ some .timedOut →
      Patient limit receiver
  | gaveUp {stored transferred : Nat} :
      receiver.idlePeriods = limit →
      receiver.activity = .ended (.error ⟨.senderSilent stored, transferred⟩) →
      Patient limit receiver

/-- How a receiver counts the idle periods that it meets. -/
structure Patience (setup : Setup τ) (signs : List Sign) (receiver : Receiver τ) : Prop where
  /-- It counts those since the last packet began. -/
  counted : receiver.idlePeriods = (hearing setup.mode signs).recent
  /-- It does not meet more than its policy bears. -/
  bounded : receiver.idlePeriods ≤ setup.policy.maxHandshakeAttempts
  /-- It gives up at the last one. -/
  gives_up_iff : (∃ failure, receiver.outcome? = some (.error failure) ∧
      failure.reason = .timedOut) ↔
    receiver.idlePeriods = setup.policy.maxHandshakeAttempts
  /-- There are no fewer since the last message. -/
  recent_le : receiver.idlePeriods ≤ (hearing setup.mode signs).lapses
  /-- There are as many, if every frame that began after one of them led to a message. -/
  exact_of_steady : Steady setup.mode signs →
    receiver.idlePeriods = (hearing setup.mode signs).lapses

section Reactions

variable {setup : Setup τ} {initial : Destination} {receiver : Receiver τ} {begun now : τ}
  {moments : List (Moment (Receiver τ) τ)}

theorem patient_idle (setup_eq : receiver.setup = setup)
    (early : receiver.idlePeriods < setup.policy.maxHandshakeAttempts) (idleness : Idleness) :
    Patient setup.policy.maxHandshakeAttempts (receiver.idle now idleness).1 := by
  rw [← setup_eq] at early ⊢
  obtain ⟨left, becomes⟩ | ⟨last, becomes⟩ := receiver.idle_cases now idleness
  · rw [becomes]
    exact .bears left nofun
  · rw [becomes]
    exact .gaveUp (Nat.le_antisymm early last) rfl

theorem patient_silence {result : Receiver τ × List (Event τ)} (setup_eq : receiver.setup = setup)
    (early : receiver.idlePeriods < setup.policy.maxHandshakeAttempts)
    (reacts : Reacts receiver now (some .silence) result) :
    Patient setup.policy.maxHandshakeAttempts result.1 := by
  cases reacts with
  | expire listens =>
      by_cases calls : receiver.phase = .awaitingStart
      · have same : (receiver.heardNothing now).1.idlePeriods = receiver.idlePeriods := by
          obtain ⟨_, becomes⟩ | ⟨_, becomes⟩ := receiver.heardNothing_cases now calls
          · rw [becomes]
            rfl
          · rw [becomes]
            rfl
        refine .bears (same ▸ early) ?_
        rw [abortReason?_heardNothing_calling calls]
        split <;> exact nofun
      · have idles : receiver.heardNothing now = receiver.idle now .noBlock := if_neg calls
        rw [idles]
        exact patient_idle setup_eq early .noBlock
  | starve _ => exact patient_idle setup_eq early _
  | reject _ => exact .bears early nofun

theorem patient_of_converses (talks : Converses (start setup initial begun) moments receiver) :
    Patient setup.policy.maxHandshakeAttempts receiver := by
  induction talks with
  | silent => exact .bears setup.policy.maxHandshakeAttempts_pos nofun
  | @step moments moment talks valid induction =>
      have reacts := reacts_of_valid valid
      have hears := hears_of_converses talks
      have hears_after := hears_of_converses (talks.step valid)
      obtain ⟨course, _, stands⟩ := exists_treads talks
      rw [transcript_append, transcript_singleton] at hears_after
      cases induction with
      | gaveUp _ ended => exact absurd reacts (Reacts.not_of_ended ended)
      | bears early going =>
          by_cases silent : moment.sign? waits = some .silence
          · rw [silent] at reacts
            exact patient_silence stands.keeps.setup_eq early reacts
          refine .bears ?_ ?_
          · rw [hears_after.recent_eq]
            refine Nat.lt_of_le_of_lt ?_ (hears.recent_eq ▸ early)
            cases shown : moment.sign? waits with
            | none => simp
            | some sign =>
                rw [Option.toList_some, hearing_append_singleton]
                exact recent_note_le _ (fun same => silent (same ▸ shown))
          · intro gave_up
            obtain before | ⟨shown, same, gives_up⟩ := reacts.gives_up gave_up
            · exact going before
            · cases gives_up with
              | idle _ _ => exact silent same

end Reactions

/-- Whatever the line does, a receiver counts the idle periods since the last packet began, and
gives up at the last one that its policy bears. -/
theorem patience_of_converses {setup : Setup τ} {initial : Destination} {begun : τ}
    {moments : List (Moment (Receiver τ) τ)} {receiver : Receiver τ}
    (talks : Converses (start setup initial begun) moments receiver) :
    Patience setup (transcript waits moments) receiver := by
  have hears := hears_of_converses talks
  have counts := counts_hearing setup.mode (transcript waits moments)
  have patient := patient_of_converses talks
  refine ⟨hears.recent_eq, ?_, ?_, ?_, ?_⟩
  · cases patient with
    | bears early _ => exact Nat.le_of_lt early
    | gaveUp last _ => exact Nat.le_of_eq last
  · cases patient with
    | bears early going =>
        refine iff_of_false ?_ (Nat.ne_of_lt early)
        rintro ⟨failure, ended, reason⟩
        rw [outcome?_eq_some_iff] at ended
        exact going (by rw [abortReason?, ended, ← reason])
    | gaveUp last ended =>
        exact iff_of_true ⟨_, outcome?_eq_some_iff.mpr ended, rfl⟩ last
  · rw [hears.recent_eq]
    exact counts.recent_le
  · intro steady
    rw [hears.recent_eq]
    exact steady.recent_eq

/-- A sender falls silent after one block, begins one more frame, and falls silent again.  Of the
three idle periods since the block, two count. -/
theorem patience_of_partial_frame :
    let setup : Setup Rat := ⟨.brief, .additive, none, false⟩
    ∃ moments receiver,
      Converses (start setup (.filled 3 0) 0) moments receiver ∧
      receiver.outcome? = some (.error ⟨.senderSilent 3, 3⟩) ∧ receiver.idlePeriods = 2 ∧
      (hearing setup.mode (transcript waits moments)).lapses = 3 ∧
      Patience setup (transcript waits moments) receiver := by
  intro setup
  let frame := Frame.encode .additive (Packets.block [1, 2, 3] 0)
  let line : ScriptedLine Rat :=
    ⟨frame.map .byte ++ [.silence, .byte startOfBlock, .silence, .silence], none, [], 0⟩
  let run := Run.mk (start setup (.filled 3 0) 0) line 0 []
  have ends : (run.talk 400).2.session.outcome? = some (.error ⟨.senderSilent 3, 3⟩) ∧
      (run.talk 400).2.session.idlePeriods = 2 ∧
      (hearing setup.mode (transcript waits (run.talk 400).1)).lapses = 3 := by
    decide +kernel
  have talks := run.converses_talk 400
  exact ⟨_, _, talks, ends.1, ends.2.1, ends.2.2, patience_of_converses talks⟩

/-- A sender begins two frames and completes neither.  There are as many idle periods since the last
message as the policy bears, but the receiver counts one, goes on, and completes the transfer. -/
theorem partial_frames_outlast_policy :
    let setup : Setup Rat := ⟨.brief, .additive, none, false⟩
    ∃ moments receiver more later,
      Converses (start setup (.filled 3 0) 0) moments receiver ∧
      (hearing setup.mode (transcript waits moments)).lapses =
        setup.policy.maxHandshakeAttempts ∧
      receiver.idlePeriods = 1 ∧ receiver.outcome? = none ∧
      Converses receiver more later ∧ later.outcome? = some (.ok 3) := by
  intro setup
  let frame := Frame.encode .additive (Packets.block [1, 2, 3] 0)
  let line : ScriptedLine Rat :=
    ⟨[.byte startOfBlock, .silence, .byte startOfBlock, .silence] ++ frame.map .byte ++
      [.byte (Signal.byte .endOfTransmission)], none, [], 0⟩
  let run := Run.mk (start setup (.filled 3 0) 0) line 0 []
  let after := (run.talk 8).2
  have lapses : (hearing setup.mode (transcript waits (run.talk 8).1)).lapses =
      setup.policy.maxHandshakeAttempts := by
    decide +kernel
  have counted : after.session.idlePeriods = 1 ∧ after.session.outcome? = none := by
    decide +kernel
  have completes : (after.talk 400).2.session.outcome? = some (.ok 3) := by
    decide +kernel
  exact ⟨_, _, _, _, run.converses_talk 8, lapses, counted.1, counted.2,
    after.converses_talk 400, completes⟩

end Receiver
end Xmodem
