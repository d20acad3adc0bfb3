import Xmodem.Proofs.Closing
import Xmodem.Proofs.Sender.Stages

/-!
# How senders end

Whatever the line does, a sender keeps its phase, its outcome, and its metrics in agreement, and
blames the line exactly when a call failed.
-/

namespace Xmodem
namespace Sender

variable {τ : Type} [Quantity τ]

/-- Why a sender gave up, if it did. -/
def abortReason? (sender : Sender τ) : Option AbortReason :=
  match sender.activity with
  | .writing (.cancel cause) => some cause.reason
  | .ended (.error failure) => some failure.reason
  | _ => none

/-- What a sender shows of its ending. -/
def account (sender : Sender τ) : Account where
  completed := sender.phase = .completed
  aborted := sender.phase = .aborted
  reason? := sender.abortReason?
  transferred := sender.cursor
  counted := sender.metrics.bytes
  timed := sender.metrics.finish.isSome

/-- When a sender comes to give up, and why. -/
inductive GivesUp (sender : Sender τ) : Sign → AbortReason → Prop
  | unanswered :
      sender.phase = .awaitingStart →
      sender.policy.maxHandshakeAttempts ≤ sender.handshakeAttempts + 1 →
      GivesUp sender .silence .noReceiver
  | spent {sign : Sign} :
      Failure sign → sender.phase ≠ .awaitingStart → sender.policy.maxRetries ≤ sender.attempts →
      GivesUp sender sign .tooManyRetries
  | canceled : GivesUp sender (.heard (Signal.byte .cancel)) .canceledByPeer
  | failed {sign : Sign} : sign.Fails → GivesUp sender sign .underlyingIoError

/-- What a sender does within a step, as long as it does not give up. -/
inductive Busy : Activity τ → Prop
  | listening (deadline : τ) : Busy (.listening deadline)
  | writing {purpose : Writing} : (∀ cause, purpose ≠ .cancel cause) → Busy (.writing purpose)

/-- How a sender that has begun may stand after some signs. -/
inductive Stands (signs : List Sign) (sender : Sender τ) : Prop
  | resting : sender.phase ≠ .aborted → sender.activity = .between → Intact signs →
      Stands signs sender
  | busy : sender.phase.finished = false → Busy sender.activity → Intact signs →
      Stands signs sender
  | canceling {cause : AbortCause} : sender.phase = .aborted →
      sender.activity = .writing (.cancel cause) → cause.reason ≠ .underlyingIoError →
      Intact signs → Stands signs sender
  | completed : sender.phase = .completed → sender.activity = .ended (.ok sender.cursor) →
      sender.metrics.bytes = sender.cursor → sender.metrics.finish.isSome → Intact signs →
      Stands signs sender
  | aborted {cause : AbortCause} : sender.phase = .aborted →
      sender.activity = .ended (.error ⟨cause, sender.cursor⟩) → sender.metrics.finish.isSome →
      Blames signs cause → Stands signs sender

section Reactions

variable {signs : List Sign} {sign : Option Sign} {sender after : Sender τ} {now : τ}

theorem ne_aborted_of_unfinished (unfinished : sender.phase.finished = false) :
    sender.phase ≠ .aborted := by
  intro phase_eq
  simp [phase_eq, SendPhase.finished] at unfinished

theorem stands_abort (intact : Intact signs) {cause : AbortCause}
    (innocent : cause.reason ≠ .underlyingIoError) : Stands signs (sender.abort now cause).1 :=
  .aborted rfl rfl rfl (.inl ⟨innocent, intact⟩)

theorem stands_break (intact : Intact signs) {sign : Sign} (fails : sign.Fails)
    (message : String) : Stands (signs ++ [sign]) (sender.abort now (.lineFault message)).1 :=
  .aborted rfl rfl rfl (.inr ⟨rfl, intact.failed_append fails⟩)

theorem stands_endStep (intact : Intact signs) (lasts : sender.phase ≠ .aborted) :
    Stands signs sender.endStep.1 :=
  .resting lasts rfl intact

theorem nextPhase_ne_aborted (sender : Sender τ) : sender.nextPhase ≠ .aborted := by
  unfold nextPhase
  split <;> exact nofun

theorem stands_retry (intact : Intact signs) (unfinished : sender.phase.finished = false)
    (metrics : Metrics τ) (trigger : RetryTrigger) :
    Stands signs ({ sender with metrics := metrics }.retry trigger).1 := by
  unfold retry
  split
  · exact .canceling rfl rfl nofun intact
  · exact .busy unfinished (.writing nofun) intact

theorem stands_acknowledged (intact : Intact signs) : Stands signs sender.acknowledged.1 := by
  by_cases ends : sender.phase = .awaitingEotAck
  · rw [acknowledged_of_last ends]
    exact stands_endStep intact nofun
  · rw [acknowledged_of_block ends]
    exact .resting (nextPhase_ne_aborted _) rfl intact

theorem stands_heardAtStart (intact : Intact signs) (unfinished : sender.phase.finished = false)
    (busy : Busy sender.activity) (value : UInt8) :
    Stands signs (sender.heardAtStart now value).1 := by
  unfold heardAtStart
  split
  case h_1 | h_2 => exact stands_endStep intact sender.nextPhase_ne_aborted
  case h_3 => exact stands_abort intact nofun
  case h_4 => exact .busy unfinished busy intact

theorem stands_heardReply (intact : Intact signs) (unfinished : sender.phase.finished = false)
    (busy : Busy sender.activity) (value : UInt8) :
    Stands signs (sender.heardReply now value).1 := by
  unfold heardReply
  split
  case h_1 => exact stands_acknowledged intact
  case h_2 => exact stands_retry intact unfinished _ .nak
  case h_3 => exact stands_abort intact nofun
  case h_4 => exact .busy unfinished busy intact

theorem stands_heard (intact : Intact signs) (unfinished : sender.phase.finished = false)
    (busy : Busy sender.activity) (value : UInt8) : Stands signs (sender.heard now value).1 := by
  unfold heard
  split
  · exact stands_heardAtStart intact unfinished busy value
  · exact stands_heardReply intact unfinished busy value

theorem stands_heardNothing (intact : Intact signs) (unfinished : sender.phase.finished = false) :
    Stands signs (sender.heardNothing now).1 := by
  by_cases calls : sender.phase = .awaitingStart
  · obtain ⟨-, becomes⟩ | ⟨-, becomes⟩ := sender.heardNothing_cases now calls
    · rw [becomes]
      have lasts : sender.uncalled.phase ≠ .aborted := ne_aborted_of_unfinished unfinished
      exact stands_endStep intact lasts
    · rw [becomes]
      exact stands_abort intact nofun
  · rw [heardNothing_eq_retry now calls]
    exact stands_retry intact unfinished _ .timeout

theorem stands_beginStep (intact : Intact signs) (lasts : sender.phase ≠ .aborted) :
    Stands signs (sender.beginStep now).1 := by
  unfold beginStep
  split
  case h_1 phase_eq => exact .busy (congrArg SendPhase.finished phase_eq) (.listening _) intact
  case h_2 phase_eq => exact .busy (congrArg SendPhase.finished phase_eq) (.writing nofun) intact
  case h_3 phase_eq => exact .busy (congrArg SendPhase.finished phase_eq) (.writing nofun) intact
  case h_4 phase_eq => exact .busy (congrArg SendPhase.finished phase_eq) (.listening _) intact
  case h_5 phase_eq => exact .busy (congrArg SendPhase.finished phase_eq) (.listening _) intact
  case h_6 phase_eq => exact .completed phase_eq rfl rfl rfl intact
  case h_7 phase_eq => exact absurd phase_eq lasts

theorem stands_wrote (intact : Intact signs) (lasts : sender.phase ≠ .aborted) {purpose : Writing}
    (goes_on : ∀ cause, purpose ≠ .cancel cause) : Stands signs (sender.wrote now purpose).1 := by
  cases purpose with
  | first =>
      by_cases sends : sender.phase = .sendingBlock
      · simp only [wrote, sends, if_true]
        exact stands_endStep intact (by simp)
      · simp only [wrote, sends, if_false]
        exact stands_endStep intact (by simp)
  | again => exact stands_endStep intact lasts
  | cancel cause => exact absurd rfl (goes_on cause)

/-- A failure while writing ends a sender that was in agreement. -/
theorem stands_of_writing {purpose : Writing} (intact : Intact signs)
    (writes : sender.activity = .writing purpose)
    (written : ∀ signs, Intact signs → Stands signs (sender.wrote now purpose).1)
    (reacts : Reacts sender now sign after) : Stands (signs ++ sign.toList) after := by
  cases reacts with
  | write other =>
      obtain rfl := Activity.writing.inj (writes.symm.trans other)
      exact written _ (intact.append id)
  | spoil fault _ => exact stands_break intact (Sign.fails_spoiled _) _
  | wake other | begin other | hear _ other | expire other | «break» _ other =>
      exact absurd (writes.symm.trans other) nofun

theorem stands_of_listening {deadline : τ} (intact : Intact signs)
    (unfinished : sender.phase.finished = false)
    (listens : sender.activity = .listening deadline) (reacts : Reacts sender now sign after) :
    Stands (signs ++ sign.toList) after := by
  have busy : Busy sender.activity := listens ▸ .listening deadline
  cases reacts with
  | hear value _ => exact stands_heard (intact.append id) unfinished busy value
  | expire _ => exact stands_heardNothing (intact.append id) unfinished
  | «break» fault _ => exact stands_break intact Sign.fails_broken _
  | wake other | begin other | write other | spoil _ other =>
      exact absurd (listens.symm.trans other) nofun

theorem Stands.react (stands : Stands signs sender) (reacts : Reacts sender now sign after) :
    Stands (signs ++ sign.toList) after := by
  cases stands with
  | resting lasts between intact =>
      obtain ⟨rfl, rfl⟩ := reacts.of_between between
      rw [Option.toList_none, List.append_nil]
      exact stands_beginStep intact lasts
  | busy unfinished busy intact =>
      generalize doing : sender.activity = activity at busy
      cases busy with
      | listening => exact stands_of_listening intact unfinished doing reacts
      | writing goes_on =>
          refine stands_of_writing intact doing (fun _ intact => ?_) reacts
          exact stands_wrote intact (ne_aborted_of_unfinished unfinished) goes_on
  | canceling gave_up writes innocent intact =>
      refine stands_of_writing intact writes (fun _ intact => ?_) reacts
      exact .aborted gave_up rfl rfl (.inl ⟨innocent, intact⟩)
  | completed _ ended _ _ _ => exact absurd reacts (Reacts.not_of_ended ended)
  | aborted _ ended _ _ => exact absurd reacts (Reacts.not_of_ended ended)

end Reactions

theorem stands_of_converses {policy : RetryPolicy τ} {source : List UInt8} {now : τ}
    {moments : List (Moment (Sender τ) τ)} {sender : Sender τ}
    (talks : Converses (start policy source now) moments sender) :
    moments = [] ∧ sender = start policy source now ∨
      Stands (transcript waits moments) sender := by
  induction talks with
  | silent => exact .inl ⟨rfl, rfl⟩
  | @step moments moment _ valid induction =>
      have reacts := reacts_of_valid valid
      rw [transcript_append, transcript_singleton]
      obtain ⟨rfl, fresh⟩ | stands := induction
      · right
        rw [fresh] at reacts
        generalize moment.sign? waits = sign at reacts ⊢
        generalize moment.after = after at reacts ⊢
        cases reacts with
        | wake _ => exact .resting nofun rfl intact_nil
        | begin other | hear _ other | expire other | «break» _ other | write other
        | spoil _ other => exact absurd other nofun
      · exact .inr (stands.react reacts)

section Reasons

variable {sign : Option Sign} {sender after : Sender τ} {now : τ} {reason : AbortReason}

theorem abortReason?_eq_none (going : ∀ outcome, sender.activity ≠ .ended outcome)
    (silent : ∀ cause, sender.activity ≠ .writing (.cancel cause)) :
    sender.abortReason? = none := by
  unfold abortReason?
  split
  · rename_i cause writes
    exact absurd writes (silent cause)
  · rename_i failure ended
    exact absurd ended (going _)
  · rfl

theorem abortReason?_beginStep (between : sender.activity = .between) :
    (sender.beginStep now).1.abortReason? = none := by
  unfold beginStep
  split
  case h_7 => exact abortReason?_eq_none (by simp [between]) (by simp [between])
  all_goals rfl

theorem abortReason?_wrote {purpose : Writing} (writes : sender.activity = .writing purpose) :
    (sender.wrote now purpose).1.abortReason? = sender.abortReason? := by
  cases purpose with
  | first =>
      have going : sender.abortReason? = none :=
        abortReason?_eq_none (by simp [writes]) (by simp [writes])
      rw [going]
      by_cases sends : sender.phase = .sendingBlock
      · simp only [wrote, sends, if_true]
        rfl
      · simp only [wrote, sends, if_false]
        rfl
  | again =>
      have going : sender.abortReason? = none :=
        abortReason?_eq_none (by simp [writes]) (by simp [writes])
      rw [going]
      rfl
  | cancel cause =>
      unfold abortReason?
      rw [writes]
      rfl

theorem GivesUp.of_retry (begun : sender.phase ≠ .awaitingStart) {metrics : Metrics τ}
    {trigger : RetryTrigger} {shown : Sign} (failure : Failure shown)
    (gave_up : ({ sender with metrics := metrics }.retry trigger).1.abortReason? = some reason) :
    GivesUp sender shown reason := by
  obtain ⟨-, becomes⟩ | ⟨least, becomes⟩ := { sender with metrics := metrics }.retry_cases trigger
  · rw [becomes] at gave_up
    cases gave_up
  · rw [becomes] at gave_up
    obtain rfl : AbortReason.tooManyRetries = reason := Option.some.inj gave_up
    exact .spent failure begun least

theorem GivesUp.of_heard {deadline : τ} (listens : sender.activity = .listening deadline)
    {value : UInt8} (gave_up : (sender.heard now value).1.abortReason? = some reason) :
    GivesUp sender (.heard value) reason := by
  have going : sender.abortReason? = none :=
    abortReason?_eq_none (by simp [listens]) (by simp [listens])
  unfold heard at gave_up
  split at gave_up
  · unfold heardAtStart at gave_up
    split at gave_up
    case h_1 | h_2 => exact absurd gave_up nofun
    case h_3 kind =>
      obtain rfl := PacketKind.leadingByte_of_ofLeadingByte? kind
      obtain rfl : AbortReason.canceledByPeer = reason := Option.some.inj gave_up
      exact .canceled
    case h_4 => exact absurd (going.symm.trans gave_up) nofun
  · rename_i begun
    unfold heardReply at gave_up
    split at gave_up
    case h_1 =>
      by_cases ends : sender.phase = .awaitingEotAck
      · rw [acknowledged_of_last ends] at gave_up
        cases gave_up
      · rw [acknowledged_of_block ends] at gave_up
        cases gave_up
    case h_2 kind =>
      obtain rfl := PacketKind.leadingByte_of_ofLeadingByte? kind
      exact .of_retry begun (.inl rfl) gave_up
    case h_3 kind =>
      obtain rfl := PacketKind.leadingByte_of_ofLeadingByte? kind
      obtain rfl : AbortReason.canceledByPeer = reason := Option.some.inj gave_up
      exact .canceled
    case h_4 => exact absurd (going.symm.trans gave_up) nofun

theorem GivesUp.of_heardNothing
    (gave_up : (sender.heardNothing now).1.abortReason? = some reason) :
    GivesUp sender .silence reason := by
  by_cases calls : sender.phase = .awaitingStart
  · obtain ⟨-, becomes⟩ | ⟨least, becomes⟩ := sender.heardNothing_cases now calls
    · rw [becomes] at gave_up
      cases gave_up
    · rw [becomes] at gave_up
      obtain rfl : AbortReason.noReceiver = reason := Option.some.inj gave_up
      exact .unanswered calls least
  · rw [heardNothing_eq_retry now calls] at gave_up
    exact .of_retry calls (.inr rfl) gave_up

/-- A sender keeps its reason to give up, or comes to one. -/
theorem Reacts.gives_up (reacts : Reacts sender now sign after)
    (gave_up : after.abortReason? = some reason) :
    sender.abortReason? = some reason ∨
      ∃ shown, sign = some shown ∧ GivesUp sender shown reason := by
  cases reacts with
  | wake _ => exact absurd gave_up nofun
  | begin between =>
      rw [abortReason?_beginStep between] at gave_up
      exact absurd gave_up nofun
  | hear value listens => exact .inr ⟨_, rfl, .of_heard listens gave_up⟩
  | expire listens => exact .inr ⟨_, rfl, .of_heardNothing gave_up⟩
  | «break» fault _ =>
      obtain rfl : AbortReason.underlyingIoError = reason := Option.some.inj gave_up
      exact .inr ⟨_, rfl, .failed Sign.fails_broken⟩
  | write writes =>
      rw [abortReason?_wrote writes] at gave_up
      exact .inl gave_up
  | spoil fault _ =>
      obtain rfl : AbortReason.underlyingIoError = reason := Option.some.inj gave_up
      exact .inr ⟨_, rfl, .failed (Sign.fails_spoiled _)⟩

end Reasons

section Standing

variable {signs : List Sign} {sender : Sender τ}

theorem action_eq_stop_iff (sender : Sender τ) (now : τ) :
    sender.action now = .stop ↔ ∃ outcome, sender.outcome? = some outcome := by
  unfold outcome?
  cases doing : sender.activity with
  | ended outcome => simp [action, doing]
  | idle | between => simp [action, doing]
  | writing purpose => simp [action_writing now doing]
  | listening deadline =>
      simp only [action, doing, reduceCtorEq, exists_false, iff_false]
      split <;> simp

theorem outcome?_eq_none (goes_on : ∀ outcome, sender.activity ≠ .ended outcome) :
    sender.outcome? = none := by
  unfold outcome?
  split
  · rename_i outcome ended
    exact absurd ended (goes_on outcome)
  · rfl

omit [Quantity τ] in
theorem Busy.ne_ended {activity : Activity τ} (busy : Busy activity) (outcome : Outcome) :
    activity ≠ .ended outcome := by
  cases busy <;> exact nofun

omit [Quantity τ] in
theorem Busy.ne_idle {activity : Activity τ} (busy : Busy activity) : activity ≠ .idle := by
  cases busy <;> exact nofun

theorem Stands.closes (stands : Stands signs sender) :
    Closes signs sender.account sender.outcome? := by
  cases stands with
  | resting _ between intact =>
      rw [outcome?_eq_none (by simp [between])]
      exact .going intact
  | busy _ busy intact =>
      rw [outcome?_eq_none busy.ne_ended]
      exact .going intact
  | canceling _ writes _ intact =>
      rw [outcome?_eq_none (by simp [writes])]
      exact .going intact
  | completed completes ended counted timed intact =>
      have outcome_eq : sender.outcome? = some (.ok sender.account.transferred) := by
        simp [outcome?, ended, account]
      have unblamed : sender.account.reason? = none := by
        simp [account, abortReason?, ended]
      rw [outcome_eq]
      exact .completed completes unblamed counted timed intact
  | @aborted cause gave_up ended timed blames =>
      have outcome_eq : sender.outcome? = some (.error ⟨cause, sender.account.transferred⟩) := by
        simp [outcome?, ended, account]
      have blamed : sender.account.reason? = some cause.reason := by
        simp [account, abortReason?, ended, Xmodem.Failure.reason]
      rw [outcome_eq]
      exact .aborted gave_up blamed timed blames

theorem Stands.begun (stands : Stands signs sender) : Session.idle sender = false := by
  have begun : sender.activity ≠ .idle := by
    cases stands with
    | busy _ busy _ => exact busy.ne_idle
    | resting _ doing _ | canceling _ doing _ _ | completed _ doing _ _ _ | aborted _ doing _ _ =>
        simp [doing]
  cases doing : sender.activity with
  | idle => exact absurd doing begun
  | between | listening | writing | ended => simp [Session.idle, doing]

theorem contained_of_converses {policy : RetryPolicy τ} {source : List UInt8} {now : τ}
    {moments : List (Moment (Sender τ) τ)}
    (talks : Converses (start policy source now) moments sender) (begun : moments ≠ []) :
    Contained (transcript waits moments) sender.account sender := by
  obtain ⟨fresh, _⟩ | stands := stands_of_converses talks
  · exact absurd fresh begun
  · exact stands.closes.contained sender.action_eq_stop_iff stands.begun

end Standing

end Sender
end Xmodem
