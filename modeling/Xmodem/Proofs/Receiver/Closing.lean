import Xmodem.Proofs.Closing
import Xmodem.Proofs.FrameCodec
import Xmodem.Proofs.Receiver.Stages

/-!
# How receivers end

Whatever the line does, a receiver keeps its phase, its outcome, and its metrics in agreement, blames
the line exactly when a call failed, and never meets a frame that is refused for its length or for
its first byte.
-/

namespace Xmodem

/-- Whether a receiver answers a frame that it refused for some cause. -/
def FrameError.IsDamage : FrameError → Prop
  | malformedNumber _ _ | checksumMismatch _ => True
  | wrongLength _ _ | noStart => False

namespace Receiver

variable {τ : Type} [Quantity τ]

/-- Why a receiver gave up, if it did. -/
def abortReason? (receiver : Receiver τ) : Option AbortReason :=
  match receiver.activity with
  | .writing (.cancel cause) => some cause.reason
  | .ended (.error failure) => some failure.reason
  | _ => none

/-- What a receiver shows of its ending. -/
def account (receiver : Receiver τ) : Account where
  completed := receiver.phase = .completed
  aborted := receiver.phase = .aborted
  reason? := receiver.abortReason?
  transferred := receiver.transferred
  counted := receiver.metrics.bytes
  timed := receiver.metrics.finish.isSome

/-- When a receiver comes to give up, and why. -/
inductive GivesUp (receiver : Receiver τ) : Sign → AbortReason → Prop
  | unanswered {deadline : τ} :
      receiver.activity = .listening deadline → receiver.phase = .awaitingStart →
      receiver.setup.policy.maxHandshakeAttempts ≤ receiver.handshakeAttempts + 1 →
      GivesUp receiver .silence .noSender
  | idle :
      (∃ deadline, receiver.activity = .listening deadline) ∧ receiver.phase ≠ .awaitingStart ∨
        (∃ raw, receiver.activity = .collecting raw) →
      receiver.setup.policy.maxHandshakeAttempts ≤ receiver.idlePeriods + 1 →
      GivesUp receiver .silence .timedOut
  | canceled {deadline : τ} :
      receiver.activity = .listening deadline →
      GivesUp receiver (.heard (Signal.byte .cancel)) .canceledByPeer
  | disorder {raw : Array UInt8} {value : UInt8} {block : Block} :
      receiver.activity = .collecting raw →
      Frame.decode receiver.setup.mode (raw.push value).toList = .ok block →
      block.number ≠ receiver.expectedBlock → receiver.lastAccepted ≠ some block.number →
      GivesUp receiver (.heard value) .outOfSequence
  | overflow {raw : Array UInt8} {value : UInt8} {block : Block} :
      receiver.activity = .collecting raw →
      Frame.decode receiver.setup.mode (raw.push value).toList = .ok block →
      block.number = receiver.expectedBlock → receiver.hasRoomFor block.payload = false →
      GivesUp receiver (.heard value) .destinationExhausted
  | failed {sign : Sign} : sign.Fails → GivesUp receiver sign .underlyingIoError

/-- What a receiver does within a step, as long as it does not give up.  A frame is read from its
opening byte on, and never beyond its length. -/
inductive Busy (mode : ChecksumMode) : Activity τ → Prop
  | listening (deadline : τ) : Busy mode (.listening deadline)
  | collecting {raw : Array UInt8} :
      raw.toList.head? = some startOfBlock → raw.size < Frame.length mode →
      Busy mode (.collecting raw)
  | draining (deadline : τ) : Busy mode (.draining deadline)
  | writing {purpose : Writing} : (∀ cause, purpose ≠ .cancel cause) → Busy mode (.writing purpose)

/-- How a receiver that has begun may stand after some signs. -/
inductive Stands (signs : List Sign) (receiver : Receiver τ) : Prop
  | resting : receiver.phase ≠ .aborted → receiver.activity = .between → Intact signs →
      Stands signs receiver
  | busy : receiver.phase.finished = false → Busy receiver.setup.mode receiver.activity →
      Intact signs → Stands signs receiver
  | canceling {cause : AbortCause} : receiver.phase = .aborted →
      receiver.activity = .writing (.cancel cause) → cause.reason ≠ .underlyingIoError →
      Intact signs → Stands signs receiver
  | completed : receiver.phase = .completed →
      receiver.activity = .ended (.ok receiver.transferred) →
      receiver.metrics.bytes = receiver.transferred → receiver.metrics.finish.isSome →
      Intact signs → Stands signs receiver
  | aborted {cause : AbortCause} : receiver.phase = .aborted →
      receiver.activity = .ended (.error ⟨cause, receiver.transferred⟩) →
      receiver.metrics.finish.isSome → Blames signs cause → Stands signs receiver

section Reactions

variable {signs : List Sign} {sign : Option Sign} {receiver : Receiver τ} {now : τ}
  {result : Receiver τ × List (Event τ)}

theorem phase_ne_of_unfinished (unfinished : receiver.phase.finished = false) :
    receiver.phase ≠ .completed ∧ receiver.phase ≠ .aborted := by
  constructor <;> intro phase_eq <;> simp [phase_eq, ReceivePhase.finished] at unfinished

theorem stands_abort (intact : Intact signs) {cause : AbortCause}
    (innocent : cause.reason ≠ .underlyingIoError) : Stands signs (receiver.abort now cause).1 :=
  .aborted rfl rfl rfl (.inl ⟨innocent, intact⟩)

theorem stands_break (intact : Intact signs) {sign : Sign} (fails : sign.Fails)
    (message : String) : Stands (signs ++ [sign]) (receiver.abort now (.lineFault message)).1 :=
  .aborted rfl rfl rfl (.inr ⟨rfl, intact.failed_append fails⟩)

theorem stands_abortNotifying (intact : Intact signs) {cause : AbortCause}
    (innocent : cause.reason ≠ .underlyingIoError) :
    Stands signs (receiver.abortNotifying cause).1 :=
  .canceling rfl rfl innocent intact

theorem stands_endStep (intact : Intact signs) (lasts : receiver.phase ≠ .aborted) :
    Stands signs receiver.endStep.1 :=
  .resting lasts rfl intact

theorem stands_idle (intact : Intact signs) (lasts : receiver.phase ≠ .aborted)
    (idleness : Idleness) : Stands signs (receiver.idle now idleness).1 := by
  obtain ⟨_, becomes⟩ | ⟨_, becomes⟩ := receiver.idle_cases now idleness
  · rw [becomes]
    exact stands_endStep intact lasts
  · rw [becomes]
    exact stands_abort intact nofun

theorem stands_heardNothing (intact : Intact signs) (lasts : receiver.phase ≠ .aborted) :
    Stands signs (receiver.heardNothing now).1 := by
  by_cases calls : receiver.phase = .awaitingStart
  · obtain ⟨_, becomes⟩ | ⟨_, becomes⟩ := receiver.heardNothing_cases now calls
    · rw [becomes]
      exact stands_endStep intact lasts
    · rw [becomes]
      exact stands_abort intact nofun
  · have idles : receiver.heardNothing now = receiver.idle now .noBlock := if_neg calls
    rw [idles]
    exact stands_idle intact lasts .noBlock

theorem unfinished_waitingPhase (receiver : Receiver τ) :
    receiver.waitingPhase.finished = false := by
  unfold waitingPhase
  split <;> rfl

theorem unfinished_meetSender (unfinished : receiver.phase.finished = false) :
    receiver.meetSender.1.phase.finished = false := by
  unfold meetSender
  split
  · exact receiver.unfinished_waitingPhase
  · exact unfinished

theorem stands_endOfTransmission (intact : Intact signs)
    (unfinished : receiver.phase.finished = false) :
    Stands signs receiver.endOfTransmission.1 := by
  unfold endOfTransmission
  split
  · exact .busy unfinished (.writing nofun) intact
  · exact .busy unfinished (.writing nofun) intact

theorem stands_heard (intact : Intact signs) (unfinished : receiver.phase.finished = false)
    (busy : Busy receiver.setup.mode receiver.activity) (value : UInt8) :
    Stands signs (receiver.heard now value).1 := by
  have met := unfinished_meetSender unfinished
  have short : 1 < Frame.length receiver.meetSender.1.setup.mode := by
    rw [Frame.length]
    omega
  unfold heard
  split
  case h_1 => exact .busy met (.collecting rfl short) intact
  case h_2 => exact stands_endOfTransmission intact met
  case h_3 =>
    refine stands_abort intact ?_
    split <;> rintro ⟨⟩
  case h_4 => exact .busy unfinished busy intact

theorem stands_receiveBlock (intact : Intact signs) (unfinished : receiver.phase.finished = false)
    (block : Block) : Stands signs (receiver.receiveBlock block).1 := by
  unfold receiveBlock
  split
  · unfold accept
    split
    · exact .busy unfinished (.writing nofun) intact
    · exact stands_abortNotifying intact nofun
  · split
    · exact .busy unfinished (.writing nofun) intact
    · exact stands_abortNotifying intact nofun

theorem stands_collect (intact : Intact signs) (unfinished : receiver.phase.finished = false)
    {raw : Array UInt8} (opened : raw.toList.head? = some startOfBlock) (value : UInt8) :
    Stands signs (receiver.collect now raw value).1 := by
  unfold collect
  by_cases inside : (raw.push value).size < Frame.length receiver.setup.mode
  · rw [if_pos inside]
    refine .busy unfinished (.collecting ?_ inside) intact
    rw [Array.toList_push, List.head?_append, opened]
    rfl
  · rw [if_neg inside]
    unfold receiveFrame
    split
    · exact stands_receiveBlock intact unfinished _
    · exact .busy unfinished (.draining _) intact

theorem stands_beginStep (intact : Intact signs) (lasts : receiver.phase ≠ .aborted) :
    Stands signs (receiver.beginStep now).1 := by
  unfold beginStep
  split
  case h_1 phase_eq =>
    exact .busy (congrArg ReceivePhase.finished phase_eq) (.writing nofun) intact
  case h_2 phase_eq => exact .busy (congrArg ReceivePhase.finished phase_eq) (.listening _) intact
  case h_3 phase_eq => exact .busy (congrArg ReceivePhase.finished phase_eq) (.listening _) intact
  case h_4 phase_eq => exact .completed phase_eq rfl rfl rfl intact
  case h_5 phase_eq => exact absurd phase_eq lasts

theorem stands_wrote (intact : Intact signs) (unfinished : receiver.phase.finished = false)
    {purpose : Writing} (goes_on : ∀ cause, purpose ≠ .cancel cause) :
    Stands signs (receiver.wrote now purpose).1 := by
  have lasts := (phase_ne_of_unfinished unfinished).2
  cases purpose with
  | request => exact .busy unfinished (.listening _) intact
  | acceptance =>
      have waits : receiver.waitingPhase ≠ .aborted := by
        intro phase_eq
        have unfinished := receiver.unfinished_waitingPhase
        simp [phase_eq, ReceivePhase.finished] at unfinished
      exact stands_endStep intact waits
  | repetition | rejection | confirmation => exact stands_endStep intact lasts
  | completion => exact .resting nofun rfl intact
  | cancel cause => exact absurd rfl (goes_on cause)

theorem stands_of_busy (intact : Intact signs) (unfinished : receiver.phase.finished = false)
    (busy : Busy receiver.setup.mode receiver.activity)
    (reacts : Reacts receiver now sign result) : Stands (signs ++ sign.toList) result.1 := by
  have lasts := (phase_ne_of_unfinished unfinished).2
  have same := busy
  generalize doing : receiver.activity = activity at busy
  cases busy with
  | listening deadline =>
      obtain ⟨value, rfl, rfl⟩ | ⟨rfl, rfl⟩ | ⟨fault, rfl, rfl⟩ := reacts.of_listening doing
      · exact stands_heard (intact.append id) unfinished same value
      · exact stands_heardNothing (intact.append id) lasts
      · exact stands_break intact Sign.fails_broken _
  | collecting opened _ =>
      obtain ⟨value, rfl, rfl⟩ | ⟨rfl, rfl⟩ | ⟨fault, rfl, rfl⟩ := reacts.of_collecting doing
      · exact stands_collect (intact.append id) unfinished opened value
      · exact stands_idle (intact.append id) lasts _
      · exact stands_break intact Sign.fails_broken _
  | draining deadline =>
      obtain ⟨value, rfl, rfl⟩ | ⟨rfl, rfl⟩ | ⟨fault, rfl, rfl⟩ := reacts.of_draining doing
      · exact .busy unfinished same (intact.append id)
      · exact .busy unfinished (.writing nofun) (intact.append id)
      · exact stands_break intact Sign.fails_broken _
  | writing goes_on =>
      obtain ⟨rfl, rfl⟩ | ⟨fault, rfl, rfl⟩ := reacts.of_writing doing
      · exact stands_wrote (intact.append id) unfinished goes_on
      · exact stands_break intact (Sign.fails_spoiled _) _

theorem Stands.react (stands : Stands signs receiver) (reacts : Reacts receiver now sign result) :
    Stands (signs ++ sign.toList) result.1 := by
  cases stands with
  | resting lasts between intact =>
      obtain ⟨rfl, rfl⟩ := reacts.of_between between
      rw [Option.toList_none, List.append_nil]
      exact stands_beginStep intact lasts
  | busy unfinished busy intact => exact stands_of_busy intact unfinished busy reacts
  | canceling gave_up writes innocent intact =>
      obtain ⟨rfl, rfl⟩ | ⟨fault, rfl, rfl⟩ := reacts.of_writing writes
      · exact .aborted gave_up rfl rfl (.inl ⟨innocent, intact.append id⟩)
      · exact stands_break intact (Sign.fails_spoiled _) _
  | completed _ ended _ _ _ => exact absurd reacts (Reacts.not_of_ended ended)
  | aborted _ ended _ _ => exact absurd reacts (Reacts.not_of_ended ended)

end Reactions

theorem stands_of_converses {setup : Setup τ} {initial : Destination} {now : τ}
    {moments : List (Moment (Receiver τ) τ)} {receiver : Receiver τ}
    (talks : Converses (start setup initial now) moments receiver) :
    moments = [] ∧ receiver = start setup initial now ∨
      Stands (transcript waits moments) receiver := by
  induction talks with
  | silent => exact .inl ⟨rfl, rfl⟩
  | @step moments moment _ valid induction =>
      have reacts := reacts_of_valid valid
      rw [transcript_append, transcript_singleton]
      obtain ⟨rfl, fresh⟩ | stands := induction
      · have idle : moment.session.activity = .idle := by
          rw [fresh]
          rfl
        obtain ⟨unsigned, woken⟩ := reacts.of_idle idle
        refine .inr (.resting ?_ ?_ ?_)
        · rw [(Prod.mk.inj woken).1, fresh]
          exact nofun
        · rw [(Prod.mk.inj woken).1]
        · rw [unsigned]
          exact intact_nil
      · exact .inr (stands.react reacts)

section Reasons

variable {sign : Option Sign} {receiver : Receiver τ} {now : τ}
  {result : Receiver τ × List (Event τ)} {reason : AbortReason}

theorem abortReason?_eq_none
    (going : ∀ outcome, receiver.activity ≠ .ended outcome)
    (silent : ∀ cause, receiver.activity ≠ .writing (.cancel cause)) :
    receiver.abortReason? = none := by
  unfold abortReason?
  split
  · rename_i cause writes
    exact absurd writes (silent cause)
  · rename_i failure ended
    exact absurd ended (going _)
  · rfl

/-- An idle period makes a receiver give up, or nothing. -/
theorem abortReason?_idle (idleness : Idleness) :
    (receiver.idle now idleness).1.abortReason? =
      if receiver.setup.policy.maxHandshakeAttempts ≤ receiver.idlePeriods + 1 then some .timedOut
      else none := by
  obtain ⟨early, becomes⟩ | ⟨last, becomes⟩ := receiver.idle_cases now idleness
  · rw [becomes, if_neg (Nat.not_le_of_lt early)]
    rfl
  · rw [becomes, if_pos last]
    rfl

theorem abortReason?_heardNothing_calling (calls : receiver.phase = .awaitingStart) :
    (receiver.heardNothing now).1.abortReason? =
      if receiver.setup.policy.maxHandshakeAttempts ≤ receiver.handshakeAttempts + 1 then
        some .noSender
      else none := by
  obtain ⟨early, becomes⟩ | ⟨last, becomes⟩ := receiver.heardNothing_cases now calls
  · rw [becomes, if_neg (Nat.not_le_of_lt early)]
    rfl
  · rw [becomes, if_pos last]
    rfl

theorem abortReason?_beginStep (between : receiver.activity = .between) :
    (receiver.beginStep now).1.abortReason? = none := by
  unfold beginStep
  split
  case h_5 => exact abortReason?_eq_none (by simp [between]) (by simp [between])
  all_goals rfl

theorem abortReason?_wrote {purpose : Writing} (writes : receiver.activity = .writing purpose) :
    (receiver.wrote now purpose).1.abortReason? = receiver.abortReason? := by
  unfold abortReason?
  rw [writes]
  cases purpose <;> rfl

theorem GivesUp.of_heard {deadline : τ} (listens : receiver.activity = .listening deadline)
    {value : UInt8} (gave_up : (receiver.heard now value).1.abortReason? = some reason) :
    GivesUp receiver (.heard value) reason := by
  obtain ⟨_, becomes⟩ | ⟨_, becomes⟩ | ⟨rfl, cause, peer, becomes⟩ | ⟨_, becomes⟩ :=
    receiver.heard_cases now value
  · rw [becomes] at gave_up
    exact absurd gave_up nofun
  · rw [becomes] at gave_up
    unfold endOfTransmission at gave_up
    split at gave_up <;> exact absurd gave_up nofun
  · rw [becomes] at gave_up
    obtain rfl : cause.reason = reason := Option.some.inj gave_up
    rw [peer]
    exact .canceled listens
  · rw [becomes, abortReason?_eq_none (by simp [listens]) (by simp [listens])] at gave_up
    exact absurd gave_up nofun

theorem GivesUp.of_collect {raw : Array UInt8} (collects : receiver.activity = .collecting raw)
    {value : UInt8} (gave_up : (receiver.collect now raw value).1.abortReason? = some reason) :
    GivesUp receiver (.heard value) reason := by
  unfold collect at gave_up
  by_cases inside : (raw.push value).size < Frame.length receiver.setup.mode
  · rw [if_pos inside] at gave_up
    exact absurd gave_up nofun
  rw [if_neg inside] at gave_up
  unfold receiveFrame at gave_up
  split at gave_up
  case h_2 => exact absurd gave_up nofun
  case h_1 block decoded =>
    unfold receiveBlock at gave_up
    split at gave_up
    · rename_i next
      unfold accept at gave_up
      split at gave_up
      · exact absurd gave_up nofun
      · rename_i full
        obtain rfl : AbortReason.destinationExhausted = reason := Option.some.inj gave_up
        exact .overflow collects decoded next (Bool.eq_false_iff.mpr full)
    · rename_i other
      split at gave_up
      · exact absurd gave_up nofun
      · rename_i fresh
        obtain rfl : AbortReason.outOfSequence = reason := Option.some.inj gave_up
        exact .disorder collects decoded other fresh

/-- A receiver keeps its reason to give up, or comes to one. -/
theorem Reacts.gives_up (reacts : Reacts receiver now sign result)
    (gave_up : result.1.abortReason? = some reason) :
    receiver.abortReason? = some reason ∨
      ∃ shown, sign = some shown ∧ GivesUp receiver shown reason := by
  cases reacts with
  | wake _ => exact absurd gave_up nofun
  | begin between =>
      rw [abortReason?_beginStep between] at gave_up
      exact absurd gave_up nofun
  | hear value listens => exact .inr ⟨_, rfl, .of_heard listens gave_up⟩
  | @expire deadline listens =>
      by_cases calls : receiver.phase = .awaitingStart
      · rw [abortReason?_heardNothing_calling calls] at gave_up
        split at gave_up
        · rename_i spent
          obtain rfl := Option.some.inj gave_up
          exact .inr ⟨_, rfl, .unanswered listens calls spent⟩
        · exact absurd gave_up nofun
      · have idles : receiver.heardNothing now = receiver.idle now .noBlock := if_neg calls
        rw [idles, abortReason?_idle] at gave_up
        split at gave_up
        · rename_i spent
          obtain rfl := Option.some.inj gave_up
          exact .inr ⟨_, rfl, .idle (.inl ⟨⟨deadline, listens⟩, calls⟩) spent⟩
        · exact absurd gave_up nofun
  | collect value collects => exact .inr ⟨_, rfl, .of_collect collects gave_up⟩
  | starve collects =>
      rw [abortReason?_idle] at gave_up
      split at gave_up
      · rename_i spent
        obtain rfl := Option.some.inj gave_up
        exact .inr ⟨_, rfl, .idle (.inr ⟨_, collects⟩) spent⟩
      · exact absurd gave_up nofun
  | drain _ drains => exact .inl gave_up
  | reject _ => exact absurd gave_up nofun
  | «break» fault _ =>
      obtain rfl : AbortReason.underlyingIoError = reason := Option.some.inj gave_up
      exact .inr ⟨_, rfl, .failed Sign.fails_broken⟩
  | write writes =>
      rw [abortReason?_wrote writes] at gave_up
      exact .inl gave_up
  | spoil fault _ =>
      obtain rfl : AbortReason.underlyingIoError = reason := Option.some.inj gave_up
      exact .inr ⟨_, rfl, .failed (Sign.fails_spoiled _)⟩

end Reasons

section Standing

variable {signs : List Sign} {receiver : Receiver τ}

theorem action_eq_stop_iff (receiver : Receiver τ) (now : τ) :
    receiver.action now = .stop ↔ ∃ outcome, receiver.outcome? = some outcome := by
  unfold action outcome?
  cases receiver.activity with
  | ended outcome => simp
  | idle | between | collecting _ | writing _ => simp
  | listening deadline | draining deadline =>
      simp only [reduceCtorEq, exists_false, iff_false]
      split <;> exact nofun

theorem outcome?_eq_none (goes_on : ∀ outcome, receiver.activity ≠ .ended outcome) :
    receiver.outcome? = none := by
  refine Option.eq_none_iff_forall_ne_some.mpr fun outcome ended => ?_
  exact goes_on outcome (outcome?_eq_some_iff.mp ended)

omit [Quantity τ] in
theorem Busy.ne_ended {mode : ChecksumMode} {activity : Activity τ} (busy : Busy mode activity)
    (outcome : Outcome) : activity ≠ .ended outcome := by
  cases busy <;> exact nofun

omit [Quantity τ] in
theorem Busy.ne_idle {mode : ChecksumMode} {activity : Activity τ} (busy : Busy mode activity) :
    activity ≠ .idle := by
  cases busy <;> exact nofun

theorem Stands.closes (stands : Stands signs receiver) :
    Closes signs receiver.account receiver.outcome? := by
  cases stands with
  | resting _ between intact =>
      rw [outcome?_eq_none (by simp [between])]
      exact .going intact
  | busy _ busy intact =>
      rw [outcome?_eq_none busy.ne_ended]
      exact .going intact
  | canceling _ writes _ intact =>
      rw [outcome?_eq_none (by simp [writes])]
      exact .going intact
  | completed completes ended counted timed intact =>
      have outcome_eq : receiver.outcome? = some (.ok receiver.account.transferred) := by
        simp [outcome?, ended, account]
      have unblamed : receiver.account.reason? = none := by
        simp [account, abortReason?, ended]
      rw [outcome_eq]
      exact .completed completes unblamed counted timed intact
  | @aborted cause gave_up ended timed blames =>
      have outcome_eq :
          receiver.outcome? = some (.error ⟨cause, receiver.account.transferred⟩) := by
        simp [outcome?, ended, account]
      have blamed : receiver.account.reason? = some cause.reason := by
        simp [account, abortReason?, ended, Failure.reason]
      rw [outcome_eq]
      exact .aborted gave_up blamed timed blames

theorem Stands.begun (stands : Stands signs receiver) : Session.idle receiver = false := by
  have begun : receiver.activity ≠ .idle := by
    cases stands with
    | busy _ busy _ => exact busy.ne_idle
    | resting _ doing _ | canceling _ doing _ _ | completed _ doing _ _ _ | aborted _ doing _ _ =>
        simp [doing]
  cases doing : receiver.activity with
  | idle => exact absurd doing begun
  | between | listening | collecting | draining | writing | ended => simp [Session.idle, doing]

theorem contained_of_converses {setup : Setup τ} {initial : Destination} {now : τ}
    {moments : List (Moment (Receiver τ) τ)}
    (talks : Converses (start setup initial now) moments receiver) (begun : moments ≠ []) :
    Contained (transcript waits moments) receiver.account receiver := by
  obtain ⟨fresh, _⟩ | stands := stands_of_converses talks
  · exact absurd fresh begun
  · exact stands.closes.contained receiver.action_eq_stop_iff stands.begun

/-- The bytes of a whole frame are refused for damage only. -/
theorem Stands.isDamage (stands : Stands signs receiver) {raw : Array UInt8} {value : UInt8}
    {error : FrameError} (collects : receiver.activity = .collecting raw)
    (whole : Frame.length receiver.setup.mode ≤ raw.size + 1)
    (read : Frame.decode receiver.setup.mode (raw.push value).toList = .error error) :
    error.IsDamage := by
  cases stands with
  | busy _ busy _ =>
      rw [collects] at busy
      obtain _ | ⟨opened, inside⟩ | _ | _ := busy
      have length_eq : (raw.push value).toList.length = Frame.length receiver.setup.mode := by
        rw [Array.length_toList, Array.size_push]
        omega
      have first : (raw.push value).toList.head? = some startOfBlock := by
        rw [Array.toList_push, List.head?_append, opened]
        rfl
      have refuses := Frame.refuses_of_decode read
      generalize (raw.push value).toList = bytes at length_eq first refuses
      cases refuses with
      | wrongLength other => exact absurd length_eq other
      | noStart _ other => exact absurd (Option.some.inj first) other
      | malformedNumber | checksumMismatch => trivial
  | resting _ doing _ | canceling _ doing _ _ | completed _ doing _ _ _ | aborted _ doing _ _ =>
      exact absurd (collects.symm.trans doing) nofun

/-- A receiver that succeeds reports what it has transferred. -/
theorem eq_transferred_of_converses {setup : Setup τ} {initial : Destination} {now : τ}
    {moments : List (Moment (Receiver τ) τ)} {count : Nat}
    (talks : Converses (start setup initial now) moments receiver)
    (succeeded : receiver.outcome? = some (.ok count)) : count = receiver.transferred := by
  obtain ⟨-, rfl⟩ | stands := stands_of_converses talks
  · cases succeeded
  · have closes := stands.closes
    rw [succeeded] at closes
    cases closes with
    | completed => rfl

end Standing

end Receiver
end Xmodem
