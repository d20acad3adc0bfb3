import Xmodem.Proofs.Cancellation
import Xmodem.Proofs.Receiver.Idleness
import Xmodem.Proofs.Termination

/-!
# Silence

A peer that falls silent is given up on.  Wherever a session stands between two steps, the failures
that it has borne so far say how many more silent waits it bears, what it writes between them, and
why it gives up behind the last one.
-/

namespace Xmodem

variable {σ κ τ : Type}

/-- Whether a line on which nothing arrives and nothing fails may give an answer. -/
inductive Answer.Quiet : Answer → Prop
  | proceeded : Quiet .proceeded
  | silence : Quiet .silence
  | written : Quiet .written

/-- Whether the line was silent at all of some moments. -/
def Hushed (moments : List (Moment σ τ)) : Prop :=
  ∀ moment ∈ moments, moment.answer.Quiet

/-- The signs of a line on which nothing arrives and nothing fails. -/
inductive Sign.Quiet : Sign → Prop
  | silence : Quiet .silence
  | wrote (bytes : List UInt8) : Quiet (.wrote bytes)

/-- A session shows some signs on a line that is silent from now on, gives up at the last one for
some reason with some number of bytes, and changes no part of itself that is to be kept. -/
structure EndsInSilence [Session σ τ] (waiting : σ → Bool) (kept : σ → κ) (session : σ)
    (signs : List Sign) (reason : AbortReason) (transferred : Nat) : Prop where
  /-- There is always an end. -/
  bounded : ∃ most, ∀ (moments : List (Moment σ τ)) (last : σ),
    Converses session moments last → Hushed moments → moments.length ≤ most
  /-- Until then the session goes on, whatever the time is. -/
  goes_on : ∀ (moments : List (Moment σ τ)) (last : σ) (now : τ),
    Converses session moments last → Hushed moments → Session.outcome? last = none →
      ∃ moment : Moment σ τ, moment.Valid ∧ moment.answer.Quiet ∧ moment.session = last ∧
        moment.asked = now
  /-- On the way it shows the signs in their order. -/
  shows : ∀ (moments : List (Moment σ τ)) (last : σ),
    Converses session moments last → Hushed moments →
      transcript waiting moments <+: signs ∧ kept last = kept session
  /-- At the end it has shown all of them. -/
  gives_up : ∀ (moments : List (Moment σ τ)) (last : σ) (outcome : Outcome),
    Converses session moments last → Hushed moments → Session.outcome? last = some outcome →
      transcript waiting moments = signs ∧
        ∃ cause : AbortCause, outcome = .error ⟨cause, transferred⟩ ∧ cause.reason = reason

/-- What a session yet shows on a silent line, as a property that all its moments use up. -/
structure Fades [Session σ τ] (waiting : σ → Bool) (kept : σ → κ) (reason : AbortReason)
    (transferred : Nat) (outlook : List Sign → σ → Prop) : Prop where
  /-- A moment shows the first of the signs, or none. -/
  step : ∀ (moment : Moment σ τ) (signs : List Sign),
    moment.Valid → moment.answer.Quiet → outlook signs moment.session →
      ∃ later, signs = (moment.sign? waiting).toList ++ later ∧ outlook later moment.after ∧
        kept moment.after = kept moment.session
  /-- Behind the last sign the session has given up. -/
  ends : ∀ (session : σ) (signs : List Sign) (outcome : Outcome),
    outlook signs session → Session.outcome? session = some outcome →
      signs = [] ∧
        ∃ cause : AbortCause, outcome = .error ⟨cause, transferred⟩ ∧ cause.reason = reason

section Fading

variable [Session σ τ] {waiting : σ → Bool} {kept : σ → κ} {reason : AbortReason}
  {transferred : Nat} {outlook : List Sign → σ → Prop} {property : σ → Prop} {moves : σ → Nat}
  {most : Nat} {first last : σ} {moments : List (Moment σ τ)} {signs : List Sign}

omit [Session σ τ] in
theorem hushed_append_singleton {moment : Moment σ τ} :
    Hushed (moments ++ [moment]) ↔ Hushed moments ∧ moment.answer.Quiet := by
  rw [Hushed, List.forall_mem_append, List.forall_mem_singleton]
  rfl

theorem Moment.quiet_sign {moment : Moment σ τ} (quiet : moment.answer.Quiet) :
    ∀ sign ∈ moment.sign? waiting, sign.Quiet := by
  intro sign shown
  rw [Option.mem_def, sign?] at shown
  generalize moment.action = action at shown
  generalize moment.answer = answer at quiet shown
  unfold Sign.of? at shown
  split at shown
  case h_1 =>
    split at shown
    · obtain rfl := Option.some.inj shown
      exact .silence
    · cases shown
  case h_3 =>
    obtain rfl := Option.some.inj shown
    exact .silence
  case h_5 =>
    obtain rfl := Option.some.inj shown
    exact .wrote _
  case h_2 | h_4 | h_6 => cases quiet
  case h_7 => cases shown

theorem Fades.converses (fades : Fades waiting kept reason transferred outlook)
    (begins : outlook signs first) (talks : Converses first moments last)
    (hushed : Hushed moments) :
    ∃ later, signs = transcript waiting moments ++ later ∧ outlook later last ∧
      kept last = kept first := by
  induction talks with
  | silent => exact ⟨signs, rfl, begins, rfl⟩
  | @step moments moment _ valid induction =>
      obtain ⟨before, quiet⟩ := hushed_append_singleton.mp hushed
      obtain ⟨rest, rfl, stands, same⟩ := induction before
      obtain ⟨later, rfl, stands, same_still⟩ := fades.step moment rest valid quiet stands
      refine ⟨later, ?_, stands, same_still.trans same⟩
      rw [transcript_append, transcript_singleton, List.append_assoc]

/-- Silent moments use up the moves that a session has left. -/
theorem Tires.length_le (tires : Tires property moves most) (holds : property first)
    (talks : Converses first moments last) (hushed : Hushed moments) :
    property last ∧ moments.length + moves last ≤ moves first := by
  induction talks with
  | silent => exact ⟨holds, (Nat.zero_add _).le⟩
  | @step moments moment _ valid induction =>
      obtain ⟨before, quiet⟩ := hushed_append_singleton.mp hushed
      obtain ⟨holds, fewer⟩ := induction before
      have unheard (value : UInt8) : moment.answer ≠ .byte value := by
        intro heard
        rw [heard] at quiet
        cases quiet
      have declines := tires.declines moment valid holds unheard
      refine ⟨tires.keeps moment valid holds, ?_⟩
      rw [List.length_append, List.length_singleton]
      omega

/-- A session that does not stop can meet silence at every instant. -/
theorem exists_quiet (session : σ) (now : τ) (goes_on : Session.action session now ≠ .stop) :
    ∃ moment : Moment σ τ, moment.Valid ∧ moment.answer.Quiet ∧ moment.session = session ∧
      moment.asked = now := by
  cases acts : Session.action session now with
  | stop => exact absurd acts goes_on
  | proceed =>
      exact ⟨⟨session, now, .proceeded, now⟩, Moment.valid_of_proceed acts, .proceeded, rfl, rfl⟩
  | read timeout =>
      exact ⟨⟨session, now, .silence, now⟩, Moment.valid_of_expire acts, .silence, rfl, rfl⟩
  | write bytes =>
      exact ⟨⟨session, now, .written, now⟩, Moment.valid_of_write acts, .written, rfl, rfl⟩

theorem Fades.endsInSilence (fades : Fades waiting kept reason transferred outlook)
    (tires : Tires property moves most) (begins : outlook signs first) (holds : property first) :
    EndsInSilence waiting kept first signs reason transferred where
  bounded := ⟨moves first, fun moments last talks hushed =>
    (Nat.le_add_right _ _).trans (tires.length_le holds talks hushed).2⟩
  goes_on moments last now _ _ unfinished := by
    refine exists_quiet last now fun stops => ?_
    obtain ⟨outcome, ended⟩ := tires.stops last now stops
    exact absurd (unfinished.symm.trans ended) nofun
  shows moments last talks hushed := by
    obtain ⟨later, rfl, -, same⟩ := fades.converses begins talks hushed
    exact ⟨List.prefix_append _ _, same⟩
  gives_up moments last outcome talks hushed ended := by
    obtain ⟨later, rfl, stands, -⟩ := fades.converses begins talks hushed
    obtain ⟨rfl, gave_up⟩ := fades.ends last later outcome stands ended
    exact ⟨(List.append_nil _).symm, gave_up⟩

end Fading

variable [Quantity τ]

namespace Sender

open Packets

/-- Whether a sender stands before its first step or between two of them. -/
def paused (sender : Sender τ) : Bool :=
  match sender.activity with
  | .idle | .between => true
  | _ => false

theorem paused_iff (sender : Sender τ) :
    sender.paused = true ↔ sender.activity = .idle ∨ sender.activity = .between := by
  unfold paused
  split <;> simp_all

/-- The packet that a sender sends until it is acknowledged. -/
def currentPacket (sender : Sender τ) : List UInt8 :=
  if sender.cursor < sender.length then
    Frame.encode (sender.mode.getD .additive) sender.currentBlock
  else
    [Signal.byte .endOfTransmission]

/-- The signs of a sender that still sends some copies of a packet, one after every silent wait, and
cancels the transfer after one more. -/
def insistence (packet : List UInt8) (copies : Nat) : List Sign :=
  (List.replicate copies [.silence, .wrote packet]).flatten ++
    [.silence, .wrote [Signal.byte .cancel]]

example (packet : List UInt8) : insistence packet 1 =
    [.silence, .wrote packet, .silence, .wrote [Signal.byte .cancel]] := rfl

theorem insistence_succ (packet : List UInt8) (copies : Nat) :
    insistence packet (copies + 1) = .silence :: .wrote packet :: insistence packet copies := rfl

/-- What a sender between two steps shows on a line that is silent from now on, and why it gives
up. -/
inductive Outlook (sender : Sender τ) : List Sign → AbortReason → Prop
  | calling {waits : Nat} :
      sender.phase = .awaitingStart → 0 < waits →
      sender.handshakeAttempts + waits = sender.policy.maxHandshakeAttempts →
      Outlook sender (.replicate waits .silence) .noReceiver
  | sending :
      sender.phase = .sendingBlock ∨ sender.phase = .sendingEot → sender.attempts = 0 →
      Outlook sender
        (.wrote sender.currentPacket ::
          insistence sender.currentPacket sender.policy.maxRetries) .tooManyRetries
  | awaiting {copies : Nat} :
      sender.phase = .awaitingAck ∨ sender.phase = .awaitingEotAck →
      sender.attempts + copies = sender.policy.maxRetries →
      Outlook sender (insistence sender.currentPacket copies) .tooManyRetries

/-- What silence does not change. -/
def progress (sender : Sender τ) : Nat × Nat :=
  (sender.cursor, sender.metrics.bytes)

/-- What a sender within a step or between two of them shows on a line that is silent from now on,
and why it gives up. -/
inductive Waning (policy : RetryPolicy τ) (transferred : Nat) :
    AbortReason → List Sign → Sender τ → Prop
  | calling {sender : Sender τ} {waits : Nat} :
      sender.policy = policy → sender.cursor = transferred → sender.phase = .awaitingStart →
      Rests sender → 0 < waits →
      sender.handshakeAttempts + waits = policy.maxHandshakeAttempts →
      Waning policy transferred .noReceiver (.replicate waits .silence) sender
  | ready {sender : Sender τ} {packet : List UInt8} :
      sender.policy = policy → sender.cursor = transferred → sender.phase = sender.nextPhase →
      sender.activity = .between → sender.attempts = 0 → sender.currentPacket = packet →
      Waning policy transferred .tooManyRetries
        (.wrote packet :: insistence packet policy.maxRetries) sender
  | writing {sender : Sender τ} {purpose : Writing} {packet : List UInt8} {copies : Nat} :
      sender.policy = policy → sender.cursor = transferred →
      purpose = .first ∨
        purpose = .again ∧ (sender.phase = .awaitingAck ∨ sender.phase = .awaitingEotAck) →
      sender.activity = .writing purpose → sender.frame = packet →
      sender.attempts + copies = policy.maxRetries →
      Waning policy transferred .tooManyRetries (.wrote packet :: insistence packet copies) sender
  | awaiting {sender : Sender τ} {packet : List UInt8} {copies : Nat} :
      sender.policy = policy → sender.cursor = transferred →
      sender.phase = .awaitingAck ∨ sender.phase = .awaitingEotAck → Rests sender →
      sender.frame = packet → sender.attempts + copies = policy.maxRetries →
      Waning policy transferred .tooManyRetries (insistence packet copies) sender
  | canceling {sender : Sender τ} {cause : AbortCause} {reason : AbortReason} :
      sender.cursor = transferred → sender.activity = .writing (.cancel cause) →
      cause.reason = reason →
      Waning policy transferred reason [.wrote [Signal.byte .cancel]] sender
  | ended {sender : Sender τ} {cause : AbortCause} {reason : AbortReason} :
      sender.activity = .ended (.error ⟨cause, transferred⟩) → cause.reason = reason →
      Waning policy transferred reason [] sender

section Reactions

variable {policy : RetryPolicy τ} {transferred : Nat} {reason : AbortReason}
  {signs : List Sign} {sign : Option Sign} {packet : List UInt8} {copies : Nat}
  {sender after : Sender τ} {now : τ}

theorem beginStep_ready (sends : sender.phase = sender.nextPhase) :
    (sender.beginStep now).1 =
      { sender with frame := sender.currentPacket, activity := .writing .first } := by
  unfold nextPhase at sends
  split at sends
  · rename_i left
    simp only [beginStep, sends, currentPacket, left, if_true]
  · rename_i none_left
    simp only [beginStep, sends, currentPacket, none_left, if_false]

theorem beginStep_replies
    (replies : sender.phase = .awaitingAck ∨ sender.phase = .awaitingEotAck) :
    (sender.beginStep now).1 =
      { sender with activity := .listening (now + sender.policy.byteTimeout) } := by
  obtain phase_eq | phase_eq := replies <;> simp only [beginStep, phase_eq]

theorem wrote_first_cases (sender : Sender τ) (now : τ) :
    ((sender.wrote now .first).1.phase = .awaitingAck ∨
        (sender.wrote now .first).1.phase = .awaitingEotAck) ∧
      (sender.wrote now .first).1.activity = .between ∧
      (sender.wrote now .first).1.policy = sender.policy ∧
      (sender.wrote now .first).1.attempts = sender.attempts ∧
      (sender.wrote now .first).1.frame = sender.frame ∧
      (sender.wrote now .first).1.progress = sender.progress := by
  unfold wrote
  dsimp only
  split
  · exact ⟨.inl rfl, rfl, rfl, rfl, rfl, rfl⟩
  · exact ⟨.inr rfl, rfl, rfl, rfl, rfl, rfl⟩

theorem Reacts.of_rests (reacts : Reacts sender now sign after) (rests : Rests sender)
    (quiet : ∀ shown ∈ sign, shown.Quiet) :
    sign = none ∧ sender.activity = .idle ∧
        after = { sender with
          metrics := { sender.metrics with start := now }, activity := .between } ∨
      sign = none ∧ sender.activity = .between ∧ after = (sender.beginStep now).1 ∨
      sign = some .silence ∧ after = (sender.heardNothing now).1 := by
  cases reacts with
  | wake idle => exact .inl ⟨rfl, idle, rfl⟩
  | begin between => exact .inr (.inl ⟨rfl, between, rfl⟩)
  | expire _ => exact .inr (.inr ⟨rfl, rfl⟩)
  | hear value _ => exact absurd (quiet _ rfl) nofun
  | «break» fault _ => exact absurd (quiet _ rfl) nofun
  | write writes | spoil fault writes => simp [Rests, writes] at rests

theorem Reacts.wrote_of_quiet {purpose : Writing} (reacts : Reacts sender now sign after)
    (writes : sender.activity = .writing purpose) (quiet : ∀ shown ∈ sign, shown.Quiet) :
    sign = some (.wrote (purpose.bytes sender.frame)) ∧ after = (sender.wrote now purpose).1 := by
  obtain wrote | ⟨rfl, _⟩ := reacts.of_writing writes
  · exact wrote
  · exact absurd (quiet _ rfl) nofun

theorem waning_uncalled {waits : Nat} (same : sender.policy = policy)
    (stays : sender.cursor = transferred) (calls : sender.phase = .awaitingStart)
    (left : 0 < waits) (counted : sender.handshakeAttempts + waits = policy.maxHandshakeAttempts) :
    ∃ later, List.replicate waits Sign.silence = .silence :: later ∧
      Waning policy transferred .noReceiver later (sender.heardNothing now).1 ∧
      (sender.heardNothing now).1.progress = sender.progress := by
  obtain ⟨waits, rfl⟩ := Nat.exists_eq_add_one.mpr left
  refine ⟨.replicate waits .silence, List.replicate_succ, ?_⟩
  obtain ⟨early, becomes⟩ | ⟨late, becomes⟩ := sender.heardNothing_cases now calls
  · rw [same] at early
    rw [becomes]
    have counted : sender.handshakeAttempts + 1 + waits = policy.maxHandshakeAttempts := by omega
    exact ⟨.calling same stays calls (.inr (.inl rfl)) (by omega) counted, rfl⟩
  · rw [same] at late
    obtain rfl : waits = 0 := by omega
    rw [becomes, ← stays]
    exact ⟨.ended rfl rfl, rfl⟩

theorem waning_unanswered (same : sender.policy = policy) (stays : sender.cursor = transferred)
    (replies : sender.phase = .awaitingAck ∨ sender.phase = .awaitingEotAck)
    (framed : sender.frame = packet) (counted : sender.attempts + copies = policy.maxRetries) :
    ∃ later, insistence packet copies = .silence :: later ∧
      Waning policy transferred .tooManyRetries later (sender.heardNothing now).1 ∧
      (sender.heardNothing now).1.progress = sender.progress := by
  have begun : sender.phase ≠ .awaitingStart := by
    obtain phase_eq | phase_eq := replies <;> simp [phase_eq]
  rw [heardNothing_eq_retry now begun]
  obtain ⟨early, becomes⟩ | ⟨late, becomes⟩ :=
    { sender with
      metrics := { sender.metrics with timeouts := sender.metrics.timeouts + 1 } }.retry_cases
        .timeout
  · change sender.attempts < sender.policy.maxRetries at early
    rw [same] at early
    have left : copies ≠ 0 := by omega
    obtain ⟨copies, rfl⟩ := Nat.exists_eq_add_one_of_ne_zero left
    have counted : sender.attempts + 1 + copies = policy.maxRetries := by omega
    rw [becomes]
    exact ⟨_, insistence_succ .., .writing same stays (.inr ⟨rfl, replies⟩) rfl framed counted,
      rfl⟩
  · change sender.policy.maxRetries ≤ sender.attempts at late
    rw [same] at late
    obtain rfl : copies = 0 := by omega
    rw [becomes]
    exact ⟨_, rfl, .canceling stays rfl rfl, rfl⟩

theorem waning_wrote {purpose : Writing} (now : τ) (same : sender.policy = policy)
    (stays : sender.cursor = transferred)
    (sends : purpose = .first ∨
      purpose = .again ∧ (sender.phase = .awaitingAck ∨ sender.phase = .awaitingEotAck))
    (framed : sender.frame = packet) (counted : sender.attempts + copies = policy.maxRetries) :
    purpose.bytes sender.frame = packet ∧
      Waning policy transferred .tooManyRetries (insistence packet copies)
        (sender.wrote now purpose).1 ∧
      (sender.wrote now purpose).1.progress = sender.progress := by
  obtain rfl | ⟨rfl, replies⟩ := sends
  · obtain ⟨replies, between, policy_eq, attempts_eq, frame_eq, progress_eq⟩ :=
      sender.wrote_first_cases now
    have cursor_eq := congrArg Prod.fst progress_eq
    refine ⟨framed, ?_, progress_eq⟩
    exact .awaiting (policy_eq.trans same) (cursor_eq.trans stays) replies (.inr (.inl between))
      (frame_eq.trans framed) (attempts_eq ▸ counted)
  · exact ⟨framed, .awaiting same stays replies (.inr (.inl rfl)) framed counted, rfl⟩

/-- Every moment of silence uses up what a sender yet shows. -/
theorem Waning.react (wanes : Waning policy transferred reason signs sender)
    (reacts : Reacts sender now sign after) (quiet : ∀ shown ∈ sign, shown.Quiet) :
    ∃ later, signs = sign.toList ++ later ∧ Waning policy transferred reason later after ∧
      after.progress = sender.progress := by
  cases wanes with
  | calling same stays calls rests left counted =>
      obtain ⟨rfl, -, rfl⟩ | ⟨rfl, -, rfl⟩ | ⟨rfl, rfl⟩ := reacts.of_rests rests quiet
      · exact ⟨_, rfl, .calling same stays calls (.inr (.inl rfl)) left counted, rfl⟩
      · rw [beginStep_calling calls]
        exact ⟨_, rfl, .calling same stays calls (.inr (.inr ⟨_, rfl⟩)) left counted, rfl⟩
      · exact waning_uncalled same stays calls left counted
  | ready same stays sends between fresh packet_eq =>
      obtain ⟨rfl, rfl⟩ := reacts.of_between between
      rw [beginStep_ready sends]
      have counted : sender.attempts + policy.maxRetries = policy.maxRetries := by omega
      exact ⟨_, rfl, .writing same stays (.inl rfl) rfl packet_eq counted, rfl⟩
  | writing same stays sends writes framed counted =>
      obtain ⟨rfl, rfl⟩ := reacts.wrote_of_quiet writes quiet
      obtain ⟨bytes_eq, wanes, progress_eq⟩ :=
        waning_wrote now same stays sends framed counted
      rw [bytes_eq]
      exact ⟨_, rfl, wanes, progress_eq⟩
  | awaiting same stays replies rests framed counted =>
      obtain ⟨rfl, -, rfl⟩ | ⟨rfl, -, rfl⟩ | ⟨rfl, rfl⟩ := reacts.of_rests rests quiet
      · exact ⟨_, rfl, .awaiting same stays replies (.inr (.inl rfl)) framed counted, rfl⟩
      · rw [beginStep_replies replies]
        exact ⟨_, rfl, .awaiting same stays replies (.inr (.inr ⟨_, rfl⟩)) framed counted, rfl⟩
      · exact waning_unanswered same stays replies framed counted
  | canceling stays writes reason_eq =>
      obtain ⟨rfl, rfl⟩ := reacts.wrote_of_quiet writes quiet
      rw [← stays]
      exact ⟨[], rfl, .ended rfl reason_eq, rfl⟩
  | ended gave_up _ => exact absurd reacts (Reacts.not_of_ended gave_up)

theorem nextPhase_ne_awaitingStart (sender : Sender τ) : sender.nextPhase ≠ .awaitingStart := by
  unfold nextPhase
  split <;> exact nofun

theorem phase_retry_ne (begun : sender.phase ≠ .awaitingStart) (metrics : Metrics τ)
    (trigger : RetryTrigger) :
    ({ sender with metrics := metrics }.retry trigger).1.phase ≠ .awaitingStart := by
  obtain ⟨-, becomes⟩ | ⟨-, becomes⟩ := { sender with metrics := metrics }.retry_cases trigger
  · rw [becomes]
    exact begun
  · rw [becomes]
    exact nofun

theorem heardAtStart_cases (sender : Sender τ) (now : τ) (value : UInt8) :
    (sender.heardAtStart now value).1 = sender ∨
      (sender.heardAtStart now value).1.phase ≠ .awaitingStart := by
  unfold heardAtStart
  split
  case h_1 | h_2 => exact .inr (nextPhase_ne_awaitingStart _)
  case h_3 => exact .inr nofun
  case h_4 => exact .inl rfl

theorem phase_heardReply_ne (begun : sender.phase ≠ .awaitingStart) (value : UInt8) :
    (sender.heardReply now value).1.phase ≠ .awaitingStart := by
  unfold heardReply
  split
  case h_1 =>
    by_cases ends : sender.phase = .awaitingEotAck
    · rw [acknowledged_of_last ends]
      exact nofun
    · rw [acknowledged_of_block ends]
      exact nextPhase_ne_awaitingStart _
  case h_2 => exact phase_retry_ne begun _ .nak
  case h_3 => exact nofun
  case h_4 => exact begun

/-- A sender that calls has called before, and counts no silent wait beyond the last one. -/
theorem Reacts.unstarted (reacts : Reacts sender now sign after)
    (calls : after.phase = .awaitingStart) :
    sender.phase = .awaitingStart ∧ after.policy = sender.policy ∧
      (after.handshakeAttempts = sender.handshakeAttempts ∨
        after.handshakeAttempts < sender.policy.maxHandshakeAttempts) := by
  cases reacts with
  | wake _ => exact ⟨calls, rfl, .inl rfl⟩
  | begin _ =>
      unfold beginStep at calls ⊢
      split at calls
      case h_1 phase_eq => exact ⟨phase_eq, by simp only, .inl (by simp only)⟩
      case h_2 phase_eq | h_3 phase_eq | h_4 phase_eq | h_5 phase_eq | h_6 phase_eq
        | h_7 phase_eq => exact absurd (phase_eq.symm.trans calls) nofun
  | hear value _ =>
      unfold heard at calls ⊢
      by_cases unstarted : sender.phase = .awaitingStart
      · rw [if_pos unstarted] at calls ⊢
        obtain same | other := sender.heardAtStart_cases now value
        · rw [same]
          exact ⟨unstarted, rfl, .inl rfl⟩
        · exact absurd calls other
      · rw [if_neg unstarted] at calls
        exact absurd calls (phase_heardReply_ne unstarted value)
  | expire _ =>
      by_cases unstarted : sender.phase = .awaitingStart
      · obtain ⟨early, becomes⟩ | ⟨-, becomes⟩ := sender.heardNothing_cases now unstarted
        · rw [becomes]
          exact ⟨unstarted, rfl, .inr early⟩
        · rw [becomes] at calls
          cases calls
      · rw [heardNothing_eq_retry now unstarted] at calls
        exact absurd calls (phase_retry_ne unstarted _ .timeout)
  | «break» fault _ | spoil fault _ => cases calls
  | @write purpose _ =>
      cases purpose with
      | first =>
          obtain ⟨replies, -⟩ := sender.wrote_first_cases now
          simp [calls] at replies
      | again => exact ⟨calls, rfl, .inl rfl⟩
      | cancel cause => exact ⟨calls, rfl, .inl rfl⟩

theorem fades (policy : RetryPolicy τ) (transferred : Nat) (reason : AbortReason) :
    Fades waits (progress (τ := τ)) reason transferred (Waning policy transferred reason) where
  step moment _ valid quiet wanes :=
    wanes.react (reacts_of_valid valid) (moment.quiet_sign quiet)
  ends sender signs outcome wanes ended := by
    have stopped := outcome?_eq_some_iff.mp ended
    cases wanes with
    | ended gave_up reason_eq =>
        obtain rfl := Activity.ended.inj (stopped.symm.trans gave_up)
        exact ⟨rfl, _, rfl, reason_eq⟩
    | calling _ _ _ rests | awaiting _ _ _ rests => simp [Rests, stopped] at rests
    | ready _ _ _ doing | writing _ _ _ doing | canceling _ doing =>
        simp [stopped] at doing

end Reactions

section Standing

variable {policy : RetryPolicy τ} {source : List UInt8} {begun : τ} {sender : Sender τ}
  {moments : List (Moment (Sender τ) τ)}

theorem currentPacket_eq {mode : ChecksumMode} {place attempts : Nat}
    (keeps : Keeps policy source (some mode) place attempts sender) :
    sender.currentPacket = packet mode source place := by
  have block_eq : sender.currentBlock = block source place := by
    simp only [currentBlock, block, keeps.number_eq, keeps.unsent_eq]
  have left_iff : sender.cursor < sender.length ↔ place < blockCount source := by
    rw [lt_blockCount_iff, keeps.cursor_eq, keeps.length_eq]
    omega
  simp only [currentPacket, packet, left_iff, keeps.mode_eq, block_eq, Option.getD_some]

/-- As long as a sender calls, it bears one more silent wait. -/
theorem handshakes_lt_of_converses (talks : Converses (start policy source begun) moments sender)
    (calls : sender.phase = .awaitingStart) :
    sender.policy = policy ∧ sender.handshakeAttempts < policy.maxHandshakeAttempts := by
  induction talks with
  | silent => exact ⟨rfl, policy.maxHandshakeAttempts_pos⟩
  | @step moments moment _ valid induction =>
      obtain ⟨called, same, attempts⟩ := (reacts_of_valid valid).unstarted calls
      obtain ⟨policy_eq, early⟩ := induction called
      rw [same, policy_eq]
      rw [policy_eq] at attempts
      exact ⟨rfl, attempts.elim (fun attempts_eq => attempts_eq ▸ early) id⟩

theorem exists_waning (talks : Converses (start policy source begun) moments sender)
    (pauses : sender.paused = true)
    (unfinished : sender.phase.finished = false) :
    ∃ reason signs, Outlook sender signs reason ∧
      Waning policy sender.cursor reason signs sender := by
  have rests := sender.paused_iff.mp pauses
  obtain ⟨stage, -, stands⟩ := exists_treads talks
  cases stands with
  | calling keeps calls resting =>
      obtain ⟨-, early⟩ := handshakes_lt_of_converses talks calls
      obtain ⟨waits, counted⟩ := Nat.exists_eq_add_of_lt early
      have counted : sender.handshakeAttempts + (waits + 1) = policy.maxHandshakeAttempts := by
        omega
      exact ⟨_, _, .calling calls waits.succ_pos (keeps.policy_eq.symm ▸ counted),
        .calling keeps.policy_eq rfl calls resting waits.succ_pos counted⟩
  | ready keeps sends between =>
      have phase_eq : sender.phase = sender.nextPhase := sends.trans (nextPhase_eq keeps).symm
      refine ⟨_, _, .sending ?_ keeps.attempts_eq, ?_⟩
      · rw [phase_eq, nextPhase]
        split
        · exact .inl rfl
        · exact .inr rfl
      · rw [keeps.policy_eq]
        exact .ready keeps.policy_eq rfl phase_eq between keeps.attempts_eq rfl
  | awaiting keeps replies framed patient resting =>
      obtain ⟨copies, counted⟩ := Nat.exists_eq_add_of_le patient
      rw [← keeps.attempts_eq] at counted
      have either : sender.phase = .awaitingAck ∨ sender.phase = .awaitingEotAck := by
        rw [replies, replyPhase]
        split
        · exact .inl rfl
        · exact .inr rfl
      have packet_eq := framed.trans (currentPacket_eq keeps).symm
      exact ⟨_, _, .awaiting either (keeps.policy_eq.symm ▸ counted.symm),
        .awaiting keeps.policy_eq rfl either resting packet_eq counted.symm⟩
  | completed completes _ => simp [completes, SendPhase.finished] at unfinished
  | first _ _ _ doing | again _ _ _ _ _ doing | canceling doing | ended doing =>
      simp [doing] at rests

/-- A sender between two steps gives up on a receiver that falls silent. -/
theorem endsInSilence_of_converses
    (talks : Converses (start policy source begun) moments sender)
    (pauses : sender.paused = true)
    (unfinished : sender.phase.finished = false) :
    ∃ signs reason, Outlook sender signs reason ∧
      EndsInSilence waits progress sender signs reason sender.cursor := by
  obtain ⟨reason, signs, outlook, wanes⟩ := exists_waning talks pauses unfinished
  obtain ⟨stage, -, stands⟩ := exists_treads talks
  exact ⟨signs, reason, outlook,
    (fades policy sender.cursor reason).endsInSilence (tires policy source) wanes ⟨stage, stands⟩⟩

end Standing
end Sender

namespace Receiver

/-- Whether a receiver stands before its first step or between two of them. -/
def paused (receiver : Receiver τ) : Bool :=
  match receiver.activity with
  | .idle | .between => true
  | _ => false

theorem paused_iff (receiver : Receiver τ) :
    receiver.paused = true ↔ receiver.activity = .idle ∨ receiver.activity = .between := by
  unfold paused
  split <;> simp_all

/-- The signs of a receiver that asks for the start some more times, always in vain. -/
def requests (mode : ChecksumMode) (count : Nat) : List Sign :=
  (List.replicate count [.wrote [Writing.request.byte mode], .silence]).flatten

theorem requests_succ (mode : ChecksumMode) (count : Nat) :
    requests mode (count + 1) =
      .wrote [Writing.request.byte mode] :: .silence :: requests mode count := rfl

/-- What a receiver between two steps shows on a line that is silent from now on, and why it gives
up. -/
inductive Outlook (receiver : Receiver τ) : List Sign → AbortReason → Prop
  | calling {count : Nat} :
      receiver.phase = .awaitingStart → 0 < count →
      receiver.handshakeAttempts + count = receiver.setup.policy.maxHandshakeAttempts →
      Outlook receiver (requests receiver.setup.mode count) .noSender
  | standing {waits : Nat} :
      receiver.phase = .awaitingBlock ∨ receiver.phase = .awaitingEotOrBlock → 0 < waits →
      receiver.idlePeriods + waits = receiver.setup.policy.maxHandshakeAttempts →
      Outlook receiver (.replicate waits .silence) .timedOut

/-- What silence does not change. -/
def holdings (receiver : Receiver τ) : Destination × Nat × Nat × Nat :=
  (receiver.destination, receiver.cursor, receiver.transferred, receiver.metrics.bytes)

/-- What a receiver within a step or between two of them shows on a line that is silent from now on,
and why it gives up. -/
inductive Waning (setup : Setup τ) (transferred : Nat) :
    AbortReason → List Sign → Receiver τ → Prop
  | calling {receiver : Receiver τ} {count : Nat} :
      receiver.setup = setup → receiver.transferred = transferred →
      receiver.phase = .awaitingStart →
      receiver.activity = .idle ∨ receiver.activity = .between ∨
        receiver.activity = .writing .request →
      0 < count → receiver.handshakeAttempts + count = setup.policy.maxHandshakeAttempts →
      Waning setup transferred .noSender (requests setup.mode count) receiver
  | called {receiver : Receiver τ} {count : Nat} {deadline : τ} :
      receiver.setup = setup → receiver.transferred = transferred →
      receiver.phase = .awaitingStart → receiver.activity = .listening deadline →
      receiver.handshakeAttempts + 1 + count = setup.policy.maxHandshakeAttempts →
      Waning setup transferred .noSender (.silence :: requests setup.mode count) receiver
  | standing {receiver : Receiver τ} {waits : Nat} :
      receiver.setup = setup → receiver.transferred = transferred →
      receiver.phase = .awaitingBlock ∨ receiver.phase = .awaitingEotOrBlock →
      receiver.activity = .between ∨ (∃ deadline, receiver.activity = .listening deadline) →
      0 < waits → receiver.idlePeriods + waits = setup.policy.maxHandshakeAttempts →
      Waning setup transferred .timedOut (.replicate waits .silence) receiver
  | ended {receiver : Receiver τ} {cause : AbortCause} {reason : AbortReason} :
      receiver.activity = .ended (.error ⟨cause, transferred⟩) → cause.reason = reason →
      Waning setup transferred reason [] receiver

section Reactions

variable {setup : Setup τ} {transferred : Nat} {reason : AbortReason} {signs : List Sign}
  {sign : Option Sign} {receiver : Receiver τ} {result : Receiver τ × List (Event τ)} {now : τ}
  {initial : Destination} {course : Course}

theorem transferred_abort (incomplete : receiver.phase ≠ .completed) (now : τ)
    (cause : AbortCause) :
    (receiver.abort now cause).1.transferred = receiver.transferred := by
  simp only [transferred, abort, close, incomplete, if_false, reduceCtorEq]

theorem holdings_abort (incomplete : receiver.phase ≠ .completed) (cause : AbortCause) :
    (receiver.abort now cause).1.holdings = receiver.holdings := by
  unfold holdings
  rw [transferred_abort incomplete]
  rfl

theorem ended_abort (incomplete : receiver.phase ≠ .completed) (cause : AbortCause) :
    (receiver.abort now cause).1.activity = .ended (.error ⟨cause, receiver.transferred⟩) := by
  rw [← transferred_abort incomplete now cause]
  rfl

theorem Reacts.of_listening_quiet {deadline : τ} (reacts : Reacts receiver now sign result)
    (listens : receiver.activity = .listening deadline) (quiet : ∀ shown ∈ sign, shown.Quiet) :
    sign = some .silence ∧ result = receiver.heardNothing now := by
  obtain ⟨value, rfl, -⟩ | expired | ⟨fault, rfl, -⟩ := reacts.of_listening listens
  · exact absurd (quiet _ rfl) nofun
  · exact expired
  · exact absurd (quiet _ rfl) nofun

theorem waning_unheard {count : Nat} (same : receiver.setup = setup)
    (stays : receiver.transferred = transferred) (calls : receiver.phase = .awaitingStart)
    (counted : receiver.handshakeAttempts + 1 + count = setup.policy.maxHandshakeAttempts) :
    Waning setup transferred .noSender (requests setup.mode count) (receiver.heardNothing now).1 ∧
      (receiver.heardNothing now).1.holdings = receiver.holdings := by
  obtain ⟨early, becomes⟩ | ⟨late, becomes⟩ := receiver.heardNothing_cases now calls
  · rw [same] at early
    rw [becomes]
    exact ⟨.calling same stays calls (.inr (.inl rfl)) (by omega) counted, rfl⟩
  · rw [same] at late
    obtain rfl : count = 0 := by omega
    have incomplete : receiver.unheard.phase ≠ .completed := by
      change receiver.phase ≠ .completed
      simp [calls]
    have stays : receiver.unheard.transferred = transferred := stays
    rw [becomes, ← stays]
    exact ⟨.ended (ended_abort incomplete _) rfl, holdings_abort incomplete _⟩

theorem waning_lapsed {waits : Nat} (same : receiver.setup = setup)
    (stays : receiver.transferred = transferred)
    (met : receiver.phase = .awaitingBlock ∨ receiver.phase = .awaitingEotOrBlock)
    (left : 0 < waits) (counted : receiver.idlePeriods + waits = setup.policy.maxHandshakeAttempts)
    (idleness : Idleness) :
    ∃ later, List.replicate waits Sign.silence = .silence :: later ∧
      Waning setup transferred .timedOut later (receiver.idle now idleness).1 ∧
      (receiver.idle now idleness).1.holdings = receiver.holdings := by
  obtain ⟨waits, rfl⟩ := Nat.exists_eq_add_one.mpr left
  refine ⟨.replicate waits .silence, List.replicate_succ, ?_⟩
  obtain ⟨early, becomes⟩ | ⟨late, becomes⟩ := receiver.idle_cases now idleness
  · rw [same] at early
    rw [becomes]
    have counted : receiver.idlePeriods + 1 + waits = setup.policy.maxHandshakeAttempts := by omega
    exact ⟨.standing same stays met (.inl rfl) (by omega) counted, rfl⟩
  · rw [same] at late
    obtain rfl : waits = 0 := by omega
    have incomplete : receiver.lapsed.phase ≠ .completed := by
      change receiver.phase ≠ .completed
      obtain phase_eq | phase_eq := met <;> simp [phase_eq]
    have stays : receiver.lapsed.transferred = transferred := stays
    rw [becomes, ← stays]
    exact ⟨.ended (ended_abort incomplete _) rfl, holdings_abort incomplete _⟩

/-- Every moment of silence uses up what a receiver yet shows. -/
theorem Waning.react (wanes : Waning setup transferred reason signs receiver)
    (reacts : Reacts receiver now sign result) (quiet : ∀ shown ∈ sign, shown.Quiet) :
    ∃ later, signs = sign.toList ++ later ∧ Waning setup transferred reason later result.1 ∧
      result.1.holdings = receiver.holdings := by
  cases wanes with
  | calling same stays calls rests left counted =>
      obtain idle | between | asks := rests
      · obtain ⟨rfl, rfl⟩ := reacts.of_idle idle
        exact ⟨_, rfl, .calling same stays calls (.inr (.inl rfl)) left counted, rfl⟩
      · obtain ⟨rfl, rfl⟩ := reacts.of_between between
        have begins : receiver.beginStep now =
            ({ receiver with activity := .writing .request }, []) := by
          simp only [beginStep, calls]
        rw [begins]
        exact ⟨_, rfl, .calling same stays calls (.inr (.inr rfl)) left counted, rfl⟩
      · obtain ⟨rfl, rfl⟩ | ⟨fault, rfl, -⟩ := reacts.of_writing asks
        · obtain ⟨count, rfl⟩ := Nat.exists_eq_add_one.mpr left
          have counted : receiver.handshakeAttempts + 1 + count =
              setup.policy.maxHandshakeAttempts := by omega
          rw [requests_succ, same]
          exact ⟨_, rfl, .called same stays calls rfl counted, rfl⟩
        · cases quiet _ rfl
  | called same stays calls listens counted =>
      obtain ⟨rfl, rfl⟩ := reacts.of_listening_quiet listens quiet
      exact ⟨_, rfl, waning_unheard same stays calls counted⟩
  | standing same stays met rests left counted =>
      have begun : receiver.phase ≠ .awaitingStart := by
        obtain phase_eq | phase_eq := met <;> simp [phase_eq]
      obtain between | ⟨deadline, listens⟩ := rests
      · obtain ⟨rfl, rfl⟩ := reacts.of_between between
        have begins : receiver.beginStep now = (receiver.listen now, []) := by
          obtain phase_eq | phase_eq := met <;> simp only [beginStep, phase_eq]
        rw [begins]
        exact ⟨_, rfl, .standing same stays met (.inr ⟨_, rfl⟩) left counted, rfl⟩
      · obtain ⟨rfl, rfl⟩ := reacts.of_listening_quiet listens quiet
        have idles : receiver.heardNothing now = receiver.idle now .noBlock := if_neg begun
        rw [idles]
        exact waning_lapsed same stays met left counted .noBlock
  | ended gave_up _ => exact absurd reacts (Reacts.not_of_ended gave_up)

theorem fades (setup : Setup τ) (transferred : Nat) (reason : AbortReason) :
    Fades waits (holdings (τ := τ)) reason transferred (Waning setup transferred reason) where
  step moment _ valid quiet wanes :=
    wanes.react (reacts_of_valid valid) (moment.quiet_sign quiet)
  ends receiver signs outcome wanes ended := by
    have stopped := outcome?_eq_some_iff.mp ended
    cases wanes with
    | ended gave_up reason_eq =>
        obtain rfl := Activity.ended.inj (stopped.symm.trans gave_up)
        exact ⟨rfl, _, rfl, reason_eq⟩
    | calling _ _ _ rests | standing _ _ _ rests => simp [stopped] at rests
    | called _ _ _ doing => simp [stopped] at doing

theorem phase_meetSender_ne (receiver : Receiver τ) :
    receiver.meetSender.1.phase ≠ .awaitingStart := by
  unfold meetSender
  split
  · unfold waitingPhase
    split <;> exact nofun
  · assumption

theorem heard_calling_cases (receiver : Receiver τ) (now : τ) (value : UInt8) :
    (receiver.heard now value).1 = receiver ∨
      (receiver.heard now value).1.phase ≠ .awaitingStart := by
  obtain ⟨-, becomes⟩ | ⟨-, becomes⟩ | ⟨-, cause, -, becomes⟩ | ⟨-, same⟩ :=
    receiver.heard_cases now value
  · rw [becomes]
    exact .inr receiver.phase_meetSender_ne
  · rw [becomes]
    unfold endOfTransmission
    split <;> exact .inr receiver.phase_meetSender_ne
  · rw [becomes]
    exact .inr nofun
  · exact .inl same

/-- What becomes of a receiver that calls, as long as it calls. -/
theorem unstarted_of_calling (stands : At setup initial course receiver)
    (called : receiver.phase = .awaitingStart) (reacts : Reacts receiver now sign result)
    (calls : result.1.phase = .awaitingStart) :
    result.1.handshakeAttempts = receiver.handshakeAttempts ∨
      result.1.handshakeAttempts < receiver.setup.policy.maxHandshakeAttempts := by
  obtain idle | between | asks | ⟨deadline, listens⟩ := stands.rests_of_calls called
  · obtain ⟨rfl, rfl⟩ := reacts.of_idle idle
    exact .inl rfl
  · obtain ⟨rfl, rfl⟩ := reacts.of_between between
    simp only [beginStep, called, true_or]
  · obtain ⟨rfl, rfl⟩ | ⟨fault, rfl, rfl⟩ := reacts.of_writing asks
    · exact .inl rfl
    · cases calls
  · obtain ⟨value, rfl, rfl⟩ | ⟨rfl, rfl⟩ | ⟨fault, rfl, rfl⟩ := reacts.of_listening listens
    · obtain same | other := receiver.heard_calling_cases now value
      · exact .inl (by rw [same])
      · exact absurd calls other
    · obtain ⟨early, becomes⟩ | ⟨-, becomes⟩ := receiver.heardNothing_cases now called
      · rw [becomes]
        exact .inr early
      · rw [becomes] at calls
        cases calls
    · cases calls

theorem called_of_calls (stands : At setup initial course receiver)
    (reacts : Reacts receiver now sign result) (calls : result.1.phase = .awaitingStart) :
    receiver.phase = .awaitingStart := by
  obtain ⟨later, passes, arrives⟩ := stands.exists_passes reacts
  have calling := arrives.stage_of_calls calls
  generalize deedOf receiver sign result = deed at passes
  have called : course.stage = .calling := by
    cases passes <;> first | exact calling | cases calling
  cases stands with
  | calling _ unstarted _ => exact unstarted
  | standing | collecting | draining | accepting | answering | completed | canceling
  | finished => cases called

end Reactions

section Standing

variable {setup : Setup τ} {initial : Destination} {begun : τ} {receiver : Receiver τ}
  {moments : List (Moment (Receiver τ) τ)}

/-- As long as a receiver calls, it bears one more silent wait. -/
theorem handshakes_lt_of_converses (talks : Converses (start setup initial begun) moments receiver)
    (calls : receiver.phase = .awaitingStart) :
    receiver.handshakeAttempts < setup.policy.maxHandshakeAttempts := by
  induction talks with
  | silent => exact setup.policy.maxHandshakeAttempts_pos
  | @step moments moment talks valid induction =>
      obtain ⟨course, -, stands⟩ := exists_treads talks
      have reacts := reacts_of_valid valid
      have called := called_of_calls stands reacts calls
      have attempts := unstarted_of_calling stands called reacts calls
      rw [stands.keeps.setup_eq] at attempts
      exact attempts.elim (fun attempts_eq => attempts_eq ▸ induction called) id

theorem exists_waning (talks : Converses (start setup initial begun) moments receiver)
    (pauses : receiver.paused = true)
    (unfinished : receiver.phase.finished = false) :
    ∃ reason signs, Outlook receiver signs reason ∧
      Waning setup receiver.transferred reason signs receiver := by
  have rests := receiver.paused_iff.mp pauses
  obtain ⟨course, -, stands⟩ := exists_treads talks
  have same := stands.keeps.setup_eq
  cases stands with
  | calling _ calls _ =>
      obtain ⟨waits, counted⟩ :=
        Nat.exists_eq_add_of_lt (handshakes_lt_of_converses talks calls)
      have counted : receiver.handshakeAttempts + (waits + 1) =
          setup.policy.maxHandshakeAttempts := by omega
      have resting := rests.imp_right (Or.inl (b := receiver.activity = .writing .request))
      refine ⟨_, _, .calling calls waits.succ_pos (same.symm ▸ counted), ?_⟩
      rw [same]
      exact .calling same rfl calls resting waits.succ_pos counted
  | standing _ met resting =>
      have patient : receiver.idlePeriods < setup.policy.maxHandshakeAttempts := by
        cases patient_of_converses talks with
        | bears early _ => exact early
        | gaveUp _ ended => simp [ended] at rests
      obtain ⟨waits, counted⟩ := Nat.exists_eq_add_of_lt patient
      have counted : receiver.idlePeriods + (waits + 1) = setup.policy.maxHandshakeAttempts := by
        omega
      have either : receiver.phase = .awaitingBlock ∨ receiver.phase = .awaitingEotOrBlock := by
        rw [met, phaseAt]
        split
        · exact .inr rfl
        · exact .inl rfl
      exact ⟨_, _, .standing either waits.succ_pos (same.symm ▸ counted),
        .standing same rfl either resting waits.succ_pos counted⟩
  | completed _ completes _ => simp [completes, ReceivePhase.finished] at unfinished
  | collecting _ _ doing | draining _ _ doing | accepting _ _ doing | answering _ _ _ doing
  | canceling _ _ doing | finished _ _ doing => simp [doing] at rests

/-- A receiver between two steps gives up on a sender that falls silent. -/
theorem endsInSilence_of_converses
    (talks : Converses (start setup initial begun) moments receiver)
    (pauses : receiver.paused = true)
    (unfinished : receiver.phase.finished = false) :
    ∃ signs reason, Outlook receiver signs reason ∧
      EndsInSilence waits holdings receiver signs reason receiver.transferred := by
  obtain ⟨reason, signs, outlook, wanes⟩ := exists_waning talks pauses unfinished
  obtain ⟨course, -, stands⟩ := exists_treads talks
  exact ⟨signs, reason, outlook, (fades setup receiver.transferred reason).endsInSilence
    (tires setup) wanes ⟨initial, course, stands⟩⟩

end Standing
end Receiver

/-- Between two steps, a session of any history that is not over gives up on a peer that falls
silent: a sender that calls when its handshakes are used up, a sender that waits for an answer when
all retries of its packet were written in vain, a receiver that calls when all its requests were
written in vain, and a receiver that has met its sender when its idle periods are used up. -/
theorem silent_peers_are_given_up_on (policy : RetryPolicy τ) (source : List UInt8)
    (setup : Receiver.Setup τ) (initial : Destination) (begun : τ) :
    (∀ moments sender, Converses (Sender.start policy source begun) moments sender →
      sender.paused = true → sender.phase.finished = false →
        ∃ signs reason, sender.Outlook signs reason ∧
          EndsInSilence Sender.waits Sender.progress sender signs reason sender.cursor) ∧
      (∀ moments receiver, Converses (Receiver.start setup initial begun) moments receiver →
        receiver.paused = true → receiver.phase.finished = false →
          ∃ signs reason, receiver.Outlook signs reason ∧
            EndsInSilence Receiver.waits Receiver.holdings receiver signs reason
              receiver.transferred) :=
  ⟨fun _ _ => Sender.endsInSilence_of_converses, fun _ _ => Receiver.endsInSilence_of_converses⟩

/-- A sender that has sent its first block twice, and a receiver that has stored it and waited once
for the next one. -/
theorem silent_peers_are_given_up_on_after_block :
    let source : List UInt8 := [1, 2, 3]
    let setup : Receiver.Setup Rat := ⟨.brief, .additive, none, false⟩
    (∃ moments sender, Converses (Sender.start .brief source 0) moments sender ∧
        sender.attempts = 1 ∧ ∃ signs reason, sender.Outlook signs reason ∧
          EndsInSilence Sender.waits Sender.progress sender signs reason sender.cursor) ∧
      (∃ moments receiver, Converses (Receiver.start setup (.filled 3 0) 0) moments receiver ∧
        receiver.cursor = 3 ∧ receiver.idlePeriods = 1 ∧
        ∃ signs reason, receiver.Outlook signs reason ∧
          EndsInSilence Receiver.waits Receiver.holdings receiver signs reason
            receiver.transferred) := by
  intro source setup
  have given_up := silent_peers_are_given_up_on .brief source setup (.filled 3 0) 0
  constructor
  · let line : ScriptedLine Rat := ⟨[.byte (Signal.byte .requestAdditive)], none, [], 0⟩
    let run := Run.mk (Sender.start .brief source 0) line 0 []
    have stands : (run.talk 8).2.session.attempts = 1 ∧
        (run.talk 8).2.session.paused = true ∧
        (run.talk 8).2.session.phase.finished = false := by
      decide +kernel
    obtain ⟨attempts, pauses, unfinished⟩ := stands
    have talks := run.converses_talk 8
    exact ⟨_, _, talks, attempts, given_up.1 _ _ talks pauses unfinished⟩
  · let frame := Frame.encode .additive (Packets.block source 0)
    let line : ScriptedLine Rat := ⟨frame.map .byte, none, [], 0⟩
    let run := Run.mk (Receiver.start setup (.filled 3 0) 0) line 0 []
    have stands : (run.talk 138).2.session.cursor = 3 ∧
        (run.talk 138).2.session.idlePeriods = 1 ∧
        (run.talk 138).2.session.paused = true ∧
        (run.talk 138).2.session.phase.finished = false := by
      decide +kernel
    obtain ⟨stored, idle, pauses, unfinished⟩ := stands
    have talks := run.converses_talk 138
    exact ⟨_, _, talks, stored, idle, given_up.2 _ _ talks pauses unfinished⟩

end Xmodem
