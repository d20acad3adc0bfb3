import Xmodem.Proofs.Cancellation
import Xmodem.Proofs.Sender.Verdict

/-!
# How replies judge a sender

At every moment a sender that was called knows what the replies so far come to: how many packets
went through, and how often the current one failed.  So its outcome, and the progress that it
reports, are those that the replies decide.
-/

namespace Xmodem
namespace Sender

open Packets
open Destination (offset)
open Receiver (milestones milestones_succ)

variable {τ : Type} [Quantity τ]

section Totals

variable {sender : Sender τ} {now : τ}

theorem totals_retry (sender : Sender τ) (trigger : RetryTrigger) :
    Event.totals .sent (sender.retry trigger).2 = [] := by
  unfold retry
  split <;> rfl

theorem totals_heardNothing (sender : Sender τ) (now : τ) :
    Event.totals .sent (sender.heardNothing now).2 = [] := by
  unfold heardNothing
  by_cases calls : sender.phase = .awaitingStart
  · simp only [calls, if_true]
    split <;> rfl
  · simp only [calls, if_false]
    exact totals_retry _ _

theorem totals_beginStep (sender : Sender τ) (now : τ) :
    Event.totals .sent (sender.beginStep now).2 = [] := by
  unfold beginStep
  split <;> rfl

theorem totals_wrote (sender : Sender τ) (now : τ) (purpose : Writing) :
    Event.totals .sent (sender.wrote now purpose).2 = [] := by
  cases purpose with
  | first =>
      by_cases sends : sender.phase = .sendingBlock
      · simp only [wrote, sends, if_true]
        rfl
      · simp only [wrote, sends, if_false]
        rfl
  | again | cancel => rfl

/-- Only an acknowledgement is reported as progress. -/
theorem totals_heard (sender : Sender τ) (now : τ) {value : UInt8}
    (other : value ≠ Signal.byte .acknowledge ∨ sender.phase = .awaitingStart) :
    Event.totals .sent (sender.heard now value).2 = [] := by
  unfold heard
  split
  · unfold heardAtStart
    split <;> rfl
  · rename_i begun
    unfold heardReply
    split
    case h_1 kind =>
      have same := PacketKind.leadingByte_of_ofLeadingByte? kind
      exact absurd same.symm (other.resolve_right begun)
    case h_2 => exact totals_retry _ _
    case h_3 | h_4 => rfl

theorem totals_next (sender : Sender τ) (now : τ) {answer : Answer}
    (other : answer ≠ .byte (Signal.byte .acknowledge) ∨ sender.phase = .awaitingStart) :
    Event.totals .sent (sender.next now answer).2 = [] := by
  unfold next
  split
  case h_2 => exact totals_beginStep sender now
  case h_3 =>
    split
    · exact totals_heardNothing sender now
    · rfl
  case h_4 => exact totals_heardNothing sender now
  case h_5 value _ =>
    exact totals_heard sender now (other.imp_left fun differs same => differs (same ▸ rfl))
  case h_6 => exact totals_wrote sender now _
  all_goals rfl

theorem totals_acknowledged (sender : Sender τ) :
    Event.totals .sent sender.acknowledged.2 =
      if sender.phase = .awaitingEotAck then [] else [sender.acknowledged.1.cursor] := by
  by_cases ends : sender.phase = .awaitingEotAck
  · rw [acknowledged_of_last ends, if_pos ends]
    rfl
  · rw [acknowledged_of_block ends, if_neg ends]
    rfl

end Totals

/-- Which outcomes a verdict has, given the length of the source and what was transferred. -/
inductive Verdict.Yields (length transferred : Nat) : Verdict → Outcome → Prop
  | delivered : Yields length transferred .delivered (.ok length)
  | spent {cause : AbortCause} : cause.reason = .tooManyRetries →
      Yields length transferred .spent (.error ⟨cause, transferred⟩)
  | canceled {cause : AbortCause} : cause.reason = .canceledByPeer →
      Yields length transferred .canceled (.error ⟨cause, transferred⟩)

/-- What was made of the replies so far, and the progress that was reported meanwhile. -/
structure Counted (policy : RetryPolicy τ) (source : List UInt8) (signs : List Sign)
    (totals : List Nat) (result : Score) : Prop where
  called : ∃ sign ∈ signs, Calls sign
  score_eq : score policy.maxRetries (blockCount source + 1) (answers signs) = result
  totals_eq : totals = milestones source.length (min result.count (blockCount source))

/-- What the replies so far mean for a sender at a stage. -/
inductive Weighs (policy : RetryPolicy τ) (source : List UInt8) (signs : List Sign)
    (totals : List Nat) : Stage → Sender τ → Prop
  | calling {sender : Sender τ} :
      (∀ sign ∈ signs, ¬ Calls sign) → totals = [] →
      Weighs policy source signs totals .calling sender
  | sending {sender : Sender τ} {mode : ChecksumMode} {place copies : Nat} :
      Counted policy source signs totals ⟨place, copies, none⟩ →
      Weighs policy source signs totals (.sending mode place copies) sender
  | awaiting {sender : Sender τ} {mode : ChecksumMode} {place attempts : Nat} :
      Counted policy source signs totals ⟨place, attempts, none⟩ →
      Weighs policy source signs totals (.awaiting mode place (attempts + 1)) sender
  | canceling {sender : Sender τ} {mode : ChecksumMode} {place failures : Nat}
      {cause : AbortCause} :
      Counted policy source signs totals ⟨place, failures, some .spent⟩ →
      sender.activity = .writing (.cancel cause) → cause.reason = .tooManyRetries →
      sender.cursor = offset source.length place →
      Weighs policy source signs totals (.canceling mode place) sender
  | completed {sender : Sender τ} {count failures : Nat} :
      Counted policy source signs totals ⟨count, failures, some .delivered⟩ →
      sender.phase = .completed → sender.activity = .between → sender.cursor = source.length →
      Weighs policy source signs totals .finished sender
  | ended {sender : Sender τ} {count failures : Nat} {verdict : Verdict} {outcome : Outcome} :
      Counted policy source signs totals ⟨count, failures, some verdict⟩ →
      sender.activity = .ended outcome →
      verdict.Yields source.length (offset source.length count) outcome →
      Weighs policy source signs totals .finished sender
  | uncalled {sender : Sender τ} :
      (∀ sign ∈ signs, ¬ Calls sign) → Weighs policy source signs totals .finished sender
  | broken {sender : Sender τ} :
      ¬ Intact signs → Weighs policy source signs totals .finished sender

section Weighing

variable {policy : RetryPolicy τ} {source : List UInt8} {signs : List Sign} {totals : List Nat}
  {sign : Sign} {mode : ChecksumMode} {place attempts : Nat} {result : Score}

theorem calls_append (uncalled : ∀ other ∈ signs, ¬ Calls other) (other : ¬ Calls sign) :
    ∀ later ∈ signs ++ [sign], ¬ Calls later := by
  simpa [or_imp, forall_and] using ⟨uncalled, other⟩

theorem Counted.meet (counted : Counted policy source signs totals result)
    (unanswered : Reply.of? sign = none) :
    Counted policy source (signs ++ [sign]) totals result := by
  obtain ⟨called, score_eq, totals_eq⟩ := counted
  have same := answers_append_of_called called sign
  obtain ⟨other, member, calls⟩ := called
  refine ⟨⟨other, List.mem_append_left _ member, calls⟩, ?_, totals_eq⟩
  rw [same, unanswered, Option.toList_none, List.append_nil]
  exact score_eq

theorem Counted.note {reply : Reply} {next : Score} {later : List Nat}
    (counted : Counted policy source signs totals result) (answered : Reply.of? sign = some reply)
    (noted : result.note policy.maxRetries (blockCount source + 1) reply = next)
    (later_eq : later = milestones source.length (min next.count (blockCount source))) :
    Counted policy source (signs ++ [sign]) later next := by
  obtain ⟨called, score_eq, -⟩ := counted
  have same := answers_append_of_called called sign
  obtain ⟨other, member, calls⟩ := called
  refine ⟨⟨other, List.mem_append_left _ member, calls⟩, ?_, later_eq⟩
  rw [same, answered, Option.toList_some, score_append_singleton, score_eq, noted]

theorem Counted.fail (counted : Counted policy source signs totals ⟨place, attempts, none⟩)
    (failure : Failure sign) :
    Counted policy source (signs ++ [sign]) totals
      ⟨place, attempts + 1, if attempts = policy.maxRetries then some .spent else none⟩ := by
  obtain ⟨reply, answered, fails⟩ := Reply.exists_of_failure failure
  exact counted.note answered (Score.note_of_fails fails ..) counted.totals_eq

theorem Counted.acknowledge {later : List Nat}
    (counted : Counted policy source signs totals ⟨place, attempts, none⟩)
    (later_eq : later = milestones source.length (min (place + 1) (blockCount source))) :
    Counted policy source (signs ++ [.heard (Signal.byte .acknowledge)]) later
      ⟨place + 1, 0, if place = blockCount source then some .delivered else none⟩ := by
  have answered : Reply.of? (.heard (Signal.byte .acknowledge)) = some .acknowledged := rfl
  refine counted.note answered ?_ later_eq
  simp only [Score.note, Nat.add_right_cancel_iff]

theorem counted_call (uncalled : ∀ other ∈ signs, ¬ Calls other) (calls : Calls sign) :
    Counted policy source (signs ++ [sign]) [] ⟨0, 0, none⟩ := by
  refine ⟨⟨sign, by simp, calls⟩, ?_, ?_⟩
  · rw [answers_append_of_uncalled uncalled]
    rfl
  · rw [Nat.zero_min]
    rfl

end Weighing

section Reactions

variable {policy : RetryPolicy τ} {source : List UInt8} {signs : List Sign} {totals : List Nat}
  {stage : Stage} {sender after : Sender τ} {now : τ} {sign : Sign}
  {moment : Moment (Sender τ) τ}

/-- A failure makes a sender that waits for an answer send its packet again, or give up. -/
theorem Reacts.exists_retry (reacts : Reacts sender now (some sign) after)
    (begun : sender.phase ≠ .awaitingStart) (failure : Failure sign) :
    ∃ metrics trigger, after = ({ sender with metrics := metrics }.retry trigger).1 := by
  obtain rfl | rfl := failure
  · obtain ⟨-, becomes⟩ := reacts.of_heard
    unfold heard at becomes
    rw [if_neg begun] at becomes
    exact ⟨{ sender.metrics with naks := sender.metrics.naks + 1 }, .nak, becomes⟩
  · cases reacts with
    | expire _ => exact ⟨_, .timeout, congrArg Prod.fst (heardNothing_eq_retry now begun)⟩

theorem answer_eq_of_heard {value : UInt8} (shown : moment.sign? waits = some (.heard value)) :
    moment.answer = .byte value := by
  unfold Moment.sign? Sign.of? at shown
  split at shown <;> simp_all

theorem sign?_eq_of_byte {value : UInt8} (valid : moment.Valid)
    (answered : moment.answer = .byte value) : moment.sign? waits = some (.heard value) := by
  have allowed := valid.allowed
  unfold Moment.sign?
  rw [answered] at allowed ⊢
  generalize moment.action = action at allowed
  cases allowed
  rfl

theorem totals_events (valid : moment.Valid)
    (other : moment.sign? waits ≠ some (.heard (Signal.byte .acknowledge)) ∨
      moment.session.phase = .awaitingStart) :
    Event.totals .sent moment.events = [] :=
  totals_next _ _ (other.imp_left fun differs same => differs (sign?_eq_of_byte valid same))

theorem totals_acknowledgement (valid : moment.Valid)
    (shown : moment.sign? waits = some (.heard (Signal.byte .acknowledge)))
    (begun : moment.session.phase ≠ .awaitingStart) :
    moment.after = moment.session.acknowledged.1 ∧
      Event.totals .sent moment.events =
        if moment.session.phase = .awaitingEotAck then []
        else [moment.session.acknowledged.1.cursor] := by
  have reacts := reacts_of_valid valid
  rw [shown] at reacts
  obtain ⟨⟨_, listens⟩, becomes⟩ := reacts.of_heard
  have hears : moment.session.heard moment.answered (Signal.byte .acknowledge) =
      moment.session.acknowledged := if_neg begun
  have events_eq : moment.events = moment.session.acknowledged.2 := by
    rw [← hears, ← next_listening_byte listens, ← answer_eq_of_heard shown]
    rfl
  rw [becomes, hears, events_eq]
  exact ⟨rfl, totals_acknowledged _⟩

variable {mode : ChecksumMode} {place attempts : Nat}

theorem weighs_exhaust
    (counted : Counted policy source signs totals ⟨place, policy.maxRetries, none⟩)
    (keeps : Keeps policy source (some mode) place policy.maxRetries sender)
    (begun : sender.phase ≠ .awaitingStart) (failure : Failure sign)
    (reacts : Reacts sender now (some sign) after) :
    Weighs policy source (signs ++ [sign]) totals (.canceling mode place) after := by
  have noted := counted.fail failure
  rw [if_pos rfl] at noted
  obtain ⟨metrics, trigger, becomes⟩ := reacts.exists_retry begun failure
  obtain ⟨left, -⟩ | ⟨-, gave_up⟩ := { sender with metrics := metrics }.retry_cases trigger
  · have left : sender.attempts < sender.policy.maxRetries := left
    rw [keeps.attempts_eq, keeps.policy_eq] at left
    exact absurd left (Nat.lt_irrefl _)
  · rw [becomes, gave_up]
    exact .canceling noted rfl rfl keeps.cursor_eq

theorem weighs_canceled
    (counted : Counted policy source signs totals ⟨place, attempts, none⟩)
    (keeps : Keeps policy source (some mode) place attempts sender)
    (reacts : Reacts sender now (some (.heard (Signal.byte .cancel))) after) :
    Weighs policy source (signs ++ [.heard (Signal.byte .cancel)]) totals .finished after := by
  have answered : Reply.of? (.heard (Signal.byte .cancel)) = some .canceled := rfl
  have noted := counted.note answered rfl counted.totals_eq
  obtain ⟨-, becomes⟩ := reacts.of_heard
  obtain ⟨cause, peer, aborts⟩ := sender.exists_heard_cancel now
  have cursor_eq : sender.cursor = offset source.length place := keeps.cursor_eq
  have outcome_eq : (sender.abort now cause).1.activity =
      .ended (.error ⟨cause, offset source.length place⟩) := by
    rw [← cursor_eq]
    rfl
  rw [becomes, aborts]
  exact .ended noted outcome_eq (.canceled peer)

theorem weighs_advance (valid : moment.Valid)
    (counted : Counted policy source signs totals ⟨place, attempts, none⟩)
    (keeps : Keeps policy source (some mode) place attempts moment.session)
    (replies : moment.session.phase = replyPhase source place) (inside : place < blockCount source)
    (shown : moment.sign? waits = some (.heard (Signal.byte .acknowledge))) :
    Weighs policy source (signs ++ [.heard (Signal.byte .acknowledge)])
      (totals ++ Event.totals .sent moment.events) (.sending mode (place + 1) 0) moment.after := by
  have moves : moment.session.phase = .awaitingAck := by
    simp [replies, replyPhase, inside]
  obtain ⟨-, reported⟩ := totals_acknowledgement valid shown (by simp [moves])
  have cursor_eq : moment.session.acknowledged.1.cursor = offset source.length (place + 1) := by
    rw [acknowledged_of_block (by simp [moves])]
    exact (keeps.advance inside).cursor_eq
  have later_eq : totals ++ [offset source.length (place + 1)] =
      milestones source.length (min (place + 1) (blockCount source)) := by
    have before : min place (blockCount source) = place := Nat.min_eq_left inside.le
    have after : min (place + 1) (blockCount source) = place + 1 := Nat.min_eq_left inside
    rw [counted.totals_eq, before, after, milestones_succ]
  have noted := counted.acknowledge later_eq
  rw [if_neg inside.ne] at noted
  rw [reported, if_neg (by simp [moves]), cursor_eq]
  exact .sending noted

theorem weighs_finish (valid : moment.Valid)
    (counted : Counted policy source signs totals ⟨blockCount source, attempts, none⟩)
    (keeps : Keeps policy source (some mode) (blockCount source) attempts moment.session)
    (replies : moment.session.phase = replyPhase source (blockCount source))
    (shown : moment.sign? waits = some (.heard (Signal.byte .acknowledge))) :
    Weighs policy source (signs ++ [.heard (Signal.byte .acknowledge)])
      (totals ++ Event.totals .sent moment.events) .finished moment.after := by
  have ends : moment.session.phase = .awaitingEotAck := by
    simp [replies, replyPhase]
  obtain ⟨becomes, reported⟩ := totals_acknowledgement valid shown (by simp [ends])
  have later_eq : totals =
      milestones source.length (min (blockCount source + 1) (blockCount source)) := by
    rw [counted.totals_eq, Nat.min_self, Nat.min_eq_right (Nat.le_succ _)]
  have noted := counted.acknowledge later_eq
  rw [if_pos rfl] at noted
  have all := (blockCount_le_iff source _).mp (Nat.le_refl (blockCount source))
  have whole : moment.session.cursor = source.length := keeps.cursor_eq.trans (Nat.min_eq_right all)
  rw [reported, if_pos ends, List.append_nil, becomes]
  rw [acknowledged_of_last ends]
  exact .completed noted rfl rfl whole

theorem Weighs.stay (weighs : Weighs policy source signs totals stage sender)
    (reacts : Reacts sender now none after) : Weighs policy source signs totals stage after := by
  cases weighs with
  | calling uncalled nothing => exact .calling uncalled nothing
  | sending counted => exact .sending counted
  | awaiting counted => exact .awaiting counted
  | canceling _ writes _ _ =>
      obtain ⟨same, -⟩ | ⟨same, -⟩ := reacts.of_writing writes
      · cases same
      · cases same
  | @completed _ count failures counted completes between whole =>
      obtain ⟨-, rfl⟩ := reacts.of_between between
      have ends : (sender.beginStep now).1.activity = .ended (.ok source.length) := by
        simp only [beginStep, completes, complete, close, whole]
      exact .ended counted ends .delivered
  | ended _ ended _ => exact absurd reacts (Reacts.not_of_ended ended)
  | uncalled uncalled => exact .uncalled uncalled
  | broken broken => exact .broken broken

theorem not_calls_of_unasked {value : UInt8} (unasked : requested? value = none) :
    ¬ Calls (.heard value) := by
  rintro ⟨_, ⟨⟩, asks⟩
  exact asks unasked

theorem not_intact_append (fails : sign.Fails) : ¬ Intact (signs ++ [sign]) :=
  fun intact => intact sign (by simp) fails

theorem weighs_cancel (weighs : Weighs policy source signs totals (.canceling mode place) sender)
    (reacts : Reacts sender now (some sign) after) :
    Weighs policy source (signs ++ [sign]) totals .finished after := by
  cases weighs with
  | @canceling _ _ _ failures cause counted writes reason_eq cursor_eq =>
      obtain ⟨same, becomes⟩ | ⟨same, -⟩ := reacts.of_writing writes
      · obtain rfl := Option.some.inj same
        have ends : after.activity =
            .ended (.error ⟨cause, offset source.length place⟩) := by
          rw [becomes, ← cursor_eq]
          rfl
        exact .ended (counted.meet rfl) ends (.spent reason_eq)
      · obtain rfl := Option.some.inj same
        exact .broken (not_intact_append (Sign.fails_spoiled _))

/-- Every reaction of a sender takes account of its sign. -/
theorem Weighs.react (stands : At policy source stage moment.session)
    (weighs : Weighs policy source signs totals stage moment.session) (valid : moment.Valid) :
    ∃ later, At policy source later moment.after ∧
      Weighs policy source (signs ++ (moment.sign? waits).toList)
        (totals ++ Event.totals .sent moment.events) later moment.after := by
  have reacts := reacts_of_valid valid
  obtain ⟨later, passes, arrives⟩ := stands.exists_passes reacts
  refine ⟨later, arrives, ?_⟩
  have quiet := totals_events valid
  generalize shown : moment.sign? waits = sign at passes reacts quiet ⊢
  -- Without an acknowledgement nothing is reported.
  have unchanged (other : sign ≠ some (.heard (Signal.byte .acknowledge))) :
      totals ++ Event.totals .sent moment.events = totals := by
    rw [quiet (.inl other), List.append_nil]
  cases passes with
  | within =>
      rw [unchanged (by simp), Option.toList_none, List.append_nil]
      exact weighs.stay reacts
  | begin asks =>
      obtain ⟨uncalled, rfl⟩ := weighs
      obtain ⟨-, calls, -⟩ := stands
      rw [quiet (.inr calls)]
      exact .sending (counted_call uncalled ⟨_, rfl, by simp [asks]⟩)
  | ignore unasked other =>
      obtain ⟨uncalled, rfl⟩ := weighs
      obtain ⟨-, calls, -⟩ := stands
      rw [quiet (.inr calls)]
      exact .calling (calls_append uncalled (not_calls_of_unasked unasked)) rfl
  | call =>
      obtain ⟨uncalled, rfl⟩ := weighs
      rw [unchanged (by simp)]
      exact .calling (calls_append uncalled (by simp [Calls])) rfl
  | leave leaves =>
      obtain ⟨uncalled, rfl⟩ := weighs
      refine .uncalled (calls_append uncalled ?_)
      obtain rfl | rfl | rfl := leaves
      · exact not_calls_of_unasked rfl
      · simp [Calls]
      · simp [Calls]
  | send =>
      cases weighs with
      | sending counted =>
          rw [unchanged (by simp)]
          exact .awaiting (counted.meet rfl)
  | spoil => exact .broken (not_intact_append (Sign.fails_spoiled _))
  | advance inside =>
      obtain ⟨⟩ | ⟨⟩ | counted := weighs
      obtain ⟨⟩ | ⟨⟩ | ⟨⟩ | ⟨⟩ | ⟨keeps, replies, -, -, -⟩ := stands
      exact weighs_advance valid counted keeps replies inside shown
  | finish =>
      obtain ⟨⟩ | ⟨⟩ | counted := weighs
      obtain ⟨⟩ | ⟨⟩ | ⟨⟩ | ⟨⟩ | ⟨keeps, replies, -, -, -⟩ := stands
      exact weighs_finish valid counted keeps replies shown
  | discard unacknowledged unrefused uncanceled =>
      obtain ⟨⟩ | ⟨⟩ | counted := weighs
      rw [unchanged (by simpa using unacknowledged)]
      exact .awaiting (counted.meet (by simp [Reply.of?, *]))
  | retry failure left =>
      obtain ⟨⟩ | ⟨⟩ | counted := weighs
      have noted := counted.fail failure
      rw [if_neg (by omega)] at noted
      obtain ⟨-, differs, -⟩ := unfinal_of_failure source signs failure
      rw [unchanged (by simpa using differs)]
      exact .sending noted
  | exhaust failure =>
      obtain ⟨⟩ | ⟨⟩ | counted := weighs
      obtain ⟨⟩ | ⟨⟩ | ⟨⟩ | ⟨⟩ | ⟨keeps, replies, -, -, -⟩ := stands
      obtain ⟨-, differs, -⟩ := unfinal_of_failure source signs failure
      rw [unchanged (by simpa using differs)]
      have begun := replies ▸ replyPhase_ne_awaitingStart source _
      exact weighs_exhaust counted keeps begun failure reacts
  | quit quits =>
      obtain ⟨⟩ | ⟨⟩ | counted := weighs
      obtain ⟨⟩ | ⟨⟩ | ⟨⟩ | ⟨⟩ | ⟨keeps, -, -, -, -⟩ := stands
      obtain rfl | rfl := quits
      · rw [unchanged (by decide)]
        exact weighs_canceled counted keeps reacts
      · exact .broken (not_intact_append Sign.fails_broken)
  | cancel written =>
      rw [unchanged (by rintro ⟨⟩; cases written)]
      exact weighs_cancel weighs reacts

end Reactions

section Outcomes

variable {policy : RetryPolicy τ} {source : List UInt8} {created : τ}
  {moments : List (Moment (Sender τ) τ)} {sender : Sender τ}

/-- The totals that were reported as sent. -/
def sentTotals (moments : List (Moment (Sender τ) τ)) : List Nat :=
  moments.flatMap fun moment => Event.totals .sent moment.events

theorem exists_weighs (talks : Converses (start policy source created) moments sender) :
    ∃ stage, At policy source stage sender ∧
      Weighs policy source (transcript waits moments) (sentTotals moments) stage sender := by
  induction talks with
  | silent => exact ⟨.calling, at_start policy source created, .calling nofun rfl⟩
  | step _ valid induction =>
      obtain ⟨stage, stands, weighs⟩ := induction
      obtain ⟨later, arrives, weighs⟩ := weighs.react stands valid
      refine ⟨later, arrives, ?_⟩
      rw [transcript_append, transcript_singleton, sentTotals, List.flatMap_append,
        List.flatMap_singleton]
      exact weighs

/-- How the outcome of a sender that was called, and the progress that it reported, depend on the
replies. -/
structure Judged (policy : RetryPolicy τ) (source : List UInt8) (replies : List Reply)
    (totals : List Nat) (outcome : Outcome) : Prop where
  /-- The replies decide. -/
  decided : ∃ count verdict,
    Brings policy.maxRetries (blockCount source + 1) count verdict replies
  delivered_iff : outcome = .ok source.length ↔
    ∃ count, Brings policy.maxRetries (blockCount source + 1) count .delivered replies
  spent_iff : (∃ failure, outcome = .error failure ∧ failure.reason = .tooManyRetries) ↔
    ∃ count, Brings policy.maxRetries (blockCount source + 1) count .spent replies
  canceled_iff : (∃ failure, outcome = .error failure ∧ failure.reason = .canceledByPeer) ↔
    ∃ count, Brings policy.maxRetries (blockCount source + 1) count .canceled replies
  /-- What was transferred are the blocks that went through. -/
  transferred_eq : ∀ count verdict failure,
    Brings policy.maxRetries (blockCount source + 1) count verdict replies →
    outcome = .error failure → failure.transferred = min (blockSize * count) source.length
  /-- Every one of them was reported once. -/
  totals_eq : ∀ count verdict,
    Brings policy.maxRetries (blockCount source + 1) count verdict replies →
    totals = milestones source.length (min count (blockCount source))

/-- What the replies to a sender that was called say of it. -/
structure Answered (policy : RetryPolicy τ) (source : List UInt8) (replies : List Reply)
    (totals : List Nat) (sender : Sender τ) : Prop where
  /-- A sender that is over was judged by the replies. -/
  judged : ∀ outcome, sender.outcome? = some outcome →
    Judged policy source replies totals outcome
  /-- A sender that was judged waits no more, and makes at most one more move. -/
  concluded : ∀ count verdict,
    Brings policy.maxRetries (blockCount source + 1) count verdict replies →
    sender.waits = false ∧
      ∀ moment : Moment (Sender τ) τ, moment.Valid → moment.session = sender →
        ∃ outcome, moment.after.outcome? = some outcome

theorem Verdict.Yields.judged {signs : List Sign} {totals : List Nat} {count failures : Nat}
    {verdict : Verdict} {outcome : Outcome}
    (yields : verdict.Yields source.length (offset source.length count) outcome)
    (counted : Counted policy source signs totals ⟨count, failures, some verdict⟩) :
    Judged policy source (answers signs) totals outcome := by
  obtain ⟨-, score_eq, totals_eq⟩ := counted
  have brings (other : Nat) (also : Verdict) :
      Brings policy.maxRetries (blockCount source + 1) other also (answers signs) ↔
        count = other ∧ verdict = also := by
    rw [brings_iff (Nat.succ_pos _), score_eq, Option.some_inj]
  constructor
  · exact ⟨count, verdict, (brings _ _).mpr ⟨rfl, rfl⟩⟩
  · cases yields <;> simp [brings]
  · cases yields <;> simp [Failure.reason, *]
  · cases yields <;> simp [Failure.reason, *]
  · intro other also failure brought failed
    obtain ⟨rfl, rfl⟩ := (brings _ _).mp brought
    cases yields <;> cases failed <;> rfl
  · intro other also brought
    obtain ⟨rfl, rfl⟩ := (brings _ _).mp brought
    exact totals_eq

section Standing

variable {stage : Stage} {signs : List Sign} {totals : List Nat}

/-- A sender that is over was judged. -/
theorem Weighs.judged (weighs : Weighs policy source signs totals stage sender)
    (stands : At policy source stage sender) (called : ∃ sign ∈ signs, Calls sign)
    (intact : Intact signs) {outcome : Outcome} (settled : sender.outcome? = some outcome) :
    Judged policy source (answers signs) totals outcome := by
  have ended := outcome?_eq_some_iff.mp settled
  obtain ⟨sign, member, calls⟩ := called
  cases weighs with
  | calling uncalled _ | uncalled uncalled => exact absurd calls (uncalled sign member)
  | sending _ =>
      cases stands with
      | ready _ _ other | first _ _ _ other | again _ _ _ _ _ other =>
          simp [ended] at other
  | awaiting _ =>
      cases stands with
      | awaiting _ _ _ _ rests => simp [Rests, ended] at rests
  | canceling _ other _ _ | completed _ _ other _ => simp [ended] at other
  | ended counted also yields =>
      obtain rfl := Activity.ended.inj (ended.symm.trans also)
      exact yields.judged counted
  | broken broken => exact absurd intact broken

/-- A sender that was judged is over, or about to be. -/
theorem Weighs.concluded (weighs : Weighs policy source signs totals stage sender)
    (called : ∃ sign ∈ signs, Calls sign) (intact : Intact signs) {count : Nat}
    {verdict : Verdict}
    (brings : Brings policy.maxRetries (blockCount source + 1) count verdict (answers signs)) :
    sender.waits = false ∧ ∀ (now : τ) (sign : Option Sign) (after : Sender τ),
      Reacts sender now sign after → ∃ outcome, after.activity = .ended outcome := by
  obtain ⟨-, decided⟩ := (brings_iff (Nat.succ_pos _)).mp brings
  obtain ⟨other, member, calls⟩ := called
  cases weighs with
  | calling uncalled _ | uncalled uncalled => exact absurd calls (uncalled other member)
  | sending counted | awaiting counted =>
      rw [counted.score_eq] at decided
      cases decided
  | canceling _ writes _ _ =>
      refine ⟨by simp [waits, writes], fun now sign after reacts => ?_⟩
      obtain ⟨-, becomes⟩ | ⟨-, ended⟩ := reacts.of_writing writes
      · rw [becomes]
        exact ⟨_, rfl⟩
      · exact ended
  | completed _ completes between _ =>
      refine ⟨by simp [waits, between], fun now sign after reacts => ?_⟩
      obtain ⟨-, becomes⟩ := reacts.of_between between
      rw [becomes]
      simp only [beginStep, completes]
      exact ⟨_, rfl⟩
  | ended _ ended _ =>
      exact ⟨by simp [waits, ended], fun now sign after reacts =>
        absurd reacts (Reacts.not_of_ended ended)⟩
  | broken broken => exact absurd intact broken

end Standing

/-- A sender that was called, on a line that works, ends as the replies decide. -/
theorem answered_of_converses (talks : Converses (start policy source created) moments sender)
    (called : ∃ sign ∈ transcript waits moments, Calls sign)
    (intact : Intact (transcript waits moments)) :
    Answered policy source (answers (transcript waits moments)) (sentTotals moments) sender := by
  obtain ⟨stage, stands, weighs⟩ := exists_weighs talks
  refine ⟨fun outcome settled => weighs.judged stands called intact settled, ?_⟩
  intro count verdict brings
  obtain ⟨waits_no_more, ends⟩ := weighs.concluded called intact brings
  refine ⟨waits_no_more, ?_⟩
  rintro moment valid rfl
  obtain ⟨outcome, ended⟩ := ends _ _ _ (reacts_of_valid valid)
  exact ⟨outcome, outcome?_eq_some_iff.mpr ended⟩

end Outcomes
end Sender
end Xmodem
