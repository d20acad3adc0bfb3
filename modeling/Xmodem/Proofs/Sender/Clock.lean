import Mathlib.Tactic.Ring
import Xmodem.Proofs.Sender.Stages

/-!
# The clock of a sender

On an exact clock nothing but the waits of a sender takes time.  Noise restarts no wait: it leaves
the deadline alone.  So the clock is bounded by the number of waits, of which each failure and each
acknowledgement is one.
-/

namespace Xmodem

section Elapsing

variable {σ : Type} [Session σ Rat]

/-- Whether a session acts at an instant, no read lasts longer than it may, and nothing else takes
time. -/
structure Moment.Timed (moment : Moment σ Rat) (now : Rat) : Prop where
  valid : moment.Valid
  asked_eq : moment.asked = now
  read_le : ∀ timeout, moment.action = .read timeout → moment.answered ≤ now + timeout
  write_eq : ∀ bytes, moment.action = .write bytes → moment.answered = now

/-- The moments of a session from one instant to another one, without a pause between them. -/
inductive Elapses (first : σ) (begun : Rat) : List (Moment σ Rat) → σ → Rat → Prop
  | silent : Elapses first begun [] first begun
  | step {moments : List (Moment σ Rat)} {moment : Moment σ Rat} {now : Rat} :
      Elapses first begun moments moment.session now → moment.Timed now →
      Elapses first begun (moments ++ [moment]) moment.after moment.answered

variable {first last : σ} {begun now : Rat} {moments front back : List (Moment σ Rat)}
  {moment : Moment σ Rat}

theorem Elapses.converses (elapses : Elapses first begun moments last now) :
    Converses first moments last := by
  induction elapses with
  | silent => exact .silent
  | step _ timed talks => exact .step talks timed.valid

/-- A conversation can be cut at every moment, and both parts take their time. -/
theorem Elapses.cut (elapses : Elapses first begun moments last now)
    (same : moments = front ++ moment :: back) :
    ∃ between, Elapses first begun front moment.session between ∧ moment.Timed between ∧
      Elapses moment.after moment.answered back last now := by
  induction elapses generalizing back with
  | silent =>
      exact absurd same.symm (List.append_ne_nil_of_right_ne_nil front (List.cons_ne_nil _ _))
  | step elapses timed induction =>
      obtain rfl | ⟨back, final, rfl⟩ := back.eq_nil_or_concat
      · obtain ⟨rfl, rfl⟩ := List.append_singleton_inj.mp same
        exact ⟨_, elapses, timed, .silent⟩
      · rw [List.concat_eq_append, ← List.cons_append, ← List.append_assoc] at same
        obtain ⟨earlier, rfl⟩ := List.append_singleton_inj.mp same
        obtain ⟨between, begins, cut_timed, ends⟩ := induction earlier
        rw [List.concat_eq_append]
        exact ⟨between, begins, cut_timed, ends.step timed⟩

theorem Elapses.eq_of_nil (elapses : Elapses first begun [] last now) :
    last = first ∧ now = begun := by
  generalize nothing : ([] : List (Moment σ Rat)) = moments at elapses
  cases elapses with
  | silent => exact ⟨rfl, rfl⟩
  | step => exact absurd nothing.symm (List.append_ne_nil_of_right_ne_nil _ (List.cons_ne_nil _ _))

theorem Elapses.cons (elapses : Elapses first begun (moment :: back) last now) :
    moment.session = first ∧ moment.Timed begun ∧
      Elapses moment.after moment.answered back last now := by
  obtain ⟨between, begins, timed, ends⟩ := elapses.cut (List.nil_append _).symm
  obtain ⟨same, rfl⟩ := begins.eq_of_nil
  exact ⟨same, timed, ends⟩

theorem Elapses.trans {middle : σ} {between : Rat}
    (before : Elapses first begun front middle between)
    (after : Elapses middle between back last now) :
    Elapses first begun (front ++ back) last now := by
  induction after with
  | silent => simpa using before
  | step _ timed elapses =>
      rw [← List.append_assoc]
      exact .step elapses timed

end Elapsing

namespace Sender

open Packets

/-- How long a sender waits at most. -/
def timeout (sender : Sender Rat) : Rat :=
  if sender.phase = .awaitingStart then sender.policy.handshakeTimeout
  else sender.policy.byteTimeout

theorem timeout_pos (sender : Sender Rat) : 0 < sender.timeout := by
  unfold timeout
  split
  · exact sender.policy.handshakeTimeout_pos
  · exact sender.policy.byteTimeout_pos

section Waits

variable {sender : Sender Rat} {moment : Moment (Sender Rat) Rat} {now deadline : Rat}

theorem waits_eq_true_iff :
    sender.waits = true ↔ ∃ deadline, sender.activity = .listening deadline := by
  unfold waits
  split <;> simp_all

/-- A wait is not longer than it may be. -/
theorem answered_le (timed : moment.Timed now)
    (listens : moment.session.activity = .listening deadline) (early : now ≤ deadline) :
    moment.answered ≤ deadline := by
  obtain ⟨valid, rfl, read_le, _⟩ := timed
  have allowed := valid.allowed
  have acts : moment.action = moment.session.action moment.asked := rfl
  simp only [action, listens] at acts
  split at acts
  · rw [acts] at allowed
    generalize answer_eq : moment.answer = answer at allowed
    cases allowed
    rw [valid.prompt answer_eq]
    exact early
  · have bounded := read_le _ acts
    rwa [add_sub_cancel] at bounded

/-- Whoever does not wait takes no time. -/
theorem answered_eq (timed : moment.Timed now) (busy : moment.session.waits = false) :
    moment.answered = now := by
  obtain ⟨valid, rfl, _, write_eq⟩ := timed
  have allowed := valid.allowed
  have acts : moment.action = moment.session.action moment.asked := rfl
  cases doing : moment.session.activity with
  | listening deadline => simp [waits, doing] at busy
  | writing purpose => exact write_eq _ (acts.trans (action_writing _ doing))
  | idle | between =>
      simp only [action, doing] at acts
      rw [acts] at allowed
      generalize answer_eq : moment.answer = answer at allowed
      cases allowed
      exact valid.prompt answer_eq
  | ended outcome =>
      simp only [action, doing] at acts
      rw [acts] at allowed
      cases allowed

theorem waits_of_overdue (valid : moment.Valid)
    (listens : moment.session.activity = .listening deadline) (late : deadline ≤ moment.asked) :
    moment.after.waits = false := by
  have acts : moment.action = .proceed := by
    change moment.session.action moment.asked = .proceed
    simp [action, listens, late]
  have allowed := valid.allowed
  rw [acts] at allowed
  have reacts := reacts_of_valid valid
  have shown : moment.sign? waits = some .silence := by
    generalize answer_eq : moment.answer = answer at allowed
    cases allowed
    simp [Moment.sign?, acts, answer_eq, Sign.of?, waits, listens]
  rw [shown] at reacts
  generalize moment.after = after at reacts
  cases reacts with
  | expire _ => exact waits_heardNothing _ _

/-- Only noise prolongs a wait, and it leaves the sender alone. -/
theorem Reacts.of_waits {after : Sender Rat} {sign : Option Sign}
    (reacts : Reacts sender now sign after) (listens : sender.activity = .listening deadline)
    (still : after.waits = true) :
    (∃ value, sign = some (.heard value)) ∧ after = sender := by
  cases reacts with
  | hear value _ =>
      by_cases noise : value ∈ sender.heeded
      · rw [waits_heard now noise] at still
        cases still
      · obtain ⟨_, discards⟩ := exists_discards now noise
        rw [discards]
        exact ⟨⟨value, rfl⟩, rfl⟩
  | expire _ =>
      rw [waits_heardNothing] at still
      cases still
  | «break» => cases still
  | wake other | begin other | write other | spoil _ other =>
      exact absurd (listens.symm.trans other) nofun

theorem Reacts.begins_waiting {after : Sender Rat} {sign : Option Sign}
    (reacts : Reacts sender now sign after) (busy : sender.waits = false)
    (still : after.waits = true) : after.activity = .listening (now + after.timeout) := by
  cases reacts with
  | wake => cases still
  | begin between =>
      unfold beginStep at still ⊢
      split
      all_goals
        rename_i phase_eq
        simp [phase_eq, timeout, waits, between, complete, close] at still ⊢
  | hear _ listens | expire listens | «break» _ listens => simp [waits, listens] at busy
  | write writes =>
      rw [waits_wrote] at still
      cases still
  | spoil => cases still

/-- Whether the waits of a conversation end within their own time: a wait begins at the moment at
which the sender comes to listen, and lasts as long as it listens.  No moment of it is later than
its timeout allows, and the first one that is so late ends it. -/
def Punctual (moments : List (Moment (Sender Rat) Rat)) : Prop :=
  ∀ front opening during back, moments = front ++ opening :: (during ++ back) →
    opening.session.waits = false → (∀ moment ∈ during, moment.session.waits = true) →
    ∀ moment ∈ during, moment.answered ≤ opening.answered + opening.after.timeout ∧
      (opening.answered + opening.after.timeout ≤ moment.asked → moment.after.waits = false)

variable {first last : Sender Rat} {begun : Rat}
  {moments during back : List (Moment (Sender Rat) Rat)}

/-- As long as a sender listens, its deadline stays. -/
theorem listens_during (elapses : Elapses first begun (during ++ back) last now)
    (listens : first.activity = .listening deadline) (early : begun ≤ deadline)
    (waiting : ∀ moment ∈ during, moment.session.waits = true) :
    ∀ moment ∈ during, moment.answered ≤ deadline ∧
      (deadline ≤ moment.asked → moment.after.waits = false) := by
  induction during generalizing first begun with
  | nil => exact fun _ member => absurd member List.not_mem_nil
  | cons opening during induction =>
      obtain ⟨rfl, timed, elapses⟩ := elapses.cons
      have answered := answered_le timed listens early
      have reacts := reacts_of_valid timed.valid
      have overdue := waits_of_overdue timed.valid listens
      have later : ∀ moment ∈ during, moment.answered ≤ deadline ∧
          (deadline ≤ moment.asked → moment.after.waits = false) := by
        cases still : opening.after.waits with
        | true =>
            obtain ⟨_, same⟩ := reacts.of_waits listens still
            exact induction elapses (same ▸ listens) answered
              fun moment member => waiting moment (List.mem_cons_of_mem _ member)
        | false =>
            cases during with
            | nil => exact fun _ member => absurd member List.not_mem_nil
            | cons next during =>
                obtain ⟨same, -, -⟩ := elapses.cons
                have waits := waiting next (List.mem_cons_of_mem _ List.mem_cons_self)
                rw [same, still] at waits
                cases waits
      exact List.forall_mem_cons.mpr ⟨⟨answered, overdue⟩, later⟩

/-- Every wait ends within its own time. -/
theorem punctual_of_elapses (elapses : Elapses first begun moments last now) :
    Punctual moments := by
  rintro front opening during back same busy waiting moment member
  obtain ⟨between, -, timed, later⟩ := elapses.cut same
  have still : opening.after.waits = true := by
    cases during with
    | nil => exact absurd member List.not_mem_nil
    | cons next during =>
        obtain ⟨begins, -, -⟩ := later.cons
        exact begins ▸ waiting next List.mem_cons_self
  have listens := (reacts_of_valid timed.valid).begins_waiting busy still
  have early : opening.answered ≤ opening.answered + opening.after.timeout :=
    le_add_of_nonneg_right opening.after.timeout_pos.le
  exact listens_during later listens early waiting moment member

end Waits

/-- The instant at which a sender has waited in vain for its start until its last attempt, and then
some number of times for an answer. -/
def latest (policy : RetryPolicy Rat) (begun : Rat) (waits : Nat) : Rat :=
  begun + policy.maxHandshakeAttempts * policy.handshakeTimeout + waits * policy.byteTimeout

/-- Number of waits before the answer to some copy of the packet at some place is due. -/
def waitsBefore (policy : RetryPolicy Rat) (place copies : Nat) : Nat :=
  place * (policy.maxRetries + 1) + copies

/-- Whether a sender that does not wait is not later than one instant, and a deadline of it not
later than another one. -/
structure Within (sender : Sender Rat) (now early late : Rat) : Prop where
  busy : sender.waits = false → now ≤ early
  waiting : ∀ deadline, sender.activity = .listening deadline → now ≤ deadline ∧ deadline ≤ late

/-- Whether a sender at a stage is not late. -/
def Timely (policy : RetryPolicy Rat) (source : List UInt8) (begun : Rat) (sender : Sender Rat)
    (now : Rat) : Stage → Prop
  | .calling =>
      sender.handshakeAttempts < policy.maxHandshakeAttempts ∧
        Within sender now (begun + sender.handshakeAttempts * policy.handshakeTimeout)
          (begun + (sender.handshakeAttempts + 1) * policy.handshakeTimeout)
  | .sending _ place copies => now ≤ latest policy begun (waitsBefore policy place copies)
  | .awaiting _ place copies =>
      place ≤ blockCount source ∧ copies ≤ policy.maxRetries + 1 ∧
        Within sender now (latest policy begun (waitsBefore policy place (copies - 1)))
          (latest policy begun (waitsBefore policy place copies))
  | .canceling _ _ | .finished =>
      now ≤ latest policy begun (waitsBefore policy (blockCount source + 1) 0)

section Bounds

variable {policy : RetryPolicy Rat} {source : List UInt8} {begun now later early late : Rat}
  {sender after : Sender Rat} {stage next : Stage} {sign : Option Sign}

theorem latest_mono {fewer more : Nat} (least : fewer ≤ more) :
    latest policy begun fewer ≤ latest policy begun more := by
  have counted : (fewer : Rat) ≤ more := Nat.cast_le.mpr least
  have lasts := mul_le_mul_of_nonneg_right counted policy.byteTimeout_pos.le
  unfold latest
  linarith

theorem latest_succ (waits : Nat) :
    latest policy begun (waits + 1) = latest policy begun waits + policy.byteTimeout := by
  unfold latest
  push_cast
  ring

theorem waitsBefore_le_next {place copies : Nat} (few : copies ≤ policy.maxRetries + 1) :
    waitsBefore policy place copies ≤ waitsBefore policy (place + 1) 0 := by
  unfold waitsBefore
  rw [Nat.add_one_mul]
  exact Nat.add_le_add_left few _

theorem waitsBefore_le_all {place copies : Nat} (inside : place ≤ blockCount source)
    (few : copies ≤ policy.maxRetries + 1) :
    waitsBefore policy place copies ≤ waitsBefore policy (blockCount source + 1) 0 :=
  (waitsBefore_le_next few).trans (Nat.mul_le_mul_right _ (Nat.succ_le_succ inside))

/-- Before the last attempt there is time for all answers. -/
theorem le_latest {handshakes : Nat} (patient : handshakes < policy.maxHandshakeAttempts)
    (waits : Nat) :
    begun + (handshakes + 1) * policy.handshakeTimeout ≤ latest policy begun waits := by
  have counted : (handshakes + 1 : Rat) ≤ policy.maxHandshakeAttempts := by
    exact_mod_cast patient
  have lasts := mul_le_mul_of_nonneg_right counted policy.handshakeTimeout_pos.le
  have rest : latest policy begun 0 ≤ latest policy begun waits := latest_mono waits.zero_le
  unfold latest at rest ⊢
  norm_num at rest
  linarith

/-- How long a sender takes for one answer of its surroundings. -/
structure Lasts (sender : Sender Rat) (now later : Rat) : Prop where
  busy : sender.waits = false → later = now
  waiting : ∀ deadline, sender.activity = .listening deadline → now ≤ deadline → later ≤ deadline

theorem within_of_begin (lasts : Lasts sender now later) (reacts : Reacts sender later sign after)
    (busy : sender.waits = false) (before : now ≤ early) :
    Within after later early (early + after.timeout) := by
  obtain rfl := lasts.busy busy
  constructor
  · exact fun _ => before
  · intro deadline listens
    have still : after.waits = true := waits_eq_true_iff.mpr ⟨deadline, listens⟩
    obtain rfl := Activity.listening.inj (listens.symm.trans (reacts.begins_waiting busy still))
    exact ⟨le_add_of_nonneg_right after.timeout_pos.le, add_le_add_left before _⟩

theorem Within.later_le (within : Within sender now early late) (lasts : Lasts sender now later)
    (ordered : early ≤ late) : later ≤ late := by
  cases waiting : sender.waits with
  | false =>
      rw [lasts.busy waiting]
      exact (within.busy waiting).trans ordered
  | true =>
      obtain ⟨deadline, listens⟩ := waits_eq_true_iff.mp waiting
      obtain ⟨before, bounded⟩ := within.waiting deadline listens
      exact (lasts.waiting deadline listens before).trans bounded

theorem Within.calling_later_le {handshakes : Nat}
    (within : Within sender now (begun + handshakes * policy.handshakeTimeout)
      (begun + (handshakes + 1) * policy.handshakeTimeout)) (lasts : Lasts sender now later) :
    later ≤ begun + (handshakes + 1) * policy.handshakeTimeout := by
  have positive := policy.handshakeTimeout_pos
  exact within.later_le lasts (by linarith)

theorem Within.keep (within : Within sender now early late) (lasts : Lasts sender now later)
    {value : UInt8} (reacts : Reacts sender later (some (.heard value)) after)
    (noise : value ∉ sender.heeded) : after = sender ∧ Within after later early late := by
  cases reacts with
  | hear _ listens =>
      obtain ⟨_, discards⟩ := exists_discards later noise
      have waits : sender.waits = true := waits_eq_true_iff.mpr ⟨_, listens⟩
      rw [discards]
      refine ⟨rfl, fun busy => absurd (busy.symm.trans waits) nofun, fun deadline listens => ?_⟩
      obtain ⟨before, bounded⟩ := within.waiting deadline listens
      exact ⟨lasts.waiting deadline listens before, bounded⟩

theorem Reacts.waits_of_wrote (reacts : Reacts sender now sign after) {bytes : List UInt8}
    (shown : sign = some (.wrote bytes)) : after.waits = false := by
  cases reacts with
  | write => exact waits_wrote ..
  | wake | begin | hear | expire | «break» | spoil => cases shown

theorem Reacts.busy_of_none (reacts : Reacts sender now none after) :
    sender.waits = false ∧ after.handshakeAttempts = sender.handshakeAttempts := by
  cases reacts with
  | wake doing => exact ⟨by simp [waits, doing], rfl⟩
  | begin doing =>
      refine ⟨by simp [waits, doing], ?_⟩
      unfold beginStep
      split <;> rfl

theorem Timely.of_calling (stands : At policy source .calling sender)
    (timely : Timely policy source begun sender now .calling) (lasts : Lasts sender now later)
    (reacts : Reacts sender later sign after) (passes : Passes policy source .calling sign next)
    (arrives : At policy source next after) : Timely policy source begun after later next := by
  obtain ⟨patient, within⟩ := timely
  have bounded := within.calling_later_le lasts
  have spent (waits : Nat) : later ≤ latest policy begun waits :=
    bounded.trans (le_latest patient waits)
  cases stands with
  | calling keeps unstarted rests =>
      have calls_eq : sender.heeded = calls := if_pos unstarted
      cases passes with
      | within =>
          obtain ⟨busy, attempts_eq⟩ := reacts.busy_of_none
          have begins := within_of_begin lasts reacts busy (within.busy busy)
          cases arrives with
          | calling keeps_on calls_on _ =>
              have timeout_eq : after.timeout = policy.handshakeTimeout := by
                rw [timeout, if_pos calls_on, keeps_on.policy_eq]
              have late_eq : begun + sender.handshakeAttempts * policy.handshakeTimeout +
                  after.timeout = begun + (sender.handshakeAttempts + 1) *
                    policy.handshakeTimeout := by
                rw [timeout_eq]
                ring
              rw [late_eq] at begins
              rw [← attempts_eq] at begins patient
              exact ⟨patient, begins⟩
      | begin => exact spent _
      | ignore unasked unchanged =>
          have noise := noise_of_unasked unasked unchanged
          rw [← calls_eq] at noise
          obtain ⟨rfl, keeps⟩ := within.keep lasts reacts noise
          exact ⟨patient, keeps⟩
      | call =>
          cases reacts with
          | expire listens =>
              obtain ⟨left, becomes⟩ | ⟨-, becomes⟩ := sender.heardNothing_cases later unstarted
              · rw [keeps.policy_eq] at left
                rw [becomes]
                refine ⟨left, fun _ => ?_, nofun⟩
                simpa [endStep, uncalled] using bounded
              · rw [becomes] at arrives
                cases arrives with
                | calling _ aborted _ => cases aborted
      | leave => exact spent _

theorem Timely.of_awaiting {mode : ChecksumMode} {place copies : Nat}
    (stands : At policy source (.awaiting mode place copies) sender)
    (timely : Timely policy source begun sender now (.awaiting mode place copies))
    (lasts : Lasts sender now later) (reacts : Reacts sender later sign after)
    (passes : Passes policy source (.awaiting mode place copies) sign next)
    (arrives : At policy source next after) : Timely policy source begun after later next := by
  obtain ⟨inside, few, within⟩ := timely
  have bounded := within.later_le lasts (latest_mono (Nat.add_le_add_left copies.pred_le _))
  have spent (waits : Nat) (more : waitsBefore policy place copies ≤ waits) :
      later ≤ latest policy begun waits := bounded.trans (latest_mono more)
  cases stands with
  | awaiting keeps answers framed patient rests =>
      have begun_eq : sender.heeded = replies :=
        if_neg (answers ▸ replyPhase_ne_awaitingStart source place)
      cases passes with
      | within =>
          obtain ⟨busy, -⟩ := reacts.busy_of_none
          have begins := within_of_begin lasts reacts busy (within.busy busy)
          cases arrives with
          | awaiting keeps_on answers_on _ _ _ =>
              have timeout_eq : after.timeout = policy.byteTimeout := by
                rw [timeout, if_neg (answers_on ▸ replyPhase_ne_awaitingStart source place),
                  keeps_on.policy_eq]
              rw [timeout_eq, ← latest_succ] at begins
              exact ⟨inside, few, begins⟩
      | advance => exact spent _ (waitsBefore_le_next few)
      | finish | quit | exhaust => exact spent _ (waitsBefore_le_all inside few)
      | @discard _ _ _ value no_acknowledge no_refusal unchanged =>
          have noise : value ∉ replies := by simp [replies, no_acknowledge, no_refusal, unchanged]
          rw [← begun_eq] at noise
          obtain ⟨-, remains⟩ := within.keep lasts reacts noise
          exact ⟨inside, few, remains⟩
      | retry => exact spent _ le_rfl

theorem At.busy (stands : At policy source stage sender) (calls : stage ≠ .calling)
    (awaits : ∀ mode place copies, stage ≠ .awaiting mode place copies) : sender.waits = false := by
  cases stands with
  | calling => exact absurd rfl calls
  | awaiting => exact absurd rfl (awaits _ _ _)
  | ready _ _ doing | first _ _ _ doing | again _ _ _ _ _ doing | canceling doing
  | completed _ doing | ended doing => simp [waits, doing]

theorem Timely.of_sending {mode : ChecksumMode} {place copies : Nat}
    (timely : later ≤ latest policy begun (waitsBefore policy place copies))
    (reacts : Reacts sender later sign after)
    (passes : Passes policy source (.sending mode place copies) sign next) :
    Timely policy source begun after later next := by
  cases passes with
  | within => exact timely
  | send inside few =>
      refine ⟨inside, Nat.succ_le_succ few, fun _ => timely, fun deadline listens => ?_⟩
      have waiting := waits_eq_true_iff.mpr ⟨deadline, listens⟩
      exact absurd (waiting.symm.trans (reacts.waits_of_wrote rfl)) nofun
  | spoil inside few =>
      exact timely.trans (latest_mono (waitsBefore_le_all inside (Nat.le_succ_of_le few)))

/-- No answer of the surroundings makes a sender late. -/
theorem Timely.react (stands : At policy source stage sender)
    (timely : Timely policy source begun sender now stage) (lasts : Lasts sender now later)
    (reacts : Reacts sender later sign after) :
    ∃ next, At policy source next after ∧ Timely policy source begun after later next := by
  obtain ⟨next, passes, arrives⟩ := stands.exists_passes reacts
  refine ⟨next, arrives, ?_⟩
  cases stage with
  | calling => exact timely.of_calling stands lasts reacts passes arrives
  | awaiting => exact timely.of_awaiting stands lasts reacts passes arrives
  | sending =>
      obtain rfl := lasts.busy (stands.busy nofun nofun)
      exact .of_sending timely reacts passes
  | canceling =>
      obtain rfl := lasts.busy (stands.busy nofun nofun)
      cases passes with
      | within | cancel => exact timely
  | finished =>
      obtain rfl := lasts.busy (stands.busy nofun nofun)
      cases passes with
      | within => exact timely

end Bounds

section Elapsing

variable {policy : RetryPolicy Rat} {source : List UInt8} {created begun now : Rat}
  {moments : List (Moment (Sender Rat) Rat)} {sender : Sender Rat} {stage : Stage}

/-- A timely sender is not later than all waits allow. -/
theorem Timely.le (timely : Timely policy source begun sender now stage)
    (stands : At policy source stage sender) :
    now ≤ latest policy begun (waitsBefore policy (blockCount source + 1) 0) := by
  have lasts : Lasts sender now now := ⟨fun _ => rfl, fun _ _ => id⟩
  cases stands with
  | calling =>
      obtain ⟨patient, within⟩ := timely
      exact (within.calling_later_le lasts).trans (le_latest patient _)
  | ready keeps | first keeps =>
      exact timely.trans (latest_mono (waitsBefore_le_all keeps.inside (Nat.zero_le _)))
  | again keeps _ _ _ few =>
      exact timely.trans (latest_mono (waitsBefore_le_all keeps.inside (Nat.le_succ_of_le few)))
  | awaiting =>
      obtain ⟨inside, few, within⟩ := timely
      have bounded := within.later_le lasts (latest_mono (Nat.le_succ _))
      exact bounded.trans (latest_mono (waitsBefore_le_all inside few))
  | canceling | completed | ended => exact timely

theorem exists_timely (elapses : Elapses (start policy source created) begun moments sender now) :
    ∃ stage, At policy source stage sender ∧ Timely policy source begun sender now stage := by
  induction elapses with
  | silent =>
      refine ⟨.calling, at_start policy source created, policy.maxHandshakeAttempts_pos, ?_, nofun⟩
      intro _
      simp [start]
  | step _ timed induction =>
      obtain ⟨stage, stands, timely⟩ := induction
      have lasts : Lasts _ _ _ := ⟨answered_eq timed, fun _ => answered_le timed⟩
      exact timely.react stands lasts (reacts_of_valid timed.valid)

/-- However many bytes arrive, a sender is never later than its attempts to be heard and the answers
that it waits for allow, and every wait ends within its own time. -/
theorem clock_le_of_elapses
    (elapses : Elapses (start policy source created) begun moments sender now) :
    now ≤ begun + policy.maxHandshakeAttempts * policy.handshakeTimeout +
        ((blockCount source + 1) * (policy.maxRetries + 1) : Nat) * policy.byteTimeout ∧
      Punctual moments := by
  obtain ⟨stage, stands, timely⟩ := exists_timely elapses
  exact ⟨timely.le stands, punctual_of_elapses elapses⟩

end Elapsing

theorem now_readItems_le (ending : Option Fault) {now left : Rat} (some_left : 0 ≤ left)
    (items : List (ScriptItem Rat)) :
    (ScriptedLine.readItems ending now left items).now ≤ now + left := by
  induction items generalizing now left with
  | nil =>
      cases ending with
      | none => exact le_rfl
      | some fault => exact le_add_of_nonneg_right some_left
  | cons item items induction =>
      cases item with
      | byte | fault => exact le_add_of_nonneg_right some_left
      | silence => exact le_rfl
      | wait duration =>
          unfold ScriptedLine.readItems
          split
          · rename_i inside
            have some_rest : 0 ≤ left - duration := sub_nonneg.mpr inside
            refine (induction some_rest).trans (le_of_eq ?_)
            ring
          · exact le_rfl

/-- A sender reads only when it has time left. -/
theorem pos_of_read {sender : Sender Rat} {now timeout : Rat}
    (reads : sender.action now = .read timeout) : 0 < timeout := by
  obtain ⟨_, _, _, some_left⟩ := exists_listening_of_read reads
  exact not_le.mp some_left

theorem exists_timed {run after : Run (Sender Rat) Rat} (moves : run.next = some after) :
    ∃ moment, run.moment? = some moment ∧ moment.session = run.session ∧ moment.Timed run.now ∧
      moment.after = after.session ∧ moment.answered = after.now := by
  obtain ⟨moment, shown, valid, begins, leads, -⟩ := Run.exists_moment moves
  suffices takes : moment.Timed run.now ∧ moment.answered = after.now from
    ⟨moment, shown, begins, takes.1, leads, takes.2⟩
  unfold Run.moment? at shown
  cases acts : Session.action run.session run.now with
  | stop => simp [acts] at shown
  | proceed =>
      simp only [acts, Option.some.injEq] at shown
      simp only [Run.next, acts, Option.some.injEq] at moves
      subst shown moves
      refine ⟨⟨valid, rfl, fun timeout reads => ?_, fun _ _ => rfl⟩, rfl⟩
      exact absurd (acts.symm.trans reads) nofun
  | write bytes =>
      simp only [acts, Option.some.injEq] at shown
      simp only [Run.next, acts, Option.some.injEq] at moves
      subst shown moves
      refine ⟨⟨valid, rfl, fun timeout reads => ?_, fun _ _ => rfl⟩, rfl⟩
      exact absurd (acts.symm.trans reads) nofun
  | read timeout =>
      simp only [acts, Option.some.injEq] at shown
      simp only [Run.next, acts, Option.some.injEq] at moves
      subst shown moves
      refine ⟨⟨valid, rfl, fun other reads => ?_, fun bytes writes => ?_⟩, rfl⟩
      · obtain rfl := Action.read.inj (acts.symm.trans reads)
        exact now_readItems_le run.line.ending (pos_of_read acts).le run.line.items
      · exact absurd (acts.symm.trans writes) nofun

theorem elapses_talk (fuel : Nat) (run : Run (Sender Rat) Rat) :
    Elapses run.session run.now (run.talk fuel).1 (run.talk fuel).2.session
      (run.talk fuel).2.now := by
  induction fuel generalizing run with
  | zero => exact .silent
  | succ fuel induction =>
      unfold Run.talk
      split
      · rename_i first after shown moves
        obtain ⟨moment, same, begins, timed, leads, ends⟩ := exists_timed moves
        obtain rfl := Option.some.inj (shown.symm.trans same)
        have before : Elapses run.session run.now [] first.session run.now := begins ▸ .silent
        have later := induction after
        rw [← leads, ← ends] at later
        exact (before.step timed).trans later
      · exact .silent

/-- One block is refused and lost, and noise arrives in every wait. -/
theorem clock_le_of_noise :
    let items : List (ScriptItem Rat) :=
      [.byte 0, .wait 3, .byte 0, .wait 3, .byte 0, .byte (Signal.byte .negativeAcknowledge),
        .byte 0, .wait (3 / 4), .byte 0, .wait (3 / 4), .byte 0,
        .byte (Signal.byte .negativeAcknowledge), .wait 1, .byte (Signal.byte .acknowledge),
        .byte (Signal.byte .acknowledge)]
    let talk := (Run.mk (start RetryPolicy.brief [1, 2, 3] 0) ⟨items, none, [], 0⟩ 0 []).talk 100
    Elapses (start .brief [1, 2, 3] 0) 0 talk.1 talk.2.session talk.2.now ∧ talk.2.now = 17 / 2 ∧
      talk.2.now ≤ 0 + 2 * 4 + ((1 + 1) * (3 + 1) : Nat) * 1 ∧ Punctual talk.1 := by
  intro items talk
  have elapses := elapses_talk 100
    (Run.mk (start RetryPolicy.brief [1, 2, 3] 0) ⟨items, none, [], 0⟩ 0 [])
  have late : talk.2.now = 17 / 2 := by decide +kernel
  obtain ⟨bounded, punctual⟩ := clock_le_of_elapses elapses
  exact ⟨elapses, late, bounded, punctual⟩

end Sender
end Xmodem
