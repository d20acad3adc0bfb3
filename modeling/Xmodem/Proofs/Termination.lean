import Xmodem.Proofs.Receiver.Closing
import Xmodem.Proofs.Restarts
import Xmodem.Proofs.Sender.Closing

/-!
# Termination

Behind its last item a script answers every read in the same manner for ever, so the script alone
does not end a session.  What ends it is its patience: between two bytes a session makes only so many
moves, since every silent wait uses up one of the failures that it bears, and every byte uses up an
item.
-/

namespace Xmodem

variable {σ τ : Type} [Quantity τ]

namespace ScriptedLine

theorem length_readItems (ending : Option Fault) (now left : τ) (items : List (ScriptItem τ)) :
    (∃ value, (readItems ending now left items).answer = .byte value) ∧
        (readItems ending now left items).items.length < items.length ∨
      (∀ value, (readItems ending now left items).answer ≠ .byte value) ∧
        (readItems ending now left items).items.length ≤ items.length := by
  induction items generalizing now left with
  | nil =>
      cases ending with
      | none => exact .inr ⟨by simp [readItems], Nat.le_refl _⟩
      | some fault => exact .inr ⟨by simp [readItems], Nat.le_refl _⟩
  | cons item items induction =>
      cases item with
      | byte value => exact .inl ⟨⟨value, rfl⟩, Nat.lt_succ_self _⟩
      | silence | fault => exact .inr ⟨by simp [readItems], Nat.le_succ _⟩
      | wait duration =>
          unfold readItems
          split
          · obtain ⟨heard, shorter⟩ | ⟨unheard, shorter⟩ :=
              induction (now + duration) (left - duration)
            · exact .inl ⟨heard, Nat.lt_succ_of_lt shorter⟩
            · exact .inr ⟨unheard, Nat.le_succ_of_le shorter⟩
          · exact .inr ⟨by simp, Nat.le_refl _⟩

end ScriptedLine

omit [Quantity τ] in
/-- A byte is heard when it is the answer. -/
theorem Moment.answer_of_sign [Session σ τ] {waiting : σ → Bool} (moment : Moment σ τ)
    {value : UInt8} (signed : moment.sign? waiting = some (.heard value)) :
    moment.answer = .byte value := by
  unfold sign? Sign.of? at signed
  split at signed
  case h_1 => split at signed <;> exact absurd signed nofun
  case h_2 same =>
    obtain rfl := Sign.heard.inj (Option.some.inj signed)
    exact same
  all_goals exact absurd signed nofun

/-- Sessions with a property, and how many moves they have left until they hear a byte, which are
never more than some number. -/
structure Tires [Session σ τ] (property : σ → Prop) (moves : σ → Nat) (most : Nat) : Prop where
  /-- Whatever the surroundings do, the property is kept. -/
  keeps : ∀ moment : Moment σ τ, moment.Valid → property moment.session → property moment.after
  /-- A move that hears nothing uses up a move. -/
  declines : ∀ moment : Moment σ τ, moment.Valid → property moment.session →
    (∀ value, moment.answer ≠ .byte value) → moves moment.after < moves moment.session
  /-- Nobody has more moves left. -/
  bounded : ∀ session, property session → moves session ≤ most
  /-- Who stops has an outcome. -/
  stops : ∀ (session : σ) (now : τ), Session.action session now = .stop →
    ∃ outcome, Session.outcome? session = some outcome

namespace Run

variable [Session σ τ] {run after : Run σ τ} {property : σ → Prop} {moves : σ → Nat} {most : Nat}

/-- A run hears a byte that its script loses, or it hears no byte. -/
theorem length_next {moment : Moment σ τ} (shown : run.moment? = some moment)
    (goes_on : run.next = some after) :
    after.line.items.length < run.line.items.length ∨
      (∀ value, moment.answer ≠ .byte value) ∧
        after.line.items.length ≤ run.line.items.length := by
  unfold moment? at shown
  cases acts : Session.action run.session run.now with
  | stop => simp [acts] at shown
  | proceed =>
      simp only [acts, Option.some.injEq] at shown
      subst shown
      obtain rfl := Option.some.inj ((next_of_proceed acts).symm.trans goes_on)
      exact .inr ⟨nofun, Nat.le_refl _⟩
  | write bytes =>
      simp only [acts, Option.some.injEq] at shown
      subst shown
      simp only [next, acts, Option.some.injEq] at goes_on
      subst goes_on
      have allowed := allows_write bytes run.line
      refine .inr ⟨fun value heard => ?_, ?_⟩
      · change run.line.write.1 = .byte value at heard
        rw [heard] at allowed
        cases allowed
      · change run.line.write.2.items.length ≤ _
        unfold ScriptedLine.write
        split <;> exact Nat.le_refl _
  | read timeout =>
      simp only [acts, Option.some.injEq] at shown
      subst shown
      simp only [next, acts, Option.some.injEq] at goes_on
      subst goes_on
      exact (ScriptedLine.length_readItems run.line.ending run.now timeout run.line.items).imp_left
        And.right

/-- A session that tires ends, within as many moves as its script and its patience allow. -/
theorem exists_complete (tires : Tires property moves most) (run : Run σ τ) {fuel : Nat}
    (holds : property run.session)
    (enough : run.line.items.length * (most + 1) + moves run.session < fuel) :
    ∃ final, run.complete fuel = some final ∧ property final.session ∧
      Session.action final.session final.now = .stop := by
  induction fuel generalizing run with
  | zero => exact absurd enough (Nat.not_lt_zero _)
  | succ fuel induction =>
      cases goes_on : run.next with
      | none =>
          refine ⟨run, by rw [complete, goes_on], holds, ?_⟩
          unfold next at goes_on
          split at goes_on
          · assumption
          all_goals cases goes_on
      | some after =>
          obtain ⟨moment, shown, valid, begins, leads, -⟩ := exists_moment goes_on
          rw [← begins] at holds enough
          have kept : property after.session := leads ▸ tires.keeps moment valid holds
          have left : after.line.items.length * (most + 1) + moves after.session < fuel := by
            obtain shorter | ⟨unheard, shorter⟩ := length_next shown goes_on
            · have rested := tires.bounded _ kept
              have lost := Nat.mul_le_mul_right (most + 1) (Nat.succ_le_of_lt shorter)
              rw [Nat.succ_mul] at lost
              omega
            · have used := tires.declines moment valid holds unheard
              have lost := Nat.mul_le_mul_right (most + 1) shorter
              rw [leads] at used
              omega
          rw [complete_eq_some_of_next goes_on]
          exact induction after kept left

/-- Whether a session that runs on a line comes to its end, within some number of moves. -/
def EndsWithin (session : σ) (line : ScriptedLine τ) (now : τ) (fuel : Nat) : Prop :=
  ∃ outcome final, (Run.mk session line now []).perform fuel = some (.ok outcome, final)

theorem endsWithin_of_tires (tires : Tires property moves most) {session : σ}
    (holds : property session) (fresh : Session.idle session = true) (line : ScriptedLine τ)
    (now : τ) : EndsWithin session line now ((line.items.length + 1) * (most + 1)) := by
  have enough : line.items.length * (most + 1) + moves session <
      (line.items.length + 1) * (most + 1) := by
    have rested := tires.bounded session holds
    rw [Nat.succ_mul]
    omega
  obtain ⟨final, completes, -, halts⟩ :=
    exists_complete tires ⟨session, line, now, []⟩ holds enough
  obtain ⟨outcome, ended⟩ := tires.stops _ _ halts
  refine ⟨outcome, final, ?_⟩
  rw [perform, if_pos fresh, completes]
  simp only [ended, Option.map_some]

end Run

namespace Sender

/-- How many more failures a sender bears. -/
def failuresLeft (policy : RetryPolicy τ) (sender : Sender τ) : Nat :=
  if sender.phase = .awaitingStart then policy.maxHandshakeAttempts - sender.handshakeAttempts
  else policy.maxRetries + 1 - sender.attempts

/-- How many more moves a sender makes at most before it hears a byte.  A failure costs the end of
the wait, the repetition, and the beginning of the next step and the next wait. -/
def movesLeft (policy : RetryPolicy τ) (sender : Sender τ) : Nat :=
  match sender.activity with
  | .ended _ => 0
  | .writing (.cancel _) => 1
  | .listening _ => 4 * sender.failuresLeft policy + 2
  | .writing _ => 4 * sender.failuresLeft policy + 4
  | .between =>
      4 * sender.failuresLeft policy +
        if sender.phase = .sendingBlock ∨ sender.phase = .sendingEot then 5 else 3
  | .idle => 4 * sender.failuresLeft policy + 6

section Moves

variable {policy : RetryPolicy τ} {source : List UInt8} {mode : ChecksumMode} {place attempts : Nat}
  {sender after : Sender τ} {now deadline : τ} {stage : Stage} {sign : Option Sign}

theorem failuresLeft_le (policy : RetryPolicy τ) (sender : Sender τ) :
    sender.failuresLeft policy ≤ policy.maxHandshakeAttempts + policy.maxRetries + 1 := by
  unfold failuresLeft
  split <;> omega

theorem movesLeft_le (policy : RetryPolicy τ) (sender : Sender τ) :
    sender.movesLeft policy ≤
      4 * (policy.maxHandshakeAttempts + policy.maxRetries + 1) + 6 := by
  have bounded := failuresLeft_le policy sender
  unfold movesLeft
  split
  case h_5 => split <;> omega
  all_goals omega

theorem movesLeft_listening (listens : sender.activity = .listening deadline) :
    sender.movesLeft policy = 4 * sender.failuresLeft policy + 2 := by
  simp only [movesLeft, listens]

theorem movesLeft_between (rests : sender.activity = .between)
    (other : sender.phase ≠ .sendingBlock ∧ sender.phase ≠ .sendingEot) :
    sender.movesLeft policy = 4 * sender.failuresLeft policy + 3 := by
  simp only [movesLeft, rests, other, or_self, if_false]

theorem ne_sending_replyPhase (source : List UInt8) (place : Nat) :
    replyPhase source place ≠ .sendingBlock ∧ replyPhase source place ≠ .sendingEot := by
  obtain awaits | awaits := awaiting_replyPhase source place <;> simp [awaits]

theorem movesLeft_heardNothing (keeps : Keeps policy source none 0 0 sender)
    (calls : sender.phase = .awaitingStart) (listens : sender.activity = .listening deadline) :
    (sender.heardNothing now).1.movesLeft policy < sender.movesLeft policy := by
  rw [movesLeft_listening listens]
  obtain ⟨early, becomes⟩ | ⟨-, becomes⟩ := sender.heardNothing_cases now calls
  · rw [keeps.policy_eq] at early
    have calls_on : sender.uncalled.endStep.1.phase = .awaitingStart := calls
    rw [becomes, movesLeft_between rfl (by simp [calls_on])]
    simp only [failuresLeft, calls, calls_on, if_true]
    change 4 * (policy.maxHandshakeAttempts - (sender.handshakeAttempts + 1)) + 3 < _
    omega
  · rw [becomes]
    exact Nat.succ_pos _

theorem movesLeft_retry (keeps : Keeps policy source (some mode) place attempts sender)
    (begun : sender.phase ≠ .awaitingStart) (listens : sender.activity = .listening deadline)
    (metrics : Metrics τ) (trigger : RetryTrigger) :
    ({ sender with metrics := metrics }.retry trigger).1.movesLeft policy <
      sender.movesLeft policy := by
  rw [movesLeft_listening listens]
  obtain ⟨left, becomes⟩ | ⟨-, becomes⟩ := { sender with metrics := metrics }.retry_cases trigger
  · change sender.attempts < sender.policy.maxRetries at left
    rw [keeps.policy_eq] at left
    rw [becomes]
    simp only [movesLeft, failuresLeft, begun, if_false]
    omega
  · rw [becomes]
    exact Nat.succ_lt_succ (Nat.succ_pos _)

theorem movesLeft_beginStep (rests : sender.activity = .between)
    (sends : sender.phase = .sendingBlock ∨ sender.phase = .sendingEot) :
    (sender.beginStep now).1.movesLeft policy < sender.movesLeft policy := by
  obtain phase_eq | phase_eq := sends <;>
    simp [beginStep, phase_eq, movesLeft, rests, failuresLeft]

theorem movesLeft_wrote (writes : sender.activity = .writing .first)
    (sends : sender.phase = .sendingBlock ∨ sender.phase = .sendingEot) :
    (sender.wrote now .first).1.movesLeft policy < sender.movesLeft policy := by
  obtain phase_eq | phase_eq := sends <;>
    simp [wrote, phase_eq, endStep, movesLeft, writes, failuresLeft]

theorem movesLeft_lt_of_ended {outcome : Outcome} (ended : after.activity = .ended outcome)
    (going : ∀ outcome, sender.activity ≠ .ended outcome) :
    after.movesLeft policy < sender.movesLeft policy := by
  have nothing : after.movesLeft policy = 0 := by
    simp only [movesLeft, ended]
  rw [nothing]
  unfold movesLeft
  split
  case h_1 outcome doing => exact absurd doing (going outcome)
  case h_5 => split <;> omega
  all_goals omega

/-- A sender that hears no byte has fewer moves left. -/
theorem At.movesLeft_lt (stands : At policy source stage sender)
    (reacts : Reacts sender now sign after) (unheard : ∀ value, sign ≠ some (.heard value)) :
    after.movesLeft policy < sender.movesLeft policy := by
  cases stands with
  | calling keeps calls rests =>
      cases reacts with
      | wake idle => simp [movesLeft, failuresLeft, idle, calls]
      | begin between =>
          rw [beginStep_calling calls]
          simp [movesLeft, failuresLeft, between, calls]
      | hear value _ => exact absurd rfl (unheard value)
      | expire listens => exact movesLeft_heardNothing keeps calls listens
      | «break» fault listens => exact movesLeft_lt_of_ended rfl (by simp [listens])
      | write writes | spoil fault writes => simp [Rests, writes] at rests
  | ready keeps sends between =>
      obtain ⟨rfl, rfl⟩ := reacts.of_between between
      exact movesLeft_beginStep between (sends ▸ sending_sendPhase source _)
  | first keeps sends framed writes =>
      obtain ⟨rfl, rfl⟩ | ⟨rfl, outcome, finished⟩ := reacts.of_writing writes
      · exact movesLeft_wrote writes (sends ▸ sending_sendPhase source _)
      · exact movesLeft_lt_of_ended finished (by simp [writes])
  | again keeps replies framed some_copy left writes =>
      obtain ⟨rfl, rfl⟩ | ⟨rfl, outcome, finished⟩ := reacts.of_writing writes
      · have left_after : (sender.wrote now .again).1.movesLeft policy =
            4 * sender.failuresLeft policy + 3 :=
          movesLeft_between rfl (replies ▸ ne_sending_replyPhase source _)
        rw [left_after]
        simp only [movesLeft, writes]
        omega
      · exact movesLeft_lt_of_ended finished (by simp [writes])
  | awaiting keeps replies framed patient rests =>
      have begun : sender.phase ≠ .awaitingStart := replies ▸ replyPhase_ne_awaitingStart source _
      have other : sender.phase ≠ .sendingBlock ∧ sender.phase ≠ .sendingEot :=
        replies ▸ ne_sending_replyPhase source _
      cases reacts with
      | wake idle => simp [movesLeft, failuresLeft, idle, other]
      | begin between =>
          rw [beginStep_awaiting replies, movesLeft_between between other]
          simp [movesLeft, failuresLeft]
      | hear value _ => exact absurd rfl (unheard value)
      | expire listens =>
          rw [heardNothing_eq_retry now begun]
          exact movesLeft_retry keeps begun listens _ _
      | «break» fault listens => exact movesLeft_lt_of_ended rfl (by simp [listens])
      | write writes | spoil fault writes => simp [Rests, writes] at rests
  | canceling writes =>
      obtain ⟨rfl, rfl⟩ | ⟨rfl, outcome, finished⟩ := reacts.of_writing writes
      · exact movesLeft_lt_of_ended rfl (by simp [writes])
      · exact movesLeft_lt_of_ended finished (by simp [writes])
  | completed completes between =>
      obtain ⟨rfl, rfl⟩ := reacts.of_between between
      have ends : (sender.beginStep now).1.activity = .ended (.ok sender.cursor) := by
        simp only [beginStep, completes, complete, close]
      exact movesLeft_lt_of_ended ends (by simp [between])
  | ended finished => exact absurd reacts (Reacts.not_of_ended finished)

theorem tires (policy : RetryPolicy τ) (source : List UInt8) :
    Tires (fun sender => ∃ stage, At policy source stage sender) (movesLeft policy)
      (4 * (policy.maxHandshakeAttempts + policy.maxRetries + 1) + 6) where
  keeps moment valid := by
    rintro ⟨stage, stands⟩
    obtain ⟨later, -, stands⟩ := stands.exists_passes (reacts_of_valid valid)
    exact ⟨later, stands⟩
  declines moment valid := by
    rintro ⟨stage, stands⟩ unheard
    refine stands.movesLeft_lt (reacts_of_valid valid) fun value signed => ?_
    exact unheard value (moment.answer_of_sign signed)
  bounded sender _ := movesLeft_le policy sender
  stops sender now := (action_eq_stop_iff sender now).mp

end Moves
end Sender

namespace Receiver

open Packets Destination

/-- How many more failures a receiver bears. -/
def failuresLeft (policy : RetryPolicy τ) (receiver : Receiver τ) : Nat :=
  if receiver.phase = .awaitingStart then
    policy.maxHandshakeAttempts - receiver.handshakeAttempts
  else
    policy.maxHandshakeAttempts - receiver.idlePeriods

/-- How many more moves a receiver makes at most before it hears a byte. -/
def movesLeft (policy : RetryPolicy τ) (receiver : Receiver τ) : Nat :=
  match receiver.activity with
  | .ended _ => 0
  | .writing (.cancel _) => 1
  | .listening _ | .collecting _ => 6 * receiver.failuresLeft policy + 2
  | .writing .request => 6 * receiver.failuresLeft policy + 3
  | .between => 6 * receiver.failuresLeft policy + 4
  | .writing _ => 6 * receiver.failuresLeft policy + 5
  | .draining _ => 6 * receiver.failuresLeft policy + 6
  | .idle => 6 * receiver.failuresLeft policy + 7

section Moves

variable {setup : Setup τ} {initial : Destination} {course : Course} {blocks : List Block}
  {refusals : Nat} {receiver after : Receiver τ} {now deadline : τ} {sign : Option Sign}
  {result : Receiver τ × List (Event τ)}

theorem movesLeft_le (policy : RetryPolicy τ) (receiver : Receiver τ) :
    receiver.movesLeft policy ≤ 6 * policy.maxHandshakeAttempts + 7 := by
  have bounded : receiver.failuresLeft policy ≤ policy.maxHandshakeAttempts := by
    unfold failuresLeft
    split <;> exact Nat.sub_le ..
  unfold movesLeft
  split <;> omega

theorem movesLeft_lt_of_ended {policy : RetryPolicy τ} {outcome : Outcome}
    (ended : after.activity = .ended outcome)
    (going : ∀ outcome, receiver.activity ≠ .ended outcome) :
    after.movesLeft policy < receiver.movesLeft policy := by
  have nothing : after.movesLeft policy = 0 := by
    simp only [movesLeft, ended]
  rw [nothing]
  unfold movesLeft
  split
  case h_1 outcome doing => exact absurd doing (going outcome)
  all_goals omega

theorem movesLeft_idle (keeps : Keeps setup initial blocks refusals receiver)
    (met : receiver.phase ≠ .awaitingStart) (idleness : Idleness) :
    (receiver.idle now idleness).1.movesLeft setup.policy <
      6 * receiver.failuresLeft setup.policy + 2 := by
  obtain ⟨early, becomes⟩ | ⟨-, becomes⟩ := receiver.idle_cases now idleness
  · rw [keeps.setup_eq] at early
    rw [becomes]
    simp only [endStep, lapsed, movesLeft, failuresLeft, met, if_false]
    omega
  · rw [becomes]
    exact Nat.succ_pos _

theorem movesLeft_heardNothing (keeps : Keeps setup initial blocks refusals receiver)
    (calls : receiver.phase = .awaitingStart) :
    (receiver.heardNothing now).1.movesLeft setup.policy <
      6 * receiver.failuresLeft setup.policy + 2 := by
  obtain ⟨early, becomes⟩ | ⟨-, becomes⟩ := receiver.heardNothing_cases now calls
  · rw [keeps.setup_eq] at early
    rw [becomes]
    simp only [endStep, unheard, movesLeft, failuresLeft, calls, if_true]
    omega
  · rw [becomes]
    exact Nat.succ_pos _

theorem movesLeft_wrote (met : receiver.phase ≠ .awaitingStart) {purpose : Writing}
    (writes : receiver.activity = .writing purpose)
    (answers : purpose = .acceptance ∨ purpose.Continues ∨ purpose = .completion) :
    (receiver.wrote now purpose).1.movesLeft setup.policy < receiver.movesLeft setup.policy := by
  obtain rfl | (rfl | rfl | rfl) | rfl := answers
  · have waits : receiver.waitingPhase ≠ .awaitingStart := by
      unfold waitingPhase
      split <;> exact nofun
    simp [wrote, endStep, movesLeft, writes, failuresLeft, met, waits]
  all_goals simp [wrote, endStep, movesLeft, writes, failuresLeft, met]

/-- A receiver that hears no byte has fewer moves left. -/
theorem At.movesLeft_lt (stands : At setup initial course receiver)
    (reacts : Reacts receiver now sign result) (unheard : ∀ value, sign ≠ some (.heard value)) :
    result.1.movesLeft setup.policy < receiver.movesLeft setup.policy := by
  have keeps := stands.keeps
  cases stands with
  | calling _ calls rests =>
      obtain idle | between | asks | ⟨deadline, listens⟩ := rests
      · obtain ⟨rfl, rfl⟩ := reacts.of_idle idle
        simp [movesLeft, failuresLeft, idle, calls]
      · obtain ⟨rfl, rfl⟩ := reacts.of_between between
        simp [beginStep, movesLeft, failuresLeft, between, calls]
      · obtain ⟨rfl, rfl⟩ | ⟨fault, rfl, rfl⟩ := reacts.of_writing asks
        · simp [wrote, listen, movesLeft, failuresLeft, asks, calls]
        · exact movesLeft_lt_of_ended rfl (by simp [asks])
      · obtain ⟨value, rfl, rfl⟩ | ⟨rfl, rfl⟩ | ⟨fault, rfl, rfl⟩ := reacts.of_listening listens
        · exact absurd rfl (unheard value)
        · simpa [movesLeft, listens] using movesLeft_heardNothing keeps calls
        · exact movesLeft_lt_of_ended rfl (by simp [listens])
  | standing _ met rests =>
      have begun : receiver.phase ≠ .awaitingStart := met ▸ phaseAt_ne_awaitingStart _ _
      obtain between | ⟨deadline, listens⟩ := rests
      · obtain ⟨rfl, rfl⟩ := reacts.of_between between
        rw [beginStep_met met]
        simp [listen, movesLeft, failuresLeft, between, begun]
      · obtain ⟨value, rfl, rfl⟩ | ⟨rfl, rfl⟩ | ⟨fault, rfl, rfl⟩ := reacts.of_listening listens
        · exact absurd rfl (unheard value)
        · have idles : receiver.heardNothing now = receiver.idle now .noBlock := if_neg begun
          rw [idles]
          simpa [movesLeft, listens] using movesLeft_idle keeps begun .noBlock
        · exact movesLeft_lt_of_ended rfl (by simp [listens])
  | collecting _ met collects =>
      obtain ⟨value, rfl, rfl⟩ | ⟨rfl, rfl⟩ | ⟨fault, rfl, rfl⟩ := reacts.of_collecting collects
      · exact absurd rfl (unheard value)
      · simpa [movesLeft, collects] using
          movesLeft_idle keeps (met ▸ phaseAt_ne_awaitingStart _ _) (.partialFrame _)
      · exact movesLeft_lt_of_ended rfl (by simp [collects])
  | draining _ met drains =>
      have begun : receiver.phase ≠ .awaitingStart := met ▸ phaseAt_ne_awaitingStart _ _
      obtain ⟨value, rfl, rfl⟩ | ⟨rfl, rfl⟩ | ⟨fault, rfl, rfl⟩ := reacts.of_draining drains
      · exact absurd rfl (unheard value)
      · simp [reject, movesLeft, failuresLeft, drains, begun]
      · exact movesLeft_lt_of_ended rfl (by simp [drains])
  | accepting _ inside writes =>
      obtain ⟨rfl, rfl⟩ | ⟨fault, rfl, rfl⟩ := reacts.of_writing writes
      · exact movesLeft_wrote (by simp [inside]) writes (.inl rfl)
      · exact movesLeft_lt_of_ended rfl (by simp [writes])
  | answering _ met answers writes =>
      obtain ⟨rfl, rfl⟩ | ⟨fault, rfl, rfl⟩ := reacts.of_writing writes
      · exact movesLeft_wrote (met ▸ phaseAt_ne_awaitingStart _ _) writes (.inr answers)
      · exact movesLeft_lt_of_ended rfl (by simp [writes])
  | completed _ completes between =>
      obtain ⟨rfl, rfl⟩ := reacts.of_between between
      have ends : (receiver.beginStep now).1.activity = .ended (.ok receiver.transferred) := by
        simp only [beginStep, completes, complete, close]
      exact movesLeft_lt_of_ended ends (by simp [between])
  | canceling _ _ writes =>
      obtain ⟨rfl, rfl⟩ | ⟨fault, rfl, rfl⟩ := reacts.of_writing writes
      · exact movesLeft_lt_of_ended rfl (by simp [writes])
      · exact movesLeft_lt_of_ended rfl (by simp [writes])
  | finished _ _ finished => exact absurd reacts (Reacts.not_of_ended finished)

theorem tires (setup : Setup τ) :
    Tires (fun receiver => ∃ initial course, At setup initial course receiver)
      (movesLeft setup.policy) (6 * setup.policy.maxHandshakeAttempts + 7) where
  keeps moment valid := by
    rintro ⟨initial, course, stands⟩
    obtain ⟨later, -, stands⟩ := stands.exists_passes (reacts_of_valid valid)
    exact ⟨initial, later, stands⟩
  declines moment valid := by
    rintro ⟨initial, course, stands⟩ unheard
    refine stands.movesLeft_lt (reacts_of_valid valid) fun value signed => ?_
    exact unheard value (moment.answer_of_sign signed)
  bounded receiver _ := movesLeft_le setup.policy receiver
  stops receiver now := (action_eq_stop_iff receiver now).mp

end Moves
end Receiver

namespace BootLoop

/-- How many more moves a boot loop makes at most before it hears a byte. -/
def movesLeft (policy : RetryPolicy τ) (limit : Nat) (loop : BootLoop τ) : Nat :=
  (limit - loop.session) * (6 * policy.maxHandshakeAttempts + 8) +
    loop.receiver.movesLeft policy

/-- Whether a loop with a limit runs receivers with a setup. -/
structure Runs (setup : Receiver.Setup τ) (limit : Nat) (loop : BootLoop τ) : Prop where
  limit_eq : loop.limit = some limit
  stands : ∃ initial course, Receiver.At setup initial course loop.receiver

section Moves

variable {setup : Receiver.Setup τ} {limit : Nat} {moment : Moment (BootLoop τ) τ}

theorem Runs.after (runs : Runs setup limit moment.session) (valid : moment.Valid) :
    Runs setup limit moment.after ∧
      ((∀ value, moment.answer ≠ .byte value) → moment.after.movesLeft setup.policy limit <
        moment.session.movesLeft setup.policy limit) := by
  obtain ⟨limit_eq, initial, course, stands⟩ := runs
  have reacts := Receiver.reacts_of_valid (valid_inner valid)
  obtain ⟨later, -, arrives⟩ := stands.exists_passes reacts
  change Receiver.At setup initial later (inner moment).after at arrives
  obtain ⟨-, same⟩ | ⟨failure, -, -, left, fresh⟩ := after_cases valid
  · rw [same]
    refine ⟨⟨limit_eq, initial, later, arrives⟩, fun unheard => ?_⟩
    refine Nat.add_lt_add_left (stands.movesLeft_lt reacts fun value signed => ?_) _
    exact unheard value ((inner moment).answer_of_sign signed)
  · have inside : moment.session.session < limit := by
      simpa [mayRestart, limit_eq] using left
    rw [fresh, arrives.keeps.setup_eq]
    refine ⟨⟨limit_eq, _, _, Receiver.at_start setup _ moment.answered⟩, fun _ => ?_⟩
    have most := Receiver.movesLeft_le setup.policy
      (.start setup (inner moment).after.destination moment.answered)
    have fewer : limit - moment.session.session = limit - (moment.session.session + 1) + 1 := by
      omega
    have spent := Nat.add_one_mul (limit - (moment.session.session + 1))
      (6 * setup.policy.maxHandshakeAttempts + 8)
    unfold movesLeft
    rw [fewer]
    dsimp only
    omega

theorem tires (setup : Receiver.Setup τ) (limit : Nat) :
    Tires (Runs setup limit) (movesLeft setup.policy limit)
      ((limit + 1) * (6 * setup.policy.maxHandshakeAttempts + 8)) where
  keeps moment valid runs := (runs.after valid).1
  declines moment valid runs := (runs.after valid).2
  bounded loop _ := by
    have most := Receiver.movesLeft_le setup.policy loop.receiver
    have fewer := Nat.mul_le_mul_right (6 * setup.policy.maxHandshakeAttempts + 8)
      (Nat.sub_le limit loop.session)
    have all := Nat.add_one_mul limit (6 * setup.policy.maxHandshakeAttempts + 8)
    unfold movesLeft
    omega
  stops loop now := (Receiver.action_eq_stop_iff loop.receiver now).mp

end Moves
end BootLoop

/-- Every session ends on every finite script, whatever the line does at its items and behind them,
within a number of moves that is known in advance. -/
theorem sessions_end (policy : RetryPolicy τ) (source : List UInt8) (mode : ChecksumMode)
    (expectedLength : Option Int) (confirmEot : Bool) (destination : Destination) (limit : Int)
    (line : ScriptedLine τ) (created now : τ) :
    Run.EndsWithin (Sender.start policy source created) line now
        ((line.items.length + 1) *
          (4 * (policy.maxHandshakeAttempts + policy.maxRetries + 1) + 6 + 1)) ∧
      (match Receiver.open? policy mode expectedLength confirmEot destination created with
        | .error _ => True
        | .ok receiver => Run.EndsWithin receiver line now
            ((line.items.length + 1) * (6 * policy.maxHandshakeAttempts + 7 + 1))) ∧
      (match BootLoop.open? (some limit)
          (Receiver.open? policy mode expectedLength confirmEot destination created) with
        | .error _ => True
        | .ok loop => Run.EndsWithin loop line now
            ((line.items.length + 1) *
              ((limit.toNat + 1) * (6 * policy.maxHandshakeAttempts + 8) + 1))) := by
  let setup : Receiver.Setup τ := ⟨policy, mode, expectedLength.map Int.toNat, confirmEot⟩
  have stands := Receiver.at_start setup destination created
  refine ⟨?_, ?_, ?_⟩
  · exact Run.endsWithin_of_tires (Sender.tires policy source)
      ⟨.calling, Sender.at_start policy source created⟩ rfl line now
  · split
    · trivial
    · rename_i receiver opens
      obtain rfl := Receiver.eq_start_of_open? opens
      exact Run.endsWithin_of_tires (Receiver.tires setup) ⟨destination, _, stands⟩ rfl line now
  · split
    · trivial
    · rename_i loop opens
      obtain ⟨receiver, opened, rfl, -⟩ := BootLoop.eq_start_of_open? opens
      obtain rfl := Receiver.eq_start_of_open? opened
      exact Run.endsWithin_of_tires (BootLoop.tires setup limit.toNat)
        ⟨rfl, destination, _, stands⟩ rfl line now

end Xmodem
