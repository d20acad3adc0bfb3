import Xmodem.Proofs.Conversation
import Xmodem.Proofs.Sender.Turns

/-!
# Stages of a sender

Seen from the line, a sender calls, sends copies of one packet after the other, and perhaps cancels.
`Sender.At` says which senders are at a stage, and `Sender.Passes` which signs lead from one stage
to the next.  Every answer that the surroundings may give is such a passage.
-/

namespace Xmodem
namespace Sender

open Packets

variable {τ : Type} [Quantity τ]

/-- Where a sender stands, seen from the line. -/
inductive Stage where
  /-- It waits for the start. -/
  | calling
  /-- It is about to send a packet of which some copies were sent. -/
  | sending (mode : ChecksumMode) (place copies : Nat)
  /-- It waits for the answer to the copies of a packet. -/
  | awaiting (mode : ChecksumMode) (place copies : Nat)
  /-- It is about to tell the receiver that it gave up. -/
  | canceling (mode : ChecksumMode) (place : Nat)
  /-- Nothing will follow. -/
  | finished

/-- The checksum mode that a byte asks for. -/
def requested? (value : UInt8) : Option ChecksumMode :=
  if value = Signal.byte .negativeAcknowledge then some .additive
  else if value = Signal.byte .requestCrc then some .crc16
  else none

/-- Whether a sign makes a sender send its packet again. -/
def Failure (sign : Sign) : Prop :=
  sign = .heard (Signal.byte .negativeAcknowledge) ∨ sign = .silence

/-- Whether a sender leaves a stage with a sign, or with none, for another stage. -/
inductive Passes (policy : RetryPolicy τ) (source : List UInt8) : Stage → Option Sign → Stage → Prop
  | within (stage : Stage) : Passes policy source stage none stage
  | begin {value : UInt8} {mode : ChecksumMode} :
      requested? value = some mode →
      Passes policy source .calling (some (.heard value)) (.sending mode 0 0)
  | ignore {value : UInt8} :
      requested? value = none → value ≠ Signal.byte .cancel →
      Passes policy source .calling (some (.heard value)) .calling
  | call : Passes policy source .calling (some .silence) .calling
  | leave {sign : Sign} :
      sign = .heard (Signal.byte .cancel) ∨ sign = .silence ∨ sign = .broken →
      Passes policy source .calling (some sign) .finished
  | send {mode : ChecksumMode} {place copies : Nat} :
      place ≤ blockCount source → copies ≤ policy.maxRetries →
      Passes policy source (.sending mode place copies) (some (.wrote (packet mode source place)))
        (.awaiting mode place (copies + 1))
  | spoil {mode : ChecksumMode} {place copies : Nat} :
      place ≤ blockCount source → copies ≤ policy.maxRetries →
      Passes policy source (.sending mode place copies)
        (some (.spoiled (packet mode source place))) .finished
  | advance {mode : ChecksumMode} {place copies : Nat} :
      place < blockCount source →
      Passes policy source (.awaiting mode place copies)
        (some (.heard (Signal.byte .acknowledge))) (.sending mode (place + 1) 0)
  | finish {mode : ChecksumMode} {copies : Nat} :
      Passes policy source (.awaiting mode (blockCount source) copies)
        (some (.heard (Signal.byte .acknowledge))) .finished
  | discard {mode : ChecksumMode} {place copies : Nat} {value : UInt8} :
      value ≠ Signal.byte .acknowledge → value ≠ Signal.byte .negativeAcknowledge →
      value ≠ Signal.byte .cancel →
      Passes policy source (.awaiting mode place copies) (some (.heard value))
        (.awaiting mode place copies)
  | retry {mode : ChecksumMode} {place copies : Nat} {sign : Sign} :
      Failure sign → copies ≤ policy.maxRetries →
      Passes policy source (.awaiting mode place copies) (some sign) (.sending mode place copies)
  | exhaust {mode : ChecksumMode} {place : Nat} {sign : Sign} :
      Failure sign →
      Passes policy source (.awaiting mode place (policy.maxRetries + 1)) (some sign)
        (.canceling mode place)
  | quit {mode : ChecksumMode} {place copies : Nat} {sign : Sign} :
      sign = .heard (Signal.byte .cancel) ∨ sign = .broken →
      Passes policy source (.awaiting mode place copies) (some sign) .finished
  | cancel {mode : ChecksumMode} {place : Nat} {sign : Sign} :
      sign.written? = some [Signal.byte .cancel] →
      Passes policy source (.canceling mode place) (some sign) .finished

/-- Whether a sender waits for a byte. -/
def waits (sender : Sender τ) : Bool :=
  match sender.activity with
  | .listening _ => true
  | _ => false

/-- The bytes written for a purpose. -/
def Writing.bytes (frame : List UInt8) : Writing → List UInt8
  | .first | .again => frame
  | .cancel _ => [Signal.byte .cancel]

/-- What a sender can become at an instant, and the sign of it. -/
inductive Reacts (sender : Sender τ) (now : τ) : Option Sign → Sender τ → Prop
  | wake : sender.activity = .idle →
      Reacts sender now none
        { sender with metrics := { sender.metrics with start := now }, activity := .between }
  | begin : sender.activity = .between → Reacts sender now none (sender.beginStep now).1
  | hear {deadline : τ} (value : UInt8) : sender.activity = .listening deadline →
      Reacts sender now (some (.heard value)) (sender.heard now value).1
  | expire {deadline : τ} : sender.activity = .listening deadline →
      Reacts sender now (some .silence) (sender.heardNothing now).1
  | break {deadline : τ} (fault : Fault) : sender.activity = .listening deadline →
      Reacts sender now (some .broken) (sender.abort now (.lineFault fault.message)).1
  | write {purpose : Writing} : sender.activity = .writing purpose →
      Reacts sender now (some (.wrote (purpose.bytes sender.frame))) (sender.wrote now purpose).1
  | spoil {purpose : Writing} (fault : Fault) : sender.activity = .writing purpose →
      Reacts sender now (some (.spoiled (purpose.bytes sender.frame)))
        (sender.abort now (.lineFault fault.message)).1

theorem action_writing {sender : Sender τ} {purpose : Writing} (now : τ)
    (writes : sender.activity = .writing purpose) :
    sender.action now = .write (purpose.bytes sender.frame) := by
  cases purpose <;> simp [action, writes, Writing.bytes]

/-- A sender reads when it listens and has time left. -/
theorem exists_listening_of_read {sender : Sender τ} {now timeout : τ}
    (reads : sender.action now = .read timeout) :
    ∃ deadline, sender.activity = .listening deadline ∧ timeout = deadline - now ∧
      ¬ timeout ≤ 0 := by
  cases doing : sender.activity with
  | idle | between | ended => simp [action, doing] at reads
  | writing purpose => simp [action_writing now doing] at reads
  | listening deadline =>
      simp only [action, doing] at reads
      split at reads
      · cases reads
      · rename_i early
        cases reads
        exact ⟨deadline, rfl, rfl, early⟩

theorem reacts_of_valid {moment : Moment (Sender τ) τ} (valid : moment.Valid) :
    Reacts moment.session moment.answered (moment.sign? waits) moment.after := by
  obtain ⟨sender, asked, answer, answered⟩ := moment
  obtain ⟨allowed, prompt⟩ := valid
  change (sender.action asked).Allows answer at allowed
  change answer = .proceeded → answered = asked at prompt
  change Reacts sender answered (Sign.of? sender.waits (sender.action asked) answer)
    (sender.next answered answer).1
  cases doing : sender.activity with
  | idle =>
      simp only [action, doing] at allowed
      cases allowed
      simpa [action, waits, next, Sign.of?, doing] using Reacts.wake doing
  | between =>
      simp only [action, doing] at allowed
      cases allowed
      simpa [action, waits, next, Sign.of?, doing] using Reacts.begin doing
  | listening deadline =>
      simp only [action, doing] at allowed
      split at allowed
      · rename_i past
        cases allowed
        obtain rfl : answered = asked := prompt rfl
        simpa [action, waits, next, Sign.of?, doing, past] using
          Reacts.expire doing
      · rename_i early
        cases allowed with
        | byte _ value =>
            simpa [action, next, Sign.of?, doing, early] using
              Reacts.hear value doing
        | silence =>
            simpa [action, next, Sign.of?, doing, early] using
              Reacts.expire doing
        | broken _ fault =>
            simpa [action, next, Sign.of?, doing, early] using
              Reacts.break fault doing
  | writing purpose =>
      rw [action_writing asked doing] at allowed ⊢
      cases allowed with
      | written => simpa [next, Sign.of?, doing] using Reacts.write doing
      | spoiled _ fault =>
          simpa [next, Sign.of?, doing] using Reacts.spoil fault doing
  | ended outcome =>
      simp only [action, doing] at allowed
      cases allowed

section Reacting

variable {sender after : Sender τ} {now : τ} {sign : Option Sign} {purpose : Writing}

theorem Reacts.of_between (reacts : Reacts sender now sign after)
    (between : sender.activity = .between) : sign = none ∧ after = (sender.beginStep now).1 := by
  cases reacts with
  | begin _ => exact ⟨rfl, rfl⟩
  | wake other | hear _ other | expire other | «break» _ other | write other | spoil _ other =>
      exact absurd (between.symm.trans other) nofun

theorem Reacts.of_writing (reacts : Reacts sender now sign after)
    (writes : sender.activity = .writing purpose) :
    (sign = some (.wrote (purpose.bytes sender.frame)) ∧ after = (sender.wrote now purpose).1) ∨
      (sign = some (.spoiled (purpose.bytes sender.frame)) ∧
        ∃ outcome, after.activity = .ended outcome) := by
  cases reacts with
  | write other =>
      obtain rfl := Activity.writing.inj (writes.symm.trans other)
      exact .inl ⟨rfl, rfl⟩
  | spoil fault other =>
      obtain rfl := Activity.writing.inj (writes.symm.trans other)
      exact .inr ⟨rfl, _, rfl⟩
  | wake other | begin other | hear _ other | expire other | «break» _ other =>
      exact absurd (writes.symm.trans other) nofun

theorem Reacts.not_of_ended {outcome : Outcome} (finished : sender.activity = .ended outcome) :
    ¬ Reacts sender now sign after := by
  intro reacts
  cases reacts with
  | wake other | begin other | hear _ other | expire other | «break» _ other | write other
  | spoil _ other => exact absurd (finished.symm.trans other) nofun

end Reacting

/-- What a sender remembers when all packets before some place were acknowledged. -/
structure Keeps (policy : RetryPolicy τ) (source : List UInt8) (mode : Option ChecksumMode)
    (place attempts : Nat) (sender : Sender τ) : Prop where
  policy_eq : sender.policy = policy
  length_eq : sender.length = source.length
  unsent_eq : sender.unsent = source.drop (blockSize * place)
  mode_eq : sender.mode = mode
  cursor_eq : sender.cursor = min (blockSize * place) source.length
  number_eq : sender.blockNumber = .ofNat (place + 1)
  attempts_eq : sender.attempts = attempts
  inside : place ≤ blockCount source

/-- Whether a sender neither writes nor has ended. -/
def Rests (sender : Sender τ) : Prop :=
  sender.activity = .idle ∨ sender.activity = .between ∨
    ∃ deadline, sender.activity = .listening deadline

/-- Which senders are at a stage. -/
inductive At (policy : RetryPolicy τ) (source : List UInt8) : Stage → Sender τ → Prop
  | calling {sender : Sender τ} :
      Keeps policy source none 0 0 sender → sender.phase = .awaitingStart → Rests sender →
      At policy source .calling sender
  | ready {sender : Sender τ} {mode : ChecksumMode} {place : Nat} :
      Keeps policy source (some mode) place 0 sender → sender.phase = sendPhase source place →
      sender.activity = .between → At policy source (.sending mode place 0) sender
  | first {sender : Sender τ} {mode : ChecksumMode} {place : Nat} :
      Keeps policy source (some mode) place 0 sender → sender.phase = sendPhase source place →
      sender.frame = packet mode source place → sender.activity = .writing .first →
      At policy source (.sending mode place 0) sender
  | again {sender : Sender τ} {mode : ChecksumMode} {place copies : Nat} :
      Keeps policy source (some mode) place copies sender →
      sender.phase = replyPhase source place → sender.frame = packet mode source place →
      0 < copies → copies ≤ policy.maxRetries → sender.activity = .writing .again →
      At policy source (.sending mode place copies) sender
  | awaiting {sender : Sender τ} {mode : ChecksumMode} {place attempts : Nat} :
      Keeps policy source (some mode) place attempts sender →
      sender.phase = replyPhase source place → sender.frame = packet mode source place →
      attempts ≤ policy.maxRetries → Rests sender →
      At policy source (.awaiting mode place (attempts + 1)) sender
  | canceling {sender : Sender τ} {mode : ChecksumMode} {place : Nat} {cause : AbortCause} :
      sender.activity = .writing (.cancel cause) →
      At policy source (.canceling mode place) sender
  | completed {sender : Sender τ} :
      sender.phase = .completed → sender.activity = .between → At policy source .finished sender
  | ended {sender : Sender τ} {outcome : Outcome} :
      sender.activity = .ended outcome → At policy source .finished sender

theorem retry_cases (sender : Sender τ) (trigger : RetryTrigger) :
    sender.attempts < sender.policy.maxRetries ∧
        (sender.retry trigger).1 =
          { sender with
            attempts := sender.attempts + 1
            metrics := { sender.metrics with retransmits := sender.metrics.retransmits + 1 }
            activity := .writing .again } ∨
      sender.policy.maxRetries ≤ sender.attempts ∧
        (sender.retry trigger).1 =
          (sender.abortNotifying (.unacknowledged sender.outstanding sender.attempts)).1 := by
  have decided := sender.policy.decide_eq_giveUp_iff sender.attempts
  rw [Nat.cast_le] at decided
  unfold retry
  cases decision : sender.policy.decide sender.attempts with
  | giveUp => exact .inr ⟨decided.mp decision, rfl⟩
  | retry =>
      have left : ¬ sender.policy.maxRetries ≤ sender.attempts := by
        rw [← decided, decision]
        exact nofun
      exact .inl ⟨Nat.lt_of_not_le left, rfl⟩

/-- A sender that counts one more silent wait for the start. -/
def uncalled (sender : Sender τ) : Sender τ :=
  { sender with
    handshakeAttempts := sender.handshakeAttempts + 1
    metrics := { sender.metrics with timeouts := sender.metrics.timeouts + 1 } }

theorem heardNothing_cases (sender : Sender τ) (now : τ) (calls : sender.phase = .awaitingStart) :
    sender.handshakeAttempts + 1 < sender.policy.maxHandshakeAttempts ∧
        (sender.heardNothing now).1 = sender.uncalled.endStep.1 ∨
      sender.policy.maxHandshakeAttempts ≤ sender.handshakeAttempts + 1 ∧
        (sender.heardNothing now).1 =
          (sender.uncalled.abort now (.receiverSilent (sender.handshakeAttempts + 1))).1 := by
  have counted := sender.policy.exhausted_iff (sender.handshakeAttempts + 1 : Nat)
  rw [Nat.cast_le] at counted
  unfold heardNothing
  rw [if_pos calls]
  cases spent : sender.policy.exhausted (sender.handshakeAttempts + 1 : Nat) with
  | false =>
      have early : ¬ sender.policy.maxHandshakeAttempts ≤ sender.handshakeAttempts + 1 := by
        rw [← counted, spent]
        exact Bool.false_ne_true
      refine .inl ⟨Nat.lt_of_not_le early, ?_⟩
      simp only [spent]
      rfl
  | true =>
      refine .inr ⟨counted.mp spent, ?_⟩
      simp only [spent]
      rfl

/-- A sender that goes on behind a block. -/
def advanced (sender : Sender τ) : Sender τ :=
  { sender with
    attempts := 0
    cursor := min (sender.cursor + blockSize) sender.length
    unsent := sender.unsent.drop blockSize
    blockNumber := sender.blockNumber + 1 }

theorem acknowledged_of_last {sender : Sender τ} (ends : sender.phase = .awaitingEotAck) :
    sender.acknowledged =
      ({ sender with attempts := 0, phase := .completed } : Sender τ).endStep :=
  if_pos ends

theorem acknowledged_of_block {sender : Sender τ} (moves : sender.phase ≠ .awaitingEotAck) :
    sender.acknowledged =
      let (after, events) := { sender.advanced with phase := sender.advanced.nextPhase }.endStep
      (after, .note (.acknowledged sender.blockNumber sender.advanced.cursor) ::
        .progress .sent sender.advanced.cursor :: events) :=
  if_neg moves

theorem heardNothing_eq_retry {sender : Sender τ} (now : τ)
    (begun : sender.phase ≠ .awaitingStart) :
    sender.heardNothing now =
      { sender with
        metrics := { sender.metrics with timeouts := sender.metrics.timeouts + 1 } }.retry
          .timeout :=
  if_neg begun

/-- The bytes that mean something to a sender that waits. -/
def heeded (sender : Sender τ) : List UInt8 :=
  if sender.phase = .awaitingStart then calls else replies

section Hearing

variable {sender : Sender τ} {value : UInt8}

theorem exists_discards (now : τ) (noise : value ∉ sender.heeded) :
    ∃ occasion, sender.heard now value = sender.discard value occasion := by
  unfold heeded at noise
  unfold heard
  split at noise
  · rename_i unstarted
    rw [if_pos unstarted]
    unfold heardAtStart
    split
    case h_4 => exact ⟨_, rfl⟩
    all_goals
      rename_i kind
      rw [← PacketKind.leadingByte_of_ofLeadingByte? kind] at noise
      exact absurd noise (by decide)
  · rename_i begun
    rw [if_neg begun]
    unfold heardReply
    split
    case h_4 => exact ⟨_, rfl⟩
    all_goals
      rename_i kind
      rw [← PacketKind.leadingByte_of_ofLeadingByte? kind] at noise
      exact absurd noise (by decide)

theorem noise_of_unasked (unasked : requested? value = none)
    (unchanged : value ≠ Signal.byte .cancel) : value ∉ calls := by
  unfold requested? at unasked
  split at unasked
  · cases unasked
  · rename_i no_request
    split at unasked
    · cases unasked
    · have uncalled : value ≠ Signal.byte .requestAdditive := no_request
      simp only [calls, List.mem_cons, List.not_mem_nil, or_false, not_or]
      exact ⟨uncalled, ‹_›, unchanged⟩

theorem waits_retry (sender : Sender τ) (trigger : RetryTrigger) :
    (sender.retry trigger).1.waits = false := by
  obtain ⟨_, becomes⟩ | ⟨_, becomes⟩ := sender.retry_cases trigger
  · rw [becomes]
    rfl
  · rw [becomes]
    rfl

theorem waits_heardNothing (sender : Sender τ) (now : τ) :
    (sender.heardNothing now).1.waits = false := by
  by_cases unstarted : sender.phase = .awaitingStart
  · obtain ⟨_, becomes⟩ | ⟨_, becomes⟩ := sender.heardNothing_cases now unstarted
    · rw [becomes]
      rfl
    · rw [becomes]
      rfl
  · rw [heardNothing_eq_retry now unstarted]
    exact waits_retry _ _

theorem waits_acknowledged (sender : Sender τ) : sender.acknowledged.1.waits = false := by
  by_cases ends : sender.phase = .awaitingEotAck
  · rw [acknowledged_of_last ends]
    rfl
  · rw [acknowledged_of_block ends]
    rfl

theorem waits_wrote (sender : Sender τ) (now : τ) (purpose : Writing) :
    (sender.wrote now purpose).1.waits = false := by
  unfold wrote
  split
  case h_1 => split <;> rfl
  case h_2 | h_3 => rfl

/-- A byte that means something ends a wait. -/
theorem waits_heard (now : τ) (meant : value ∈ sender.heeded) :
    (sender.heard now value).1.waits = false := by
  unfold heeded at meant
  unfold heard
  split at meant
  · rename_i unstarted
    rw [if_pos unstarted]
    simp only [calls, List.mem_cons, List.not_mem_nil, or_false] at meant
    obtain rfl | rfl | rfl := meant <;> rfl
  · rename_i begun
    rw [if_neg begun]
    simp only [replies, List.mem_cons, List.not_mem_nil, or_false] at meant
    obtain rfl | rfl | rfl := meant
    · exact waits_acknowledged sender
    · exact waits_retry _ _
    · rfl

end Hearing

section Reactions

variable {policy : RetryPolicy τ} {source : List UInt8} {mode : ChecksumMode}
  {place attempts copies : Nat} {sender : Sender τ} {now deadline : τ}

theorem nextPhase_eq {mode : Option ChecksumMode}
    (keeps : Keeps policy source mode place attempts sender) :
    sender.nextPhase = sendPhase source place := by
  have same := lt_blockCount_iff source place
  unfold nextPhase sendPhase
  rw [keeps.cursor_eq, keeps.length_eq]
  congr 1
  rw [same, eq_iff_iff]
  omega

theorem Keeps.meanwhile {mode : Option ChecksumMode}
    (keeps : Keeps policy source mode place attempts sender) (phase : SendPhase)
    (handshakes : Nat) (frame : List UInt8) (metrics : Metrics τ) (activity : Activity τ) :
    Keeps policy source mode place attempts
      { sender with
        phase := phase
        handshakeAttempts := handshakes
        frame := frame
        metrics := metrics
        activity := activity } :=
  { keeps with }

theorem at_begin (keeps : Keeps policy source none 0 0 sender) (mode : ChecksumMode) :
    At policy source (.sending mode 0 0) (sender.begin mode).1 :=
  .ready { keeps with mode_eq := rfl } (nextPhase_eq keeps) rfl

theorem exists_passes_heardAtStart (keeps : Keeps policy source none 0 0 sender)
    (calls : sender.phase = .awaitingStart) (rests : Rests sender) (value : UInt8) :
    ∃ later, Passes policy source .calling (some (.heard value)) later ∧
      At policy source later (sender.heard now value).1 := by
  have heard_eq : sender.heard now value = sender.heardAtStart now value := if_pos calls
  rw [heard_eq]
  by_cases additive : value = Signal.byte .negativeAcknowledge
  · subst additive
    exact ⟨.sending .additive 0 0, .begin rfl, at_begin keeps .additive⟩
  by_cases crc : value = Signal.byte .requestCrc
  · subst crc
    exact ⟨.sending .crc16 0 0, .begin rfl, at_begin keeps .crc16⟩
  by_cases cancel : value = Signal.byte .cancel
  · subst cancel
    exact ⟨.finished, .leave (.inl rfl), .ended rfl⟩
  refine ⟨.calling, .ignore (by simp [requested?, additive, crc]) cancel, ?_⟩
  have noise : value ∉ sender.heeded := by
    have uncalled : value ≠ Signal.byte .requestAdditive := additive
    rw [heeded, if_pos calls]
    simp [Sender.calls, uncalled, crc, cancel]
  obtain ⟨_, ignored⟩ := exists_discards now noise
  rw [heard_eq] at ignored
  rw [ignored]
  exact .calling keeps calls rests

theorem exists_passes_heardNothing_calling (keeps : Keeps policy source none 0 0 sender)
    (calls : sender.phase = .awaitingStart) :
    ∃ later, Passes policy source .calling (some .silence) later ∧
      At policy source later (sender.heardNothing now).1 := by
  obtain ⟨_, becomes⟩ | ⟨_, becomes⟩ := sender.heardNothing_cases now calls
  · rw [becomes]
    exact ⟨.calling, .call, .calling (keeps.meanwhile ..) calls (.inr (.inl rfl))⟩
  · rw [becomes]
    exact ⟨.finished, .leave (.inr (.inl rfl)), .ended rfl⟩

theorem exists_passes_retry (keeps : Keeps policy source (some mode) place attempts sender)
    (replies : sender.phase = replyPhase source place)
    (framed : sender.frame = packet mode source place) (patient : attempts ≤ policy.maxRetries)
    (metrics : Metrics τ) (trigger : RetryTrigger) {sign : Sign} (failure : Failure sign) :
    ∃ later, Passes policy source (.awaiting mode place (attempts + 1)) (some sign) later ∧
      At policy source later ({ sender with metrics := metrics }.retry trigger).1 := by
  obtain ⟨left, becomes⟩ | ⟨least, becomes⟩ :=
    { sender with metrics := metrics }.retry_cases trigger
  · have left : attempts + 1 ≤ policy.maxRetries := by
      rw [← keeps.policy_eq, ← keeps.attempts_eq]
      exact left
    have again : sender.attempts + 1 = attempts + 1 := congrArg (· + 1) keeps.attempts_eq
    rw [becomes]
    exact ⟨.sending mode place (attempts + 1), .retry failure left,
      .again { keeps with attempts_eq := again } replies framed attempts.succ_pos left rfl⟩
  · have least : policy.maxRetries ≤ attempts := by
      rw [← keeps.policy_eq, ← keeps.attempts_eq]
      exact least
    obtain rfl := Nat.le_antisymm patient least
    rw [becomes]
    exact ⟨.canceling mode place, .exhaust failure, .canceling rfl⟩

theorem Keeps.advance {mode : Option ChecksumMode}
    (keeps : Keeps policy source mode place attempts sender) (inside : place < blockCount source) :
    Keeps policy source mode (place + 1) 0 sender.advanced :=
  { keeps with
    unsent_eq := by
      change sender.unsent.drop blockSize = _
      rw [keeps.unsent_eq, List.drop_drop, Nat.mul_succ]
    cursor_eq := by
      change min (sender.cursor + blockSize) sender.length = _
      rw [keeps.cursor_eq, keeps.length_eq, Nat.mul_succ]
      omega
    number_eq := by
      change sender.blockNumber + 1 = _
      rw [keeps.number_eq]
      exact (UInt8.ofNat_add (place + 1) 1).symm
    attempts_eq := rfl
    inside := inside }

theorem exists_passes_acknowledged
    (keeps : Keeps policy source (some mode) place attempts sender)
    (replies : sender.phase = replyPhase source place) :
    ∃ later, Passes policy source (.awaiting mode place (attempts + 1))
        (some (.heard (Signal.byte .acknowledge))) later ∧
      At policy source later sender.acknowledged.1 := by
  by_cases inside : place < blockCount source
  · have moves : sender.phase ≠ .awaitingEotAck := by
      simp [replies, replyPhase, inside]
    have advanced := keeps.advance inside
    rw [acknowledged_of_block moves]
    exact ⟨.sending mode (place + 1) 0, .advance inside,
      .ready (advanced.meanwhile ..) (nextPhase_eq advanced) rfl⟩
  · obtain rfl := Nat.le_antisymm keeps.inside (Nat.le_of_not_lt inside)
    have ends : sender.phase = .awaitingEotAck := by
      simp [replies, replyPhase]
    rw [acknowledged_of_last ends]
    exact ⟨.finished, .finish, .completed rfl rfl⟩

theorem exists_passes_heardReply (keeps : Keeps policy source (some mode) place attempts sender)
    (replies : sender.phase = replyPhase source place)
    (framed : sender.frame = packet mode source place) (patient : attempts ≤ policy.maxRetries)
    (rests : Rests sender) (value : UInt8) :
    ∃ later, Passes policy source (.awaiting mode place (attempts + 1)) (some (.heard value))
        later ∧
      At policy source later (sender.heard now value).1 := by
  have heard_eq : sender.heard now value = sender.heardReply now value :=
    if_neg (replies ▸ replyPhase_ne_awaitingStart source place)
  rw [heard_eq]
  by_cases acknowledge : value = Signal.byte .acknowledge
  · subst acknowledge
    exact exists_passes_acknowledged keeps replies
  by_cases refuse : value = Signal.byte .negativeAcknowledge
  · subst refuse
    exact exists_passes_retry keeps replies framed patient _ .nak (.inl rfl)
  by_cases cancel : value = Signal.byte .cancel
  · subst cancel
    exact ⟨.finished, .quit (.inl rfl), .ended rfl⟩
  refine ⟨.awaiting mode place (attempts + 1), .discard acknowledge refuse cancel, ?_⟩
  have noise : value ∉ sender.heeded := by
    rw [heeded, if_neg (replies ▸ replyPhase_ne_awaitingStart source place)]
    simp [Sender.replies, acknowledge, refuse, cancel]
  obtain ⟨_, ignored⟩ := exists_discards now noise
  rw [heard_eq] at ignored
  rw [ignored]
  exact .awaiting keeps replies framed patient rests

theorem exists_passes_heardNothing
    (keeps : Keeps policy source (some mode) place attempts sender)
    (replies : sender.phase = replyPhase source place)
    (framed : sender.frame = packet mode source place)
    (patient : attempts ≤ policy.maxRetries) :
    ∃ later, Passes policy source (.awaiting mode place (attempts + 1)) (some .silence) later ∧
      At policy source later (sender.heardNothing now).1 := by
  rw [heardNothing_eq_retry now (replies ▸ replyPhase_ne_awaitingStart source place)]
  exact exists_passes_retry keeps replies framed patient _ .timeout (.inr rfl)

theorem at_beginStep_ready (keeps : Keeps policy source (some mode) place 0 sender)
    (sends : sender.phase = sendPhase source place) :
    At policy source (.sending mode place 0) (sender.beginStep now).1 := by
  unfold beginStep
  by_cases inside : place < blockCount source
  · have phase_eq : sender.phase = .sendingBlock := by simp [sends, sendPhase, inside]
    have current : sender.currentBlock = block source place := by
      simp only [currentBlock, block, keeps.number_eq, keeps.unsent_eq]
    simp only [phase_eq]
    refine .first (keeps.meanwhile ..) (phase_eq ▸ sends) ?_ rfl
    rw [keeps.mode_eq, current, packet_of_lt inside]
    rfl
  · have phase_eq : sender.phase = .sendingEot := by simp [sends, sendPhase, inside]
    simp only [phase_eq]
    exact .first (keeps.meanwhile ..) (phase_eq ▸ sends) (if_neg inside).symm rfl

theorem at_wrote_first (keeps : Keeps policy source (some mode) place 0 sender)
    (sends : sender.phase = sendPhase source place)
    (framed : sender.frame = packet mode source place) :
    At policy source (.awaiting mode place 1) (sender.wrote now .first).1 := by
  unfold wrote
  by_cases inside : place < blockCount source
  · have phase_eq : sender.phase = .sendingBlock := by simp [sends, sendPhase, inside]
    simp only [phase_eq, if_true]
    exact .awaiting (keeps.meanwhile ..) (if_pos inside).symm framed (Nat.zero_le _)
      (.inr (.inl rfl))
  · have phase_eq : sender.phase ≠ .sendingBlock := by simp [sends, sendPhase, inside]
    simp only [phase_eq, if_false]
    exact .awaiting (keeps.meanwhile ..) (if_neg inside).symm framed (Nat.zero_le _)
      (.inr (.inl rfl))

theorem beginStep_calling (calls : sender.phase = .awaitingStart) :
    (sender.beginStep now).1 =
      { sender with activity := .listening (now + sender.policy.handshakeTimeout) } := by
  simp only [beginStep, calls]

theorem beginStep_awaiting (replies : sender.phase = replyPhase source place) :
    (sender.beginStep now).1 =
      { sender with activity := .listening (now + sender.policy.byteTimeout) } := by
  unfold beginStep
  by_cases inside : place < blockCount source
  · simp only [replies, replyPhase, inside, if_true]
  · simp only [replies, replyPhase, inside, if_false]

/-- Every reaction of a sender is a passage from its stage. -/
theorem At.exists_passes {stage : Stage} {sign : Option Sign} {after : Sender τ}
    (stands : At policy source stage sender) (reacts : Reacts sender now sign after) :
    ∃ later, Passes policy source stage sign later ∧ At policy source later after := by
  cases stands with
  | calling keeps calls rests =>
      cases reacts with
      | wake idle =>
          exact ⟨.calling, .within _, .calling (keeps.meanwhile ..) calls (.inr (.inl rfl))⟩
      | begin between =>
          rw [beginStep_calling calls]
          exact ⟨.calling, .within _, .calling (keeps.meanwhile ..) calls (.inr (.inr ⟨_, rfl⟩))⟩
      | hear value listens => exact exists_passes_heardAtStart keeps calls rests value
      | expire listens => exact exists_passes_heardNothing_calling keeps calls
      | «break» fault listens => exact ⟨.finished, .leave (.inr (.inr rfl)), .ended rfl⟩
      | write writes | spoil fault writes => simp [Rests, writes] at rests
  | ready keeps sends between =>
      obtain ⟨rfl, rfl⟩ := reacts.of_between between
      exact ⟨_, .within _, at_beginStep_ready keeps sends⟩
  | first keeps sends framed writes =>
      obtain ⟨rfl, rfl⟩ | ⟨rfl, outcome, finished⟩ := reacts.of_writing writes
      · exact ⟨_, framed ▸ .send keeps.inside (Nat.zero_le _), at_wrote_first keeps sends framed⟩
      · exact ⟨.finished, framed ▸ .spoil keeps.inside (Nat.zero_le _), .ended finished⟩
  | again keeps replies framed some_copy left writes =>
      obtain ⟨rfl, rfl⟩ | ⟨rfl, outcome, finished⟩ := reacts.of_writing writes
      · exact ⟨_, framed ▸ .send keeps.inside left,
          .awaiting (keeps.meanwhile ..) replies framed left (.inr (.inl rfl))⟩
      · exact ⟨.finished, framed ▸ .spoil keeps.inside left, .ended finished⟩
  | awaiting keeps replies framed patient rests =>
      cases reacts with
      | wake idle =>
          exact ⟨_, .within _,
            .awaiting (keeps.meanwhile ..) replies framed patient (.inr (.inl rfl))⟩
      | begin between =>
          rw [beginStep_awaiting replies]
          exact ⟨_, .within _,
            .awaiting (keeps.meanwhile ..) replies framed patient (.inr (.inr ⟨_, rfl⟩))⟩
      | hear value listens =>
          exact exists_passes_heardReply keeps replies framed patient rests value
      | expire listens => exact exists_passes_heardNothing keeps replies framed patient
      | «break» fault listens => exact ⟨.finished, .quit (.inr rfl), .ended rfl⟩
      | write writes | spoil fault writes => simp [Rests, writes] at rests
  | canceling writes =>
      obtain ⟨rfl, rfl⟩ | ⟨rfl, outcome, finished⟩ := reacts.of_writing writes
      · exact ⟨.finished, .cancel rfl, .ended rfl⟩
      · exact ⟨.finished, .cancel rfl, .ended finished⟩
  | completed completes between =>
      obtain ⟨rfl, rfl⟩ := reacts.of_between between
      have ends : (sender.beginStep now).1.activity = .ended (.ok sender.cursor) := by
        simp only [beginStep, completes, complete, close]
      exact ⟨.finished, .within _, .ended ends⟩
  | ended finished => exact absurd reacts (Reacts.not_of_ended finished)

end Reactions

/-- The signs that lead a sender from its beginning to a stage. -/
inductive Treads (policy : RetryPolicy τ) (source : List UInt8) : List Sign → Stage → Prop
  | start : Treads policy source [] .calling
  | pass {signs : List Sign} {sign : Option Sign} {stage later : Stage} :
      Treads policy source signs stage → Passes policy source stage sign later →
      Treads policy source (signs ++ sign.toList) later

theorem at_start (policy : RetryPolicy τ) (source : List UInt8) (now : τ) :
    At policy source .calling (start policy source now) :=
  .calling
    { policy_eq := rfl
      length_eq := rfl
      unsent_eq := rfl
      mode_eq := rfl
      cursor_eq := (Nat.zero_min _).symm
      number_eq := rfl
      attempts_eq := rfl
      inside := Nat.zero_le _ }
    rfl (.inl rfl)

/-- Every conversation of a sender leads it along its stages. -/
theorem exists_treads {policy : RetryPolicy τ} {source : List UInt8} {now : τ}
    {moments : List (Moment (Sender τ) τ)} {sender : Sender τ}
    (talks : Converses (start policy source now) moments sender) :
    ∃ stage, Treads policy source (transcript waits moments) stage ∧
      At policy source stage sender := by
  induction talks with
  | silent => exact ⟨.calling, .start, at_start policy source now⟩
  | step _ valid induction =>
      obtain ⟨stage, treads, stands⟩ := induction
      obtain ⟨later, passes, stands⟩ := stands.exists_passes (reacts_of_valid valid)
      rw [transcript_append, transcript_singleton]
      exact ⟨later, treads.pass passes, stands⟩

end Sender
end Xmodem
