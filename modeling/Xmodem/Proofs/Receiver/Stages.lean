import Xmodem.Proofs.Conversation
import Xmodem.Proofs.Receiver.Turns

/-!
# Stages of a receiver

Seen from the line, a receiver calls, collects frames, answers them, and at last completes or gives
up.  `Receiver.At` says which receivers are at a stage with some blocks accepted, and
`Receiver.Passes` what leads from one stage to the next.  Every answer that the surroundings may
give is such a passage.
-/

namespace Xmodem
namespace Receiver

open Packets Destination

variable {τ : Type} [Quantity τ]

/-- Where a receiver stands, seen from the line. -/
inductive Stage where
  /-- It asks for the start. -/
  | calling
  /-- It waits for a packet. -/
  | standing
  /-- It reads the rest of a frame; the bytes so far. -/
  | collecting (raw : List UInt8)
  /-- It waits for a quiet line. -/
  | draining
  /-- It is about to answer. -/
  | answering (purpose : Writing)
  /-- It has acknowledged the end of transmission. -/
  | completed
  /-- It is about to tell the sender that it gave up. -/
  | canceling
  /-- Nothing will follow. -/
  | finished (outcome : Outcome)

/-- How far a receiver has come. -/
structure Course where
  /-- Where it stands. -/
  stage : Stage
  /-- The blocks that were accepted, in order. -/
  blocks : List Block
  /-- How many frames were refused. -/
  refusals : Nat

/-- What a moment of a receiver shows. -/
structure Deed where
  /-- The sign on the line. -/
  sign : Option Sign
  /-- The block that was accepted. -/
  accepted : Option Block
  /-- The totals that were reported. -/
  totals : List Nat

/-- Nothing but a sign. -/
def Deed.ofSign (sign : Option Sign) : Deed :=
  ⟨sign, none, []⟩

/-- Whether a stage is one at which packets are awaited. -/
def Stage.Awaits (stage : Stage) : Prop :=
  stage = .calling ∨ stage = .standing

/-- Whether a stage is one at which bytes are awaited. -/
def Stage.Listens (stage : Stage) : Prop :=
  stage.Awaits ∨ (∃ raw, stage = .collecting raw) ∨ stage = .draining

/-- The purposes after which more packets are awaited. -/
def Writing.Continues (purpose : Writing) : Prop :=
  purpose = .repetition ∨ purpose = .rejection ∨ purpose = .confirmation

/-- The number of the block behind some number of blocks. -/
def Follows (count : Nat) (block : Block) : Prop :=
  block.number = .ofNat (count + 1)

/-- Whether a block is the last one that was accepted. -/
def Repeats (count : Nat) (block : Block) : Prop :=
  count ≠ 0 ∧ block.number = .ofNat count

/-- A failure whose reason is neither the order nor the size of the blocks. -/
def Innocent (outcome : Outcome) : Prop :=
  ∀ failure, outcome = .error failure →
    failure.reason ≠ .outOfSequence ∧ failure.reason ≠ .destinationExhausted

/-- Whether a receiver with a setup and some capacity goes on from one course to another one with
some deed. -/
inductive Passes (setup : Setup τ) (capacity : Nat) : Course → Deed → Course → Prop
  | within {stage : Stage} {blocks : List Block} {refusals : Nat} :
      stage.Awaits →
      Passes setup capacity ⟨stage, blocks, refusals⟩ (.ofSign none) ⟨stage, blocks, refusals⟩
  | call {blocks : List Block} {refusals : Nat} :
      Passes setup capacity ⟨.calling, blocks, refusals⟩
        (.ofSign (some (.wrote [Writing.request.byte setup.mode]))) ⟨.calling, blocks, refusals⟩
  | ignore {stage : Stage} {blocks : List Block} {refusals : Nat} {value : UInt8} :
      stage.Awaits → value ∉ announcements →
      Passes setup capacity ⟨stage, blocks, refusals⟩ (.ofSign (some (.heard value)))
        ⟨stage, blocks, refusals⟩
  | wait {stage : Stage} {blocks : List Block} {refusals : Nat} :
      stage.Awaits →
      Passes setup capacity ⟨stage, blocks, refusals⟩ (.ofSign (some .silence))
        ⟨stage, blocks, refusals⟩
  | «open» {stage : Stage} {blocks : List Block} {refusals : Nat} :
      stage.Awaits →
      Passes setup capacity ⟨stage, blocks, refusals⟩ (.ofSign (some (.heard startOfBlock)))
        ⟨.collecting [startOfBlock], blocks, refusals⟩
  | finish {stage : Stage} {blocks : List Block} {refusals : Nat} {purpose : Writing} :
      stage.Awaits → purpose = .confirmation ∨ purpose = .completion →
      Passes setup capacity ⟨stage, blocks, refusals⟩
        (.ofSign (some (.heard (Signal.byte .endOfTransmission))))
        ⟨.answering purpose, blocks, refusals⟩
  | collect {raw : List UInt8} {blocks : List Block} {refusals : Nat} {value : UInt8} :
      raw.length + 1 < Frame.length setup.mode →
      Passes setup capacity ⟨.collecting raw, blocks, refusals⟩ (.ofSign (some (.heard value)))
        ⟨.collecting (raw ++ [value]), blocks, refusals⟩
  | accept {raw : List UInt8} {blocks : List Block} {refusals : Nat} {value : UInt8}
      {block : Block} :
      Frame.length setup.mode ≤ raw.length + 1 →
      Frame.decode setup.mode (raw ++ [value]) = .ok block → Follows blocks.length block →
      FitsAt capacity blocks.length block.payload →
      Passes setup capacity ⟨.collecting raw, blocks, refusals⟩
        ⟨some (.heard value), some block, []⟩
        ⟨.answering .acceptance, blocks ++ [block], refusals⟩
  | «repeat» {raw : List UInt8} {blocks : List Block} {refusals : Nat} {value : UInt8}
      {block : Block} :
      Frame.length setup.mode ≤ raw.length + 1 →
      Frame.decode setup.mode (raw ++ [value]) = .ok block → Repeats blocks.length block →
      Passes setup capacity ⟨.collecting raw, blocks, refusals⟩ (.ofSign (some (.heard value)))
        ⟨.answering .repetition, blocks, refusals⟩
  | refuse {raw : List UInt8} {blocks : List Block} {refusals : Nat} {value : UInt8}
      {error : FrameError} :
      Frame.length setup.mode ≤ raw.length + 1 →
      Frame.decode setup.mode (raw ++ [value]) = .error error →
      Passes setup capacity ⟨.collecting raw, blocks, refusals⟩ (.ofSign (some (.heard value)))
        ⟨.draining, blocks, refusals + 1⟩
  | giveUp {raw : List UInt8} {blocks : List Block} {refusals : Nat} {value : UInt8}
      {block : Block} :
      Frame.length setup.mode ≤ raw.length + 1 →
      Frame.decode setup.mode (raw ++ [value]) = .ok block →
      (Follows blocks.length block → ¬ FitsAt capacity blocks.length block.payload) →
      ¬ Repeats blocks.length block →
      Passes setup capacity ⟨.collecting raw, blocks, refusals⟩ (.ofSign (some (.heard value)))
        ⟨.canceling, blocks, refusals⟩
  | starve {raw : List UInt8} {blocks : List Block} {refusals : Nat} :
      Passes setup capacity ⟨.collecting raw, blocks, refusals⟩ (.ofSign (some .silence))
        ⟨.standing, blocks, refusals⟩
  | drain {blocks : List Block} {refusals : Nat} {value : UInt8} :
      Passes setup capacity ⟨.draining, blocks, refusals⟩ (.ofSign (some (.heard value)))
        ⟨.draining, blocks, refusals⟩
  | reject {blocks : List Block} {refusals : Nat} :
      Passes setup capacity ⟨.draining, blocks, refusals⟩ (.ofSign (some .silence))
        ⟨.answering .rejection, blocks, refusals⟩
  | announce {blocks : List Block} {refusals : Nat} :
      Passes setup capacity ⟨.answering .acceptance, blocks, refusals⟩
        ⟨some (.wrote [Signal.byte .acknowledge]), none, [offset capacity blocks.length]⟩
        ⟨.standing, blocks, refusals⟩
  | answer {purpose : Writing} {blocks : List Block} {refusals : Nat} :
      purpose.Continues →
      Passes setup capacity ⟨.answering purpose, blocks, refusals⟩
        (.ofSign (some (.wrote [purpose.byte setup.mode]))) ⟨.standing, blocks, refusals⟩
  | conclude {blocks : List Block} {refusals : Nat} :
      Passes setup capacity ⟨.answering .completion, blocks, refusals⟩
        (.ofSign (some (.wrote [Signal.byte .acknowledge]))) ⟨.completed, blocks, refusals⟩
  | complete {blocks : List Block} {refusals length : Nat} :
      (∀ expected, setup.expectedLength = some expected →
        expected ≤ offset capacity blocks.length → length = expected) →
      Passes setup capacity ⟨.completed, blocks, refusals⟩ (.ofSign none)
        ⟨.finished (.ok length), blocks, refusals⟩
  | cancel {sign : Sign} {outcome : Outcome} {blocks : List Block} {refusals : Nat} :
      sign.written? = some [Signal.byte .cancel] →
      Passes setup capacity ⟨.canceling, blocks, refusals⟩ (.ofSign (some sign))
        ⟨.finished outcome, blocks, refusals⟩
  | leave {stage : Stage} {sign : Sign} {failure : Failure} {blocks : List Block}
      {refusals : Nat} :
      stage.Listens → Innocent (.error failure) →
      sign = .heard (Signal.byte .cancel) ∨ sign = .silence ∨ sign = .broken →
      Passes setup capacity ⟨stage, blocks, refusals⟩ (.ofSign (some sign))
        ⟨.finished (.error failure), blocks, refusals⟩
  | spoil {stage : Stage} {purpose : Writing} {failure : Failure} {blocks : List Block}
      {refusals : Nat} :
      Innocent (.error failure) →
      stage = .calling ∧ purpose = .request ∨ stage = .answering purpose →
      Passes setup capacity ⟨stage, blocks, refusals⟩
        (.ofSign (some (.spoiled [purpose.byte setup.mode])))
        ⟨.finished (.error failure), blocks, refusals⟩

/-- Whether a receiver waits for a byte or for a quiet line. -/
def waits (receiver : Receiver τ) : Bool :=
  match receiver.activity with
  | .listening _ | .draining _ => true
  | _ => false

/-- What a receiver can become at an instant, with the events on the way, and the sign of it. -/
inductive Reacts (receiver : Receiver τ) (now : τ) :
    Option Sign → Receiver τ × List (Event τ) → Prop
  | wake : receiver.activity = .idle →
      Reacts receiver now none
        ({ receiver with
          metrics := { receiver.metrics with start := now }
          activity := .between }, [])
  | begin : receiver.activity = .between → Reacts receiver now none (receiver.beginStep now)
  | hear {deadline : τ} (value : UInt8) : receiver.activity = .listening deadline →
      Reacts receiver now (some (.heard value)) (receiver.heard now value)
  | expire {deadline : τ} : receiver.activity = .listening deadline →
      Reacts receiver now (some .silence) (receiver.heardNothing now)
  | collect {raw : Array UInt8} (value : UInt8) : receiver.activity = .collecting raw →
      Reacts receiver now (some (.heard value)) (receiver.collect now raw value)
  | starve {raw : Array UInt8} : receiver.activity = .collecting raw →
      Reacts receiver now (some .silence) (receiver.idle now (.partialFrame raw.size))
  | drain {deadline : τ} (value : UInt8) : receiver.activity = .draining deadline →
      Reacts receiver now (some (.heard value)) (receiver, [])
  | reject {deadline : τ} : receiver.activity = .draining deadline →
      Reacts receiver now (some .silence) receiver.reject
  | «break» (fault : Fault) :
      (∃ deadline, receiver.activity = .listening deadline) ∨
        (∃ raw, receiver.activity = .collecting raw) ∨
        (∃ deadline, receiver.activity = .draining deadline) →
      Reacts receiver now (some .broken) (receiver.abort now (.lineFault fault.message))
  | write {purpose : Writing} : receiver.activity = .writing purpose →
      Reacts receiver now (some (.wrote [purpose.byte receiver.setup.mode]))
        (receiver.wrote now purpose)
  | spoil {purpose : Writing} (fault : Fault) : receiver.activity = .writing purpose →
      Reacts receiver now (some (.spoiled [purpose.byte receiver.setup.mode]))
        (receiver.abort now (.lineFault fault.message))

/-- Every moment is a reaction. -/
theorem reacts_of_valid {moment : Moment (Receiver τ) τ} (valid : moment.Valid) :
    Reacts moment.session moment.answered (moment.sign? waits) (moment.after, moment.events) := by
  obtain ⟨receiver, asked, answer, answered⟩ := moment
  obtain ⟨allowed, prompt⟩ := valid
  change (receiver.action asked).Allows answer at allowed
  change answer = .proceeded → answered = asked at prompt
  change Reacts receiver answered (Sign.of? receiver.waits (receiver.action asked) answer)
    (receiver.next answered answer)
  cases doing : receiver.activity with
  | idle =>
      simp only [action, doing] at allowed
      cases allowed
      simpa [action, waits, next, Sign.of?, doing] using Reacts.wake doing
  | between =>
      simp only [action, doing] at allowed
      cases allowed
      simpa [action, waits, next, Sign.of?, doing] using Reacts.begin doing
  | listening deadline =>
      simp only [action, doing] at allowed
      split at allowed
      · rename_i past
        cases allowed
        obtain rfl : answered = asked := prompt rfl
        simpa [action, waits, next, Sign.of?, doing, past] using
          Reacts.expire doing
      · rename_i early
        cases allowed with
        | byte _ value =>
            simpa [action, next, Sign.of?, doing, early] using
              Reacts.hear value doing
        | silence =>
            simpa [action, next, Sign.of?, doing, early] using
              Reacts.expire doing
        | broken _ fault =>
            simpa [action, next, Sign.of?, doing, early] using
              Reacts.break fault (.inl ⟨deadline, doing⟩)
  | collecting raw =>
      simp only [action, doing] at allowed
      cases allowed with
      | byte _ value =>
          simpa [action, next, Sign.of?, doing] using Reacts.collect value doing
      | silence =>
          simpa [action, next, Sign.of?, doing] using Reacts.starve doing
      | broken _ fault =>
          simpa [action, next, Sign.of?, doing] using
            Reacts.break fault (.inr (.inl ⟨raw, doing⟩))
  | draining deadline =>
      simp only [action, doing] at allowed
      split at allowed
      · rename_i early
        cases allowed with
        | byte _ value =>
            simpa [action, next, Sign.of?, doing, early] using
              Reacts.drain value doing
        | silence =>
            simpa [action, next, Sign.of?, doing, early] using
              Reacts.reject doing
        | broken _ fault =>
            simpa [action, next, Sign.of?, doing, early] using
              Reacts.break fault (.inr (.inr ⟨deadline, doing⟩))
      · rename_i past
        cases allowed
        obtain rfl : answered = asked := prompt rfl
        simpa [action, waits, next, Sign.of?, doing, past] using
          Reacts.reject doing
  | writing purpose =>
      simp only [action, doing] at allowed
      cases allowed with
      | written =>
          simpa [action, next, Sign.of?, doing] using Reacts.write doing
      | spoiled _ fault =>
          simpa [action, next, Sign.of?, doing] using Reacts.spoil fault doing
  | ended outcome =>
      simp only [action, doing] at allowed
      cases allowed

/-- The block with which a receiver turns from the last byte of a frame to its acceptance. -/
def accepted? (receiver : Receiver τ) (sign : Option Sign) (after : Receiver τ) : Option Block :=
  match receiver.activity, sign, after.activity with
  | .collecting raw, some (.heard value), .writing .acceptance =>
      (Frame.decode receiver.setup.mode (raw.push value).toList).toOption
  | _, _, _ => none

/-- What a change of a receiver shows. -/
def deedOf (receiver : Receiver τ) (sign : Option Sign) (result : Receiver τ × List (Event τ)) :
    Deed :=
  ⟨sign, accepted? receiver sign result.1, Event.totals .received result.2⟩

section Quiet

variable {receiver : Receiver τ} {now : τ} {sign : Option Sign}
  {result : Receiver τ × List (Event τ)}

theorem Reacts.of_idle (reacts : Reacts receiver now sign result)
    (idle : receiver.activity = .idle) :
    sign = none ∧ result =
      ({ receiver with
        metrics := { receiver.metrics with start := now }
        activity := .between }, []) := by
  cases reacts with
  | wake _ => exact ⟨rfl, rfl⟩
  | begin other | hear _ other | expire other | collect _ other | starve other | drain _ other
  | reject other | write other | spoil _ other => exact absurd (idle.symm.trans other) nofun
  | «break» fault other => simp [idle] at other

theorem Reacts.of_between (reacts : Reacts receiver now sign result)
    (between : receiver.activity = .between) : sign = none ∧ result = receiver.beginStep now := by
  cases reacts with
  | begin _ => exact ⟨rfl, rfl⟩
  | wake other | hear _ other | expire other | collect _ other | starve other | drain _ other
  | reject other | write other | spoil _ other => exact absurd (between.symm.trans other) nofun
  | «break» fault other => simp [between] at other

theorem Reacts.of_writing {purpose : Writing} (reacts : Reacts receiver now sign result)
    (writes : receiver.activity = .writing purpose) :
    (sign = some (.wrote [purpose.byte receiver.setup.mode]) ∧
        result = receiver.wrote now purpose) ∨
      ∃ fault, sign = some (.spoiled [purpose.byte receiver.setup.mode]) ∧
        result = receiver.abort now (.lineFault fault) := by
  cases reacts with
  | write other =>
      obtain rfl := Activity.writing.inj (writes.symm.trans other)
      exact .inl ⟨rfl, rfl⟩
  | spoil fault other =>
      obtain rfl := Activity.writing.inj (writes.symm.trans other)
      exact .inr ⟨_, rfl, rfl⟩
  | wake other | begin other | hear _ other | expire other | collect _ other | starve other
  | drain _ other | reject other => exact absurd (writes.symm.trans other) nofun
  | «break» fault other => simp [writes] at other

theorem Reacts.of_collecting {raw : Array UInt8} (reacts : Reacts receiver now sign result)
    (collects : receiver.activity = .collecting raw) :
    (∃ value, sign = some (.heard value) ∧ result = receiver.collect now raw value) ∨
      (sign = some .silence ∧ result = receiver.idle now (.partialFrame raw.size)) ∨
      ∃ fault, sign = some .broken ∧ result = receiver.abort now (.lineFault fault) := by
  cases reacts with
  | collect value other =>
      obtain rfl := Activity.collecting.inj (collects.symm.trans other)
      exact .inl ⟨value, rfl, rfl⟩
  | starve other =>
      obtain rfl := Activity.collecting.inj (collects.symm.trans other)
      exact .inr (.inl ⟨rfl, rfl⟩)
  | «break» fault _ => exact .inr (.inr ⟨_, rfl, rfl⟩)
  | wake other | begin other | hear _ other | expire other | drain _ other | reject other
  | write other | spoil _ other => exact absurd (collects.symm.trans other) nofun

theorem Reacts.of_draining {deadline : τ} (reacts : Reacts receiver now sign result)
    (drains : receiver.activity = .draining deadline) :
    (∃ value, sign = some (.heard value) ∧ result = (receiver, [])) ∨
      (sign = some .silence ∧ result = receiver.reject) ∨
      ∃ fault, sign = some .broken ∧ result = receiver.abort now (.lineFault fault) := by
  cases reacts with
  | drain value _ => exact .inl ⟨value, rfl, rfl⟩
  | reject _ => exact .inr (.inl ⟨rfl, rfl⟩)
  | «break» fault _ => exact .inr (.inr ⟨_, rfl, rfl⟩)
  | wake other | begin other | hear _ other | expire other | collect _ other | starve other
  | write other | spoil _ other => exact absurd (drains.symm.trans other) nofun

theorem Reacts.of_listening {deadline : τ} (reacts : Reacts receiver now sign result)
    (listens : receiver.activity = .listening deadline) :
    (∃ value, sign = some (.heard value) ∧ result = receiver.heard now value) ∨
      (sign = some .silence ∧ result = receiver.heardNothing now) ∨
      ∃ fault, sign = some .broken ∧ result = receiver.abort now (.lineFault fault) := by
  cases reacts with
  | hear value _ => exact .inl ⟨value, rfl, rfl⟩
  | expire _ => exact .inr (.inl ⟨rfl, rfl⟩)
  | «break» fault _ => exact .inr (.inr ⟨_, rfl, rfl⟩)
  | wake other | begin other | collect _ other | starve other | drain _ other | reject other
  | write other | spoil _ other => exact absurd (listens.symm.trans other) nofun

theorem Reacts.not_of_ended {outcome : Outcome} (finished : receiver.activity = .ended outcome) :
    ¬ Reacts receiver now sign result := by
  intro reacts
  cases reacts with
  | wake other | begin other | hear _ other | expire other | collect _ other | starve other
  | drain _ other | reject other | write other | spoil _ other =>
      exact absurd (finished.symm.trans other) nofun
  | «break» fault other => simp [finished] at other

theorem totals_idle (receiver : Receiver τ) (now : τ) (idleness : Idleness) :
    Event.totals .received (receiver.idle now idleness).2 = [] := by
  cases spent : receiver.setup.policy.exhausted (receiver.idlePeriods + 1 : Nat) <;>
    simp only [idle, spent] <;> rfl

theorem totals_eq_nil (reacts : Reacts receiver now sign result)
    (other : receiver.activity ≠ .writing .acceptance) :
    Event.totals .received result.2 = [] := by
  cases reacts with
  | wake | drain | reject | «break» | spoil => rfl
  | begin =>
      unfold beginStep
      split <;> rfl
  | hear value =>
      by_cases calls : receiver.phase = .awaitingStart <;>
        by_cases confirms : receiver.setup.confirmEot ∧ ¬ receiver.eotPending <;>
        simp only [heard, meetSender, calls, endOfTransmission, confirms, if_true, if_false] <;>
        split <;> rfl
  | expire =>
      by_cases calls : receiver.phase = .awaitingStart
      · cases spent : receiver.setup.policy.exhausted (receiver.handshakeAttempts + 1 : Nat) <;>
          simp only [heardNothing, calls, spent, if_true] <;> rfl
      · simp only [heardNothing, calls, if_false]
        exact totals_idle ..
  | collect value =>
      simp only [collect, receiveFrame, receiveBlock, accept]
      repeat' split
      all_goals rfl
  | starve => exact totals_idle ..
  | @write purpose writes =>
      cases purpose with
      | acceptance => exact absurd writes other
      | request | repetition | rejection | confirmation | completion | cancel => rfl

end Quiet

/-- What a receiver remembers of the blocks that it accepted and of the frames that it refused. -/
structure Keeps (setup : Setup τ) (initial : Destination) (blocks : List Block) (refusals : Nat)
    (receiver : Receiver τ) : Prop where
  setup_eq : receiver.setup = setup
  capacity_eq : receiver.destination.capacity = initial.capacity
  content_eq : receiver.destination.toList =
    (payloads blocks).take initial.capacity ++ initial.toList.drop (blockSize * blocks.length)
  cursor_eq : receiver.cursor = offset initial.capacity blocks.length
  expected_eq : receiver.expectedBlock = .ofNat (blocks.length + 1)
  last_eq : receiver.lastAccepted =
    if blocks.length = 0 then none else some (.ofNat blocks.length)
  blocks_eq : receiver.metrics.blocks = blocks.length
  naks_eq : receiver.metrics.naks = refusals

/-- Which receivers are at a stage, with some blocks accepted and some frames refused. -/
inductive At (setup : Setup τ) (initial : Destination) : Course → Receiver τ → Prop
  | calling {receiver : Receiver τ} :
      Keeps setup initial [] 0 receiver → receiver.phase = .awaitingStart →
      receiver.activity = .idle ∨ receiver.activity = .between ∨
        receiver.activity = .writing .request ∨
        (∃ deadline, receiver.activity = .listening deadline) →
      At setup initial ⟨.calling, [], 0⟩ receiver
  | standing {receiver : Receiver τ} {blocks : List Block} {refusals : Nat} :
      Keeps setup initial blocks refusals receiver →
      receiver.phase = phaseAt initial.capacity blocks.length →
      receiver.activity = .between ∨ (∃ deadline, receiver.activity = .listening deadline) →
      At setup initial ⟨.standing, blocks, refusals⟩ receiver
  | collecting {receiver : Receiver τ} {blocks : List Block} {refusals : Nat}
      {raw : Array UInt8} :
      Keeps setup initial blocks refusals receiver →
      receiver.phase = phaseAt initial.capacity blocks.length →
      receiver.activity = .collecting raw →
      At setup initial ⟨.collecting raw.toList, blocks, refusals⟩ receiver
  | draining {receiver : Receiver τ} {blocks : List Block} {refusals : Nat} {deadline : τ} :
      Keeps setup initial blocks refusals receiver →
      receiver.phase = phaseAt initial.capacity blocks.length →
      receiver.activity = .draining deadline →
      At setup initial ⟨.draining, blocks, refusals⟩ receiver
  | accepting {receiver : Receiver τ} {blocks : List Block} {refusals : Nat} :
      Keeps setup initial blocks refusals receiver → receiver.phase = .awaitingBlock →
      receiver.activity = .writing .acceptance →
      At setup initial ⟨.answering .acceptance, blocks, refusals⟩ receiver
  | answering {receiver : Receiver τ} {blocks : List Block} {refusals : Nat} {purpose : Writing} :
      Keeps setup initial blocks refusals receiver →
      receiver.phase = phaseAt initial.capacity blocks.length →
      purpose.Continues ∨ purpose = .completion → receiver.activity = .writing purpose →
      At setup initial ⟨.answering purpose, blocks, refusals⟩ receiver
  | completed {receiver : Receiver τ} {blocks : List Block} {refusals : Nat} :
      Keeps setup initial blocks refusals receiver → receiver.phase = .completed →
      receiver.activity = .between →
      At setup initial ⟨.completed, blocks, refusals⟩ receiver
  | canceling {receiver : Receiver τ} {blocks : List Block} {refusals : Nat}
      {cause : AbortCause} :
      Keeps setup initial blocks refusals receiver → receiver.phase = .aborted →
      receiver.activity = .writing (.cancel cause) →
      At setup initial ⟨.canceling, blocks, refusals⟩ receiver
  | finished {receiver : Receiver τ} {blocks : List Block} {refusals : Nat} {outcome : Outcome} :
      Keeps setup initial blocks refusals receiver →
      receiver.phase = .completed ∨ receiver.phase = .aborted →
      receiver.activity = .ended outcome →
      At setup initial ⟨.finished outcome, blocks, refusals⟩ receiver

section Reactions

variable {setup : Setup τ} {initial : Destination} {blocks : List Block} {refusals : Nat}
  {receiver : Receiver τ} {now : τ}

theorem Keeps.waitingPhase_eq (keeps : Keeps setup initial blocks refusals receiver) :
    receiver.waitingPhase = phaseAt initial.capacity blocks.length := by
  simp only [waitingPhase, phaseAt, capacity, keeps.capacity_eq, keeps.cursor_eq]

theorem Keeps.at_abort (keeps : Keeps setup initial blocks refusals receiver) (cause : AbortCause) :
    At setup initial
      ⟨.finished (.error ⟨cause, { receiver with phase := .aborted }.transferred⟩), blocks,
        refusals⟩
      (receiver.abort now cause).1 :=
  .finished { keeps with } (.inr rfl) rfl

theorem Keeps.at_abortNotifying (keeps : Keeps setup initial blocks refusals receiver)
    (cause : AbortCause) :
    At setup initial ⟨.canceling, blocks, refusals⟩ (receiver.abortNotifying cause).1 :=
  .canceling { keeps with } rfl rfl

theorem innocent_of_reason (cause : AbortCause) (transferred : Nat)
    (order : cause.reason ≠ .outOfSequence) (size : cause.reason ≠ .destinationExhausted) :
    Innocent (.error ⟨cause, transferred⟩) := by
  rintro _ ⟨⟩
  exact ⟨order, size⟩

/-- Whether or not it is the first packet, a receiver waits for the next block afterwards. -/
theorem Keeps.meetSender_eq (keeps : Keeps setup initial blocks refusals receiver)
    (opened : receiver.phase = .awaitingStart ∨
      receiver.phase = phaseAt initial.capacity blocks.length) :
    receiver.meetSender.1 =
      { receiver with phase := phaseAt initial.capacity blocks.length } := by
  unfold meetSender
  split
  · rw [keeps.waitingPhase_eq]
  · rename_i later
    rw [← opened.resolve_left later]

theorem heard_cases (receiver : Receiver τ) (now : τ) (value : UInt8) :
    value = startOfBlock ∧ (receiver.heard now value).1 = receiver.meetSender.1.openFrame.1 ∨
      value = Signal.byte .endOfTransmission ∧
        (receiver.heard now value).1 = receiver.meetSender.1.endOfTransmission.1 ∨
      value = Signal.byte .cancel ∧ (∃ cause : AbortCause, cause.reason = .canceledByPeer ∧
        (receiver.heard now value).1 = (receiver.abort now cause).1) ∨
      value ∉ announcements ∧ (receiver.heard now value).1 = receiver := by
  by_cases data : value = startOfBlock
  · subst data
    exact .inl ⟨rfl, rfl⟩
  by_cases ends : value = Signal.byte .endOfTransmission
  · subst ends
    exact .inr (.inl ⟨rfl, rfl⟩)
  by_cases cancel : value = Signal.byte .cancel
  · subst cancel
    refine .inr (.inr (.inl ⟨rfl, _, ?_, rfl⟩))
    split <;> rfl
  refine .inr (.inr (.inr ⟨by simp [announcements, data, ends, cancel], ?_⟩))
  unfold heard
  split
  case h_4 => rfl
  all_goals
    rename_i kind
    exact absurd (PacketKind.leadingByte_of_ofLeadingByte? kind).symm ‹_›

theorem exists_passes_heard {stage : Stage} (awaits : stage.Awaits)
    (stands : At setup initial ⟨stage, blocks, refusals⟩ receiver)
    (keeps : Keeps setup initial blocks refusals receiver)
    (opened : receiver.phase = .awaitingStart ∨
      receiver.phase = phaseAt initial.capacity blocks.length) (value : UInt8) :
    ∃ later, Passes setup initial.capacity ⟨stage, blocks, refusals⟩
        (.ofSign (some (.heard value))) later ∧
      At setup initial later (receiver.heard now value).1 := by
  obtain ⟨rfl, becomes⟩ | ⟨rfl, becomes⟩ | ⟨rfl, cause, peer, becomes⟩ | ⟨noise, becomes⟩ :=
    receiver.heard_cases now value
  · rw [becomes, keeps.meetSender_eq opened]
    exact ⟨_, .open awaits, .collecting { keeps with } rfl rfl⟩
  · rw [becomes, keeps.meetSender_eq opened]
    unfold endOfTransmission
    split
    · exact ⟨_, .finish awaits (.inl rfl),
        .answering { keeps with } rfl (.inl (.inr (.inr rfl))) rfl⟩
    · exact ⟨_, .finish awaits (.inr rfl), .answering { keeps with } rfl (.inr rfl) rfl⟩
  · have innocent (transferred : Nat) : Innocent (.error ⟨cause, transferred⟩) :=
      innocent_of_reason cause transferred (by rw [peer]; exact nofun) (by rw [peer]; exact nofun)
    rw [becomes]
    exact ⟨_, .leave (.inl awaits) (innocent _) (.inl rfl), keeps.at_abort cause⟩
  · rw [becomes]
    exact ⟨_, .ignore awaits noise, stands⟩

theorem At.keeps {course : Course} (stands : At setup initial course receiver) :
    Keeps setup initial course.blocks course.refusals receiver := by
  cases stands with
  | calling keeps | standing keeps | collecting keeps | draining keeps | accepting keeps
  | answering keeps | completed keeps | canceling keeps | finished keeps => exact keeps

theorem At.phase_cases {course : Course} (stands : At setup initial course receiver) :
    receiver.phase = .awaitingStart ∧ course.blocks = [] ∨
      receiver.phase = phaseAt initial.capacity course.blocks.length ∨
      receiver.phase = .awaitingBlock ∧ receiver.activity = .writing .acceptance ∨
      receiver.phase = .completed ∨ receiver.phase = .aborted := by
  cases stands with
  | calling _ calls _ => exact .inl ⟨calls, rfl⟩
  | standing _ met _ | collecting _ met _ | draining _ met _ | answering _ met _ _ =>
      exact .inr (.inl met)
  | accepting _ inside writes => exact .inr (.inr (.inl ⟨inside, writes⟩))
  | completed _ completes _ => exact .inr (.inr (.inr (.inl completes)))
  | canceling _ aborts _ => exact .inr (.inr (.inr (.inr aborts)))
  | finished _ ends _ => exact .inr (.inr (.inr ends))

theorem At.stage_of_calls {course : Course} (stands : At setup initial course receiver)
    (calls : receiver.phase = .awaitingStart) : course.stage = .calling := by
  cases stands with
  | calling => rfl
  | standing _ met _ | collecting _ met _ | draining _ met _ | answering _ met _ _ =>
      exact absurd (met.symm.trans calls) (phaseAt_ne_awaitingStart _ _)
  | accepting _ other _ | completed _ other _ | canceling _ other _ =>
      exact absurd (other.symm.trans calls) nofun
  | finished _ ends _ => exact absurd calls (by rintro same; simp [same] at ends)

theorem At.rests_of_calls {course : Course} (stands : At setup initial course receiver)
    (calls : receiver.phase = .awaitingStart) :
    receiver.activity = .idle ∨ receiver.activity = .between ∨
      receiver.activity = .writing .request ∨
      ∃ deadline, receiver.activity = .listening deadline := by
  have calling := stands.stage_of_calls calls
  cases stands with
  | calling _ _ rests => exact rests
  | standing | collecting | draining | accepting | answering | completed | canceling
  | finished => cases calling

theorem At.calls_of_request {course : Course} (stands : At setup initial course receiver)
    (asks : receiver.activity = .writing .request) : receiver.phase = .awaitingStart := by
  cases stands with
  | calling _ calls _ => exact calls
  | standing _ _ rests => simp [asks] at rests
  | answering _ _ answers doing =>
      obtain rfl := Activity.writing.inj (asks.symm.trans doing)
      simp [Writing.Continues] at answers
  | collecting _ _ doing | draining _ _ doing | accepting _ _ doing | completed _ _ doing
  | canceling _ _ doing | finished _ _ doing => exact absurd (asks.symm.trans doing) nofun

theorem At.stage_of_writing {course : Course} (stands : At setup initial course receiver)
    {purpose : Writing} (writes : receiver.activity = .writing purpose) :
    course.stage = .calling ∧ purpose = .request ∨
      course.stage = .answering purpose ∧ (∀ cause, purpose ≠ .cancel cause) ∨
      course.stage = .canceling ∧ ∃ cause, purpose = .cancel cause := by
  cases stands with
  | calling _ _ rests =>
      have request : purpose = .request := by simpa [writes] using rests
      exact .inl ⟨rfl, request⟩
  | standing _ _ rests => simp [writes] at rests
  | collecting _ _ doing | draining _ _ doing | completed _ _ doing | finished _ _ doing =>
      exact absurd (writes.symm.trans doing) nofun
  | accepting _ _ doing =>
      obtain rfl := Activity.writing.inj (writes.symm.trans doing)
      exact .inr (.inl ⟨rfl, nofun⟩)
  | answering _ _ answers doing =>
      obtain rfl := Activity.writing.inj (writes.symm.trans doing)
      refine .inr (.inl ⟨rfl, ?_⟩)
      rintro cause rfl
      simp [Writing.Continues] at answers
  | canceling _ _ doing =>
      exact .inr (.inr ⟨rfl, _, Activity.writing.inj (writes.symm.trans doing)⟩)

theorem At.stage_of_ended {course : Course} (stands : At setup initial course receiver)
    {outcome : Outcome} (ended : receiver.activity = .ended outcome) :
    course.stage = .finished outcome := by
  cases stands with
  | calling _ _ rests => simp [ended] at rests
  | standing _ _ rests => simp [ended] at rests
  | collecting _ _ doing | draining _ _ doing | accepting _ _ doing | answering _ _ _ doing
  | completed _ _ doing | canceling _ _ doing => exact absurd (ended.symm.trans doing) nofun
  | finished _ _ doing =>
      exact congrArg Stage.finished (Activity.ended.inj (doing.symm.trans ended))

theorem At.ended_of_finished {outcome : Outcome} (stands : At setup initial course receiver)
    (finished : course.stage = .finished outcome) : receiver.activity = .ended outcome := by
  cases stands with
  | calling | standing | collecting | draining | accepting | answering | completed | canceling =>
      cases finished
  | finished _ _ ended =>
      cases finished
      exact ended

theorem outcome?_eq_some_iff {outcome : Outcome} :
    receiver.outcome? = some outcome ↔ receiver.activity = .ended outcome := by
  unfold outcome?
  split <;> simp_all

/-- Only at its own stage does a receiver write the acceptance of a block. -/
theorem At.unaccepted {course : Course} (stands : At setup initial course receiver)
    (other : course.stage ≠ .answering .acceptance) :
    receiver.activity ≠ .writing .acceptance := by
  intro writes
  obtain ⟨-, wrong⟩ | ⟨own, -⟩ | ⟨-, _, wrong⟩ := stands.stage_of_writing writes
  · cases wrong
  · exact other own
  · cases wrong

/-- A receiver that counts one more idle period. -/
def lapsed (receiver : Receiver τ) : Receiver τ :=
  { receiver with
    idlePeriods := receiver.idlePeriods + 1
    metrics := { receiver.metrics with timeouts := receiver.metrics.timeouts + 1 } }

/-- A receiver that counts one more silent wait for the start. -/
def unheard (receiver : Receiver τ) : Receiver τ :=
  { receiver with
    handshakeAttempts := receiver.handshakeAttempts + 1
    metrics := { receiver.metrics with timeouts := receiver.metrics.timeouts + 1 } }

theorem idle_cases (receiver : Receiver τ) (now : τ) (idleness : Idleness) :
    receiver.idlePeriods + 1 < receiver.setup.policy.maxHandshakeAttempts ∧
        (receiver.idle now idleness).1 = receiver.lapsed.endStep.1 ∨
      receiver.setup.policy.maxHandshakeAttempts ≤ receiver.idlePeriods + 1 ∧
        (receiver.idle now idleness).1 =
          (receiver.lapsed.abort now (.senderSilent receiver.cursor)).1 := by
  have counted := receiver.setup.policy.exhausted_iff (receiver.idlePeriods + 1 : Nat)
  rw [Nat.cast_le] at counted
  cases spent : receiver.setup.policy.exhausted (receiver.idlePeriods + 1 : Nat) with
  | false =>
      have early : ¬ receiver.setup.policy.maxHandshakeAttempts ≤ receiver.idlePeriods + 1 := by
        rw [← counted, spent]
        exact Bool.false_ne_true
      refine .inl ⟨Nat.lt_of_not_le early, ?_⟩
      simp only [idle, spent]
      rfl
  | true =>
      refine .inr ⟨counted.mp spent, ?_⟩
      simp only [idle, spent]
      rfl

theorem heardNothing_cases (receiver : Receiver τ) (now : τ)
    (calls : receiver.phase = .awaitingStart) :
    receiver.handshakeAttempts + 1 < receiver.setup.policy.maxHandshakeAttempts ∧
        (receiver.heardNothing now).1 = receiver.unheard.endStep.1 ∨
      receiver.setup.policy.maxHandshakeAttempts ≤ receiver.handshakeAttempts + 1 ∧
        (receiver.heardNothing now).1 =
          (receiver.unheard.abort now (.senderSilentAtStart (receiver.handshakeAttempts + 1))).1 := by
  have counted := receiver.setup.policy.exhausted_iff (receiver.handshakeAttempts + 1 : Nat)
  rw [Nat.cast_le] at counted
  unfold heardNothing
  rw [if_pos calls]
  cases spent : receiver.setup.policy.exhausted (receiver.handshakeAttempts + 1 : Nat) with
  | false =>
      have early : ¬ receiver.setup.policy.maxHandshakeAttempts ≤
          receiver.handshakeAttempts + 1 := by
        rw [← counted, spent]
        exact Bool.false_ne_true
      refine .inl ⟨Nat.lt_of_not_le early, ?_⟩
      simp only [spent]
      rfl
  | true =>
      refine .inr ⟨counted.mp spent, ?_⟩
      simp only [spent]
      rfl

theorem innocent_senderSilent (stored transferred : Nat) :
    Innocent (.error ⟨.senderSilent stored, transferred⟩) :=
  innocent_of_reason _ _ nofun nofun

theorem exists_at_idle (keeps : Keeps setup initial blocks refusals receiver)
    (met : receiver.phase = phaseAt initial.capacity blocks.length) (idleness : Idleness) :
    At setup initial ⟨.standing, blocks, refusals⟩ (receiver.idle now idleness).1 ∨
      ∃ failure, Innocent (.error failure) ∧
        At setup initial ⟨.finished (.error failure), blocks, refusals⟩
          (receiver.idle now idleness).1 := by
  obtain ⟨_, becomes⟩ | ⟨_, becomes⟩ := receiver.idle_cases now idleness
  · rw [becomes]
    exact .inl (.standing { keeps with } met (.inl rfl))
  · rw [becomes]
    exact .inr ⟨_, innocent_senderSilent _ _, .finished { keeps with } (.inr rfl) rfl⟩

theorem accepted?_of_ne {sign : Option Sign} {after : Receiver τ}
    (other : ∀ raw, receiver.activity ≠ .collecting raw) :
    accepted? receiver sign after = none := by
  unfold accepted?
  split
  · rename_i collects _
    exact absurd collects (other _)
  · rfl

theorem accepted?_of_after_ne {sign : Option Sign} {after : Receiver τ}
    (other : after.activity ≠ .writing .acceptance) : accepted? receiver sign after = none := by
  unfold accepted?
  split
  · rename_i writes
    exact absurd writes other
  · rfl

theorem deedOf_eq_ofSign {sign : Option Sign} {result : Receiver τ × List (Event τ)}
    (reacts : Reacts receiver now sign result)
    (unannounced : receiver.activity ≠ .writing .acceptance)
    (unaccepted : (∀ raw, receiver.activity ≠ .collecting raw) ∨
      result.1.activity ≠ .writing .acceptance) :
    deedOf receiver sign result = .ofSign sign := by
  unfold deedOf Deed.ofSign
  congr 1
  · exact unaccepted.elim accepted?_of_ne accepted?_of_after_ne
  · exact totals_eq_nil reacts unannounced

theorem Keeps.store (keeps : Keeps setup initial blocks refusals receiver) {block : Block}
    (follows : Follows blocks.length block) :
    Keeps setup initial (blocks ++ [block]) refusals
      { receiver with
        destination :=
          receiver.destination.store receiver.cursor (block.payload.take receiver.room)
        cursor := receiver.cursor + receiver.room
        lastLength := receiver.room
        lastAccepted := some block.number
        expectedBlock := block.number + 1
        metrics := { receiver.metrics with blocks := receiver.metrics.blocks + 1 }
        activity := .writing .acceptance } := by
  have room_eq : receiver.room =
      min blockSize (initial.capacity - offset initial.capacity blocks.length) := by
    simp only [Receiver.room, capacity, keeps.capacity_eq, keeps.cursor_eq]
  have one_more : (blocks ++ [block]).length = blocks.length + 1 := List.length_append
  rw [keeps.cursor_eq, room_eq, follows, keeps.blocks_eq]
  constructor
  case setup_eq => exact keeps.setup_eq
  case capacity_eq => exact (capacity_store ..).trans keeps.capacity_eq
  case content_eq =>
    rw [payloads_append_singleton, one_more]
    exact toList_store_payload keeps.capacity_eq (length_payloads blocks) block.length_payload
      keeps.content_eq
  case cursor_eq =>
    rw [one_more]
    exact offset_succ ..
  case expected_eq =>
    rw [one_more]
    exact (UInt8.ofNat_add (blocks.length + 1) 1).symm
  case last_eq =>
    rw [one_more]
    rfl
  case blocks_eq => exact one_more.symm
  case naks_eq => exact keeps.naks_eq

theorem Keeps.hasRoomFor_iff (keeps : Keeps setup initial blocks refusals receiver)
    (block : Block) :
    receiver.hasRoomFor block.payload = true ↔
      FitsAt initial.capacity blocks.length block.payload := by
  have capacity_eq : receiver.capacity = initial.capacity := keeps.capacity_eq
  have start_eq : receiver.cursor = offset receiver.capacity blocks.length := by
    rw [capacity_eq, keeps.cursor_eq]
  rw [Receiver.hasRoomFor_iff start_eq block.length_payload, capacity_eq]

theorem not_repeats_of_follows {count : Nat} {block : Block} (follows : Follows count block) :
    ¬ Repeats count block := by
  rintro ⟨_, same⟩
  have number : UInt8.ofNat (count + 1) = .ofNat count := follows.symm.trans same
  rw [← UInt8.toNat_inj, UInt8.toNat_ofNat', UInt8.toNat_ofNat'] at number
  omega

theorem Keeps.repeats_iff (keeps : Keeps setup initial blocks refusals receiver) (block : Block) :
    receiver.lastAccepted = some block.number ↔ Repeats blocks.length block := by
  rw [keeps.last_eq, Repeats]
  split <;> simp_all [eq_comm]

theorem exists_passes_receiveBlock (keeps : Keeps setup initial blocks refusals receiver)
    (met : receiver.phase = phaseAt initial.capacity blocks.length) {raw : Array UInt8}
    (collects : receiver.activity = .collecting raw) {value : UInt8} {block : Block}
    (whole : Frame.length setup.mode ≤ raw.toList.length + 1)
    (decoded : Frame.decode setup.mode (raw.toList ++ [value]) = .ok block)
    (reacts : Reacts receiver now (some (.heard value)) (receiver.receiveBlock block)) :
    ∃ later, Passes setup initial.capacity ⟨.collecting raw.toList, blocks, refusals⟩
        (deedOf receiver (some (.heard value)) (receiver.receiveBlock block)) later ∧
      At setup initial later (receiver.receiveBlock block).1 := by
  have unannounced : receiver.activity ≠ .writing .acceptance := by simp [collects]
  by_cases follows : Follows blocks.length block
  · have expected : block.number = receiver.expectedBlock := follows.trans keeps.expected_eq.symm
    have accepts : receiver.receiveBlock block = receiver.accept block := if_pos expected
    rw [accepts] at reacts ⊢
    by_cases room : receiver.hasRoomFor block.payload = true
    · have fits := (keeps.hasRoomFor_iff block).mp room
      have inside : receiver.phase = .awaitingBlock := by
        have below : ¬ initial.capacity ≤ offset initial.capacity blocks.length := by
          have before := fits.1
          simp only [offset]
          omega
        rw [met, phaseAt, if_neg below]
      have stores := keeps.store follows
      unfold accept at reacts ⊢
      rw [if_pos room] at reacts ⊢
      have deed : deedOf receiver (some (.heard value)) _ = ⟨some (.heard value), some block, []⟩ :=
        congrArg₂ (Deed.mk _)
          (by simp [accepted?, collects, keeps.setup_eq, decoded, Except.toOption])
          (totals_eq_nil reacts unannounced)
      rw [deed]
      exact ⟨_, .accept whole decoded follows fits, .accepting stores inside rfl⟩
    · have full : ¬ FitsAt initial.capacity blocks.length block.payload := by
        rwa [← keeps.hasRoomFor_iff block]
      unfold accept at reacts ⊢
      rw [if_neg room] at reacts ⊢
      rw [deedOf_eq_ofSign reacts unannounced (.inr (by rintro ⟨⟩))]
      exact ⟨_, .giveUp whole decoded (fun _ => full) (not_repeats_of_follows follows),
        keeps.at_abortNotifying _⟩
  · have unexpected : block.number ≠ receiver.expectedBlock := by
      rwa [keeps.expected_eq]
    unfold receiveBlock at reacts ⊢
    rw [if_neg unexpected] at reacts ⊢
    by_cases last : receiver.lastAccepted = some block.number
    · have repeats := (keeps.repeats_iff block).mp last
      rw [if_pos last] at reacts ⊢
      rw [deedOf_eq_ofSign reacts unannounced (.inr (by rintro ⟨⟩))]
      exact ⟨_, .repeat whole decoded repeats, .answering { keeps with } met (.inl (.inl rfl)) rfl⟩
    · have fresh : ¬ Repeats blocks.length block := by
        rwa [← keeps.repeats_iff block]
      rw [if_neg last] at reacts ⊢
      rw [deedOf_eq_ofSign reacts unannounced (.inr (by rintro ⟨⟩))]
      exact ⟨_, .giveUp whole decoded (fun same => absurd same follows) fresh,
        keeps.at_abortNotifying _⟩

theorem exists_passes_collect (keeps : Keeps setup initial blocks refusals receiver)
    (met : receiver.phase = phaseAt initial.capacity blocks.length) {raw : Array UInt8}
    (collects : receiver.activity = .collecting raw) (value : UInt8) :
    ∃ later, Passes setup initial.capacity ⟨.collecting raw.toList, blocks, refusals⟩
        (deedOf receiver (some (.heard value)) (receiver.collect now raw value)) later ∧
      At setup initial later (receiver.collect now raw value).1 := by
  have reacts : Reacts receiver now (some (.heard value)) (receiver.collect now raw value) :=
    .collect value collects
  have unannounced : receiver.activity ≠ .writing .acceptance := by simp [collects]
  have pushed : (raw.push value).toList = raw.toList ++ [value] := Array.toList_push
  have size_eq : (raw.push value).size = raw.toList.length + 1 := by simp
  unfold collect at reacts ⊢
  by_cases inside : (raw.push value).size < Frame.length receiver.setup.mode
  · rw [if_pos inside] at reacts ⊢
    rw [deedOf_eq_ofSign reacts unannounced (.inr nofun)]
    rw [size_eq, keeps.setup_eq] at inside
    refine ⟨_, .collect inside, ?_⟩
    rw [← pushed]
    exact .collecting { keeps with } met rfl
  · rw [if_neg inside] at reacts ⊢
    rw [size_eq, keeps.setup_eq] at inside
    have whole := Nat.le_of_not_lt inside
    have mode_eq : receiver.setup.mode = setup.mode := congrArg Setup.mode keeps.setup_eq
    unfold receiveFrame at reacts ⊢
    rw [pushed, mode_eq] at reacts ⊢
    cases decoded : Frame.decode setup.mode (raw.toList ++ [value]) with
    | ok block =>
        rw [decoded] at reacts
        exact exists_passes_receiveBlock keeps met collects whole decoded reacts
    | error error =>
        rw [decoded] at reacts
        simp only at reacts ⊢
        rw [deedOf_eq_ofSign reacts unannounced (.inr nofun)]
        have counted : receiver.metrics.naks + 1 = refusals + 1 := congrArg (· + 1) keeps.naks_eq
        exact ⟨_, .refuse whole decoded, .draining { keeps with naks_eq := counted } met rfl⟩

theorem exists_passes_heardNothing_calling (keeps : Keeps setup initial [] 0 receiver)
    (calls : receiver.phase = .awaitingStart) :
    ∃ later, Passes setup initial.capacity ⟨.calling, [], 0⟩ (.ofSign (some .silence)) later ∧
      At setup initial later (receiver.heardNothing now).1 := by
  obtain ⟨_, becomes⟩ | ⟨_, becomes⟩ := receiver.heardNothing_cases now calls
  · rw [becomes]
    exact ⟨_, .wait (.inl rfl), .calling { keeps with } calls (.inr (.inl rfl))⟩
  · rw [becomes]
    exact ⟨_, .leave (.inl (.inl rfl)) (innocent_of_reason (.senderSilentAtStart _) _ nofun nofun)
      (.inr (.inl rfl)), .finished { keeps with } (.inr rfl) rfl⟩

theorem beginStep_met (met : receiver.phase = phaseAt initial.capacity blocks.length) :
    receiver.beginStep now = (receiver.listen now, []) := by
  have either : receiver.phase = .awaitingBlock ∨ receiver.phase = .awaitingEotOrBlock := by
    rw [met, phaseAt]
    split
    · exact .inr rfl
    · exact .inl rfl
  obtain phase_eq | phase_eq := either <;> simp only [beginStep, phase_eq]

theorem transferred_eq_of_expected {expected : Nat}
    (known : receiver.setup.expectedLength = some expected) (reached : expected ≤ receiver.cursor) :
    receiver.transferred = expected := by
  simp only [transferred, known, if_pos reached]

theorem innocent_lineFault (message : String) (transferred : Nat) :
    Innocent (.error ⟨.lineFault message, transferred⟩) :=
  innocent_of_reason _ _ nofun nofun

section Passages

variable {sign : Option Sign} {result : Receiver τ × List (Event τ)}

theorem exists_passes_listening {stage : Stage} {deadline : τ} (awaits : stage.Awaits)
    (stands : At setup initial ⟨stage, blocks, refusals⟩ receiver)
    (keeps : Keeps setup initial blocks refusals receiver)
    (opened : receiver.phase = .awaitingStart ∨
      receiver.phase = phaseAt initial.capacity blocks.length)
    (listens : receiver.activity = .listening deadline)
    (silent : ∃ later, Passes setup initial.capacity ⟨stage, blocks, refusals⟩
        (.ofSign (some .silence)) later ∧
      At setup initial later (receiver.heardNothing now).1)
    (reacts : Reacts receiver now sign result) :
    ∃ later, Passes setup initial.capacity ⟨stage, blocks, refusals⟩
        (deedOf receiver sign result) later ∧
      At setup initial later result.1 := by
  rw [deedOf_eq_ofSign reacts (by simp [listens]) (.inl (by simp [listens]))]
  obtain ⟨value, rfl, rfl⟩ | ⟨rfl, rfl⟩ | ⟨fault, rfl, rfl⟩ := reacts.of_listening listens
  · exact exists_passes_heard awaits stands keeps opened value
  · exact silent
  · exact ⟨_, .leave (.inl awaits) (innocent_lineFault _ _) (.inr (.inr rfl)), keeps.at_abort _⟩

theorem exists_passes_calling (stands : At setup initial ⟨.calling, [], 0⟩ receiver)
    (keeps : Keeps setup initial [] 0 receiver) (calls : receiver.phase = .awaitingStart)
    (rests : receiver.activity = .idle ∨ receiver.activity = .between ∨
      receiver.activity = .writing .request ∨ ∃ deadline, receiver.activity = .listening deadline)
    (reacts : Reacts receiver now sign result) :
    ∃ later, Passes setup initial.capacity ⟨.calling, [], 0⟩ (deedOf receiver sign result) later ∧
      At setup initial later result.1 := by
  obtain idle | between | writes | ⟨deadline, listens⟩ := rests
  · rw [deedOf_eq_ofSign reacts (by simp [idle]) (.inl (by simp [idle]))]
    obtain ⟨rfl, rfl⟩ := reacts.of_idle idle
    exact ⟨_, .within (.inl rfl), .calling { keeps with } calls (.inr (.inl rfl))⟩
  · rw [deedOf_eq_ofSign reacts (by simp [between]) (.inl (by simp [between]))]
    obtain ⟨rfl, rfl⟩ := reacts.of_between between
    have begins : receiver.beginStep now =
        ({ receiver with activity := .writing .request }, []) := by
      simp only [beginStep, calls]
    rw [begins]
    exact ⟨_, .within (.inl rfl), .calling { keeps with } calls (.inr (.inr (.inl rfl)))⟩
  · rw [deedOf_eq_ofSign reacts (by simp [writes]) (.inl (by simp [writes]))]
    obtain ⟨rfl, rfl⟩ | ⟨fault, rfl, rfl⟩ := reacts.of_writing writes
    · rw [keeps.setup_eq]
      exact ⟨_, .call, .calling { keeps with } calls (.inr (.inr (.inr ⟨_, rfl⟩)))⟩
    · rw [keeps.setup_eq]
      exact ⟨_, .spoil (innocent_lineFault _ _) (.inl ⟨rfl, rfl⟩), keeps.at_abort _⟩
  · exact exists_passes_listening (.inl rfl) stands keeps (.inl calls) listens
      (exists_passes_heardNothing_calling keeps calls) reacts

theorem exists_passes_standing (stands : At setup initial ⟨.standing, blocks, refusals⟩ receiver)
    (keeps : Keeps setup initial blocks refusals receiver)
    (met : receiver.phase = phaseAt initial.capacity blocks.length)
    (rests : receiver.activity = .between ∨ ∃ deadline, receiver.activity = .listening deadline)
    (reacts : Reacts receiver now sign result) :
    ∃ later, Passes setup initial.capacity ⟨.standing, blocks, refusals⟩
        (deedOf receiver sign result) later ∧
      At setup initial later result.1 := by
  obtain between | ⟨deadline, listens⟩ := rests
  · rw [deedOf_eq_ofSign reacts (by simp [between]) (.inl (by simp [between]))]
    obtain ⟨rfl, rfl⟩ := reacts.of_between between
    rw [beginStep_met met]
    exact ⟨_, .within (.inr rfl), .standing { keeps with } met (.inr ⟨_, rfl⟩)⟩
  · refine exists_passes_listening (.inr rfl) stands keeps (.inr met) listens ?_ reacts
    have later : receiver.phase ≠ .awaitingStart := met ▸ phaseAt_ne_awaitingStart _ _
    have idles : receiver.heardNothing now = receiver.idle now .noBlock := if_neg later
    rw [idles]
    obtain stands | ⟨failure, innocent, finished⟩ := exists_at_idle keeps met .noBlock
    · exact ⟨_, .wait (.inr rfl), stands⟩
    · exact ⟨_, .leave (.inl (.inr rfl)) innocent (.inr (.inl rfl)), finished⟩

theorem exists_passes_collecting (keeps : Keeps setup initial blocks refusals receiver)
    (met : receiver.phase = phaseAt initial.capacity blocks.length) {raw : Array UInt8}
    (collects : receiver.activity = .collecting raw) (reacts : Reacts receiver now sign result) :
    ∃ later, Passes setup initial.capacity ⟨.collecting raw.toList, blocks, refusals⟩
        (deedOf receiver sign result) later ∧
      At setup initial later result.1 := by
  have unannounced : receiver.activity ≠ .writing .acceptance := by simp [collects]
  obtain ⟨value, rfl, rfl⟩ | ⟨rfl, rfl⟩ | ⟨fault, rfl, rfl⟩ := reacts.of_collecting collects
  · exact exists_passes_collect keeps met collects value
  · obtain stands | ⟨failure, innocent, finished⟩ := exists_at_idle keeps met (.partialFrame _)
    · rw [deedOf_eq_ofSign reacts unannounced (.inr (stands.unaccepted (by rintro ⟨⟩)))]
      exact ⟨_, .starve, stands⟩
    · rw [deedOf_eq_ofSign reacts unannounced (.inr (finished.unaccepted (by rintro ⟨⟩)))]
      exact ⟨_, .leave (.inr (.inl ⟨_, rfl⟩)) innocent (.inr (.inl rfl)), finished⟩
  · rw [deedOf_eq_ofSign reacts unannounced (.inr (by rintro ⟨⟩))]
    exact ⟨_, .leave (.inr (.inl ⟨_, rfl⟩)) (innocent_lineFault _ _) (.inr (.inr rfl)),
      keeps.at_abort _⟩

theorem exists_passes_accepting (keeps : Keeps setup initial blocks refusals receiver)
    (writes : receiver.activity = .writing .acceptance)
    (reacts : Reacts receiver now sign result) :
    ∃ later, Passes setup initial.capacity ⟨.answering .acceptance, blocks, refusals⟩
        (deedOf receiver sign result) later ∧
      At setup initial later result.1 := by
  have uncollecting : ∀ raw, receiver.activity ≠ .collecting raw := by simp [writes]
  obtain ⟨rfl, rfl⟩ | ⟨fault, rfl, rfl⟩ := reacts.of_writing writes
  · have deed : deedOf receiver (some (.wrote [Writing.acceptance.byte receiver.setup.mode]))
        (receiver.wrote now .acceptance) =
          ⟨some (.wrote [Signal.byte .acknowledge]), none, [receiver.cursor]⟩ := by
      unfold deedOf
      rw [accepted?_of_ne uncollecting]
      rfl
    rw [deed, keeps.cursor_eq]
    exact ⟨_, .announce, .standing { keeps with } keeps.waitingPhase_eq (.inl rfl)⟩
  · have deed : deedOf receiver (some (.spoiled [Writing.acceptance.byte receiver.setup.mode]))
        (receiver.abort now (.lineFault fault)) =
          .ofSign (some (.spoiled [Writing.acceptance.byte receiver.setup.mode])) := by
      unfold deedOf
      rw [accepted?_of_ne uncollecting]
      rfl
    rw [deed, keeps.setup_eq]
    exact ⟨_, .spoil (innocent_lineFault _ _) (.inr rfl), keeps.at_abort _⟩

theorem exists_passes_answering {purpose : Writing}
    (keeps : Keeps setup initial blocks refusals receiver)
    (met : receiver.phase = phaseAt initial.capacity blocks.length)
    (answers : purpose.Continues ∨ purpose = .completion)
    (writes : receiver.activity = .writing purpose) (reacts : Reacts receiver now sign result) :
    ∃ later, Passes setup initial.capacity ⟨.answering purpose, blocks, refusals⟩
        (deedOf receiver sign result) later ∧
      At setup initial later result.1 := by
  have unaccepting : purpose ≠ .acceptance := by
    rintro rfl
    simp [Writing.Continues] at answers
  rw [deedOf_eq_ofSign reacts (by simpa [writes] using unaccepting) (.inl (by simp [writes]))]
  obtain ⟨rfl, rfl⟩ | ⟨fault, rfl, rfl⟩ := reacts.of_writing writes
  · rw [keeps.setup_eq]
    obtain continues | rfl := answers
    · refine ⟨_, .answer continues, ?_⟩
      obtain rfl | rfl | rfl := continues <;>
        exact .standing { keeps with } met (.inl rfl)
    · exact ⟨_, .conclude, .completed { keeps with } rfl rfl⟩
  · rw [keeps.setup_eq]
    exact ⟨_, .spoil (innocent_lineFault _ _) (.inr rfl), keeps.at_abort _⟩

/-- Every reaction of a receiver is a passage from its stage. -/
theorem At.exists_passes {course : Course} (stands : At setup initial course receiver)
    (reacts : Reacts receiver now sign result) :
    ∃ later, Passes setup initial.capacity course (deedOf receiver sign result) later ∧
      At setup initial later result.1 := by
  have same := stands
  cases stands with
  | calling keeps calls rests => exact exists_passes_calling same keeps calls rests reacts
  | standing keeps met rests => exact exists_passes_standing same keeps met rests reacts
  | collecting keeps met collects => exact exists_passes_collecting keeps met collects reacts
  | draining keeps met drains =>
      rw [deedOf_eq_ofSign reacts (by simp [drains]) (.inl (by simp [drains]))]
      obtain ⟨value, rfl, rfl⟩ | ⟨rfl, rfl⟩ | ⟨fault, rfl, rfl⟩ := reacts.of_draining drains
      · exact ⟨_, .drain, same⟩
      · exact ⟨_, .reject, .answering { keeps with } met (.inl (.inr (.inl rfl))) rfl⟩
      · exact ⟨_, .leave (.inr (.inr rfl)) (innocent_lineFault _ _) (.inr (.inr rfl)),
          keeps.at_abort _⟩
  | accepting keeps _ writes => exact exists_passes_accepting keeps writes reacts
  | answering keeps met answers writes =>
      exact exists_passes_answering keeps met answers writes reacts
  | completed keeps completes between =>
      rw [deedOf_eq_ofSign reacts (by simp [between]) (.inl (by simp [between]))]
      obtain ⟨rfl, rfl⟩ := reacts.of_between between
      have begins : receiver.beginStep now = receiver.complete now := by
        simp only [beginStep, completes]
      rw [begins]
      refine ⟨_, .complete ?_, .finished { keeps with } (.inl completes) rfl⟩
      intro expected known reached
      rw [← keeps.setup_eq] at known
      exact transferred_eq_of_expected known (by rwa [keeps.cursor_eq])
  | canceling keeps aborts writes =>
      rw [deedOf_eq_ofSign reacts (by simp [writes]) (.inl (by simp [writes]))]
      obtain ⟨rfl, rfl⟩ | ⟨fault, rfl, rfl⟩ := reacts.of_writing writes
      · exact ⟨_, .cancel rfl, .finished { keeps with } (.inr aborts) rfl⟩
      · exact ⟨_, .cancel rfl, keeps.at_abort _⟩
  | finished keeps ends finished => exact absurd reacts (Reacts.not_of_ended finished)

end Passages

end Reactions

/-- What a moment of a receiver shows. -/
def deed (moment : Moment (Receiver τ) τ) : Deed :=
  deedOf moment.session (moment.sign? waits) (moment.after, moment.events)

/-- The deeds that lead a receiver from its beginning to a course. -/
inductive Treads (setup : Setup τ) (capacity : Nat) : List Deed → Course → Prop
  | start : Treads setup capacity [] ⟨.calling, [], 0⟩
  | pass {deeds : List Deed} {deed : Deed} {course later : Course} :
      Treads setup capacity deeds course → Passes setup capacity course deed later →
      Treads setup capacity (deeds ++ [deed]) later

theorem at_start (setup : Setup τ) (initial : Destination) (now : τ) :
    At setup initial ⟨.calling, [], 0⟩ (start setup initial now) :=
  .calling
    { setup_eq := rfl
      capacity_eq := rfl
      content_eq := by simp [start, payloads]
      cursor_eq := (Nat.zero_min _).symm
      expected_eq := rfl
      last_eq := rfl
      blocks_eq := rfl
      naks_eq := rfl }
    rfl (.inl rfl)

/-- Every conversation of a receiver leads it along its stages. -/
theorem exists_treads {setup : Setup τ} {initial : Destination} {now : τ}
    {moments : List (Moment (Receiver τ) τ)} {receiver : Receiver τ}
    (talks : Converses (start setup initial now) moments receiver) :
    ∃ course, Treads setup initial.capacity (moments.map deed) course ∧
      At setup initial course receiver := by
  induction talks with
  | silent => exact ⟨_, .start, at_start setup initial now⟩
  | step _ valid induction =>
      obtain ⟨course, treads, stands⟩ := induction
      obtain ⟨later, passes, stands⟩ := stands.exists_passes (reacts_of_valid valid)
      rw [List.map_append]
      exact ⟨later, treads.pass passes, stands⟩

end Receiver
end Xmodem
