import Mathlib.Data.List.Basic
import Xmodem.Proofs.Receiver.Answers
import Xmodem.Proofs.Receiver.Closing

/-!
# What a receiver replies

Before the first packet a receiver writes nothing but requests.  From then on it writes exactly one
byte for every message, in the order of the messages, and nothing for noise, silence, and partial
frames.  A block is in the destination before it is acknowledged.
-/

namespace Xmodem
namespace Receiver

open Packets Destination

variable {τ : Type} [Quantity τ]

/-- What a receiver does that owes no answer. -/
inductive Ready : Activity τ → Prop
  | idle : Ready .idle
  | listening (deadline : τ) : Ready (.listening deadline)
  | collecting (raw : Array UInt8) : Ready (.collecting raw)
  | request : Ready (.writing .request)

/-- Where a receiver stands in its answers, given what it wrote. -/
inductive Stance (mode : ChecksumMode) (said : List (List UInt8)) (receiver : Receiver τ) :
    List Writing → Prop
  | ready {purposes : List Writing} :
      (∀ purpose ∈ purposes, purpose.Lasts) → said = spoken mode purposes →
      receiver.phase ≠ .completed → Ready receiver.activity → Stance mode said receiver purposes
  | between {purposes : List Writing} :
      (∀ purpose ∈ purposes, purpose.Lasts) → said = spoken mode purposes →
      receiver.phase ≠ .completed → receiver.activity = .between →
      Stance mode said receiver purposes
  | draining {purposes : List Writing} {deadline : τ} :
      (∀ purpose ∈ purposes, purpose.Lasts) → said = spoken mode purposes →
      receiver.phase ≠ .completed → receiver.activity = .draining deadline →
      Stance mode said receiver (purposes ++ [.rejection])
  | writing {purposes : List Writing} {purpose : Writing} :
      (∀ purpose ∈ purposes, purpose.Lasts) → said = spoken mode purposes →
      receiver.phase ≠ .completed → purpose ≠ .request → receiver.activity = .writing purpose →
      Stance mode said receiver (purposes ++ [purpose])
  | completing {purposes : List Writing} :
      (∀ purpose ∈ purposes, purpose.Lasts) → said = spoken mode (purposes ++ [.completion]) →
      receiver.phase = .completed → receiver.activity = .between →
      Stance mode said receiver (purposes ++ [.completion])
  | completed {purposes : List Writing} {count : Nat} :
      (∀ purpose ∈ purposes, purpose.Lasts) → said = spoken mode (purposes ++ [.completion]) →
      receiver.phase = .completed → receiver.activity = .ended (.ok count) →
      Stance mode said receiver (purposes ++ [.completion])
  | left {purposes : List Writing} {failure : Failure} :
      (∀ purpose ∈ purposes, purpose.Lasts) → said = spoken mode purposes →
      Innocent (.error failure) → receiver.activity = .ended (.error failure) →
      Stance mode said receiver purposes
  | canceled {purposes : List Writing} {cause : AbortCause} {count : Nat} :
      (∀ purpose ∈ purposes, purpose.Lasts) → said = spoken mode (purposes ++ [.cancel cause]) →
      receiver.activity = .ended (.error ⟨cause, count⟩) →
      Stance mode said receiver (purposes ++ [.cancel cause])

/-- How a receiver has behaved, given what it heard and what it answered. -/
structure Conduct (setup : Setup τ) (initial : Destination) (hearing : Hearing)
    (purposes : List Writing) (blocks : List Block) (receiver : Receiver τ) : Prop where
  replies : Replies setup initial.capacity hearing.messages purposes blocks
  keeps : Keeps setup initial blocks (purposes.count .rejection) receiver
  retransmits_eq : receiver.metrics.retransmits = purposes.count .repetition
  requests : ∀ bytes ∈ hearing.requests, bytes = [Writing.request.byte setup.mode]
  stance : Stance setup.mode hearing.replies receiver purposes

/-- Whether some bytes are the answer to the last message, which had none, and all blocks that were
accepted so far are in the destination. -/
def Says (setup : Setup τ) (initial : Destination) (hearing : Hearing) (receiver : Receiver τ)
    (bytes : List UInt8) : Prop :=
  ∃ messages message purposes purpose blocks stored,
    hearing.messages = messages ++ [message] ∧
    Replies setup initial.capacity messages purposes blocks ∧
    hearing.replies = spoken setup.mode purposes ∧
    Answers setup initial.capacity blocks message purpose stored ∧
    bytes = [purpose.byte setup.mode] ∧
    receiver.destination.toList =
      (payloads stored).take initial.capacity ++ initial.toList.drop (blockSize * stored.length)

/-- Whether all messages were answered. -/
def Answered (setup : Setup τ) (initial : Destination) (hearing : Hearing) : Prop :=
  ∃ purposes blocks, Replies setup initial.capacity hearing.messages purposes blocks ∧
    hearing.replies = spoken setup.mode purposes

/-- What a receiver has written that is over. -/
structure Concluded (setup : Setup τ) (initial : Destination) (signs : List Sign)
    (receiver : Receiver τ) : Prop where
  answered : Answered setup initial (hearing setup.mode signs)
  /-- Every message has one answer. -/
  one_each : (hearing setup.mode signs).replies.length = (hearing setup.mode signs).messages.length
  /-- Every accepted block, every repetition, and the end of a complete transfer is acknowledged. -/
  acknowledged : (hearing setup.mode signs).replies.count [Signal.byte .acknowledge] =
    receiver.metrics.blocks + receiver.metrics.retransmits +
      if receiver.phase = .completed then 1 else 0
  /-- Every damaged frame and every unconfirmed end is refused. -/
  refused : (hearing setup.mode signs).replies.count [Signal.byte .negativeAcknowledge] =
    receiver.metrics.naks + unconfirmed setup (hearing setup.mode signs).messages
  /-- The sender is told of two reasons to give up. -/
  canceled_iff : [Signal.byte .cancel] ∈ (hearing setup.mode signs).replies ↔
    receiver.abortReason? = some .outOfSequence ∨
      receiver.abortReason? = some .destinationExhausted
  /-- Nothing is written after a cancellation. -/
  canceled_last : ∀ front back,
    (hearing setup.mode signs).replies = front ++ [Signal.byte .cancel] :: back → back = []
  /-- A complete transfer ended with an announcement, right after another one if it had to be
  repeated. -/
  confirmed : receiver.phase = .completed →
    ∃ before after, signs = before ++ .heard (Signal.byte .endOfTransmission) :: after ∧
      (hearing setup.mode before).attention = .packet ∧
      (hearing setup.mode signs).messages.length =
        (hearing setup.mode before).messages.length + 1 ∧
      (setup.confirmEot = true → (hearing setup.mode before).openings.getLast? =
        some (Signal.byte .endOfTransmission))

/-- How a receiver writes. -/
structure Disciplined (setup : Setup τ) (initial : Destination)
    (moments : List (Moment (Receiver τ) τ)) (receiver : Receiver τ) : Prop where
  /-- Before the first packet, nothing is written but requests. -/
  requests : ∀ bytes ∈ (hearing setup.mode (transcript waits moments)).requests,
    bytes = [Writing.request.byte setup.mode]
  /-- From then on, every write is the answer to the last message. -/
  speaks : ∀ front moment back bytes, moments = front ++ moment :: back →
    moment.sign? waits = some (.wrote bytes) →
    (hearing setup.mode (transcript waits front)).openings ≠ [] →
      Says setup initial (hearing setup.mode (transcript waits front)) moment.session bytes
  /-- Nothing but noise is met while a message has no answer. -/
  answered : ∀ front moment back sign, moments = front ++ moment :: back →
    moment.sign? waits = some sign → sign.written? = none →
    (hearing setup.mode (transcript waits front)).attention ≠ .drain →
      Answered setup initial (hearing setup.mode (transcript waits front))
  concluded : ∀ outcome, receiver.outcome? = some outcome →
    Concluded setup initial (transcript waits moments) receiver

section Reactions

variable {setup : Setup τ} {initial : Destination} {hearing : Hearing} {purposes : List Writing}
  {blocks : List Block} {receiver : Receiver τ} {now deadline : τ} {sign : Sign}
  {result : Receiver τ × List (Event τ)}

section Stances

variable {mode : ChecksumMode} {said : List (List UInt8)}

theorem Stance.of_ready (stance : Stance mode said receiver purposes)
    (ready : Ready receiver.activity) :
    (∀ purpose ∈ purposes, purpose.Lasts) ∧ said = spoken mode purposes ∧
      receiver.phase ≠ .completed := by
  cases stance with
  | ready lasts said_eq going _ => exact ⟨lasts, said_eq, going⟩
  | writing _ _ _ other doing =>
      rw [doing] at ready
      cases ready
      exact absurd rfl other
  | between _ _ _ doing | draining _ _ _ doing | completing _ _ _ doing | completed _ _ _ doing
  | left _ _ _ doing | canceled _ _ doing =>
      rw [doing] at ready
      cases ready

theorem Stance.of_writing (stance : Stance mode said receiver purposes) {purpose : Writing}
    (writes : receiver.activity = .writing purpose) (other : purpose ≠ .request) :
    ∃ earlier, purposes = earlier ++ [purpose] ∧ (∀ one ∈ earlier, one.Lasts) ∧
      said = spoken mode earlier ∧ receiver.phase ≠ .completed := by
  cases stance with
  | writing lasts said_eq going _ doing =>
      obtain rfl := Activity.writing.inj (doing.symm.trans writes)
      exact ⟨_, rfl, lasts, said_eq, going⟩
  | ready _ _ _ ready =>
      rw [writes] at ready
      cases ready
      exact absurd rfl other
  | between _ _ _ doing | draining _ _ _ doing | completing _ _ _ doing | completed _ _ _ doing
  | left _ _ _ doing | canceled _ _ doing =>
      cases writes.symm.trans doing

theorem Stance.of_draining (stance : Stance mode said receiver purposes)
    (drains : receiver.activity = .draining deadline) :
    ∃ earlier, purposes = earlier ++ [.rejection] ∧ (∀ one ∈ earlier, one.Lasts) ∧
      said = spoken mode earlier ∧ receiver.phase ≠ .completed := by
  cases stance with
  | draining lasts said_eq going _ => exact ⟨_, rfl, lasts, said_eq, going⟩
  | ready _ _ _ ready =>
      rw [drains] at ready
      cases ready
  | between _ _ _ doing | writing _ _ _ _ doing | completing _ _ _ doing | completed _ _ _ doing
  | left _ _ _ doing | canceled _ _ doing =>
      cases drains.symm.trans doing

end Stances

theorem Conduct.idle (conduct : Conduct setup initial hearing purposes blocks receiver)
    (ready : Ready receiver.activity) (idleness : Idleness) :
    Conduct setup initial hearing.idle purposes blocks (receiver.idle now idleness).1 := by
  obtain ⟨lasts, said_eq, going⟩ := conduct.stance.of_ready ready
  obtain ⟨_, becomes⟩ | ⟨_, becomes⟩ := receiver.idle_cases now idleness
  · rw [becomes]
    exact
      { conduct with
        keeps := { conduct.keeps with }
        stance := .between lasts said_eq going rfl }
  · rw [becomes]
    exact
      { conduct with
        keeps := { conduct.keeps with }
        stance := .left lasts said_eq (innocent_senderSilent _ _) rfl }

theorem Conduct.leave (conduct : Conduct setup initial hearing purposes blocks receiver)
    (ready : Ready receiver.activity) {cause : AbortCause}
    (order : cause.reason ≠ .outOfSequence) (size : cause.reason ≠ .destinationExhausted) :
    Conduct setup initial hearing purposes blocks (receiver.abort now cause).1 := by
  obtain ⟨lasts, said_eq, _⟩ := conduct.stance.of_ready ready
  exact
    { conduct with
      keeps := { conduct.keeps with }
      stance := .left lasts said_eq (innocent_of_reason cause _ order size) rfl }

theorem Conduct.meet (conduct : Conduct setup initial hearing purposes blocks receiver)
    (ready : Ready receiver.activity) {message : Message}
    {purpose : Writing} {stored : List Block}
    (answers : Answers setup initial.capacity blocks message purpose stored) {later : Hearing}
    (messages_eq : later.messages = hearing.messages ++ [message])
    (requests_eq : later.requests = hearing.requests) (replies_eq : later.replies = hearing.replies)
    {after : Receiver τ} {refusals : Nat} (keeps : Keeps setup initial stored refusals after)
    (refusals_eq : (purposes ++ [purpose]).count .rejection = refusals)
    (retransmits_eq : after.metrics.retransmits = (purposes ++ [purpose]).count .repetition)
    (going : after.phase ≠ .completed)
    (owes : after.activity = .writing purpose ∨
      purpose = .rejection ∧ ∃ deadline, after.activity = .draining deadline) :
    Conduct setup initial later (purposes ++ [purpose]) stored after := by
  obtain ⟨lasts, said_eq, _⟩ := conduct.stance.of_ready ready
  rw [← replies_eq] at said_eq
  refine ⟨?_, refusals_eq ▸ keeps, retransmits_eq, ?_, ?_⟩
  · rw [messages_eq]
    exact .reply conduct.replies lasts answers
  · rw [requests_eq]
    exact conduct.requests
  · obtain writes | ⟨rfl, deadline, drains⟩ := owes
    · exact .writing lasts said_eq going answers.ne_request writes
    · exact .draining lasts said_eq going drains

theorem Conduct.answer (conduct : Conduct setup initial hearing purposes blocks receiver)
    (ready : Ready receiver.activity) {message : Message} {purpose : Writing} {stored : List Block}
    (answers : Answers setup initial.capacity blocks message purpose stored) {later : Hearing}
    {after : Receiver τ} (writes : after.activity = .writing purpose)
    (messages_eq : later.messages = hearing.messages ++ [message])
    (requests_eq : later.requests = hearing.requests) (replies_eq : later.replies = hearing.replies)
    (keeps : Keeps setup initial stored (purposes.count .rejection) after)
    (other : purpose ≠ .rejection)
    (retransmits_eq :
      after.metrics.retransmits = purposes.count .repetition + [purpose].count .repetition)
    (going : after.phase ≠ .completed) :
    Conduct setup initial later (purposes ++ [purpose]) stored after := by
  rw [← List.count_append] at retransmits_eq
  have refusals_eq : (purposes ++ [purpose]).count .rejection = purposes.count .rejection := by
    simp [other]
  exact conduct.meet ready answers messages_eq requests_eq replies_eq keeps refusals_eq
    retransmits_eq going (.inl writes)

theorem meetSender_phase_ne_completed (going : receiver.phase ≠ .completed) :
    receiver.meetSender.1.phase ≠ .completed := by
  unfold meetSender
  split
  · unfold waitingPhase
    split <;> exact nofun
  · exact going

theorem Conduct.finish (conduct : Conduct setup initial hearing purposes blocks receiver)
    (hears : Hears hearing receiver) (listens : receiver.activity = .listening deadline)
    {phase : ReceivePhase} (going : phase ≠ .completed) :
    ∃ purpose, Conduct setup initial hearing.finish (purposes ++ [purpose]) blocks
      { receiver with phase := phase }.endOfTransmission.1 := by
  have ready : Ready receiver.activity := listens ▸ .listening deadline
  have pending := hears.pending_iff
  have setup_eq := conduct.keeps.setup_eq
  unfold endOfTransmission
  split
  · rename_i confirms
    have again_eq : decide (hearing.openings.getLast? = some (Signal.byte .endOfTransmission)) =
        false :=
      decide_eq_false fun again => confirms.2 (pending.mpr ⟨confirms.1, again⟩)
    have answers : Answers setup initial.capacity blocks (.endOfTransmission
        (decide (hearing.openings.getLast? = some (Signal.byte .endOfTransmission))))
        .confirmation blocks := by
      rw [again_eq]
      exact .confirm (setup_eq ▸ confirms.1)
    exact ⟨_, conduct.answer ready answers rfl rfl rfl rfl { conduct.keeps with } nofun
      conduct.retransmits_eq going⟩
  · rename_i settled
    have answers : Answers setup initial.capacity blocks (.endOfTransmission
        (decide (hearing.openings.getLast? = some (Signal.byte .endOfTransmission))))
        .completion blocks := by
      refine .complete fun confirms => decide_eq_true ?_
      rw [not_and, not_not] at settled
      exact (pending.mp (settled (setup_eq ▸ confirms))).2
    exact ⟨_, conduct.answer ready answers rfl rfl rfl rfl { conduct.keeps with } nofun
      conduct.retransmits_eq going⟩

theorem Conduct.heard (conduct : Conduct setup initial hearing purposes blocks receiver)
    (hears : Hears hearing receiver) (listens : receiver.activity = .listening deadline)
    (value : UInt8) :
    ∃ more, Conduct setup initial (hearing.hear setup.mode value) more blocks
      (receiver.heard now value).1 := by
  have ready : Ready receiver.activity := listens ▸ .listening deadline
  have attentive := hears.attention_of listens
  obtain ⟨lasts, said_eq, going⟩ := conduct.stance.of_ready ready
  have met := meetSender_phase_ne_completed going
  obtain ⟨rfl, becomes⟩ | ⟨rfl, becomes⟩ | ⟨rfl, cause, peer, becomes⟩ | ⟨noise, becomes⟩ :=
    receiver.heard_cases now value
  · rw [becomes, Hearing.hear_startOfBlock attentive, meetSender_eq]
    exact ⟨purposes,
      { conduct with
        keeps := { conduct.keeps with }
        stance := .ready lasts said_eq met (.collecting _) }⟩
  · rw [becomes, Hearing.hear_endOfTransmission attentive, meetSender_eq]
    obtain ⟨purpose, finishes⟩ := conduct.finish hears listens met
    exact ⟨_, finishes⟩
  · have differs : Signal.byte .cancel ≠ startOfBlock ∧
        Signal.byte .cancel ≠ Signal.byte .endOfTransmission := by decide
    rw [becomes, Hearing.hear_other attentive differs.1 differs.2]
    exact ⟨purposes, conduct.leave ready (by rw [peer]; exact nofun) (by rw [peer]; exact nofun)⟩
  · simp only [announcements, List.mem_cons, List.not_mem_nil, or_false, not_or] at noise
    rw [becomes, Hearing.hear_other attentive noise.1 noise.2.1]
    exact ⟨purposes, conduct⟩

theorem Conduct.heardNothing (conduct : Conduct setup initial hearing purposes blocks receiver)
    (hears : Hears hearing receiver) (listens : receiver.activity = .listening deadline) :
    Conduct setup initial hearing.lapse purposes blocks (receiver.heardNothing now).1 := by
  have ready : Ready receiver.activity := listens ▸ .listening deadline
  have attentive := hears.attention_of listens
  obtain ⟨lasts, said_eq, going⟩ := conduct.stance.of_ready ready
  by_cases calls : receiver.phase = .awaitingStart
  · have counted : Conduct setup initial hearing purposes blocks receiver.unheard :=
      { conduct with
        keeps := { conduct.keeps with }
        stance := .ready lasts said_eq going ready }
    rw [Hearing.lapse_unopened attentive (hears.unopened calls)]
    obtain ⟨_, becomes⟩ | ⟨_, becomes⟩ := receiver.heardNothing_cases now calls
    · rw [becomes]
      exact
        { conduct with
          keeps := { conduct.keeps with }
          stance := .between lasts said_eq going rfl }
    · rw [becomes]
      exact counted.leave ready nofun nofun
  · have idles : receiver.heardNothing now = receiver.idle now .noBlock := if_neg calls
    have opened := hears.opened calls (by simp [listens])
    rw [Hearing.lapse_opened attentive opened, idles]
    exact conduct.idle ready .noBlock

theorem Conduct.receiveBlock (conduct : Conduct setup initial hearing purposes blocks receiver)
    {raw : Array UInt8} (collects : receiver.activity = .collecting raw) {bytes : List UInt8}
    {block : Block} (decoded : Frame.decode setup.mode bytes = .ok block) :
    ∃ more stored, Conduct setup initial (hearing.complete setup.mode bytes) more stored
      (receiver.receiveBlock block).1 := by
  have ready : Ready receiver.activity := collects ▸ .collecting raw
  have keeps := conduct.keeps
  obtain ⟨_, _, going⟩ := conduct.stance.of_ready ready
  unfold Receiver.receiveBlock
  by_cases follows : Follows blocks.length block
  · have expected : block.number = receiver.expectedBlock := follows.trans keeps.expected_eq.symm
    rw [if_pos expected]
    unfold accept
    by_cases room : receiver.hasRoomFor block.payload = true
    · rw [if_pos room]
      have fits := (keeps.hasRoomFor_iff block).mp room
      have answers : Answers setup initial.capacity blocks (.frame bytes) .acceptance _ :=
        .accept decoded follows fits
      exact ⟨_, _, conduct.answer ready answers rfl rfl rfl rfl (keeps.store follows) nofun
        conduct.retransmits_eq going⟩
    · rw [if_neg room]
      have full : ¬ FitsAt initial.capacity blocks.length block.payload := by
        rwa [← keeps.hasRoomFor_iff block]
      have answers : Answers setup initial.capacity blocks (.frame bytes)
          (.cancel (.noRoom block.number receiver.cursor receiver.capacity)) blocks :=
        .overflow decoded follows full rfl
      exact ⟨_, _, conduct.answer ready answers rfl rfl rfl rfl { keeps with } nofun
        conduct.retransmits_eq nofun⟩
  · have unexpected : block.number ≠ receiver.expectedBlock := by
      rwa [keeps.expected_eq]
    rw [if_neg unexpected]
    by_cases last : receiver.lastAccepted = some block.number
    · rw [if_pos last]
      have answers : Answers setup initial.capacity blocks (.frame bytes) .repetition blocks :=
        .repeat decoded ((keeps.repeats_iff block).mp last)
      exact ⟨_, _, conduct.answer ready answers rfl rfl rfl rfl { keeps with } nofun
        (congrArg (· + 1) conduct.retransmits_eq) going⟩
    · rw [if_neg last]
      have fresh : ¬ Repeats blocks.length block := by
        rwa [← keeps.repeats_iff block]
      have answers : Answers setup initial.capacity blocks (.frame bytes)
          (.cancel (.outOfSequence receiver.expectedBlock block.number)) blocks :=
        .disorder decoded follows fresh rfl
      exact ⟨_, _, conduct.answer ready answers rfl rfl rfl rfl { keeps with } nofun
        conduct.retransmits_eq nofun⟩

theorem Conduct.collect (conduct : Conduct setup initial hearing purposes blocks receiver)
    (hears : Hears hearing receiver) {raw : Array UInt8}
    (collects : receiver.activity = .collecting raw) (value : UInt8) :
    ∃ more stored, Conduct setup initial (hearing.hear setup.mode value) more stored
      (receiver.collect now raw value).1 := by
  have ready : Ready receiver.activity := collects ▸ .collecting raw
  have attentive := hears.attention_of collects
  have mode_eq : receiver.setup.mode = setup.mode := congrArg Setup.mode conduct.keeps.setup_eq
  have pushed : (raw.push value).toList = raw.toList ++ [value] := Array.toList_push
  obtain ⟨lasts, said_eq, going⟩ := conduct.stance.of_ready ready
  rw [Hearing.hear_frame attentive, ← pushed, Array.length_toList]
  unfold Receiver.collect
  rw [mode_eq]
  by_cases inside : (raw.push value).size < Frame.length setup.mode
  · rw [if_pos inside, if_pos inside]
    exact ⟨purposes, blocks,
      { conduct with
        keeps := { conduct.keeps with }
        stance := .ready lasts said_eq going (.collecting _) }⟩
  rw [if_neg inside, if_neg inside]
  unfold receiveFrame
  rw [mode_eq]
  cases decoded : Frame.decode setup.mode (raw.push value).toList with
  | ok block => exact conduct.receiveBlock collects decoded
  | error error =>
      refine ⟨purposes ++ [.rejection], blocks, ?_⟩
      have counted : receiver.metrics.naks + 1 = purposes.count .rejection + 1 :=
        congrArg (· + 1) conduct.keeps.naks_eq
      apply conduct.meet ready (.reject decoded)
      case keeps => exact { conduct.keeps with naks_eq := counted }
      case refusals_eq => simp
      case retransmits_eq => simpa using conduct.retransmits_eq
      case going => exact going
      case owes => exact .inr ⟨rfl, _, rfl⟩
      all_goals rfl

theorem Conduct.requested (conduct : Conduct setup initial hearing purposes blocks receiver)
    (writes : receiver.activity = .writing .request) (unopened : hearing.openings = []) :
    Conduct setup initial (hearing.write [Writing.request.byte setup.mode]) purposes blocks
      (receiver.listen now) := by
  have ready : Ready receiver.activity := writes ▸ .request
  obtain ⟨lasts, said_eq, going⟩ := conduct.stance.of_ready ready
  rw [Hearing.write, if_pos unopened]
  refine
    { conduct with
      keeps := { conduct.keeps with }
      requests := ?_
      stance := .ready lasts said_eq going (.listening _) }
  intro bytes member
  obtain member | member := List.mem_append.mp member
  · exact conduct.requests bytes member
  · exact List.mem_singleton.mp member

theorem Conduct.replied (conduct : Conduct setup initial hearing purposes blocks receiver)
    {purpose : Writing} (writes : receiver.activity = .writing purpose)
    (other : purpose ≠ .request) (opened : hearing.openings ≠ []) :
    Conduct setup initial (hearing.write [purpose.byte setup.mode]) purposes blocks
      (receiver.wrote now purpose).1 := by
  obtain ⟨earlier, rfl, lasts, said_eq, going⟩ := conduct.stance.of_writing writes other
  have said : hearing.replies ++ [[purpose.byte setup.mode]] =
      spoken setup.mode (earlier ++ [purpose]) := by
    rw [said_eq, spoken_append_singleton]
  have still_lasts (lasting : purpose.Lasts) : ∀ one ∈ earlier ++ [purpose], one.Lasts := by
    intro one member
    obtain member | member := List.mem_append.mp member
    · exact lasts one member
    · rw [List.mem_singleton.mp member]
      exact lasting
  have goes_on {after : Receiver τ}
      (keeps : Keeps setup initial blocks ((earlier ++ [purpose]).count .rejection) after)
      (same : after.metrics.retransmits = receiver.metrics.retransmits)
      (stance : Stance setup.mode (spoken setup.mode (earlier ++ [purpose])) after
        (earlier ++ [purpose])) :
      Conduct setup initial (hearing.write [purpose.byte setup.mode]) (earlier ++ [purpose])
        blocks after := by
    rw [Hearing.write, if_neg opened]
    exact
      { conduct with
        keeps := keeps
        retransmits_eq := same.trans conduct.retransmits_eq
        stance := said ▸ stance }
  cases purpose with
  | request => exact absurd rfl other
  | acceptance =>
      have waits : receiver.waitingPhase ≠ .completed := by
        unfold waitingPhase
        split <;> exact nofun
      exact goes_on { conduct.keeps with } rfl (.between (still_lasts trivial) rfl waits rfl)
  | repetition | rejection | confirmation =>
      exact goes_on { conduct.keeps with } rfl (.between (still_lasts trivial) rfl going rfl)
  | completion => exact goes_on { conduct.keeps with } rfl (.completing lasts rfl rfl rfl)
  | cancel cause => exact goes_on { conduct.keeps with } rfl (.canceled lasts rfl rfl)

theorem Conduct.begin (conduct : Conduct setup initial hearing purposes blocks receiver)
    (between : receiver.activity = .between) :
    Conduct setup initial hearing purposes blocks (receiver.beginStep now).1 := by
  cases conduct.stance with
  | between lasts said_eq going _ =>
      unfold beginStep
      split
      case h_1 =>
        exact
          { conduct with
            keeps := { conduct.keeps with }
            stance := .ready lasts said_eq going .request }
      case h_2 | h_3 =>
        exact
          { conduct with
            keeps := { conduct.keeps with }
            stance := .ready lasts said_eq going (.listening _) }
      case h_4 phase_eq => exact absurd phase_eq going
      case h_5 => exact conduct
  | completing lasts said_eq completes _ =>
      rw [beginStep, completes]
      exact
        { conduct with
          keeps := { conduct.keeps with }
          stance := .completed lasts said_eq completes rfl }
  | ready _ _ _ ready =>
      rw [between] at ready
      cases ready
  | draining _ _ _ doing | writing _ _ _ _ doing | completed _ _ _ doing | left _ _ _ doing
  | canceled _ _ doing =>
      cases between.symm.trans doing

/-- Every reaction to a line that works keeps the conduct of a receiver. -/
theorem Conduct.react (conduct : Conduct setup initial hearing purposes blocks receiver)
    (hears : Hears hearing receiver) {course : Course} (stands : At setup initial course receiver)
    {sign : Option Sign} (reacts : Reacts receiver now sign result)
    (works : ∀ shown, sign = some shown → ¬ shown.Fails) :
    ∃ more stored, Conduct setup initial (sign.toList.foldl (Hearing.note setup.mode) hearing)
      more stored result.1 := by
  cases reacts with
  | wake idle =>
      have ready : Ready receiver.activity := idle ▸ .idle
      obtain ⟨lasts, said_eq, going⟩ := conduct.stance.of_ready ready
      exact ⟨purposes, blocks,
        { conduct with
          keeps := { conduct.keeps with }
          stance := .between lasts said_eq going rfl }⟩
  | begin between => exact ⟨purposes, blocks, conduct.begin between⟩
  | hear value listens =>
      obtain ⟨more, heard⟩ := conduct.heard hears listens value
      exact ⟨more, blocks, heard⟩
  | expire listens => exact ⟨purposes, blocks, conduct.heardNothing hears listens⟩
  | collect value collects => exact conduct.collect hears collects value
  | starve collects =>
      have ready : Ready receiver.activity := collects ▸ .collecting _
      refine ⟨purposes, blocks, ?_⟩
      change Conduct setup initial hearing.lapse purposes blocks _
      rw [Hearing.lapse_frame (hears.attention_of collects)]
      exact conduct.idle ready _
  | drain value drains =>
      refine ⟨purposes, blocks, ?_⟩
      change Conduct setup initial (hearing.hear setup.mode value) purposes blocks _
      rw [Hearing.hear_drain (hears.attention_of drains)]
      exact conduct
  | reject drains =>
      obtain ⟨earlier, rfl, lasts, said_eq, going⟩ := conduct.stance.of_draining drains
      refine ⟨earlier ++ [.rejection], blocks, ?_⟩
      change Conduct setup initial hearing.lapse _ blocks _
      rw [Hearing.lapse_drain (hears.attention_of drains)]
      exact
        { conduct with
          keeps := { conduct.keeps with }
          stance := .writing lasts said_eq going nofun rfl }
  | «break» fault _ => exact absurd Sign.fails_broken (works _ rfl)
  | @write purpose writes =>
      refine ⟨purposes, blocks, ?_⟩
      rw [conduct.keeps.setup_eq]
      by_cases requests : purpose = .request
      · subst requests
        exact conduct.requested writes (hears.unopened (stands.calls_of_request writes))
      · have opened : hearing.openings ≠ [] := by
          refine hears.opened (fun calls => ?_) (by simp [writes])
          simpa [writes, requests] using stands.rests_of_calls calls
        exact conduct.replied writes requests opened
  | spoil fault _ => exact absurd (Sign.fails_spoiled _) (works _ rfl)

end Reactions

section Runs

variable {setup : Setup τ} {initial : Destination} {begun : τ}
  {moments : List (Moment (Receiver τ) τ)} {receiver : Receiver τ}

/-- A receiver that was run on a line that worked has behaved. -/
theorem conduct_of_converses (talks : Converses (start setup initial begun) moments receiver)
    (intact : Intact (transcript waits moments)) :
    ∃ purposes blocks, Conduct setup initial (hearing setup.mode (transcript waits moments))
      purposes blocks receiver := by
  induction talks with
  | silent =>
      refine ⟨[], [], .nothing, (at_start setup initial begun).keeps, rfl, nofun, ?_⟩
      exact .ready nofun rfl nofun .idle
  | @step moments moment talks valid induction =>
      obtain ⟨course, _, stands⟩ := exists_treads talks
      have hears := hears_of_converses talks
      rw [transcript_append, transcript_singleton] at intact ⊢
      have before : Intact (transcript waits moments) := fun sign member =>
        intact sign (List.mem_append_left _ member)
      have works (shown : Sign) (same : moment.sign? waits = some shown) : ¬ shown.Fails :=
        intact shown (by simp [same])
      obtain ⟨purposes, blocks, conduct⟩ := induction before
      rw [hearing, List.foldl_append]
      exact conduct.react hears stands (reacts_of_valid valid) works

section Moments

variable {hearing : Hearing} {purposes : List Writing} {blocks : List Block} {now : τ} {sign : Sign}
  {bytes : List UInt8} {result : Receiver τ × List (Event τ)}

theorem Conduct.speaks (conduct : Conduct setup initial hearing purposes blocks receiver)
    (hears : Hears hearing receiver) {course : Course} (stands : At setup initial course receiver)
    (opened : hearing.openings ≠ []) (reacts : Reacts receiver now (some (.wrote bytes)) result) :
    Says setup initial hearing receiver bytes := by
  cases reacts with
  | @write purpose writes =>
      have other : purpose ≠ .request := by
        rintro rfl
        exact opened (hears.unopened (stands.calls_of_request writes))
      obtain ⟨answered, rfl, _, said_eq, _⟩ := conduct.stance.of_writing writes other
      obtain ⟨earlier, message, before, messages_eq, replied, answers⟩ :=
        conduct.replies.exists_of_append
      rw [conduct.keeps.setup_eq]
      exact ⟨earlier, message, answered, purpose, before, blocks, messages_eq, replied, said_eq,
        answers, rfl, conduct.keeps.content_eq⟩

/-- Whatever a receiver meets that listens, it has answered before. -/
theorem Conduct.answered (conduct : Conduct setup initial hearing purposes blocks receiver)
    (hears : Hears hearing receiver) (reacts : Reacts receiver now (some sign) result)
    (unwritten : sign.written? = none) (attentive : hearing.attention ≠ .drain) :
    Answered setup initial hearing := by
  have owes_nothing (ready : Ready receiver.activity) : Answered setup initial hearing :=
    ⟨purposes, blocks, conduct.replies, (conduct.stance.of_ready ready).2.1⟩
  have undrained {deadline : τ} (drains : receiver.activity = .draining deadline) : False :=
    attentive (hears.attention_of drains)
  cases reacts with
  | hear _ listens | expire listens => exact owes_nothing (listens ▸ .listening _)
  | collect _ collects | starve collects => exact owes_nothing (collects ▸ .collecting _)
  | drain _ drains | reject drains => exact (undrained drains).elim
  | «break» _ doing =>
      obtain ⟨_, listens⟩ | ⟨_, collects⟩ | ⟨_, drains⟩ := doing
      · exact owes_nothing (listens ▸ .listening _)
      · exact owes_nothing (collects ▸ .collecting _)
      · exact (undrained drains).elim
  | write _ | spoil _ _ => exact absurd unwritten nofun

end Moments

theorem Stands.phase_ne_completed {signs : List Sign} (stands : Stands signs receiver)
    {failure : Failure} (failed : receiver.activity = .ended (.error failure)) :
    receiver.phase ≠ .completed := by
  cases stands with
  | aborted gave_up _ _ _ => simp [gave_up]
  | busy _ busy _ => exact absurd failed (busy.ne_ended _)
  | resting _ doing _ | canceling _ doing _ _ | completed _ doing _ _ _ =>
      cases failed.symm.trans doing

/-- What a receiver has written that is over. -/
theorem Conduct.concluded {signs : List Sign} {purposes : List Writing} {blocks : List Block}
    (conduct : Conduct setup initial (hearing setup.mode signs) purposes blocks receiver)
    (stands : Stands signs receiver) {outcome : Outcome}
    (finished : receiver.activity = .ended outcome) : Concluded setup initial signs receiver := by
  obtain ⟨replies, keeps, retransmits_eq, _, stance⟩ := conduct
  obtain ⟨length_eq, accepted_eq, confirmed_eq⟩ := replies.counts
  obtain ⟨acknowledged, refused⟩ := replies.count_spoken
  rw [← length_spoken setup.mode] at length_eq
  rw [accepted_eq, ← keeps.blocks_eq, ← retransmits_eq] at acknowledged
  rw [confirmed_eq, ← keeps.naks_eq] at refused
  cases stance with
  | @completed earlier _ lasts said_eq completes ended =>
      have unblamed : receiver.abortReason? = none := by
        rw [abortReason?, ended]
      have none_before := count_completion lasts
      have differs : [Signal.byte .cancel] ≠ [Writing.completion.byte setup.mode] := by
        change [Signal.byte .cancel] ≠ [Signal.byte .acknowledge]
        decide
      have silent : [Signal.byte .cancel] ∉ (hearing setup.mode signs).replies := by
        rw [said_eq, spoken_append_singleton, List.mem_append, List.mem_singleton, not_or]
        exact ⟨not_mem_spoken lasts, differs⟩
      rw [← said_eq] at length_eq acknowledged refused
      refine ⟨⟨_, blocks, replies, said_eq⟩, length_eq, ?_, refused, ?_, ?_,
        fun _ => replies.exists_confirmed⟩
      · rw [acknowledged, if_pos completes, List.count_append, none_before]
        rfl
      · simp [unblamed, silent]
      · intro front back same
        exact absurd (by simp [same]) silent
  | @left _ failure lasts said_eq innocent ended =>
      have incomplete := stands.phase_ne_completed ended
      have blamed : receiver.abortReason? = some failure.reason := by
        rw [abortReason?, ended]
      have silent : [Signal.byte .cancel] ∉ (hearing setup.mode signs).replies := by
        rw [said_eq]
        exact not_mem_spoken lasts
      have none_yet := count_completion lasts
      obtain ⟨order, size⟩ := innocent failure rfl
      rw [← said_eq] at length_eq acknowledged refused
      refine ⟨⟨_, blocks, replies, said_eq⟩, length_eq, ?_, refused, ?_, ?_,
        fun completes => absurd completes incomplete⟩
      · rw [acknowledged, if_neg incomplete, none_yet]
      · simp [blamed, silent, order, size]
      · intro front back same
        exact absurd (by simp [same]) silent
  | @canceled earlier cause count lasts said_eq ended =>
      have incomplete := stands.phase_ne_completed ended
      have blamed : receiver.abortReason? = some cause.reason := by
        rw [abortReason?, ended]
        rfl
      have none_before := count_completion lasts
      have spoke : (hearing setup.mode signs).replies =
          spoken setup.mode earlier ++ [[Signal.byte .cancel]] := by
        rw [said_eq, spoken_append_singleton]
        rfl
      rw [← said_eq] at length_eq acknowledged refused
      refine ⟨⟨_, blocks, replies, said_eq⟩, length_eq, ?_, refused, ?_, ?_,
        fun completes => absurd completes incomplete⟩
      · rw [acknowledged, if_neg incomplete, List.count_append, none_before]
        rfl
      · have reasons := replies.reason_of_cancel
        simp [spoke, blamed, reasons]
      · intro front back same
        rw [spoke] at same
        have fresh : [Signal.byte .cancel] ∉ spoken setup.mode earlier := not_mem_spoken lasts
        obtain ⟨_, _, rest_eq⟩ :=
          (List.append_cons_inj_of_notMem fresh List.not_mem_nil).mp same
        exact rest_eq.symm
  | ready _ _ _ ready =>
      rw [finished] at ready
      cases ready
  | between _ _ _ doing | draining _ _ _ doing | writing _ _ _ _ doing
  | completing _ _ _ doing =>
      cases finished.symm.trans doing

/-- Over a line that works, a receiver answers every message once, at once, and in order, and says
nothing else after its first packet. -/
theorem disciplined_of_converses (talks : Converses (start setup initial begun) moments receiver)
    (intact : Intact (transcript waits moments)) : Disciplined setup initial moments receiver := by
  obtain ⟨purposes, blocks, conduct⟩ := conduct_of_converses talks intact
  -- What was said up to a moment is itself a conversation over a line that works.
  have behaved (front back : List (Moment (Receiver τ) τ)) (moment : Moment (Receiver τ) τ)
      (same : moments = front ++ moment :: back) :
      ∃ purposes blocks, Conduct setup initial (hearing setup.mode (transcript waits front))
        purposes blocks moment.session := by
    obtain ⟨begins, _⟩ := talks.cut same
    rw [same, transcript_append] at intact
    exact conduct_of_converses begins fun sign member => intact sign (List.mem_append_left _ member)
  refine ⟨conduct.requests, ?_, ?_, ?_⟩
  · intro front moment back bytes same shown opened
    obtain ⟨_, _, before⟩ := behaved front back moment same
    obtain ⟨begins, valid, _⟩ := talks.cut same
    obtain ⟨_, _, stands⟩ := exists_treads begins
    exact before.speaks (hears_of_converses begins) stands opened (shown ▸ reacts_of_valid valid)
  · intro front moment back sign same shown unwritten attentive
    obtain ⟨_, _, before⟩ := behaved front back moment same
    obtain ⟨begins, valid, _⟩ := talks.cut same
    exact before.answered (hears_of_converses begins) (shown ▸ reacts_of_valid valid) unwritten
      attentive
  · intro outcome ended
    rw [outcome?_eq_some_iff] at ended
    obtain ⟨_, rfl⟩ | stands := stands_of_converses talks
    · exact absurd ended nofun
    · exact conduct.concluded stands ended

end Runs

/-- A damaged frame, the same frame without damage, the frame once more, and an end that has to be
repeated: every message has its answer. -/
theorem disciplined_of_damage_and_repetition :
    let setup : Setup Rat := ⟨.brief, .additive, none, true⟩
    ∃ moments receiver,
      Converses (start setup (.filled 3 0) 0) moments receiver ∧
      receiver.outcome? = some (.ok 3) ∧
      (hearing setup.mode (transcript waits moments)).replies =
        spoken setup.mode [.rejection, .acceptance, .repetition, .confirmation, .completion] ∧
      Intact (transcript waits moments) ∧ Disciplined setup (.filled 3 0) moments receiver := by
  intro setup
  let frame := Frame.encode .additive (Packets.block [1, 2, 3] 0)
  let damaged := frame.set 3 0
  let ends : ScriptItem Rat := .byte (Signal.byte .endOfTransmission)
  let line : ScriptedLine Rat :=
    ⟨damaged.map .byte ++ .silence :: (frame ++ frame).map .byte ++ [ends, ends], none, [], 0⟩
  let run := Run.mk (start setup (.filled 3 0) 0) line 0 []
  have completes : (run.talk 600).2.session.outcome? = some (.ok 3) := by
    decide +kernel
  have answers : (hearing setup.mode (transcript waits (run.talk 600).1)).replies =
      spoken setup.mode [.rejection, .acceptance, .repetition, .confirmation, .completion] := by
    decide +kernel
  have intact : Intact (transcript waits (run.talk 600).1) := by
    decide +kernel
  have talks := run.converses_talk 600
  exact ⟨_, _, talks, completes, answers, intact, disciplined_of_converses talks intact⟩

end Receiver
end Xmodem
