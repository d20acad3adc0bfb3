import Xmodem.Proofs.Waiting

/-!
# Agreement under loss

When every write of either end arrives whole or not at all, the receiver is never more than one
block ahead of the sender, and never behind it.  Acknowledgements carry no block number; that they
are understood rests on an invariant of both ends and of what is on its way between them.
-/

namespace Xmodem

/-- Whether an alteration delivers every write whole or not at all. -/
def Alteration.Loses (alteration : Alteration) : Prop :=
  ∀ write bytes, alteration write bytes = bytes ∨ alteration write bytes = []

/-- How many blocks a sender has advanced past. -/
def Sender.passed (sender : Sender Rat) : Nat :=
  (sender.cursor + (blockSize - 1)) / blockSize

namespace Scene

open Packets Destination

variable (setup : Receiver.Setup Rat) (initial : Destination) (source : List UInt8)
  (forth back : Alteration)

/-- The receiver is at most one block ahead. -/
structure Near (place count : Nat) : Prop where
  behind : place ≤ count
  ahead : count ≤ place + 1
  inside : count ≤ blockCount source

/-- What can be seen at every scheduling point. -/
structure Agreed (scene : Scene) : Prop where
  near : ∃ place count, scene.sender.cursor = min (blockSize * place) source.length ∧
    scene.receiver.metrics.blocks = count ∧ Near source place count
  orderly : ∀ failure, scene.receiver.outcome? = some (.error failure) →
    failure.reason ≠ .outOfSequence ∧ failure.reason ≠ .destinationExhausted
  confirmed : ∀ length, scene.sender.outcome? = some (.ok length) →
    scene.receiver.phase = .completed
  whole : scene.receiver.phase = .completed →
    scene.receiver.metrics.blocks = blockCount source ∧
      scene.receiver.destination.toList.take source.length = source

/-- The scenes that loss of whole writes can bring about. -/
inductive Possible : Scene → Prop
  /-- The receiver has not begun. -/
  | opening : Possible (opening setup initial source forth back)
  /-- Nothing is on its way. -/
  | quiet {place count sent answered : Nat} {sender : Sender Rat} {receiver : Receiver Rat}
      {now first second : Rat} :
      Waits setup source place first sender →
      Listens setup initial source count second receiver →
      Near source place count → now ≤ first → now ≤ second →
      Possible ⟨sender, receiver, ⟨forth, back, sent, answered, [], []⟩, now, .until first,
        .until second⟩
  /-- The receiver calls. -/
  | calling {place sent answered handshakes : Nat} {sender : Sender Rat} {metrics : Metrics Rat}
      {now first second : Rat} :
      Waits setup source place first sender → metrics.blocks = 0 →
      Near source place 0 → now < first → now ≤ second →
      Possible ⟨sender,
        .calling setup initial source handshakes metrics (.listening second),
        ⟨forth, back, sent, answered, [Receiver.Writing.request.byte setup.mode], []⟩, now,
        .until first, .until second⟩
  /-- A packet is on its way. -/
  | sending {place count sent answered attempts handshakes : Nat} {metrics : Metrics Rat}
      {receiver : Receiver Rat} {now first second : Rat} :
      Listens setup initial source count second receiver →
      Near source place count → now < first → now ≤ second →
      Possible ⟨.waiting setup.policy setup.mode source place attempts handshakes metrics first,
        receiver, ⟨forth, back, sent, answered, [], packet setup.mode source place⟩, now,
        .until first, .until second⟩
  /-- A refusal is on its way. -/
  | refusing {place count sent answered attempts handshakes : Nat} {metrics : Metrics Rat}
      {receiver : Receiver Rat} {now first second : Rat} :
      Listens setup initial source count second receiver →
      Near source place count → now ≤ second →
      Possible ⟨.waiting setup.policy setup.mode source place attempts handshakes metrics first,
        receiver, ⟨forth, back, sent, answered, [Signal.byte .negativeAcknowledge], []⟩, now,
        .until first, .until second⟩
  /-- An acknowledgement is on its way. -/
  | acknowledging {place sent answered attempts handshakes : Nat} {metrics : Metrics Rat}
      {receiver : Receiver Rat} {now first second : Rat} :
      Listens setup initial source (place + 1) second receiver →
      place < blockCount source → now ≤ second →
      Possible ⟨.waiting setup.policy setup.mode source place attempts handshakes metrics first,
        receiver, ⟨forth, back, sent, answered, [Signal.byte .acknowledge], []⟩, now,
        .until first, .until second⟩
  /-- The receiver has everything; its acknowledgement may have been lost. -/
  | finished {sent answered attempts handshakes calls : Nat} {metrics counters : Metrics Rat}
      {pending : Bool} {backward forward : List UInt8} {now first later : Rat} :
      counters.blocks = blockCount source →
      backward = [Signal.byte .acknowledge] ∨ backward = [] → now ≤ first →
      Possible ⟨.waiting setup.policy setup.mode source (blockCount source) attempts handshakes
          metrics first,
        .completed setup initial source (blockCount source) calls pending counters later,
        ⟨forth, back, sent, answered, backward, forward⟩, now, .until first, .ended⟩
  /-- The sender gave up; its cancellation may have been lost. -/
  | deserted {place count sent answered : Nat} {sender : Sender Rat} {receiver : Receiver Rat}
      {backward forward : List UInt8} {now second : Rat} :
      SenderQuits source place sender → Listens setup initial source count second receiver →
      Near source place count → forward = [Signal.byte .cancel] ∨ forward = [] → now ≤ second →
      Possible ⟨sender, receiver, ⟨forth, back, sent, answered, backward, forward⟩, now, .ended,
        .until second⟩
  /-- The receiver gave up. -/
  | unheard {place count sent answered : Nat} {sender : Sender Rat} {receiver : Receiver Rat}
      {forward : List UInt8} {now first : Rat} :
      Waits setup source place first sender → ReceiverQuits count receiver →
      Near source place count → now ≤ first →
      Possible ⟨sender, receiver, ⟨forth, back, sent, answered, [], forward⟩, now, .until first,
        .ended⟩
  /-- Both ends are over. -/
  | ended {scene : Scene} :
      scene.senderPause = .ended → scene.receiverPause = .ended → Agreed source scene →
      Possible scene

variable {setup initial source forth back} {place count sent answered : Nat}
  {sender : Sender Rat} {receiver : Receiver Rat} {backward forward : List UInt8}
  {now first second : Rat} {scene : Scene}

/-- As long as the receiver has not completed and the sender has not returned, only the distance
between them matters. -/
theorem agreed_of_unfinished (near : Near source place count)
    (cursor : scene.sender.cursor = min (blockSize * place) source.length)
    (blocks : scene.receiver.metrics.blocks = count)
    (open_receiver : scene.receiver.phase ≠ .completed)
    (open_sender : ∀ length, scene.sender.outcome? ≠ some (.ok length))
    (orderly : ∀ failure, scene.receiver.outcome? = some (.error failure) →
      failure.reason ≠ .outOfSequence ∧ failure.reason ≠ .destinationExhausted) :
    Agreed source scene where
  near := ⟨place, count, cursor, blocks, near⟩
  orderly := orderly
  confirmed length returned := absurd returned (open_sender length)
  whole complete := absurd complete open_receiver

theorem agreed_of_completed {calls : Nat} {pending : Bool} {counters : Metrics Rat} {later : Rat}
    (long : source.length ≤ initial.capacity)
    (cursor : scene.sender.cursor = min (blockSize * blockCount source) source.length)
    (receiver : scene.receiver =
      .completed setup initial source (blockCount source) calls pending counters later)
    (blocks : counters.blocks = blockCount source) :
    Agreed source scene where
  near := ⟨blockCount source, blockCount source, cursor, by rw [receiver]; exact blocks, le_rfl,
    by omega, le_rfl⟩
  orderly failure outcome := by
    rw [receiver] at outcome
    simp [Receiver.completed, Receiver.atBlocks, Receiver.outcome?] at outcome
  confirmed _ _ := by rw [receiver]; rfl
  whole _ := by
    rw [receiver]
    exact ⟨blocks, take_toList_holding long⟩

/-- Every possible scene shows the agreement of its ends. -/
theorem Possible.agreed (long : source.length ≤ initial.capacity)
    (possible : Possible setup initial source forth back scene) : Agreed source scene := by
  cases possible with
  | opening =>
      have near : Near source 0 0 := ⟨le_rfl, by omega, Nat.zero_le _⟩
      refine agreed_of_unfinished near ?_ rfl ?_ ?_ ?_
      all_goals simp [Scene.opening, Sender.greeting, Sender.start, Receiver.start, Sender.outcome?,
        Receiver.outcome?]
  | quiet waits listens near _ _ =>
      exact agreed_of_unfinished near waits.cursor_eq listens.blocks_eq listens.phase_ne
        (by simp [waits.outcome?_eq]) (by simp [listens.outcome?_eq])
  | calling waits blocks near _ _ =>
      exact agreed_of_unfinished near waits.cursor_eq blocks
        (by simp [Receiver.calling, Receiver.atBlocks]) (by simp [waits.outcome?_eq])
        (by simp [Receiver.calling, Receiver.atBlocks, Receiver.outcome?])
  | sending listens near _ _ =>
      exact agreed_of_unfinished near rfl listens.blocks_eq listens.phase_ne
        (by simp [Sender.waiting, Sender.atPlace, Sender.outcome?]) (by simp [listens.outcome?_eq])
  | refusing listens near _ =>
      exact agreed_of_unfinished near rfl listens.blocks_eq listens.phase_ne
        (by simp [Sender.waiting, Sender.atPlace, Sender.outcome?]) (by simp [listens.outcome?_eq])
  | acknowledging listens inside _ =>
      exact agreed_of_unfinished ⟨Nat.le_succ _, le_rfl, inside⟩ rfl listens.blocks_eq
        listens.phase_ne (by simp [Sender.waiting, Sender.atPlace, Sender.outcome?])
        (by simp [listens.outcome?_eq])
  | finished blocks _ _ => exact agreed_of_completed long rfl rfl blocks
  | deserted quits listens near _ _ =>
      exact agreed_of_unfinished near quits.cursor listens.blocks_eq listens.phase_ne
        quits.outcome?_ne (by simp [listens.outcome?_eq])
  | unheard waits quits near _ =>
      exact agreed_of_unfinished near waits.cursor_eq quits.blocks quits.phase_ne
        (by simp [waits.outcome?_eq]) quits.orderly
  | ended _ _ agreed => exact agreed

variable {write attempts handshakes idle : Nat} {pending : Bool} {metrics counters : Metrics Rat}

theorem possible_of_sent (loses : forth.Loses)
    (listens : Listens setup initial source count second receiver) (near : Near source place count)
    (late : now ≤ second) :
    Possible setup initial source forth back
      ⟨.waiting setup.policy setup.mode source place attempts handshakes metrics
          (now + setup.policy.byteTimeout), receiver,
        ⟨forth, back, sent, answered, [], forth write (packet setup.mode source place)⟩, now,
        .until (now + setup.policy.byteTimeout), .until second⟩ := by
  have early : now < now + setup.policy.byteTimeout := setup.policy.lt_add_byteTimeout _
  rcases loses write (packet setup.mode source place) with arrives | lost
  · rw [arrives]
    exact .sending listens near early late
  · rw [lost]
    exact .quiet .waiting listens near early.le late

theorem possible_of_refused (loses : back.Loses)
    (listens : Listens setup initial source count second receiver) (near : Near source place count)
    (early : now ≤ first) (late : now ≤ second) :
    Possible setup initial source forth back
      ⟨.waiting setup.policy setup.mode source place attempts handshakes metrics first, receiver,
        ⟨forth, back, sent, answered, back write [Signal.byte .negativeAcknowledge], []⟩, now,
        .until first, .until second⟩ := by
  rcases loses write [Signal.byte .negativeAcknowledge] with arrives | lost
  · rw [arrives]
    exact .refusing listens near late
  · rw [lost]
    exact .quiet .waiting listens near early late

theorem possible_of_acknowledged (loses : back.Loses)
    (listens : Listens setup initial source (place + 1) second receiver)
    (inside : place < blockCount source) (early : now ≤ first) (late : now ≤ second) :
    Possible setup initial source forth back
      ⟨.waiting setup.policy setup.mode source place attempts handshakes metrics first, receiver,
        ⟨forth, back, sent, answered, back write [Signal.byte .acknowledge], []⟩, now,
        .until first, .until second⟩ := by
  rcases loses write [Signal.byte .acknowledge] with arrives | lost
  · rw [arrives]
    exact .acknowledging listens inside late
  · rw [lost]
    exact .quiet .waiting listens ⟨Nat.le_succ _, le_rfl, inside⟩ early late

theorem possible_of_called (loses : back.Loses) (waits : Waits setup source place first sender)
    (blocks : metrics.blocks = 0) (near : Near source place 0) (early : now < first) :
    Possible setup initial source forth back
      ⟨sender,
        .calling setup initial source handshakes metrics
          (.listening (now + setup.policy.handshakeTimeout)),
        ⟨forth, back, sent, answered, back write [Receiver.Writing.request.byte setup.mode], []⟩,
        now, .until first, .until (now + setup.policy.handshakeTimeout)⟩ := by
  have late : now ≤ now + setup.policy.handshakeTimeout :=
    (setup.policy.lt_add_handshakeTimeout _).le
  rcases loses write [Receiver.Writing.request.byte setup.mode] with arrives | lost
  · rw [arrives]
    exact .calling waits blocks near early late
  · rw [lost]
    exact .quiet waits (.calling blocks) near early.le late

/-- Whether a scene leads to a possible one. -/
def Continues (setup : Receiver.Setup Rat) (initial : Destination) (source : List UInt8)
    (forth back : Alteration) (scene : Scene) : Prop :=
  ∃ after, Possible setup initial source forth back after ∧ scene.Leads after

theorem continues_opening (loses : back.Loses) :
    Continues setup initial source forth back (opening setup initial source forth back) :=
  ⟨_, possible_of_called loses .greeting rfl ⟨le_rfl, by omega, Nat.zero_le _⟩
    (setup.policy.lt_add_handshakeTimeout _), opening_leads⟩

/-- What becomes of a scene in which a packet arrives. -/
inductive Answered (setup : Receiver.Setup Rat) (initial : Destination) (source : List UInt8)
    (forth back : Alteration) (sender : Sender Rat) (place sent answered : Nat) (now first : Rat) :
    Scene → Prop
  /-- A block is acknowledged, whether it is new or not. -/
  | acknowledged {receiver : Receiver Rat} :
      place < blockCount source →
      Listens setup initial source (place + 1) (now + setup.policy.handshakeTimeout) receiver →
      Answered setup initial source forth back sender place sent answered now first
        ⟨sender, receiver,
          ⟨forth, back, sent, answered + 1, back answered [Signal.byte .acknowledge], []⟩, now,
          .until first, .until (now + setup.policy.handshakeTimeout)⟩
  /-- The end of transmission is to be confirmed. -/
  | refused {receiver : Receiver Rat} :
      place = blockCount source →
      Listens setup initial source place (now + setup.policy.handshakeTimeout) receiver →
      Answered setup initial source forth back sender place sent answered now first
        ⟨sender, receiver,
          ⟨forth, back, sent, answered + 1, back answered [Signal.byte .negativeAcknowledge], []⟩,
          now, .until first, .until (now + setup.policy.handshakeTimeout)⟩
  /-- The end of transmission is acknowledged. -/
  | completed {calls : Nat} {pending : Bool} {counters : Metrics Rat} :
      place = blockCount source → counters.blocks = blockCount source →
      Answered setup initial source forth back sender place sent answered now first
        ⟨sender, .completed setup initial source (blockCount source) calls pending counters now,
          ⟨forth, back, sent, answered + 1, back answered [Signal.byte .acknowledge], []⟩, now,
          .until first, .ended⟩

theorem leads_of_packet (long : source.length ≤ initial.capacity)
    (listens : Listens setup initial source count second receiver) (near : Near source place count)
    (early : now < first) :
    ∃ after,
      Leads
        ⟨.waiting setup.policy setup.mode source place attempts handshakes metrics first, receiver,
          ⟨forth, back, sent, answered, [], packet setup.mode source place⟩, now, .until first,
          .until second⟩ after ∧
      Answered setup initial source forth back
        (.waiting setup.policy setup.mode source place attempts handshakes metrics first) place sent
        answered now first after := by
  obtain ⟨behind, ahead, count_le⟩ := near
  rcases Nat.lt_or_ge place (blockCount source) with inside | outside
  · rcases Nat.lt_or_ge place count with stored | missing
    · obtain rfl : count = place + 1 := by omega
      cases listens with
      | @standing _ _ _ _ counters _ blocks =>
          have same : counters.repeated.blocks = place + 1 := blocks
          exact ⟨_, leads_of_repetition inside early, .acknowledged inside (.standing same)⟩
    · obtain rfl : count = place := by omega
      obtain ⟨_, _, _, counters, _, opened, blocks, rfl⟩ := listens.eq_atBlocks
      have more : counters.stored.blocks = count + 1 := congrArg (· + 1) blocks
      exact ⟨_, leads_of_block opened inside (fits_of_length_le inside long) early,
        .acknowledged inside (.standing more)⟩
  · obtain rfl : place = blockCount source := by omega
    obtain rfl : count = blockCount source := by omega
    obtain ⟨_, _, pending, counters, _, opened, blocks, rfl⟩ := listens.eq_atBlocks
    rw [packet_blockCount]
    by_cases asks : setup.confirmEot = true ∧ pending = false
    · obtain ⟨asks, rfl⟩ := asks
      exact ⟨_, leads_of_first_end opened asks early, .refused rfl (.standing blocks)⟩
    · have settled : setup.confirmEot = true → pending = true := by
        intro confirm
        simpa [confirm] using asks
      exact ⟨_, leads_of_end opened settled early, .completed rfl blocks⟩

/-- A packet is on its way: the receiver stores it, repeats its answer, or is at the end. -/
theorem continues_sending (long : source.length ≤ initial.capacity) (loses : back.Loses)
    (listens : Listens setup initial source count second receiver) (near : Near source place count)
    (early : now < first) :
    Continues setup initial source forth back
      ⟨.waiting setup.policy setup.mode source place attempts handshakes metrics first, receiver,
        ⟨forth, back, sent, answered, [], packet setup.mode source place⟩, now, .until first,
        .until second⟩ := by
  have late : now ≤ now + setup.policy.handshakeTimeout :=
    (setup.policy.lt_add_handshakeTimeout _).le
  obtain ⟨after, leads, reply⟩ := leads_of_packet long listens near early
  refine ⟨after, ?_, leads⟩
  cases reply with
  | acknowledged inside listens =>
      exact possible_of_acknowledged loses listens inside early.le late
  | refused place_eq listens =>
      subst place_eq
      exact possible_of_refused loses listens ⟨le_rfl, by omega, le_rfl⟩ early.le late
  | completed place_eq blocks =>
      subst place_eq
      exact .finished blocks (loses answered [Signal.byte .acknowledge]) early.le

/-- A refusal is on its way: the packet is sent again, or the sender gives up. -/
theorem continues_refusing (loses : forth.Loses)
    (listens : Listens setup initial source count second receiver) (near : Near source place count)
    (late : now ≤ second) :
    Continues setup initial source forth back
      ⟨.waiting setup.policy setup.mode source place attempts handshakes metrics first, receiver,
        ⟨forth, back, sent, answered, [Signal.byte .negativeAcknowledge], []⟩, now, .until first,
        .until second⟩ := by
  rcases Nat.lt_or_ge attempts setup.policy.maxRetries with few | many
  · exact ⟨_, possible_of_sent loses listens near late, leads_of_refusal few⟩
  · obtain ⟨cause, leads⟩ := leads_of_last_refusal many
    exact ⟨_, .deserted ⟨rfl, _, rfl⟩ listens near (loses sent [Signal.byte .cancel]) late, leads⟩

/-- A call is on its way: it begins the transfer, is read as a refusal, or is noise. -/
theorem continues_calling (loses : forth.Loses) (waits : Waits setup source place first sender)
    (blocks : counters.blocks = 0) (near : Near source place 0) (early : now < first)
    (late : now ≤ second) :
    Continues setup initial source forth back
      ⟨sender, .calling setup initial source handshakes counters (.listening second),
        ⟨forth, back, sent, answered, [Receiver.Writing.request.byte setup.mode], []⟩, now,
        .until first, .until second⟩ := by
  cases waits with
  | greeting => exact ⟨_, possible_of_sent loses (.calling blocks) near late, leads_of_call⟩
  | waiting =>
      rcases Sender.request_refuses_or_noise setup.mode with refusal | noise
      · rw [refusal]
        exact continues_refusing loses (.calling blocks) near late
      · exact ⟨_, .quiet .waiting (.calling blocks) near early.le late, leads_of_noise noise early⟩

theorem continues_acknowledging (loses : forth.Loses)
    (listens : Listens setup initial source (place + 1) second receiver)
    (inside : place < blockCount source) (late : now ≤ second) :
    Continues setup initial source forth back
      ⟨.waiting setup.policy setup.mode source place attempts handshakes metrics first, receiver,
        ⟨forth, back, sent, answered, [Signal.byte .acknowledge], []⟩, now, .until first,
        .until second⟩ :=
  ⟨_, possible_of_sent loses listens ⟨le_rfl, by omega, inside⟩ late, leads_of_acknowledge inside⟩

theorem continues_silent_sender (loses : forth.Loses) (waits : Waits setup source place now sender)
    (listens : Listens setup initial source count second receiver) (near : Near source place count)
    (late : now ≤ second) :
    Continues setup initial source forth back
      ⟨sender, receiver, ⟨forth, back, sent, answered, [], []⟩, now, .until now,
        .until second⟩ := by
  obtain ⟨later, after, pause, turn, silenced⟩ :=
    waits.silenced now ⟨forth, back, sent, answered, [], []⟩ rfl
  have leads : Leads ⟨sender, receiver, ⟨forth, back, sent, answered, [], []⟩, now, .until now,
      .until second⟩ _ := leads_of_sender_silence rfl rfl le_rfl turn
  cases silenced with
  | greets later_eq _ =>
      subst later_eq
      exact ⟨_, .quiet .greeting listens near (setup.policy.lt_add_handshakeTimeout _).le late,
        leads⟩
  | repeats later_eq _ =>
      subst later_eq
      exact ⟨_, possible_of_sent loses listens near late, leads⟩
  | quits quits cancels =>
      rcases cancels with rfl | rfl
      · exact ⟨_, .deserted quits listens near (.inr rfl) late, leads⟩
      · exact ⟨_, .deserted quits listens near (loses sent [Signal.byte .cancel]) late, leads⟩

theorem continues_silent_receiver (loses : back.Loses)
    (waits : Waits setup source place first sender)
    (listens : Listens setup initial source count now receiver) (near : Near source place count)
    (early : now < first) :
    Continues setup initial source forth back
      ⟨sender, receiver, ⟨forth, back, sent, answered, [], []⟩, now, .until first,
        .until now⟩ := by
  have rests : SenderRests ⟨sender, receiver, ⟨forth, back, sent, answered, [], []⟩, now,
      .until first, .until now⟩ := ⟨rfl, early⟩
  obtain ⟨later, after, pause, turn, silenced⟩ :=
    listens.silenced now ⟨forth, back, sent, answered, [], []⟩ rfl
  have leads : Leads ⟨sender, receiver, ⟨forth, back, sent, answered, [], []⟩, now, .until first,
      .until now⟩ _ := leads_of_receiver_silence rests rfl rfl le_rfl turn
  cases silenced with
  | calls later_eq blocks _ =>
      subst later_eq
      exact ⟨_, possible_of_called loses waits blocks near early, leads⟩
  | waits listens _ =>
      exact ⟨_, .quiet waits listens near early.le (setup.policy.lt_add_handshakeTimeout _).le,
        leads⟩
  | quits quits => exact ⟨_, .unheard waits quits near early.le, leads⟩

/-- Nothing is on its way: the earliest deadline decides who goes on, the sender before the
receiver. -/
theorem continues_quiet (forthLoses : forth.Loses) (backLoses : back.Loses)
    (waits : Waits setup source place first sender)
    (listens : Listens setup initial source count second receiver) (near : Near source place count)
    (early : now ≤ first) (late : now ≤ second) :
    Continues setup initial source forth back
      ⟨sender, receiver, ⟨forth, back, sent, answered, [], []⟩, now, .until first,
        .until second⟩ := by
  -- The clock has reached a deadline, or it goes on to the earlier one.
  rcases early.eq_or_lt with rfl | before_first
  · exact continues_silent_sender forthLoses waits listens near late
  · rcases late.eq_or_lt with rfl | before_second
    · exact continues_silent_receiver backLoses waits listens near before_first
    · refine ⟨_, .quiet waits listens near (Quantity.least_le_left first second)
        (Quantity.least_le_right first second), leads_of_clock ?_ ?_ rfl⟩
      · exact ⟨rfl, before_first⟩
      · exact ⟨rfl, before_second⟩

/-- The receiver has completed: the sender hears so, or sends in vain until it gives up. -/
theorem continues_finished {calls : Nat} {later : Rat} (long : source.length ≤ initial.capacity)
    (blocks : counters.blocks = blockCount source)
    (answer : backward = [Signal.byte .acknowledge] ∨ backward = []) (early : now ≤ first) :
    Continues setup initial source forth back
      ⟨.waiting setup.policy setup.mode source (blockCount source) attempts handshakes metrics
          first,
        .completed setup initial source (blockCount source) calls pending counters later,
        ⟨forth, back, sent, answered, backward, forward⟩, now, .until first, .ended⟩ := by
  rcases answer with rfl | rfl
  · exact ⟨_, .ended rfl rfl (agreed_of_completed long rfl rfl blocks), leads_of_last_acknowledge⟩
  · rcases early.eq_or_lt with rfl | before
    · have again : now ≤ now + setup.policy.byteTimeout := (setup.policy.lt_add_byteTimeout _).le
      rcases Nat.lt_or_ge attempts setup.policy.maxRetries with few | many
      · exact ⟨_, .finished blocks (.inr rfl) again,
          leads_of_sender_silence rfl rfl le_rfl (Sender.turn_retry .timeout few rfl)⟩
      · obtain ⟨cause, turn⟩ := Sender.turn_giveUp .timeout many
        exact ⟨_, .ended rfl rfl (agreed_of_completed long rfl rfl blocks),
          leads_of_sender_silence rfl rfl le_rfl turn⟩
    · refine ⟨_, .finished blocks (.inr rfl) (le_refl first), leads_of_clock ?_ trivial rfl⟩
      exact ⟨rfl, before⟩

/-- When both ends gave up, they are still near each other. -/
theorem possible_of_quits (quits : SenderQuits source place scene.sender)
    (gone : ReceiverQuits count scene.receiver) (near : Near source place count)
    (first : scene.senderPause = .ended) (last : scene.receiverPause = .ended) :
    Possible setup initial source forth back scene :=
  .ended first last (agreed_of_unfinished near quits.cursor gone.blocks gone.phase_ne
    quits.outcome?_ne gone.orderly)

theorem continues_deserted (quits : SenderQuits source place sender)
    (listens : Listens setup initial source count second receiver) (near : Near source place count)
    (cancellation : forward = [Signal.byte .cancel] ∨ forward = []) (late : now ≤ second) :
    Continues setup initial source forth back
      ⟨sender, receiver, ⟨forth, back, sent, answered, backward, forward⟩, now, .ended,
        .until second⟩ := by
  have rests : SenderRests ⟨sender, receiver, ⟨forth, back, sent, answered, backward, forward⟩,
      now, .ended, .until second⟩ := by simp [SenderRests]
  rcases cancellation with rfl | rfl
  · obtain ⟨handshakes, idle, pending, counters, _, opened, blocks, rfl⟩ := listens.eq_atBlocks
    refine ⟨_, possible_of_quits quits ?_ near rfl rfl,
      leads_of_receiver_cancellation⟩
    exact ⟨blocks, rfl, _, rfl, by simp [Failure.reason, Receiver.reason_cancellation]⟩
  · rcases late.eq_or_lt with rfl | before
    · obtain ⟨later, after, pause, turn, silenced⟩ :=
        listens.silenced now ⟨forth, back, sent, answered, backward, []⟩ rfl
      have leads : Leads ⟨sender, receiver, ⟨forth, back, sent, answered, backward, []⟩, now,
          .ended, .until now⟩ _ := leads_of_receiver_silence rests rfl rfl le_rfl turn
      have again : now ≤ now + setup.policy.handshakeTimeout :=
        (setup.policy.lt_add_handshakeTimeout _).le
      cases silenced with
      | calls later_eq blocks _ =>
          subst later_eq
          exact ⟨_, .deserted quits (.calling blocks) near (.inr rfl) again, leads⟩
      | waits listens _ => exact ⟨_, .deserted quits listens near (.inr rfl) again, leads⟩
      | quits gone => exact ⟨_, possible_of_quits quits gone near rfl rfl, leads⟩
    · exact ⟨_, .deserted quits listens near (.inr rfl) (le_refl second),
        leads_of_clock rests ⟨rfl, before⟩ rfl⟩

theorem continues_unheard (waits : Waits setup source place first sender)
    (quits : ReceiverQuits count receiver) (near : Near source place count) (early : now ≤ first) :
    Continues setup initial source forth back
      ⟨sender, receiver, ⟨forth, back, sent, answered, [], forward⟩, now, .until first,
        .ended⟩ := by
  rcases early.eq_or_lt with rfl | before
  · obtain ⟨later, after, pause, turn, silenced⟩ :=
      waits.silenced now ⟨forth, back, sent, answered, [], forward⟩ rfl
    have leads : Leads ⟨sender, receiver, ⟨forth, back, sent, answered, [], forward⟩, now,
        .until now, .ended⟩ _ := leads_of_sender_silence rfl rfl le_rfl turn
    cases silenced with
    | greets later_eq _ =>
        subst later_eq
        exact ⟨_, .unheard .greeting quits near (setup.policy.lt_add_handshakeTimeout _).le, leads⟩
    | repeats later_eq _ =>
        subst later_eq
        exact ⟨_, .unheard .waiting quits near (setup.policy.lt_add_byteTimeout _).le, leads⟩
    | quits gone _ => exact ⟨_, possible_of_quits gone quits near rfl rfl, leads⟩
  · refine ⟨_, .unheard waits quits near (le_refl first), leads_of_clock ?_ trivial rfl⟩
    exact ⟨rfl, before⟩

theorem Possible.continues (long : source.length ≤ initial.capacity) (forthLoses : forth.Loses)
    (backLoses : back.Loses) (possible : Possible setup initial source forth back scene) :
    Continues setup initial source forth back scene ∨
      scene.senderPause = .ended ∧ scene.receiverPause = .ended := by
  cases possible with
  | opening => exact .inl (continues_opening backLoses)
  | quiet waits listens near early late =>
      exact .inl (continues_quiet forthLoses backLoses waits listens near early late)
  | calling waits blocks near early late =>
      exact .inl (continues_calling forthLoses waits blocks near early late)
  | sending listens near early _ =>
      exact .inl (continues_sending long backLoses listens near early)
  | refusing listens near late => exact .inl (continues_refusing forthLoses listens near late)
  | acknowledging listens inside late =>
      exact .inl (continues_acknowledging forthLoses listens inside late)
  | finished blocks answer early => exact .inl (continues_finished long blocks answer early)
  | deserted quits listens near cancellation late =>
      exact .inl (continues_deserted quits listens near cancellation late)
  | unheard waits quits near early => exact .inl (continues_unheard waits quits near early)
  | ended first last _ => exact .inr ⟨first, last⟩

end Scene

open Packets

theorem Sender.passed_eq {sender : Sender Rat} {source : List UInt8} {place : Nat}
    (cursor : sender.cursor = min (blockSize * place) source.length)
    (inside : place ≤ blockCount source) : sender.passed = place := by
  simp only [passed, cursor, blockCount, blockSize] at inside ⊢
  omega

/-- At every scheduling point of a transfer that loses any writes, the receiver holds as many blocks
as the sender has advanced past, or one more; it never gives up for the order of the blocks or for
lack of room; the sender only returns when the receiver has completed; and then the receiver holds
the whole source.  -/
theorem agreement_under_loss {policy : RetryPolicy Rat} {mode : ChecksumMode}
    {expected : Option Int} {confirm : Bool} {initial : Destination} {receiver : Receiver Rat}
    {source : List UInt8} {forth back : Alteration} {moves : Nat} {pair : Pair Rat}
    (opens : Receiver.open? policy mode expected confirm initial 0 = .ok receiver)
    (long : source.length ≤ initial.capacity) (forthLoses : forth.Loses) (backLoses : back.Loses)
    (ran : (Pair.start (.start policy source 0) receiver
      ⟨.fresh .none forth, .fresh .none back⟩ none).run moves = some pair)
    (rests : pair.turn = none) :
    (pair.sender.passed ≤ pair.receiver.metrics.blocks ∧
      pair.receiver.metrics.blocks ≤ pair.sender.passed + 1) ∧
    (∀ failure, pair.receiver.outcome? = some (.error failure) →
      failure.reason ≠ .outOfSequence ∧ failure.reason ≠ .destinationExhausted) ∧
    (∀ length, pair.sender.outcome? = some (.ok length) → pair.receiver.phase = .completed) ∧
    (pair.receiver.phase = .completed →
      pair.receiver.metrics.blocks = blockCount source ∧
        pair.receiver.destination.toList.take source.length = source) := by
  obtain rfl := Receiver.eq_start_of_open? opens
  let setup : Receiver.Setup Rat := ⟨policy, mode, expected.map Int.toNat, confirm⟩
  have step : ∀ scene, Scene.Possible setup initial source forth back scene → _ :=
    fun scene possible => possible.continues long forthLoses backLoses
  obtain ⟨scene, possible, shows⟩ := Scene.holds_of_start_run step .opening ran rests
  obtain ⟨⟨place, count, cursor, blocks, near⟩, orderly, confirmed, whole⟩ := possible.agreed long
  rw [← shows.sender] at cursor confirmed
  rw [← shows.receiver] at blocks orderly confirmed whole
  have passed := Sender.passed_eq cursor (near.behind.trans near.inside)
  refine ⟨⟨?_, ?_⟩, orderly, confirmed, whole⟩
  · rw [passed, blocks]
    exact near.behind
  · rw [passed, blocks]
    exact near.ahead

/-- The two ends agree once a packet that was lost is on its way again. -/
theorem agreement_after_lost_packet :
    let lost : Alteration := fun write bytes => if write = 0 then [] else bytes
    ∃ (receiver : Receiver Rat) (pair : Pair Rat),
      Receiver.open? .brief .crc16 (some 3) true (.filled 3 0) 0 = .ok receiver ∧
      (Pair.start (.start .brief [1, 2, 3] 0) receiver
        ⟨.fresh .none lost, .fresh .none .none⟩ none).run 17 = some pair ∧
      pair.turn = none ∧ lost.Loses ∧
      pair.sender.passed ≤ pair.receiver.metrics.blocks ∧
        pair.receiver.metrics.blocks ≤ pair.sender.passed + 1 := by
  intro lost
  let receiver : Receiver Rat := .start ⟨.brief, .crc16, some 3, true⟩ (.filled 3 0) 0
  have opens : Receiver.open? .brief .crc16 (some 3) true (.filled 3 0) 0 = .ok receiver := rfl
  have loses : lost.Loses := by
    intro write bytes
    by_cases first : write = 0
    · exact .inr (if_pos first)
    · exact .inl (if_neg first)
  have none_loses : Alteration.none.Loses := fun _ _ => .inl rfl
  let link : Link Rat := ⟨.fresh .none lost, .fresh .none .none⟩
  have runs : ((Pair.start (.start .brief [1, 2, 3] 0) receiver link none).run 17).any
      (·.turn.isNone) = true := by
    decide +kernel
  obtain ⟨pair, ran, idle⟩ := (Option.any_eq_true ..).mp runs
  have rests : pair.turn = none := Option.isNone_iff_eq_none.mp idle
  exact ⟨receiver, pair, opens, ran, rests, loses,
    (agreement_under_loss opens (by decide) loses none_loses ran rests).1⟩

end Xmodem
