import Mathlib.Algebra.BigOperators.Group.List.Basic
import Mathlib.Algebra.Order.Ring.Rat
import Xmodem.Proofs.Agreement
import Xmodem.Proofs.Fates

/-!
# The retry budget

Each packet may fail as often as the policy allows retries, in any way and in any order, and the
transfer still succeeds.  The sender's timeout and the receiver's wait for a quiet line end before
the receiver runs out of patience.
-/

namespace Xmodem

/-- How long a receiver has to wait for a packet that was sent again some number of times: for as
long as all further retries take.  -/
def RetryPolicy.Patient (policy : RetryPolicy Rat) (attempts : Nat) (now deadline : Rat) : Prop :=
  now + ((policy.maxRetries : Rat) - attempts) * policy.byteTimeout ≤ deadline

namespace RetryPolicy

variable {policy : RetryPolicy Rat} {attempts : Nat} {now deadline later : Rat}

theorem Patient.mono (patient : policy.Patient attempts now deadline) (longer : deadline ≤ later) :
    policy.Patient attempts now later :=
  le_trans patient longer

theorem Patient.next (patient : policy.Patient attempts now deadline) :
    policy.Patient (attempts + 1) (now + policy.byteTimeout) deadline := by
  unfold Patient at patient ⊢
  push_cast
  linarith

/-- While retries are left, the sender's timeout comes first. -/
theorem Patient.early (patient : policy.Patient attempts now deadline)
    (few : attempts < policy.maxRetries) : now + policy.byteTimeout ≤ deadline := by
  have more : (1 : Rat) ≤ (policy.maxRetries : Rat) - attempts := by
    have counted : (attempts : Rat) + 1 ≤ policy.maxRetries := by exact_mod_cast few
    linarith
  have wait : 1 * policy.byteTimeout ≤
      ((policy.maxRetries : Rat) - attempts) * policy.byteTimeout :=
    mul_le_mul_of_nonneg_right more policy.byteTimeout_pos.le
  unfold Patient at patient
  linarith

theorem patient_of_fresh
    (patience : policy.maxRetries * policy.byteTimeout ≤ policy.handshakeTimeout)
    (attempts : Nat) (now : Rat) :
    policy.Patient attempts now (now + policy.handshakeTimeout) := by
  have spent : 0 ≤ (attempts : Rat) * policy.byteTimeout :=
    mul_nonneg (Nat.cast_nonneg attempts) policy.byteTimeout_pos.le
  unfold Patient
  rw [sub_mul]
  linarith

end RetryPolicy

/-- A transfer that succeeded in spite of some failures. -/
structure Recovered (source : List UInt8) (failures : Nat)
    (final : Pair Rat) : Prop where
  sent : final.sender.outcome? = some (.ok source.length)
  received : ∃ length, final.receiver.outcome? = some (.ok length)
  content : final.receiver.destination.toList.take source.length = source
  retransmits : final.sender.metrics.retransmits = failures

namespace Scene

open Packets Destination

variable (setup : Receiver.Setup Rat) (initial : Destination) (source : List UInt8)
  (script : List Fate)

/-- The packet at some place was just written, for the first time or again. -/
def written (place attempts count sent answered : Nat) (metrics counters : Metrics Rat)
    (phase : ReceivePhase) (now deadline : Rat) : Scene :=
  ⟨.waiting setup.policy setup.mode source place attempts 0 metrics
      (now + setup.policy.byteTimeout),
    .atBlocks setup initial source count 0 0 false counters phase (.listening deadline),
    ⟨Fate.forth script, Fate.back script, sent + 1, answered, [],
      Fate.forth script sent (packet setup.mode source place)⟩, now,
    .until (now + setup.policy.byteTimeout), .until deadline⟩

/-- A receiver that has acknowledged a packet or waits for it. -/
def Ready (place count : Nat) (phase : ReceivePhase) : Prop :=
  (count = place ∧
      (phase = .awaitingStart ∨ phase = Receiver.phaseAt initial.capacity count)) ∨
    (count = place + 1 ∧ place < blockCount source ∧
      phase = Receiver.phaseAt initial.capacity count)

/-- A packet was just written, after some failures of it and of the packets before. -/
inductive Attempt (place attempts sent answered failures : Nat) : Scene → Prop
  | intro {count : Nat} {metrics counters : Metrics Rat} {phase : ReceivePhase}
      {now deadline : Rat} :
      Ready initial source place count phase → setup.policy.Patient attempts now deadline →
      metrics.retransmits = failures →
      Attempt place attempts sent answered failures
        (written setup initial source script place attempts count sent answered metrics counters
          phase now deadline)

variable {setup initial source script} {place attempts count sent answered failures : Nat}
  {metrics counters : Metrics Rat} {phase : ReceivePhase} {now deadline : Rat}
  {rest : List Fate} {scene : Scene}

theorem Ready.opened (ready : Ready initial source place count phase) :
    phase = .awaitingStart ∨ phase = Receiver.phaseAt initial.capacity count := by
  rcases ready with ⟨_, opened⟩ | ⟨_, _, phase_eq⟩
  · exact opened
  · exact .inr phase_eq

theorem Ready.standing (ready : Ready initial source place count phase) :
    Ready initial source place count (Receiver.phaseAt initial.capacity count) := by
  rcases ready with ⟨count_eq, _⟩ | ⟨count_eq, inside, _⟩
  · exact .inl ⟨count_eq, .inr rfl⟩
  · exact .inr ⟨count_eq, inside, rfl⟩

theorem written_lost (leaves : Fate.Leaves script sent answered (.lost :: rest))
    (few : attempts < setup.policy.maxRetries)
    (patient : setup.policy.Patient attempts now deadline) :
    (written setup initial source script place attempts count sent answered metrics counters phase
      now deadline).Reaches
      (written setup initial source script place (attempts + 1) count (sent + 1) answered
        (metrics.fail .timeout).repeated counters phase (now + setup.policy.byteTimeout)
        deadline) := by
  have lost : Fate.forth script sent (packet setup.mode source place) = [] := leaves.forth_eq _
  have early : now ≤ now + setup.policy.byteTimeout := (setup.policy.lt_add_byteTimeout _).le
  rw [written, lost]
  exact reaches_of_sender_timeout rfl rfl early (.inr ⟨deadline, rfl, patient.early few, rfl⟩)
    (Sender.turn_retry .timeout few rfl)

/-- The counters of a receiver after a block that it may have stored before. -/
def counted (place count : Nat) (counters : Metrics Rat) : Metrics Rat :=
  if count = place then counters.stored else counters.repeated

/-- A block that arrives is acknowledged, whether it is the next one or the last one again. -/
theorem written_acknowledged (long : source.length ≤ initial.capacity)
    (inside : place < blockCount source) (ready : Ready initial source place count phase)
    (arrives : Fate.forth script sent (packet setup.mode source place) =
      packet setup.mode source place) :
    (written setup initial source script place attempts count sent answered metrics counters phase
      now deadline).Leads
      ⟨.waiting setup.policy setup.mode source place attempts 0 metrics
          (now + setup.policy.byteTimeout),
        .standing setup initial source (place + 1) 0 0 false (counted place count counters)
          (.listening (now + setup.policy.handshakeTimeout)),
        ⟨Fate.forth script, Fate.back script, sent + 1, answered + 1,
          Fate.back script answered [Signal.byte .acknowledge], []⟩, now,
        .until (now + setup.policy.byteTimeout), .until (now + setup.policy.handshakeTimeout)⟩ := by
  have early : now < now + setup.policy.byteTimeout := setup.policy.lt_add_byteTimeout _
  rw [written, arrives]
  rcases ready with ⟨rfl, opened⟩ | ⟨rfl, _, rfl⟩
  · rw [counted, if_pos rfl]
    exact leads_of_block opened inside (fits_of_length_le inside long) early
  · rw [counted, if_neg (Nat.succ_ne_self _)]
    exact leads_of_repetition inside early

theorem written_unanswered (long : source.length ≤ initial.capacity)
    (leaves : Fate.Leaves script sent answered (.unanswered :: rest))
    (inside : place < blockCount source) (few : attempts < setup.policy.maxRetries)
    (patient : setup.policy.Patient attempts now (now + setup.policy.handshakeTimeout))
    (ready : Ready initial source place count phase) :
    (written setup initial source script place attempts count sent answered metrics counters phase
      now deadline).Reaches
      (written setup initial source script place (attempts + 1) (place + 1) (sent + 1)
        (answered + 1) (metrics.fail .timeout).repeated (counted place count counters)
        (Receiver.phaseAt initial.capacity (place + 1)) (now + setup.policy.byteTimeout)
        (now + setup.policy.handshakeTimeout)) := by
  have leads : (written setup initial source script place attempts count sent answered metrics
      counters phase now deadline).Leads _ :=
    written_acknowledged long inside ready (leaves.forth_eq _)
  have early : now ≤ now + setup.policy.byteTimeout := (setup.policy.lt_add_byteTimeout _).le
  rw [leaves.back_eq rfl] at leads
  exact .head leads (reaches_of_sender_timeout rfl rfl early
    (.inr ⟨_, rfl, patient.early few, rfl⟩) (Sender.turn_retry .timeout few rfl))

theorem written_arrives (long : source.length ≤ initial.capacity)
    (leaves : Fate.Leaves script sent answered (.arrives :: rest))
    (inside : place < blockCount source) (ready : Ready initial source place count phase) :
    (written setup initial source script place attempts count sent answered metrics counters phase
      now deadline).Reaches
      (written setup initial source script (place + 1) 0 (place + 1) (sent + 1) (answered + 1)
        (metrics.introduce source (place + 1)) (counted place count counters)
        (Receiver.phaseAt initial.capacity (place + 1)) now
        (now + setup.policy.handshakeTimeout)) := by
  have leads : (written setup initial source script place attempts count sent answered metrics
      counters phase now deadline).Leads _ :=
    written_acknowledged long inside ready (leaves.forth_eq _)
  rw [leaves.back_eq rfl] at leads
  exact .head leads (.single (leads_of_acknowledge inside))

/-- A damaged block is refused once the line is quiet. -/
theorem written_refused {bytes : List UInt8} {heard : Bool}
    (purge : setup.policy.purgeTimeout < setup.policy.byteTimeout)
    (leaves : Fate.Leaves script sent answered (.damaged bytes heard :: rest))
    (fails : (Fate.damaged bytes heard).Fails setup.mode)
    (opened : phase = .awaitingStart ∨ phase = Receiver.phaseAt initial.capacity count) :
    (written setup initial source script place attempts count sent answered metrics counters phase
      now deadline).Reaches
      ⟨.waiting setup.policy setup.mode source place attempts 0 metrics
          (now + setup.policy.byteTimeout),
        .standing setup initial source count 0 0 false counters.refused
          (.listening (now + setup.policy.purgeTimeout + setup.policy.handshakeTimeout)),
        ⟨Fate.forth script, Fate.back script, sent + 1, answered + 1,
          Fate.back script answered [Signal.byte .negativeAcknowledge], []⟩,
        now + setup.policy.purgeTimeout, .until (now + setup.policy.byteTimeout),
        .until (now + setup.policy.purgeTimeout + setup.policy.handshakeTimeout)⟩ := by
  obtain ⟨whole, error, damaged⟩ := fails
  have early : now < now + setup.policy.byteTimeout := setup.policy.lt_add_byteTimeout _
  have soon : now ≤ now + setup.policy.purgeTimeout := (setup.policy.lt_add_purgeTimeout _).le
  rw [written, leaves.forth_eq]
  refine .head (leads_of_damage opened damaged whole early) ?_
  exact reaches_of_receiver_timeout rfl rfl soon
    (.inr ⟨_, rfl, add_lt_add_right purge now, rfl⟩) (Receiver.turn_reject rfl)

theorem Attempt.fails {fate : Fate} (long : source.length ≤ initial.capacity)
    (purge : setup.policy.purgeTimeout < setup.policy.byteTimeout)
    (patience : setup.policy.maxRetries * setup.policy.byteTimeout ≤ setup.policy.handshakeTimeout)
    (attempt : Attempt setup initial source script place attempts sent answered failures scene)
    (leaves : Fate.Leaves script sent answered (fate :: rest))
    (few : attempts < setup.policy.maxRetries) (fails : fate.Fails setup.mode)
    (inside : place < blockCount source ∨ fate = .lost) :
    ∃ after, Attempt setup initial source script place (attempts + 1) (sent + 1)
        (answered + fate.onAnswer.length) (failures + 1) after ∧
      scene.Reaches after := by
  obtain @⟨count, metrics, counters, phase, now, deadline, ready, patient, retransmits⟩ := attempt
  cases fate with
  | arrives => exact fails.elim
  | lost =>
      exact ⟨_, ⟨ready, patient.next, Metrics.retransmits_repeated_fail retransmits _⟩,
        written_lost leaves few patient⟩
  | unanswered =>
      have fresh := RetryPolicy.patient_of_fresh patience attempts now
      have block : place < blockCount source := inside.resolve_right (by simp)
      exact ⟨_, ⟨.inr ⟨rfl, block, rfl⟩, fresh.next,
        Metrics.retransmits_repeated_fail retransmits _⟩,
        written_unanswered long leaves block few fresh ready⟩
  | damaged bytes heard =>
      have refused : (written setup initial source script place attempts count sent answered
          metrics counters phase now deadline).Reaches _ :=
        written_refused purge leaves fails ready.opened
      cases heard with
      | true =>
          rw [leaves.back_eq rfl] at refused
          exact ⟨_, ⟨ready.standing, RetryPolicy.patient_of_fresh patience _ _,
            Metrics.retransmits_repeated_fail retransmits _⟩,
            refused.trans (.single (leads_of_refusal few))⟩
      | false =>
          -- The receiver has begun to wait when the line was quiet, later than the packet was sent.
          have fresh := RetryPolicy.patient_of_fresh patience attempts now
          have longer : now + setup.policy.handshakeTimeout ≤
              now + setup.policy.purgeTimeout + setup.policy.handshakeTimeout := by
            linarith [setup.policy.purgeTimeout_pos]
          have later : now + setup.policy.purgeTimeout ≤ now + setup.policy.byteTimeout := by
            linarith
          rw [leaves.back_eq rfl] at refused
          exact ⟨_, ⟨ready.standing, fresh.next.mono longer,
            Metrics.retransmits_repeated_fail retransmits _⟩,
            refused.trans (reaches_of_sender_timeout rfl rfl later
              (.inr ⟨_, rfl, (fresh.early few).trans longer, rfl⟩)
              (Sender.turn_retry .timeout few rfl))⟩

/-- After any affordable failures of one packet, the packet is written once more. -/
theorem Attempt.fails_all (long : source.length ≤ initial.capacity)
    (purge : setup.policy.purgeTimeout < setup.policy.byteTimeout)
    (patience : setup.policy.maxRetries * setup.policy.byteTimeout ≤ setup.policy.handshakeTimeout)
    {fates : List Fate}
    (attempt : Attempt setup initial source script place attempts sent answered failures scene)
    (leaves : Fate.Leaves script sent answered (fates ++ rest))
    (budget : attempts + fates.length ≤ setup.policy.maxRetries)
    (fail : ∀ fate ∈ fates, fate.Fails setup.mode)
    (inside : ∀ fate ∈ fates, place < blockCount source ∨ fate = .lost) :
    ∃ attempts' sent' answered' after, Fate.Leaves script sent' answered' rest ∧
      Attempt setup initial source script place attempts' sent' answered'
        (failures + fates.length) after ∧
      scene.Reaches after := by
  induction fates generalizing attempts sent answered failures scene with
  | nil => exact ⟨attempts, sent, answered, scene, leaves, attempt, .refl⟩
  | cons fate fates induction =>
      rw [List.length_cons] at budget
      obtain ⟨middle, next, reaches⟩ := attempt.fails long purge patience leaves (by omega)
        (fail fate (by simp)) (inside fate (by simp))
      obtain ⟨attempts', sent', answered', after, left, last, more⟩ := induction next leaves.next
        (by omega) (fun other member => fail other (by simp [member]))
        (fun other member => inside other (by simp [member]))
      refine ⟨attempts', sent', answered', after, left, ?_, reaches.trans more⟩
      rwa [List.length_cons, Nat.add_comm fates.length, ← Nat.add_assoc]

theorem Attempt.arrives (long : source.length ≤ initial.capacity)
    (patience : setup.policy.maxRetries * setup.policy.byteTimeout ≤ setup.policy.handshakeTimeout)
    (attempt : Attempt setup initial source script place attempts sent answered failures scene)
    (leaves : Fate.Leaves script sent answered (.arrives :: rest))
    (inside : place < blockCount source) :
    ∃ after, Attempt setup initial source script (place + 1) 0 (sent + 1) (answered + 1) failures
        after ∧
      scene.Reaches after := by
  obtain ⟨ready, _, retransmits⟩ := attempt
  refine ⟨_, ⟨.inl ⟨rfl, .inr rfl⟩, RetryPolicy.patient_of_fresh patience 0 _, ?_⟩,
    written_arrives long leaves inside ready⟩
  simpa using retransmits

theorem Attempt.ends (long : source.length ≤ initial.capacity) (once : setup.confirmEot = false)
    (attempt : Attempt setup initial source script (blockCount source) attempts sent answered
      failures scene)
    (leaves : Fate.Leaves script sent answered (.arrives :: rest)) :
    scene.Ends (Recovered source failures) := by
  obtain @⟨count, metrics, counters, phase, now, deadline, ready, _, retransmits⟩ := attempt
  obtain rfl : count = blockCount source := by
    rcases ready with ⟨count_eq, _⟩ | ⟨_, inside, _⟩
    · exact count_eq
    · exact absurd inside (Nat.lt_irrefl _)
  have early : now < now + setup.policy.byteTimeout := setup.policy.lt_add_byteTimeout _
  have arrives : Fate.forth script sent (packet setup.mode source (blockCount source)) =
      [Signal.byte .endOfTransmission] := by
    rw [leaves.forth_eq, ← packet_blockCount setup.mode source]
    rfl
  rw [written, arrives]
  refine Reaches.ends (.single (leads_of_end ready.opened (by simp [once]) early)) ?_
  rw [leaves.back_eq rfl]
  refine Reaches.ends (.single leads_of_last_acknowledge)
    (ends_of_ended rfl rfl fun pair sender receiver => ?_)
  exact
    { sent := by rw [sender]; rfl
      received := ⟨_, by rw [receiver]; rfl⟩
      content := by
        rw [receiver]
        exact take_toList_holding long
      retransmits := by
        rw [sender]
        exact retransmits }

/-- From any packet on, a transfer recovers from all affordable failures that follow. -/
theorem Attempt.recovers (long : source.length ≤ initial.capacity) (once : setup.confirmEot = false)
    (purge : setup.policy.purgeTimeout < setup.policy.byteTimeout)
    (patience : setup.policy.maxRetries * setup.policy.byteTimeout ≤ setup.policy.handshakeTimeout)
    {fates : Nat → List Fate} {more : Nat}
    (budget : ∀ place ≤ blockCount source, (fates place).length ≤ setup.policy.maxRetries)
    (fail : ∀ place < blockCount source, ∀ fate ∈ fates place, fate.Fails setup.mode)
    (last : ∀ fate ∈ fates (blockCount source), fate = .lost)
    (end_eq : place + more = blockCount source)
    (attempt : Attempt setup initial source script place 0 sent answered failures scene)
    (leaves : Fate.Leaves script sent answered (Fate.script fates place (more + 1))) :
    scene.Ends (Recovered source (failures +
      ((List.range' place (more + 1)).map fun place => (fates place).length).sum)) := by
  induction more generalizing place sent answered failures scene with
  | zero =>
      obtain rfl : place = blockCount source := by omega
      rw [Fate.script_succ] at leaves
      have counted := budget (blockCount source) le_rfl
      obtain ⟨_, _, _, after, left, attempt, reaches⟩ := attempt.fails_all long purge patience
        leaves (by omega) (fun fate member => by rw [last fate member]; trivial)
        (fun fate member => .inr (last fate member))
      simpa using reaches.ends (attempt.ends long once left)
  | succ more induction =>
      have inside : place < blockCount source := by omega
      rw [Fate.script_succ] at leaves
      have counted := budget place inside.le
      obtain ⟨_, _, _, middle, left, attempt, reaches⟩ := attempt.fails_all long purge patience
        leaves (by omega) (fail place inside) (fun _ _ => .inl inside)
      obtain ⟨after, attempt, further⟩ := attempt.arrives long patience left inside
      have ends := induction (by omega) attempt left.next
      rw [List.range'_succ, List.map_cons, List.sum_cons, ← Nat.add_assoc]
      exact Reaches.ends (reaches.trans further) ends

end Scene

open Packets

/-- When every packet fails at most as often as it may be sent again, the transfer succeeds, and the
sender counts exactly the failures. -/
theorem recovery_within_budget {policy : RetryPolicy Rat} {mode : ChecksumMode}
    {expected : Option Int} {initial : Destination} {receiver : Receiver Rat}
    {source : List UInt8} {failures : Nat → List Fate}
    (opens : Receiver.open? policy mode expected false initial 0 = .ok receiver)
    (long : source.length ≤ initial.capacity)
    (purge : policy.purgeTimeout < policy.byteTimeout)
    (patience : policy.maxRetries * policy.byteTimeout ≤ policy.handshakeTimeout)
    (budget : ∀ place ≤ blockCount source, (failures place).length ≤ policy.maxRetries)
    (fail : ∀ place < blockCount source, ∀ fate ∈ failures place, fate.Fails mode)
    (last : ∀ fate ∈ failures (blockCount source), fate = .lost) :
    ∃ fuel final, (Pair.start (.start policy source 0) receiver
      ⟨.fresh .none (Fate.forth (Fate.script failures 0 (blockCount source + 1))),
        .fresh .none (Fate.back (Fate.script failures 0 (blockCount source + 1)))⟩
      none).complete fuel = some final ∧
      Recovered source
        ((List.range (blockCount source + 1)).map fun place => (failures place).length).sum
        final := by
  obtain rfl := Receiver.eq_start_of_open? opens
  let setup : Receiver.Setup Rat := ⟨policy, mode, expected.map Int.toNat, false⟩
  let script := Fate.script failures 0 (blockCount source + 1)
  have called :
      (Scene.called setup initial source (Fate.forth script) (Fate.back script)).Leads _ :=
    Scene.called_leads (Fate.back_zero script)
  have attempt : Scene.Attempt setup initial source script 0 0 0 1 0
      (Scene.inStep setup initial source (Fate.forth script) (Fate.back script) 0
        ((Metrics.fresh 0).introduce source 0) (.fresh 0) .awaitingStart) :=
    .intro (.inl ⟨rfl, .inl rfl⟩) (RetryPolicy.patient_of_fresh patience 0 0)
      (by simp [Metrics.fresh])
  have ends := attempt.recovers long rfl purge patience budget fail last (Nat.zero_add _)
    (Fate.leaves_all script)
  rw [Nat.zero_add, ← List.range_eq_range'] at ends
  exact Scene.completes_of_called setup (Scene.Reaches.ends (.single called) ends)

/-- Three bytes get through after three failures of their block and one of the end. -/
theorem recovery_of_three_bytes :
    let failures : Nat → List Fate := fun place =>
      if place = 0 then [.lost, .unanswered, .damaged (List.replicate 131 0) false] else [.lost]
    let script := Fate.script failures 0 2
    Receiver.open? .brief .additive none false (.filled 3 0) 0 =
        .ok (.start ⟨.brief, .additive, none, false⟩ (.filled 3 0) 0) ∧
      ∃ fuel final, (Pair.start (.start .brief [1, 2, 3] 0)
          (.start ⟨.brief, .additive, none, false⟩ (.filled 3 0) 0)
          ⟨.fresh .none (Fate.forth script), .fresh .none (Fate.back script)⟩
          none).complete fuel = some final ∧
        Recovered [1, 2, 3] 4 final := by
  intro failures script
  have damaged : (Fate.damaged (List.replicate 131 0) false).Fails .additive :=
    ⟨by decide +kernel, .malformedNumber 0 0, by decide +kernel⟩
  have fail : ∀ place < blockCount [1, 2, 3], ∀ fate ∈ failures place, fate.Fails .additive := by
    intro place inside fate member
    obtain rfl : place = 0 := Nat.lt_one_iff.mp inside
    simp only [failures, if_true, List.mem_cons, List.not_mem_nil, or_false] at member
    rcases member with rfl | rfl | rfl
    · trivial
    · trivial
    · exact damaged
  have opens : Receiver.open? .brief .additive none false (.filled 3 0) 0 =
      .ok (.start ⟨.brief, .additive, none, false⟩ (.filled 3 0) 0) := rfl
  have long : [1, 2, 3].length ≤ (Destination.filled 3 0).capacity := by decide
  exact ⟨opens, recovery_within_budget opens long (by decide +kernel) (by decide +kernel)
    (by decide) fail (by decide)⟩

end Xmodem
