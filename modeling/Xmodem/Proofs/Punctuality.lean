import Xmodem.Benchmark
import Xmodem.Proofs.Latency
import Xmodem.Proofs.Lossless

/-!
# Delays below the timeouts

When every write takes less time than the wait for a byte, and than the wait for a packet, no wait
of a transfer is in vain: each packet is sent once and answered in time, however many there are.
From one packet to the next the clock moves on by twice the delay.
-/

namespace Xmodem

open Packets Destination

variable {γ : Type} [Generator γ]

namespace Sender

variable {policy : RetryPolicy Rat} {mode : ChecksumMode} {source : List UInt8}
  {place handshakes : Nat} {metrics : Metrics Rat} {frame : List UInt8} {delay now : Rat}

theorem utters_packet :
    Utters delay now
      (atPlace policy mode source place 0 handshakes metrics (sendPhase source place) frame
        .between)
      [] (packet mode source place)
      (waiting policy mode source place 0 handshakes (metrics.introduce source place)
        (now + delay + policy.byteTimeout)) := by
  refine ⟨atPlace policy mode source place 0 handshakes metrics (sendPhase source place)
    (packet mode source place) (.writing .first), .proceed rfl ?_, rfl, ?_⟩
  · rw [session_next, next_between_send]
    exact .done
  · rw [session_next, next_written_send]
    refine .proceed rfl ?_
    rw [session_next, next_between_reply]
    exact .done

end Sender

namespace Receiver

variable {setup : Setup Rat} {initial : Destination} {source : List UInt8}
  {count handshakes idle : Nat} {pending : Bool} {metrics : Metrics Rat} {phase : ReceivePhase}
  {delay now deadline : Rat}

theorem utters_call :
    Utters delay now (start setup initial 0) [] [Writing.request.byte setup.mode]
      (calling setup initial source 0 (.fresh now)
        (.listening (now + delay + setup.policy.handshakeTimeout))) := by
  have calls : (calling setup initial source 0 (.fresh now) .between).phase = .awaitingStart := rfl
  have begins : ((start setup initial 0).next now .proceeded).1 =
      calling setup initial source 0 (.fresh now) .between := next_start
  have asks : (Session.next (calling setup initial source 0 (.fresh now) .between) now
      .proceeded).1 = calling setup initial source 0 (.fresh now) (.writing .request) :=
    next_between_call calls
  refine ⟨calling setup initial source 0 (.fresh now) (.writing .request), .proceed rfl ?_, rfl, ?_⟩
  · rw [session_next, begins]
    refine .proceed rfl ?_
    rw [asks]
    exact .done
  · exact .done

variable (opened : phase = .awaitingStart ∨ phase = phaseAt initial.capacity count)

include opened

theorem utters_acknowledgement (fits : Fits initial.capacity source count) :
    Utters delay now
      ((atBlocks setup initial source count handshakes idle pending metrics phase
        (.listening deadline)).next now (.byte startOfBlock)).1
      (Frame.encode setup.mode (block source count)).tail [Signal.byte .acknowledge]
      (standing setup initial source (count + 1) handshakes 0 false metrics.stored
        (.listening (now + delay + setup.policy.handshakeTimeout))) := by
  have whole : (startOfBlock :: (Frame.encode setup.mode (block source count)).tail).length =
      Frame.length setup.mode := Frame.length_encode ..
  obtain ⟨activity, reads⟩ : ∃ activity, Digests now
      ((atBlocks setup initial source count handshakes idle pending metrics phase
        (.listening deadline)).next now (.byte startOfBlock)).1
      ((Frame.encode setup.mode (block source count)).tail ++ [])
      ((standing setup initial source count handshakes 0 false metrics activity).receiveFrame now
        (Frame.encode setup.mode (block source count))).1 [] := digests_frame opened [] whole
  have listens : (Session.next (standing setup initial source (count + 1) handshakes 0 false
      metrics.stored .between) (now + delay) .proceeded).1 =
      standing setup initial source (count + 1) handshakes 0 false metrics.stored
        (.listening (now + delay + setup.policy.handshakeTimeout)) := by
    have met : Met (standing setup initial source (count + 1) handshakes 0 false metrics.stored
        .between) := met_standing
    exact next_between_listen met
  rw [List.append_nil, receiveFrame_accepts fits] at reads
  refine ⟨_, reads, rfl, ?_⟩
  rw [session_next, next_written_acceptance]
  refine .proceed rfl ?_
  rw [listens]
  exact .done

theorem utters_completion (settled : setup.confirmEot = true → pending = true) :
    Utters delay now
      ((atBlocks setup initial source count handshakes idle pending metrics phase
        (.listening deadline)).next now (.byte (Signal.byte .endOfTransmission))).1
      [] [Signal.byte .acknowledge]
      (completed setup initial source count handshakes pending metrics (now + delay)) := by
  rw [next_last_packet opened settled]
  exact ⟨_, .done, rfl, digests_completed⟩

end Receiver

theorem Quantity.ofInt_pos {value : Int} (positive : 0 < value) : 0 < (ofInt value : Rat) :=
  Int.cast_pos.mpr positive

/-- Whether no wait was in vain, nothing was sent again, and nothing was refused. -/
structure Metrics.Spotless (metrics : Metrics Rat) : Prop where
  timeouts_eq : metrics.timeouts = 0
  retransmits_eq : metrics.retransmits = 0
  naks_eq : metrics.naks = 0

theorem Metrics.Spotless.introduce {metrics : Metrics Rat} (spotless : metrics.Spotless)
    (source : List UInt8) (place : Nat) : (metrics.introduce source place).Spotless := by
  unfold Metrics.introduce
  split
  · exact ⟨spotless.timeouts_eq, spotless.retransmits_eq, spotless.naks_eq⟩
  · exact spotless

/-- Whether a write takes less time than every wait for an answer. -/
structure RetryPolicy.Outlasts (policy : RetryPolicy Rat) (pause : Option Rat) : Prop where
  positive : ∀ duration ∈ pause, 0 < duration
  lt_byteTimeout : pause.getD 0 < policy.byteTimeout
  lt_handshakeTimeout : pause.getD 0 < policy.handshakeTimeout

namespace Pair

variable {setup : Receiver.Setup Rat} {initial : Destination} {source : List UInt8}
  {pause : Option Rat} {place : Nat} {now : Rat} {pair : Pair Rat γ}

/-- The sender of a pair is about to send the packet at some place, and all before it were answered
at once. -/
inductive Sends (setup : Receiver.Setup Rat) (initial : Destination) (source : List UInt8)
    (pause : Option Rat) (place : Nat) (now : Rat) (pair : Pair Rat γ) : Prop
  | intro {metrics counters : Metrics Rat} {phase : ReceivePhase} {frame : List UInt8}
      {timeout : Rat}
      (speaks : pair.Speaks pause .a now
        (Sender.atPlace setup.policy setup.mode source place 0 0 metrics
          (Sender.sendPhase source place) frame .between)
        [] [] (.byte timeout (now + setup.policy.handshakeTimeout)))
      (listens : pair.receiver = .atBlocks setup initial source place 0 0 false counters phase
        (.listening (now + setup.policy.handshakeTimeout)))
      (opened : phase = .awaitingStart ∨ phase = Receiver.phaseAt initial.capacity place)
      (spotless : metrics.Spotless) (silences_eq : counters.timeouts = 0)

/-- A packet arrives in time, and the receiver reads its first byte. -/
theorem Sends.delivered (sends : pair.Sends setup initial source pause place now)
    (outlasts : setup.policy.Outlasts pause) {value : UInt8} {rest : List UInt8}
    (packet_eq : packet setup.mode source place = value :: rest) :
    ∃ (after : Pair Rat γ) (metrics counters : Metrics Rat) (phase : ReceivePhase)
        (timeout deadline : Rat),
      pair.Evolves after ∧
      after.Speaks pause .b (now + pause.getD 0)
        ((Receiver.atBlocks setup initial source place 0 0 false counters phase
          (.listening deadline)).next (now + pause.getD 0) (.byte value)).1
        rest [] (.byte timeout (now + pause.getD 0 + setup.policy.byteTimeout)) ∧
      after.sender = .waiting setup.policy setup.mode source place 0 0 metrics
        (now + pause.getD 0 + setup.policy.byteTimeout) ∧
      (phase = .awaitingStart ∨ phase = Receiver.phaseAt initial.capacity place) ∧
      metrics.Spotless ∧ counters.timeouts = 0 := by
  obtain @⟨_, counters, phase, _, _, speaks, listens, opened, spotless, silences_eq⟩ := sends
  have patient := (add_lt_add_iff_left now).mpr outlasts.lt_handshakeTimeout
  obtain ⟨sent, evolves, speaks, same⟩ :=
    speaks.utters Sender.utters_packet outlasts.positive patient
  rw [packet_eq] at speaks
  have early := setup.policy.lt_add_byteTimeout (now + pause.getD 0)
  obtain ⟨after, goes_on, speaks, kept⟩ := speaks.reads (Sender.action_listening rfl early) early
  have receiver_eq : sent.driver LinkEnd.a.other = .atBlocks setup initial source place 0 0 false
      counters phase (.listening (now + setup.policy.handshakeTimeout)) := same.trans listens
  rw [receiver_eq] at speaks
  exact ⟨after, _, counters, phase, _, _, evolves.trans goes_on, speaks, kept, opened,
    spotless.introduce source place, silences_eq⟩

/-- A block is acknowledged in time, and the sender turns to the next packet. -/
theorem Sends.next_block (sends : pair.Sends setup initial source pause place now)
    (outlasts : setup.policy.Outlasts pause) (inside : place < blockCount source)
    (fits : Fits initial.capacity source place) :
    ∃ after : Pair Rat γ, pair.Evolves after ∧
      after.Sends setup initial source pause (place + 1) (now + pause.getD 0 + pause.getD 0) := by
  obtain ⟨arrived, metrics, counters, phase, timeout, deadline, evolves, speaks, waits, opened,
    spotless, silences_eq⟩ := sends.delivered outlasts (packet_eq_cons inside)
  have patient := (add_lt_add_iff_left (now + pause.getD 0)).mpr outlasts.lt_byteTimeout
  obtain ⟨answered, goes_on, speaks, same⟩ :=
    speaks.utters (Receiver.utters_acknowledgement opened fits) outlasts.positive patient
  have early := setup.policy.lt_add_handshakeTimeout (now + pause.getD 0 + pause.getD 0)
  obtain ⟨after, ends, speaks, kept⟩ := speaks.reads (Receiver.action_listening rfl early) early
  have sender_eq : answered.driver LinkEnd.b.other = .waiting setup.policy setup.mode source place 0
      0 metrics (now + pause.getD 0 + setup.policy.byteTimeout) := same.trans waits
  have next_eq : (Session.next (answered.driver LinkEnd.b.other)
      (now + pause.getD 0 + pause.getD 0) (.byte (Signal.byte .acknowledge))).1 =
      Sender.atPlace setup.policy setup.mode source (place + 1) 0 0 metrics
        (Sender.sendPhase source (place + 1)) (packet setup.mode source place) .between := by
    rw [sender_eq]
    exact Sender.next_acknowledged inside
  rw [next_eq] at speaks
  refine ⟨after, (evolves.trans goes_on).trans ends, ?_⟩
  exact .intro speaks kept (.inr rfl) spotless silences_eq

/-- The end of transmission is acknowledged in time, and both sides end. -/
theorem Sends.last_packet (sends : pair.Sends setup initial source pause (blockCount source) now)
    (outlasts : setup.policy.Outlasts pause) (unconfirmed : setup.confirmEot = false) :
    ∃ after : Pair Rat γ, pair.Evolves after ∧ after.next = none ∧
      Delivered initial source setup.expectedLength after ∧ after.sender.metrics.Spotless := by
  obtain ⟨arrived, metrics, counters, phase, timeout, deadline, evolves, speaks, waits, opened,
    spotless, silences_eq⟩ := sends.delivered outlasts (packet_blockCount ..)
  have patient := (add_lt_add_iff_left (now + pause.getD 0)).mpr outlasts.lt_byteTimeout
  have settled : setup.confirmEot = true → false = true := by simp [unconfirmed]
  obtain ⟨answered, goes_on, speaks, same⟩ :=
    speaks.utters (Receiver.utters_completion opened settled) outlasts.positive patient
  have sender_eq : answered.sender = .waiting setup.policy setup.mode source (blockCount source) 0 0
      metrics (now + pause.getD 0 + setup.policy.byteTimeout) := same.trans waits
  obtain ⟨left, leaves, speaks, received⟩ := speaks.leaves rfl
  rw [sender_eq] at speaks
  obtain ⟨done, digests, speaks, also⟩ := speaks.digests Sender.digests_completed
  obtain ⟨after, closes, stops, sender_completed, receiver_completed⟩ := speaks.closes rfl
  have receiver_eq := (receiver_completed.trans also).trans received
  refine ⟨after, ?_, stops, ?_, ?_⟩
  · exact ((((evolves.trans goes_on).trans leaves).trans digests).trans closes)
  · exact Scene.delivered_of_completed spotless.timeouts_eq silences_eq sender_completed receiver_eq
  · rw [sender_completed]
    exact ⟨spotless.timeouts_eq, spotless.retransmits_eq, spotless.naks_eq⟩

/-- From every packet on, a transfer in which all blocks have room is punctual to the end. -/
theorem Sends.completes (outlasts : setup.policy.Outlasts pause)
    (unconfirmed : setup.confirmEot = false)
    (fit : ∀ place < blockCount source, Fits initial.capacity source place) {left : Nat}
    (left_eq : place + left = blockCount source)
    (sends : pair.Sends setup initial source pause place now) :
    ∃ after : Pair Rat γ, pair.Evolves after ∧ after.next = none ∧
      Delivered initial source setup.expectedLength after ∧ after.sender.metrics.Spotless := by
  induction left generalizing place now pair with
  | zero =>
      obtain rfl : place = blockCount source := left_eq
      exact sends.last_packet outlasts unconfirmed
  | succ left induction =>
      have inside : place < blockCount source := by omega
      obtain ⟨middle, evolves, sends⟩ := sends.next_block outlasts inside (fit place inside)
      obtain ⟨after, goes_on, ends⟩ := induction (by omega) sends
      exact ⟨after, evolves.trans goes_on, ends⟩

/-- A transfer on a slow link begins with the call of the receiver, which arrives in time. -/
theorem exists_sends (setup : Receiver.Setup Rat) (initial : Destination) (source : List UInt8)
    (patience : Option Rat) {link : Link Rat γ}
    (carries : link.Carries pause .a [] []) (outlasts : setup.policy.Outlasts pause) :
    ∃ after : Pair Rat γ, (Pair.start (.start setup.policy source 0) (.start setup initial 0) link
        patience).Evolves after ∧
      after.Sends setup initial source pause 0 (0 + pause.getD 0) := by
  have speaks : (Pair.start (.start setup.policy source 0) (.start setup initial 0) link
      patience).Speaks pause .a 0 (.start setup.policy source 0) [] [] .ready :=
    ⟨next_of_turn rfl, rfl, rfl, rfl, carries, rfl⟩
  have greets : Digests 0 (Sender.start setup.policy source 0) []
      (Sender.greeting setup.policy source 0 (.fresh 0) .awaitingStart
        (.listening (0 + setup.policy.handshakeTimeout))) [] := .proceed rfl (.proceed rfl .done)
  obtain ⟨greeting, evolves, speaks, same⟩ := speaks.digests greets
  have early := setup.policy.lt_add_handshakeTimeout 0
  obtain ⟨opened, opens, speaks, waits⟩ := speaks.opens (Sender.action_listening rfl early) early
  have receiver_eq : greeting.driver LinkEnd.a.other = Receiver.start setup initial 0 := same
  rw [receiver_eq] at speaks
  replace speaks : opened.Speaks pause .b 0 (Receiver.start setup initial 0) [] []
      (.byte _ (0 + setup.policy.handshakeTimeout)) := speaks
  have patient := (add_lt_add_iff_left 0).mpr outlasts.lt_handshakeTimeout
  have asks : Utters (pause.getD 0) 0 (Receiver.start setup initial 0) []
      [Receiver.Writing.request.byte setup.mode]
      (Receiver.calling setup initial source 0 (.fresh 0)
        (.listening (0 + pause.getD 0 + setup.policy.handshakeTimeout))) := Receiver.utters_call
  obtain ⟨called, calls, speaks, also⟩ := speaks.utters asks outlasts.positive patient
  have later := setup.policy.lt_add_handshakeTimeout (0 + pause.getD 0)
  obtain ⟨after, goes_on, speaks, kept⟩ := speaks.reads (Receiver.action_listening rfl later) later
  have sender_eq : called.driver LinkEnd.b.other =
      Sender.greeting setup.policy source 0 (.fresh 0) .awaitingStart
        (.listening (0 + setup.policy.handshakeTimeout)) := also.trans waits
  have next_eq : (Session.next (called.driver LinkEnd.b.other) (0 + pause.getD 0)
      (.byte (Receiver.Writing.request.byte setup.mode))).1 =
      Sender.atPlace setup.policy setup.mode source 0 0 0 (.fresh 0) (Sender.sendPhase source 0) []
        .between := by
    rw [sender_eq]
    exact Sender.next_called
  rw [next_eq] at speaks
  refine ⟨after, ((evolves.trans opens).trans calls).trans goes_on, ?_⟩
  exact .intro speaks kept (.inl rfl) ⟨rfl, rfl, rfl⟩ rfl

/-- When every write takes less time than the waits, all of a source that fits is delivered, and
nothing is sent twice. -/
theorem completes_of_outlasts (setup : Receiver.Setup Rat) (patience : Option Rat)
    {link : Link Rat γ} (carries : link.Carries pause .a [] []) (outlasts : setup.policy.Outlasts pause)
    (unconfirmed : setup.confirmEot = false)
    (fit : ∀ place < blockCount source, Fits initial.capacity source place) :
    ∃ fuel final, (Pair.start (.start setup.policy source 0) (.start setup initial 0) link
        patience).complete fuel = some final ∧
      Delivered initial source setup.expectedLength final ∧ final.sender.metrics.Spotless := by
  obtain ⟨middle, begins, sends⟩ := exists_sends setup initial source patience carries outlasts
  obtain ⟨final, goes_on, stops, ends⟩ := sends.completes outlasts unconfirmed fit (Nat.zero_add _)
  have completes : final.complete 1 = some final := by simp [complete, stops]
  obtain ⟨fuel, completes⟩ := Evolves.complete (begins.trans goes_on) completes
  exact ⟨fuel, final, completes, ends⟩

end Pair

omit [Generator γ] in
theorem Delivered.toList_eq {initial : Destination} {source : List UInt8} {expected : Option Nat}
    {final : Pair Rat γ} (delivered : Delivered initial source expected final)
    (same : initial.capacity = source.length) :
    final.receiver.destination.toList = source := by
  have all := (blockCount_le_iff source (blockCount source)).mp le_rfl
  have whole : offset initial.capacity (blockCount source) = source.length := by
    rw [offset, same]
    exact Nat.min_eq_right all
  have nothing : initial.toList.drop source.length = [] := by
    apply List.drop_of_length_le
    rw [length_toList, same]
  rw [delivered.content, whole, nothing, List.append_nil]
  exact take_image source le_rfl

namespace Metrics

theorem exists_throughput?_eq (metrics : Metrics Rat) :
    ∃ throughput, metrics.throughput? = some throughput := by
  unfold throughput? rate?
  split
  · exact ⟨0, rfl⟩
  · exact ⟨_, rfl⟩

end Metrics

namespace Benchmark

/-- A benchmark without loss or damage, with a delay and a timeout of whole thousandths of a
second. -/
def undamaged (size : Int) (mode : ChecksumMode) (delay timeout maxRetries : Int)
    (seed : Option Int) : Except BenchmarkError (Benchmark Rat) :=
  (waitOf? timeout).map fun wait =>
    { size := size
      mode := mode
      lossRate := 0
      corruptRate := 0
      delay := (pauseOf delay).1
      timeout := wait
      maxRetries := maxRetries
      seed := seed
      defective := !(pauseOf delay : Rat × Bool).2 }

/-- The two sessions before their first move, where the payload has a size that a memory can
have. -/
def opening (benchmark : Benchmark Rat) (policy : RetryPolicy Rat) (γ : Type := Random)
    [Generator γ] : Pair Rat γ :=
  let destination := Destination.filled benchmark.size.toNat 0
  .start (.start policy (benchmark.payload γ) 0)
    (.start ⟨policy, benchmark.mode, some destination.capacity, false⟩ destination 0)
    benchmark.link (some (Quantity.ofInt patience))

/-- How long every write of a benchmark takes, if it takes time at all. -/
def pause (benchmark : Benchmark Rat) : Option Rat :=
  if 0 < benchmark.delay then some (benchmark.delay / 1000) else none

theorem pause_impairment (benchmark : Benchmark Rat) (direction : Nat) :
    (benchmark.impairment direction : Impairment Rat γ).pause = benchmark.pause := rfl

section Checks

variable {benchmark : Benchmark Rat}

theorem byteTimeout_le_handshakeTimeout (positive : 0 < benchmark.timeout) :
    benchmark.limits.byteTimeout ≤ benchmark.limits.handshakeTimeout := by
  have four : benchmark.timeout / 1000 ≤
      (benchmark.timeout + benchmark.timeout + (benchmark.timeout + benchmark.timeout)) / 1000 := by
    linarith
  change benchmark.timeout / 1000 ≤ Quantity.greatest 1 _
  unfold Quantity.greatest
  split
  · exact four
  · exact four.trans (not_lt.mp ‹_›)

theorem exists_check_eq (benchmark : Benchmark Rat) (retries : 0 ≤ benchmark.maxRetries)
    (positive : 0 < benchmark.timeout) :
    ∃ policy, benchmark.limits.check = .ok policy ∧
      policy.byteTimeout = benchmark.limits.byteTimeout ∧
      policy.handshakeTimeout = benchmark.limits.handshakeTimeout := by
  have byte_pos : 0 < benchmark.limits.byteTimeout :=
    div_pos positive (Quantity.ofInt_pos (by decide))
  have packet_pos := byte_pos.trans_le (byteTimeout_le_handshakeTimeout positive)
  have purge_pos : 0 < benchmark.limits.purgeTimeout :=
    div_pos positive (Quantity.ofInt_pos (by decide))
  have checked : ¬ Quantity.least (Quantity.least benchmark.limits.byteTimeout
      benchmark.limits.handshakeTimeout) benchmark.limits.purgeTimeout ≤ 0 := by
    simp only [Quantity.least]
    split_ifs <;> exact not_le.mpr ‹_›
  have enough : ¬ benchmark.limits.maxRetries < 0 := not_lt.mpr retries
  have attempts : ¬ benchmark.limits.maxHandshakeAttempts < 1 := by
    change ¬ (6 : Int) < 1
    decide
  refine ⟨_, by rw [PolicyLimits.check, if_neg enough, dif_neg checked, dif_neg attempts], ?_, ?_⟩
  · rfl
  · rfl

/-- A delay below the timeout is below all waits. -/
theorem outlasts {policy : RetryPolicy Rat} (positive : 0 < benchmark.timeout)
    (early : benchmark.delay < benchmark.timeout)
    (byte_eq : policy.byteTimeout = benchmark.limits.byteTimeout)
    (packet_eq : policy.handshakeTimeout = benchmark.limits.handshakeTimeout) :
    policy.Outlasts benchmark.pause := by
  have below : benchmark.pause.getD 0 < policy.byteTimeout := by
    rw [byte_eq, pause]
    change Option.getD _ 0 < benchmark.timeout / 1000
    split
    · exact div_lt_div_of_pos_right early (by norm_num)
    · exact div_pos positive (by norm_num)
  constructor
  case positive =>
    intro duration pauses
    unfold pause at pauses
    split at pauses
    · rename_i takes_time
      obtain rfl := Option.some.inj pauses
      exact div_pos takes_time (by norm_num)
    · cases pauses
  case lt_byteTimeout => exact below
  case lt_handshakeTimeout =>
    rw [packet_eq]
    exact (byte_eq ▸ below).trans_le (byteTimeout_le_handshakeTimeout positive)

theorem carries_link (benchmark : Benchmark Rat) (lossless : benchmark.lossRate = 0)
    (exact_bits : benchmark.corruptRate = 0) :
    (benchmark.link : Link Rat γ).Carries benchmark.pause .a [] [] := by
  have delays (direction : Nat) :
      (benchmark.impairment direction : Impairment Rat γ).OnlyDelays := by
    constructor
    · exact not_lt.mpr lossless.le
    · exact not_lt.mpr exact_bits.le
  constructor
  case clear =>
    intro place
    cases place with
    | a =>
        have fresh : (benchmark.link : Link Rat γ).terminal .a =
            .fresh (benchmark.impairment 1) .none := rfl
        rw [fresh]
        exact ⟨rfl, rfl, delays 1⟩
    | b =>
        have fresh : (benchmark.link : Link Rat γ).terminal .b =
            .fresh (benchmark.impairment 2) .none := rfl
        rw [fresh]
        exact ⟨rfl, rfl, delays 2⟩
  case pause_eq =>
    intro place
    cases place with
    | a => exact benchmark.pause_impairment 1
    | b => exact benchmark.pause_impairment 2
  case inbox_eq => rfl
  case queue_eq => rfl

theorem start_eq {policy : RetryPolicy Rat} (accepted : benchmark.limits.check = .ok policy)
    (natural : 0 ≤ benchmark.size) (fits : benchmark.size < Destination.wordLimit)
    (sensible : benchmark.defective = false) :
    benchmark.start γ = .ok (benchmark.opening policy γ) := by
  have allocated : Destination.ofCapacity? benchmark.size 0 =
      .ok (.filled benchmark.size.toNat 0) := by
    have inside : ¬ (benchmark.size < -Destination.wordLimit ∨
        Destination.wordLimit ≤ benchmark.size) := by
      simp only [Destination.wordLimit] at fits ⊢
      omega
    rw [Destination.ofCapacity?, if_neg inside, if_neg (by omega)]
  simp only [start, accepted, allocated, sensible, opening, Bool.false_eq_true, if_false]

theorem exists_result_eq {final : Pair Rat γ} {initial : Destination} {expected : Option Nat}
    (delivered : Delivered initial (benchmark.payload γ) expected final)
    (same : initial.capacity = (benchmark.payload γ).length)
    (spotless : final.sender.metrics.Spotless) :
    ∃ result, benchmark.result final = .ok result ∧ result.bytes = benchmark.size.toNat ∧
      result.retransmits = 0 ∧ result.timeouts = 0 ∧ result.naks = 0 := by
  obtain ⟨throughput, rate_eq⟩ := final.sender.metrics.exists_throughput?_eq
  have result_eq : benchmark.result final = .ok
      { bytes := (benchmark.payload γ).length
        duration := final.sender.metrics.duration
        throughput := throughput
        retransmits := final.sender.metrics.retransmits
        timeouts := final.sender.metrics.timeouts
        naks := final.sender.metrics.naks } := by
    simp only [result, delivered.sent, delivered.received, delivered.toList_eq same, if_true,
      rate_eq]
  exact ⟨_, result_eq, Generator.length_bytes .., spotless.retransmits_eq, spotless.timeouts_eq,
    spotless.naks_eq⟩

end Checks

/-- Without loss or damage, a benchmark whose delay is below its timeout has a result, whatever its
payload is: all bytes were sent, nothing was sent again, no wait was in vain, and nothing was
refused.  It starts whenever a memory can have the size of the payload. -/
theorem punctual_of_delay_lt (γ : Type) [Generator γ] {size delay timeout maxRetries : Int}
    (mode : ChecksumMode) (seed : Option Int) (natural : 0 ≤ size) (retries : 0 ≤ maxRetries)
    (positive : 1 ≤ timeout) (early : delay < timeout) :
    ∃ benchmark policy, undamaged size mode delay timeout maxRetries seed = .ok benchmark ∧
      benchmark.limits.check = .ok policy ∧
      (size < Destination.wordLimit → benchmark.start γ = .ok (benchmark.opening policy γ)) ∧
      ∃ fuel final result, (benchmark.opening policy γ).complete fuel = some final ∧
        benchmark.result final = .ok result ∧ (result.bytes : Int) = size ∧
        result.retransmits = 0 ∧ result.timeouts = 0 ∧ result.naks = 0 := by
  let benchmark : Benchmark Rat :=
    { size, mode, lossRate := 0, corruptRate := 0, delay := mkRat delay 1, timeout := timeout,
      maxRetries, seed, defective := false }
  have chosen : undamaged size mode delay timeout maxRetries seed = .ok benchmark := rfl
  have waits : (0 : Rat) < timeout := Int.cast_pos.mpr positive
  have below : benchmark.delay < benchmark.timeout := by
    change mkRat delay 1 < timeout
    rw [Rat.mkRat_one]
    exact Int.cast_lt.mpr early
  obtain ⟨policy, accepted, byte_eq, packet_eq⟩ := benchmark.exists_check_eq retries waits
  let destination := Destination.filled size.toNat 0
  have same : destination.capacity = (benchmark.payload γ).length := by
    rw [← length_toList, toList_filled, List.length_replicate]
    exact (Generator.length_bytes ..).symm
  have fit : ∀ place < blockCount (benchmark.payload γ),
      Fits destination.capacity (benchmark.payload γ) place :=
    fun place inside => fits_of_length_le inside same.ge
  obtain ⟨fuel, final, completes, delivered, spotless⟩ :
      ∃ fuel final, (benchmark.opening policy γ).complete fuel = some final ∧
        Delivered destination (benchmark.payload γ) (some destination.capacity) final ∧
        final.sender.metrics.Spotless :=
    Pair.completes_of_outlasts ⟨policy, mode, some destination.capacity, false⟩
      (some (Quantity.ofInt patience)) (benchmark.carries_link rfl rfl)
      (outlasts waits below byte_eq packet_eq) rfl fit
  obtain ⟨result, result_eq, bytes_eq, clean⟩ := exists_result_eq delivered same spotless
  refine ⟨benchmark, policy, chosen, accepted, fun fits => start_eq accepted natural fits rfl, fuel,
    final, result, completes, result_eq, ?_, clean⟩
  rw [bytes_eq]
  exact Int.toNat_of_nonneg natural

/-- Three blocks with a write of six hundredths of a second and a wait of seven. -/
theorem punctual_of_three_blocks :
    (0 : Int) ≤ 300 ∧ (0 : Int) ≤ 0 ∧ (1 : Int) ≤ 70 ∧ (60 : Int) < 70 ∧
      ∃ benchmark policy, undamaged 300 .crc16 60 70 0 (some 7) = .ok benchmark ∧
        benchmark.limits.check = .ok policy ∧
        ((300 : Int) < Destination.wordLimit →
          benchmark.start = .ok (benchmark.opening policy)) ∧
        ∃ fuel final result, (benchmark.opening policy).complete fuel = some final ∧
          benchmark.result final = .ok result ∧ (result.bytes : Int) = 300 ∧
          result.retransmits = 0 ∧ result.timeouts = 0 ∧ result.naks = 0 := by
  have natural : (0 : Int) ≤ 300 := by decide
  have retries : (0 : Int) ≤ 0 := le_rfl
  have positive : (1 : Int) ≤ 70 := by decide
  have early : (60 : Int) < 70 := by decide
  exact ⟨natural, retries, positive, early,
    punctual_of_delay_lt Random .crc16 (some 7) natural retries positive early⟩

end Benchmark
end Xmodem
