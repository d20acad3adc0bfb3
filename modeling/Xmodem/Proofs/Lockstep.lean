import Xmodem.Proofs.Exchange

/-!
# Undisturbed progress

As long as every write arrives as it was sent, the two ends go through the blocks in lockstep and
the clock stands still.
-/

namespace Xmodem

/-- Whether an alteration leaves a write alone. -/
def Alteration.Spares (alteration : Alteration) (write : Nat) : Prop :=
  ∀ bytes, alteration write bytes = bytes

theorem Alteration.none_spares (write : Nat) : Alteration.none.Spares write := fun _ => rfl

namespace Scene

open Packets

variable (setup : Receiver.Setup Rat) (initial : Destination) (source : List UInt8)
  (forth back : Alteration)

/-- The sender waits for the call of a receiver that has not begun. -/
def opening : Scene :=
  ⟨.greeting setup.policy source 0 (.fresh 0) .awaitingStart
      (.listening (0 + setup.policy.handshakeTimeout)),
    .start setup initial 0, .fresh forth back, 0, .until (0 + setup.policy.handshakeTimeout),
    .ready⟩

/-- The receiver has called for the first time. -/
def called : Scene :=
  ⟨.greeting setup.policy source 0 (.fresh 0) .awaitingStart
      (.listening (0 + setup.policy.handshakeTimeout)),
    .calling setup initial source 0 (.fresh 0) (.listening (0 + setup.policy.handshakeTimeout)),
    ⟨forth, back, 0, 1, back 0 [Receiver.Writing.request.byte setup.mode], []⟩, 0,
    .until (0 + setup.policy.handshakeTimeout), .until (0 + setup.policy.handshakeTimeout)⟩

/-- The packet at some place was written for the first time, and all before it arrived at once. -/
def inStep (count : Nat) (metrics counters : Metrics Rat) (phase : ReceivePhase) : Scene :=
  ⟨.waiting setup.policy setup.mode source count 0 0 metrics (0 + setup.policy.byteTimeout),
    .atBlocks setup initial source count 0 0 false counters phase
      (.listening (0 + setup.policy.handshakeTimeout)),
    ⟨forth, back, count + 1, count + 1, [], forth count (packet setup.mode source count)⟩, 0,
    .until (0 + setup.policy.byteTimeout), .until (0 + setup.policy.handshakeTimeout)⟩

/-- What is known of the bookkeeping after undisturbed blocks. -/
structure Uneventful (count : Nat) (metrics counters : Metrics Rat) (phase : ReceivePhase) :
    Prop where
  timeouts : metrics.timeouts = 0
  retransmits : metrics.retransmits = 0
  silences : counters.timeouts = 0
  blocks : counters.blocks = count
  opened : phase = .awaitingStart ∧ count = 0 ∨ phase = Receiver.phaseAt initial.capacity count

variable {setup initial source forth back} {count : Nat} {metrics counters : Metrics Rat}
  {phase : ReceivePhase}

theorem Uneventful.opens (uneventful : Uneventful initial count metrics counters phase) :
    phase = .awaitingStart ∨ phase = Receiver.phaseAt initial.capacity count :=
  uneventful.opened.imp_left And.left

theorem opening_yields :
    ∃ after, (opening setup initial source forth back).Shows after ∧
      (Pair.start (.start setup.policy source 0) (.start setup initial 0)
        (Wire.fresh forth back).link none).Yields after :=
  start_yields (Sender.turn_start rfl)

theorem opening_leads :
    (opening setup initial source forth back).Leads (called setup initial source forth back) :=
  leads_of_begin (setup.policy.lt_add_handshakeTimeout _)

theorem called_leads (calls : back.Spares 0) :
    (called setup initial source forth back).Leads
      (inStep setup initial source forth back 0 ((Metrics.fresh 0).introduce source 0)
        (.fresh 0) .awaitingStart) := by
  rw [called, calls]
  exact leads_of_call

/-- A block that arrives, has room, and is acknowledged makes the next packet go out. -/
theorem inStep_reaches (inside : count < blockCount source)
    (fits : Fits initial.capacity source count) (arrives : forth.Spares count)
    (answers : back.Spares (count + 1))
    (opened : phase = .awaitingStart ∨ phase = Receiver.phaseAt initial.capacity count) :
    (inStep setup initial source forth back count metrics counters phase).Reaches
      (inStep setup initial source forth back (count + 1) (metrics.introduce source (count + 1))
        counters.stored (Receiver.phaseAt initial.capacity (count + 1))) := by
  have early : (0 : Rat) < 0 + setup.policy.byteTimeout := setup.policy.lt_add_byteTimeout _
  rw [inStep, arrives]
  refine .head (leads_of_block opened inside fits early) (.single ?_)
  rw [answers]
  exact leads_of_acknowledge inside

/-- The two ends get to any packet before which all writes arrive and all blocks have room. -/
theorem reaches_inStep (count_le : count ≤ blockCount source)
    (fit : ∀ place < count, Fits initial.capacity source place)
    (arrive : ∀ write < count, forth.Spares write) (answer : ∀ write ≤ count, back.Spares write) :
    ∃ metrics counters phase, Uneventful initial count metrics counters phase ∧
      (called setup initial source forth back).Reaches
        (inStep setup initial source forth back count metrics counters phase) := by
  induction count with
  | zero =>
      refine ⟨_, _, _, ?_, .single (called_leads (answer 0 le_rfl))⟩
      exact ⟨by simp [Metrics.fresh], by simp [Metrics.fresh], rfl, rfl, .inl ⟨rfl, rfl⟩⟩
  | succ count induction =>
      obtain ⟨metrics, counters, phase, uneventful, reaches⟩ := induction (by omega)
        (fun place place_lt => fit place (by omega))
        (fun write write_lt => arrive write (by omega))
        (fun write write_le => answer write (by omega))
      refine ⟨_, _, _, ?_, reaches.trans (inStep_reaches (by omega) (fit count (by omega))
        (arrive count (by omega)) (answer (count + 1) le_rfl) uneventful.opens)⟩
      exact
        { timeouts := by simp [uneventful.timeouts]
          retransmits := by simp [uneventful.retransmits]
          silences := uneventful.silences
          blocks := by simp [Metrics.stored, uneventful.blocks]
          opened := .inr rfl }

/-- What the opening scene and every scene after one with it have in common holds at all scheduling
points of a pair. -/
theorem holds_of_start_run {property : Scene → Prop}
    (step : ∀ scene, property scene →
      (∃ after, property after ∧ scene.Leads after) ∨
        scene.senderPause = .ended ∧ scene.receiverPause = .ended)
    (holds : property (opening setup initial source forth back)) {moves : Nat} {pair : Pair Rat}
    (ran : (Pair.start (.start setup.policy source 0) (.start setup initial 0)
      ⟨.fresh .none forth, .fresh .none back⟩ none).run moves = some pair)
    (rests : pair.turn = none) :
    ∃ scene, property scene ∧ scene.Shows pair := by
  obtain ⟨after, shows, yields⟩ := opening_yields
  cases moves with
  | zero =>
      obtain rfl := Option.some.inj ran
      simp [Pair.start] at rests
  | succ moves =>
      obtain ⟨fewer, _, ran_after⟩ := yields.run ran rests
      exact holds_of_run step holds shows ran_after rests

/-- What a pair ends in once the receiver has called, it ends in from the beginning. -/
theorem completes_of_called (setup : Receiver.Setup Rat) {good : Pair Rat → Prop}
    (ends : (called setup initial source forth back).Ends good) :
    ∃ fuel final, (Pair.start (.start setup.policy source 0) (.start setup initial 0)
      ⟨.fresh .none forth, .fresh .none back⟩ none).complete fuel = some final ∧ good final := by
  obtain ⟨after, shows, yields⟩ := opening_yields
  obtain ⟨fuel, final, completes, holds⟩ :=
    Reaches.ends (.single opening_leads) ends after shows
  obtain ⟨more, completes⟩ := yields.complete completes
  exact ⟨more, final, completes, holds⟩

end Scene
end Xmodem
