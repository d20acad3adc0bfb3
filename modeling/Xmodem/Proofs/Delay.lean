import Xmodem.Proofs.Succession

/-!
# Transfers under delay

Writes may be delayed as long as one likes, far beyond every timeout, and the two sides may be
scheduled in any way.  Nothing but the order of writing is kept.  Delay alone does no harm.
Together with loss it does: the acknowledgement of an earlier copy can be taken for that of a packet
that was lost.
-/

namespace Xmodem

open Packets

variable {τ γ : Type} [Quantity τ] [Generator γ]

/-- Whether a receiver takes nothing for what it is not. -/
structure Receiver.Undeceived (source : List UInt8) (receiver : Receiver τ) : Prop where
  /-- It does not cancel. -/
  goes_on : ∀ cause, receiver.activity ≠ .writing (.cancel cause)
  /-- It does not give up for the order or the size of the blocks. -/
  innocent : ∀ failure, receiver.outcome? = some (.error failure) →
    failure.reason ≠ .outOfSequence ∧ failure.reason ≠ .destinationExhausted
  /-- It refuses no frame. -/
  accepts : receiver.metrics.naks = 0 ∧ receiver.activity ≠ .writing .rejection
  /-- When it returns, it has got the source. -/
  whole : ∀ length, receiver.outcome? = some (.ok length) →
    length = source.length ∧ receiver.destination.toList.take source.length = source

/-- Every write takes a second and a half. -/
def Impairment.late : Impairment Rat :=
  { Impairment.none with delay := 1500 }

theorem Impairment.late_onlyDelays : Impairment.late.OnlyDelays := by
  constructor <;> decide +kernel

/-- One write is lost. -/
def Alteration.losing (lost : Nat) : Alteration :=
  fun write bytes => if write = lost then [] else bytes

theorem Alteration.losing_loses (lost : Nat) : (Alteration.losing lost).Loses := by
  intro write bytes
  by_cases same : write = lost
  · exact .inr (if_pos same)
  · exact .inl (if_neg same)

section Delay

variable {policy : RetryPolicy τ} {mode : ChecksumMode} {setup : Receiver.Setup τ} {confirm : Bool}
  {initial : Destination} {receiver : Receiver τ} {source : List UInt8} {forth back : Alteration}
  {thither hither : Impairment τ γ} {patience : Option τ} {pair : Pair τ γ}

/-- How a receiver that gets the packets in succession ends. -/
theorem Receives.of_finished {course : Receiver.Course} {line : List UInt8} {horizon : Nat}
    {outcome : Outcome} (receives : Receives setup source horizon course line)
    (finished : course.stage = .finished outcome) :
    Receiver.Innocent outcome ∧ ∀ length, outcome = .ok length →
      length = source.length ∧ course.blocks = blocks source (blockCount source) := by
  cases receives with
  | awaiting awaits =>
      obtain rfl : _ = Receiver.Stage.finished outcome := finished
      exact absurd awaits (by simp [Receiver.Stage.Awaits])
  | collecting | answering | completed => cases finished
  | finished innocent full =>
      obtain rfl := Receiver.Stage.finished.inj finished
      exact ⟨innocent, full⟩

theorem Receives.undeceived {course : Receiver.Course} {line : List UInt8} {horizon : Nat}
    (long : source.length ≤ initial.capacity)
    (receives : Receives setup source horizon course line)
    (stands : Receiver.At setup initial course receiver) : receiver.Undeceived source := by
  have keeps := stands.keeps
  have ends {outcome : Outcome} (returns : receiver.outcome? = some outcome) :
      course.stage = .finished outcome :=
    stands.stage_of_ended (Receiver.outcome?_eq_some_iff.mp returns)
  have refusals_eq : course.refusals = 0 := by
    cases receives <;> rfl
  have calm : course.stage ≠ .canceling ∧ course.stage ≠ .answering .rejection := by
    cases receives with
    | awaiting awaits => obtain rfl | rfl := awaits <;> exact ⟨nofun, nofun⟩
    | answering accepts => exact ⟨nofun, fun same => accepts (Receiver.Stage.answering.inj same)⟩
    | collecting | completed | finished => exact ⟨nofun, nofun⟩
  constructor
  case goes_on =>
    intro cause writes
    obtain ⟨-, wrong⟩ | ⟨-, other⟩ | ⟨cancels, -⟩ := stands.stage_of_writing writes
    · cases wrong
    · exact other cause rfl
    · exact calm.1 cancels
  case innocent =>
    intro failure fails
    exact (receives.of_finished (ends fails)).1 failure rfl
  case accepts =>
    constructor
    · rw [keeps.naks_eq, refusals_eq]
    · intro writes
      obtain ⟨-, wrong⟩ | ⟨rejects, -⟩ | ⟨cancels, -⟩ := stands.stage_of_writing writes
      · cases wrong
      · exact calm.2 rejects
      · exact calm.1 cancels
  case whole =>
    intro length returns
    obtain ⟨rfl, all⟩ := (receives.of_finished (ends returns)).2 length rfl
    have held := keeps.content_eq
    rw [all, blocks, Nat.min_self, payloads_blocks] at held
    rw [held]
    exact ⟨rfl, Destination.take_image_append long _⟩

/-- The packets of a pair on a link that delays and loses are in succession as long as a copy of
every block arrives before the sender goes on. -/
theorem undeceived_of_reaches
    (opens : Receiver.open? policy mode (some source.length) confirm initial 0 = .ok receiver)
    (forthLoses : forth.Loses) (backLoses : back.Loses) (delays_a : thither.OnlyDelays)
    (delays_b : hither.OnlyDelays)
    (reaches : (Pair.start (.start policy source 0) receiver
      ⟨.fresh thither forth, .fresh hither back⟩ patience).Reaches pair)
    (covers : forth = .none ∨ (pair.ledger forth).Covers mode source) :
    pair.receiver.Undeceived source := by
  have long := Int.ofNat_le.mp (Receiver.le_capacity_of_open? opens)
  obtain rfl := Receiver.eq_start_of_open? opens
  let setup : Receiver.Setup τ := ⟨policy, mode, some source.length, confirm⟩
  have begins : (Pair.start (.start policy source 0) (.start setup initial 0)
      ⟨.fresh thither forth, .fresh hither back⟩ patience).Shows setup initial source forth back
      .start := Pair.shows_start delays_a delays_b patience
  obtain ⟨after, crosses, shows⟩ := begins.exists_of_reaches reaches
  rw [shows.ledger_eq] at covers
  cases Orderly.of_reaches rfl long forthLoses backLoses crosses covers with
  | greeting unmet => exact (Orderly.receives_of_unmet unmet).undeceived long shows.receiver
  | running _ receives => exact receives.undeceived long shows.receiver

/-- Delays alone do no harm, however long they are: a receiver never refuses a frame, never gives up
for the order or the size of the blocks, and when it returns it has got the source. -/
theorem undeceived_of_delay
    (opens : Receiver.open? policy mode (some source.length) confirm initial 0 = .ok receiver)
    (delays_a : thither.OnlyDelays) (delays_b : hither.OnlyDelays)
    (reaches : (Pair.start (.start policy source 0) receiver
      ⟨.fresh thither .none, .fresh hither .none⟩ patience).Reaches pair) :
    pair.receiver.Undeceived source := by
  have delivers : Alteration.none.Loses := fun _ _ => .inl rfl
  exact undeceived_of_reaches opens delivers delivers delays_a delays_b reaches (.inl rfl)

/-- Two copies of every packet arrive when the answers are late, and the receiver gets it right. -/
theorem undeceived_of_late_answers :
    ∃ receiver pair, Receiver.open? .brief .additive (some 3) false (.filled 3 0) 0 = .ok receiver ∧
      (Pair.start (.start .brief [1, 2, 3] 0) receiver
        ⟨.fresh .late .none, .fresh .late .none⟩ none).complete 400 = some pair ∧
      Impairment.late.OnlyDelays ∧ pair.receiver.outcome? = some (.ok 3) ∧
      pair.receiver.Undeceived [1, 2, 3] := by
  let receiver : Receiver Rat := .start ⟨.brief, .additive, some 3, false⟩ (.filled 3 0) 0
  have opens : Receiver.open? .brief .additive (some 3) false (.filled 3 0) 0 = .ok receiver := rfl
  have runs : ((Pair.start (.start .brief [1, 2, 3] 0) receiver
      ⟨.fresh .late .none, .fresh .late .none⟩ none).complete 400).any
        (fun pair => pair.receiver.outcome? = some (.ok 3)) = true := by
    decide +kernel
  obtain ⟨pair, completes, outcome⟩ := (Option.any_eq_true ..).mp runs
  have delays := Impairment.late_onlyDelays
  exact ⟨receiver, pair, opens, completes, delays, of_decide_eq_true outcome,
    undeceived_of_delay opens delays delays (Pair.reaches_of_complete completes)⟩

/-- When writes are delayed and lost in any way, and of every block a copy arrives before the sender
goes on to the next one, a receiver that returns has got the source. -/
theorem whole_of_arrived
    (opens : Receiver.open? policy mode (some source.length) confirm initial 0 = .ok receiver)
    (forthLoses : forth.Loses) (backLoses : back.Loses) (delays_a : thither.OnlyDelays)
    (delays_b : hither.OnlyDelays)
    (reaches : (Pair.start (.start policy source 0) receiver
      ⟨.fresh thither forth, .fresh hither back⟩ patience).Reaches pair)
    (arrived : ∀ place < blockCount source,
      (place, packet mode source place) ∈ (pair.ledger forth).arrived)
    {length : Nat} (returns : pair.receiver.outcome? = some (.ok length)) :
    length = source.length ∧ pair.receiver.destination.toList.take source.length = source := by
  have covers : (pair.ledger forth).Covers mode source := fun place _ => arrived place
  exact (undeceived_of_reaches opens forthLoses backLoses delays_a delays_b reaches
    (.inr covers)).whole length returns

/-- The first copy of a block is lost, and the answers are late. -/
theorem whole_of_late_repetition :
    ∃ receiver pair, Receiver.open? .brief .additive (some 3) false (.filled 3 0) 0 = .ok receiver ∧
      (Alteration.losing 0).Loses ∧ Alteration.none.Loses ∧ Impairment.late.OnlyDelays ∧
      (Pair.start (.start .brief [1, 2, 3] 0) receiver
        ⟨.fresh .late (.losing 0), .fresh .late .none⟩ none).complete 400 = some pair ∧
      (∀ place < blockCount [1, 2, 3],
        (place, packet .additive [1, 2, 3] place) ∈ (pair.ledger (.losing 0)).arrived) ∧
      pair.receiver.outcome? = some (.ok 3) ∧
      pair.receiver.destination.toList.take 3 = [1, 2, 3] := by
  let receiver : Receiver Rat := .start ⟨.brief, .additive, some 3, false⟩ (.filled 3 0) 0
  have opens : Receiver.open? .brief .additive (some 3) false (.filled 3 0) 0 = .ok receiver := rfl
  have runs : ((Pair.start (.start .brief [1, 2, 3] 0) receiver
      ⟨.fresh .late (.losing 0), .fresh .late .none⟩ none).complete 400).any
        (fun pair => (∀ place < blockCount [1, 2, 3],
          (place, packet .additive [1, 2, 3] place) ∈ (pair.ledger (.losing 0)).arrived) ∧
          pair.receiver.outcome? = some (.ok 3)) = true := by
    decide +kernel
  obtain ⟨pair, completes, holds⟩ := (Option.any_eq_true ..).mp runs
  obtain ⟨arrived, returns⟩ := of_decide_eq_true holds
  have loses := Alteration.losing_loses 0
  have delivers : Alteration.none.Loses := fun _ _ => .inl rfl
  have delays := Impairment.late_onlyDelays
  exact ⟨receiver, pair, opens, loses, delivers, delays, completes, arrived, returns,
    (whole_of_arrived opens loses delivers delays delays (Pair.reaches_of_complete completes)
      arrived returns).2⟩

/-- The last block is lost, and the acknowledgement of the second copy of the block before is taken
for its own: both sides return, and the last byte of the source is missing. -/
theorem not_whole_of_late_acknowledgement :
    ∃ source receiver pair,
      Receiver.open? .brief .additive (some 129) false (.filled 129 0) 0 = .ok receiver ∧
      source.length = 129 ∧ (Alteration.losing 2).Loses ∧ Impairment.late.OnlyDelays ∧
      (Pair.start (.start .brief source 0) receiver
        ⟨.fresh .late (.losing 2), .fresh .late .none⟩ none).complete 400 = some pair ∧
      pair.sender.outcome? = some (.ok 129) ∧ pair.receiver.outcome? = some (.ok 128) ∧
      pair.receiver.destination.toList.take 129 ≠ source := by
  let source : List UInt8 := List.replicate 129 7
  let receiver : Receiver Rat := .start ⟨.brief, .additive, some 129, false⟩ (.filled 129 0) 0
  have runs : ((Pair.start (.start .brief source 0) receiver
      ⟨.fresh .late (.losing 2), .fresh .late .none⟩ none).complete 400).any
        (fun pair => pair.sender.outcome? = some (.ok 129) ∧
          pair.receiver.outcome? = some (.ok 128) ∧
          pair.receiver.destination.toList.take 129 ≠ source) = true := by
    decide +kernel
  obtain ⟨pair, completes, holds⟩ := (Option.any_eq_true ..).mp runs
  exact ⟨source, receiver, pair, rfl, List.length_replicate, Alteration.losing_loses 2,
    Impairment.late_onlyDelays, completes, of_decide_eq_true holds⟩

end Delay
end Xmodem
