import Xmodem.Proofs.Receiver.Independence
import Xmodem.Proofs.Restarts

/-!
# Fresh sessions

A boot loop is one receiver after another on what the earlier ones left of the line.  Each of them
failed for a reason that a fresh session may avoid, and the last one alone decides what the loop
returns: neither the bytes that the others left in the destination nor anything else that they knew
has an influence on it.
-/

namespace Xmodem

/-- Surroundings of any kind, by what they answer to an action at an instant, when they answer, and
what becomes of them. -/
structure Surroundings (ε τ : Type) where
  /-- The answer to an action, its instant, and the state afterwards. -/
  respond : ε → Action τ → τ → Answer × τ × ε

/-- Whether surroundings that were in one state give the answers of some moments, and are in another
state afterwards. -/
inductive Surroundings.Serves {σ τ ε : Type} [Session σ τ] (surroundings : Surroundings ε τ) :
    ε → List (Moment σ τ) → ε → Prop
  | nothing (state : ε) : Serves surroundings state [] state
  | more {first next last : ε} {moment : Moment σ τ} {moments : List (Moment σ τ)} :
      surroundings.respond first moment.action moment.asked =
        (moment.answer, moment.answered, next) →
      Serves surroundings next moments last → Serves surroundings first (moment :: moments) last

variable {τ : Type} [Quantity τ]

/-- One session of a boot loop. -/
structure Sitting (τ : Type) [Quantity τ] where
  /-- The destination as the session found it. -/
  initial : Destination
  /-- When the session was set up. -/
  begun : τ
  /-- What the session did. -/
  moments : List (Moment (Receiver τ) τ)
  /-- How far the session came. -/
  last : Receiver τ

/-- Whether a session failed, and a fresh one may do better. -/
def Sitting.Fails (sitting : Sitting τ) : Prop :=
  ∃ failure, sitting.last.outcome? = some (.error failure) ∧
    failure.reason ≠ .destinationExhausted ∧ failure.reason ≠ .underlyingIoError

/-- The sessions of a boot loop that failed, and the current one.  Every session is a fresh
receiver, set up when the one before it failed, on the destination which that one left behind. -/
inductive Sittings (setup : Receiver.Setup τ) (initial : Destination) (begun : τ) :
    List (Sitting τ) → Sitting τ → Prop
  | first {moments : List (Moment (Receiver τ) τ)} {last : Receiver τ} :
      Converses (.start setup initial begun) moments last →
      Sittings setup initial begun [] ⟨initial, begun, moments, last⟩
  | next {earlier : List (Sitting τ)} {failed : Sitting τ} {later : τ}
      {moments : List (Moment (Receiver τ) τ)} {last : Receiver τ} :
      Sittings setup initial begun earlier failed → failed.Fails →
      Ends (fun _ final => final.answered = later) failed.moments →
      Converses (.start setup failed.last.destination later) moments last →
      Sittings setup initial begun (earlier ++ [failed])
        ⟨failed.last.destination, later, moments, last⟩

theorem Failure.retryable_iff (failure : Failure) :
    failure.retryable = true ↔
      failure.reason ≠ .destinationExhausted ∧ failure.reason ≠ .underlyingIoError := by
  unfold retryable
  cases failure.reason <;> simp [AbortReason.retryable]

namespace Sittings

variable {setup : Receiver.Setup τ} {initial : Destination} {begun : τ}
  {earlier : List (Sitting τ)} {current : Sitting τ} {moment : Moment (Receiver τ) τ}

theorem converses (sittings : Sittings setup initial begun earlier current) :
    Converses (.start setup current.initial current.begun) current.moments current.last := by
  cases sittings with
  | first talks => exact talks
  | next _ _ _ talks => exact talks

theorem capacity_eq (sittings : Sittings setup initial begun earlier current) :
    current.initial.capacity = initial.capacity := by
  induction sittings with
  | first => rfl
  | @next _ failed _ _ _ before _ _ _ induction =>
      obtain ⟨course, -, stands⟩ := Receiver.exists_treads before.converses
      exact stands.keeps.capacity_eq.trans induction

theorem step (sittings : Sittings setup initial begun earlier current) (valid : moment.Valid)
    (same : moment.session = current.last) :
    Sittings setup initial begun earlier
      { current with moments := current.moments ++ [moment], last := moment.after } := by
  cases sittings with
  | first talks =>
      obtain rfl : moment.session = _ := same
      exact .first (talks.step valid)
  | next before fails ends talks =>
      obtain rfl : moment.session = _ := same
      exact .next before fails ends (talks.step valid)

end Sittings

namespace BootLoop

/-- How a boot loop with some limit came about, that began with a destination. -/
structure Retraces (setup : Receiver.Setup τ) (limit : Option Nat) (initial : Destination)
    (begun : τ) (moments : List (Moment (BootLoop τ) τ)) (loop : BootLoop τ)
    (earlier : List (Sitting τ)) (current : Sitting τ) : Prop where
  sittings : Sittings setup initial begun earlier current
  /-- What the loop did is what its sessions did, one after the other. -/
  moments_eq : moments.map inner = earlier.flatMap Sitting.moments ++ current.moments
  receiver_eq : loop.receiver = current.last
  limit_eq : loop.limit = limit
  session_eq : loop.session = earlier.length + 1
  /-- There are never more sessions than allowed. -/
  within : ∀ most, limit = some most → loop.session ≤ most
  /-- When a fresh session may do better, none is left. -/
  spent : current.Fails → limit = some loop.session

section Looping

variable {setup : Receiver.Setup τ} {limit : Option Nat} {initial : Destination} {begun : τ}
  {moments : List (Moment (BootLoop τ) τ)} {loop : BootLoop τ} {earlier : List (Sitting τ)}
  {current : Sitting τ} {moment : Moment (BootLoop τ) τ}

/-- A loop that goes on goes on with its session, or with a fresh one after a failure. -/
theorem Retraces.step
    (retraces : Retraces setup limit initial begun moments moment.session earlier current)
    (valid : moment.Valid) :
    ∃ earlier current,
      Retraces setup limit initial begun (moments ++ [moment]) moment.after earlier current := by
  obtain ⟨sittings, moments_eq, receiver_eq, limit_eq, session_eq, within, -⟩ := retraces
  have goes_on := sittings.step (valid_inner valid) receiver_eq
  have moments_eq : (moments ++ [moment]).map inner =
      earlier.flatMap Sitting.moments ++ (current.moments ++ [inner moment]) := by
    rw [List.map_append, moments_eq, List.append_assoc]
    rfl
  obtain ⟨none_left, same⟩ | ⟨failure, failed, retryable, left, fresh⟩ := after_cases valid
  · rw [same]
    refine ⟨earlier, _, goes_on, moments_eq, rfl, limit_eq, session_eq, within, ?_⟩
    rintro ⟨failure, failed, avoidable⟩
    have stuck := none_left failure failed (failure.retryable_iff.mpr avoidable)
    cases limit with
    | none => simp [mayRestart, limit_eq] at stuck
    | some most =>
        have enough : most ≤ moment.session.session := by simpa [mayRestart, limit_eq] using stuck
        exact congrArg some (Nat.le_antisymm enough (within most rfl))
  · obtain ⟨course, -, stands⟩ := Receiver.exists_treads goes_on.converses
    have fails : Sitting.Fails { current with
        moments := current.moments ++ [inner moment], last := (inner moment).after } :=
      ⟨failure, failed, failure.retryable_iff.mp retryable⟩
    rw [fresh, stands.keeps.setup_eq]
    refine ⟨earlier ++ [_], _, .next goes_on fails ?_ .silent, ?_, rfl, limit_eq, ?_, ?_, ?_⟩
    · exact (ends_append_singleton ..).mpr rfl
    · rw [moments_eq, List.flatMap_append, List.flatMap_singleton, List.append_nil]
    · rw [List.length_append, session_eq]
      rfl
    · rintro most rfl
      have below : moment.session.session < most := by simpa [mayRestart, limit_eq] using left
      exact below
    · rintro ⟨_, failed, -⟩
      cases failed

/-- Every conversation of a loop is one of its sessions after the other. -/
theorem exists_retraces
    (talks : Converses (start limit (.start setup initial begun)) moments loop)
    (allowed : ∀ most, limit = some most → 1 ≤ most) :
    ∃ earlier current, Retraces setup limit initial begun moments loop earlier current := by
  induction talks with
  | silent =>
      refine ⟨[], _, .first .silent, rfl, rfl, rfl, rfl, allowed, ?_⟩
      rintro ⟨_, failed, -⟩
      cases failed
  | step _ valid induction =>
      obtain ⟨earlier, current, retraces⟩ := induction
      exact retraces.step valid

end Looping
end BootLoop

namespace Surroundings

variable {σ ε : Type} [Session σ τ] {surroundings : Surroundings ε τ} {first last : ε}

omit [Quantity τ] in
/-- What surroundings did for a whole conversation they did for its parts, one after the other. -/
theorem Serves.cut {front back : List (Moment σ τ)}
    (serves : surroundings.Serves first (front ++ back) last) :
    ∃ middle, surroundings.Serves first front middle ∧ surroundings.Serves middle back last := by
  induction front generalizing first with
  | nil => exact ⟨first, .nothing first, serves⟩
  | cons moment front induction =>
      cases serves with
      | more responds serves =>
          obtain ⟨middle, before, after⟩ := induction serves
          exact ⟨middle, .more responds before, after⟩

theorem Serves.alike {moments others : List (Moment (Receiver τ) τ)}
    (serves : surroundings.Serves first moments last)
    (alike : List.Forall₂ Receiver.Alike moments others) :
    surroundings.Serves first others last := by
  induction alike generalizing first with
  | nil =>
      cases serves with
      | nothing => exact .nothing _
  | cons same _ induction =>
      cases serves with
      | more responds serves =>
          refine .more ?_ (induction serves)
          rw [same.action_eq, same.asked_eq, same.answer_eq, same.answered_eq]
          exact responds

end Surroundings

namespace BootLoop

/-- Whether the last session of a loop is fresh: from the same state of its surroundings, a single
receiver with the same choices ends in the same manner on any destination of that size, and leaves
the same bytes there as far as it reports them. -/
def Fresh (policy : RetryPolicy τ) (mode : ChecksumMode) (expectedLength : Option Int)
    (confirmEot : Bool) (earlier : List (Sitting τ)) (current : Sitting τ) : Prop :=
  ∀ (ε : Type) (surroundings : Surroundings ε τ) (first last : ε),
    surroundings.Serves first (earlier.flatMap Sitting.moments ++ current.moments) last →
    ∃ middle, surroundings.Serves first (earlier.flatMap Sitting.moments) middle ∧
      surroundings.Serves middle current.moments last ∧
      ∀ other : Destination, other.capacity = current.initial.capacity → other.readOnly = false →
        ∃ receiver moments final,
          Receiver.open? policy mode expectedLength confirmEot other current.begun =
            .ok receiver ∧
          Converses receiver moments final ∧ surroundings.Serves middle moments last ∧
          final.outcome? = current.last.outcome? ∧
          ∀ count, current.last.outcome? = some (.ok count) →
            final.destination.toList.take count = current.last.destination.toList.take count

section Opening

variable {policy : RetryPolicy τ} {mode : ChecksumMode} {expectedLength : Option Int}
  {confirmEot : Bool} {initial : Destination} {begun : τ}

theorem fresh_of_sittings {receiver : Receiver τ} {earlier : List (Sitting τ)}
    {current : Sitting τ}
    (opens : Receiver.open? policy mode expectedLength confirmEot initial begun = .ok receiver)
    (sittings : Sittings ⟨policy, mode, expectedLength.map Int.toNat, confirmEot⟩ initial begun
      earlier current) :
    Fresh policy mode expectedLength confirmEot earlier current := by
  intro ε surroundings first last serves
  obtain ⟨middle, before, after⟩ := serves.cut
  refine ⟨middle, before, after, fun other capacity_eq writable => ?_⟩
  obtain ⟨others, destination, resembles, talks, alike⟩ :=
    Receiver.exists_alike sittings.converses capacity_eq
  have opens_also := Receiver.open?_eq_of_capacity_eq opens
    (capacity_eq.trans sittings.capacity_eq) writable current.begun
  refine ⟨_, others, _, opens_also, talks, after.alike alike, rfl, fun count succeeded => ?_⟩
  obtain rfl := Receiver.eq_transferred_of_converses sittings.converses succeeded
  exact resembles.take_eq current.last.transferred_le

/-- The sessions of a boot loop follow one another until one succeeds, fails in a manner that a
fresh session cannot avoid, or is the last one that is allowed.  The outcome of the loop is that of
its current session, which is fresh.  Where no session is allowed, there is no loop. -/
theorem fresh_of_converses {limit : Option Int} {first loop : BootLoop τ}
    {moments : List (Moment (BootLoop τ) τ)}
    (opens : open? limit (Receiver.open? policy mode expectedLength confirmEot initial begun) =
      .ok first)
    (talks : Converses first moments loop) :
    (∃ earlier current,
      Retraces ⟨policy, mode, expectedLength.map Int.toNat, confirmEot⟩ (limit.map Int.toNat)
        initial begun moments loop earlier current ∧
      (∀ now, Session.action loop now = .stop ↔
        ∃ outcome, current.last.outcome? = some outcome) ∧
      Session.outcome? loop = current.last.outcome? ∧
      Fresh policy mode expectedLength confirmEot earlier current) ∧
    ∀ most < 1, ∀ opened : Except DestinationError (Receiver τ),
      open? (some most) opened = .error .noSessions := by
  obtain ⟨receiver, opened, rfl, some_session⟩ := eq_start_of_open? opens
  obtain rfl := Receiver.eq_start_of_open? opened
  have allowed : ∀ most, limit.map Int.toNat = some most → 1 ≤ most := by
    intro most bounds
    obtain ⟨bound, given, rfl⟩ := Option.map_eq_some_iff.mp bounds
    have positive := some_session bound given
    omega
  obtain ⟨earlier, current, retraces⟩ := exists_retraces talks allowed
  refine ⟨⟨earlier, current, retraces, fun now => ?_, ?_, ?_⟩, fun most none_allowed _ => ?_⟩
  · rw [← retraces.receiver_eq]
    exact Receiver.action_eq_stop_iff loop.receiver now
  · exact congrArg Receiver.outcome? retraces.receiver_eq
  · exact fresh_of_sittings opened retraces.sittings
  · exact if_pos none_allowed

end Opening

/-- A sender cancels after one block, and another one sends its own: the first session has left
three bytes, and the second one is fresh. -/
theorem fresh_after_cancellation :
    let setup : Receiver.Setup Rat := ⟨.brief, .additive, none, false⟩
    ∃ moments loop earlier current,
      Converses (start (some 2) (.start setup (.filled 3 0) 0)) moments loop ∧
      loop.receiver.outcome? = some (.ok 3) ∧
      Retraces setup (some 2) (.filled 3 0) 0 moments loop earlier current ∧
      earlier.length = 1 ∧ Fresh .brief .additive none false earlier current := by
  intro setup
  let frame (source : List UInt8) : List (ScriptItem Rat) :=
    (Frame.encode .additive (Packets.block source 0)).map .byte
  let cancels : ScriptItem Rat := .byte (Signal.byte .cancel)
  let ends : ScriptItem Rat := .byte (Signal.byte .endOfTransmission)
  let line : ScriptedLine Rat :=
    ⟨frame [7, 8, 9] ++ cancels :: frame [1, 2, 3] ++ [ends], none, [], 0⟩
  let run := Run.mk (start (some 2) (.start setup (.filled 3 0) 0)) line 0 []
  have completes : (run.talk 600).2.session.receiver.outcome? = some (.ok 3) ∧
      (run.talk 600).2.session.session = 2 := by
    decide +kernel
  have opens : open? (some 2) (Receiver.open? .brief .additive none false (.filled 3 0) 0) =
      .ok run.session := rfl
  have talks := run.converses_talk 600
  obtain ⟨⟨earlier, current, retraces, -, -, fresh⟩, -⟩ := fresh_of_converses opens talks
  have earlier_one := Nat.succ.inj (retraces.session_eq.symm.trans completes.2)
  exact ⟨_, _, earlier, current, talks, completes.1, retraces, earlier_one, fresh⟩

end BootLoop
end Xmodem
