import Xmodem.Proofs.Wire

/-!
# Turns

A session that has its turn acts until it blocks or ends.  The relation `Turn` follows it from
action to action; only the session and the wire change meanwhile.  `Pair.Yields` follows a whole
pair from one scheduling point to the next.
-/

namespace Xmodem

/-- Why one side of a pair lets the other go on. -/
inductive Pause where
  /-- It has not begun. -/
  | ready
  /-- It waits for a byte until a deadline. -/
  | until (deadline : Rat)
  /-- It has ended. -/
  | ended

/-- Whether a wait of some side is a given pause. -/
def Pause.Keeps : Pause → LinkEnd → Wait Rat → Prop
  | ready, _, wait => wait = .ready
  | .until deadline, _, wait => ∃ timeout, wait = .byte timeout deadline
  | ended, .a, wait => wait = .partner none
  | ended, .b, wait => wait = .ended

/-- The deadline of a pause. -/
def Pause.deadline? : Pause → Option Rat
  | .until deadline => some deadline
  | _ => none

theorem Pause.Keeps.deadline?_eq {pause : Pause} {side : LinkEnd} {wait : Wait Rat}
    (keeps : pause.Keeps side wait) : wait.deadline? = pause.deadline? := by
  cases pause with
  | ready =>
      obtain rfl : wait = .ready := keeps
      rfl
  | «until» deadline =>
      obtain ⟨timeout, rfl⟩ := keeps
      rfl
  | ended =>
      cases side with
      | a =>
          obtain rfl : wait = .partner none := keeps
          rfl
      | b =>
          obtain rfl : wait = .ended := keeps
          rfl

/-- A session with its turn at some instant acts on a wire until it pauses. -/
inductive Turn {σ : Type} [Session σ Rat] (side : LinkEnd) (now : Rat) :
    σ → Wire → σ → Wire → Pause → Prop
  | stop {session : σ} {wire : Wire} :
      Session.action session now = .stop → Turn side now session wire session wire .ended
  | block {session : σ} {wire : Wire} {timeout deadline : Rat} :
      Session.action session now = .read timeout →
      wire.inbox side = [] →
      now + timeout = deadline →
      Turn side now session wire session wire (.until deadline)
  | proceed {session later : σ} {wire after : Wire} {pause : Pause} :
      Session.action session now = .proceed →
      Turn side now (Session.next session now .proceeded).1 wire later after pause →
      Turn side now session wire later after pause
  | write {session later : σ} {wire after : Wire} {pause : Pause} {bytes : List UInt8} :
      Session.action session now = .write bytes →
      Turn side now (Session.next session now .written).1 (wire.wrote bytes side) later after
        pause →
      Turn side now session wire later after pause
  | read {session later : σ} {wire after : Wire} {pause : Pause} {timeout : Rat} {value : UInt8}
      {rest : List UInt8} :
      Session.action session now = .read timeout →
      wire.inbox side = value :: rest →
      Turn side now (Session.next session now (.byte value)).1 (wire.withInbox rest side) later
        after pause →
      Turn side now session wire later after pause

/-- A session makes internal moves and reads bytes that have arrived, all at one instant. -/
inductive Digests {σ τ : Type} [Session σ τ] (now : τ) :
    σ → List UInt8 → σ → List UInt8 → Prop
  | done {session : σ} {inbox : List UInt8} : Digests now session inbox session inbox
  | proceed {session later : σ} {inbox rest : List UInt8} :
      Session.action session now = .proceed →
      Digests now (Session.next session now .proceeded).1 inbox later rest →
      Digests now session inbox later rest
  | read {session later : σ} {value : UInt8} {inbox rest : List UInt8} {timeout : τ} :
      Session.action session now = .read timeout →
      Digests now (Session.next session now (.byte value)).1 inbox later rest →
      Digests now session (value :: inbox) later rest

/-- What a session digests is the beginning of its turn. -/
theorem Digests.turn {σ : Type} [Session σ Rat] {side : LinkEnd} {now : Rat}
    {session middle later : σ} {wire after : Wire} {pause : Pause} {inbox rest : List UInt8}
    (digests : Digests now session inbox middle rest) (arrived : wire.inbox side = inbox)
    (turn : Turn side now middle (wire.withInbox rest side) later after pause) :
    Turn side now session wire later after pause := by
  induction digests generalizing wire with
  | done =>
      rw [← arrived, Wire.withInbox_inbox] at turn
      exact turn
  | proceed proceeds _ induction => exact .proceed proceeds (induction arrived turn)
  | read reads _ induction =>
      apply Turn.read reads arrived
      apply induction (Wire.inbox_withInbox ..)
      rwa [Wire.withInbox_withInbox]

theorem Turn.next_of_read {σ : Type} [Session σ Rat] {side : LinkEnd} {now timeout : Rat}
    {session later : σ} {wire after : Wire} {pause : Pause} {value : UInt8} {rest : List UInt8}
    (turn : Turn side now session wire later after pause)
    (reads : Session.action session now = .read timeout)
    (waiting : wire.inbox side = value :: rest) :
    Turn side now (Session.next session now (.byte value)).1 (wire.withInbox rest side) later after
      pause := by
  cases turn with
  | stop stops => simp [reads] at stops
  | block _ empty _ => simp [waiting] at empty
  | proceed proceeds _ => simp [reads] at proceeds
  | write writes _ => simp [reads] at writes
  | read _ first turn =>
      rw [waiting, List.cons.injEq] at first
      obtain ⟨rfl, rfl⟩ := first
      exact turn

namespace Pair

variable {τ γ : Type} [Quantity τ] [Generator γ]

/-- A pair moves, and goes on until nobody has the turn. -/
inductive Yields : Pair τ γ → Pair τ γ → Prop
  | last {before after : Pair τ γ} :
      before.next = some after → after.turn = none → Yields before after
  | more {before middle after : Pair τ γ} :
      before.next = some middle → middle.turn ≠ none → Yields middle after → Yields before after

/-- The pair after a number of moves; nothing when it is over before. -/
def run : Nat → Pair τ γ → Option (Pair τ γ)
  | 0, pair => some pair
  | moves + 1, pair => pair.next >>= run moves

/-- Whatever a pair completes to after a scheduling point, it completes to before. -/
theorem Yields.complete {before after final : Pair τ γ} (yields : before.Yields after) {fuel : Nat}
    (completes : after.complete fuel = some final) :
    ∃ fuel, before.complete fuel = some final := by
  induction yields with
  | last moves _ => exact ⟨fuel + 1, by simp [Pair.complete, moves, completes]⟩
  | more moves _ _ induction =>
      obtain ⟨fuel, completes⟩ := induction completes
      exact ⟨fuel + 1, by simp [Pair.complete, moves, completes]⟩

/-- No scheduling point lies between a pair and the point to which it yields. -/
theorem Yields.run {before after later : Pair τ γ} (yields : before.Yields after) {moves : Nat}
    (ran : before.run (moves + 1) = some later) (rests : later.turn = none) :
    ∃ fewer ≤ moves, after.run fewer = some later := by
  induction yields generalizing moves with
  | last moved _ => exact ⟨moves, Nat.le_refl _, by simpa [Pair.run, moved] using ran⟩
  | @more before middle after moved busy _ induction =>
      have ran_middle : middle.run moves = some later := by simpa [Pair.run, moved] using ran
      cases moves with
      | zero =>
          have middle_eq : middle = later := by simpa [Pair.run] using ran_middle
          exact absurd (middle_eq ▸ rests) busy
      | succ moves =>
          obtain ⟨fewer, fewer_le, ran_after⟩ := induction ran_middle
          exact ⟨fewer, by omega, ran_after⟩

end Pair

end Xmodem
