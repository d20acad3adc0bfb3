import Xmodem.Line.History
import Xmodem.Line.Script

/-!
# Runs over a scripted line

A run couples a session, a scripted line, and a clock.  Every transition carries out one action of
the session.  A run of some number of transitions can be cut anywhere.
-/

namespace Xmodem

/-- A session on a scripted line at some instant. -/
structure Run (σ τ : Type) where
  /-- The session. -/
  session : σ
  /-- The line. -/
  line : ScriptedLine τ
  /-- The clock. -/
  now : τ
  /-- What happened so far, the latest first. -/
  past : List (Happening τ)

namespace Run

variable {σ τ : Type} [Quantity τ] [Session σ τ]

/-- What happened so far, in order. -/
def history (run : Run σ τ) : List (Happening τ) :=
  run.past.reverse

/-- Hand an answer to the session. -/
def answer (run : Run σ τ) (answer : Answer) : Run σ τ :=
  let (session, events) := Session.next run.session run.now answer
  { run with
    session := session
    past := (events.map .reported).reverse ++ run.past }

/-- Carry out one action; nothing when the session is over. -/
def next (run : Run σ τ) : Option (Run σ τ) :=
  match Session.action run.session run.now with
  | .stop => none
  | .proceed => some (run.answer .proceeded)
  | .read timeout =>
      let (answer, now, line) := run.line.read run.now timeout
      let past := Happening.ofReading timeout answer ++ run.past
      some ({ run with line := line, now := now, past := past }.answer answer)
  | .write bytes =>
      let (answer, line) := run.line.write
      some ({ run with line := line, past := .wrote bytes :: run.past }.answer answer)

/-- Carry out actions until the session is over; nothing when more than `fuel` would be needed. -/
def complete : Nat → Run σ τ → Option (Run σ τ)
  | 0, _ => none
  | fuel + 1, run =>
      match run.next with
      | none => some run
      | some run => complete fuel run

theorem complete_eq_some_of_next {fuel : Nat} {run after : Run σ τ} (moves : run.next = some after) :
    run.complete (fuel + 1) = after.complete fuel := by
  simp [complete, moves]

/-- Run a session from its beginning to its end. -/
def perform (fuel : Nat) (run : Run σ τ) : Option (Except AlreadyRan Outcome × Run σ τ) :=
  if Session.idle run.session then
    match run.complete fuel with
    | none => none
    | some run => (Session.outcome? run.session).map fun outcome => (.ok outcome, run)
  else
    some (.error ⟨Session.role run.session⟩, run)

end Run
end Xmodem
