import Xmodem.Receiver

/-!
# Boot loops

A boot loop runs one receiver after another on the same line and the same destination.  A failure
that a fresh session may avoid leads to the next session; any other ending ends the loop.
-/

namespace Xmodem

/-- The reasons for which a boot loop does not begin. -/
inductive BootError where
  /-- No session is allowed. -/
  | noSessions
  /-- The destination is refused. -/
  | destination (error : DestinationError)
  deriving DecidableEq, Repr

namespace BootError

/-- Explanation of an error. -/
def message : BootError → String
  | noSessions => "max_sessions must be >= 1"
  | destination error => error.message

end BootError

/-- A sequence of receiving sessions. -/
structure BootLoop (τ : Type) [Quantity τ] where
  /-- Number of the current session, from one. -/
  session : Nat
  /-- How many sessions are allowed; no limit when absent. -/
  limit : Option Nat
  /-- The current session. -/
  receiver : Receiver τ

namespace BootLoop

variable {τ : Type} [Quantity τ]

/-- The loop that begins with a given receiver. -/
def start (limit : Option Nat) (receiver : Receiver τ) : BootLoop τ where
  session := 1
  limit := limit
  receiver := receiver

/-- Check the number of sessions before the first session is set up. -/
def open? (limit : Option Int) (receiver : Except DestinationError (Receiver τ)) :
    Except BootError (BootLoop τ) :=
  match limit, receiver with
  | some limit, receiver =>
      if limit < 1 then .error .noSessions
      else (receiver.mapError .destination).map (start (some limit.toNat))
  | none, receiver => (receiver.mapError .destination).map (start none)

/-- Whether another session may follow the current one. -/
def mayRestart (loop : BootLoop τ) : Bool :=
  match loop.limit with
  | some limit => loop.session < limit
  | none => true

/-- Note a failure that a fresh session may avoid, and begin that session if one is left. -/
def restart (loop : BootLoop τ) (now : τ) (failure : Failure) : BootLoop τ × List (Event τ) :=
  let events := [.note (.restarting loop.session failure.reason)]
  if loop.mayRestart then
    let receiver := loop.receiver
    ({ loop with
        session := loop.session + 1
        receiver := .start receiver.setup receiver.destination now }, events)
  else
    (loop, events)

/-- The loop after an answer, and the events on the way. -/
def next (loop : BootLoop τ) (now : τ) (answer : Answer) : BootLoop τ × List (Event τ) :=
  match loop.receiver.outcome? with
  | some _ => (loop, [])
  | none =>
      let (receiver, events) := loop.receiver.next now answer
      let loop := { loop with receiver := receiver }
      match receiver.outcome? with
      | some (.error failure) =>
          if failure.retryable then
            let (loop, more) := loop.restart now failure
            (loop, events ++ more)
          else
            (loop, events)
      | _ => (loop, events)

instance : Session (BootLoop τ) τ where
  role _ := .receiver
  idle loop := loop.session = 1 && Session.idle loop.receiver
  action loop now := loop.receiver.action now
  next := next
  outcome? loop := loop.receiver.outcome?

end BootLoop
end Xmodem
