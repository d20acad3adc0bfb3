import Xmodem.Metrics
import Xmodem.Note
import Xmodem.RetryPolicy

/-!
# Sessions

A session is a reactive machine.  At every instant it names one action; its surroundings carry the
action out and hand back an answer, and the session moves on and reports events.  Nothing else can
touch a session, so a history of instants and answers determines it.
-/

namespace Xmodem

/-- A failure of the line. -/
inductive Fault where
  /-- Failure of the operating system. -/
  | system (message : String)
  /-- Failure of a serial port. -/
  | port (message : String)
  /-- Use of a closed end of a link. -/
  | closed (line : String)
  deriving DecidableEq, Repr

namespace Fault

/-- Explanation of a fault. -/
def message : Fault → String
  | system message => message
  | port message => message
  | closed line => "channel " ++ line ++ " is closed"

end Fault

/-- What a session does next. -/
inductive Action (τ : Type) where
  /-- An internal move. -/
  | proceed
  /-- Wait for one byte for at most a given time. -/
  | read (timeout : τ)
  /-- Put bytes on the line. -/
  | write (bytes : List UInt8)
  /-- Nothing; the session is over. -/
  | stop
  deriving DecidableEq, Repr

/-- What the surroundings answer. -/
inductive Answer where
  /-- The internal move was made. -/
  | proceeded
  /-- A byte arrived. -/
  | byte (value : UInt8)
  /-- No byte arrived in time. -/
  | silence
  /-- The bytes were put on the line. -/
  | written
  /-- The line failed. -/
  | fault (fault : Fault)
  deriving DecidableEq, Repr

/-- State of a session between two steps, as shown to observers. -/
inductive Status where
  /-- State of a sender. -/
  | sending (phase : SendPhase) (cursor : Nat) (blockNumber : UInt8)
      (attempts handshakeAttempts : Nat)
  /-- State of a receiver. -/
  | receiving (phase : ReceivePhase) (cursor : Nat) (expectedBlock : UInt8)
      (lastAccepted : Option UInt8) (handshakeAttempts idlePeriods : Nat)
  deriving DecidableEq, Repr

/-- What a session reports. -/
inductive Event (τ : Type) where
  /-- A remark. -/
  | note (note : Note τ)
  /-- One more block went through; the total number of bytes so far. -/
  | progress (direction : Direction) (total : Nat)
  /-- A step of the protocol ended normally. -/
  | stepped (status : Status)
  deriving DecidableEq, Repr

/-- The interface of a session. -/
class Session (σ : Type) (τ : outParam Type) where
  /-- The end that a session drives. -/
  role : σ → Role
  /-- Whether a session has not begun. -/
  idle : σ → Bool
  /-- The action at an instant. -/
  action : σ → τ → Action τ
  /-- The session after an answer received at an instant, and the events on the way. -/
  next : σ → τ → Answer → σ × List (Event τ)
  /-- The outcome of a session that is over. -/
  outcome? : σ → Option Outcome

/-- Refusal to run a session a second time. -/
structure AlreadyRan where
  /-- The end that ran. -/
  role : Role
  deriving DecidableEq, Repr

namespace AlreadyRan

/-- Explanation of the refusal. -/
def message (refusal : AlreadyRan) : String :=
  refusal.role.name ++ " session already ran"

end AlreadyRan
end Xmodem
