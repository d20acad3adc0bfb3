import Xmodem.BootLoop
import Xmodem.Sender

/-!
# Transfers

A transfer is whatever moves one image over a line: a sender, a receiver, or a loop of receivers.
-/

namespace Xmodem

/-- A session of any sort. -/
inductive Transfer (τ : Type) [Quantity τ] where
  /-- A sender. -/
  | sending (sender : Sender τ)
  /-- A receiver. -/
  | receiving (receiver : Receiver τ)
  /-- One receiver after another. -/
  | booting (loop : BootLoop τ)

namespace Transfer

variable {τ : Type} [Quantity τ]

/-- The destination of a transfer that has one. -/
def destination? : Transfer τ → Option Destination
  | sending _ => none
  | receiving receiver => some receiver.destination
  | booting loop => some loop.receiver.destination

/-- The transfer after an answer, and the events on the way. -/
def next (transfer : Transfer τ) (now : τ) (answer : Answer) : Transfer τ × List (Event τ) :=
  match transfer with
  | sending sender => (sender.next now answer).map sending id
  | receiving receiver => (receiver.next now answer).map receiving id
  | booting loop => (loop.next now answer).map booting id

instance : Session (Transfer τ) τ where
  role
    | sending _ => .sender
    | receiving _ | booting _ => .receiver
  idle
    | sending sender => Session.idle sender
    | receiving receiver => Session.idle receiver
    | booting loop => Session.idle loop
  action
    | sending sender => Session.action sender
    | receiving receiver => Session.action receiver
    | booting loop => Session.action loop
  next := next
  outcome?
    | sending sender => sender.outcome?
    | receiving receiver => receiver.outcome?
    | booting loop => loop.receiver.outcome?

end Transfer
end Xmodem
