import Xmodem.Link.Loopback
import Xmodem.Receiver
import Xmodem.Sender

/-!
# Pairs of sessions

A sender and a receiver drive the two ends of one link and take turns.  A session keeps its turn
until it has to wait.  Then the first session that can go on does, the sender before the receiver;
when none can, the clock moves on to the earliest deadline.  The pair is over when the sender has
ended and has waited for the receiver.
-/

namespace Xmodem

/-- What keeps one side of a pair from going on. -/
inductive Wait (τ : Type) where
  /-- Nothing. -/
  | ready
  /-- An empty queue, until a deadline; the timeout that was asked for. -/
  | byte (timeout deadline : τ)
  /-- A write that takes until a deadline; the altered bytes. -/
  | delivery (deadline : τ) (bytes : List UInt8)
  /-- The end of the other side, until a deadline if there is one. -/
  | partner (deadline : Option τ)
  /-- Its own end. -/
  | ended
  deriving DecidableEq, Repr

namespace Wait

/-- When a wait is over at the latest. -/
def deadline? {τ : Type} : Wait τ → Option τ
  | byte _ deadline => some deadline
  | delivery deadline _ => some deadline
  | partner deadline => deadline
  | ready | ended => none

end Wait

/-- One side after a move. -/
structure Move (σ τ : Type) (γ : Type := Random) where
  /-- The session. -/
  session : σ
  /-- The link. -/
  link : Link τ γ
  /-- What happened, the latest first. -/
  happened : List (Happening τ)
  /-- What the side waits for, if it does. -/
  wait : Option (Wait τ)

namespace Move

variable {σ τ γ : Type} [Quantity τ] [Generator γ] [Session σ τ]

/-- Hand an answer to a session, after something happened. -/
def answer (session : σ) (link : Link τ γ) (now : τ) (happened : List (Happening τ))
    (answer : Answer) : Move σ τ γ :=
  let (session, events) := Session.next session now answer
  { session := session
    link := link
    happened := (events.map .reported).reverse ++ happened
    wait := none }

/-- Finish a write. -/
def deliver (side : LinkEnd) (session : σ) (link : Link τ γ) (now : τ)
    (happened : List (Happening τ)) (bytes : List UInt8) : Move σ τ γ :=
  let (dropped, link) := link.transmit side bytes
  answer session link now (Loopback.droppedNotes side dropped ++ happened) .written

/-- Carry out the next action of a session. -/
def act (side : LinkEnd) (session : σ) (link : Link τ γ) (now : τ) : Move σ τ γ :=
  match Session.action session now with
  | .stop => ⟨session, link, [], some .ended⟩
  | .proceed => answer session link now [] .proceeded
  | .read timeout =>
      match link.read? side with
      | some (value, link) => answer session link now [.received timeout value] (.byte value)
      | none => ⟨session, link, [], some (.byte timeout (now + timeout))⟩
  | .write bytes =>
      match link.prepare side bytes with
      | .error fault => answer session link now [.wrote bytes] (.fault fault)
      | .ok (altered, link) =>
          match link.pause side with
          | some duration =>
              ⟨session, link, [.wrote bytes], some (.delivery (now + duration) altered)⟩
          | none => deliver side session link now [.wrote bytes] altered

/-- Go on after a wait. -/
def resume (side : LinkEnd) (session : σ) (link : Link τ γ) (now : τ) : Wait τ → Move σ τ γ
  | .byte timeout _ =>
      match link.read? side with
      | some (value, link) => answer session link now [.received timeout value] (.byte value)
      | none => answer session link now [.silent timeout] .silence
  | .delivery _ bytes => deliver side session link now [] bytes
  | .ready | .partner _ | .ended => act side session link now

end Move

/-- A sender at the first end of a link and a receiver at the second. -/
structure Pair (τ : Type) [Quantity τ] (γ : Type := Random) where
  /-- The sender. -/
  sender : Sender τ
  /-- The receiver. -/
  receiver : Receiver τ
  /-- The link. -/
  link : Link τ γ
  /-- The clock. -/
  now : τ
  /-- The side whose turn it is, if there is one. -/
  turn : Option LinkEnd
  /-- What the sender waits for. -/
  senderWait : Wait τ
  /-- What the receiver waits for. -/
  receiverWait : Wait τ
  /-- How long the sender's side waits for the receiver after its own end; for ever when absent. -/
  patience : Option τ
  /-- What happened so far and on which side, the latest first. -/
  past : List (LinkEnd × Happening τ)

namespace Pair

variable {τ γ : Type} [Quantity τ] [Generator γ]

/-- Two sessions that have not begun, at the beginning of time. -/
def start (sender : Sender τ) (receiver : Receiver τ) (link : Link τ γ) (patience : Option τ) :
    Pair τ γ where
  sender := sender
  receiver := receiver
  link := link
  now := 0
  turn := some .a
  senderWait := .ready
  receiverWait := .ready
  patience := patience
  past := []

/-- The pair when its receiver ends in the course of its first write, of which nothing arrives. -/
def withoutReceiver (pair : Pair τ γ) : Pair τ γ :=
  { pair with
    receiverWait := .ended
    past := (.b, .wrote [Receiver.Writing.request.byte pair.receiver.setup.mode]) :: pair.past }

/-- What happened on one side, in order. -/
def history (pair : Pair τ γ) (side : LinkEnd) : List (Happening τ) :=
  (pair.past.reverse.filter fun (place, _) => place = side).map (·.2)

/-- What a side waits for. -/
def waiting (pair : Pair τ γ) : LinkEnd → Wait τ
  | .a => pair.senderWait
  | .b => pair.receiverWait

/-- Whether a side can go on without the clock. -/
def unblocked (pair : Pair τ γ) (side : LinkEnd) : Bool :=
  match pair.waiting side with
  | .ready => true
  | .byte _ _ => !(pair.link.terminal side).inbox.isEmpty
  | .partner _ => match pair.waiting side.other with
      | .ended => true
      | _ => false
  | .delivery _ _ | .ended => false

/-- Whether a side can go on at this instant. -/
def due (pair : Pair τ γ) (side : LinkEnd) : Bool :=
  pair.unblocked side ||
    match (pair.waiting side).deadline? with
    | some deadline => deadline ≤ pair.now
    | none => false

/-- The side that goes on, the sender before the receiver. -/
def next? (pair : Pair τ γ) : Option LinkEnd :=
  if pair.due .a then some .a
  else if pair.due .b then some .b
  else none

/-- The earliest deadline. -/
def earliest? (pair : Pair τ γ) : Option τ :=
  match pair.senderWait.deadline?, pair.receiverWait.deadline? with
  | some first, some second => some (Quantity.least first second)
  | some first, none => some first
  | none, deadline => deadline

/-- The pair after a move of the sender. -/
def senderMoved (pair : Pair τ γ) (move : Move (Sender τ) τ γ) : Pair τ γ :=
  let wait : Option (Wait τ) := match move.wait with
    | some .ended => some (.partner (pair.patience.map (pair.now + ·)))
    | wait => wait
  { pair with
    sender := move.session
    link := move.link
    past := move.happened.map (LinkEnd.a, ·) ++ pair.past
    turn := if wait.isNone then some .a else none
    senderWait := wait.getD .ready }

/-- The pair after a move of the receiver. -/
def receiverMoved (pair : Pair τ γ) (move : Move (Receiver τ) τ γ) : Pair τ γ :=
  { pair with
    receiver := move.session
    link := move.link
    past := move.happened.map (LinkEnd.b, ·) ++ pair.past
    turn := if move.wait.isNone then some .b else none
    receiverWait := move.wait.getD .ready }

/-- Let a side go on. -/
def proceed (pair : Pair τ γ) : LinkEnd → Pair τ γ
  | .a => pair.senderMoved (.resume .a pair.sender pair.link pair.now pair.senderWait)
  | .b => pair.receiverMoved (.resume .b pair.receiver pair.link pair.now pair.receiverWait)

/-- Whether the sender's side has ended and no longer waits for the receiver. -/
def ended (pair : Pair τ γ) : Bool :=
  match pair.senderWait with
  | .partner _ => pair.turn.isNone && pair.due .a
  | _ => false

/-- One move of a side, or of the clock; nothing when the pair is over. -/
def next (pair : Pair τ γ) : Option (Pair τ γ) :=
  if pair.ended then
    none
  else
    match pair.turn <|> pair.next? with
    | some side => some (pair.proceed side)
    | none => pair.earliest?.map fun deadline => { pair with now := deadline }

/-- Make moves until the pair is over; nothing when more than `fuel` would be needed. -/
def complete : Nat → Pair τ γ → Option (Pair τ γ)
  | 0, _ => none
  | fuel + 1, pair =>
      match pair.next with
      | none => some pair
      | some pair => complete fuel pair

end Pair
end Xmodem
