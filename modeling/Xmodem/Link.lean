import Xmodem.Link.Alteration
import Xmodem.Link.Impairment
import Xmodem.Session

/-!
# Links

A link has two ends.  What one end writes is altered, impaired, and queued for the other end in the
order of writing.  A closed end writes nothing; what was queued before can still be read.
-/

namespace Xmodem

/-- The two ends of a link. -/
inductive LinkEnd where
  /-- The first end. -/
  | a
  /-- The second end. -/
  | b
  deriving DecidableEq, Repr

namespace LinkEnd

/-- Name of an end. -/
def name : LinkEnd → String
  | a => "a"
  | b => "b"

/-- The opposite end. -/
def other : LinkEnd → LinkEnd
  | a => b
  | b => a

@[simp]
theorem other_other (side : LinkEnd) : side.other.other = side := by
  cases side <;> rfl

@[simp]
theorem ne_other (side : LinkEnd) : side ≠ side.other := by
  cases side <;> exact nofun

theorem eq_or_eq_other (side place : LinkEnd) : side = place ∨ side = place.other := by
  cases side <;> cases place <;> decide

end LinkEnd

/-- State of one end of a link. -/
structure Terminal (τ : Type) (γ : Type := Random) where
  /-- Impairment of what this end sends. -/
  impairment : Impairment τ γ
  /-- Alteration of what this end writes. -/
  alteration : Alteration
  /-- Number of writes that were altered. -/
  writes : Nat
  /-- Whether this end was closed. -/
  closed : Bool
  /-- Bytes that wait to be read at this end. -/
  inbox : List UInt8

/-- Two connected ends. -/
structure Link (τ : Type) (γ : Type := Random) where
  /-- The first end. -/
  a : Terminal τ γ
  /-- The second end. -/
  b : Terminal τ γ

namespace Terminal

/-- An end that was not used. -/
def fresh {τ γ : Type} (impairment : Impairment τ γ) (alteration : Alteration) : Terminal τ γ where
  impairment := impairment
  alteration := alteration
  writes := 0
  closed := false
  inbox := []

end Terminal

namespace Link

variable {τ γ : Type}

/-- State of an end. -/
def terminal (link : Link τ γ) : LinkEnd → Terminal τ γ
  | .a => link.a
  | .b => link.b

/-- Replace the state of an end. -/
def withTerminal (link : Link τ γ) (side : LinkEnd) (terminal : Terminal τ γ) : Link τ γ :=
  match side with
  | .a => { link with a := terminal }
  | .b => { link with b := terminal }

@[simp]
theorem terminal_withTerminal_self (link : Link τ γ) (side : LinkEnd) (terminal : Terminal τ γ) :
    (link.withTerminal side terminal).terminal side = terminal := by
  cases side <;> rfl

@[simp]
theorem terminal_other_withTerminal (link : Link τ γ) (side : LinkEnd) (terminal : Terminal τ γ) :
    (link.withTerminal side terminal).terminal side.other = link.terminal side.other := by
  cases side <;> rfl

/-- Take the first waiting byte. -/
def read? (link : Link τ γ) (side : LinkEnd) : Option (UInt8 × Link τ γ) :=
  let terminal := link.terminal side
  match terminal.inbox with
  | [] => none
  | value :: rest => some (value, link.withTerminal side { terminal with inbox := rest })

/-- Begin a write: a closed end refuses it, and an open one alters it. -/
def prepare (link : Link τ γ) (side : LinkEnd) (bytes : List UInt8) :
    Except Fault (List UInt8 × Link τ γ) :=
  let terminal := link.terminal side
  if terminal.closed then
    .error (.closed side.name)
  else
    .ok (terminal.alteration terminal.writes bytes,
      link.withTerminal side { terminal with writes := terminal.writes + 1 })

variable [Quantity τ] [Generator γ]

/-- How long a write takes, if it takes time at all. -/
def pause (link : Link τ γ) (side : LinkEnd) : Option τ :=
  (link.terminal side).impairment.pause

/-- Finish a write: queue what is not lost, and tell what is. -/
def transmit (link : Link τ γ) (side : LinkEnd) (bytes : List UInt8) : List UInt8 × Link τ γ :=
  let terminal := link.terminal side
  let passage := terminal.impairment.pass bytes
  let link := link.withTerminal side { terminal with impairment := passage.impairment }
  let peer := link.terminal side.other
  (passage.dropped,
    link.withTerminal side.other { peer with inbox := peer.inbox ++ passage.delivered })

/-- Close an end. -/
def close (link : Link τ γ) (side : LinkEnd) : Link τ γ :=
  link.withTerminal side { link.terminal side with closed := true }

end Link
end Xmodem
