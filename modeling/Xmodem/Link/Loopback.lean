import Xmodem.Line.History
import Xmodem.Link

/-!
# Loopbacks

A loopback is a link whose two ends have one user.  The clock stands still except while the user
waits for a byte or for the end of a delayed write.
-/

namespace Xmodem

/-- A link, a clock, and what happened so far. -/
structure Loopback (τ : Type) (γ : Type := Random) where
  /-- The link. -/
  link : Link τ γ
  /-- The clock. -/
  now : τ
  /-- What happened so far, the latest first. -/
  past : List (Happening τ)

namespace Loopback

variable {τ γ : Type} [Quantity τ] [Generator γ]

/-- Two ends that were not used, at the beginning of time. -/
def start (link : Link τ γ) : Loopback τ γ where
  link := link
  now := 0
  past := []

/-- What happened so far, in order. -/
def history (loopback : Loopback τ γ) : List (Happening τ) :=
  loopback.past.reverse

/-- Wait for some time. -/
def sleep (loopback : Loopback τ γ) (duration : τ) : Loopback τ γ :=
  { loopback with now := Quantity.greatest loopback.now (loopback.now + duration) }

/-- The remarks on lost bytes, the latest first. -/
def droppedNotes (side : LinkEnd) (dropped : List UInt8) : List (Happening τ) :=
  (dropped.map fun byte => .reported (.note (.dropped side.name byte))).reverse

/-- Write at an end. -/
def write (loopback : Loopback τ γ) (side : LinkEnd) (bytes : List UInt8) :
    Except Fault Unit × Loopback τ γ :=
  let loopback := { loopback with past := .wrote bytes :: loopback.past }
  match loopback.link.prepare side bytes with
  | .error fault => (.error fault, loopback)
  | .ok (bytes, link) =>
      let loopback := match link.pause side with
        | some duration => loopback.sleep duration
        | none => loopback
      let (dropped, link) := link.transmit side bytes
      (.ok (), { loopback with
        link := link
        past := droppedNotes side dropped ++ loopback.past })

/-- Read at an end for at most some time. -/
def read (loopback : Loopback τ γ) (side : LinkEnd) (timeout : τ) : Option UInt8 × Loopback τ γ :=
  match loopback.link.read? side with
  | some (value, link) =>
      (some value, { loopback with
        link := link
        past := .received timeout value :: loopback.past })
  | none =>
      let loopback := loopback.sleep timeout
      (none, { loopback with past := .silent timeout :: loopback.past })

/-- Close an end. -/
def close (loopback : Loopback τ γ) (side : LinkEnd) : Loopback τ γ :=
  { loopback with link := loopback.link.close side }

end Loopback
end Xmodem
