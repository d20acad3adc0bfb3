import Xmodem.Link.Pair

/-!
# Wires

A wire is a link on which chance plays no part: nothing is lost, inverted, or delayed beyond what
the alterations of its two open ends do.  The alterations, the numbers of writes, and the two queues
are all that is left of it.
-/

namespace Xmodem

/-- An open link without impairments. -/
structure Wire where
  /-- Alteration of what the first end writes. -/
  forth : Alteration
  /-- Alteration of what the second end writes. -/
  back : Alteration
  /-- Number of writes of the first end. -/
  sent : Nat
  /-- Number of writes of the second end. -/
  answered : Nat
  /-- Bytes on their way to the first end. -/
  backward : List UInt8
  /-- Bytes on their way to the second end. -/
  forward : List UInt8

namespace Impairment

@[simp]
theorem drop_none : (none : Impairment Rat).drop = (false, none) := rfl

@[simp]
theorem flips_none : (none : Impairment Rat).flips = (0, none) := rfl

@[simp]
theorem pause_none : (none : Impairment Rat).pause = .none := rfl

@[simp]
theorem pass_none (bytes : List UInt8) :
    (none : Impairment Rat).pass bytes = ⟨bytes, [], none⟩ := by
  induction bytes with
  | nil => rfl
  | cons byte bytes induction => simp [pass, induction]

end Impairment

namespace Wire

/-- The link that a wire stands for. -/
def link (wire : Wire) : Link Rat where
  a := ⟨.none, wire.forth, wire.sent, false, wire.backward⟩
  b := ⟨.none, wire.back, wire.answered, false, wire.forward⟩

/-- A wire that was not used. -/
def fresh (forth back : Alteration) : Wire :=
  ⟨forth, back, 0, 0, [], []⟩

/-- The bytes that wait at an end. -/
def inbox (wire : Wire) : LinkEnd → List UInt8
  | .a => wire.backward
  | .b => wire.forward

/-- Replace the bytes that wait at an end. -/
def withInbox (wire : Wire) (bytes : List UInt8) : LinkEnd → Wire
  | .a => { wire with backward := bytes }
  | .b => { wire with forward := bytes }

/-- The wire after a write at an end. -/
def wrote (wire : Wire) (bytes : List UInt8) : LinkEnd → Wire
  | .a =>
      { wire with
        sent := wire.sent + 1
        forward := wire.forward ++ wire.forth wire.sent bytes }
  | .b =>
      { wire with
        answered := wire.answered + 1
        backward := wire.backward ++ wire.back wire.answered bytes }

@[simp]
theorem inbox_withInbox (wire : Wire) (bytes : List UInt8) (side : LinkEnd) :
    (wire.withInbox bytes side).inbox side = bytes := by
  cases side <;> rfl

@[simp]
theorem withInbox_inbox (wire : Wire) (side : LinkEnd) :
    wire.withInbox (wire.inbox side) side = wire := by
  cases side <;> rfl

@[simp]
theorem withInbox_withInbox (wire : Wire) (first second : List UInt8) (side : LinkEnd) :
    (wire.withInbox first side).withInbox second side = wire.withInbox second side := by
  cases side <;> rfl

theorem inbox_link (wire : Wire) (side : LinkEnd) :
    (wire.link.terminal side).inbox = wire.inbox side := by
  cases side <;> rfl

theorem read?_link_of_nil {wire : Wire} {side : LinkEnd} (empty : wire.inbox side = []) :
    wire.link.read? side = none := by
  simp only [Link.read?, inbox_link, empty]

theorem read?_link_of_cons {wire : Wire} {side : LinkEnd} {value : UInt8} {rest : List UInt8}
    (waiting : wire.inbox side = value :: rest) :
    wire.link.read? side = some (value, (wire.withInbox rest side).link) := by
  cases side
  all_goals
    simp only [inbox] at waiting
    simp only [Link.read?, Link.terminal, link, waiting]
    rfl

end Wire

namespace Move

variable {σ : Type} [Session σ Rat] {side : LinkEnd} {session : σ} {wire : Wire} {now : Rat}

theorem act_of_stop (stops : Session.action session now = .stop) :
    act side session wire.link now = ⟨session, wire.link, [], some .ended⟩ := by
  simp only [act, stops]

theorem act_of_proceed (proceeds : Session.action session now = .proceed) :
    act side session wire.link now = answer session wire.link now [] .proceeded := by
  simp only [act, proceeds]

theorem act_of_read_nil {timeout : Rat} (reads : Session.action session now = .read timeout)
    (empty : wire.inbox side = []) :
    act side session wire.link now =
      ⟨session, wire.link, [], some (.byte timeout (now + timeout))⟩ := by
  simp only [act, reads, Wire.read?_link_of_nil empty]

theorem act_of_read_cons {timeout : Rat} {value : UInt8} {rest : List UInt8}
    (reads : Session.action session now = .read timeout)
    (waiting : wire.inbox side = value :: rest) :
    act side session wire.link now =
      answer session (wire.withInbox rest side).link now [.received timeout value]
        (.byte value) := by
  simp only [act, reads, Wire.read?_link_of_cons waiting]

theorem act_of_write {bytes : List UInt8} (writes : Session.action session now = .write bytes) :
    act side session wire.link now =
      answer session (wire.wrote bytes side).link now [.wrote bytes] .written := by
  cases side
  all_goals
    simp [act, writes, Link.prepare, Link.terminal, Wire.link, Link.withTerminal, Link.pause,
      deliver, Link.transmit, LinkEnd.other, Wire.wrote, Loopback.droppedNotes]

end Move
end Xmodem
