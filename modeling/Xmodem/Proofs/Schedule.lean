import Mathlib.Logic.Relation
import Xmodem.Link.Pair
import Xmodem.Proofs.Conversation
import Xmodem.Proofs.Turn

/-!
# Arbitrary schedules

On a link that only delays, every write of an open end is delivered as its alteration leaves it.
What a session does on its turn is then one of a few things, whatever the clock shows.  A pair may
be scheduled in any order and at any instants; its own scheduler is one of these schedules.
-/

namespace Xmodem

variable {τ γ : Type} [Quantity τ]

namespace Impairment

/-- Neither loss nor corruption. -/
def OnlyDelays (impairment : Impairment τ γ) : Prop :=
  ¬ 0 < impairment.lossRate ∧ ¬ 0 < impairment.corruptRate

theorem OnlyDelays.pass_eq [Generator γ] {impairment : Impairment τ γ}
    (clear : impairment.OnlyDelays) (bytes : List UInt8) :
    impairment.pass bytes = ⟨bytes, [], impairment⟩ := by
  obtain ⟨lossless, exact_bits⟩ := clear
  induction bytes with
  | nil => rfl
  | cons byte bytes induction =>
      simp [pass, drop, flips, chance, lossless, exact_bits, induction]

end Impairment

/-- Whether an end is open and only delays what an alteration leaves. -/
structure Terminal.Clear (terminal : Terminal τ γ) (alteration : Alteration) : Prop where
  opened : terminal.closed = false
  alteration_eq : terminal.alteration = alteration
  delays : terminal.impairment.OnlyDelays

/-- Whether only the queues of a link change, and the number of writes at one end. -/
structure Link.Shifts (link : Link τ γ) (side : LinkEnd) (inbox queue : List UInt8) (writes : Nat)
    (after : Link τ γ) : Prop where
  own : after.terminal side = { link.terminal side with inbox := inbox, writes := writes }
  peer : after.terminal side.other = { link.terminal side.other with inbox := queue }

namespace Wait

/-- The bytes of a write that takes time. -/
def pending? : Wait τ → Option (List UInt8)
  | delivery _ bytes => some bytes
  | ready | byte _ _ | partner _ | ended => none

/-- Whether a wait is one in which the action of a session can result. -/
def Suits {σ : Type} [Session σ τ] (session : σ) : Wait τ → Prop
  | byte timeout _ => ∃ asked, Session.action session asked = .read timeout
  | delivery _ _ => ∃ asked bytes, Session.action session asked = .write bytes
  | ready | partner _ | ended => True

end Wait

section Moves

variable {σ : Type} [Session σ τ]

/-- The move that a moment makes after something happened. -/
def Moment.move (moment : Moment σ τ) (link : Link τ γ) (happened : List (Happening τ)) :
    Move σ τ γ where
  session := moment.after
  link := link
  happened := (moment.events.map .reported).reverse ++ happened
  wait := none

/-- What a session does on its turn at a clear end, by the wait before. -/
inductive Acts (alteration : Alteration) (side : LinkEnd) (session : σ) (link : Link τ γ)
    (wait : Wait τ) : Move σ τ γ → Prop
  /-- It is over. -/
  | stop {now : τ} : wait.pending? = none → Session.action session now = .stop →
      Acts alteration side session link wait ⟨session, link, [], some .ended⟩
  /-- It waits for a byte. -/
  | block {timeout deadline now : τ} :
      wait.pending? = none → Session.action session now = .read timeout →
      Acts alteration side session link wait ⟨session, link, [], some (.byte timeout deadline)⟩
  /-- It begins to write. -/
  | begin {bytes : List UInt8} {deadline now : τ} {after : Link τ γ} :
      wait.pending? = none → Session.action session now = .write bytes →
      link.Shifts side (link.terminal side).inbox (link.terminal side.other).inbox
        ((link.terminal side).writes + 1) after →
      Acts alteration side session link wait
        ⟨session, after, [.wrote bytes],
          some (.delivery deadline (alteration (link.terminal side).writes bytes))⟩
  /-- It writes. -/
  | write {bytes : List UInt8} {now : τ} {after : Link τ γ} :
      wait.pending? = none → Session.action session now = .write bytes →
      link.Shifts side (link.terminal side).inbox
        ((link.terminal side.other).inbox ++ alteration (link.terminal side).writes bytes)
        ((link.terminal side).writes + 1) after →
      Acts alteration side session link wait
        ((Moment.mk session now .written now).move after [.wrote bytes])
  /-- Its write is delivered. -/
  | deliver {bytes altered : List UInt8} {asked now : τ} {after : Link τ γ} :
      wait.pending? = some altered → Session.action session asked = .write bytes →
      link.Shifts side (link.terminal side).inbox ((link.terminal side.other).inbox ++ altered)
        (link.terminal side).writes after →
      Acts alteration side session link wait
        ((Moment.mk session asked .written now).move after [])
  /-- It reads. -/
  | read {timeout asked now : τ} {value : UInt8} {rest : List UInt8} {after : Link τ γ} :
      wait.pending? = none → Session.action session asked = .read timeout →
      (link.terminal side).inbox = value :: rest →
      link.Shifts side rest (link.terminal side.other).inbox (link.terminal side).writes after →
      Acts alteration side session link wait
        ((Moment.mk session asked (.byte value) now).move after [.received timeout value])
  /-- It has waited in vain. -/
  | expire {timeout asked now : τ} :
      wait.pending? = none → Session.action session asked = .read timeout →
      (link.terminal side).inbox = [] →
      Acts alteration side session link wait
        ((Moment.mk session asked .silence now).move link [.silent timeout])
  /-- It makes an internal move. -/
  | proceed {now : τ} :
      wait.pending? = none → Session.action session now = .proceed →
      Acts alteration side session link wait
        ((Moment.mk session now .proceeded now).move link [])

variable {side : LinkEnd} {session : σ} {link : Link τ γ} {now : τ} {alteration : Alteration}

omit [Quantity τ] in
theorem exists_read?_eq {value : UInt8} {rest : List UInt8}
    (waiting : (link.terminal side).inbox = value :: rest) :
    ∃ after, link.Shifts side rest (link.terminal side.other).inbox (link.terminal side).writes
        after ∧
      link.read? side = some (value, after) := by
  refine ⟨link.withTerminal side { link.terminal side with inbox := rest }, ?_, ?_⟩
  · cases side <;> exact ⟨rfl, rfl⟩
  · simp only [Link.read?, waiting]

omit [Quantity τ] in
theorem read?_eq_none (empty : (link.terminal side).inbox = []) : link.read? side = none := by
  simp only [Link.read?, empty]

theorem exists_prepare_eq (clear : (link.terminal side).Clear alteration) (bytes : List UInt8) :
    ∃ after, link.Shifts side (link.terminal side).inbox (link.terminal side.other).inbox
        ((link.terminal side).writes + 1) after ∧
      link.prepare side bytes = .ok (alteration (link.terminal side).writes bytes, after) := by
  refine ⟨link.withTerminal side
    { link.terminal side with writes := (link.terminal side).writes + 1 }, ?_, ?_⟩
  · cases side <;> exact ⟨rfl, rfl⟩
  · simp [Link.prepare, clear.opened, clear.alteration_eq]

theorem Link.Shifts.clear {inbox queue : List UInt8} {writes : Nat} {after : Link τ γ}
    (shifts : link.Shifts side inbox queue writes after)
    (clear : (link.terminal side).Clear alteration) : (after.terminal side).Clear alteration := by
  rw [shifts.own]
  exact ⟨clear.opened, clear.alteration_eq, clear.delays⟩

theorem Link.Shifts.clear_peer {other : Alteration} {inbox queue : List UInt8} {writes : Nat}
    {after : Link τ γ} (shifts : link.Shifts side inbox queue writes after)
    (clear : (link.terminal side.other).Clear other) :
    (after.terminal side.other).Clear other := by
  rw [shifts.peer]
  exact ⟨clear.opened, clear.alteration_eq, clear.delays⟩

variable [Generator γ]

theorem transmit_of_clear (clear : (link.terminal side).Clear alteration) (bytes : List UInt8) :
    (link.transmit side bytes).1 = [] ∧
      link.Shifts side (link.terminal side).inbox ((link.terminal side.other).inbox ++ bytes)
        (link.terminal side).writes (link.transmit side bytes).2 := by
  have passes := clear.delays.pass_eq bytes
  cases side
  all_goals
    simp only [Link.terminal, LinkEnd.other] at passes ⊢
    simp only [Link.transmit, Link.terminal, passes, Link.withTerminal, LinkEnd.other]
    exact ⟨trivial, rfl, rfl⟩

theorem exists_deliver_eq (clear : (link.terminal side).Clear alteration) (session : σ)
    (bytes : List UInt8) (asked : τ) (happened : List (Happening τ)) :
    ∃ after, link.Shifts side (link.terminal side).inbox
        ((link.terminal side.other).inbox ++ bytes) (link.terminal side).writes after ∧
      Move.deliver side session link now happened bytes =
        (Moment.mk session asked .written now).move after happened := by
  obtain ⟨undropped, shifts⟩ := transmit_of_clear clear bytes
  refine ⟨_, shifts, ?_⟩
  simp only [Move.deliver, undropped, Loopback.droppedNotes, List.map_nil, List.reverse_nil,
    List.nil_append]
  rfl

/-- Every action at a clear end is one of these. -/
theorem acts_act (clear : (link.terminal side).Clear alteration) {wait : Wait τ}
    (idle : wait.pending? = none) :
    Acts alteration side session link wait (Move.act side session link now) := by
  unfold Move.act
  split
  case h_1 stops => exact .stop idle stops
  case h_2 proceeds => exact .proceed idle proceeds
  case h_3 timeout reads =>
    cases waiting : (link.terminal side).inbox with
    | nil =>
        rw [read?_eq_none waiting]
        exact .block idle reads
    | cons value rest =>
        obtain ⟨after, shifts, same⟩ := exists_read?_eq waiting
        rw [same]
        exact .read idle reads waiting shifts
  case h_4 bytes writes =>
    obtain ⟨begun, shifts, same⟩ := exists_prepare_eq clear bytes
    rw [same]
    simp only
    split
    · exact .begin idle writes shifts
    · obtain ⟨after, further, same⟩ := exists_deliver_eq (shifts.clear clear) session
        (alteration (link.terminal side).writes bytes) now [.wrote bytes]
      rw [same]
      refine .write idle writes ⟨?_, ?_⟩
      · rw [further.own, shifts.own]
      · rw [further.peer, shifts.peer]

/-- Every turn at a clear end is one of these. -/
theorem acts_resume (clear : (link.terminal side).Clear alteration) {wait : Wait τ}
    (suits : wait.Suits session) :
    Acts alteration side session link wait (Move.resume side session link now wait) := by
  cases wait with
  | ready | partner | ended => exact acts_act clear rfl
  | delivery deadline altered =>
      obtain ⟨asked, bytes, writes⟩ := suits
      obtain ⟨after, shifts, same⟩ := exists_deliver_eq clear session altered asked []
      simp only [Move.resume]
      rw [same]
      exact .deliver rfl writes shifts
  | byte timeout deadline =>
      obtain ⟨asked, reads⟩ := suits
      simp only [Move.resume]
      cases waiting : (link.terminal side).inbox with
      | nil =>
          rw [read?_eq_none waiting]
          exact .expire rfl reads waiting
      | cons value rest =>
          obtain ⟨after, shifts, same⟩ := exists_read?_eq waiting
          rw [same]
          exact .read rfl reads waiting shifts

end Moves

namespace Pair

variable [Generator γ]

/-- One step under some schedule: a side goes on while the clock shows some instant, or only the
clock moves on. -/
inductive Goes : Pair τ γ → Pair τ γ → Prop
  | move (pair : Pair τ γ) (side : LinkEnd) (now : τ) :
      Goes pair ({ pair with now := now }.proceed side)
  | pass (pair : Pair τ γ) (now : τ) : Goes pair { pair with now := now }

/-- Whether a pair can become another one under some schedule. -/
def Reaches : Pair τ γ → Pair τ γ → Prop :=
  Relation.ReflTransGen Goes

/-- The scheduler of a pair keeps to some schedule. -/
theorem goes_of_next {before after : Pair τ γ} (moves : before.next = some after) :
    before.Goes after := by
  unfold next at moves
  split at moves
  · exact absurd moves nofun
  · split at moves
    · rename_i side _
      obtain rfl := Option.some.inj moves
      exact .move before side before.now
    · obtain ⟨now, _, rfl⟩ := Option.map_eq_some_iff.mp moves
      exact .pass before now

theorem reaches_of_complete {fuel : Nat} {before after : Pair τ γ}
    (ends : before.complete fuel = some after) : before.Reaches after := by
  induction fuel generalizing before with
  | zero => exact absurd ends nofun
  | succ fuel induction =>
      unfold complete at ends
      split at ends
      · obtain rfl := Option.some.inj ends
        exact .refl
      · rename_i moved
        exact .head (goes_of_next moved) (induction ends)

end Pair
end Xmodem
