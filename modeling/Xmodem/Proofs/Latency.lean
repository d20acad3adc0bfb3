import Mathlib.Logic.Relation
import Xmodem.Proofs.Schedule
import Xmodem.Proofs.Timing

/-!
# Exchanges on a slow link

On a link that delivers everything, all writes taking the same time or none, one side of a pair has
the turn while the other waits.  A side that has the turn may digest what has arrived, write while
the other side is patient, and at last hand over the turn.  The lemmas treat both sides at once.
-/

namespace Xmodem

namespace LinkEnd

/-- The kind of session that drives an end of the link of a pair. -/
abbrev Driver : LinkEnd → Type
  | a => Sender Rat
  | b => Receiver Rat

instance : (side : LinkEnd) → Session side.Driver Rat
  | a => inferInstanceAs (Session (Sender Rat) Rat)
  | b => inferInstanceAs (Session (Receiver Rat) Rat)

end LinkEnd

variable {γ : Type}

/-- What is on its way on a link that delivers everything: the bytes that wait at one end, and those
that wait at the other. -/
structure Link.Carries (link : Link Rat γ) (pause : Option Rat) (side : LinkEnd)
    (inbox queue : List UInt8) : Prop where
  clear : ∀ place, (link.terminal place).Clear .none
  pause_eq : ∀ place, link.pause place = pause
  inbox_eq : (link.terminal side).inbox = inbox
  queue_eq : (link.terminal side.other).inbox = queue

namespace Link.Carries

variable {link after : Link Rat γ} {pause : Option Rat} {side : LinkEnd}
  {inbox queue rest later : List UInt8} {writes : Nat}

theorem swap (carries : link.Carries pause side inbox queue) :
    link.Carries pause side.other queue inbox where
  clear := carries.clear
  pause_eq := carries.pause_eq
  inbox_eq := carries.queue_eq
  queue_eq := by
    rw [LinkEnd.other_other]
    exact carries.inbox_eq

theorem shift (carries : link.Carries pause side inbox queue)
    (shifts : link.Shifts side rest later writes after) :
    after.Carries pause side rest later := by
  have own_pause := carries.pause_eq side
  have peer_pause := carries.pause_eq side.other
  have own_clear := shifts.clear (carries.clear side)
  have peer_clear := shifts.clear_peer (carries.clear side.other)
  unfold Link.pause at own_pause peer_pause
  constructor
  case clear =>
    intro place
    obtain rfl | rfl := place.eq_or_eq_other side
    · exact own_clear
    · exact peer_clear
  case pause_eq =>
    intro place
    unfold Link.pause
    obtain rfl | rfl := place.eq_or_eq_other side
    · rw [shifts.own]
      exact own_pause
    · rw [shifts.peer]
      exact peer_pause
  case inbox_eq => rw [shifts.own]
  case queue_eq => rw [shifts.peer]

theorem exists_read {value : UInt8} (carries : link.Carries pause side (value :: rest) queue) :
    ∃ after, after.Carries pause side rest queue ∧ link.read? side = some (value, after) := by
  obtain ⟨after, shifts, read⟩ := exists_read?_eq carries.inbox_eq
  rw [carries.queue_eq] at shifts
  exact ⟨after, carries.shift shifts, read⟩

theorem exists_prepare (carries : link.Carries pause side inbox queue) (bytes : List UInt8) :
    ∃ after, after.Carries pause side inbox queue ∧
      link.prepare side bytes = .ok (bytes, after) := by
  obtain ⟨after, shifts, prepared⟩ := exists_prepare_eq (carries.clear side) bytes
  rw [carries.inbox_eq, carries.queue_eq] at shifts
  exact ⟨after, carries.shift shifts, prepared⟩

theorem exists_deliver {σ : Type} [Session σ Rat] [Generator γ]
    (carries : link.Carries pause side inbox queue) (session : σ) (now : Rat)
    (happened : List (Happening Rat)) (bytes : List UInt8) :
    ∃ after, after.Carries pause side inbox (queue ++ bytes) ∧
      Move.deliver side session link now happened bytes =
        .answer session after now happened .written := by
  obtain ⟨after, shifts, delivered⟩ := exists_deliver_eq (carries.clear side) session bytes now
    happened
  rw [carries.inbox_eq, carries.queue_eq] at shifts
  exact ⟨after, carries.shift shifts, delivered⟩

end Link.Carries

/-- A session that has read all that has arrived writes once, and then makes its internal moves when
the write has taken its time. -/
def Utters {σ : Type} [Session σ Rat] (delay now : Rat) (session : σ) (inbox bytes : List UInt8)
    (later : σ) : Prop :=
  ∃ writing, Digests now session inbox writing [] ∧
    Session.action writing now = .write bytes ∧
    Digests (now + delay) (Session.next writing (now + delay) .written).1 [] later []

namespace Pair

/-- The session at an end. -/
def driver (pair : Pair Rat γ) : (side : LinkEnd) → side.Driver
  | .a => pair.sender
  | .b => pair.receiver

/-- The pair after a move at an end. -/
def moved (pair : Pair Rat γ) : (side : LinkEnd) → Move side.Driver Rat γ → Pair Rat γ
  | .a, move => pair.senderMoved move
  | .b, move => pair.receiverMoved move

section Moves

variable {pair : Pair Rat γ} {side : LinkEnd} {move : Move side.Driver Rat γ}

@[simp]
theorem driver_moved : (pair.moved side move).driver side = move.session := by
  cases side <;> rfl

@[simp]
theorem driver_other_moved :
    (pair.moved side move).driver side.other = pair.driver side.other := by
  cases side <;> rfl

@[simp]
theorem link_moved : (pair.moved side move).link = move.link := by
  cases side <;> rfl

@[simp]
theorem now_moved : (pair.moved side move).now = pair.now := by
  cases side <;> rfl

@[simp]
theorem waiting_other_moved :
    (pair.moved side move).waiting side.other = pair.waiting side.other := by
  cases side <;> rfl

theorem turn_moved (busy : move.wait = none) : (pair.moved side move).turn = some side := by
  cases side <;> simp [moved, senderMoved, receiverMoved, busy]

theorem waiting_moved (busy : move.wait = none) : (pair.moved side move).waiting side = .ready := by
  cases side <;> simp [moved, senderMoved, receiverMoved, waiting, busy]

theorem turn_moved_of_wait {wait : Wait Rat} (waits : move.wait = some wait) :
    (pair.moved side move).turn = none := by
  cases side with
  | a =>
      cases wait <;> simp [moved, senderMoved, waits]
  | b => simp [moved, receiverMoved, waits]

theorem waiting_moved_of_wait {wait : Wait Rat} (waits : move.wait = some wait)
    (lasts : wait ≠ .ended ∨ side = .b) : (pair.moved side move).waiting side = wait := by
  cases side with
  | a =>
      cases wait <;> simp_all [moved, senderMoved, waiting]
  | b => simp [moved, receiverMoved, waiting, waits]

/-- A pair lasts as long as neither side waits for the end of the other. -/
theorem ended_eq_false (pair : Pair Rat γ) (side : LinkEnd)
    (own : ∀ deadline, pair.waiting side ≠ .partner deadline)
    (other : ∀ deadline, pair.waiting side.other ≠ .partner deadline) :
    pair.ended = false := by
  have waits (deadline : Option Rat) : pair.senderWait ≠ .partner deadline := by
    cases side with
    | a => exact own deadline
    | b => exact other deadline
  unfold ended
  split
  · rename_i deadline same
    exact absurd same (waits deadline)
  · rfl

theorem due_eq_false_of_byte {timeout deadline : Rat}
    (waits : pair.waiting side = .byte timeout deadline)
    (empty : (pair.link.terminal side).inbox = []) (early : pair.now < deadline) :
    pair.due side = false := by
  simp [due, unblocked, waits, empty, Wait.deadline?, early]

theorem due_of_byte {timeout deadline : Rat} {value : UInt8} {rest : List UInt8}
    (waits : pair.waiting side = .byte timeout deadline)
    (arrived : (pair.link.terminal side).inbox = value :: rest) : pair.due side = true := by
  simp [due, unblocked, waits, arrived]

variable [Generator γ]

/-- A pair becomes another one by moves of its own. -/
def Evolves : Pair Rat γ → Pair Rat γ → Prop :=
  Relation.ReflTransGen fun before after => before.next = some after

theorem Evolves.complete {before after final : Pair Rat γ} (evolves : before.Evolves after)
    {fuel : Nat} (completes : after.complete fuel = some final) :
    ∃ fuel, before.complete fuel = some final := by
  induction evolves using Relation.ReflTransGen.head_induction_on with
  | refl => exact ⟨fuel, completes⟩
  | head moves _ induction =>
      obtain ⟨fuel, completes⟩ := induction
      exact ⟨fuel + 1, by simp [Pair.complete, moves, completes]⟩

theorem proceed_eq_moved (pair : Pair Rat γ) (side : LinkEnd) :
    pair.proceed side =
      pair.moved side (.resume side (pair.driver side) pair.link pair.now (pair.waiting side)) := by
  cases side <;> rfl

theorem next_of_turn (turn : pair.turn = some side) : pair.next = some (pair.proceed side) := by
  have lasts : pair.ended = false := by
    unfold ended
    split <;> simp [turn]
  simp [next, lasts, turn]

theorem next_of_due (free : pair.turn = none) (lasts : pair.ended = false)
    (due : pair.due side = true) (idle : pair.due side.other = false) :
    pair.next = some (pair.proceed side) := by
  cases side <;> simp_all [next, next?, LinkEnd.other]

/-- When no side is due, the clock moves on to the earlier deadline. -/
theorem next_of_deadlines {first second : Rat} (free : pair.turn = none)
    (lasts : pair.ended = false) (own : pair.due side = false)
    (other : pair.due side.other = false)
    (first_eq : (pair.waiting side).deadline? = some first)
    (second_eq : (pair.waiting side.other).deadline? = some second) (earlier : first < second) :
    pair.next = some { pair with now := first } := by
  have earliest : pair.earliest? = some first := by
    cases side with
    | a =>
        simp only [waiting, LinkEnd.other] at first_eq second_eq
        simp [earliest?, first_eq, second_eq, Quantity.least, earlier.not_gt]
    | b =>
        simp only [waiting, LinkEnd.other] at first_eq second_eq
        simp [earliest?, first_eq, second_eq, Quantity.least, earlier]
  cases side <;> simp_all [next, next?, LinkEnd.other]

/-- A write that takes time ends as soon as its time has come, when the other side waits longer. -/
theorem evolves_of_delivery {timeout first second : Rat} {bytes : List UInt8}
    (free : pair.turn = none) (own : pair.waiting side = .delivery first bytes)
    (other : pair.waiting side.other = .byte timeout second)
    (empty : (pair.link.terminal side.other).inbox = []) (early : pair.now < first)
    (earlier : first < second) :
    pair.Evolves (({ pair with now := first } : Pair Rat γ).moved side
      (.deliver side (pair.driver side) pair.link first [] bytes)) := by
  let later : Pair Rat γ := { pair with now := first }
  have own_later : later.waiting side = .delivery first bytes := by
    rw [← own]
    cases side <;> rfl
  have other_later : later.waiting side.other = .byte timeout second := by
    rw [← other]
    cases side <;> rfl
  have waits : pair.next = some later := by
    have lasts : pair.ended = false := ended_eq_false _ side (by simp [own]) (by simp [other])
    have begun : pair.due side = false := by simp [due, unblocked, own, Wait.deadline?, early]
    have quiet : pair.due side.other = false :=
      due_eq_false_of_byte other empty (early.trans earlier)
    exact next_of_deadlines free lasts begun quiet (by rw [own]; rfl) (by rw [other]; rfl) earlier
  have goes_on : later.next = some (later.proceed side) := by
    have lasts : later.ended = false :=
      ended_eq_false _ side (by simp [own_later]) (by simp [other_later])
    have ripe : later.due side = true := by simp [due, own_later, Wait.deadline?, later]
    have quiet : later.due side.other = false := due_eq_false_of_byte other_later empty earlier
    exact next_of_due free lasts ripe quiet
  rw [proceed_eq_moved, own_later] at goes_on
  have same : later.driver side = pair.driver side := by
    cases side <;> rfl
  rw [same] at goes_on
  exact .head waits (.single goes_on)

end Moves

variable [Generator γ]

/-- One side of a pair has the turn at some instant.  What waits to be read at its end and at the
other one is known, and what the other side waits for. -/
structure Speaks (pair : Pair Rat γ) (pause : Option Rat) (side : LinkEnd) (now : Rat)
    (session : side.Driver) (inbox queue : List UInt8) (wait : Wait Rat) : Prop where
  goes_on : pair.next = some (pair.proceed side)
  ready : pair.waiting side = .ready
  session_eq : pair.driver side = session
  now_eq : pair.now = now
  carries : pair.link.Carries pause side inbox queue
  wait_eq : pair.waiting side.other = wait

/-- One side of a pair has given up its turn and waits, and nothing has happened since. -/
structure Pauses (pair : Pair Rat γ) (pause : Option Rat) (side : LinkEnd) (now : Rat)
    (session : side.Driver) (inbox queue : List UInt8) (own wait : Wait Rat) : Prop where
  free : pair.turn = none
  lasts : pair.ended = false
  rests : pair.due side = false
  own_eq : pair.waiting side = own
  session_eq : pair.driver side = session
  now_eq : pair.now = now
  carries : pair.link.Carries pause side inbox queue
  wait_eq : pair.waiting side.other = wait

namespace Speaks

variable {pair : Pair Rat γ} {pause : Option Rat} {side : LinkEnd} {now timeout deadline : Rat}
  {session later : side.Driver} {inbox queue rest bytes : List UInt8} {wait : Wait Rat}
  {link : Link Rat γ}

theorem of_answer (session : side.Driver) (happened : List (Happening Rat)) (answer : Answer)
    (now_eq : pair.now = now) (carries : link.Carries pause side inbox queue)
    (wait_eq : pair.waiting side.other = wait) :
    (pair.moved side (.answer session link now happened answer)).Speaks pause side now
      (Session.next session now answer).1 inbox queue wait where
  goes_on := next_of_turn (turn_moved rfl)
  ready := waiting_moved rfl
  session_eq := driver_moved
  now_eq := now_moved.trans now_eq
  carries := by
    rw [link_moved]
    exact carries
  wait_eq := waiting_other_moved.trans wait_eq

theorem next_eq (speaks : pair.Speaks pause side now session inbox queue wait) :
    pair.next = some (pair.moved side (.act side session pair.link now)) := by
  rw [speaks.goes_on, proceed_eq_moved, speaks.ready, speaks.session_eq, speaks.now_eq]
  rfl

theorem digests (digests : Digests now session inbox later rest)
    (speaks : pair.Speaks pause side now session inbox queue wait) :
    ∃ after, pair.Evolves after ∧ after.Speaks pause side now later rest queue wait ∧
      after.driver side.other = pair.driver side.other := by
  induction digests generalizing pair with
  | done => exact ⟨pair, .refl, speaks, rfl⟩
  | @proceed current _ _ _ proceeds _ induction =>
      have moves := speaks.next_eq
      simp only [Move.act, proceeds] at moves
      obtain ⟨after, evolves, speaks, same⟩ := induction
        (of_answer current [] .proceeded speaks.now_eq speaks.carries speaks.wait_eq)
      exact ⟨after, .head moves evolves, speaks, same.trans driver_other_moved⟩
  | @read current _ value _ _ timeout reads _ induction =>
      obtain ⟨link, carries, read⟩ := speaks.carries.exists_read
      have moves := speaks.next_eq
      simp only [Move.act, reads, read] at moves
      obtain ⟨after, evolves, speaks, same⟩ := induction
        (of_answer current [.received timeout value] (.byte value) speaks.now_eq carries
          speaks.wait_eq)
      exact ⟨after, .head moves evolves, speaks, same.trans driver_other_moved⟩

/-- A side that has the turn writes while the other side waits long enough. -/
theorem writes (speaks : pair.Speaks pause side now session inbox [] (.byte timeout deadline))
    (writes : Session.action session now = .write bytes)
    (positive : ∀ duration ∈ pause, 0 < duration) (patient : now + pause.getD 0 < deadline) :
    ∃ after, pair.Evolves after ∧
      after.Speaks pause side (now + pause.getD 0)
        (Session.next session (now + pause.getD 0) .written).1 inbox bytes
        (.byte timeout deadline) ∧
      after.driver side.other = pair.driver side.other := by
  obtain ⟨begun, carries, prepared⟩ := speaks.carries.exists_prepare bytes
  have moves := speaks.next_eq
  have pause_eq := carries.pause_eq side
  simp only [Move.act, writes, prepared, pause_eq] at moves
  cases pause with
  | none =>
      obtain ⟨link, carries, delivered⟩ := carries.exists_deliver session now [.wrote bytes] bytes
      simp only [delivered] at moves
      rw [Option.getD_none, add_zero]
      exact ⟨_, .single moves,
        of_answer session [.wrote bytes] .written speaks.now_eq carries speaks.wait_eq,
        driver_other_moved⟩
  | some duration =>
      rw [Option.getD_some] at patient ⊢
      have takes_time : now < now + duration := lt_add_of_pos_right now (positive duration rfl)
      let pending : Move side.Driver Rat γ :=
        ⟨session, begun, [.wrote bytes], some (.delivery (now + duration) bytes)⟩
      have waits : (pair.moved side pending).waiting side.other = .byte timeout deadline :=
        waiting_other_moved.trans speaks.wait_eq
      have empty : ((pair.moved side pending).link.terminal side.other).inbox = [] := by
        rw [link_moved]
        exact carries.queue_eq
      have pends : (pair.moved side pending).waiting side = .delivery (now + duration) bytes :=
        waiting_moved_of_wait rfl (.inl (by simp))
      have clock : (pair.moved side pending).now = now := now_moved.trans speaks.now_eq
      have ends := evolves_of_delivery (turn_moved_of_wait rfl) pends waits empty
        (clock.trans_lt takes_time) patient
      obtain ⟨link, carries, delivered⟩ := carries.exists_deliver session (now + duration) [] bytes
      rw [driver_moved, link_moved, delivered] at ends
      refine ⟨_, .head moves ends, of_answer session [] .written rfl carries ?_, ?_⟩
      · rw [← waits]
        cases side <;> rfl
      · rw [driver_other_moved]
        cases side <;> rfl

theorem utters (speaks : pair.Speaks pause side now session inbox [] (.byte timeout deadline))
    (utters : Utters (pause.getD 0) now session inbox bytes later)
    (positive : ∀ duration ∈ pause, 0 < duration) (patient : now + pause.getD 0 < deadline) :
    ∃ after, pair.Evolves after ∧
      after.Speaks pause side (now + pause.getD 0) later [] bytes (.byte timeout deadline) ∧
      after.driver side.other = pair.driver side.other := by
  obtain ⟨writing, before, writes, behind⟩ := utters
  obtain ⟨begun, evolves, speaks, same⟩ := speaks.digests before
  obtain ⟨written, goes_on, speaks, also⟩ := speaks.writes writes positive patient
  obtain ⟨after, ends, speaks, too⟩ := speaks.digests behind
  refine ⟨after, (evolves.trans goes_on).trans ends, speaks, ?_⟩
  exact too.trans (also.trans same)

/-- The side that has the turn gives it up when it ends as a receiver or begins to wait. -/
theorem pauses {own : Wait Rat}
    (speaks : pair.Speaks pause side now session inbox queue wait)
    (acts : Move.act side session pair.link now = ⟨session, pair.link, [], some own⟩)
    (idle : own = .ended ∧ side = .b ∨
      ∃ asked limit, own = .byte asked limit ∧ inbox = [] ∧ now < limit)
    (patient : ∀ deadline, wait ≠ .partner deadline) :
    ∃ after, pair.next = some after ∧
      after.Pauses pause side now session inbox queue own wait ∧
      after.driver side.other = pair.driver side.other := by
  have moves := speaks.next_eq
  rw [acts] at moves
  generalize shown : (⟨session, pair.link, [], some own⟩ : Move side.Driver Rat γ) = move at moves
  have waits : move.wait = some own := by rw [← shown]
  have carries : (pair.moved side move).link.Carries pause side inbox queue := by
    rw [link_moved, ← shown]
    exact speaks.carries
  have clock : (pair.moved side move).now = now := now_moved.trans speaks.now_eq
  have own_eq : (pair.moved side move).waiting side = own := by
    apply waiting_moved_of_wait waits
    obtain ⟨-, second⟩ | ⟨_, _, rfl, -⟩ := idle
    · exact .inr second
    · exact .inl (by simp)
  have other_eq : (pair.moved side move).waiting side.other = wait :=
    waiting_other_moved.trans speaks.wait_eq
  refine ⟨_, moves, ?_, driver_other_moved⟩
  constructor
  case free => exact turn_moved_of_wait waits
  case lasts =>
    apply ended_eq_false _ side
    · obtain ⟨rfl, -⟩ | ⟨_, _, rfl, -⟩ := idle <;> simp [own_eq]
    · rw [other_eq]
      exact patient
  case rests =>
    obtain ⟨rfl, -⟩ | ⟨asked, limit, rfl, empty, early⟩ := idle
    · simp [due, unblocked, own_eq, Wait.deadline?]
    · exact due_eq_false_of_byte own_eq (carries.inbox_eq.trans empty) (clock.trans_lt early)
  case own_eq => exact own_eq
  case session_eq => rw [driver_moved, ← shown]
  case now_eq => exact clock
  case carries => exact carries
  case wait_eq => exact other_eq

end Speaks

namespace Pauses

variable {pair : Pair Rat γ} {pause : Option Rat} {side : LinkEnd} {now timeout deadline : Rat}
  {session : side.Driver} {inbox queue rest : List UInt8} {own : Wait Rat} {value : UInt8}

theorem speaks (pauses : pair.Pauses pause side now session inbox queue own .ready) :
    pair.Speaks pause side.other now (pair.driver side.other) queue inbox own where
  goes_on := by
    have begins : pair.due side.other = true := by simp [due, unblocked, pauses.wait_eq]
    apply next_of_due pauses.free pauses.lasts begins
    rw [LinkEnd.other_other]
    exact pauses.rests
  ready := pauses.wait_eq
  session_eq := rfl
  now_eq := pauses.now_eq
  carries := pauses.carries.swap
  wait_eq := by
    rw [LinkEnd.other_other]
    exact pauses.own_eq

theorem reads (pauses : pair.Pauses pause side now session inbox (value :: rest) own
      (.byte timeout deadline)) :
    ∃ after, pair.next = some after ∧
      after.Speaks pause side.other now
        (Session.next (pair.driver side.other) now (.byte value)).1 rest inbox own ∧
      after.driver side = session := by
  have arrived := due_of_byte pauses.wait_eq pauses.carries.queue_eq
  have goes_on : pair.next = some (pair.proceed side.other) := by
    apply next_of_due pauses.free pauses.lasts arrived
    rw [LinkEnd.other_other]
    exact pauses.rests
  obtain ⟨link, carries, read⟩ := pauses.carries.swap.exists_read
  rw [proceed_eq_moved, pauses.wait_eq] at goes_on
  simp only [Move.resume, read, pauses.now_eq] at goes_on
  refine ⟨_, goes_on, Speaks.of_answer _ _ _ pauses.now_eq carries ?_, ?_⟩
  · rw [LinkEnd.other_other]
    exact pauses.own_eq
  · rw [← pauses.session_eq]
    cases side <;> rfl

end Pauses

namespace Speaks

variable {pair : Pair Rat γ} {pause : Option Rat} {side : LinkEnd} {now timeout deadline : Rat}
  {session : side.Driver} {inbox queue rest : List UInt8} {value : UInt8}

/-- A side that has nothing to read waits, and the other side reads the byte that it waits for. -/
theorem reads {limit : Rat}
    (speaks : pair.Speaks pause side now session [] (value :: rest) (.byte timeout deadline))
    (reads : Session.action session now = .read (limit - now)) (early : now < limit) :
    ∃ after, pair.Evolves after ∧
      after.Speaks pause side.other now
        (Session.next (pair.driver side.other) now (.byte value)).1 rest []
        (.byte (limit - now) limit) ∧
      after.driver side = session := by
  have acts : Move.act side session pair.link now =
      ⟨session, pair.link, [], some (.byte (limit - now) limit)⟩ := by
    simp only [Move.act, reads, read?_eq_none speaks.carries.inbox_eq, add_sub_cancel]
  obtain ⟨middle, moves, pauses, same⟩ :=
    speaks.pauses acts (.inr ⟨_, _, rfl, rfl, early⟩) (by simp)
  obtain ⟨after, goes_on, speaks, kept⟩ := pauses.reads
  rw [same] at speaks
  exact ⟨after, .head moves (.single goes_on), speaks, kept⟩

theorem opens {limit : Rat} (speaks : pair.Speaks pause side now session [] queue .ready)
    (reads : Session.action session now = .read (limit - now)) (early : now < limit) :
    ∃ after, pair.Evolves after ∧
      after.Speaks pause side.other now (pair.driver side.other) queue []
        (.byte (limit - now) limit) ∧
      after.driver side = session := by
  have acts : Move.act side session pair.link now =
      ⟨session, pair.link, [], some (.byte (limit - now) limit)⟩ := by
    simp only [Move.act, reads, read?_eq_none speaks.carries.inbox_eq, add_sub_cancel]
  obtain ⟨after, moves, pauses, same⟩ := speaks.pauses acts (.inr ⟨_, _, rfl, rfl, early⟩) (by simp)
  rw [← same]
  exact ⟨after, .single moves, pauses.speaks, pauses.session_eq⟩

theorem leaves {receiver : Receiver Rat}
    (speaks : pair.Speaks pause .b now receiver inbox (value :: rest) (.byte timeout deadline))
    (stops : Session.action receiver now = .stop) :
    ∃ after, pair.Evolves after ∧
      after.Speaks pause .a now (pair.sender.next now (.byte value)).1 rest inbox .ended ∧
      after.receiver = receiver := by
  have acts : Move.act .b receiver pair.link now =
      ⟨receiver, pair.link, [], some .ended⟩ := by
    simp only [Move.act, stops]
  obtain ⟨middle, moves, pauses, same⟩ := speaks.pauses acts (.inl ⟨rfl, rfl⟩) (by simp)
  obtain ⟨after, goes_on, speaks, kept⟩ := pauses.reads
  rw [same] at speaks
  exact ⟨after, .head moves (.single goes_on), speaks, kept⟩

theorem closes {sender : Sender Rat} (speaks : pair.Speaks pause .a now sender inbox queue .ended)
    (stops : Session.action sender now = .stop) :
    ∃ after, pair.Evolves after ∧ after.next = none ∧ after.sender = sender ∧
      after.receiver = pair.receiver := by
  have moves := speaks.next_eq
  have acts : Move.act .a sender pair.link now = ⟨sender, pair.link, [], some .ended⟩ := by
    simp only [Move.act, stops]
  have receiver_ended : pair.receiverWait = .ended := speaks.wait_eq
  rw [acts] at moves
  refine ⟨_, .single moves, ?_, rfl, rfl⟩
  simp [next, moved, senderMoved, ended, due, unblocked, waiting, LinkEnd.other, receiver_ended]

end Speaks
end Pair
end Xmodem
