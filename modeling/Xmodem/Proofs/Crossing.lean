import Xmodem.Proofs.Receiver.Stages
import Xmodem.Proofs.Schedule
import Xmodem.Proofs.Sender.Language

/-!
# Crossings

A crossing is what is left of a pair on a link that only delays: the stages of the two ends, the
bytes on their way between them, and a ledger of the sender's writes.  Under every schedule, a pair
goes through such crossings step by step.
-/

namespace Xmodem

/-- What a history tells about the writes of a sender. -/
structure Ledger where
  /-- The packets so far. -/
  tally : Sender.Tally
  /-- Number of writes. -/
  writes : Nat
  /-- What was delivered of each write, with the number of packets acknowledged before. -/
  arrived : List (Nat × List UInt8)

namespace Ledger

/-- Nothing happened. -/
def empty : Ledger where
  tally := ⟨none, 0, 0⟩
  writes := 0
  arrived := []

/-- Take account of a write. -/
def write (forth : Alteration) (ledger : Ledger) (bytes : List UInt8) : Ledger where
  tally := ledger.tally.note (.wrote bytes)
  writes := ledger.writes + 1
  arrived := ledger.arrived ++ [(ledger.tally.place, forth ledger.writes bytes)]

/-- Take account of a byte that was read. -/
def hear (ledger : Ledger) (value : UInt8) : Ledger :=
  { ledger with tally := ledger.tally.note (.heard value) }

/-- Take account of what happened. -/
def note {τ : Type} (forth : Alteration) (ledger : Ledger) : Happening τ → Ledger
  | .wrote bytes => ledger.write forth bytes
  | .received _ value => ledger.hear value
  | _ => ledger

@[simp]
theorem foldl_note_reported {τ : Type} (forth : Alteration) (ledger : Ledger)
    (events : List (Event τ)) :
    (events.map .reported).foldl (note forth) ledger = ledger := by
  induction events with
  | nil => rfl
  | cons event events induction => exact induction

end Ledger

/-- What is left of a pair. -/
structure Crossing where
  /-- Where the sender stands. -/
  stage : Sender.Stage
  /-- How far the receiver has come. -/
  course : Receiver.Course
  /-- Bytes that wait at the receiver. -/
  forward : List UInt8
  /-- Bytes that wait at the sender. -/
  backward : List UInt8
  /-- What will be delivered of the sender's current write. -/
  outgoing : Option (List UInt8)
  /-- What will be delivered of the receiver's current write. -/
  replying : Option (List UInt8)
  /-- The writes of the sender. -/
  ledger : Ledger

variable {τ γ : Type} [Quantity τ]

namespace Crossing

/-- Nobody has begun. -/
def start : Crossing where
  stage := .calling
  course := ⟨.calling, [], 0⟩
  forward := []
  backward := []
  outgoing := none
  replying := none
  ledger := .empty

/-- One step of a crossing. -/
inductive Step (setup : Receiver.Setup τ) (capacity : Nat) (source : List UInt8)
    (forth back : Alteration) : Crossing → Crossing → Prop
  /-- The sender begins to write. -/
  | prepare {crossing : Crossing} {bytes : List UInt8} {later : Sender.Stage} :
      crossing.outgoing = none →
      Sender.Passes setup.policy source crossing.stage (some (.wrote bytes)) later →
      Step setup capacity source forth back crossing
        { crossing with
          outgoing := some (forth crossing.ledger.writes bytes)
          ledger := crossing.ledger.write forth bytes }
  /-- What the sender wrote is delivered. -/
  | deliver {crossing : Crossing} {bytes altered : List UInt8} {later : Sender.Stage} :
      crossing.outgoing = some altered →
      Sender.Passes setup.policy source crossing.stage (some (.wrote bytes)) later →
      Step setup capacity source forth back crossing
        { crossing with
          stage := later
          forward := crossing.forward ++ altered
          outgoing := none }
  /-- The sender reads. -/
  | hear {crossing : Crossing} {value : UInt8} {rest : List UInt8} {later : Sender.Stage} :
      crossing.outgoing = none → crossing.backward = value :: rest →
      Sender.Passes setup.policy source crossing.stage (some (.heard value)) later →
      Step setup capacity source forth back crossing
        { crossing with
          stage := later
          backward := rest
          ledger := crossing.ledger.hear value }
  /-- The sender waits in vain, or makes an internal move. -/
  | pause {crossing : Crossing} {sign : Option Sign} {later : Sender.Stage} :
      crossing.outgoing = none → sign = none ∨ sign = some .silence →
      Sender.Passes setup.policy source crossing.stage sign later →
      Step setup capacity source forth back crossing { crossing with stage := later }
  /-- The receiver begins to write. -/
  | answer {crossing : Crossing} {bytes : List UInt8} {deed : Receiver.Deed}
      {later : Receiver.Course} (write : Nat) :
      crossing.replying = none → deed.sign = some (.wrote bytes) →
      Receiver.Passes setup capacity crossing.course deed later →
      Step setup capacity source forth back crossing
        { crossing with replying := some (back write bytes) }
  /-- What the receiver wrote is delivered. -/
  | reply {crossing : Crossing} {bytes altered : List UInt8} {deed : Receiver.Deed}
      {later : Receiver.Course} :
      crossing.replying = some altered → deed.sign = some (.wrote bytes) →
      Receiver.Passes setup capacity crossing.course deed later →
      Step setup capacity source forth back crossing
        { crossing with
          course := later
          backward := crossing.backward ++ altered
          replying := none }
  /-- The receiver reads. -/
  | listen {crossing : Crossing} {value : UInt8} {rest : List UInt8} {deed : Receiver.Deed}
      {later : Receiver.Course} :
      crossing.replying = none → crossing.forward = value :: rest →
      deed.sign = some (.heard value) →
      Receiver.Passes setup capacity crossing.course deed later →
      Step setup capacity source forth back crossing
        { crossing with course := later, forward := rest }
  /-- The receiver waits in vain, or makes an internal move.  Within a frame it only waits in vain
  when nothing has arrived. -/
  | rest {crossing : Crossing} {deed : Receiver.Deed} {later : Receiver.Course} :
      crossing.replying = none → deed.sign = none ∨ deed.sign = some .silence →
      crossing.forward = [] ∨ (∀ raw, crossing.course.stage ≠ .collecting raw) →
      Receiver.Passes setup capacity crossing.course deed later →
      Step setup capacity source forth back crossing { crossing with course := later }

/-- Whether a crossing can become another one. -/
def Reaches (setup : Receiver.Setup τ) (capacity : Nat) (source : List UInt8)
    (forth back : Alteration) : Crossing → Crossing → Prop :=
  Relation.ReflTransGen (Step setup capacity source forth back)

end Crossing

/-- A receiver within a frame makes no internal move. -/
theorem Receiver.At.not_collecting_of_proceed {setup : Receiver.Setup τ} {initial : Destination}
    {course : Receiver.Course} {receiver : Receiver τ} {now : τ}
    (stands : Receiver.At setup initial course receiver)
    (proceeds : Session.action receiver now = .proceed) (raw : List UInt8) :
    course.stage ≠ .collecting raw := by
  rintro within
  cases stands with
  | collecting keeps met collects =>
      change receiver.action now = .proceed at proceeds
      simp [Receiver.action, collects] at proceeds
  | calling | standing | draining | accepting | answering | completed | canceling | finished =>
      cases within

namespace Pair

/-- The writes of the sender of a pair. -/
def ledger (forth : Alteration) (pair : Pair τ γ) : Ledger :=
  (pair.history .a).foldl (Ledger.note forth) .empty

/-- Whether a pair looks like a crossing. -/
structure Shows (setup : Receiver.Setup τ) (initial : Destination) (source : List UInt8)
    (forth back : Alteration) (pair : Pair τ γ) (crossing : Crossing) : Prop where
  sender : Sender.At setup.policy source crossing.stage pair.sender
  receiver : Receiver.At setup initial crossing.course pair.receiver
  clear_a : pair.link.a.Clear forth
  clear_b : pair.link.b.Clear back
  suits_a : pair.senderWait.Suits pair.sender
  suits_b : pair.receiverWait.Suits pair.receiver
  forward_eq : pair.link.b.inbox = crossing.forward
  backward_eq : pair.link.a.inbox = crossing.backward
  outgoing_eq : pair.senderWait.pending? = crossing.outgoing
  replying_eq : pair.receiverWait.pending? = crossing.replying
  ledger_eq : pair.ledger forth = crossing.ledger
  writes_eq : pair.link.a.writes = crossing.ledger.writes

theorem history_senderMoved (pair : Pair τ γ) (move : Move (Sender τ) τ γ) :
    (pair.senderMoved move).history .a = pair.history .a ++ move.happened.reverse := by
  simp [history, senderMoved, List.filter_map, Function.comp_def]

theorem history_receiverMoved (pair : Pair τ γ) (move : Move (Receiver τ) τ γ) :
    (pair.receiverMoved move).history .a = pair.history .a := by
  simp [history, receiverMoved, List.filter_map, Function.comp_def]

variable {setup : Receiver.Setup τ} {initial : Destination} {source : List UInt8}
  {forth back : Alteration} {pair : Pair τ γ} {crossing : Crossing}

theorem Shows.senderMoved (shows : pair.Shows setup initial source forth back crossing)
    {move : Move (Sender τ) τ γ} {stage : Sender.Stage} {inbox queue : List UInt8} {writes : Nat}
    {outgoing : Option (List UInt8)} {ledger : Ledger}
    (stands : Sender.At setup.policy source stage move.session)
    (shifts : pair.link.Shifts .a inbox queue writes move.link)
    (suits : (pair.senderMoved move).senderWait.Suits move.session)
    (pending : (pair.senderMoved move).senderWait.pending? = outgoing)
    (noted : move.happened.reverse.foldl (Ledger.note forth) crossing.ledger = ledger)
    (counted : writes = ledger.writes) :
    (pair.senderMoved move).Shows setup initial source forth back
      ⟨stage, crossing.course, queue, inbox, outgoing, crossing.replying, ledger⟩ where
  sender := stands
  receiver := shows.receiver
  clear_a := shifts.clear shows.clear_a
  clear_b := shifts.clear_peer shows.clear_b
  suits_a := suits
  suits_b := shows.suits_b
  forward_eq := congrArg Terminal.inbox shifts.peer
  backward_eq := congrArg Terminal.inbox shifts.own
  outgoing_eq := pending
  replying_eq := shows.replying_eq
  ledger_eq := by
    rw [Pair.ledger, history_senderMoved, List.foldl_append, ← noted, ← shows.ledger_eq]
    rfl
  writes_eq := (congrArg Terminal.writes shifts.own).trans counted

theorem Shows.receiverMoved (shows : pair.Shows setup initial source forth back crossing)
    {move : Move (Receiver τ) τ γ} {course : Receiver.Course} {inbox queue : List UInt8}
    {writes : Nat} {replying : Option (List UInt8)}
    (stands : Receiver.At setup initial course move.session)
    (shifts : pair.link.Shifts .b inbox queue writes move.link)
    (suits : (pair.receiverMoved move).receiverWait.Suits move.session)
    (pending : (pair.receiverMoved move).receiverWait.pending? = replying) :
    (pair.receiverMoved move).Shows setup initial source forth back
      { crossing with
        course := course
        forward := inbox
        backward := queue
        replying := replying } where
  sender := shows.sender
  receiver := stands
  clear_a := shifts.clear_peer shows.clear_a
  clear_b := shifts.clear shows.clear_b
  suits_a := shows.suits_a
  suits_b := suits
  forward_eq := congrArg Terminal.inbox shifts.own
  backward_eq := congrArg Terminal.inbox shifts.peer
  outgoing_eq := shows.outgoing_eq
  replying_eq := pending
  ledger_eq := by
    rw [Pair.ledger, history_receiverMoved]
    exact shows.ledger_eq
  writes_eq := (congrArg Terminal.writes shifts.peer).trans shows.writes_eq

theorem Shows.still_a (shows : pair.Shows setup initial source forth back crossing) :
    pair.link.Shifts .a crossing.backward crossing.forward crossing.ledger.writes pair.link := by
  rw [← shows.backward_eq, ← shows.forward_eq, ← shows.writes_eq]
  exact ⟨rfl, rfl⟩

theorem Shows.still_b (shows : pair.Shows setup initial source forth back crossing) :
    pair.link.Shifts .b crossing.forward crossing.backward pair.link.b.writes pair.link := by
  rw [← shows.backward_eq, ← shows.forward_eq]
  exact ⟨rfl, rfl⟩

/-- A turn of the sender is a few steps of the crossing. -/
theorem Shows.exists_senderMoved (shows : pair.Shows setup initial source forth back crossing)
    {move : Move (Sender τ) τ γ} (acts : Acts forth .a pair.sender pair.link pair.senderWait move) :
    ∃ after, crossing.Reaches setup initial.capacity source forth back after ∧
      (pair.senderMoved move).Shows setup initial source forth back after := by
  have passes {asked now : τ} {answer : Answer}
      (valid : (Moment.mk pair.sender asked answer now).Valid) :=
    shows.sender.exists_passes (Sender.reacts_of_valid valid)
  have reported (moment : Moment (Sender τ) τ) (link : Link τ γ) (happened : List (Happening τ)) :
      (moment.move link happened).happened.reverse.foldl (Ledger.note forth) crossing.ledger =
        happened.reverse.foldl (Ledger.note forth) crossing.ledger := by
    simp [Moment.move]
  have outgoing_eq := shows.outgoing_eq
  have forward_eq : (pair.link.terminal (LinkEnd.other .a)).inbox = crossing.forward :=
    shows.forward_eq
  have backward_eq : (pair.link.terminal .a).inbox = crossing.backward := shows.backward_eq
  have writes_eq : (pair.link.terminal .a).writes = crossing.ledger.writes := shows.writes_eq
  cases acts with
  | stop idle stops =>
      exact ⟨_, .refl, shows.senderMoved shows.sender shows.still_a trivial
        (idle.symm.trans outgoing_eq) rfl rfl⟩
  | @block timeout _ now idle reads =>
      exact ⟨_, .refl, shows.senderMoved shows.sender shows.still_a ⟨now, reads⟩
        (idle.symm.trans outgoing_eq) rfl rfl⟩
  | @begin bytes _ now _ idle writes shifts =>
      rw [forward_eq, backward_eq, writes_eq] at shifts
      obtain ⟨later, goes, _⟩ :=
        passes (Moment.valid_of_write writes : (Moment.mk _ now _ now).Valid)
      rw [Moment.sign_of_write _ writes] at goes
      rw [writes_eq]
      exact ⟨_, .single (.prepare (outgoing_eq.symm.trans idle) goes),
        shows.senderMoved shows.sender shifts ⟨now, bytes, writes⟩ rfl rfl rfl⟩
  | @write bytes now _ idle writes shifts =>
      rw [forward_eq, backward_eq, writes_eq] at shifts
      obtain ⟨later, goes, stands⟩ :=
        passes (Moment.valid_of_write writes : (Moment.mk _ now _ now).Valid)
      rw [Moment.sign_of_write _ writes] at goes
      refine ⟨_, .tail (.single (.prepare (outgoing_eq.symm.trans idle) goes)) (.deliver rfl goes),
        shows.senderMoved stands shifts trivial rfl (reported ..) rfl⟩
  | @deliver bytes altered asked now _ pending writes shifts =>
      rw [forward_eq, backward_eq, writes_eq] at shifts
      obtain ⟨later, goes, stands⟩ :=
        passes (Moment.valid_of_write writes : (Moment.mk _ asked _ now).Valid)
      rw [Moment.sign_of_write _ writes] at goes
      exact ⟨_, .single (.deliver (outgoing_eq.symm.trans pending) goes),
        shows.senderMoved stands shifts trivial rfl (reported ..) rfl⟩
  | @read timeout asked now value rest _ idle reads waiting shifts =>
      rw [forward_eq, writes_eq] at shifts
      obtain ⟨later, goes, stands⟩ :=
        passes (Moment.valid_of_read reads value : (Moment.mk _ asked _ now).Valid)
      rw [Moment.sign_of_read _ reads] at goes
      have none_yet := outgoing_eq.symm.trans idle
      exact ⟨_, .single (.hear none_yet (backward_eq.symm.trans waiting) goes),
        shows.senderMoved stands shifts trivial none_yet.symm (reported ..) rfl⟩
  | @expire timeout asked now idle reads empty =>
      obtain ⟨later, goes, stands⟩ :=
        passes (Moment.valid_of_expire reads : (Moment.mk _ asked _ now).Valid)
      rw [Moment.sign_of_expire _ reads] at goes
      have none_yet := outgoing_eq.symm.trans idle
      exact ⟨_, .single (.pause none_yet (.inr rfl) goes),
        shows.senderMoved stands shows.still_a trivial none_yet.symm (reported ..) rfl⟩
  | @proceed now idle proceeds =>
      obtain ⟨later, goes, stands⟩ := passes (Moment.valid_of_proceed proceeds)
      have none_yet := outgoing_eq.symm.trans idle
      exact ⟨_, .single (.pause none_yet (Moment.sign_of_proceed _ proceeds) goes),
        shows.senderMoved stands shows.still_a trivial none_yet.symm (reported ..) rfl⟩

/-- A turn of the receiver is a few steps of the crossing. -/
theorem Shows.exists_receiverMoved (shows : pair.Shows setup initial source forth back crossing)
    {move : Move (Receiver τ) τ γ}
    (acts : Acts back .b pair.receiver pair.link pair.receiverWait move) :
    ∃ after, crossing.Reaches setup initial.capacity source forth back after ∧
      (pair.receiverMoved move).Shows setup initial source forth back after := by
  have passes {asked now : τ} {answer : Answer}
      (valid : (Moment.mk pair.receiver asked answer now).Valid) :=
    shows.receiver.exists_passes (Receiver.reacts_of_valid valid)
  have replying_eq := shows.replying_eq
  have forward_eq : (pair.link.terminal .b).inbox = crossing.forward := shows.forward_eq
  have backward_eq : (pair.link.terminal (LinkEnd.other .b)).inbox = crossing.backward :=
    shows.backward_eq
  cases acts with
  | stop idle stops =>
      exact ⟨_, .refl, shows.receiverMoved shows.receiver shows.still_b trivial
        (idle.symm.trans replying_eq)⟩
  | @block timeout _ now idle reads =>
      exact ⟨_, .refl, shows.receiverMoved shows.receiver shows.still_b ⟨now, reads⟩
        (idle.symm.trans replying_eq)⟩
  | @begin bytes _ now _ idle writes shifts =>
      rw [forward_eq, backward_eq] at shifts
      obtain ⟨later, goes, _⟩ :=
        passes (Moment.valid_of_write writes : (Moment.mk _ now _ now).Valid)
      rw [Moment.sign_of_write _ writes] at goes
      exact ⟨_, .single (.answer _ (replying_eq.symm.trans idle) rfl goes),
        shows.receiverMoved shows.receiver shifts ⟨now, bytes, writes⟩ rfl⟩
  | @write bytes now _ idle writes shifts =>
      rw [forward_eq, backward_eq] at shifts
      obtain ⟨later, goes, stands⟩ :=
        passes (Moment.valid_of_write writes : (Moment.mk _ now _ now).Valid)
      rw [Moment.sign_of_write _ writes] at goes
      exact ⟨_, .tail (.single (.answer _ (replying_eq.symm.trans idle) rfl goes))
          (.reply rfl rfl goes),
        shows.receiverMoved stands shifts trivial rfl⟩
  | @deliver bytes altered asked now _ pending writes shifts =>
      rw [forward_eq, backward_eq] at shifts
      obtain ⟨later, goes, stands⟩ :=
        passes (Moment.valid_of_write writes : (Moment.mk _ asked _ now).Valid)
      rw [Moment.sign_of_write _ writes] at goes
      exact ⟨_, .single (.reply (replying_eq.symm.trans pending) rfl goes),
        shows.receiverMoved stands shifts trivial rfl⟩
  | @read timeout asked now value rest _ idle reads waiting shifts =>
      rw [backward_eq] at shifts
      obtain ⟨later, goes, stands⟩ :=
        passes (Moment.valid_of_read reads value : (Moment.mk _ asked _ now).Valid)
      rw [Moment.sign_of_read _ reads] at goes
      have none_yet := replying_eq.symm.trans idle
      exact ⟨_, .single (.listen none_yet (forward_eq.symm.trans waiting) rfl goes),
        shows.receiverMoved stands shifts trivial none_yet.symm⟩
  | @expire timeout asked now idle reads empty =>
      obtain ⟨later, goes, stands⟩ :=
        passes (Moment.valid_of_expire reads : (Moment.mk _ asked _ now).Valid)
      rw [Moment.sign_of_expire _ reads] at goes
      have none_yet := replying_eq.symm.trans idle
      exact ⟨_, .single (.rest none_yet (.inr rfl) (.inl (forward_eq.symm.trans empty)) goes),
        shows.receiverMoved stands shows.still_b trivial none_yet.symm⟩
  | @proceed now idle proceeds =>
      obtain ⟨later, goes, stands⟩ := passes (Moment.valid_of_proceed proceeds)
      have none_yet := replying_eq.symm.trans idle
      have between_frames : ∀ raw, crossing.course.stage ≠ .collecting raw :=
        shows.receiver.not_collecting_of_proceed proceeds
      exact ⟨_, .single (.rest none_yet (Moment.sign_of_proceed _ proceeds) (.inr between_frames)
          goes),
        shows.receiverMoved stands shows.still_b trivial none_yet.symm⟩

theorem shows_start {thither hither : Impairment τ γ} (delays_a : thither.OnlyDelays)
    (delays_b : hither.OnlyDelays) (patience : Option τ) :
    (Pair.start (.start setup.policy source 0) (.start setup initial 0)
      ⟨.fresh thither forth, .fresh hither back⟩ patience).Shows
      setup initial source forth back .start where
  sender := Sender.at_start setup.policy source 0
  receiver := Receiver.at_start setup initial 0
  clear_a := ⟨rfl, rfl, delays_a⟩
  clear_b := ⟨rfl, rfl, delays_b⟩
  suits_a := trivial
  suits_b := trivial
  forward_eq := rfl
  backward_eq := rfl
  outgoing_eq := rfl
  replying_eq := rfl
  ledger_eq := rfl
  writes_eq := rfl

variable [Generator γ]

theorem Shows.exists_of_goes (shows : pair.Shows setup initial source forth back crossing)
    {after : Pair τ γ} (goes : pair.Goes after) :
    ∃ later, crossing.Reaches setup initial.capacity source forth back later ∧
      after.Shows setup initial source forth back later := by
  cases goes with
  | move side now =>
      have shows : Shows setup initial source forth back { pair with now := now } crossing :=
        { shows with }
      cases side with
      | a =>
          have clear : (pair.link.terminal .a).Clear forth := shows.clear_a
          exact shows.exists_senderMoved (acts_resume clear shows.suits_a)
      | b =>
          have clear : (pair.link.terminal .b).Clear back := shows.clear_b
          exact shows.exists_receiverMoved (acts_resume clear shows.suits_b)
  | pass now => exact ⟨crossing, .refl, { shows with }⟩

/-- What a pair becomes under some schedule is a crossing that its crossing becomes. -/
theorem Shows.exists_of_reaches (shows : pair.Shows setup initial source forth back crossing)
    {after : Pair τ γ} (reaches : pair.Reaches after) :
    ∃ later, crossing.Reaches setup initial.capacity source forth back later ∧
      after.Shows setup initial source forth back later := by
  induction reaches with
  | refl => exact ⟨crossing, .refl, shows⟩
  | tail _ goes induction =>
      obtain ⟨between, before, shows⟩ := induction
      obtain ⟨later, after, shows⟩ := shows.exists_of_goes goes
      exact ⟨later, before.trans after, shows⟩

end Pair
end Xmodem
