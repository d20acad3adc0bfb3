import Mathlib.Logic.Relation
import Mathlib.Tactic.Linarith
import Xmodem.Proofs.Turn

/-!
# Scenes

A scene is a pair at a scheduling point, without its history.  `Scene.Leads` relates a scene to the
next one, and the lemmas about it say when which side goes on and when the clock does.  What holds
at every scheduling point is proved along this relation, and so is what a pair ends in.
-/

namespace Xmodem

/-- A pair at a scheduling point: nobody has the turn. -/
structure Scene where
  /-- The session at the first end. -/
  sender : Sender Rat
  /-- The session at the second end. -/
  receiver : Receiver Rat
  /-- What connects them. -/
  wire : Wire
  /-- The clock. -/
  now : Rat
  /-- Why the sender does not go on. -/
  senderPause : Pause
  /-- Why the receiver does not go on. -/
  receiverPause : Pause

namespace Scene

/-- Whether a pair is at a scheduling point. -/
structure Shows (scene : Scene) (pair : Pair Rat) : Prop where
  sender : pair.sender = scene.sender
  receiver : pair.receiver = scene.receiver
  link : pair.link = scene.wire.link
  now : pair.now = scene.now
  turn : pair.turn = none
  senderWait : scene.senderPause.Keeps .a pair.senderWait
  receiverWait : scene.receiverPause.Keeps .b pair.receiverWait
  patience : pair.patience = none

/-- Whether the first end has left a scheduling point and has its turn. -/
structure SenderActs (scene : Scene) (pair : Pair Rat) : Prop where
  sender : pair.sender = scene.sender
  receiver : pair.receiver = scene.receiver
  link : pair.link = scene.wire.link
  now : pair.now = scene.now
  turn : pair.turn = some .a
  senderWait : pair.senderWait = .ready
  receiverWait : scene.receiverPause.Keeps .b pair.receiverWait
  patience : pair.patience = none

/-- Whether the second end has left a scheduling point and has its turn. -/
structure ReceiverActs (scene : Scene) (pair : Pair Rat) : Prop where
  sender : pair.sender = scene.sender
  receiver : pair.receiver = scene.receiver
  link : pair.link = scene.wire.link
  now : pair.now = scene.now
  turn : pair.turn = some .b
  senderWait : scene.senderPause.Keeps .a pair.senderWait
  receiverWait : pair.receiverWait = .ready
  patience : pair.patience = none

theorem SenderActs.next {scene : Scene} {pair : Pair Rat} (acts : scene.SenderActs pair) :
    pair.next =
      some (pair.senderMoved (.act .a scene.sender scene.wire.link scene.now)) := by
  simp [Pair.next, Pair.ended, acts.senderWait, acts.turn, Pair.proceed, Move.resume, acts.sender,
    acts.link, acts.now]

theorem ReceiverActs.next {scene : Scene} {pair : Pair Rat} (acts : scene.ReceiverActs pair) :
    pair.next =
      some (pair.receiverMoved (.act .b scene.receiver scene.wire.link scene.now)) := by
  have lasts : pair.ended = false := by
    unfold Pair.ended
    split <;> simp [acts.turn]
  simp [Pair.next, lasts, acts.turn, Pair.proceed, acts.receiverWait, Move.resume, acts.receiver,
    acts.link, acts.now]

theorem SenderActs.goes_on {scene : Scene} {pair : Pair Rat} {wire : Wire}
    {happened : List (Happening Rat)} {answer : Answer} {good : Pair Rat → Prop}
    (acts : scene.SenderActs pair)
    (act_eq : Move.act .a scene.sender scene.wire.link scene.now =
      Move.answer scene.sender wire.link scene.now happened answer)
    (rest : ∀ ⦃middle⦄,
      { scene with
        sender := (Session.next scene.sender scene.now answer).1
        wire := wire }.SenderActs middle →
      ∃ after, middle.Yields after ∧ good after) :
    ∃ after, pair.Yields after ∧ good after := by
  have moves := acts.next
  rw [act_eq] at moves
  have acts_on : { scene with
        sender := (Session.next scene.sender scene.now answer).1
        wire := wire }.SenderActs
      (pair.senderMoved (Move.answer scene.sender wire.link scene.now happened answer)) :=
    ⟨rfl, acts.receiver, rfl, acts.now, rfl, rfl, acts.receiverWait, acts.patience⟩
  obtain ⟨after, yields, holds⟩ := rest acts_on
  exact ⟨after, .more moves (by simp [acts_on.turn]) yields, holds⟩

theorem ReceiverActs.goes_on {scene : Scene} {pair : Pair Rat} {wire : Wire}
    {happened : List (Happening Rat)} {answer : Answer} {good : Pair Rat → Prop}
    (acts : scene.ReceiverActs pair)
    (act_eq : Move.act .b scene.receiver scene.wire.link scene.now =
      Move.answer scene.receiver wire.link scene.now happened answer)
    (rest : ∀ ⦃middle⦄,
      { scene with
        receiver := (Session.next scene.receiver scene.now answer).1
        wire := wire }.ReceiverActs middle →
      ∃ after, middle.Yields after ∧ good after) :
    ∃ after, pair.Yields after ∧ good after := by
  have moves := acts.next
  rw [act_eq] at moves
  have acts_on : { scene with
        receiver := (Session.next scene.receiver scene.now answer).1
        wire := wire }.ReceiverActs
      (pair.receiverMoved (Move.answer scene.receiver wire.link scene.now happened answer)) :=
    ⟨acts.sender, rfl, rfl, acts.now, rfl, acts.senderWait, rfl, acts.patience⟩
  obtain ⟨after, yields, holds⟩ := rest acts_on
  exact ⟨after, .more moves (by simp [acts_on.turn]) yields, holds⟩

/-- A turn of the first end brings a pair to its next scheduling point. -/
theorem SenderActs.yields {scene : Scene} {later : Sender Rat} {wire : Wire} {pause : Pause}
    (turn : Turn .a scene.now scene.sender scene.wire later wire pause) {pair : Pair Rat}
    (acts : scene.SenderActs pair) :
    ∃ after, pair.Yields after ∧
      { scene with sender := later, wire := wire, senderPause := pause }.Shows after := by
  obtain ⟨sender, receiver, start, now, senderPause, receiverPause⟩ := scene
  dsimp only at turn ⊢
  induction turn generalizing pair with
  | stop stops =>
      have moves := acts.next
      rw [Move.act_of_stop stops] at moves
      have wait : Pause.ended.Keeps .a (.partner (pair.patience.map (pair.now + ·))) := by
        simp [Pause.Keeps, acts.patience]
      exact ⟨_, .last moves rfl, rfl, acts.receiver, rfl, acts.now, rfl, wait, acts.receiverWait,
        acts.patience⟩
  | block reads empty deadline =>
      have moves := acts.next
      rw [Move.act_of_read_nil reads empty] at moves
      exact ⟨_, .last moves rfl, rfl, acts.receiver, rfl, acts.now, rfl, ⟨_, congrArg _ deadline⟩,
        acts.receiverWait, acts.patience⟩
  | proceed proceeds _ induction =>
      exact acts.goes_on (Move.act_of_proceed proceeds) fun middle acts => induction acts
  | write writes _ induction =>
      exact acts.goes_on (Move.act_of_write writes) fun middle acts => induction acts
  | read reads waiting _ induction =>
      exact acts.goes_on (Move.act_of_read_cons reads waiting) fun middle acts => induction acts

theorem ReceiverActs.yields {scene : Scene} {later : Receiver Rat} {wire : Wire} {pause : Pause}
    (turn : Turn .b scene.now scene.receiver scene.wire later wire pause) {pair : Pair Rat}
    (acts : scene.ReceiverActs pair) :
    ∃ after, pair.Yields after ∧
      { scene with receiver := later, wire := wire, receiverPause := pause }.Shows after := by
  obtain ⟨sender, receiver, start, now, senderPause, receiverPause⟩ := scene
  dsimp only at turn ⊢
  induction turn generalizing pair with
  | stop stops =>
      have moves := acts.next
      rw [Move.act_of_stop stops] at moves
      exact ⟨_, .last moves rfl, acts.sender, rfl, rfl, acts.now, rfl, acts.senderWait, rfl,
        acts.patience⟩
  | block reads empty deadline =>
      have moves := acts.next
      rw [Move.act_of_read_nil reads empty] at moves
      exact ⟨_, .last moves rfl, acts.sender, rfl, rfl, acts.now, rfl, acts.senderWait,
        ⟨_, congrArg _ deadline⟩, acts.patience⟩
  | proceed proceeds _ induction =>
      exact acts.goes_on (Move.act_of_proceed proceeds) fun middle acts => induction acts
  | write writes _ induction =>
      exact acts.goes_on (Move.act_of_write writes) fun middle acts => induction acts
  | read reads waiting _ induction =>
      exact acts.goes_on (Move.act_of_read_cons reads waiting) fun middle acts => induction acts

/-- Whenever a pair is at one scene, it is at the other the next time that nobody has the turn. -/
def Leads (before after : Scene) : Prop :=
  ∀ pair, before.Shows pair → ∃ next, after.Shows next ∧ pair.Yields next

/-- The first end waits in vain so far, or has ended before the second. -/
def SenderRests (scene : Scene) : Prop :=
  match scene.senderPause with
  | .ready => False
  | .until deadline => scene.wire.backward = [] ∧ scene.now < deadline
  | .ended => scene.receiverPause ≠ .ended

/-- The second end waits in vain so far, or has ended. -/
def ReceiverRests (scene : Scene) : Prop :=
  match scene.receiverPause with
  | .ready => False
  | .until deadline => scene.wire.forward = [] ∧ scene.now < deadline
  | .ended => True

/-- The earliest deadline. -/
def deadline? (scene : Scene) : Option Rat :=
  match scene.senderPause, scene.receiverPause with
  | .until first, .until second => some (Quantity.least first second)
  | .until deadline, _ | _, .until deadline => some deadline
  | _, _ => none

theorem leads_of_sender_answer {scene : Scene} {middle wire : Wire} {answer : Answer}
    {later : Sender Rat} {pause : Pause}
    (resumes : ∀ pair, scene.Shows pair → ∃ happened, pair.next = some (pair.senderMoved
      (Move.answer scene.sender middle.link scene.now happened answer)))
    (turn : Turn .a scene.now (scene.sender.next scene.now answer).1 middle later wire pause) :
    scene.Leads { scene with sender := later, wire := wire, senderPause := pause } := by
  intro pair shows
  obtain ⟨happened, moves⟩ := resumes pair shows
  have acts : { scene with
        sender := (scene.sender.next scene.now answer).1
        wire := middle }.SenderActs
      (pair.senderMoved (Move.answer scene.sender middle.link scene.now happened answer)) :=
    ⟨rfl, shows.receiver, rfl, shows.now, rfl, rfl, shows.receiverWait, shows.patience⟩
  obtain ⟨after, yields, after_shows⟩ := acts.yields turn
  exact ⟨after, after_shows, .more moves (by simp [acts.turn]) yields⟩

theorem leads_of_receiver_answer {scene : Scene} {middle wire : Wire} {answer : Answer}
    {later : Receiver Rat} {pause : Pause}
    (resumes : ∀ pair, scene.Shows pair → ∃ happened, pair.next = some (pair.receiverMoved
      (Move.answer scene.receiver middle.link scene.now happened answer)))
    (turn : Turn .b scene.now (scene.receiver.next scene.now answer).1 middle later wire pause) :
    scene.Leads { scene with receiver := later, wire := wire, receiverPause := pause } := by
  intro pair shows
  obtain ⟨happened, moves⟩ := resumes pair shows
  have acts : { scene with
        receiver := (scene.receiver.next scene.now answer).1
        wire := middle }.ReceiverActs
      (pair.receiverMoved (Move.answer scene.receiver middle.link scene.now happened answer)) :=
    ⟨shows.sender, rfl, rfl, shows.now, rfl, shows.senderWait, rfl, shows.patience⟩
  obtain ⟨after, yields, after_shows⟩ := acts.yields turn
  exact ⟨after, after_shows, .more moves (by simp [acts.turn]) yields⟩

theorem Shows.senderWait_of_until {scene : Scene} {pair : Pair Rat} (shows : scene.Shows pair)
    {deadline : Rat} (waits : scene.senderPause = .until deadline) :
    ∃ timeout, pair.senderWait = .byte timeout deadline := by
  simpa only [waits, Pause.Keeps] using shows.senderWait

theorem Shows.receiverWait_of_until {scene : Scene} {pair : Pair Rat} (shows : scene.Shows pair)
    {deadline : Rat} (waits : scene.receiverPause = .until deadline) :
    ∃ timeout, pair.receiverWait = .byte timeout deadline := by
  simpa only [waits, Pause.Keeps] using shows.receiverWait

theorem SenderRests.not_due {scene : Scene} (rests : scene.SenderRests) {pair : Pair Rat}
    (shows : scene.Shows pair) : pair.due .a = false ∧ pair.ended = false := by
  unfold SenderRests at rests
  split at rests
  case h_1 => exact rests.elim
  case h_2 deadline waits =>
      obtain ⟨empty, early⟩ := rests
      obtain ⟨timeout, wait⟩ := shows.senderWait_of_until waits
      constructor
      · simp [Pair.due, Pair.unblocked, Pair.waiting, wait, Wait.deadline?, shows.link,
          Wire.inbox_link, Wire.inbox, shows.now, early, empty]
      · simp [Pair.ended, wait]
  case h_3 has_ended =>
      have wait : pair.senderWait = .partner none := by
        simpa only [has_ended, Pause.Keeps] using shows.senderWait
      have due : pair.due .a = false := by
        have receiverWait := shows.receiverWait
        cases pause : scene.receiverPause with
        | ready =>
            rw [pause] at receiverWait
            have receiver_wait : pair.receiverWait = .ready := receiverWait
            simp [Pair.due, Pair.unblocked, Pair.waiting, wait, LinkEnd.other, receiver_wait,
              Wait.deadline?]
        | «until» deadline =>
            rw [pause] at receiverWait
            obtain ⟨timeout, receiver_wait⟩ := receiverWait
            simp [Pair.due, Pair.unblocked, Pair.waiting, wait, LinkEnd.other, receiver_wait,
              Wait.deadline?]
        | ended => exact absurd pause rests
      exact ⟨due, by simp [Pair.ended, wait, due]⟩

theorem leads_of_sender_byte {scene : Scene} {deadline : Rat} {value : UInt8} {rest : List UInt8}
    {later : Sender Rat} {wire : Wire} {pause : Pause}
    (waits : scene.senderPause = .until deadline) (arrived : scene.wire.backward = value :: rest)
    (turn : Turn .a scene.now (scene.sender.next scene.now (.byte value)).1
      { scene.wire with backward := rest } later wire pause) :
    scene.Leads { scene with sender := later, wire := wire, senderPause := pause } := by
  refine leads_of_sender_answer (fun pair shows => ?_) turn
  obtain ⟨timeout, wait⟩ := shows.senderWait_of_until waits
  have read : scene.wire.link.read? .a =
      some (value, { scene.wire with backward := rest }.link) :=
    Wire.read?_link_of_cons arrived
  have due : pair.due .a = true := by
    simp [Pair.due, Pair.unblocked, Pair.waiting, wait, shows.link, Wire.inbox_link, Wire.inbox,
      arrived]
  simp [Pair.next, Pair.ended, wait, shows.turn, Pair.next?, due, Pair.proceed, Move.resume,
      shows.sender, shows.now, shows.link, read]
  exact ⟨_, rfl⟩

theorem leads_of_sender_silence {scene : Scene} {deadline : Rat} {later : Sender Rat} {wire : Wire}
    {pause : Pause} (waits : scene.senderPause = .until deadline)
    (empty : scene.wire.backward = []) (past : deadline ≤ scene.now)
    (turn : Turn .a scene.now (scene.sender.next scene.now .silence).1 scene.wire later wire
      pause) :
    scene.Leads { scene with sender := later, wire := wire, senderPause := pause } := by
  refine leads_of_sender_answer (fun pair shows => ?_) turn
  obtain ⟨timeout, wait⟩ := shows.senderWait_of_until waits
  have read : scene.wire.link.read? .a = none := Wire.read?_link_of_nil empty
  have due : pair.due .a = true := by
    simp [Pair.due, Pair.waiting, wait, Wait.deadline?, shows.now, past]
  simp [Pair.next, Pair.ended, wait, shows.turn, Pair.next?, due, Pair.proceed, Move.resume,
      shows.sender, shows.now, shows.link, read]
  exact ⟨_, rfl⟩

theorem ReceiverRests.not_due {scene : Scene} (rests : scene.ReceiverRests) {pair : Pair Rat}
    (shows : scene.Shows pair) : pair.due .b = false := by
  unfold ReceiverRests at rests
  split at rests
  case h_1 => exact rests.elim
  case h_2 deadline waits =>
      obtain ⟨empty, early⟩ := rests
      obtain ⟨timeout, wait⟩ := shows.receiverWait_of_until waits
      simp [Pair.due, Pair.unblocked, Pair.waiting, wait, Wait.deadline?, shows.link,
        Wire.inbox_link, Wire.inbox, shows.now, early, empty]
  case h_3 has_ended =>
      have wait : pair.receiverWait = .ended := by
        simpa only [has_ended, Pause.Keeps] using shows.receiverWait
      simp [Pair.due, Pair.unblocked, Pair.waiting, wait, Wait.deadline?]

theorem leads_of_receiver_ready {scene : Scene} {later : Receiver Rat} {wire : Wire} {pause : Pause}
    (rests : scene.SenderRests) (ready : scene.receiverPause = .ready)
    (proceeds : Session.action scene.receiver scene.now = .proceed)
    (turn : Turn .b scene.now (scene.receiver.next scene.now .proceeded).1 scene.wire later wire
      pause) :
    scene.Leads { scene with receiver := later, wire := wire, receiverPause := pause } := by
  refine leads_of_receiver_answer (fun pair shows => ?_) turn
  obtain ⟨first, lasts⟩ := rests.not_due shows
  have wait : pair.receiverWait = .ready := by
    simpa only [ready, Pause.Keeps] using shows.receiverWait
  have due : pair.due .b = true := by
    simp [Pair.due, Pair.unblocked, Pair.waiting, wait]
  have act_eq : Move.act .b scene.receiver scene.wire.link scene.now = _ :=
    Move.act_of_proceed proceeds
  simp [Pair.next, lasts, wait, shows.turn, Pair.next?, first, due, Pair.proceed, Move.resume,
    shows.receiver, shows.now, shows.link, act_eq]
  exact ⟨_, rfl⟩

theorem leads_of_receiver_byte {scene : Scene} {deadline : Rat} {value : UInt8}
    {rest : List UInt8} {later : Receiver Rat} {wire : Wire} {pause : Pause}
    (rests : scene.SenderRests) (waits : scene.receiverPause = .until deadline)
    (arrived : scene.wire.forward = value :: rest)
    (turn : Turn .b scene.now (scene.receiver.next scene.now (.byte value)).1
      { scene.wire with forward := rest } later wire pause) :
    scene.Leads { scene with receiver := later, wire := wire, receiverPause := pause } := by
  refine leads_of_receiver_answer (fun pair shows => ?_) turn
  obtain ⟨first, lasts⟩ := rests.not_due shows
  obtain ⟨timeout, wait⟩ := shows.receiverWait_of_until waits
  have read : scene.wire.link.read? .b =
      some (value, { scene.wire with forward := rest }.link) :=
    Wire.read?_link_of_cons arrived
  have due : pair.due .b = true := by
    simp [Pair.due, Pair.unblocked, Pair.waiting, wait, shows.link, Wire.inbox_link, Wire.inbox,
      arrived]
  simp [Pair.next, lasts, wait, shows.turn, Pair.next?, first, due, Pair.proceed, Move.resume,
    shows.receiver, shows.now, shows.link, read]
  exact ⟨_, rfl⟩

theorem leads_of_receiver_bytes {scene : Scene} {deadline timeout : Rat} {value : UInt8}
    {rest : List UInt8} {later : Receiver Rat} {wire : Wire} {pause : Pause}
    (rests : scene.SenderRests) (waits : scene.receiverPause = .until deadline)
    (arrived : scene.wire.forward = value :: rest)
    (reads : Session.action scene.receiver scene.now = .read timeout)
    (turn : Turn .b scene.now scene.receiver scene.wire later wire pause) :
    scene.Leads { scene with receiver := later, wire := wire, receiverPause := pause } :=
  leads_of_receiver_byte rests waits arrived (turn.next_of_read reads arrived)

theorem leads_of_receiver_silence {scene : Scene} {deadline : Rat} {later : Receiver Rat}
    {wire : Wire} {pause : Pause} (rests : scene.SenderRests)
    (waits : scene.receiverPause = .until deadline) (empty : scene.wire.forward = [])
    (past : deadline ≤ scene.now)
    (turn : Turn .b scene.now (scene.receiver.next scene.now .silence).1 scene.wire later wire
      pause) :
    scene.Leads { scene with receiver := later, wire := wire, receiverPause := pause } := by
  refine leads_of_receiver_answer (fun pair shows => ?_) turn
  obtain ⟨first, lasts⟩ := rests.not_due shows
  obtain ⟨timeout, wait⟩ := shows.receiverWait_of_until waits
  have read : scene.wire.link.read? .b = none := Wire.read?_link_of_nil empty
  have due : pair.due .b = true := by
    simp [Pair.due, Pair.waiting, wait, Wait.deadline?, shows.now, past]
  simp [Pair.next, lasts, wait, shows.turn, Pair.next?, first, due, Pair.proceed, Move.resume,
    shows.receiver, shows.now, shows.link, read]
  exact ⟨_, rfl⟩

theorem Shows.earliest? {scene : Scene} {pair : Pair Rat} (shows : scene.Shows pair)
    {deadline : Rat} (earliest : scene.deadline? = some deadline) :
    pair.earliest? = some deadline := by
  rw [Pair.earliest?, shows.senderWait.deadline?_eq, shows.receiverWait.deadline?_eq]
  revert earliest
  unfold deadline?
  cases scene.senderPause <;> cases scene.receiverPause <;> simp [Pause.deadline?]

/-- When both ends rest, the clock goes on. -/
theorem leads_of_clock {scene : Scene} {deadline : Rat} (first : scene.SenderRests)
    (second : scene.ReceiverRests) (earliest : scene.deadline? = some deadline) :
    scene.Leads { scene with now := deadline } := by
  intro pair shows
  obtain ⟨first_due, lasts⟩ := first.not_due shows
  have moves : pair.next = some { pair with now := deadline } := by
    simp [Pair.next, lasts, shows.turn, Pair.next?, first_due, second.not_due shows,
      shows.earliest? earliest]
  refine ⟨{ pair with now := deadline }, ?_, .last moves shows.turn⟩
  exact ⟨shows.sender, shows.receiver, shows.link, rfl, shows.turn, shows.senderWait,
    shows.receiverWait, shows.patience⟩

/-- One scene leads to another in some number of turns. -/
def Reaches : Scene → Scene → Prop :=
  Relation.ReflTransGen Leads

/-- In silence the first end goes on at its deadline, unless the second has an earlier one. -/
theorem reaches_of_sender_timeout {scene : Scene} {deadline : Rat} {later : Sender Rat}
    {wire : Wire} {pause : Pause} (waits : scene.senderPause = .until deadline)
    (backward : scene.wire.backward = []) (early : scene.now ≤ deadline)
    (second : scene.receiverPause = .ended ∨
      ∃ other, scene.receiverPause = .until other ∧ deadline ≤ other ∧ scene.wire.forward = [])
    (turn : Turn .a deadline (scene.sender.next deadline .silence).1 scene.wire later wire pause) :
    scene.Reaches
      { scene with sender := later, wire := wire, now := deadline, senderPause := pause } := by
  have silence : { scene with now := deadline }.Leads
      { scene with sender := later, wire := wire, now := deadline, senderPause := pause } :=
    leads_of_sender_silence waits backward le_rfl turn
  rcases early.eq_or_lt with now_eq | before
  · subst now_eq
    exact .single silence
  · refine .head ?_ (.single silence)
    apply leads_of_clock
    · simp only [SenderRests, waits]
      exact ⟨backward, before⟩
    · rcases second with has_ended | ⟨other, other_waits, later_than, forward⟩
      · simp only [ReceiverRests, has_ended]
      · simp only [ReceiverRests, other_waits]
        exact ⟨forward, before.trans_le later_than⟩
    · rcases second with has_ended | ⟨other, other_waits, later_than, _⟩
      · simp only [deadline?, waits, has_ended]
      · simp only [deadline?, waits, other_waits, Quantity.least, later_than.not_gt, if_false]

/-- In silence the second end goes on at its deadline, unless the first has an earlier one. -/
theorem reaches_of_receiver_timeout {scene : Scene} {deadline : Rat} {later : Receiver Rat}
    {wire : Wire} {pause : Pause} (waits : scene.receiverPause = .until deadline)
    (forward : scene.wire.forward = []) (early : scene.now ≤ deadline)
    (first : scene.senderPause = .ended ∨
      ∃ other, scene.senderPause = .until other ∧ deadline < other ∧ scene.wire.backward = [])
    (turn : Turn .b deadline (scene.receiver.next deadline .silence).1 scene.wire later wire
      pause) :
    scene.Reaches
      { scene with receiver := later, wire := wire, now := deadline, receiverPause := pause } := by
  have first_rests : ∀ instant ≤ deadline, { scene with now := instant }.SenderRests := by
    intro instant instant_le
    rcases first with has_ended | ⟨other, other_waits, later_than, backward⟩
    · simp [SenderRests, has_ended, waits]
    · simp only [SenderRests, other_waits]
      exact ⟨backward, instant_le.trans_lt later_than⟩
  have silence : { scene with now := deadline }.Leads
      { scene with receiver := later, wire := wire, now := deadline, receiverPause := pause } :=
    leads_of_receiver_silence (first_rests deadline le_rfl) waits forward le_rfl turn
  rcases early.eq_or_lt with now_eq | before
  · subst now_eq
    exact .single silence
  · refine .head (leads_of_clock (first_rests scene.now early) ?_ ?_) (.single silence)
    · simp only [ReceiverRests, waits]
      exact ⟨forward, before⟩
    · rcases first with has_ended | ⟨other, other_waits, later_than, _⟩
      · simp only [deadline?, waits, has_ended]
      · simp only [deadline?, waits, other_waits, Quantity.least, later_than, if_true]

/-- Every pair at a scene completes, and to a pair of some kind. -/
def Ends (good : Pair Rat → Prop) (scene : Scene) : Prop :=
  ∀ pair, scene.Shows pair → ∃ fuel final, pair.complete fuel = some final ∧ good final

theorem Reaches.ends {good : Pair Rat → Prop} {before after : Scene}
    (reaches : before.Reaches after) (ends : after.Ends good) : before.Ends good := by
  induction reaches using Relation.ReflTransGen.head_induction_on with
  | refl => exact ends
  | head leads _ induction =>
      intro pair shows
      obtain ⟨next, next_shows, yields⟩ := leads pair shows
      obtain ⟨fuel, final, completes, holds⟩ := induction next next_shows
      obtain ⟨more, completes⟩ := yields.complete completes
      exact ⟨more, final, completes, holds⟩

theorem Ends.mono {good better : Pair Rat → Prop} {scene : Scene} (ends : scene.Ends better)
    (weaker : ∀ pair, better pair → good pair) : scene.Ends good := by
  intro pair shows
  obtain ⟨fuel, final, completes, holds⟩ := ends pair shows
  exact ⟨fuel, final, completes, weaker final holds⟩

theorem Shows.next_eq_none {scene : Scene} {pair : Pair Rat} (shows : scene.Shows pair)
    (first : scene.senderPause = .ended) (second : scene.receiverPause = .ended) :
    pair.next = none := by
  have senderWait : pair.senderWait = .partner none := by
    simpa only [first, Pause.Keeps] using shows.senderWait
  have receiverWait : pair.receiverWait = .ended := by
    simpa only [second, Pause.Keeps] using shows.receiverWait
  simp [Pair.next, Pair.ended, senderWait, shows.turn, Pair.due, Pair.unblocked, Pair.waiting,
    LinkEnd.other, receiverWait]

theorem ends_of_ended {good : Pair Rat → Prop} {scene : Scene} (first : scene.senderPause = .ended)
    (second : scene.receiverPause = .ended)
    (holds : ∀ pair : Pair Rat, pair.sender = scene.sender → pair.receiver = scene.receiver →
      good pair) :
    scene.Ends good := by
  intro pair shows
  have stops := shows.next_eq_none first second
  exact ⟨1, pair, by simp [Pair.complete, stops], holds pair shows.sender shows.receiver⟩

/-- A property of scenes holds at all scheduling points when every scene with it either leads to
another one or is the last. -/
theorem holds_of_run {property : Scene → Prop}
    (step : ∀ scene, property scene →
      (∃ after, property after ∧ scene.Leads after) ∨
        scene.senderPause = .ended ∧ scene.receiverPause = .ended)
    {scene : Scene} (holds : property scene) {pair later : Pair Rat} (shows : scene.Shows pair)
    {moves : Nat} (ran : pair.run moves = some later) (rests : later.turn = none) :
    ∃ after, property after ∧ after.Shows later := by
  -- One step from scene to scene takes any positive number of moves.
  induction moves using Nat.strong_induction_on generalizing scene pair with
  | _ moves induction =>
      cases moves with
      | zero =>
          have pair_eq : pair = later := by simpa [Pair.run] using ran
          exact ⟨scene, holds, pair_eq ▸ shows⟩
      | succ moves =>
          rcases step scene holds with ⟨after, after_holds, leads⟩ | ⟨first, second⟩
          · obtain ⟨next, next_shows, yields⟩ := leads pair shows
            obtain ⟨fewer, fewer_le, ran_next⟩ := yields.run ran rests
            exact induction fewer (by omega) after_holds next_shows ran_next
          · have stops := shows.next_eq_none first second
            simp [Pair.run, stops] at ran

theorem start_yields {sender later : Sender Rat} {receiver : Receiver Rat}
    {forth back : Alteration} {wire : Wire} {pause : Pause}
    (turn : Turn .a 0 sender (.fresh forth back) later wire pause) :
    ∃ after, Shows ⟨later, receiver, wire, 0, pause, .ready⟩ after ∧
      (Pair.start sender receiver (Wire.fresh forth back).link none).Yields after := by
  have acts : SenderActs ⟨sender, receiver, .fresh forth back, 0, .ready, .ready⟩
      (Pair.start sender receiver (Wire.fresh forth back).link none) :=
    ⟨rfl, rfl, rfl, rfl, rfl, rfl, rfl, rfl⟩
  obtain ⟨after, yields, shows⟩ := acts.yields turn
  exact ⟨after, shows, yields⟩

end Scene
end Xmodem
