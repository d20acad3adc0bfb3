import Mathlib.Data.List.Forall2
import Xmodem.Proofs.Receiver.Closing

/-!
# What a receiver found in its destination

A receiver reads its destination only to strip the padding of the last block, and then only where it
has stored that block itself.  So two receivers with the same choices and the same line go the same
way, whatever their destinations held before, and leave the same bytes behind.
-/

namespace Xmodem
namespace Receiver

open Destination

variable {τ : Type} [Quantity τ]

/-- A receiver that stores elsewhere. -/
def upon (receiver : Receiver τ) (destination : Destination) : Receiver τ :=
  { receiver with destination := destination }

/-- Whether another destination agrees with that of a receiver as far as it was filled. -/
structure Resembles (receiver : Receiver τ) (other : Destination) : Prop where
  capacity_eq : other.capacity = receiver.destination.capacity
  filled_eq : other.toList.take receiver.cursor =
    receiver.destination.toList.take receiver.cursor
  inside : receiver.cursor ≤ receiver.destination.capacity

/-- Whether two receivers that differ in their destinations only get to receivers of the same sort,
with the same events. -/
def Parallel (result other : Receiver τ × List (Event τ)) : Prop :=
  ∃ destination, Resembles result.1 destination ∧ other = (result.1.upon destination, result.2)

section Reactions

variable {receiver : Receiver τ} {other : Destination} {now : τ}

theorem transferred_le (receiver : Receiver τ) : receiver.transferred ≤ receiver.cursor := by
  have trimmed (length : Nat) : receiver.cursor - length ≤ receiver.cursor := Nat.sub_le ..
  unfold transferred
  dsimp only
  split
  · split
    · assumption
    · split
      · exact trimmed _
      · exact Nat.le_refl _
  · split
    · exact trimmed _
    · exact Nat.le_refl _

theorem transferred_upon (receiver : Receiver τ) (resembles : Resembles receiver other) :
    (receiver.upon other).transferred = receiver.transferred := by
  have same : other.slice (receiver.cursor - receiver.lastLength) receiver.cursor =
      receiver.destination.slice (receiver.cursor - receiver.lastLength) receiver.cursor := by
    rw [slice_eq _ _ _ resembles.inside, slice_eq _ _ _ (resembles.capacity_eq ▸ resembles.inside),
      resembles.filled_eq]
  unfold transferred
  simp only [upon, same]

theorem parallel_abort (receiver : Receiver τ) (resembles : Resembles receiver other) (now : τ)
    (cause : AbortCause) :
    Parallel (receiver.abort now cause) ((receiver.upon other).abort now cause) := by
  have same := transferred_upon { receiver with phase := .aborted } { resembles with }
  refine ⟨other, { resembles with }, ?_⟩
  simp only [upon, abort, close] at same ⊢
  rw [same]

theorem parallel_complete (receiver : Receiver τ) (resembles : Resembles receiver other)
    (now : τ) : Parallel (receiver.complete now) ((receiver.upon other).complete now) := by
  have same := transferred_upon receiver resembles
  refine ⟨other, { resembles with }, ?_⟩
  simp only [upon, complete, close] at same ⊢
  rw [same]

theorem parallel_beginStep (resembles : Resembles receiver other) (now : τ) :
    Parallel (receiver.beginStep now) ((receiver.upon other).beginStep now) := by
  unfold beginStep
  rw [show (receiver.upon other).phase = receiver.phase from rfl]
  split
  case h_1 | h_2 | h_3 => exact ⟨other, { resembles with }, rfl⟩
  case h_4 => exact parallel_complete receiver resembles now
  case h_5 => exact ⟨other, resembles, rfl⟩

theorem Parallel.cons {result also : Receiver τ × List (Event τ)} (parallel : Parallel result also)
    (event : Event τ) : Parallel (result.1, event :: result.2) (also.1, event :: also.2) := by
  obtain ⟨destination, resembles, rfl⟩ := parallel
  exact ⟨destination, resembles, rfl⟩

theorem parallel_idle (receiver : Receiver τ) (resembles : Resembles receiver other) (now : τ)
    (idleness : Idleness) :
    Parallel (receiver.idle now idleness) ((receiver.upon other).idle now idleness) := by
  have ends := parallel_abort receiver.lapsed { resembles with } now (.senderSilent receiver.cursor)
  unfold idle
  simp only [show (receiver.upon other).setup = receiver.setup from rfl,
    show (receiver.upon other).idlePeriods = receiver.idlePeriods from rfl]
  split
  · exact ends.cons _
  · exact ⟨other, { resembles with }, rfl⟩

theorem parallel_heardNothing (receiver : Receiver τ) (resembles : Resembles receiver other)
    (now : τ) : Parallel (receiver.heardNothing now) ((receiver.upon other).heardNothing now) := by
  have ends := parallel_abort receiver.unheard { resembles with } now
    (.senderSilentAtStart (receiver.handshakeAttempts + 1))
  unfold heardNothing
  simp only [show (receiver.upon other).setup = receiver.setup from rfl,
    show (receiver.upon other).phase = receiver.phase from rfl,
    show (receiver.upon other).handshakeAttempts = receiver.handshakeAttempts from rfl]
  split
  · split
    · exact ends.cons _
    · exact ⟨other, { resembles with }, rfl⟩
  · exact parallel_idle receiver resembles now .noBlock

theorem capacity_upon (resembles : Resembles receiver other) :
    (receiver.upon other).capacity = receiver.capacity :=
  resembles.capacity_eq

theorem waitingPhase_upon (resembles : Resembles receiver other) :
    (receiver.upon other).waitingPhase = receiver.waitingPhase := by
  unfold waitingPhase
  rw [capacity_upon resembles]
  rfl

theorem room_upon (resembles : Resembles receiver other) :
    (receiver.upon other).room = receiver.room := by
  unfold room
  rw [capacity_upon resembles]
  rfl

theorem meetSender_upon (resembles : Resembles receiver other) :
    (receiver.upon other).meetSender =
      (receiver.meetSender.1.upon other, receiver.meetSender.2) := by
  unfold meetSender
  rw [capacity_upon resembles, waitingPhase_upon resembles]
  simp only [show (receiver.upon other).phase = receiver.phase from rfl]
  split <;> rfl

theorem resembles_meetSender (resembles : Resembles receiver other) :
    Resembles receiver.meetSender.1 other := by
  unfold meetSender
  split
  · exact { resembles with }
  · exact resembles

theorem parallel_endOfTransmission (resembles : Resembles receiver other) :
    Parallel receiver.endOfTransmission (receiver.upon other).endOfTransmission := by
  unfold endOfTransmission
  simp only [show (receiver.upon other).setup = receiver.setup from rfl,
    show (receiver.upon other).eotPending = receiver.eotPending from rfl]
  split
  · exact ⟨other, { resembles with }, rfl⟩
  · exact ⟨other, { resembles with }, rfl⟩

theorem Parallel.append {result also : Receiver τ × List (Event τ)}
    (parallel : Parallel result also) (events : List (Event τ)) :
    Parallel (result.1, events ++ result.2) (also.1, events ++ also.2) := by
  obtain ⟨destination, resembles, rfl⟩ := parallel
  exact ⟨destination, resembles, rfl⟩

theorem parallel_heard (receiver : Receiver τ) (resembles : Resembles receiver other) (now : τ)
    (value : UInt8) :
    Parallel (receiver.heard now value) ((receiver.upon other).heard now value) := by
  have met := resembles_meetSender resembles
  unfold heard
  rw [meetSender_upon resembles]
  split
  case h_1 =>
    have opens : Parallel receiver.meetSender.1.openFrame
        (receiver.meetSender.1.upon other).openFrame :=
      ⟨other, { met with }, rfl⟩
    exact opens.append _
  case h_2 => exact (parallel_endOfTransmission met).append _
  case h_3 => exact parallel_abort receiver resembles now _
  case h_4 => exact ⟨other, resembles, rfl⟩

theorem take_toList_store {destination : Destination} {cursor count : Nat} {bytes : List UInt8}
    (long : bytes.length = count) (fits : cursor + count ≤ destination.capacity) :
    (destination.store cursor bytes).toList.take (cursor + count) =
      destination.toList.take cursor ++ bytes := by
  subst long
  have front : (destination.toList.take cursor ++ bytes).length = cursor + bytes.length := by
    rw [List.length_append, List.length_take, length_toList]
    omega
  rw [toList_store _ _ _ fits, List.take_left' front]

theorem parallel_accept (resembles : Resembles receiver other) (block : Block) :
    Parallel (receiver.accept block) ((receiver.upon other).accept block) := by
  have room_eq := room_upon resembles
  have room_le : receiver.room ≤ blockSize := Nat.min_le_left ..
  have fits : receiver.cursor + receiver.room ≤ receiver.destination.capacity := by
    have inside := resembles.inside
    have left : receiver.room ≤ receiver.destination.capacity - receiver.cursor :=
      Nat.min_le_right ..
    omega
  have long : (block.payload.take receiver.room).length = receiver.room := by
    rw [List.length_take, block.length_payload]
    omega
  unfold accept hasRoomFor
  rw [room_eq]
  split
  · refine ⟨other.store receiver.cursor (block.payload.take receiver.room), ?_, rfl⟩
    constructor
    · rw [capacity_store, capacity_store]
      exact resembles.capacity_eq
    · dsimp only
      rw [take_toList_store long fits, take_toList_store long (resembles.capacity_eq ▸ fits),
        resembles.filled_eq]
    · rw [capacity_store]
      exact fits
  · rw [capacity_upon resembles]
    exact ⟨other, { resembles with }, rfl⟩

theorem parallel_receiveBlock (resembles : Resembles receiver other) (block : Block) :
    Parallel (receiver.receiveBlock block) ((receiver.upon other).receiveBlock block) := by
  unfold receiveBlock
  simp only [show (receiver.upon other).expectedBlock = receiver.expectedBlock from rfl,
    show (receiver.upon other).lastAccepted = receiver.lastAccepted from rfl]
  split
  · exact parallel_accept resembles block
  · split
    · exact ⟨other, { resembles with }, rfl⟩
    · exact ⟨other, { resembles with }, rfl⟩

theorem parallel_collect (receiver : Receiver τ) (resembles : Resembles receiver other) (now : τ)
    (raw : Array UInt8) (value : UInt8) :
    Parallel (receiver.collect now raw value) ((receiver.upon other).collect now raw value) := by
  unfold collect receiveFrame
  simp only [show (receiver.upon other).setup = receiver.setup from rfl]
  split
  · exact ⟨other, { resembles with }, rfl⟩
  · split
    · exact parallel_receiveBlock resembles _
    · exact ⟨other, { resembles with }, rfl⟩

theorem parallel_wrote (receiver : Receiver τ) (resembles : Resembles receiver other) (now : τ)
    (purpose : Writing) :
    Parallel (receiver.wrote now purpose) ((receiver.upon other).wrote now purpose) := by
  cases purpose with
  | request | repetition | rejection | confirmation | completion =>
      exact ⟨other, { resembles with }, rfl⟩
  | acceptance =>
      refine ⟨other, { resembles with }, ?_⟩
      simp only [wrote, waitingPhase_upon resembles]
      rfl
  | cancel cause =>
      have same := transferred_upon receiver resembles
      refine ⟨other, { resembles with }, ?_⟩
      simp only [wrote, same]
      rfl

/-- Two receivers that differ in what their destinations held before react in the same manner. -/
theorem parallel_next (receiver : Receiver τ) (resembles : Resembles receiver other) (now : τ)
    (answer : Answer) :
    Parallel (receiver.next now answer) ((receiver.upon other).next now answer) := by
  unfold next
  simp only [show (receiver.upon other).activity = receiver.activity from rfl]
  split
  case h_1 => exact ⟨other, { resembles with }, rfl⟩
  case h_2 => exact parallel_beginStep resembles now
  case h_3 =>
    split
    · exact parallel_heardNothing receiver resembles now
    · exact ⟨other, resembles, rfl⟩
  case h_4 => exact parallel_heardNothing receiver resembles now
  case h_5 => exact parallel_heard receiver resembles now _
  case h_6 => exact parallel_collect receiver resembles now _ _
  case h_7 => exact parallel_idle receiver resembles now _
  case h_8 =>
    split
    · exact ⟨other, resembles, rfl⟩
    · exact ⟨other, { resembles with }, rfl⟩
  case h_9 => exact ⟨other, { resembles with }, rfl⟩
  case h_10 => exact parallel_wrote receiver resembles now _
  case h_15 => exact ⟨other, resembles, rfl⟩
  all_goals exact parallel_abort receiver resembles now _

end Reactions

/-- Whether two moments are the same, seen from the line and by observers. -/
structure Alike (moment also : Moment (Receiver τ) τ) : Prop where
  asked_eq : also.asked = moment.asked
  answer_eq : also.answer = moment.answer
  answered_eq : also.answered = moment.answered
  action_eq : also.action = moment.action
  events_eq : also.events = moment.events

/-- What a receiver says does not depend on what its destination held before, and neither does what
it has stored. -/
theorem exists_alike {setup : Setup τ} {initial other : Destination} {begun : τ}
    {moments : List (Moment (Receiver τ) τ)} {receiver : Receiver τ}
    (talks : Converses (start setup initial begun) moments receiver)
    (capacity_eq : other.capacity = initial.capacity) :
    ∃ others destination, Resembles receiver destination ∧
      Converses (start setup other begun) others (receiver.upon destination) ∧
      List.Forall₂ Alike moments others := by
  induction talks with
  | silent =>
      exact ⟨[], other, ⟨capacity_eq, rfl, Nat.zero_le _⟩, .silent, .nil⟩
  | @step moments moment _ valid induction =>
      obtain ⟨others, destination, resembles, talks, alike⟩ := induction
      obtain ⟨later, remains, same⟩ :=
        parallel_next moment.session resembles moment.answered moment.answer
      let also : Moment (Receiver τ) τ :=
        ⟨moment.session.upon destination, moment.asked, moment.answer, moment.answered⟩
      have valid_also : also.Valid := ⟨valid.allowed, valid.prompt⟩
      have after_eq : also.after = moment.after.upon later := congrArg Prod.fst same
      have events_eq : also.events = moment.events := by
        have shown := congrArg Prod.snd same
        exact shown
      have alike_also : Alike moment also := ⟨rfl, rfl, rfl, rfl, events_eq⟩
      refine ⟨others ++ [also], later, remains, after_eq ▸ talks.step valid_also, ?_⟩
      exact List.rel_append alike (.cons alike_also .nil)

/-- The bytes that were transferred are the same on another destination. -/
theorem Resembles.take_eq {receiver : Receiver τ} {other : Destination}
    (resembles : Resembles receiver other) {count : Nat} (few : count ≤ receiver.cursor) :
    other.toList.take count = receiver.destination.toList.take count := by
  rw [← Nat.min_eq_left few, ← List.take_take, resembles.filled_eq, List.take_take]

end Receiver
end Xmodem
