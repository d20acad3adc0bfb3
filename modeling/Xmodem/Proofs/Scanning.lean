import Xmodem.Proofs.Endings

/-!
# What is left of a damaged frame

A receiver that has lost the beginning of a frame takes what is left of it for packets, byte by
byte.  Harmless bytes neither end the transfer nor begin a frame that is accepted once it is filled
up.
-/

namespace Xmodem
namespace Packets

/-- Whether some bytes, filled up with the packet at some place, read as that packet or the one
before. -/
def Misread (mode : ChecksumMode) (source : List UInt8) (place : Nat) (bytes : List UInt8) : Prop :=
  ∃ block ∈ (Frame.decode mode
      ((bytes ++ packet mode source place).take (Frame.length mode))).toOption,
    block.number = .ofNat (place + 1) ∨ place ≠ 0 ∧ block.number = .ofNat place

/-- A block that was not misread is neither the expected one nor the last one. -/
theorem unexpected_of_not_misread {mode : ChecksumMode} {source bytes : List UInt8} {place : Nat}
    {block : Block} (unread : ¬ Misread mode source place bytes)
    (read : Frame.decode mode ((bytes ++ packet mode source place).take (Frame.length mode)) =
      .ok block) :
    block.number ≠ .ofNat (place + 1) ∧
      (if place = 0 then none else some (UInt8.ofNat place)) ≠ some block.number := by
  have other : ¬ (block.number = .ofNat (place + 1) ∨
      place ≠ 0 ∧ block.number = .ofNat place) := by
    intro expected
    exact unread ⟨block, by rw [read]; rfl, expected⟩
  rw [not_or, not_and] at other
  constructor
  · exact other.1
  · split
    · simp
    · rename_i later
      exact fun same => other.2 later (Option.some.inj same).symm

/-- A packet that arrives behind the beginning of a frame fills the frame up. -/
theorem exists_filling {mode : ChecksumMode} {source : List UInt8} {place : Nat}
    (inside : place < blockCount source) {raw : Array UInt8}
    (short : raw.size < Frame.length mode) :
    ∃ filling rest, packet mode source place = filling ++ rest ∧ filling ≠ [] ∧
      raw.size + filling.length = Frame.length mode ∧
      raw.toList ++ filling =
        (raw.toList ++ packet mode source place).take (Frame.length mode) := by
  let gap := Frame.length mode - raw.size
  have length_filling : ((packet mode source place).take gap).length = gap := by
    rw [List.length_take, length_packet inside]
    omega
  have raw_short : raw.toList.length ≤ Frame.length mode := short.le
  refine ⟨(packet mode source place).take gap, (packet mode source place).drop gap,
    (List.take_append_drop gap _).symm, ?_, ?_, ?_⟩
  · rw [ne_eq, ← List.length_eq_zero_iff, length_filling]
    omega
  · rw [length_filling]
    omega
  · rw [List.take_append, List.take_of_length_le raw_short, Array.length_toList]

/-- Whether bytes that a receiver takes for packets do no harm before the packet at some place is
sent again: there is no end of transmission among them, or at most one when it has to be confirmed,
until a cancellation arrives or a frame begins; and that frame is not misread. -/
def Harmless (mode : ChecksumMode) (source : List UInt8) (place : Nat) :
    Bool → List UInt8 → Prop
  | _, [] => True
  | confirm, byte :: bytes =>
      if byte = startOfBlock then ¬ Misread mode source place (byte :: bytes)
      else if byte = Signal.byte .endOfTransmission then
        confirm = true ∧ Harmless mode source place false bytes
      else if byte = Signal.byte .cancel then True
      else Harmless mode source place confirm bytes

instance (mode : ChecksumMode) (source : List UInt8) (place : Nat) (bytes : List UInt8) :
    Decidable (Misread mode source place bytes) :=
  inferInstanceAs (Decidable (∃ block ∈ Except.toOption _, _ ∨ _ ∧ _))

instance decidableHarmless (mode : ChecksumMode) (source : List UInt8) (place : Nat) :
    (confirm : Bool) → (bytes : List UInt8) → Decidable (Harmless mode source place confirm bytes)
  | _, [] => .isTrue trivial
  | confirm, byte :: bytes =>
      have := decidableHarmless mode source place confirm bytes
      have := decidableHarmless mode source place false bytes
      inferInstanceAs (Decidable
        (if byte = startOfBlock then ¬ Misread mode source place (byte :: bytes)
        else if byte = Signal.byte .endOfTransmission then
          confirm = true ∧ Harmless mode source place false bytes
        else if byte = Signal.byte .cancel then True
        else Harmless mode source place confirm bytes))

theorem harmless_of_noise {mode : ChecksumMode} {source bytes : List UInt8} {place : Nat}
    {confirm : Bool} {value : UInt8} (noise : value ∉ Receiver.announcements)
    (harmless : Harmless mode source place confirm (value :: bytes)) :
    Harmless mode source place confirm bytes := by
  simp only [Receiver.announcements, List.mem_cons, List.not_mem_nil, or_false, not_or] at noise
  simpa only [Harmless, noise.1, noise.2.1, noise.2.2, if_false] using harmless

end Packets

namespace Scene

open Packets

variable (setup : Receiver.Setup Rat) (initial : Destination) (source : List UInt8)
  (forth back : Alteration) (sent count : Nat) (now : Rat)

/-- What becomes of a receiver that takes harmless bytes for packets; it has refused at most once.
-/
inductive Scanned : Receiver Rat → Wire → Pause → Prop
  /-- It waits for a packet again. -/
  | listens {receiver : Receiver Rat} {answered : Nat} {backward : List UInt8} {deadline : Rat} :
      Listens setup initial source count deadline receiver → now < deadline →
      backward = [] ∨ backward = [Signal.byte .negativeAcknowledge] →
      Scanned receiver ⟨forth, back, sent, answered, backward, []⟩ (.until deadline)
  /-- It waits for the rest of a frame. -/
  | collects {handshakes answered : Nat} {counters : Metrics Rat} {raw : Array UInt8}
      {backward : List UInt8} :
      counters.blocks = count → raw.size < Frame.length setup.mode →
      ¬ Misread setup.mode source count raw.toList →
      backward = [] ∨ backward = [Signal.byte .negativeAcknowledge] →
      Scanned
        (.standing setup initial source count handshakes 0 false counters (.collecting raw))
        ⟨forth, back, sent, answered, backward, []⟩ (.until (now + setup.policy.byteTimeout))
  /-- It has given up. -/
  | failed {receiver : Receiver Rat} {answered : Nat} {backward forward : List UInt8} :
      receiver.Failed → backward = [] ∨ backward = [Signal.byte .negativeAcknowledge] →
      Scanned receiver ⟨forth, back, sent, answered, backward, forward⟩ .ended

/-- Whether a receiver that has its turn does no harm. -/
def Scans (receiver : Receiver Rat) (wire : Wire) : Prop :=
  ∃ later after pause, Turn .b now receiver wire later after pause ∧
    Scanned setup initial source forth back sent count now later after pause

variable {setup initial source forth back sent count now} {answered : Nat} {second : Rat}
  {receiver : Receiver Rat} {backward bytes : List UInt8} {confirm : Bool} {value : UInt8}

theorem scans_of_next (listens : Listens setup initial source count second receiver)
    (early : now < second)
    (answer : backward = [] ∨ backward = [Signal.byte .negativeAcknowledge])
    (next : ∀ value rest, bytes = value :: rest →
      Scans setup initial source forth back sent count now (receiver.next now (.byte value)).1
        ⟨forth, back, sent, answered, backward, rest⟩) :
    Scans setup initial source forth back sent count now receiver
      ⟨forth, back, sent, answered, backward, bytes⟩ := by
  cases bytes with
  | nil =>
      exact ⟨_, _, _, Receiver.turn_listening listens.activity_eq early rfl,
        .listens listens early answer⟩
  | cons value rest =>
      obtain ⟨later, after, pause, turn, scanned⟩ := next value rest rfl
      exact ⟨later, after, pause,
        .read (Receiver.action_listening listens.activity_eq early) rfl turn, scanned⟩

theorem scans_of_noise (listens : Listens setup initial source count second receiver)
    (early : now < second) (noise : value ∉ Receiver.announcements)
    (scans : Scans setup initial source forth back sent count now receiver
      ⟨forth, back, sent, answered, backward, bytes⟩) :
    Scans setup initial source forth back sent count now receiver
      ⟨forth, back, sent, answered, backward, value :: bytes⟩ := by
  obtain ⟨later, after, pause, turn, scanned⟩ := scans
  rw [← listens.next_of_noise noise now] at turn
  exact ⟨later, after, pause,
    .read (Receiver.action_listening listens.activity_eq early) rfl turn, scanned⟩

/-- Whether a receiver that waits for a packet reads some bytes without harm when they are
harmless. -/
def HarmlessScans (setup : Receiver.Setup Rat) (initial : Destination) (source : List UInt8)
    (forth back : Alteration) (sent count : Nat) (now : Rat) (bytes : List UInt8) : Prop :=
  ∀ ⦃confirm receiver second answered backward⦄,
    Listens setup initial source count second receiver → now < second →
    Harmless setup.mode source count confirm bytes →
    (confirm = true → setup.confirmEot = true ∧ receiver.eotPending = false ∧ backward = []) →
    backward = [] ∨ backward = [Signal.byte .negativeAcknowledge] →
    Scans setup initial source forth back sent count now receiver
      ⟨forth, back, sent, answered, backward, bytes⟩

theorem scans_next (spares : ∀ write, back.Spares write)
    (rest : HarmlessScans setup initial source forth back sent count now bytes)
    (short : bytes.length + 1 < Frame.length setup.mode)
    (listens : Listens setup initial source count second receiver) (early : now < second)
    (harmless : Harmless setup.mode source count confirm (value :: bytes))
    (confirms : confirm = true →
      setup.confirmEot = true ∧ receiver.eotPending = false ∧ backward = [])
    (answer : backward = [] ∨ backward = [Signal.byte .negativeAcknowledge]) :
    Scans setup initial source forth back sent count now (receiver.next now (.byte value)).1
      ⟨forth, back, sent, answered, backward, bytes⟩ := by
  by_cases noise : value ∈ Receiver.announcements
  · obtain ⟨handshakes, idle, pending, counters, phase, opened, blocks, rfl⟩ := listens.eq_atBlocks
    simp only [Receiver.announcements, List.mem_cons, List.not_mem_nil, or_false] at noise
    rcases noise with rfl | rfl | rfl
    · have unread : ¬ Misread setup.mode source count (startOfBlock :: bytes) := by
        simpa only [Harmless, if_true] using harmless
      rw [Receiver.next_startOfBlock opened]
      refine ⟨_, _, _, Receiver.turn_collect_part
        (.standing setup initial source count handshakes 0 false counters .between) rfl ?_,
        .collects blocks ?_ ?_ answer⟩
      · change 1 + bytes.length < Frame.length setup.mode
        omega
      · simpa [Nat.add_comm] using short
      · simpa using unread
    · obtain ⟨confirm_eq, harmless_after⟩ : confirm = true ∧
          Harmless setup.mode source count false bytes := by
        simpa [Harmless, startOfBlock, Signal.byte] using harmless
      obtain ⟨asks, pending_eq, rfl⟩ := confirms confirm_eq
      obtain rfl : pending = false := pending_eq
      have later : now < now + setup.policy.handshakeTimeout :=
        setup.policy.lt_add_handshakeTimeout _
      have refused : back answered [Signal.byte .negativeAcknowledge] =
          [Signal.byte .negativeAcknowledge] := spares answered _
      obtain ⟨final, after, pause, turn, scanned⟩ := @rest false _ _ (answered + 1) _
        (.standing blocks) later harmless_after (by simp) (.inr refused)
      exact ⟨final, after, pause, Receiver.turn_confirm_on opened asks turn, scanned⟩
    · exact ⟨_, _, _, .stop rfl, .failed ⟨_, rfl⟩ answer⟩
  · rw [listens.next_of_noise noise]
    exact rest listens early (harmless_of_noise noise harmless) confirms answer

/-- Harmless bytes do no harm. -/
theorem harmlessScans (spares : ∀ write, back.Spares write)
    (short : bytes.length < Frame.length setup.mode) :
    HarmlessScans setup initial source forth back sent count now bytes := by
  induction bytes with
  | nil =>
      intro confirm receiver second answered backward listens early harmless confirms answer
      refine scans_of_next listens early answer fun value rest some_byte => ?_
      simp at some_byte
  | cons byte bytes induction =>
      intro confirm receiver second answered backward listens early harmless confirms answer
      refine scans_of_next listens early answer fun value rest some_byte => ?_
      obtain ⟨rfl, rfl⟩ := List.cons.inj some_byte
      rw [List.length_cons] at short
      exact scans_next spares (induction (by omega)) short listens early harmless confirms answer

end Scene
end Xmodem
