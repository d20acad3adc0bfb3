import Xmodem.Proofs.Detection
import Xmodem.Proofs.Draining

/-!
# Single faults

One byte of one write is lost, or one of its bits is inverted, and everything else arrives.  The
receiver then fails or holds the source, unless what is left of a frame that has lost its first
byte, or any other, can be taken for packets.
-/

namespace Xmodem

open Packets

/-- What befalls one byte of a write. -/
inductive Damage where
  /-- The byte at some place is lost. -/
  | loses (place : Nat)
  /-- One bit of the byte at some place is inverted. -/
  | inverts (place : Nat) (bit : Fin 8)
  deriving DecidableEq, Repr

namespace Damage

/-- The bit to be inverted. -/
def mask (bit : Fin 8) : UInt8 :=
  1 <<< UInt8.ofNat bit

/-- What arrives of a write. -/
def apply : Damage → List UInt8 → List UInt8
  | loses place, bytes => bytes.eraseIdx place
  | inverts place bit, bytes => bytes.modify place (· ^^^ mask bit)

/-- Whether the damage leaves a frame without its first byte or with too few bytes. -/
def Unframes : Damage → Prop
  | loses _ => True
  | inverts place _ => place = 0

/-- The alteration that damages one write. -/
def onWrite (damage : Damage) (write : Nat) : Alteration :=
  fun number bytes => if number = write then damage.apply bytes else bytes

theorem onWrite_self (damage : Damage) (write : Nat) (bytes : List UInt8) :
    damage.onWrite write write bytes = damage.apply bytes :=
  if_pos rfl

theorem spares_of_ne (damage : Damage) {write other : Nat} (differ : other ≠ write) :
    (damage.onWrite write).Spares other :=
  fun _ => if_neg differ

/-- A byte that keeps away from some others at worst becomes noise. -/
theorem muffles_byte (damage : Damage) {meaningful : List UInt8} {value : UInt8}
    (apart : ∀ bit, value ^^^ mask bit ∉ meaningful) (write number : Nat) :
    (damage.onWrite write).Muffles meaningful number [value] := by
  by_cases hit : number = write
  · subst hit
    rw [Alteration.Muffles, onWrite_self]
    cases damage with
    | loses place =>
        cases place with
        | zero => exact .inr (.inl rfl)
        | succ place => exact .inl rfl
    | inverts place bit =>
        cases place with
        | zero => exact .inr (.inr ⟨_, apart bit, rfl⟩)
        | succ place => exact .inl (by simp [apply])
  · exact .inl (damage.spares_of_ne hit [value])

theorem mask_ne_zero : ∀ bit, mask bit ≠ 0 := by decide

/-- With one bit inverted, the first byte of a frame is noise. -/
theorem inverted_start : ∀ bit, startOfBlock ^^^ mask bit ∉ Receiver.announcements := by decide

theorem refuses_inverted {mode : ChecksumMode} {block : Block} {place : Nat}
    (inside : place + 1 < (Frame.encode mode block).length) (bit : Fin 8) :
    ∃ error, Frame.decode mode ((Frame.encode mode block).modify (place + 1) (· ^^^ mask bit)) =
      .error error := by
  have behind : (Frame.encode mode block).take (place + 1) ≠ [] := by
    rw [ne_eq, ← List.length_eq_zero_iff, List.length_take]
    omega
  have differ (byte : UInt8) : byte ≠ byte ^^^ mask bit := fun same =>
    mask_ne_zero bit ((UInt8.xor_right_inj byte).mp (UInt8.xor_zero.trans same)).symm
  have written : Frame.encode mode block = (Frame.encode mode block).take (place + 1) ++
      (Frame.encode mode block)[place + 1] :: (Frame.encode mode block).drop (place + 1 + 1) := by
    rw [List.getElem_cons_drop, List.take_append_drop]
  rw [List.modify_eq_take_cons_drop inside]
  exact Frame.decode_replace behind written (differ _)

end Damage

/-- Damage to one write of one end. -/
structure SingleFault where
  /-- The end that writes. -/
  side : LinkEnd
  /-- The number of the write. -/
  write : Nat
  /-- What becomes of it. -/
  damage : Damage
  deriving DecidableEq, Repr

namespace SingleFault

/-- The alteration of what the first end writes. -/
def forth (fault : SingleFault) : Alteration :=
  match fault.side with
  | .a => fault.damage.onWrite fault.write
  | .b => .none

/-- The alteration of what the second end writes. -/
def back (fault : SingleFault) : Alteration :=
  match fault.side with
  | .a => .none
  | .b => fault.damage.onWrite fault.write

/-- Whether nothing that is left of a data frame can be taken for packets: neither of the frame that
is hit, nor, if the line does not become quiet between repetitions, of a frame without its first
byte. -/
def Harmless (policy : RetryPolicy Rat) (mode : ChecksumMode) (confirm : Bool)
    (source : List UInt8) (fault : SingleFault) : Prop :=
  fault.side = .a → fault.write < blockCount source →
    (fault.damage.Unframes →
      Packets.Harmless mode source fault.write confirm
        (fault.damage.apply (packet mode source fault.write))) ∧
    (policy.byteTimeout ≤ policy.purgeTimeout →
      policy.handshakeTimeout ≤ policy.maxRetries * policy.byteTimeout →
      Packets.Harmless mode source fault.write false (packet mode source fault.write).tail)

end SingleFault

namespace Scene

open Destination

variable {setup : Receiver.Setup Rat} {initial : Destination} {source : List UInt8}
  {forth back : Alteration} {place sent answered handshakes : Nat} {metrics counters : Metrics Rat}
  {receiver : Receiver Rat} {bytes : List UInt8} {second : Rat} {damage : Damage}

/-- The answers of a receiver are apart from each other and from what else a sender understands. -/
theorem answers_of_damage (damage : Damage) (write : Nat) :
    (damage.onWrite write).Answers setup.mode := by
  have understood (purpose : Receiver.Writing) :
      Receiver.Writing.byte setup.mode purpose ∈ Sender.replies ++ Sender.calls := by
    cases purpose <;> cases setup.mode <;>
      simp [Receiver.Writing.byte, Sender.replies, Sender.calls, Signal.byte]
  have apart : ∀ value ∈ Sender.replies ++ Sender.calls, ∀ bit,
      value ^^^ Damage.mask bit ∉ Sender.replies ++ Sender.calls := by decide +kernel
  exact fun number purpose => damage.muffles_byte (apart _ (understood purpose)) write number

/-- Signals of a sender are apart from what else a receiver understands. -/
theorem carries_of_damage (damage : Damage) (write : Nat) :
    (damage.onWrite write).Carries setup.mode source (blockCount source) sent where
  packets later later_ge number _ := by
    rw [packet, if_neg (Nat.not_lt.mpr later_ge)]
    exact damage.muffles_byte (by decide) write number
  cancellation number _ := damage.muffles_byte (by decide) write number

section Frames

variable (long : source.length ≤ initial.capacity)
  (expects : setup.expectedLength = some source.length) (inside : place < blockCount source)
  (replies : ∀ write, back.Spares write) (spares : ∀ write ≥ sent, forth.Spares write)
  (harmless : setup.policy.byteTimeout ≤ setup.policy.purgeTimeout →
    setup.policy.handshakeTimeout ≤ setup.policy.maxRetries * setup.policy.byteTimeout →
    Harmless setup.mode source place false
      (Frame.encode setup.mode (block source place)).tail)

include long expects inside replies spares harmless

theorem ends_unframed {value : UInt8}
    (listens : Listens setup initial source place second receiver)
    (fresh : receiver.eotPending = false) (early : 0 < second)
    (harmless_now : Harmless setup.mode source place setup.confirmEot (value :: bytes))
    (short : bytes.length + 1 < Frame.length setup.mode ∨
      value ∉ Receiver.announcements ∧ bytes.length < Frame.length setup.mode) :
    Ends (Safe source)
      ⟨.waiting setup.policy setup.mode source place 0 handshakes metrics
          (0 + setup.policy.byteTimeout), receiver,
        ⟨forth, back, sent, answered, [], value :: bytes⟩, 0,
        .until (0 + setup.policy.byteTimeout), .until second⟩ := by
  have soon : (0 : Rat) < 0 + setup.policy.byteTimeout := setup.policy.lt_add_byteTimeout _
  have reads : Session.action receiver 0 = .read (second - 0) :=
    Receiver.action_listening listens.activity_eq early
  have scans : Scans setup initial source forth back sent place 0 receiver
      ⟨forth, back, sent, answered, [], value :: bytes⟩ := by
    have confirms : setup.confirmEot = true →
        setup.confirmEot = true ∧ receiver.eotPending = false ∧ ([] : List UInt8) = [] :=
      fun asks => ⟨asks, fresh, rfl⟩
    rcases short with few | ⟨noise, few⟩
    · have whole : (value :: bytes).length < Frame.length setup.mode := few
      exact harmlessScans replies whole listens early harmless_now confirms (.inl rfl)
    · have harmless_rest := harmless_of_noise noise harmless_now
      exact scans_of_noise listens early noise
        (harmlessScans replies few listens early harmless_rest confirms (.inl rfl))
  obtain ⟨later, after, pause, turn, scanned⟩ := scans
  exact Reaches.ends (.single (leads_of_receiver_bytes ⟨rfl, soon⟩ rfl rfl reads turn))
    (ends_scanned long expects inside replies spares scanned soon le_rfl fun _ =>
      ends_draining long expects inside replies harmless)

theorem ends_shortened (listens : Listens setup initial source place second receiver)
    (fresh : receiver.eotPending = false) (early : 0 < second) {hit : Nat}
    (hits : hit < (packet setup.mode source place).length)
    (harmless_now : Harmless setup.mode source place setup.confirmEot
      ((packet setup.mode source place).eraseIdx hit)) :
    Ends (Safe source)
      ⟨.waiting setup.policy setup.mode source place 0 handshakes metrics
          (0 + setup.policy.byteTimeout), receiver,
        ⟨forth, back, sent, answered, [], (packet setup.mode source place).eraseIdx hit⟩, 0,
        .until (0 + setup.policy.byteTimeout), .until second⟩ := by
  have some_bytes : 1 < Frame.length setup.mode := by
    simp only [Frame.length, blockSize]
    omega
  have length_left := List.length_eraseIdx_of_lt hits
  rw [length_packet inside] at length_left
  cases left : (packet setup.mode source place).eraseIdx hit with
  | nil =>
      rw [left, List.length_nil] at length_left
      omega
  | cons value bytes =>
      rw [left] at harmless_now
      rw [left, List.length_cons] at length_left
      exact ends_unframed long expects inside replies spares harmless listens fresh early
        harmless_now (.inl (by omega))

theorem ends_headless (listens : Listens setup initial source place second receiver)
    (fresh : receiver.eotPending = false) (early : 0 < second) {bit : Fin 8}
    (harmless_now : Harmless setup.mode source place setup.confirmEot
      ((Damage.inverts 0 bit).apply (packet setup.mode source place))) :
    Ends (Safe source)
      ⟨.waiting setup.policy setup.mode source place 0 handshakes metrics
          (0 + setup.policy.byteTimeout), receiver,
        ⟨forth, back, sent, answered, [],
          (Damage.inverts 0 bit).apply (packet setup.mode source place)⟩, 0,
        .until (0 + setup.policy.byteTimeout), .until second⟩ := by
  have inverted : (Damage.inverts 0 bit).apply (packet setup.mode source place) =
      (startOfBlock ^^^ Damage.mask bit) ::
        (Frame.encode setup.mode (block source place)).tail := by
    rw [packet_eq_cons inside]
    rfl
  rw [inverted] at harmless_now ⊢
  exact ends_unframed long expects inside replies spares harmless listens fresh early harmless_now
    (.inr ⟨Damage.inverted_start bit, length_tail_encode_lt ..⟩)

theorem ends_inverted {phase : ReceivePhase}
    (uneventful : Uneventful initial place metrics counters phase) {hit : Nat} {bit : Fin 8}
    (hits : hit + 1 < (packet setup.mode source place).length) :
    Ends (Safe source)
      ⟨.waiting setup.policy setup.mode source place 0 0 metrics (0 + setup.policy.byteTimeout),
        .atBlocks setup initial source place 0 0 false counters phase
          (.listening (0 + setup.policy.handshakeTimeout)),
        ⟨forth, back, sent, answered, [],
          (packet setup.mode source place).modify (hit + 1) (· ^^^ Damage.mask bit)⟩, 0,
        .until (0 + setup.policy.byteTimeout), .until (0 + setup.policy.handshakeTimeout)⟩ := by
  have soon : (0 : Rat) < 0 + setup.policy.byteTimeout := setup.policy.lt_add_byteTimeout _
  rw [packet_of_lt inside] at hits
  obtain ⟨error, refused⟩ := Damage.refuses_inverted hits bit
  have inverted : (Frame.encode setup.mode (block source place)).modify (hit + 1)
      (· ^^^ Damage.mask bit) =
      startOfBlock :: (Frame.encode setup.mode (block source place)).tail.modify hit
        (· ^^^ Damage.mask bit) := List.modify_succ_cons ..
  have whole := congrArg List.length inverted
  rw [List.length_modify, Frame.length_encode] at whole
  rw [packet_of_lt inside]
  rw [inverted] at refused ⊢
  refine Reaches.ends (.single (leads_of_damage uneventful.opens refused whole.symm soon)) ?_
  refine ends_draining long expects inside replies harmless spares uneventful.blocks ?_
  simp

/-- The first packet that does not arrive as it was sent was damaged. -/
theorem ends_damaged {phase : ReceivePhase}
    (uneventful : Uneventful initial place metrics counters phase)
    (harmless_now : damage.Unframes → Harmless setup.mode source place setup.confirmEot
      (damage.apply (packet setup.mode source place))) :
    Ends (Safe source)
      ⟨.waiting setup.policy setup.mode source place 0 0 metrics (0 + setup.policy.byteTimeout),
        .atBlocks setup initial source place 0 0 false counters phase
          (.listening (0 + setup.policy.handshakeTimeout)),
        ⟨forth, back, sent, answered, [], damage.apply (packet setup.mode source place)⟩, 0,
        .until (0 + setup.policy.byteTimeout), .until (0 + setup.policy.handshakeTimeout)⟩ := by
  have early : (0 : Rat) < 0 + setup.policy.handshakeTimeout :=
    setup.policy.lt_add_handshakeTimeout _
  have listens := uneventful.listens setup source (0 + setup.policy.handshakeTimeout)
  by_cases same : damage.apply (packet setup.mode source place) = packet setup.mode source place
  · have carries : forth.Carries setup.mode source place sent := carries_of_spares spares
    have answers : back.Answers setup.mode := answers_of_spares replies
    have carries_on := carries.mono (Nat.le_succ place) le_rfl
    rw [same]
    exact ends_arrived long expects answers carries
      (fun _ => writtenEnds long expects answers carries_on)
      (fun _ => writtenEnds long expects answers carries) listens
      ⟨le_rfl, Nat.le_succ _, inside.le⟩ (setup.policy.lt_add_byteTimeout _)
  cases damage with
  | loses hit =>
      have hits : hit < (packet setup.mode source place).length := by
        by_contra misses
        exact same (List.eraseIdx_of_length_le (Nat.not_lt.mp misses))
      exact ends_shortened long expects inside replies spares harmless listens rfl early hits
        (harmless_now trivial)
  | inverts hit bit =>
      cases hit with
      | zero =>
          exact ends_headless long expects inside replies spares harmless listens rfl early
            (harmless_now rfl)
      | succ hit =>
          have hits : hit + 1 < (packet setup.mode source place).length := by
            by_contra misses
            exact same (List.modify_eq_self (Nat.not_lt.mp misses))
          exact ends_inverted long expects inside replies spares harmless uneventful hits

end Frames

/-- After a single fault that leaves nothing harmful, a transfer ends well. -/
theorem ends_single_fault (long : source.length ≤ initial.capacity)
    (expects : setup.expectedLength = some source.length) (fault : SingleFault)
    (harmless : fault.Harmless setup.policy setup.mode setup.confirmEot source) :
    (called setup initial source fault.forth fault.back).Ends (Safe source) := by
  obtain ⟨side, write, damage⟩ := fault
  cases side with
  | b =>
      exact ends_called long expects (answers_of_damage damage write)
        (carries_of_spares fun write _ => Alteration.none_spares write)
  | a =>
      have arrive (count : Nat) (count_le : count ≤ write) :
          ∀ earlier < count, (damage.onWrite write).Spares earlier := fun earlier earlier_lt =>
        damage.spares_of_ne (Nat.ne_of_lt (earlier_lt.trans_le count_le))
      have fit (count : Nat) (count_le : count ≤ blockCount source) :
          ∀ place < count, Fits initial.capacity source place := fun place place_lt =>
        fits_of_length_le (place_lt.trans_le count_le) long
      have replies : ∀ write, Alteration.none.Spares write := Alteration.none_spares
      rcases Nat.lt_or_ge write (blockCount source) with inside | outside
      · obtain ⟨harmless_now, harmless_later⟩ := harmless rfl inside
        obtain ⟨metrics, counters, phase, uneventful, reaches⟩ := reaches_inStep inside.le
          (fit write inside.le) (arrive write le_rfl) fun write _ => replies write
        have spares : ∀ later ≥ write + 1, (damage.onWrite write).Spares later :=
          fun later later_ge => damage.spares_of_ne (Nat.ne_of_gt later_ge)
        dsimp only at harmless_later
        rw [packet_of_lt inside] at harmless_later
        refine reaches.ends ?_
        dsimp only [inStep, SingleFault.forth, SingleFault.back]
        rw [Damage.onWrite_self]
        exact ends_damaged long expects inside replies spares harmless_later uneventful harmless_now
      · obtain ⟨metrics, counters, phase, uneventful, reaches⟩ := reaches_inStep le_rfl
          (fit _ le_rfl) (arrive _ outside) fun write _ => replies write
        have early : (0 : Rat) < 0 + setup.policy.handshakeTimeout :=
          setup.policy.lt_add_handshakeTimeout _
        have carries : (damage.onWrite write).Carries setup.mode source (blockCount source)
            (blockCount source) := carries_of_damage damage write
        exact reaches.ends (writtenEnds long expects (answers_of_spares replies) carries
          (uneventful.listens setup source _) ⟨le_rfl, Nat.le_succ _, le_rfl⟩ early.le)

end Scene

/-- When one byte of one write is lost or has one bit inverted, and what is left of a data frame
cannot be taken for packets, the receiver holds the source and reports its length, or it fails. -/
theorem single_fault_safety {policy : RetryPolicy Rat} {mode : ChecksumMode} {confirm : Bool}
    {initial : Destination} {receiver : Receiver Rat} {source : List UInt8} {fault : SingleFault}
    (opens : Receiver.open? policy mode (some source.length) confirm initial 0 = .ok receiver)
    (harmless : fault.Harmless policy mode confirm source) :
    ∃ (fuel : Nat) (final : Pair Rat), (Pair.start (.start policy source 0) receiver
        ⟨.fresh .none fault.forth, .fresh .none fault.back⟩ none).complete fuel = some final ∧
      ((∃ failure, final.receiver.outcome? = some (.error failure)) ∨
        final.receiver.outcome? = some (.ok source.length) ∧
          final.receiver.destination.toList.take source.length = source) := by
  have long : source.length ≤ initial.capacity :=
    Int.ofNat_le.mp (Receiver.le_capacity_of_open? opens)
  obtain rfl := Receiver.eq_start_of_open? opens
  let setup : Receiver.Setup Rat := ⟨policy, mode, some source.length, confirm⟩
  exact Scene.completes_of_called setup (Scene.ends_single_fault long rfl fault harmless)

/-- Without one payload byte, the only frame of three bytes is refused. -/
theorem single_fault_of_three_bytes :
    let source : List UInt8 := [1, 2, 3]
    let fault : SingleFault := ⟨.a, 0, .loses 5⟩
    ∃ receiver, Receiver.open? .brief .additive (some source.length) true (.filled 3 0) 0 =
        .ok receiver ∧
      fault.Harmless .brief .additive true source ∧
      ∃ (fuel : Nat) (final : Pair Rat), (Pair.start (.start .brief source 0) receiver
          ⟨.fresh .none fault.forth, .fresh .none fault.back⟩ none).complete fuel = some final ∧
        ((∃ failure, final.receiver.outcome? = some (.error failure)) ∨
          final.receiver.outcome? = some (.ok source.length) ∧
            final.receiver.destination.toList.take source.length = source) := by
  intro source fault
  let receiver : Receiver Rat := .start ⟨.brief, .additive, some 3, true⟩ (.filled 3 0) 0
  have opens : Receiver.open? .brief .additive (some source.length) true (.filled 3 0) 0 =
      .ok receiver := rfl
  have harmless : fault.Harmless .brief .additive true source := by
    refine fun _ _ => ⟨fun _ => ?_, fun slow => ?_⟩
    · decide +kernel
    · exact absurd slow (by decide +kernel)
  exact ⟨receiver, opens, harmless, single_fault_safety opens harmless⟩

/-- A frame without its first payload byte may be misread: the beginning of its repetition fills it
up, and the checksum of what was read holds. -/
theorem shortened_frame_accepted :
    let source : List UInt8 := 1 :: List.replicate 127 0
    let fault : SingleFault := ⟨.a, 0, .loses 3⟩
    ∃ (receiver : Receiver Rat) (fuel : Nat) (final : Pair Rat),
      Receiver.open? .brief .additive (some source.length) false (.filled 128 0) 0 =
        .ok receiver ∧
      (Pair.start (.start .brief source 0) receiver
        ⟨.fresh .none fault.forth, .fresh .none fault.back⟩ none).complete fuel = some final ∧
      final.receiver.outcome? = some (.ok source.length) ∧
      final.receiver.destination.toList.take source.length ≠ source := by
  intro source fault
  let receiver : Receiver Rat := .start ⟨.brief, .additive, some 128, false⟩ (.filled 128 0) 0
  let link : Link Rat := ⟨.fresh .none fault.forth, .fresh .none fault.back⟩
  have completes : ((Pair.start (.start .brief source 0) receiver link none).complete 1000).any
      (fun final => final.receiver.outcome? = some (.ok source.length) ∧
          final.receiver.destination.toList.take source.length ≠ source) = true := by
    decide +kernel
  have opens : Receiver.open? .brief .additive (some (128 : Nat)) false (.filled 128 0) 0 =
      .ok receiver := rfl
  have length : source.length = 128 := by simp [source]
  obtain ⟨final, completes, accepted⟩ := (Option.any_eq_true ..).mp completes
  obtain ⟨outcome, content⟩ := of_decide_eq_true accepted
  rw [← length] at opens
  exact ⟨receiver, 1000, final, opens, completes, outcome, content⟩

end Xmodem
