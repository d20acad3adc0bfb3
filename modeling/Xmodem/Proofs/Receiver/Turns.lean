import Xmodem.Proofs.Counters
import Xmodem.Proofs.Storage
import Xmodem.Proofs.Timing
import Xmodem.Proofs.Turn

/-!
# Turns of a receiver

Between its turns a receiver waits for a packet, for the rest of a frame, or for a quiet line.
Every lemma takes one answer and the bytes that arrived, and follows the receiver until it waits
again or has ended.
-/

namespace Xmodem

namespace Receiver

open Packets Destination

section Opening

variable {τ : Type} [Quantity τ] {policy : RetryPolicy τ} {mode : ChecksumMode} {confirm : Bool}
  {initial : Destination} {now : τ} {receiver : Receiver τ}

theorem eq_start_of_open? {expected : Option Int}
    (opens : open? policy mode expected confirm initial now = .ok receiver) :
    receiver = .start ⟨policy, mode, expected.map Int.toNat, confirm⟩ initial now := by
  unfold open? at opens
  split at opens
  · simp at opens
  · cases expected with
    | none => simpa using opens.symm
    | some length =>
        dsimp only at opens
        split at opens
        · simpa using opens.symm
        · simp at opens

theorem le_capacity_of_open? {expected : Int}
    (opens : open? policy mode (some expected) confirm initial now = .ok receiver) :
    expected ≤ initial.capacity := by
  unfold open? at opens
  split at opens
  · simp at opens
  · dsimp only at opens
    split at opens
    · rename_i admissible
      exact admissible.2
    · simp at opens

/-- Where a receiver was opened, another one can be opened on any writable destination of that
size. -/
theorem open?_eq_of_capacity_eq {expected : Option Int} {other : Destination}
    (opens : open? policy mode expected confirm initial now = .ok receiver)
    (capacity_eq : other.capacity = initial.capacity) (writable : other.readOnly = false)
    (later : τ) :
    open? policy mode expected confirm other later =
      .ok (.start ⟨policy, mode, expected.map Int.toNat, confirm⟩ other later) := by
  unfold open? at opens ⊢
  rw [writable, capacity_eq]
  split at opens
  · cases opens
  · cases expected with
    | none => rfl
    | some length =>
        dsimp only at opens
        split at opens
        · rename_i admissible
          simp only [if_pos admissible, Bool.false_eq_true, if_false, Option.map_some]
        · cases opens

end Opening

/-- What a receiver waits for when it holds some blocks. -/
def phaseAt (capacity count : Nat) : ReceivePhase :=
  if capacity ≤ offset capacity count then .awaitingEotOrBlock else .awaitingBlock

variable (setup : Setup Rat) (initial : Destination) (source : List UInt8)

/-- A receiver that holds the first blocks. -/
def atBlocks (count handshakes idle : Nat) (pending : Bool) (metrics : Metrics Rat)
    (phase : ReceivePhase) (activity : Activity Rat) : Receiver Rat where
  setup := setup
  destination := initial.holding source count
  phase := phase
  cursor := offset initial.capacity count
  expectedBlock := .ofNat (count + 1)
  lastAccepted := if count = 0 then none else some (.ofNat count)
  lastLength := offset initial.capacity count - offset initial.capacity (count - 1)
  handshakeAttempts := handshakes
  idlePeriods := idle
  eotPending := pending
  metrics := metrics
  activity := activity

/-- A receiver that asks for the start. -/
def calling (handshakes : Nat) (metrics : Metrics Rat) (activity : Activity Rat) : Receiver Rat :=
  atBlocks setup initial source 0 handshakes 0 false metrics .awaitingStart activity

/-- A receiver that has heard from the sender. -/
def standing (count handshakes idle : Nat) (pending : Bool) (metrics : Metrics Rat)
    (activity : Activity Rat) : Receiver Rat :=
  atBlocks setup initial source count handshakes idle pending metrics
    (phaseAt initial.capacity count) activity

/-- The length that a receiver with some blocks reports in some phase. -/
def reported (count : Nat) (phase : ReceivePhase) : Nat :=
  (atBlocks setup initial source count 0 0 false (.fresh 0) phase .between).transferred

/-- A receiver that has acknowledged the end of transmission. -/
def completed (count handshakes : Nat) (pending : Bool) (metrics : Metrics Rat) (now : Rat) :
    Receiver Rat :=
  atBlocks setup initial source count handshakes 0 pending
    { metrics with
      bytes := reported setup initial source count .completed
      finish := some now }
    .completed (.ended (.ok (reported setup initial source count .completed)))

/-- A receiver that gave up. -/
def abandoned (count handshakes idle : Nat) (pending : Bool) (metrics : Metrics Rat)
    (cause : AbortCause) (now : Rat) : Receiver Rat :=
  atBlocks setup initial source count handshakes idle pending { metrics with finish := some now }
    .aborted (.ended (.error ⟨cause, reported setup initial source count .aborted⟩))

variable {setup initial source} {count handshakes idle : Nat} {pending : Bool}
  {metrics : Metrics Rat} {phase : ReceivePhase} {activity : Activity Rat} {wire after : Wire}
  {now deadline : Rat} {later : Receiver Rat} {pause : Pause}

theorem phase_atBlocks :
    (atBlocks setup initial source count handshakes idle pending metrics phase activity).phase =
      phase := rfl

theorem action_listening {receiver : Receiver Rat}
    (listens : receiver.activity = .listening deadline) (early : now < deadline) :
    Session.action receiver now = .read (deadline - now) := by
  simp [Session.action, action, listens, early]

theorem turn_listening {receiver : Receiver Rat}
    (listens : receiver.activity = .listening deadline) (early : now < deadline)
    (quiet : wire.forward = []) :
    Turn .b now receiver wire receiver wire (.until deadline) :=
  .block (action_listening listens early) quiet (add_sub_cancel now _)

theorem turn_overdue {receiver : Receiver Rat} (listens : receiver.activity = .listening deadline)
    (past : deadline ≤ now)
    (turn : Turn .b now (receiver.next now .silence).1 wire later after pause) :
    Turn .b now receiver wire later after pause := by
  have none_left : deadline - now ≤ 0 := sub_nonpos.mpr past
  refine .proceed ?_ ?_
  · simp only [Session.action, action, listens, none_left, if_true]
  · rw [session_next, next_listening_overdue listens none_left]
    rwa [next_listening_silence listens] at turn

/-- The bytes that mean something to a receiver that waits for a packet. -/
def announcements : List UInt8 :=
  [startOfBlock, Signal.byte .endOfTransmission, Signal.byte .cancel]

/-- Whether a receiver has heard from the sender and waits for more. -/
def Met (receiver : Receiver Rat) : Prop :=
  receiver.phase = .awaitingBlock ∨ receiver.phase = .awaitingEotOrBlock

theorem met_standing :
    Met (standing setup initial source count handshakes idle pending metrics activity) := by
  simp only [Met, standing, phase_atBlocks, phaseAt]
  split <;> simp

theorem next_between_listen {receiver : Receiver Rat} (met : Met receiver) :
    (Session.next { receiver with activity := .between } now .proceeded).1 =
      receiver.listen now := by
  rw [session_next, next_between rfl]
  rcases met with phase_eq | phase_eq <;>
    simp [beginStep, phase_eq, listen]

theorem turn_between {receiver : Receiver Rat} (met : Met receiver)
    (turn : Turn .b now (receiver.listen now) wire later after pause) :
    Turn .b now { receiver with activity := .between } wire later after pause := by
  refine .proceed rfl ?_
  rw [next_between_listen met]
  exact turn

theorem turn_listen {receiver : Receiver Rat} (met : Met receiver) (quiet : wire.forward = []) :
    Turn .b now { receiver with activity := .between } wire (receiver.listen now) wire
      (.until (now + receiver.setup.policy.handshakeTimeout)) := by
  have early : now < now + receiver.setup.policy.handshakeTimeout :=
    receiver.setup.policy.lt_add_handshakeTimeout _
  exact turn_between met (turn_listening rfl early quiet)

theorem turn_stand (quiet : wire.forward = []) :
    Turn .b now (standing setup initial source count handshakes idle pending metrics .between) wire
      (standing setup initial source count handshakes idle pending metrics
        (.listening (now + setup.policy.handshakeTimeout)))
      wire (.until (now + setup.policy.handshakeTimeout)) := by
  have met : Met (standing setup initial source count handshakes idle pending metrics .between) :=
    met_standing
  exact turn_listen met quiet

theorem next_between_call {receiver : Receiver Rat} (calls : receiver.phase = .awaitingStart) :
    (Session.next { receiver with activity := .between } now .proceeded).1 =
      { receiver with activity := .writing .request } := by
  rw [session_next, next_between rfl]
  simp [beginStep, calls]

theorem turn_call {receiver : Receiver Rat} (calls : receiver.phase = .awaitingStart)
    (quiet : wire.forward = []) :
    Turn .b now { receiver with activity := .between } wire (receiver.listen now)
      (wire.wrote [Writing.request.byte receiver.setup.mode] .b)
      (.until (now + receiver.setup.policy.handshakeTimeout)) := by
  have early : now < now + receiver.setup.policy.handshakeTimeout :=
    receiver.setup.policy.lt_add_handshakeTimeout _
  refine .proceed rfl ?_
  rw [next_between_call calls]
  exact .write rfl (turn_listening rfl early quiet)

theorem next_start :
    ((start setup initial 0).next now .proceeded).1 =
      calling setup initial source 0 (.fresh now) .between := by
  simp [next, start, calling, atBlocks, offset, holding, Metrics.fresh]

theorem turn_start (quiet : wire.forward = []) :
    Turn .b now ((start setup initial 0).next now .proceeded).1 wire
      (calling setup initial source 0 (.fresh now)
        (.listening (now + setup.policy.handshakeTimeout)))
      (wire.wrote [Writing.request.byte setup.mode] .b)
      (.until (now + setup.policy.handshakeTimeout)) := by
  have calls : (calling setup initial source 0 (.fresh now) .between).phase = .awaitingStart := rfl
  have begins : ((start setup initial 0).next now .proceeded).1 =
      calling setup initial source 0 (.fresh now) .between := next_start
  rw [begins]
  exact turn_call calls quiet

theorem turn_uncalled {receiver : Receiver Rat} (calls : receiver.phase = .awaitingStart)
    (patient : receiver.handshakeAttempts + 1 < receiver.setup.policy.maxHandshakeAttempts)
    (quiet : wire.forward = []) :
    Turn .b now (receiver.heardNothing now).1 wire
      ({ receiver with
        handshakeAttempts := receiver.handshakeAttempts + 1
        metrics := receiver.metrics.silent }.listen now)
      (wire.wrote [Writing.request.byte receiver.setup.mode] .b)
      (.until (now + receiver.setup.policy.handshakeTimeout)) := by
  have lasts : receiver.setup.policy.exhausted (receiver.handshakeAttempts + 1 : Nat) = false := by
    rw [Bool.eq_false_iff, ne_eq, RetryPolicy.exhausted_iff]
    omega
  simp only [heardNothing, calls, if_true, lasts]
  exact turn_call rfl quiet

theorem turn_unheard {receiver : Receiver Rat} (calls : receiver.phase = .awaitingStart)
    (last : receiver.setup.policy.maxHandshakeAttempts ≤ receiver.handshakeAttempts + 1) :
    Turn .b now (receiver.heardNothing now).1 wire
      ({ receiver with
        handshakeAttempts := receiver.handshakeAttempts + 1
        metrics := receiver.metrics.silent }.abort now
          (.senderSilentAtStart (receiver.handshakeAttempts + 1))).1
      wire .ended := by
  have spent : receiver.setup.policy.exhausted (receiver.handshakeAttempts + 1 : Nat) = true := by
    rw [RetryPolicy.exhausted_iff]
    omega
  simp only [heardNothing, calls, if_true, spent]
  exact .stop rfl

theorem turn_call_again (patient : handshakes + 1 < setup.policy.maxHandshakeAttempts)
    (quiet : wire.forward = []) :
    Turn .b now
      ((calling setup initial source handshakes metrics (.listening deadline)).next now .silence).1
      wire
      (calling setup initial source (handshakes + 1) metrics.silent
        (.listening (now + setup.policy.handshakeTimeout)))
      (wire.wrote [Writing.request.byte setup.mode] .b)
      (.until (now + setup.policy.handshakeTimeout)) := by
  have calls : (calling setup initial source handshakes metrics (.listening deadline)).phase =
      .awaitingStart := rfl
  exact turn_uncalled calls patient quiet

theorem turn_call_in_vain (last : setup.policy.maxHandshakeAttempts ≤ handshakes + 1) :
    Turn .b now
      ((calling setup initial source handshakes metrics (.listening deadline)).next now .silence).1
      wire
      (abandoned setup initial source 0 (handshakes + 1) 0 false metrics.silent
        (.senderSilentAtStart (handshakes + 1)) now)
      wire .ended := by
  have calls : (calling setup initial source handshakes metrics (.listening deadline)).phase =
      .awaitingStart := rfl
  exact turn_unheard calls last

theorem phaseAt_ne_awaitingStart (capacity count : Nat) :
    phaseAt capacity count ≠ .awaitingStart := by
  unfold phaseAt
  split <;> simp

theorem turn_idle {receiver : Receiver Rat} {idleness : Idleness} (met : Met receiver)
    (patient : receiver.idlePeriods + 1 < receiver.setup.policy.maxHandshakeAttempts)
    (quiet : wire.forward = []) :
    Turn .b now (receiver.idle now idleness).1 wire
      ({ receiver with
        idlePeriods := receiver.idlePeriods + 1
        metrics := receiver.metrics.silent }.listen now)
      wire (.until (now + receiver.setup.policy.handshakeTimeout)) := by
  have lasts : receiver.setup.policy.exhausted (receiver.idlePeriods + 1 : Nat) = false := by
    rw [Bool.eq_false_iff, ne_eq, RetryPolicy.exhausted_iff]
    omega
  simp only [Receiver.idle, lasts]
  exact turn_listen met quiet

theorem turn_desert {receiver : Receiver Rat} {idleness : Idleness}
    (last : receiver.setup.policy.maxHandshakeAttempts ≤ receiver.idlePeriods + 1) :
    Turn .b now (receiver.idle now idleness).1 wire
      ({ receiver with
        idlePeriods := receiver.idlePeriods + 1
        metrics := receiver.metrics.silent }.abort now (.senderSilent receiver.cursor)).1
      wire .ended := by
  have spent : receiver.setup.policy.exhausted (receiver.idlePeriods + 1 : Nat) = true := by
    rw [RetryPolicy.exhausted_iff]
    omega
  simp only [Receiver.idle, spent]
  exact .stop rfl

theorem next_silence_standing :
    (standing setup initial source count handshakes idle pending metrics
      (.listening deadline)).next now .silence =
    (standing setup initial source count handshakes idle pending metrics
      (.listening deadline)).idle now .noBlock := by
  have met := phaseAt_ne_awaitingStart initial.capacity count
  rw [next_listening_silence rfl]
  simp [standing, atBlocks, heardNothing, met]

theorem turn_silence (patient : idle + 1 < setup.policy.maxHandshakeAttempts)
    (quiet : wire.forward = []) :
    Turn .b now
      ((standing setup initial source count handshakes idle pending metrics
        (.listening deadline)).next now .silence).1
      wire
      (standing setup initial source count handshakes (idle + 1) pending metrics.silent
        (.listening (now + setup.policy.handshakeTimeout)))
      wire (.until (now + setup.policy.handshakeTimeout)) := by
  have met : Met (standing setup initial source count handshakes idle pending metrics
      (.listening deadline)) := met_standing
  rw [next_silence_standing]
  exact turn_idle met patient quiet

theorem turn_last_silence (last : setup.policy.maxHandshakeAttempts ≤ idle + 1) :
    Turn .b now
      ((standing setup initial source count handshakes idle pending metrics
        (.listening deadline)).next now .silence).1
      wire
      (abandoned setup initial source count handshakes (idle + 1) pending metrics.silent
        (.senderSilent (offset initial.capacity count)) now)
      wire .ended := by
  rw [next_silence_standing]
  exact turn_desert last

theorem digests_collect (receiver : Receiver Rat) {raw : Array UInt8} {bytes : List UInt8}
    (more : List UInt8) (some_byte : bytes ≠ [])
    (whole : raw.size + bytes.length = Frame.length receiver.setup.mode) :
    ∃ activity, Digests now { receiver with activity := .collecting raw } (bytes ++ more)
      ({ receiver with activity := activity }.receiveFrame now (raw.toList ++ bytes)).1 more := by
  induction bytes generalizing raw with
  | nil => exact absurd rfl some_byte
  | cons byte bytes induction =>
      rw [List.length_cons] at whole
      cases bytes with
      | nil =>
          have last : ¬ (raw.push byte).size < Frame.length receiver.setup.mode := by
            rw [Array.size_push, ← whole]
            simp
          refine ⟨.collecting raw, .read rfl ?_⟩
          rw [session_next, next_collecting_byte rfl]
          simp only [collect, last, if_false, Array.toList_push]
          exact .done
      | cons second bytes =>
          have inside : (raw.push byte).size < Frame.length receiver.setup.mode := by
            rw [Array.size_push, ← whole]
            simp
          obtain ⟨activity, digests⟩ := @induction (raw.push byte) (by simp)
            (by rw [Array.size_push, ← whole]; omega)
          refine ⟨activity, .read rfl ?_⟩
          rw [session_next, next_collecting_byte rfl]
          simp only [collect, inside, if_true]
          simpa using digests

theorem turn_collect (receiver : Receiver Rat) {raw : Array UInt8} {bytes more : List UInt8}
    (arrived : wire.forward = bytes ++ more) (some_byte : bytes ≠ [])
    (whole : raw.size + bytes.length = Frame.length receiver.setup.mode)
    (turn : ∀ activity, Turn .b now
      ({ receiver with activity := activity }.receiveFrame now (raw.toList ++ bytes)).1
      { wire with forward := more } later after pause) :
    Turn .b now { receiver with activity := .collecting raw } wire later after pause := by
  obtain ⟨activity, digests⟩ := digests_collect receiver more some_byte whole
  exact digests.turn arrived (turn activity)

theorem turn_collect_part (receiver : Receiver Rat) {raw : Array UInt8} {bytes : List UInt8}
    (arrived : wire.forward = bytes)
    (short : raw.size + bytes.length < Frame.length receiver.setup.mode) :
    Turn .b now { receiver with activity := .collecting raw } wire
      { receiver with activity := .collecting (raw ++ bytes.toArray) } { wire with forward := [] }
      (.until (now + receiver.setup.policy.byteTimeout)) := by
  induction bytes generalizing raw wire with
  | nil =>
      obtain ⟨forth, back, sent, answered, backward, forward⟩ := wire
      dsimp only at arrived
      subst arrived
      simpa using Turn.block rfl rfl rfl
  | cons byte bytes induction =>
      refine .read rfl arrived ?_
      rw [List.length_cons] at short
      have inside : (raw.push byte).size < Frame.length receiver.setup.mode := by
        rw [Array.size_push]
        omega
      rw [session_next, next_collecting_byte rfl]
      simp only [collect, inside, if_true]
      have rest : Turn .b now { receiver with activity := .collecting (raw.push byte) }
          (wire.withInbox bytes .b) _ _ _ := induction rfl (by rw [Array.size_push]; omega)
      simpa [Wire.withInbox] using rest

/-- Whether or not it is the first packet, a receiver waits for the next block afterwards. -/
theorem meetSender_atBlocks
    (opened : phase = .awaitingStart ∨ phase = phaseAt initial.capacity count) :
    (atBlocks setup initial source count handshakes idle pending metrics phase
      activity).meetSender.1 =
      standing setup initial source count handshakes idle pending metrics activity := by
  rcases opened with rfl | rfl
  · have waits : (atBlocks setup initial source count handshakes idle pending metrics
        .awaitingStart activity).waitingPhase = phaseAt initial.capacity count := by
      simp [waitingPhase, atBlocks, capacity, phaseAt]
    simp only [meetSender, phase_atBlocks, if_true, waits]
    rfl
  · simp only [meetSender, phase_atBlocks, phaseAt_ne_awaitingStart, if_false]
    rfl

theorem next_startOfBlock
    (opened : phase = .awaitingStart ∨ phase = phaseAt initial.capacity count) :
    ((atBlocks setup initial source count handshakes idle pending metrics phase
      (.listening deadline)).next now (.byte startOfBlock)).1 =
      standing setup initial source count handshakes 0 false metrics
        (.collecting #[startOfBlock]) := by
  have heard_eq : ((atBlocks setup initial source count handshakes idle pending metrics phase
      (.listening deadline)).next now (.byte startOfBlock)).1 =
      ((atBlocks setup initial source count handshakes idle pending metrics phase
        (.listening deadline)).meetSender.1.openFrame).1 := rfl
  rw [heard_eq, meetSender_atBlocks opened]
  rfl

theorem next_endOfTransmission
    (opened : phase = .awaitingStart ∨ phase = phaseAt initial.capacity count) :
    ((atBlocks setup initial source count handshakes idle pending metrics phase
      (.listening deadline)).next now (.byte (Signal.byte .endOfTransmission))).1 =
      (standing setup initial source count handshakes idle pending metrics
        (.listening deadline)).endOfTransmission.1 := by
  have heard_eq : ((atBlocks setup initial source count handshakes idle pending metrics phase
      (.listening deadline)).next now (.byte (Signal.byte .endOfTransmission))).1 =
      ((atBlocks setup initial source count handshakes idle pending metrics phase
        (.listening deadline)).meetSender.1.endOfTransmission).1 := rfl
  rw [heard_eq, meetSender_atBlocks opened]

theorem digests_frame {bytes : List UInt8}
    (opened : phase = .awaitingStart ∨ phase = phaseAt initial.capacity count)
    (more : List UInt8) (whole : (startOfBlock :: bytes).length = Frame.length setup.mode) :
    ∃ activity, Digests now
      ((atBlocks setup initial source count handshakes idle pending metrics phase
        (.listening deadline)).next now (.byte startOfBlock)).1
      (bytes ++ more)
      ((standing setup initial source count handshakes 0 false metrics activity).receiveFrame now
        (startOfBlock :: bytes)).1 more := by
  have some_byte : bytes ≠ [] := by
    rintro rfl
    simp [Frame.length, blockSize] at whole
    omega
  rw [next_startOfBlock opened]
  apply digests_collect (standing setup initial source count handshakes 0 false metrics .between)
    more some_byte
  change 1 + bytes.length = Frame.length setup.mode
  rw [← whole, List.length_cons, Nat.add_comm]

theorem turn_frame {bytes : List UInt8}
    (opened : phase = .awaitingStart ∨ phase = phaseAt initial.capacity count)
    (more : List UInt8)
    (arrived : wire.forward = bytes ++ more)
    (whole : (startOfBlock :: bytes).length = Frame.length setup.mode)
    (turn : ∀ activity, Turn .b now
      ((standing setup initial source count handshakes 0 false metrics activity).receiveFrame now
        (startOfBlock :: bytes)).1
      { wire with forward := more } later after pause) :
    Turn .b now
      ((atBlocks setup initial source count handshakes idle pending metrics phase
        (.listening deadline)).next now (.byte startOfBlock)).1
      wire later after pause := by
  obtain ⟨activity, digests⟩ := digests_frame opened more whole
  exact digests.turn arrived (turn activity)

theorem hasRoomFor_iff {τ : Type} [Quantity τ] {receiver : Receiver τ} {payload : List UInt8}
    (start_eq : receiver.cursor = offset receiver.capacity count)
    (whole : payload.length = blockSize) :
    receiver.hasRoomFor payload = true ↔ FitsAt receiver.capacity count payload := by
  rw [hasRoomFor, Receiver.room, FitsAt, start_eq]
  rcases Nat.lt_or_ge (blockSize * count) receiver.capacity with below | above
  · have start_eq : offset receiver.capacity count = blockSize * count :=
      Nat.min_eq_left below.le
    have spills : payload.drop (min blockSize (receiver.capacity - blockSize * count)) =
        payload.drop (receiver.capacity - blockSize * count) := by
      rcases Nat.le_total blockSize (receiver.capacity - blockSize * count) with wide | narrow
      · rw [Nat.min_eq_left wide, List.drop_of_length_le (by omega),
          List.drop_of_length_le (by omega)]
      · rw [Nat.min_eq_right narrow]
    have some_room : min blockSize (receiver.capacity - blockSize * count) ≠ 0 := by
      simp only [blockSize] at below ⊢
      omega
    simp [start_eq, spills, some_room, below]
  · have start_eq : offset receiver.capacity count = receiver.capacity := Nat.min_eq_right above
    simp [start_eq, above.not_gt]

theorem hasRoomFor_standing :
    (standing setup initial source count handshakes idle pending metrics activity).hasRoomFor
      (block source count).payload = true ↔ Fits initial.capacity source count := by
  have same : (standing setup initial source count handshakes idle pending metrics
      activity).capacity = initial.capacity := capacity_holding count
  have start_eq : (standing setup initial source count handshakes idle pending metrics
      activity).cursor = offset (standing setup initial source count handshakes idle pending
        metrics activity).capacity count := by
    rw [same]
    rfl
  rw [hasRoomFor_iff start_eq (block source count).length_payload, same, FitsAt, Fits]

theorem receiveFrame_accepts (fits : Fits initial.capacity source count) :
    ((standing setup initial source count handshakes idle pending metrics activity).receiveFrame
        now (Frame.encode setup.mode (block source count))).1 =
      atBlocks setup initial source (count + 1) handshakes idle pending metrics.stored
        (phaseAt initial.capacity count) (.writing .acceptance) := by
  have roomy : (standing setup initial source count handshakes idle pending metrics
      activity).hasRoomFor (block source count).payload = true := hasRoomFor_standing.mpr fits
  have size : offset initial.capacity (count + 1) - offset initial.capacity count =
      min blockSize (initial.capacity - offset initial.capacity count) := by
    rw [← offset_succ]
    omega
  have ends := offset_succ initial.capacity count
  have number : (block source count).number = .ofNat (count + 1) := rfl
  have decoded : Frame.decode
      (standing setup initial source count handshakes idle pending metrics activity).setup.mode
      (Frame.encode setup.mode (block source count)) = .ok (block source count) :=
    Frame.decode_encode ..
  have expected : (standing setup initial source count handshakes idle pending metrics
      activity).expectedBlock = (block source count).number := rfl
  simp only [receiveFrame, decoded, receiveBlock, expected, if_true, accept, roomy]
  simp [standing, atBlocks, Receiver.room, capacity, holding, size, ends, number,
    Metrics.stored]

theorem next_written_acceptance :
    ((atBlocks setup initial source (count + 1) handshakes idle pending metrics
        (phaseAt initial.capacity count) (.writing .acceptance)).next now .written).1 =
      standing setup initial source (count + 1) handshakes idle pending metrics .between := by
  rw [next_written rfl]
  simp [atBlocks, wrote, endStep, waitingPhase, capacity, standing, phaseAt]

theorem turn_accept (fits : Fits initial.capacity source count) (quiet : wire.forward = []) :
    Turn .b now
      ((standing setup initial source count handshakes idle pending metrics activity).receiveFrame
        now (Frame.encode setup.mode (block source count))).1
      wire
      (standing setup initial source (count + 1) handshakes idle pending metrics.stored
        (.listening (now + setup.policy.handshakeTimeout)))
      (wire.wrote [Signal.byte .acknowledge] .b)
      (.until (now + setup.policy.handshakeTimeout)) := by
  rw [receiveFrame_accepts fits]
  refine .write rfl ?_
  rw [session_next, next_written_acceptance]
  exact turn_stand quiet

theorem turn_repeat (quiet : wire.forward = []) :
    Turn .b now
      ((standing setup initial source (count + 1) handshakes idle pending metrics
        activity).receiveFrame now (Frame.encode setup.mode (block source count))).1
      wire
      (standing setup initial source (count + 1) handshakes idle pending metrics.repeated
        (.listening (now + setup.policy.handshakeTimeout)))
      (wire.wrote [Signal.byte .acknowledge] .b)
      (.until (now + setup.policy.handshakeTimeout)) := by
  have other : UInt8.ofNat (count + 1) ≠ .ofNat (count + 1 + 1) := by
    rw [ne_eq, ← UInt8.toNat_inj, UInt8.toNat_ofNat', UInt8.toNat_ofNat']
    omega
  have repeats : ((standing setup initial source (count + 1) handshakes idle pending metrics
      activity).receiveFrame now (Frame.encode setup.mode (block source count))).1 =
      standing setup initial source (count + 1) handshakes idle pending metrics.repeated
        (.writing .repetition) := by
    have decoded : Frame.decode
        (standing setup initial source (count + 1) handshakes idle pending metrics
          activity).setup.mode
        (Frame.encode setup.mode (block source count)) = .ok (block source count) :=
      Frame.decode_encode ..
    have unexpected : (block source count).number ≠ (standing setup initial source (count + 1)
        handshakes idle pending metrics activity).expectedBlock := other
    have last : (standing setup initial source (count + 1) handshakes idle pending metrics
        activity).lastAccepted = some (block source count).number := rfl
    simp only [receiveFrame, decoded, receiveBlock, unexpected, last, if_true, if_false]
    rfl
  rw [repeats]
  refine .write rfl ?_
  exact turn_stand quiet

theorem turn_overflow (spills : ¬ Fits initial.capacity source count) :
    Turn .b now
      ((standing setup initial source count handshakes idle pending metrics activity).receiveFrame
        now (Frame.encode setup.mode (block source count))).1
      wire
      (abandoned setup initial source count handshakes idle pending metrics
        (.noRoom (.ofNat (count + 1)) (offset initial.capacity count) initial.capacity) now)
      (wire.wrote [Signal.byte .cancel] .b) .ended := by
  have full : (standing setup initial source count handshakes idle pending metrics
      activity).hasRoomFor (block source count).payload = false := by
    rw [Bool.eq_false_iff, ne_eq, hasRoomFor_standing]
    exact spills
  have decoded : Frame.decode
      (standing setup initial source count handshakes idle pending metrics activity).setup.mode
      (Frame.encode setup.mode (block source count)) = .ok (block source count) :=
    Frame.decode_encode ..
  have expected : (standing setup initial source count handshakes idle pending metrics
      activity).expectedBlock = (block source count).number := rfl
  have capacity_eq : (standing setup initial source count handshakes idle pending metrics
      activity).capacity = initial.capacity := capacity_holding count
  simp only [receiveFrame, decoded, receiveBlock, expected, if_true, accept, full,
    Bool.false_eq_true, if_false, abortNotifying, capacity_eq]
  exact .write rfl (.stop rfl)

theorem turn_drain {receiver : Receiver Rat} (drains : receiver.activity = .draining deadline)
    (early : now < deadline) :
    Turn .b now receiver wire receiver { wire with forward := [] }
      (.until (now + receiver.setup.policy.purgeTimeout)) := by
  have reads : Session.action receiver now = .read receiver.setup.policy.purgeTimeout := by
    simp [Session.action, action, drains, early]
  obtain ⟨forth, back, sent, answered, backward, forward⟩ := wire
  induction forward with
  | nil => exact .block reads rfl rfl
  | cons byte forward induction =>
      have drops : (Session.next receiver now (.byte byte)).1 = receiver := by
        rw [session_next, next_draining_byte drains]
      refine .read reads rfl ?_
      rw [drops]
      exact induction

theorem turn_refuse {error : FrameError} {raw : List UInt8}
    (damaged : Frame.decode setup.mode raw = .error error) :
    Turn .b now
      ((standing setup initial source count handshakes idle pending metrics activity).receiveFrame
        now raw).1
      wire
      (standing setup initial source count handshakes idle pending metrics.refused
        (.draining (now + setup.policy.handshakeTimeout)))
      { wire with forward := [] } (.until (now + setup.policy.purgeTimeout)) := by
  have refuses : ((standing setup initial source count handshakes idle pending metrics
      activity).receiveFrame now raw).1 =
      standing setup initial source count handshakes idle pending metrics.refused
        (.draining (now + setup.policy.handshakeTimeout)) := by
    have decoded : Frame.decode (standing setup initial source count handshakes idle pending
        metrics activity).setup.mode raw = .error error := damaged
    simp only [receiveFrame, decoded]
    rfl
  have drains : (standing setup initial source count handshakes idle pending metrics.refused
      (.draining (now + setup.policy.handshakeTimeout))).activity =
      .draining (now + setup.policy.handshakeTimeout) := rfl
  rw [refuses]
  exact turn_drain drains (setup.policy.lt_add_handshakeTimeout _)

theorem turn_undrained {receiver : Receiver Rat} (met : Met receiver)
    (drains : receiver.activity = .draining deadline) (past : deadline ≤ now)
    (turn : Turn .b now (receiver.listen now) (wire.wrote [Signal.byte .negativeAcknowledge] .b)
      later after pause) :
    Turn .b now receiver wire later after pause := by
  refine .proceed ?_ ?_
  · simp only [Session.action, action, drains, past.not_gt, if_false]
  · rw [session_next, next_draining_overdue drains past.not_gt]
    exact .write rfl (turn_between met turn)

/-- A frame that is neither the next one nor the last one makes the receiver give up. -/
theorem turn_out_of_sequence {receiver : Receiver Rat} {raw : List UInt8} {block : Block}
    (decoded : Frame.decode receiver.setup.mode raw = .ok block)
    (unexpected : block.number ≠ receiver.expectedBlock)
    (unrepeated : receiver.lastAccepted ≠ some block.number) :
    Turn .b now (receiver.receiveFrame now raw).1 wire
      (receiver.abort now (.outOfSequence receiver.expectedBlock block.number)).1
      (wire.wrote [Signal.byte .cancel] .b) .ended := by
  simp only [receiveFrame, decoded, receiveBlock, unexpected, unrepeated, if_false]
  exact .write rfl (.stop rfl)

theorem turn_reject (quiet : wire.forward = []) :
    Turn .b now
      ((standing setup initial source count handshakes idle pending metrics
        (.draining deadline)).next now .silence).1
      wire
      (standing setup initial source count handshakes idle pending metrics
        (.listening (now + setup.policy.handshakeTimeout)))
      (wire.wrote [Signal.byte .negativeAcknowledge] .b)
      (.until (now + setup.policy.handshakeTimeout)) :=
  .write rfl (turn_stand quiet)

/-- The end of transmission has to be confirmed, and whatever is behind it is read next. -/
theorem turn_confirm_on
    (opened : phase = .awaitingStart ∨ phase = phaseAt initial.capacity count)
    (asks : setup.confirmEot = true)
    (turn : Turn .b now
      (standing setup initial source count handshakes 0 true metrics
        (.listening (now + setup.policy.handshakeTimeout)))
      (wire.wrote [Signal.byte .negativeAcknowledge] .b) later after pause) :
    Turn .b now
      ((atBlocks setup initial source count handshakes idle false metrics phase
        (.listening deadline)).next now (.byte (Signal.byte .endOfTransmission))).1
      wire later after pause := by
  have asked : (standing setup initial source count handshakes idle false metrics
      (.listening deadline)).endOfTransmission.1 =
      standing setup initial source count handshakes 0 true metrics (.writing .confirmation) := by
    simp [endOfTransmission, standing, atBlocks, asks]
  have met : Met (standing setup initial source count handshakes 0 true metrics .between) :=
    met_standing
  rw [next_endOfTransmission opened, asked]
  exact .write rfl (turn_between met turn)

theorem turn_confirm
    (opened : phase = .awaitingStart ∨ phase = phaseAt initial.capacity count)
    (asks : setup.confirmEot = true) (quiet : wire.forward = []) :
    Turn .b now
      ((atBlocks setup initial source count handshakes idle false metrics phase
        (.listening deadline)).next now (.byte (Signal.byte .endOfTransmission))).1
      wire
      (standing setup initial source count handshakes 0 true metrics
        (.listening (now + setup.policy.handshakeTimeout)))
      (wire.wrote [Signal.byte .negativeAcknowledge] .b)
      (.until (now + setup.policy.handshakeTimeout)) := by
  have early : now < now + setup.policy.handshakeTimeout := setup.policy.lt_add_handshakeTimeout _
  exact turn_confirm_on opened asks (turn_listening rfl early quiet)

theorem next_last_packet
    (opened : phase = .awaitingStart ∨ phase = phaseAt initial.capacity count)
    (settled : setup.confirmEot = true → pending = true) :
    ((atBlocks setup initial source count handshakes idle pending metrics phase
        (.listening deadline)).next now (.byte (Signal.byte .endOfTransmission))).1 =
      standing setup initial source count handshakes 0 pending metrics (.writing .completion) := by
  have satisfied : ¬ (setup.confirmEot = true ∧ ¬ pending = true) :=
    fun ⟨asks, unsettled⟩ => unsettled (settled asks)
  rw [next_endOfTransmission opened]
  simp only [endOfTransmission, standing, atBlocks, satisfied, if_false]

theorem digests_completed {inbox : List UInt8} :
    Digests now
      ((standing setup initial source count handshakes 0 pending metrics
        (.writing .completion)).next now .written).1
      inbox (completed setup initial source count handshakes pending metrics now) inbox :=
  .proceed rfl .done

theorem turn_complete
    (opened : phase = .awaitingStart ∨ phase = phaseAt initial.capacity count)
    (settled : setup.confirmEot = true → pending = true) :
    Turn .b now
      ((atBlocks setup initial source count handshakes idle pending metrics phase
        (.listening deadline)).next now (.byte (Signal.byte .endOfTransmission))).1
      wire (completed setup initial source count handshakes pending metrics now)
      (wire.wrote [Signal.byte .acknowledge] .b) .ended := by
  rw [next_last_packet opened settled]
  apply Turn.write rfl
  exact digests_completed.turn rfl (.stop rfl)

/-- Why a receiver gives up when the sender cancels. -/
def cancellation (capacity count : Nat) (phase : ReceivePhase) : AbortCause :=
  if phase = .awaitingStart then .canceledBeforeStart .sender
  else .senderCanceled (offset capacity count)

theorem reason_cancellation (capacity count : Nat) (phase : ReceivePhase) :
    (cancellation capacity count phase).reason = .canceledByPeer := by
  unfold cancellation
  split <;> rfl

theorem turn_canceled :
    Turn .b now
      ((atBlocks setup initial source count handshakes idle pending metrics phase
        (.listening deadline)).next now (.byte (Signal.byte .cancel))).1
      wire
      (abandoned setup initial source count handshakes idle pending metrics
        (cancellation initial.capacity count phase) now)
      wire .ended :=
  .stop rfl

end Receiver
end Xmodem
