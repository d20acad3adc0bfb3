import Xmodem.Proofs.Performance
import Xmodem.Proofs.Receiver.Rest
import Xmodem.Proofs.Receiver.Stages

/-!
# Disturbed scripts

Noise, repeated frames, damaged frames, fragments of frames, and silences between the packets of a
transfer leave what a receiver has stored as it was, as long as the silences are too few to end the
transfer.  So a receiver ends in the same way with them and without them.
-/

namespace Xmodem
namespace Receiver

/-- What a receiver has stored, and which block goes where next. -/
structure Stock where
  /-- The choices made by the caller. -/
  setup : Setup Rat
  /-- Where the blocks go. -/
  destination : Destination
  /-- Number of bytes stored. -/
  cursor : Nat
  /-- Number of the next block. -/
  expectedBlock : UInt8
  /-- Number of the last block that was stored. -/
  lastAccepted : Option UInt8
  /-- How many bytes of the last block were stored. -/
  lastLength : Nat

/-- What a receiver has stored. -/
def stock (receiver : Receiver Rat) : Stock where
  setup := receiver.setup
  destination := receiver.destination
  cursor := receiver.cursor
  expectedBlock := receiver.expectedBlock
  lastAccepted := receiver.lastAccepted
  lastLength := receiver.lastLength

namespace Stock

/-- A receiver that has nothing but some stock. -/
def receiver (stock : Stock) : Receiver Rat :=
  { start stock.setup stock.destination 0 with
    cursor := stock.cursor
    expectedBlock := stock.expectedBlock
    lastAccepted := stock.lastAccepted
    lastLength := stock.lastLength }

/-- The stock after one more block. -/
def store (stock : Stock) (block : Block) : Stock :=
  (stock.receiver.accept block).1.stock

end Stock

/-- How many silent waits a receiver has counted for the packet that it awaits. -/
def silences (receiver : Receiver Rat) : Nat :=
  if receiver.phase = .awaitingStart then receiver.handshakeAttempts else receiver.idlePeriods

/-- A receiver with some stock awaits a packet, after at most some number of silent waits. -/
structure Awaits (stock : Stock) (count : Nat) (now : Rat) (receiver : Receiver Rat) : Prop where
  expects : receiver.phase = .awaitingStart ∨ Met receiver
  listens : ∃ deadline, receiver.activity = .listening deadline ∧ now < deadline
  stock_eq : receiver.stock = stock
  patient : receiver.silences ≤ count

/-- A receiver with some stock is about to await a packet, after at most some number of silent
waits. -/
structure Between (stock : Stock) (count : Nat) (receiver : Receiver Rat) : Prop where
  expects : receiver.phase = .awaitingStart ∨ Met receiver
  rests : receiver.activity = .between
  stock_eq : receiver.stock = stock
  patient : receiver.silences ≤ count

theorem Between.weaken {stock : Stock} {count more : Nat} {receiver : Receiver Rat}
    (between : Between stock count receiver) (fewer : count ≤ more) :
    Between stock more receiver :=
  { between with patient := between.patient.trans fewer }

section Moves

variable {receiver : Receiver Rat} {now : Rat} {items : List (ScriptItem Rat)}
  {reports : List Nat} {after : Cue (Receiver Rat) Rat} {stock later : Stock} {count more : Nat}

theorem plays_of_meets {instant : Rat} {rest : List (ScriptItem Rat)} {answer : Answer}
    (other : receiver.activity ≠ .writing .acceptance)
    (meets : Meets (Session.action receiver now) now items answer instant rest)
    (plays : Plays ⟨(receiver.next instant answer).1, instant, rest⟩ reports after) :
    Plays ⟨receiver, now, items⟩ reports after :=
  .quiet meets (totals_eq_nil (reacts_of_valid meets.valid) other) plays

theorem plays_proceed (other : receiver.activity ≠ .writing .acceptance)
    (acts : Session.action receiver now = .proceed)
    (plays : Plays ⟨(receiver.next now .proceeded).1, now, items⟩ reports after) :
    Plays ⟨receiver, now, items⟩ reports after :=
  plays_of_meets other (acts ▸ .proceeded) plays

theorem plays_write {purpose : Writing} (writes : receiver.activity = .writing purpose)
    (other : purpose ≠ .acceptance)
    (plays : Plays ⟨(receiver.wrote now purpose).1, now, items⟩ reports after) :
    Plays ⟨receiver, now, items⟩ reports after := by
  have acts : Session.action receiver now = .write [purpose.byte receiver.setup.mode] := by
    simp [Session.action, action, writes]
  rw [← next_written writes] at plays
  exact plays_of_meets (by simpa [writes] using other) (acts ▸ .written) plays

theorem plays_hear {deadline : Rat} (listens : receiver.activity = .listening deadline)
    (early : now < deadline) {value : UInt8}
    (plays : Plays ⟨(receiver.heard now value).1, now, items⟩ reports after) :
    Plays ⟨receiver, now, .byte value :: items⟩ reports after := by
  have acts := action_listening listens early
  rw [← next_listening_byte listens] at plays
  exact plays_of_meets (by simp [listens]) (acts ▸ .byte) plays

theorem plays_expire {deadline : Rat} (listens : receiver.activity = .listening deadline)
    (early : now < deadline)
    (plays : Plays ⟨(receiver.heardNothing (now + (deadline - now))).1, now + (deadline - now),
      items⟩ reports after) :
    Plays ⟨receiver, now, .silence :: items⟩ reports after := by
  have acts := action_listening listens early
  rw [← next_listening_silence listens] at plays
  exact plays_of_meets (by simp [listens]) (acts ▸ .silence) plays

/-- A receiver between two packets goes on to await one. -/
theorem Between.exists_awaits (between : Between stock count receiver) :
    ∃ later, Plays ⟨receiver, now, items⟩ [] ⟨later, now, items⟩ ∧
      Awaits stock count now later := by
  obtain ⟨expects, rests, stock_eq, patient⟩ := between
  have early := receiver.setup.policy.lt_add_handshakeTimeout now
  refine ⟨receiver.listen now, ?_, expects, ⟨_, rfl, early⟩, stock_eq, patient⟩
  have acts : Session.action receiver now = .proceed := by
    simp [Session.action, action, rests]
  refine plays_proceed (by simp [rests]) acts ?_
  rw [next_between rests]
  obtain calls | block | ends := expects
  · have begins : (receiver.beginStep now).1 = { receiver with activity := .writing .request } := by
      simp [beginStep, calls]
    rw [begins]
    exact plays_write rfl (by simp) (.rest _)
  · simp only [beginStep, block]
    exact .rest _
  · simp only [beginStep, ends]
    exact .rest _

theorem plays_collect_part (receiver : Receiver Rat) {raw : Array UInt8} {bytes : List UInt8}
    (short : raw.size + bytes.length < Frame.length receiver.setup.mode)
    (plays : Plays ⟨{ receiver with activity := .collecting (raw ++ bytes.toArray) }, now, items⟩
      reports after) :
    Plays ⟨{ receiver with activity := .collecting raw }, now, bytes.map .byte ++ items⟩ reports
      after := by
  induction bytes generalizing raw with
  | nil => simpa using plays
  | cons byte bytes induction =>
      rw [List.length_cons] at short
      have inside : (raw.push byte).size < Frame.length receiver.setup.mode := by
        rw [Array.size_push]
        omega
      refine plays_of_meets (by simp) .byte ?_
      rw [next_collecting_byte rfl]
      simp only [collect, inside, if_true]
      refine induction (by rw [Array.size_push]; omega) ?_
      simpa using plays

theorem plays_collect (receiver : Receiver Rat) {raw : Array UInt8} {bytes : List UInt8}
    (some_byte : bytes ≠ [])
    (whole : raw.size + bytes.length = Frame.length receiver.setup.mode)
    (plays : ∀ activity, Plays
      ⟨({ receiver with activity := activity }.receiveFrame now (raw.toList ++ bytes)).1, now, items⟩
      reports after) :
    Plays ⟨{ receiver with activity := .collecting raw }, now, bytes.map .byte ++ items⟩ reports
      after := by
  obtain rfl | ⟨front, last, rfl⟩ := bytes.eq_nil_or_concat
  · exact absurd rfl some_byte
  rw [List.concat_eq_append] at whole plays ⊢
  rw [List.length_append, List.length_singleton, ← Nat.add_assoc] at whole
  have full : ¬ ((raw ++ front.toArray).push last).size < Frame.length receiver.setup.mode := by
    simp [← whole, Nat.add_assoc]
  rw [List.map_append, List.append_assoc]
  refine plays_collect_part receiver (by omega) (plays_of_meets (by simp) .byte ?_)
  rw [next_collecting_byte rfl]
  simp only [collect, full, if_false]
  simpa using plays _

end Moves

section Opening

variable {receiver : Receiver Rat} {now : Rat}

theorem met_meetSender (expects : receiver.phase = .awaitingStart ∨ Met receiver) :
    Met receiver.meetSender.1 := by
  unfold meetSender
  split
  · simp only [Met, waitingPhase]
    split <;> simp
  · rename_i other
    exact expects.resolve_left other

theorem stock_meetSender : receiver.meetSender.1.stock = receiver.stock := by
  unfold meetSender
  split <;> rfl

theorem Met.ne_awaitingStart (met : Met receiver) : receiver.phase ≠ .awaitingStart := by
  rcases met with phase_eq | phase_eq <;> simp [phase_eq]

theorem silences_of_met (met : Met receiver) : receiver.silences = receiver.idlePeriods :=
  if_neg met.ne_awaitingStart

/-- Every frame that opens makes a receiver forget its silent waits. -/
theorem exists_opened (now : Rat) (expects : receiver.phase = .awaitingStart ∨ Met receiver) :
    ∃ opened : Receiver Rat, Met opened ∧ opened.stock = receiver.stock ∧
      opened.idlePeriods = 0 ∧
      (receiver.heard now startOfBlock).1 = { opened with activity := .collecting #[startOfBlock] } :=
  ⟨receiver.meetSender.1.openFrame.1, met_meetSender expects, stock_meetSender, rfl, rfl⟩

theorem between_idle (now : Rat) (met : Met receiver)
    (patient : receiver.idlePeriods + 1 < receiver.setup.policy.maxHandshakeAttempts)
    (idleness : Idleness) :
    Between receiver.stock (receiver.idlePeriods + 1) (receiver.idle now idleness).1 := by
  have lasts : receiver.setup.policy.exhausted (receiver.idlePeriods + 1 : Nat) = false := by
    rw [Bool.eq_false_iff, ne_eq, RetryPolicy.exhausted_iff]
    omega
  simp only [Receiver.idle, lasts]
  exact ⟨.inr met, rfl, rfl, (if_neg met.ne_awaitingStart).le⟩

theorem between_heardNothing (now : Rat) (expects : receiver.phase = .awaitingStart ∨ Met receiver)
    (patient : receiver.silences + 1 < receiver.setup.policy.maxHandshakeAttempts) :
    Between receiver.stock (receiver.silences + 1) (receiver.heardNothing now).1 := by
  obtain calls | met := expects
  · have silences_eq : receiver.silences = receiver.handshakeAttempts := if_pos calls
    rw [silences_eq] at patient ⊢
    have lasts : receiver.setup.policy.exhausted (receiver.handshakeAttempts + 1 : Nat) = false := by
      rw [Bool.eq_false_iff, ne_eq, RetryPolicy.exhausted_iff]
      omega
    simp only [heardNothing, calls, if_true, lasts]
    exact ⟨.inl rfl, rfl, by rw [← calls]; rfl, Nat.le_refl _⟩
  · rw [silences_of_met met] at patient ⊢
    rw [heardNothing, if_neg met.ne_awaitingStart]
    exact between_idle now met patient _

/-- What a frame does does not depend on what the receiver was doing. -/
theorem receiveFrame_activity (receiver : Receiver Rat) (activity : Activity Rat)
    (raw : List UInt8) :
    ({ receiver with activity := activity }.receiveFrame now raw).1 =
      (receiver.receiveFrame now raw).1 := rfl

theorem Awaits.exists_opened {stock : Stock} {count : Nat} (awaits : Awaits stock count now receiver)
    {raw : List UInt8} (first : raw.head? = some startOfBlock)
    (whole : raw.length = Frame.length stock.setup.mode) (items : List (ScriptItem Rat)) :
    ∃ opened : Receiver Rat, Met opened ∧ opened.stock = stock ∧ opened.idlePeriods = 0 ∧
      ∀ {reports after}, Plays ⟨(opened.receiveFrame now raw).1, now, items⟩ reports after →
        Plays ⟨receiver, now, raw.map .byte ++ items⟩ reports after := by
  obtain ⟨bytes, rfl⟩ := List.head?_eq_some_iff.mp first
  obtain ⟨deadline, listens, early⟩ := awaits.listens
  obtain ⟨opened, met, stock_eq, fresh, opens⟩ := Receiver.exists_opened now awaits.expects
  rw [awaits.stock_eq] at stock_eq
  have mode_eq : opened.setup.mode = stock.setup.mode :=
    congrArg (fun stock : Stock => stock.setup.mode) stock_eq
  refine ⟨opened, met, stock_eq, fresh, fun {reports after} plays => ?_⟩
  refine plays_hear listens early ?_
  rw [opens]
  refine plays_collect opened ?_ ?_ fun activity => ?_
  · rintro rfl
    simp [Frame.length, blockSize] at whole
    omega
  · rw [mode_eq, ← whole, List.length_cons, Nat.add_comm]
    rfl
  · rw [receiveFrame_activity]
    exact plays

end Opening

/-- Through some items, every receiver that awaits a packet comes to await one again. -/
def Leads (stock : Stock) (count : Nat) (items : List (ScriptItem Rat)) (reports : List Nat)
    (later : Stock) (more : Nat) : Prop :=
  ∀ (receiver : Receiver Rat) (now : Rat) (rest : List (ScriptItem Rat)),
    Awaits stock count now receiver →
    ∃ after instant, Plays ⟨receiver, now, items ++ rest⟩ reports ⟨after, instant, rest⟩ ∧
      Awaits later more instant after

section Leading

variable {stock middle later : Stock} {count more most : Nat} {front back : List (ScriptItem Rat)}
  {reports others : List Nat}

theorem leads_nil : Leads stock count [] [] stock count :=
  fun _ _ _ awaits => ⟨_, _, .rest _, awaits⟩

theorem Leads.append (leads : Leads stock count front reports middle more)
    (continues : Leads middle more back others later most) :
    Leads stock count (front ++ back) (reports ++ others) later most := by
  intro receiver now rest awaits
  obtain ⟨between, instant, plays, awaits⟩ := leads _ _ (back ++ rest) awaits
  obtain ⟨after, last, more_plays, awaits⟩ := continues _ _ rest awaits
  rw [List.append_assoc]
  exact ⟨after, last, plays.trans more_plays, awaits⟩

theorem leads_noise {value : UInt8} (noise : value ∉ announcements) :
    Leads stock count [.byte value] [] stock count := by
  intro receiver now rest awaits
  obtain ⟨deadline, listens, early⟩ := awaits.listens
  refine ⟨receiver, now, plays_hear listens early ?_, awaits⟩
  rw [heard_of_noise noise]
  exact .rest _

theorem leads_pause (patient : count + 1 < stock.setup.policy.maxHandshakeAttempts) :
    Leads stock count [.silence] [] stock (count + 1) := by
  intro receiver now rest awaits
  obtain ⟨deadline, listens, early⟩ := awaits.listens
  obtain ⟨expects, _, rfl, counted⟩ := awaits
  have lasts : receiver.silences + 1 < receiver.setup.policy.maxHandshakeAttempts :=
    Nat.lt_of_le_of_lt (Nat.succ_le_succ counted) patient
  have between := (between_heardNothing (now + (deadline - now)) expects lasts).weaken
    (Nat.succ_le_succ counted)
  obtain ⟨after, plays, awaits⟩ := between.exists_awaits
  exact ⟨after, _, plays_expire listens early plays, awaits⟩

theorem leads_fragment {raw : List UInt8} (first : raw.head? = some startOfBlock)
    (short : raw.length < Frame.length stock.setup.mode)
    (patient : count + 1 < stock.setup.policy.maxHandshakeAttempts) :
    Leads stock count (raw.map .byte ++ [.silence]) [] stock (count + 1) := by
  intro receiver now rest awaits
  obtain ⟨bytes, rfl⟩ := List.head?_eq_some_iff.mp first
  obtain ⟨deadline, listens, early⟩ := awaits.listens
  obtain ⟨opened, met, stock_eq, fresh, opens⟩ := exists_opened now awaits.expects
  rw [awaits.stock_eq] at stock_eq
  subst stock_eq
  have once : opened.idlePeriods + 1 ≤ count + 1 := Nat.succ_le_succ (fresh ▸ count.zero_le)
  have between := (between_idle (now + opened.setup.policy.byteTimeout) met
    (once.trans_lt patient) (.partialFrame (#[startOfBlock] ++ bytes.toArray).size)).weaken once
  obtain ⟨later, plays, awaits⟩ := between.exists_awaits
  refine ⟨later, _, ?_, awaits⟩
  rw [List.append_assoc]
  refine plays_hear listens early ?_
  rw [opens]
  refine plays_collect_part opened ?_ (plays_of_meets (by simp) .silence ?_)
  · rw [List.length_cons, Nat.add_comm] at short
    exact short
  · rw [next_collecting_silence rfl]
    exact plays

/-- Whatever arrives on a line that is not quiet is dropped. -/
theorem plays_drain {receiver : Receiver Rat} {now deadline : Rat} {items : List (ScriptItem Rat)}
    {after : Cue (Receiver Rat) Rat} (drains : receiver.activity = .draining deadline)
    (early : now < deadline) (drained : List UInt8)
    (plays : Plays ⟨receiver.reject.1, now + receiver.setup.policy.purgeTimeout, items⟩ reports
      after) :
    Plays ⟨receiver, now, drained.map .byte ++ .silence :: items⟩ reports after := by
  have acts : Session.action receiver now = .read receiver.setup.policy.purgeTimeout := by
    simp [Session.action, action, drains, early]
  have other : receiver.activity ≠ .writing .acceptance := by simp [drains]
  induction drained with
  | nil =>
      refine plays_of_meets other (by rw [acts]; exact .silence) ?_
      rw [next_draining_silence drains]
      exact plays
  | cons byte drained induction =>
      refine plays_of_meets other (by rw [acts]; exact .byte) ?_
      rw [next_draining_byte drains]
      exact induction

theorem leads_damage {raw : List UInt8} {error : FrameError}
    (first : raw.head? = some startOfBlock) (whole : raw.length = Frame.length stock.setup.mode)
    (damaged : Frame.decode stock.setup.mode raw = .error error) (drained : List UInt8) :
    Leads stock count (raw.map .byte ++ (drained.map .byte ++ [.silence])) [] stock count := by
  intro receiver now rest awaits
  obtain ⟨opened, met, rfl, fresh, opens⟩ := awaits.exists_opened first whole
    (drained.map .byte ++ .silence :: rest)
  have decoded : Frame.decode opened.setup.mode raw = .error error := damaged
  have early := opened.setup.policy.lt_add_handshakeTimeout now
  have refuses : (opened.receiveFrame now raw).1 =
      { opened with
        metrics := opened.metrics.refused
        activity := .draining (now + opened.setup.policy.handshakeTimeout) } := by
    simp only [receiveFrame, decoded]
    rfl
  have between : Between opened.stock count
      { opened with metrics := opened.metrics.refused, activity := .between } :=
    ⟨.inr met, rfl, rfl, (if_neg met.ne_awaitingStart).trans_le (fresh ▸ count.zero_le)⟩
  obtain ⟨after, plays, awaits⟩ := between.exists_awaits
  refine ⟨after, _, ?_, awaits⟩
  simp only [List.append_assoc, List.singleton_append]
  refine opens ?_
  rw [refuses]
  exact plays_drain rfl early drained (plays_write rfl (by simp) plays)

theorem leads_repetition {block : Block} (last : stock.lastAccepted = some block.number)
    (unexpected : block.number ≠ stock.expectedBlock) :
    Leads stock count ((Frame.encode stock.setup.mode block).map .byte) [] stock count := by
  intro receiver now rest awaits
  obtain ⟨opened, met, rfl, fresh, opens⟩ := awaits.exists_opened rfl
    (Frame.length_encode stock.setup.mode block) rest
  have repeats : (opened.receiveFrame now (Frame.encode opened.stock.setup.mode block)).1 =
      { opened with
        metrics := opened.metrics.repeated
        activity := .writing .repetition } := by
    change (opened.receiveFrame now (Frame.encode opened.setup.mode block)).1 = _
    have other : block.number ≠ opened.expectedBlock := unexpected
    have again : opened.lastAccepted = some block.number := last
    simp only [receiveFrame, Frame.decode_encode, receiveBlock, other, again, if_false, if_true]
    rfl
  have between : Between opened.stock count
      { opened with metrics := opened.metrics.repeated, activity := .between } :=
    ⟨.inr met, rfl, rfl, (if_neg met.ne_awaitingStart).trans_le (fresh ▸ count.zero_le)⟩
  obtain ⟨after, plays, awaits⟩ := between.exists_awaits
  refine ⟨after, _, opens ?_, awaits⟩
  rw [repeats]
  exact plays_write rfl (by simp) plays

theorem stock_accept {receiver : Receiver Rat} {block : Block}
    (roomy : receiver.hasRoomFor block.payload = true) :
    (receiver.accept block).1.activity = .writing .acceptance ∧
      (receiver.accept block).1.idlePeriods = receiver.idlePeriods ∧
      (receiver.accept block).1.stock = receiver.stock.store block := by
  have same : receiver.stock.receiver.hasRoomFor block.payload = true := roomy
  simp only [Stock.store, accept, roomy, same, if_true, true_and]
  rfl

theorem plays_announce {receiver : Receiver Rat} {now : Rat} {items : List (ScriptItem Rat)}
    {after : Cue (Receiver Rat) Rat} (writes : receiver.activity = .writing .acceptance)
    (plays : Plays ⟨{ receiver with phase := receiver.waitingPhase, activity := .between }, now,
      items⟩ reports after) :
    Plays ⟨receiver, now, items⟩ (receiver.cursor :: reports) after := by
  have acts : Session.action receiver now = .write [Signal.byte .acknowledge] := by
    simp [Session.action, action, writes, Writing.byte]
  have wrote : Session.next receiver now .written =
      ({ receiver with phase := receiver.waitingPhase, activity := .between },
        [.progress .received receiver.cursor, .stepped
          { receiver with phase := receiver.waitingPhase, activity := .between }.status]) := by
    rw [session_next, next_written writes]
    rfl
  have meets : Meets (Session.action receiver now) now items .written now items :=
    acts ▸ .written
  have step : Plays ⟨receiver, now, items⟩ _ after := .step meets (by rw [wrote]; exact plays)
  rw [wrote] at step
  exact step

theorem leads_block {block : Block} (expected : block.number = stock.expectedBlock)
    (roomy : stock.receiver.hasRoomFor block.payload = true) :
    Leads stock count ((Frame.encode stock.setup.mode block).map .byte)
      [(stock.store block).cursor] (stock.store block) 0 := by
  intro receiver now rest awaits
  obtain ⟨opened, met, rfl, fresh, opens⟩ := awaits.exists_opened rfl
    (Frame.length_encode stock.setup.mode block) rest
  have accepts : (opened.receiveFrame now (Frame.encode opened.stock.setup.mode block)).1 =
      (opened.accept block).1 := by
    change (opened.receiveFrame now (Frame.encode opened.setup.mode block)).1 = _
    have next : block.number = opened.expectedBlock := expected
    simp only [receiveFrame, Frame.decode_encode, receiveBlock, next, if_true]
  have room : opened.hasRoomFor block.payload = true := roomy
  obtain ⟨writes, idle_eq, stock_eq⟩ := stock_accept room
  generalize (opened.accept block).1 = stored at accepts writes idle_eq stock_eq
  have later_met : Met { stored with phase := stored.waitingPhase, activity := .between } := by
    simp only [Met, waitingPhase]
    split <;> simp
  have between : Between (opened.stock.store block) 0
      { stored with phase := stored.waitingPhase, activity := .between } :=
    ⟨.inr later_met, rfl, stock_eq,
      (silences_of_met later_met).trans_le (idle_eq.trans fresh).le⟩
  obtain ⟨after, plays, awaits⟩ := between.exists_awaits
  refine ⟨after, _, opens ?_, awaits⟩
  rw [accepts, ← stock_eq]
  exact plays_announce writes plays

end Leading

section Ending

variable {stock : Stock} {count : Nat} {receiver : Receiver Rat} {now : Rat}

theorem Awaits.exists_full (awaits : Awaits stock count now receiver) {block : Block}
    (expected : block.number = stock.expectedBlock)
    (full : ¬ stock.receiver.hasRoomFor block.payload = true) (items : List (ScriptItem Rat)) :
    ∃ after : Receiver Rat,
      Plays ⟨receiver, now, (Frame.encode stock.setup.mode block).map .byte ++ items⟩ []
        ⟨after, now, items⟩ ∧
      after.activity = .ended (.error ⟨.noRoom block.number stock.cursor stock.destination.capacity,
        { stock.receiver with phase := .aborted }.transferred⟩) ∧
      after.destination = stock.destination := by
  obtain ⟨opened, met, rfl, fresh, opens⟩ := awaits.exists_opened rfl
    (Frame.length_encode stock.setup.mode block) items
  let cause : AbortCause := .noRoom block.number opened.cursor opened.capacity
  have refuses : (opened.receiveFrame now (Frame.encode opened.stock.setup.mode block)).1 =
      (opened.abortNotifying cause).1 := by
    change (opened.receiveFrame now (Frame.encode opened.setup.mode block)).1 = _
    have next : block.number = opened.expectedBlock := expected
    have no_room : ¬ opened.hasRoomFor block.payload = true := full
    simp only [receiveFrame, Frame.decode_encode, receiveBlock, next, if_true, accept,
      if_neg no_room]
    simp only [cause, ← next]
  refine ⟨((opened.abortNotifying cause).1.wrote now (.cancel cause)).1, opens ?_, rfl, rfl⟩
  rw [refuses]
  exact plays_write rfl (by simp) (.rest _)

theorem Awaits.exists_completed (awaits : Awaits stock count now receiver)
    (unconfirmed : stock.setup.confirmEot = false) (items : List (ScriptItem Rat)) :
    ∃ after : Receiver Rat,
      Plays ⟨receiver, now, .byte (Signal.byte .endOfTransmission) :: items⟩ []
        ⟨after, now, items⟩ ∧
      after.activity = .ended (.ok { stock.receiver with phase := .completed }.transferred) ∧
      after.destination = stock.destination := by
  obtain ⟨deadline, listens, early⟩ := awaits.listens
  have met_stock : receiver.meetSender.1.stock = stock := stock_meetSender.trans awaits.stock_eq
  have heard : (receiver.heard now (Signal.byte .endOfTransmission)).1 =
      receiver.meetSender.1.endOfTransmission.1 := rfl
  generalize receiver.meetSender.1 = later at met_stock heard
  subst met_stock
  have once : ¬ (later.setup.confirmEot = true ∧ ¬ later.eotPending = true) := by
    have asks : later.setup.confirmEot = false := unconfirmed
    simp [asks]
  rw [endOfTransmission, if_neg once] at heard
  let closing : Receiver Rat :=
    { later with idlePeriods := 0, phase := .completed, activity := .between }
  refine ⟨(closing.complete now).1, plays_hear listens early ?_, rfl, rfl⟩
  rw [heard]
  refine plays_write rfl (by simp) (plays_proceed ?_ rfl (.rest _))
  rintro ⟨⟩

end Ending

end Receiver
end Xmodem
