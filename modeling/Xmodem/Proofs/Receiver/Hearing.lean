import Mathlib.Data.List.Induction
import Xmodem.Proofs.Receiver.Stages

/-!
# What a receiver hears

The signs so far tell what a receiver makes of the next byte: it may begin a packet, belong to a
frame, or be drained.  They tell the messages that the receiver got, what it wrote before the first
packet and since, and how many waits were in vain.
-/

namespace Xmodem
namespace Receiver

/-- What becomes of the next byte. -/
inductive Attention where
  /-- It may begin a packet. -/
  | packet
  /-- It belongs to a frame; the bytes so far. -/
  | frame (raw : List UInt8)
  /-- It is drained. -/
  | drain
  deriving DecidableEq, Repr

/-- What a sender tells a receiver. -/
inductive Message where
  /-- All bytes of a frame. -/
  | frame (raw : List UInt8)
  /-- The end of transmission, whether or not the packet before was the same. -/
  | endOfTransmission (again : Bool)
  deriving DecidableEq, Repr

/-- What the signs tell about a receiver. -/
structure Hearing where
  /-- What becomes of the next byte. -/
  attention : Attention
  /-- The bytes that began packets, in order. -/
  openings : List UInt8
  /-- The messages, in order. -/
  messages : List Message
  /-- What was written before the first packet began. -/
  requests : List (List UInt8)
  /-- What was written since. -/
  replies : List (List UInt8)
  /-- Number of idle periods since the last message. -/
  lapses : Nat
  /-- Number of idle periods since the last packet began. -/
  recent : Nat
  deriving DecidableEq, Repr

namespace Hearing

/-- A frame begins. -/
def beginFrame (hearing : Hearing) : Hearing :=
  { hearing with
    attention := .frame [startOfBlock]
    openings := hearing.openings ++ [startOfBlock]
    recent := 0 }

/-- The end of transmission is announced. -/
def finish (hearing : Hearing) : Hearing :=
  let value := Signal.byte .endOfTransmission
  { hearing with
    openings := hearing.openings ++ [value]
    messages := hearing.messages ++ [.endOfTransmission (hearing.openings.getLast? = some value)]
    lapses := 0
    recent := 0 }

/-- All bytes of a frame have arrived. -/
def complete (hearing : Hearing) (mode : ChecksumMode) (raw : List UInt8) : Hearing :=
  { hearing with
    attention := match Frame.decode mode raw with
      | .ok _ => .packet
      | .error _ => .drain
    messages := hearing.messages ++ [.frame raw]
    lapses := 0 }

/-- A byte arrives. -/
def hear (hearing : Hearing) (mode : ChecksumMode) (value : UInt8) : Hearing :=
  match hearing.attention with
  | .packet =>
      if value = startOfBlock then hearing.beginFrame
      else if value = Signal.byte .endOfTransmission then hearing.finish
      else hearing
  | .frame raw =>
      if (raw ++ [value]).length < Frame.length mode then
        { hearing with attention := .frame (raw ++ [value]) }
      else
        hearing.complete mode (raw ++ [value])
  | .drain => hearing

/-- An idle period ends. -/
def idle (hearing : Hearing) : Hearing :=
  { hearing with
    attention := .packet
    lapses := hearing.lapses + 1
    recent := hearing.recent + 1 }

/-- A wait is over before anything arrived.  It is an idle period once the sender was met, unless
it ends the draining. -/
def lapse (hearing : Hearing) : Hearing :=
  match hearing.attention with
  | .packet => if hearing.openings = [] then hearing else hearing.idle
  | .frame _ => hearing.idle
  | .drain => { hearing with attention := .packet }

/-- Bytes are handed to the line. -/
def write (hearing : Hearing) (bytes : List UInt8) : Hearing :=
  if hearing.openings = [] then { hearing with requests := hearing.requests ++ [bytes] }
  else { hearing with replies := hearing.replies ++ [bytes] }

/-- Take account of one more sign. -/
def note (mode : ChecksumMode) (hearing : Hearing) : Sign → Hearing
  | .wrote bytes | .spoiled bytes => hearing.write bytes
  | .heard value => hearing.hear mode value
  | .silence => hearing.lapse
  | .broken => { hearing with attention := .packet }

section Laws

variable {mode : ChecksumMode} {hearing : Hearing} {value : UInt8} {raw : List UInt8}

theorem hear_startOfBlock (listens : hearing.attention = .packet) :
    hearing.hear mode startOfBlock = hearing.beginFrame := by
  simp only [hear, listens, if_true]

theorem hear_endOfTransmission (listens : hearing.attention = .packet) :
    hearing.hear mode (Signal.byte .endOfTransmission) = hearing.finish := by
  have differs : Signal.byte .endOfTransmission ≠ startOfBlock := by decide
  simp only [hear, listens, differs, if_true, if_false]

theorem hear_other (listens : hearing.attention = .packet) (data : value ≠ startOfBlock)
    (ends : value ≠ Signal.byte .endOfTransmission) : hearing.hear mode value = hearing := by
  simp only [hear, listens, data, ends, if_false]

theorem hear_frame (collects : hearing.attention = .frame raw) :
    hearing.hear mode value =
      if (raw ++ [value]).length < Frame.length mode then
        { hearing with attention := .frame (raw ++ [value]) }
      else hearing.complete mode (raw ++ [value]) := by
  simp only [hear, collects]

theorem hear_drain (drains : hearing.attention = .drain) :
    hearing.hear mode value = hearing := by
  simp only [hear, drains]

theorem lapse_unopened (listens : hearing.attention = .packet) (unopened : hearing.openings = []) :
    hearing.lapse = hearing := by
  simp only [lapse, listens, unopened, if_true]

theorem lapse_opened (listens : hearing.attention = .packet) (opened : hearing.openings ≠ []) :
    hearing.lapse = hearing.idle := by
  simp only [lapse, listens, opened, if_false]

theorem lapse_frame (collects : hearing.attention = .frame raw) :
    hearing.lapse = hearing.idle := by
  simp only [lapse, collects]

theorem lapse_drain (drains : hearing.attention = .drain) :
    hearing.lapse = { hearing with attention := .packet } := by
  simp only [lapse, drains]

@[simp]
theorem openings_write (bytes : List UInt8) :
    (hearing.write bytes).openings = hearing.openings := by
  unfold write
  split <;> rfl

@[simp]
theorem recent_write (bytes : List UInt8) : (hearing.write bytes).recent = hearing.recent := by
  unfold write
  split <;> rfl

@[simp]
theorem attention_write (bytes : List UInt8) :
    (hearing.write bytes).attention = hearing.attention := by
  unfold write
  split <;> rfl

/-- What a sign can tell: nothing new about packets, or that one begins or is complete, or that an
idle period ends. -/
inductive Notes (mode : ChecksumMode) (hearing : Hearing) : Sign → Hearing → Prop
  | keep {sign : Sign} {later : Hearing} :
      later.openings = hearing.openings → later.messages = hearing.messages →
      later.lapses = hearing.lapses → later.recent = hearing.recent →
      (∀ raw, later.attention = .frame raw → ∃ before, hearing.attention = .frame before) →
      Notes mode hearing sign later
  | begin :
      hearing.attention = .packet → Notes mode hearing (.heard startOfBlock) hearing.beginFrame
  | finish :
      hearing.attention = .packet →
      Notes mode hearing (.heard (Signal.byte .endOfTransmission)) hearing.finish
  | complete {raw : List UInt8} {value : UInt8} :
      hearing.attention = .frame raw →
      Notes mode hearing (.heard value) (hearing.complete mode (raw ++ [value]))
  | idle :
      hearing.attention = .packet ∧ hearing.openings ≠ [] ∨
        (∃ raw, hearing.attention = .frame raw) →
      Notes mode hearing .silence hearing.idle

theorem Notes.refl (mode : ChecksumMode) (hearing : Hearing) (sign : Sign) :
    Notes mode hearing sign hearing :=
  .keep rfl rfl rfl rfl fun raw collects => ⟨raw, collects⟩

theorem notes_write (mode : ChecksumMode) (hearing : Hearing) (sign : Sign) (bytes : List UInt8) :
    Notes mode hearing sign (hearing.write bytes) := by
  unfold write
  split
  · exact .keep rfl rfl rfl rfl fun raw collects => ⟨raw, collects⟩
  · exact .keep rfl rfl rfl rfl fun raw collects => ⟨raw, collects⟩

theorem notes_hear (mode : ChecksumMode) (hearing : Hearing) (value : UInt8) :
    Notes mode hearing (.heard value) (hearing.hear mode value) := by
  cases attentive : hearing.attention with
  | packet =>
      by_cases data : value = startOfBlock
      · subst data
        rw [hear_startOfBlock attentive]
        exact .begin attentive
      by_cases ends : value = Signal.byte .endOfTransmission
      · subst ends
        rw [hear_endOfTransmission attentive]
        exact .finish attentive
      rw [hear_other attentive data ends]
      exact .refl ..
  | frame raw =>
      rw [hear_frame attentive]
      split
      · exact .keep rfl rfl rfl rfl fun _ _ => ⟨raw, attentive⟩
      · exact .complete attentive
  | drain =>
      rw [hear_drain attentive]
      exact .refl ..

theorem notes_lapse (mode : ChecksumMode) (hearing : Hearing) :
    Notes mode hearing .silence hearing.lapse := by
  cases attentive : hearing.attention with
  | packet =>
      by_cases unopened : hearing.openings = []
      · rw [lapse_unopened attentive unopened]
        exact .refl ..
      · rw [lapse_opened attentive unopened]
        exact .idle (.inl ⟨attentive, unopened⟩)
  | frame raw =>
      rw [lapse_frame attentive]
      exact .idle (.inr ⟨raw, attentive⟩)
  | drain =>
      rw [lapse_drain attentive]
      exact .keep rfl rfl rfl rfl nofun

theorem notes_note (mode : ChecksumMode) (hearing : Hearing) (sign : Sign) :
    Notes mode hearing sign (hearing.note mode sign) := by
  cases sign with
  | wrote bytes | spoiled bytes => exact notes_write ..
  | heard value => exact notes_hear ..
  | silence => exact notes_lapse ..
  | broken => exact .keep rfl rfl rfl rfl nofun

end Laws

end Hearing

/-- What signs tell about a receiver. -/
def hearing (mode : ChecksumMode) (signs : List Sign) : Hearing :=
  signs.foldl (Hearing.note mode) ⟨.packet, [], [], [], [], 0, 0⟩

@[simp]
theorem hearing_append_singleton (mode : ChecksumMode) (signs : List Sign) (sign : Sign) :
    hearing mode (signs ++ [sign]) = (hearing mode signs).note mode sign := by
  simp [hearing]

theorem exists_of_messages {mode : ChecksumMode} {signs : List Sign} {earlier : List Message}
    {again : Bool}
    (same : (hearing mode signs).messages = earlier ++ [.endOfTransmission again]) :
    ∃ before after, signs = before ++ .heard (Signal.byte .endOfTransmission) :: after ∧
      (hearing mode before).attention = .packet ∧ (hearing mode before).messages = earlier ∧
      again = decide ((hearing mode before).openings.getLast? =
        some (Signal.byte .endOfTransmission)) := by
  induction signs using List.reverseRecOn with
  | nil =>
      exact absurd same.symm (List.append_ne_nil_of_right_ne_nil earlier (List.cons_ne_nil _ _))
  | append_singleton signs sign induction =>
      have goes_on (same : (hearing mode signs).messages =
          earlier ++ [.endOfTransmission again]) :
          ∃ before after,
            signs ++ [sign] = before ++ .heard (Signal.byte .endOfTransmission) :: after ∧
            (hearing mode before).attention = .packet ∧ (hearing mode before).messages = earlier ∧
            again = decide ((hearing mode before).openings.getLast? =
              some (Signal.byte .endOfTransmission)) := by
        obtain ⟨before, after, cut, rest⟩ := induction same
        exact ⟨before, after ++ [sign], by simp [cut], rest⟩
      have notes := (hearing mode signs).notes_note mode sign
      rw [hearing_append_singleton] at same
      generalize (hearing mode signs).note mode sign = later at notes same
      cases notes with
      | keep _ messages_eq _ _ _ => exact goes_on (messages_eq ▸ same)
      | begin _ | idle _ => exact goes_on same
      | finish attentive =>
          obtain ⟨messages_eq, again_eq⟩ := List.append_singleton_inj.mp same
          exact ⟨signs, [], rfl, attentive, messages_eq,
            (Message.endOfTransmission.inj again_eq).symm⟩
      | complete _ => exact absurd (List.append_singleton_inj.mp same).2 nofun

variable {τ : Type} [Quantity τ]

/-- What a receiver makes of the next byte. -/
def Activity.attention : Activity τ → Attention
  | .collecting raw => .frame raw.toList
  | .draining _ => .drain
  | .idle | .between | .listening _ | .writing _ | .ended _ => .packet

/-- Whether a receiver is what the signs tell about it. -/
structure Hears (hearing : Hearing) (receiver : Receiver τ) : Prop where
  attention_eq : hearing.attention = receiver.activity.attention
  unopened : receiver.phase = .awaitingStart → hearing.openings = []
  opened : receiver.phase ≠ .awaitingStart → (∀ outcome, receiver.activity ≠ .ended outcome) →
    hearing.openings ≠ []
  recent_eq : receiver.idlePeriods = hearing.recent
  pending_iff : receiver.eotPending = true ↔
    receiver.setup.confirmEot = true ∧
      hearing.openings.getLast? = some (Signal.byte .endOfTransmission)

section Reactions

variable {hearing later : Hearing} {receiver after : Receiver τ} {now deadline : τ}
  {sign : Option Sign} {result : Receiver τ × List (Event τ)}

theorem Hears.attention_of (hears : Hears hearing receiver) {activity : Activity τ}
    (doing : receiver.activity = activity) : hearing.attention = activity.attention :=
  hears.attention_eq.trans (congrArg Activity.attention doing)

theorem meetSender_phase_ne (receiver : Receiver τ) :
    receiver.meetSender.1.phase ≠ .awaitingStart := by
  unfold meetSender
  split
  · unfold waitingPhase
    split <;> exact nofun
  · assumption

theorem meetSender_eq (receiver : Receiver τ) :
    receiver.meetSender.1 = { receiver with phase := receiver.meetSender.1.phase } := by
  unfold meetSender
  split <;> rfl

theorem Hears.keep (hears : Hears hearing receiver)
    (going : ∀ outcome, receiver.activity ≠ .ended outcome)
    (openings_eq : later.openings = hearing.openings) (same : later.recent = hearing.recent)
    (attention_eq : later.attention = after.activity.attention)
    (phase_iff : after.phase = .awaitingStart ↔ receiver.phase = .awaitingStart)
    (setup_eq : after.setup = receiver.setup) (idle_eq : after.idlePeriods = receiver.idlePeriods)
    (pending_eq : after.eotPending = receiver.eotPending) : Hears later after where
  attention_eq := attention_eq
  unopened calls := openings_eq.trans (hears.unopened (phase_iff.mp calls))
  opened begun _ := by
    rw [openings_eq]
    exact hears.opened (fun calls => begun (phase_iff.mpr calls)) going
  recent_eq := idle_eq.trans (hears.recent_eq.trans same.symm)
  pending_iff := by
    rw [pending_eq, setup_eq, openings_eq]
    exact hears.pending_iff

theorem Hears.abort (hears : Hears hearing receiver) (cause : AbortCause) :
    Hears { hearing with attention := .packet } (receiver.abort now cause).1 where
  attention_eq := rfl
  unopened := nofun
  opened _ going := absurd rfl (going _)
  recent_eq := hears.recent_eq
  pending_iff := hears.pending_iff

theorem Hears.abort_of_packet (hears : Hears hearing receiver)
    (listens : hearing.attention = .packet) (cause : AbortCause) :
    Hears hearing (receiver.abort now cause).1 := by
  have same : { hearing with attention := .packet } = hearing := by
    rw [← listens]
  rw [← same]
  exact hears.abort cause

theorem Hears.idle (hears : Hears hearing receiver)
    (opened : hearing.openings ≠ []) (begun : receiver.phase ≠ .awaitingStart)
    (idleness : Idleness) : Hears hearing.idle (receiver.idle now idleness).1 := by
  have counted : receiver.idlePeriods + 1 = hearing.recent + 1 := congrArg (· + 1) hears.recent_eq
  have lapses (after : Receiver τ) (attention_eq : .packet = after.activity.attention)
      (begun : after.phase ≠ .awaitingStart) (setup_eq : after.setup = receiver.setup)
      (idle_eq : after.idlePeriods = receiver.idlePeriods + 1)
      (pending_eq : after.eotPending = receiver.eotPending) : Hears hearing.idle after :=
    { attention_eq := attention_eq
      unopened := fun calls => absurd calls begun
      opened := fun _ _ => opened
      recent_eq := idle_eq.trans counted
      pending_iff := by
        rw [setup_eq, pending_eq]
        exact hears.pending_iff }
  obtain ⟨_, becomes⟩ | ⟨_, becomes⟩ := receiver.idle_cases now idleness
  · rw [becomes]
    exact lapses _ rfl begun rfl rfl rfl
  · rw [becomes]
    exact lapses _ rfl nofun rfl rfl rfl

theorem Hears.heard (hears : Hears hearing receiver)
    (listens : receiver.activity = .listening deadline) (mode : ChecksumMode) (value : UInt8) :
    Hears (hearing.hear mode value) (receiver.heard now value).1 := by
  have attentive := hears.attention_of listens
  have met := receiver.meetSender_phase_ne
  obtain ⟨rfl, becomes⟩ | ⟨rfl, becomes⟩ | ⟨rfl, cause, _, becomes⟩ | ⟨noise, becomes⟩ :=
    receiver.heard_cases now value
  · rw [becomes, Hearing.hear_startOfBlock attentive]
    exact
      { attention_eq := rfl
        unopened := fun calls => absurd calls met
        opened := fun _ _ => List.append_ne_nil_of_right_ne_nil _ (List.cons_ne_nil _ _)
        recent_eq := rfl
        pending_iff := by simp [openFrame, Hearing.beginFrame, startOfBlock, Signal.byte] }
  · rw [becomes, Hearing.hear_endOfTransmission attentive]
    have setup_eq : receiver.meetSender.1.setup = receiver.setup := by
      rw [meetSender_eq]
    have pending_eq : receiver.meetSender.1.eotPending = receiver.eotPending := by
      rw [meetSender_eq]
    unfold endOfTransmission
    split
    · rename_i confirms
      exact
        { attention_eq := hears.attention_eq.trans (by rw [listens]; rfl)
          unopened := fun calls => absurd calls met
          opened := fun _ _ => List.append_ne_nil_of_right_ne_nil _ (List.cons_ne_nil _ _)
          recent_eq := rfl
          pending_iff := by simp [Hearing.finish, confirms.1] }
    · rename_i settled
      exact
        { attention_eq := hears.attention_eq.trans (by rw [listens]; rfl)
          unopened := fun calls => absurd calls met
          opened := fun _ _ => List.append_ne_nil_of_right_ne_nil _ (List.cons_ne_nil _ _)
          recent_eq := rfl
          pending_iff := by
            rw [not_and, not_not] at settled
            have pending := hears.pending_iff
            rw [setup_eq, pending_eq] at settled
            simp only [setup_eq, pending_eq, Hearing.finish, List.getLast?_append,
              List.getLast?_singleton, Option.some_or, and_true]
            exact ⟨fun pends => (pending.mp pends).1, settled⟩ }
  · have differs : Signal.byte .cancel ≠ startOfBlock ∧
        Signal.byte .cancel ≠ Signal.byte .endOfTransmission := by decide
    rw [becomes, Hearing.hear_other attentive differs.1 differs.2]
    exact hears.abort_of_packet attentive cause
  · simp only [announcements, List.mem_cons, List.not_mem_nil, or_false, not_or] at noise
    rw [becomes, Hearing.hear_other attentive noise.1 noise.2.1]
    exact hears

theorem Hears.heardNothing (hears : Hears hearing receiver)
    (listens : receiver.activity = .listening deadline) :
    Hears hearing.lapse (receiver.heardNothing now).1 := by
  have attentive := hears.attention_of listens
  have going : ∀ outcome, receiver.activity ≠ .ended outcome := by
    simp [listens]
  by_cases calls : receiver.phase = .awaitingStart
  · have counted : Hears hearing receiver.unheard :=
      hears.keep going rfl rfl hears.attention_eq Iff.rfl rfl rfl rfl
    rw [Hearing.lapse_unopened attentive (hears.unopened calls)]
    obtain ⟨_, becomes⟩ | ⟨_, becomes⟩ := receiver.heardNothing_cases now calls
    · rw [becomes]
      exact hears.keep going rfl rfl attentive Iff.rfl rfl rfl rfl
    · rw [becomes]
      exact counted.abort_of_packet attentive _
  · have idles : receiver.heardNothing now = receiver.idle now .noBlock := if_neg calls
    have opened := hears.opened calls going
    rw [Hearing.lapse_opened attentive opened, idles]
    exact hears.idle opened calls .noBlock

theorem Hears.receiveFrame (hears : Hears hearing receiver)
    (begun : receiver.phase ≠ .awaitingStart)
    (going : ∀ outcome, receiver.activity ≠ .ended outcome) (raw : List UInt8) :
    Hears (hearing.complete receiver.setup.mode raw) (receiver.receiveFrame now raw).1 := by
  have goes_on (later : Hearing) (after : Receiver τ)
      (openings_eq : later.openings = hearing.openings) (same : later.recent = hearing.recent)
      (attention_eq : later.attention = after.activity.attention)
      (phase_ne : after.phase ≠ .awaitingStart) (setup_eq : after.setup = receiver.setup)
      (idle_eq : after.idlePeriods = receiver.idlePeriods)
      (pending_eq : after.eotPending = receiver.eotPending) : Hears later after :=
    hears.keep going openings_eq same attention_eq (iff_of_false phase_ne begun) setup_eq idle_eq
      pending_eq
  unfold Receiver.receiveFrame Hearing.complete
  cases decoded : Frame.decode receiver.setup.mode raw with
  | error error => exact goes_on _ _ rfl rfl rfl begun rfl rfl rfl
  | ok block =>
      simp only
      unfold receiveBlock accept
      split
      · split
        · exact goes_on _ _ rfl rfl rfl begun rfl rfl rfl
        · exact goes_on _ _ rfl rfl rfl nofun rfl rfl rfl
      · split
        · exact goes_on _ _ rfl rfl rfl begun rfl rfl rfl
        · exact goes_on _ _ rfl rfl rfl nofun rfl rfl rfl

theorem Hears.collect (hears : Hears hearing receiver) {raw : Array UInt8}
    (collects : receiver.activity = .collecting raw) (begun : receiver.phase ≠ .awaitingStart)
    (value : UInt8) :
    Hears (hearing.hear receiver.setup.mode value) (receiver.collect now raw value).1 := by
  have attentive := hears.attention_of collects
  have going : ∀ outcome, receiver.activity ≠ .ended outcome := by
    simp [collects]
  have pushed : (raw.push value).toList = raw.toList ++ [value] := Array.toList_push
  rw [Hearing.hear_frame attentive, ← pushed, Array.length_toList]
  unfold Receiver.collect
  by_cases inside : (raw.push value).size < Frame.length receiver.setup.mode
  · rw [if_pos inside, if_pos inside]
    exact hears.keep going rfl rfl rfl Iff.rfl rfl rfl rfl
  · rw [if_neg inside, if_neg inside]
    exact hears.receiveFrame begun going _

theorem Hears.wrote (hears : Hears hearing receiver) {purpose : Writing}
    (writes : receiver.activity = .writing purpose)
    (begun : purpose ≠ .request → receiver.phase ≠ .awaitingStart) (bytes : List UInt8) :
    Hears (hearing.write bytes) (receiver.wrote now purpose).1 := by
  have going : ∀ outcome, receiver.activity ≠ .ended outcome := by
    simp [writes]
  have attentive : (hearing.write bytes).attention = .packet := by
    rw [Hearing.attention_write, hears.attention_eq, writes]
    rfl
  have waits : receiver.waitingPhase ≠ .awaitingStart := by
    unfold waitingPhase
    split <;> exact nofun
  have openings_eq := hearing.openings_write bytes
  have same := hearing.recent_write bytes
  cases purpose with
  | request | repetition | rejection | confirmation =>
      exact hears.keep going openings_eq same attentive Iff.rfl rfl rfl rfl
  | acceptance =>
      exact hears.keep going openings_eq same attentive (iff_of_false waits (begun nofun)) rfl rfl
        rfl
  | completion =>
      exact hears.keep going openings_eq same attentive (iff_of_false nofun (begun nofun)) rfl rfl
        rfl
  | cancel cause => exact hears.keep going openings_eq same attentive Iff.rfl rfl rfl rfl

/-- Every reaction of a receiver keeps it what the signs tell about it. -/
theorem Hears.react (hears : Hears hearing receiver) {setup : Setup τ} {initial : Destination}
    {course : Course} (stands : At setup initial course receiver)
    (reacts : Reacts receiver now sign result) :
    Hears (sign.toList.foldl (Hearing.note setup.mode) hearing) result.1 := by
  have rests := stands.rests_of_calls
  have mode_eq : receiver.setup.mode = setup.mode := congrArg Setup.mode stands.keeps.setup_eq
  rw [← mode_eq]
  cases reacts with
  | wake idle =>
      have attentive := hears.attention_of idle
      exact hears.keep (by simp [idle]) rfl rfl attentive Iff.rfl rfl rfl rfl
  | begin between =>
      have attentive := hears.attention_of between
      have going : ∀ outcome, receiver.activity ≠ .ended outcome := by
        simp [between]
      unfold beginStep
      split
      case h_5 => exact hears
      all_goals exact hears.keep going rfl rfl attentive Iff.rfl rfl rfl rfl
  | hear value listens => exact hears.heard listens receiver.setup.mode value
  | expire listens => exact hears.heardNothing listens
  | collect value collects =>
      have begun : receiver.phase ≠ .awaitingStart := fun calls => by
        simpa [collects] using rests calls
      exact hears.collect collects begun value
  | starve collects =>
      have begun : receiver.phase ≠ .awaitingStart := fun calls => by
        simpa [collects] using rests calls
      have attentive := hears.attention_of collects
      have opened := hears.opened begun (by simp [collects])
      change Hears hearing.lapse _
      rw [Hearing.lapse_frame attentive]
      exact hears.idle opened begun _
  | drain value drains =>
      have attentive := hears.attention_of drains
      change Hears (hearing.hear receiver.setup.mode value) _
      rw [Hearing.hear_drain attentive]
      exact hears
  | reject drains =>
      have attentive := hears.attention_of drains
      change Hears hearing.lapse _
      rw [Hearing.lapse_drain attentive]
      exact hears.keep (by simp [drains]) rfl rfl rfl Iff.rfl rfl rfl rfl
  | «break» fault _ => exact hears.abort _
  | @write purpose writes =>
      refine hears.wrote writes (fun other calls => ?_) _
      simpa [writes, other] using rests calls
  | @spoil purpose fault writes =>
      have attentive := hears.attention_of writes
      have same : Hears (hearing.write [purpose.byte receiver.setup.mode]) receiver :=
        hears.keep (by simp [writes]) (Hearing.openings_write _) (Hearing.recent_write _)
          ((Hearing.attention_write _).trans hears.attention_eq) Iff.rfl rfl rfl rfl
      exact same.abort_of_packet ((Hearing.attention_write _).trans attentive) _

end Reactions

/-- A receiver that was run is what the signs tell about it. -/
theorem hears_of_converses {setup : Setup τ} {initial : Destination} {now : τ}
    {moments : List (Moment (Receiver τ) τ)} {receiver : Receiver τ}
    (talks : Converses (start setup initial now) moments receiver) :
    Hears (hearing setup.mode (transcript waits moments)) receiver := by
  induction talks with
  | silent =>
      exact
        { attention_eq := rfl
          unopened := fun _ => rfl
          opened := fun begun _ => absurd rfl begun
          recent_eq := rfl
          pending_iff := by simp [start, hearing, transcript] }
  | step talks valid induction =>
      obtain ⟨course, _, stands⟩ := exists_treads talks
      have hears := induction.react stands (reacts_of_valid valid)
      rw [transcript_append, transcript_singleton, hearing, List.foldl_append]
      exact hears

end Receiver
end Xmodem
