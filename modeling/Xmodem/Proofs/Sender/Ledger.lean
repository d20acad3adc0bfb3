import Mathlib.Data.Set.Card
import Xmodem.Proofs.Sender.Language

/-!
# What a sender keeps books of

The position, the budget, the checksum, the current packet, and the counters of a sender agree with
what it met so far, at every moment and however it ends.  What it met is told by the signs alone:
how many blocks were acknowledged, which of them went out for the first time, and whether the last
copy of a packet failed.
-/

namespace Xmodem

/-- Whether some element of a list has a property, given those before it. -/
def Sometime {α : Type} (property : List α → α → Prop) (elements : List α) : Prop :=
  ∃ before element after, elements = before ++ element :: after ∧ property before element

theorem not_sometime_nil {α : Type} (property : List α → α → Prop) : ¬ Sometime property [] := by
  rintro ⟨before, element, after, same, -⟩
  exact List.append_ne_nil_of_right_ne_nil before (List.cons_ne_nil _ _) same.symm

@[simp]
theorem sometime_append_singleton {α : Type} (elements : List α) (last : α)
    (property : List α → α → Prop) :
    Sometime property (elements ++ [last]) ↔
      Sometime property elements ∨ property elements last := by
  constructor
  · rintro ⟨before, element, after, same, holds⟩
    obtain rfl | ⟨after, final, rfl⟩ := after.eq_nil_or_concat
    · obtain ⟨rfl, rfl⟩ := List.append_singleton_inj.mp same
      exact .inr holds
    · rw [List.concat_eq_append, ← List.cons_append, ← List.append_assoc] at same
      exact .inl ⟨before, element, after, (List.append_singleton_inj.mp same).1, holds⟩
  · rintro (⟨before, element, after, rfl, holds⟩ | holds)
    · exact ⟨before, element, after ++ [last], by simp, holds⟩
    · exact ⟨elements, last, [], rfl, holds⟩

namespace Sender

open Packets

variable {τ : Type} [Quantity τ]

/-- How many blocks were acknowledged; one more acknowledgement is that of the end of
transmission. -/
def through (source : List UInt8) (signs : List Sign) : Nat :=
  min (tally signs).place (blockCount source)

/-- The places of the blocks that went out for the first time. -/
def introduced (source : List UInt8) (signs : List Sign) : Set Nat :=
  {place | place < blockCount source ∧
    Sometime (fun before sign => (∃ bytes, sign = .wrote bytes) ∧ (tally before).place = place ∧
      (tally before).copies = 0) signs}

/-- Whether the last copy of a packet failed. -/
def Exhausted (policy : RetryPolicy τ) (signs : List Sign) : Prop :=
  Sometime (fun before sign => (tally before).mode ≠ none ∧
    (tally before).copies = policy.maxRetries + 1 ∧ Failure sign) signs

/-- What the books of a sender say after some signs. -/
structure Ledger (policy : RetryPolicy τ) (source : List UInt8) (signs : List Sign)
    (sender : Sender τ) : Prop where
  /-- The cursor is behind the acknowledged blocks. -/
  cursor_eq : sender.cursor = min (blockSize * through source signs) source.length
  number_eq : sender.blockNumber.toNat = (through source signs + 1) % 256
  /-- A sender that is at a block has bytes left. -/
  before_end : sender.phase = .sendingBlock ∨ sender.phase = .awaitingAck →
    sender.cursor < source.length
  /-- A sender that is at the end of transmission, or beyond it, has none. -/
  at_end : sender.phase = .sendingEot ∨ sender.phase = .awaitingEotAck ∨
    sender.phase = .completed → sender.cursor = source.length
  attempts_le : sender.attempts ≤ policy.maxRetries
  /-- Nothing was sent again that is yet to be sent. -/
  attempts_eq : sender.phase = .sendingBlock ∨ sender.phase = .sendingEot ∨
    sender.phase = .completed → sender.attempts = 0
  handshakes_le : sender.handshakeAttempts ≤ policy.maxHandshakeAttempts
  mode_isSome : sender.phase ≠ .awaitingStart → sender.phase ≠ .aborted → sender.mode.isSome
  /-- What was sent, and may be sent again, is the current block. -/
  frame_of_block : sender.phase = .awaitingAck → ∃ mode, sender.mode = some mode ∧
    sender.frame = Frame.encode mode (block source (through source signs))
  frame_of_end : sender.phase = .awaitingEotAck →
    sender.frame = [Signal.byte .endOfTransmission]
  blocks_eq : sender.metrics.blocks = (introduced source signs).ncard
  /-- Every failure but the last one led to one more attempt. -/
  within_budget : ¬ Exhausted policy signs →
    sender.metrics.naks + sender.metrics.timeouts =
      sender.handshakeAttempts + sender.metrics.retransmits
  beyond_budget : Exhausted policy signs →
    sender.metrics.naks + sender.metrics.timeouts =
      sender.handshakeAttempts + sender.metrics.retransmits + 1

/-- What the books depend on. -/
@[ext]
structure Record where
  /-- Checksum asked for. -/
  mode : Option ChecksumMode
  /-- Number of acknowledged blocks. -/
  through : Nat
  /-- The blocks that went out. -/
  introduced : Set Nat
  /-- Whether the budget is spent. -/
  exhausted : Prop

/-- What signs tell about the books. -/
def record (policy : RetryPolicy τ) (source : List UInt8) (signs : List Sign) : Record where
  mode := (tally signs).mode
  through := through source signs
  introduced := introduced source signs
  exhausted := Exhausted policy signs

section Records

variable {policy : RetryPolicy τ} {source : List UInt8} {signs : List Sign} {sign : Sign}
  {mode : ChecksumMode} {place copies : Nat}

theorem mem_introduced_append_singleton :
    place ∈ introduced source (signs ++ [sign]) ↔
      place ∈ introduced source signs ∨ place < blockCount source ∧
        (∃ bytes, sign = .wrote bytes) ∧ (tally signs).place = place ∧
          (tally signs).copies = 0 := by
  simp only [introduced, Set.mem_ofPred_eq, sometime_append_singleton, and_or_left]

theorem exhausted_append_singleton :
    Exhausted policy (signs ++ [sign]) ↔
      Exhausted policy signs ∨ (tally signs).mode ≠ none ∧
        (tally signs).copies = policy.maxRetries + 1 ∧ Failure sign :=
  sometime_append_singleton ..

/-- Some signs tell nothing new: the checksum and the place stay, no block goes out for the first
time, and no last copy fails. -/
theorem record_append_of_same (mode_eq : ((tally signs).note sign).mode = (tally signs).mode)
    (place_eq : min ((tally signs).note sign).place (blockCount source) =
      min (tally signs).place (blockCount source))
    (repeats : ∀ bytes, sign = .wrote bytes → (tally signs).copies = 0 →
      blockCount source ≤ (tally signs).place)
    (bearable : Failure sign → (tally signs).mode ≠ none →
      (tally signs).copies ≠ policy.maxRetries + 1) :
    record policy source (signs ++ [sign]) = record policy source signs := by
  apply Record.ext
  · simp only [record, tally_append_singleton, mode_eq]
  · simp only [record, through, tally_append_singleton, place_eq]
  · ext place
    simp only [record, mem_introduced_append_singleton]
    refine or_iff_left ?_
    rintro ⟨inside, ⟨bytes, writes⟩, rfl, first⟩
    exact absurd inside (Nat.not_lt.mpr (repeats bytes writes first))
  · simp only [record, exhausted_append_singleton, eq_iff_iff]
    refine or_iff_left ?_
    rintro ⟨chosen, spent, failure⟩
    exact bearable failure chosen spent

theorem record_append_broken :
    record policy source (signs ++ [.broken]) = record policy source signs :=
  record_append_of_same rfl rfl nofun (by simp [Failure])

theorem record_append_spoiled (bytes : List UInt8) :
    record policy source (signs ++ [.spoiled bytes]) = record policy source signs :=
  record_append_of_same rfl rfl nofun (by simp [Failure])

theorem record_append_wrote (bytes : List UInt8)
    (again : (tally signs).copies ≠ 0 ∨ blockCount source ≤ (tally signs).place) :
    record policy source (signs ++ [.wrote bytes]) = record policy source signs :=
  record_append_of_same rfl rfl (fun _ _ first => again.resolve_left (absurd first))
    (by simp [Failure])

theorem record_append_uncalled (fresh : tally signs = ⟨none, 0, 0⟩)
    (unasked : ∀ value, sign = .heard value → requested? value = none)
    (unwritten : sign.written? = none) :
    record policy source (signs ++ [sign]) = record policy source signs := by
  refine record_append_of_same ?_ ?_ ?_ ?_
  · cases sign with
    | heard value => simp [fresh, Tally.note, unasked value rfl]
    | wrote | spoiled | silence | broken => simp [fresh, Tally.note]
  · cases sign <;> simp [fresh, Tally.note]
  · rintro bytes rfl
    cases unwritten
  · simp [fresh]

theorem record_append_request (fresh : tally signs = ⟨none, 0, 0⟩) {value : UInt8}
    (asks : requested? value = some mode) :
    record policy source (signs ++ [.heard value]) =
      { record policy source signs with mode := some mode } := by
  apply Record.ext
  · simp [record, fresh, Tally.note, asks]
  · simp [record, through, fresh, Tally.note]
  · ext place
    simp [record, mem_introduced_append_singleton]
  · simp [record, exhausted_append_singleton, fresh]

/-- What a waiting sender hears or misses tells nothing new unless it is an acknowledgement of a
block, or the failure of the last copy. -/
theorem record_append_unmoved (tally_eq : tally signs = ⟨some mode, place, copies⟩)
    (unwritten : sign.written? = none)
    (unmoved : sign = .heard (Signal.byte .acknowledge) → blockCount source ≤ place)
    (bearable : Failure sign → copies ≠ policy.maxRetries + 1) :
    record policy source (signs ++ [sign]) = record policy source signs := by
  refine record_append_of_same ?_ ?_ ?_ ?_
  · cases sign with
    | heard value =>
        by_cases acknowledges : value = Signal.byte .acknowledge
        all_goals simp [tally_eq, Tally.note, acknowledges]
    | wrote | spoiled | silence | broken => simp [tally_eq, Tally.note]
  · cases sign with
    | heard value =>
        by_cases acknowledges : value = Signal.byte .acknowledge
        · have last := unmoved (congrArg Sign.heard acknowledges)
          simp [tally_eq, Tally.note, acknowledges]
          omega
        · simp [tally_eq, Tally.note, acknowledges]
    | wrote | spoiled | silence | broken => simp [tally_eq, Tally.note]
  · rintro bytes rfl
    cases unwritten
  · intro failure _
    rw [tally_eq]
    exact bearable failure

theorem record_append_acknowledged (tally_eq : tally signs = ⟨some mode, place, copies⟩)
    (inside : place < blockCount source) :
    record policy source (signs ++ [.heard (Signal.byte .acknowledge)]) =
      { record policy source signs with through := place + 1 } := by
  apply Record.ext
  · simp [record, tally_eq, Tally.note]
  · simp [record, through, tally_eq, Tally.note]
    omega
  · ext place
    simp [record, mem_introduced_append_singleton]
  · have differs : Signal.byte .acknowledge ≠ Signal.byte .negativeAcknowledge := by decide
    simp [record, exhausted_append_singleton, Failure, differs]

theorem record_append_first (tally_eq : tally signs = ⟨some mode, place, 0⟩)
    (inside : place < blockCount source) (bytes : List UInt8) :
    record policy source (signs ++ [.wrote bytes]) =
      { record policy source signs with
        introduced := insert place (record policy source signs).introduced } := by
  apply Record.ext
  · simp [record, Tally.note]
  · simp [record, through, Tally.note]
  · ext other
    simp only [record, mem_introduced_append_singleton, Set.mem_insert_iff, tally_eq]
    constructor
    · rintro (before | ⟨-, -, rfl, -⟩)
      · exact .inr before
      · exact .inl rfl
    · rintro (rfl | before)
      · exact .inr ⟨inside, ⟨bytes, rfl⟩, rfl, trivial⟩
      · exact .inl before
  · simp [record, exhausted_append_singleton, Failure]

theorem record_append_exhausting
    (tally_eq : tally signs = ⟨some mode, place, policy.maxRetries + 1⟩) (failure : Failure sign) :
    record policy source (signs ++ [sign]) =
      { record policy source signs with exhausted := True } := by
  obtain ⟨unwritten, other, -⟩ := unfinal_of_failure source signs failure
  apply Record.ext
  · simp only [record, tally_append_singleton, tally_eq]
    obtain rfl | rfl := failure <;> rfl
  · simp only [record, through, tally_append_singleton, tally_eq]
    obtain rfl | rfl := failure <;> rfl
  · ext other
    simp only [record, mem_introduced_append_singleton]
    refine or_iff_left ?_
    rintro ⟨-, ⟨bytes, rfl⟩, -⟩
    cases unwritten
  · simp [record, exhausted_append_singleton, tally_eq, failure]

end Records

/-- What a sender that is about to do something has done before, with so many blocks
acknowledged. -/
inductive Poised (source : List UInt8) (mode? : Option ChecksumMode) (place : Nat)
    (phase : SendPhase) (attempts : Nat) (frame : List UInt8) (blocks : Nat) : Prop
  | calling : phase = .awaitingStart → blocks = 0 →
      Poised source mode? place phase attempts frame blocks
  | sending {mode : ChecksumMode} : mode? = some mode → place ≤ blockCount source →
      phase = sendPhase source place → attempts = 0 → blocks = place →
      Poised source mode? place phase attempts frame blocks
  | awaiting {mode : ChecksumMode} : mode? = some mode → place ≤ blockCount source →
      phase = replyPhase source place → frame = packet mode source place →
      blocks = min (place + 1) (blockCount source) →
      Poised source mode? place phase attempts frame blocks
  | completed {mode : ChecksumMode} : mode? = some mode → place = blockCount source →
      phase = .completed → attempts = 0 → Poised source mode? place phase attempts frame blocks
  | aborted : phase = .aborted → Poised source mode? place phase attempts frame blocks

/-- What a sender has in its books. -/
structure Books (policy : RetryPolicy τ) (source : List UInt8) (record : Record)
    (sender : Sender τ) : Prop where
  cursor_eq : sender.cursor = min (blockSize * record.through) source.length
  number_eq : sender.blockNumber = .ofNat (record.through + 1)
  mode_eq : sender.mode = record.mode
  attempts_le : sender.attempts ≤ policy.maxRetries
  handshakes_le : sender.handshakeAttempts ≤ policy.maxHandshakeAttempts
  handshakes_lt : sender.phase = .awaitingStart →
    sender.handshakeAttempts < policy.maxHandshakeAttempts
  poised : Poised source record.mode record.through sender.phase sender.attempts sender.frame
    sender.metrics.blocks
  introduced_eq : record.introduced = Set.Iio sender.metrics.blocks
  unspent : sender.phase ≠ .aborted → ¬ record.exhausted
  within_budget : ¬ record.exhausted → sender.metrics.naks + sender.metrics.timeouts =
    sender.handshakeAttempts + sender.metrics.retransmits
  beyond_budget : record.exhausted → sender.metrics.naks + sender.metrics.timeouts =
    sender.handshakeAttempts + sender.metrics.retransmits + 1

section Reactions

variable {policy : RetryPolicy τ} {source : List UInt8} {signs : List Sign} {sign : Sign}
  {mode : ChecksumMode} {place attempts : Nat} {notes : Record} {sender after : Sender τ} {now : τ}

/-- All blocks before the one that is to be sent went out. -/
theorem Poised.blocks_of_send {mode? : Option ChecksumMode} {other blocks : Nat}
    {phase : SendPhase} {frame : List UInt8}
    (poised : Poised source mode? place phase attempts frame blocks)
    (sends : phase = sendPhase source other) : blocks = place := by
  replace sends := sends ▸ sending_sendPhase source other
  cases poised with
  | calling phase_eq | completed _ _ phase_eq | aborted phase_eq => simp [phase_eq] at sends
  | sending _ _ _ _ blocks_eq => exact blocks_eq
  | awaiting _ _ replies =>
      obtain awaits | awaits := awaiting_replyPhase source place <;> simp [replies, awaits] at sends

/-- A sender that waits for an answer has sent the packet that it keeps. -/
theorem Poised.exists_of_reply {mode? : Option ChecksumMode} {other blocks : Nat}
    {phase : SendPhase} {frame : List UInt8}
    (poised : Poised source mode? place phase attempts frame blocks)
    (replies : phase = replyPhase source other) :
    ∃ mode, mode? = some mode ∧ place ≤ blockCount source ∧ phase = replyPhase source place ∧
      frame = packet mode source place ∧ blocks = min (place + 1) (blockCount source) := by
  replace replies := replies ▸ awaiting_replyPhase source other
  cases poised with
  | calling phase_eq | completed _ _ phase_eq | aborted phase_eq => simp [phase_eq] at replies
  | sending _ _ sends =>
      obtain same | same := sending_sendPhase source place <;> simp [sends, same] at replies
  | awaiting chosen inside replies framed blocks_eq =>
      exact ⟨_, chosen, inside, replies, framed, blocks_eq⟩

theorem Books.abort (books : Books policy source notes sender) (cause : AbortCause) :
    Books policy source notes (sender.abort now cause).1 :=
  { books with
    handshakes_lt := nofun
    poised := .aborted rfl
    unspent := absurd rfl }

theorem Books.begin (books : Books policy source notes sender)
    (keeps : Keeps policy source none 0 0 sender) (calls : sender.phase = .awaitingStart)
    (nothing : notes.through = 0) (mode : ChecksumMode) :
    Books policy source { notes with mode := some mode } (sender.begin mode).1 := by
  have unstarted : sender.metrics.blocks = 0 := by
    cases books.poised with
    | calling _ blocks_eq => exact blocks_eq
    | sending _ _ sends =>
        exact absurd (sends.symm.trans calls) (sendPhase_ne_awaitingStart source notes.through)
    | awaiting _ _ replies =>
        exact absurd (replies.symm.trans calls) (replyPhase_ne_awaitingStart source notes.through)
    | completed _ _ completes => cases completes.symm.trans calls
    | aborted gave_up => cases gave_up.symm.trans calls
  have phase_eq : sender.nextPhase = sendPhase source notes.through := by
    rw [nothing, nextPhase_eq keeps]
  have begun := sendPhase_ne_awaitingStart source notes.through
  exact
    { books with
      mode_eq := rfl
      handshakes_lt := fun calls => absurd (phase_eq.symm.trans calls) begun
      poised := .sending rfl (nothing ▸ Nat.zero_le _) phase_eq keeps.attempts_eq
        (unstarted.trans nothing.symm)
      unspent := fun _ => books.unspent (by simp [calls]) }

theorem Books.uncalled (books : Books policy source notes sender)
    (calls : sender.phase = .awaitingStart) (same : sender.policy = policy) :
    Books policy source notes (sender.heardNothing now).1 := by
  let later := Sender.uncalled sender
  have within : ¬ notes.exhausted → later.metrics.naks + later.metrics.timeouts =
      later.handshakeAttempts + later.metrics.retransmits := by
    intro unspent
    have balanced := books.within_budget unspent
    simp only [later, Sender.uncalled]
    omega
  have beyond : notes.exhausted → later.metrics.naks + later.metrics.timeouts =
      later.handshakeAttempts + later.metrics.retransmits + 1 := by
    intro spent
    have balanced := books.beyond_budget spent
    simp only [later, Sender.uncalled]
    omega
  obtain ⟨left, becomes⟩ | ⟨-, becomes⟩ := sender.heardNothing_cases now calls
  · rw [same] at left
    rw [becomes]
    exact
      { books with
        handshakes_le := left.le
        handshakes_lt := fun _ => left
        within_budget := within
        beyond_budget := beyond }
  · rw [becomes]
    exact
      { books with
        handshakes_le := books.handshakes_lt calls
        handshakes_lt := nofun
        poised := .aborted rfl
        unspent := absurd rfl
        within_budget := within
        beyond_budget := beyond }

theorem through_eq {copies : Nat} (tally_eq : tally signs = ⟨some mode, place, copies⟩)
    (inside : place ≤ blockCount source) : through source signs = place := by
  rw [through, tally_eq]
  exact Nat.min_eq_left inside

theorem Books.retry (books : Books policy source (record policy source signs) sender)
    (keeps : Keeps policy source (some mode) place attempts sender)
    (replies : sender.phase = replyPhase source place)
    (tally_eq : tally signs = ⟨some mode, place, attempts + 1⟩) (failure : Failure sign)
    {metrics : Metrics τ} (blocks_eq : metrics.blocks = sender.metrics.blocks)
    (retransmits_eq : metrics.retransmits = sender.metrics.retransmits)
    (counted : metrics.naks + metrics.timeouts =
      sender.metrics.naks + sender.metrics.timeouts + 1) (trigger : RetryTrigger) :
    Books policy source (record policy source (signs ++ [sign]))
      ({ sender with metrics := metrics }.retry trigger).1 := by
  obtain ⟨unwritten, other, -⟩ := unfinal_of_failure source signs failure
  obtain ⟨_, chosen, inside, replies, framed, out⟩ := books.poised.exists_of_reply replies
  have going : sender.phase ≠ .aborted := by
    obtain awaits | awaits := awaiting_replyPhase source (record policy source signs).through
    all_goals simp [replies, awaits]
  obtain ⟨left, becomes⟩ | ⟨least, becomes⟩ :=
    { sender with metrics := metrics }.retry_cases trigger
  · rw [becomes]
    have left : sender.attempts < policy.maxRetries := keeps.policy_eq ▸ left
    rw [record_append_unmoved tally_eq unwritten (absurd · other)
      (fun _ spent => absurd left (by rw [keeps.attempts_eq]; omega))]
    exact
      { books with
        attempts_le := left
        poised := .awaiting chosen inside replies framed (blocks_eq.trans out)
        introduced_eq := blocks_eq ▸ books.introduced_eq
        within_budget := fun unspent => by
          have balanced := books.within_budget unspent
          simp only [counted, retransmits_eq]
          omega
        beyond_budget := fun spent => by
          have balanced := books.beyond_budget spent
          simp only [counted, retransmits_eq]
          omega }
  · rw [becomes]
    have least : policy.maxRetries ≤ sender.attempts := keeps.policy_eq ▸ least
    have last : attempts = policy.maxRetries := by
      rw [← keeps.attempts_eq]
      exact Nat.le_antisymm books.attempts_le least
    rw [record_append_exhausting (last ▸ tally_eq) failure]
    have balanced := books.within_budget (books.unspent going)
    exact
      { books with
        handshakes_lt := nofun
        poised := .aborted rfl
        introduced_eq := blocks_eq ▸ books.introduced_eq
        unspent := absurd rfl
        within_budget := absurd trivial
        beyond_budget := fun _ => by
          simp only [abortNotifying, counted, retransmits_eq]
          omega }

theorem Books.advance (books : Books policy source (record policy source signs) sender)
    (keeps : Keeps policy source (some mode) place attempts sender)
    (replies : sender.phase = replyPhase source place) (inside : place < blockCount source)
    {copies : Nat} (tally_eq : tally signs = ⟨some mode, place, copies⟩) :
    Books policy source
      (record policy source (signs ++ [.heard (Signal.byte .acknowledge)]))
      sender.acknowledged.1 := by
  have moves : sender.phase ≠ .awaitingEotAck := by
    simp [replies, replyPhase, inside]
  have advanced := keeps.advance inside
  have out : sender.metrics.blocks = place + 1 := by
    obtain ⟨_, -, -, -, -, out⟩ := books.poised.exists_of_reply replies
    rw [out, record, through_eq tally_eq inside.le]
    exact Nat.min_eq_left inside
  have phase_eq := nextPhase_eq advanced
  have begun := sendPhase_ne_awaitingStart source (place + 1)
  rw [acknowledged_of_block moves, record_append_acknowledged tally_eq inside]
  exact
    { books with
      cursor_eq := advanced.cursor_eq
      number_eq := advanced.number_eq
      attempts_le := Nat.zero_le _
      handshakes_lt := fun calls => absurd (phase_eq.symm.trans calls) begun
      poised := .sending (congrArg Tally.mode tally_eq) inside phase_eq rfl out
      unspent := fun _ => books.unspent (by simp [replies, replyPhase, inside]) }

theorem Books.finish (books : Books policy source (record policy source signs) sender)
    (ends : sender.phase = .awaitingEotAck) {copies : Nat}
    (tally_eq : tally signs = ⟨some mode, blockCount source, copies⟩) :
    Books policy source
      (record policy source (signs ++ [.heard (Signal.byte .acknowledge)]))
      sender.acknowledged.1 := by
  have differs : ¬ Failure (.heard (Signal.byte .acknowledge)) := by
    rintro (same | same) <;> exact absurd same (by decide)
  rw [acknowledged_of_last ends,
    record_append_unmoved tally_eq rfl (fun _ => Nat.le_refl _) (absurd · differs)]
  exact
    { books with
      attempts_le := Nat.zero_le _
      handshakes_lt := nofun
      poised := .completed (congrArg Tally.mode tally_eq)
        (through_eq tally_eq (Nat.le_refl _)) rfl rfl
      unspent := fun _ => books.unspent (by simp [ends]) }

theorem poised_of_wrote (tally_eq : tally signs = ⟨some mode, place, 0⟩)
    (inside : place ≤ blockCount source) (policy : RetryPolicy τ) (attempts : Nat) :
    Poised source (record policy source signs).mode (record policy source signs).through
      (replyPhase source place) attempts (packet mode source place)
      (min (place + 1) (blockCount source)) := by
  have chosen : (record policy source signs).mode = some mode := congrArg Tally.mode tally_eq
  have through_eq : (record policy source signs).through = place := through_eq tally_eq inside
  rw [through_eq]
  exact .awaiting chosen inside rfl rfl rfl

theorem Books.wrote (books : Books policy source (record policy source signs) sender)
    (sends : sender.phase = sendPhase source place)
    (framed : sender.frame = packet mode source place) (inside : place ≤ blockCount source)
    (tally_eq : tally signs = ⟨some mode, place, 0⟩) (bytes : List UInt8) :
    Books policy source (record policy source (signs ++ [.wrote bytes]))
      (sender.wrote now .first).1 := by
  have out : sender.metrics.blocks = place :=
    (books.poised.blocks_of_send sends).trans (through_eq tally_eq inside)
  have awaits := poised_of_wrote tally_eq inside policy sender.attempts
  by_cases block : place < blockCount source
  · have phase_eq : sender.phase = .sendingBlock := by simp [sends, sendPhase, block]
    rw [replyPhase, if_pos block, Nat.min_eq_left block, ← framed, ← out] at awaits
    have more : insert place (Set.Iio sender.metrics.blocks) =
        Set.Iio (sender.metrics.blocks + 1) := by
      ext other
      simp only [out, Set.mem_insert_iff, Set.mem_Iio]
      omega
    rw [record_append_first tally_eq block, books.introduced_eq, more]
    simp only [Sender.wrote, phase_eq, if_true]
    exact
      { books with
        handshakes_lt := fun calls => by cases calls
        poised := awaits
        introduced_eq := rfl
        unspent := fun _ => books.unspent (by simp [phase_eq]) }
  · have last : place = blockCount source := Nat.le_antisymm inside (Nat.le_of_not_lt block)
    have phase_eq : sender.phase = .sendingEot := by simp [sends, sendPhase, block]
    have same : min (place + 1) (blockCount source) = place := by omega
    rw [replyPhase, if_neg block, same, ← framed, ← out] at awaits
    rw [record_append_wrote bytes (.inr (by simp [tally_eq, last]))]
    simp only [Sender.wrote, phase_eq, reduceCtorEq, if_false]
    exact
      { books with
        handshakes_lt := fun calls => by cases calls
        poised := awaits
        unspent := fun _ => books.unspent (by simp [phase_eq]) }

theorem Poised.with_frame {mode? : Option ChecksumMode} {blocks : Nat} {phase : SendPhase}
    {frame : List UInt8} (poised : Poised source mode? place phase attempts frame blocks)
    (unsent : phase ≠ .awaitingAck ∧ phase ≠ .awaitingEotAck) (other : List UInt8) :
    Poised source mode? place phase attempts other blocks := by
  cases poised with
  | calling calls blocks_eq => exact .calling calls blocks_eq
  | sending chosen inside sends fresh blocks_eq =>
      exact .sending chosen inside sends fresh blocks_eq
  | awaiting _ _ replies =>
      obtain awaits | awaits := awaiting_replyPhase source place
      · exact absurd (replies.trans awaits) unsent.1
      · exact absurd (replies.trans awaits) unsent.2
  | completed chosen last completes fresh => exact .completed chosen last completes fresh
  | aborted gave_up => exact .aborted gave_up

theorem Books.beginStep (books : Books policy source notes sender) :
    Books policy source notes (sender.beginStep now).1 := by
  unfold Sender.beginStep
  split
  case h_1 | h_4 | h_5 | h_6 => exact { books with }
  case h_2 sends =>
    exact { books with poised := books.poised.with_frame (by simp [sends]) _ }
  case h_3 sends =>
    exact { books with poised := books.poised.with_frame (by simp [sends]) _ }
  case h_7 => exact books

theorem heardAtStart_of_request {value : UInt8} (asks : requested? value = some mode) :
    sender.heardAtStart now value = sender.begin mode := by
  unfold requested? at asks
  split at asks
  · rename_i same
    subst same
    cases asks
    rfl
  · split at asks
    · rename_i same
      subst same
      cases asks
      rfl
    · cases asks

theorem Books.heardAtStart (books : Books policy source (record policy source signs) sender)
    (keeps : Keeps policy source none 0 0 sender) (calls : sender.phase = .awaitingStart)
    (fresh : tally signs = ⟨none, 0, 0⟩) (value : UInt8) :
    Books policy source (record policy source (signs ++ [.heard value]))
      (sender.heard now value).1 := by
  have heard_eq : sender.heard now value = sender.heardAtStart now value := if_pos calls
  cases asks : requested? value with
  | some mode =>
      have nothing : (record policy source signs).through = 0 := by
        simp [record, through, fresh]
      rw [heard_eq, heardAtStart_of_request asks, record_append_request fresh asks]
      exact books.begin keeps calls nothing mode
  | none =>
      rw [record_append_uncalled fresh (by rintro _ ⟨⟩; exact asks) rfl]
      by_cases cancel : value = Signal.byte .cancel
      · subst cancel
        rw [heard_eq]
        exact books.abort _
      · have noise : value ∉ sender.heeded := by
          rw [heeded, if_pos calls]
          exact noise_of_unasked asks cancel
        obtain ⟨_, ignored⟩ := exists_discards now noise
        rw [ignored]
        exact books

theorem Books.heardReply (books : Books policy source (record policy source signs) sender)
    (keeps : Keeps policy source (some mode) place attempts sender)
    (answers : sender.phase = replyPhase source place)
    (tally_eq : tally signs = ⟨some mode, place, attempts + 1⟩) (value : UInt8) :
    Books policy source (record policy source (signs ++ [.heard value]))
      (sender.heard now value).1 := by
  have heard_eq : sender.heard now value = sender.heardReply now value :=
    if_neg (answers ▸ replyPhase_ne_awaitingStart source place)
  by_cases acknowledge : value = Signal.byte .acknowledge
  · subst acknowledge
    rw [heard_eq]
    by_cases inside : place < blockCount source
    · exact books.advance keeps answers inside tally_eq
    · obtain rfl := Nat.le_antisymm keeps.inside (Nat.le_of_not_lt inside)
      exact books.finish (by simp [answers, replyPhase]) tally_eq
  by_cases refuse : value = Signal.byte .negativeAcknowledge
  · subst refuse
    rw [heard_eq]
    refine books.retry keeps answers tally_eq (.inl rfl) ?_ ?_ ?_ .nak
    · rfl
    · rfl
    · exact Nat.add_right_comm ..
  have unremarkable : record policy source (signs ++ [.heard value]) =
      record policy source signs := by
    refine record_append_unmoved tally_eq rfl (fun same => ?_) (fun failure => ?_)
    · exact absurd (Sign.heard.inj same) acknowledge
    · obtain same | same := failure
      · exact absurd (Sign.heard.inj same) refuse
      · cases same
  rw [unremarkable]
  by_cases cancel : value = Signal.byte .cancel
  · subst cancel
    rw [heard_eq]
    exact books.abort _
  · have noise : value ∉ sender.heeded := by
      rw [heeded, if_neg (answers ▸ replyPhase_ne_awaitingStart source place)]
      simp [replies, acknowledge, refuse, cancel]
    obtain ⟨_, ignored⟩ := exists_discards now noise
    rw [ignored]
    exact books

/-- Every reaction of a sender keeps its books right. -/
theorem Books.react (books : Books policy source (record policy source signs) sender)
    {stage : Stage} (stands : At policy source stage sender)
    (fits : Fits policy source stage signs) {sign : Option Sign}
    (reacts : Reacts sender now sign after) :
    Books policy source (record policy source (signs ++ sign.toList)) after := by
  cases reacts with
  | wake _ =>
      rw [Option.toList_none, List.append_nil]
      exact { books with }
  | begin _ =>
      rw [Option.toList_none, List.append_nil]
      exact books.beginStep
  | «break» fault _ =>
      rw [Option.toList_some, record_append_broken]
      exact books.abort _
  | spoil fault _ =>
      rw [Option.toList_some, record_append_spoiled]
      exact books.abort _
  | hear value listens =>
      cases stands with
      | calling keeps calls _ =>
          obtain ⟨fresh⟩ := fits
          exact books.heardAtStart keeps calls fresh value
      | awaiting keeps answers _ _ _ =>
          obtain ⟨⟩ | ⟨⟩ | ⟨spoken⟩ := fits
          exact books.heardReply keeps answers spoken.tally_eq value
      | ready _ _ doing | first _ _ _ doing | again _ _ _ _ _ doing | canceling doing
      | completed _ doing | ended doing => cases listens.symm.trans doing
  | expire listens =>
      cases stands with
      | calling keeps calls _ =>
          obtain ⟨fresh⟩ := fits
          rw [Option.toList_some, record_append_uncalled fresh (by simp) rfl]
          exact books.uncalled calls keeps.policy_eq
      | awaiting keeps answers _ _ _ =>
          obtain ⟨⟩ | ⟨⟩ | ⟨spoken⟩ := fits
          rw [heardNothing_eq_retry now (answers ▸ replyPhase_ne_awaitingStart source _)]
          refine books.retry keeps answers spoken.tally_eq (.inr rfl) ?_ ?_ ?_ .timeout <;> rfl
      | ready _ _ doing | first _ _ _ doing | again _ _ _ _ _ doing | canceling doing
      | completed _ doing | ended doing => cases listens.symm.trans doing
  | write writes =>
      cases stands with
      | calling _ _ rests | awaiting _ _ _ _ rests => simp [Rests, writes] at rests
      | ready _ _ doing | completed _ doing | ended doing => cases writes.symm.trans doing
      | first keeps sends framed doing =>
          obtain ⟨⟩ | ⟨spoken⟩ := fits
          cases writes.symm.trans doing
          exact books.wrote sends framed keeps.inside spoken.tally_eq _
      | again _ _ _ some_copy _ doing =>
          obtain ⟨⟩ | ⟨spoken⟩ := fits
          cases writes.symm.trans doing
          rw [Option.toList_some, record_append_wrote _ (.inl (by simp [spoken.tally_eq]; omega))]
          exact { books with }
      | canceling doing =>
          obtain ⟨⟩ | ⟨⟩ | ⟨⟩ | ⟨spoken⟩ := fits
          cases writes.symm.trans doing
          rw [Option.toList_some, record_append_wrote _ (.inl (by simp [spoken.tally_eq]))]
          exact { books with }

theorem Poised.inside {mode? : Option ChecksumMode} {blocks : Nat} {phase : SendPhase}
    {frame : List UInt8} (poised : Poised source mode? place phase attempts frame blocks)
    (sends : phase = .sendingBlock ∨ phase = .awaitingAck) : place < blockCount source := by
  cases poised with
  | calling phase_eq | completed _ _ phase_eq | aborted phase_eq => simp [phase_eq] at sends
  | sending _ _ phase_eq =>
      by_contra outside
      simp [phase_eq, sendPhase, outside] at sends
  | awaiting _ _ phase_eq =>
      by_contra outside
      simp [phase_eq, replyPhase, outside] at sends

theorem Poised.last {mode? : Option ChecksumMode} {blocks : Nat} {phase : SendPhase}
    {frame : List UInt8} (poised : Poised source mode? place phase attempts frame blocks)
    (ends : phase = .sendingEot ∨ phase = .awaitingEotAck ∨ phase = .completed) :
    place = blockCount source := by
  cases poised with
  | calling phase_eq | aborted phase_eq => simp [phase_eq] at ends
  | sending _ inside phase_eq =>
      refine Nat.le_antisymm inside (Nat.le_of_not_lt fun block => ?_)
      simp [phase_eq, sendPhase, block] at ends
  | awaiting _ inside phase_eq =>
      refine Nat.le_antisymm inside (Nat.le_of_not_lt fun block => ?_)
      simp [phase_eq, replyPhase, block] at ends
  | completed _ last _ _ => exact last

theorem Books.ledger (books : Books policy source (record policy source signs) sender) :
    Ledger policy source signs sender where
  cursor_eq := books.cursor_eq
  number_eq := by
    rw [books.number_eq]
    exact UInt8.toNat_ofNat'
  before_end sends := by
    have before := (lt_blockCount_iff ..).mp (books.poised.inside sends)
    rw [books.cursor_eq]
    omega
  at_end ends := by
    have beyond := (blockCount_le_iff ..).mp (books.poised.last ends).ge
    rw [books.cursor_eq]
    exact Nat.min_eq_right beyond
  attempts_le := books.attempts_le
  attempts_eq fresh := by
    cases books.poised with
    | calling phase_eq | aborted phase_eq => simp [phase_eq] at fresh
    | sending _ _ _ attempts_eq | completed _ _ _ attempts_eq => exact attempts_eq
    | awaiting _ _ replies =>
        obtain awaits | awaits := awaiting_replyPhase source (record policy source signs).through
        all_goals simp [replies, awaits] at fresh
  handshakes_le := books.handshakes_le
  mode_isSome begun going := by
    rw [books.mode_eq, Option.isSome_iff_exists]
    cases books.poised with
    | calling calls => exact absurd calls begun
    | sending chosen | awaiting chosen | completed chosen => exact ⟨_, chosen⟩
    | aborted gave_up => exact absurd gave_up going
  frame_of_block awaits := by
    have inside := books.poised.inside (.inr awaits)
    obtain ⟨mode, chosen, -, -, framed, -⟩ :=
      books.poised.exists_of_reply (awaits.trans (if_pos inside).symm)
    exact ⟨mode, books.mode_eq.trans chosen, framed.trans (packet_of_lt inside)⟩
  frame_of_end awaits := by
    have last := books.poised.last (.inr (.inl awaits))
    have outside := Nat.not_lt.mpr last.ge
    obtain ⟨mode, -, -, -, framed, -⟩ :=
      books.poised.exists_of_reply (awaits.trans (if_neg outside).symm)
    exact framed.trans (if_neg outside)
  blocks_eq := by
    have introduced_eq : introduced source signs = Set.Iio sender.metrics.blocks :=
      books.introduced_eq
    rw [introduced_eq, ← Finset.coe_range, Set.ncard_coe_finset, Finset.card_range]
  within_budget := books.within_budget
  beyond_budget := books.beyond_budget

end Reactions

section Conversing

variable {policy : RetryPolicy τ} {source : List UInt8} {begun : τ} {sender : Sender τ}
  {moments : List (Moment (Sender τ) τ)} {mode : ChecksumMode}

theorem books_start (policy : RetryPolicy τ) (source : List UInt8) (begun : τ) :
    Books policy source (record policy source []) (start policy source begun) where
  cursor_eq := by simp [start, record, through, tally]
  number_eq := by simp [start, record, through, tally]
  mode_eq := rfl
  attempts_le := Nat.zero_le _
  handshakes_le := Nat.zero_le _
  handshakes_lt _ := policy.maxHandshakeAttempts_pos
  poised := .calling rfl rfl
  introduced_eq := by
    ext place
    simp [record, introduced, start, Metrics.fresh, not_sometime_nil]
  unspent _ := not_sometime_nil _
  within_budget _ := rfl
  beyond_budget spent := absurd spent (not_sometime_nil _)

theorem books_of_converses (talks : Converses (start policy source begun) moments sender) :
    Books policy source (record policy source (transcript waits moments)) sender := by
  induction talks with
  | silent => exact books_start policy source begun
  | step talks valid induction =>
      obtain ⟨stage, treads, stands⟩ := exists_treads talks
      rw [transcript_append, transcript_singleton]
      exact induction.react stands (fits_of_treads treads).1 (reacts_of_valid valid)

/-- The choice of a checksum is never taken back, whatever follows. -/
theorem mode_tally_append {signs : List Sign} (chosen : (tally signs).mode = some mode)
    (back : List Sign) : (tally (signs ++ back)).mode = some mode := by
  induction back using List.reverseRecOn with
  | nil => rwa [List.append_nil]
  | append_singleton back sign induction =>
      rw [← List.append_assoc]
      exact mode_tally_append_singleton induction sign

/-- Whatever the line does, what a sender remembers and counts agrees at every moment with what it
met so far, also when it has given up; and it keeps its checksum. -/
theorem ledger_of_converses (talks : Converses (start policy source begun) moments sender) :
    Ledger policy source (transcript waits moments) sender ∧
      ∀ more later mode, Converses sender more later → sender.mode = some mode →
        later.mode = some mode := by
  have books := books_of_converses talks
  refine ⟨books.ledger, fun more later mode goes_on chosen => ?_⟩
  rw [(books_of_converses (talks.trans goes_on)).mode_eq, transcript_append]
  exact mode_tally_append (books.mode_eq.symm.trans chosen) _

/-- Three bytes go out in two copies of a block, after a refusal; then the end of transmission
fails four times, and the last failure is the one that led to no further attempt. -/
theorem ledger_of_three_bytes :
    let heard (signal : Signal) : ScriptItem Rat := .byte signal.byte
    let line : ScriptedLine Rat :=
      ⟨[heard .negativeAcknowledge, heard .negativeAcknowledge, heard .acknowledge, .silence,
        heard .negativeAcknowledge, .silence, .silence], none, [], 0⟩
    ∃ after moments,
      (Run.mk (start .brief [1, 2, 3] 0) line 0 []).complete 60 = some after ∧
      (after.session.cursor = 3 ∧ after.session.blockNumber = 2 ∧
        after.session.metrics.blocks = 1 ∧
        after.session.metrics.naks + after.session.metrics.timeouts = 5 ∧
        after.session.metrics.retransmits = 4) ∧
      Converses (start .brief [1, 2, 3] 0) moments after.session ∧
      Ledger .brief [1, 2, 3] (transcript waits moments) after.session ∧
        ∀ more later mode, Converses after.session more later → after.session.mode = some mode →
          later.mode = some mode := by
  intro heard line
  have ends : ((Run.mk (start .brief [1, 2, 3] 0) line 0 []).complete 60).map
      (fun after => (after.session.cursor, after.session.blockNumber, after.session.metrics.blocks,
        after.session.metrics.naks + after.session.metrics.timeouts,
        after.session.metrics.retransmits)) = some (3, 2, 1, 5, 4) := by
    decide +kernel
  obtain ⟨after, ends, counted⟩ := Option.map_eq_some_iff.mp ends
  obtain ⟨moments, talks, -⟩ := Run.exists_converses ends
  simp only [Prod.mk.injEq] at counted
  exact ⟨after, moments, ends, counted, talks, ledger_of_converses talks⟩

end Conversing
end Sender
end Xmodem
