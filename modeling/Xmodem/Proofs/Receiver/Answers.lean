import Xmodem.Proofs.Receiver.Hearing

/-!
# Answers

Every message of a sender has one answer, which depends on the blocks that were accepted before.  An
answer is a single byte, and several answers share one: the counts of the bytes are sums of the
counts of the answers.
-/

namespace Xmodem
namespace Receiver

open Packets Destination

variable {τ : Type} [Quantity τ]

/-- What a receiver that accepted some blocks answers to a message, and the blocks afterwards. -/
inductive Answers (setup : Setup τ) (capacity : Nat) (blocks : List Block) :
    Message → Writing → List Block → Prop
  | accept {raw : List UInt8} {block : Block} :
      Frame.decode setup.mode raw = .ok block → Follows blocks.length block →
      FitsAt capacity blocks.length block.payload →
      Answers setup capacity blocks (.frame raw) .acceptance (blocks ++ [block])
  | «repeat» {raw : List UInt8} {block : Block} :
      Frame.decode setup.mode raw = .ok block → Repeats blocks.length block →
      Answers setup capacity blocks (.frame raw) .repetition blocks
  | reject {raw : List UInt8} {error : FrameError} :
      Frame.decode setup.mode raw = .error error →
      Answers setup capacity blocks (.frame raw) .rejection blocks
  | disorder {raw : List UInt8} {block : Block} {cause : AbortCause} :
      Frame.decode setup.mode raw = .ok block → ¬ Follows blocks.length block →
      ¬ Repeats blocks.length block → cause.reason = .outOfSequence →
      Answers setup capacity blocks (.frame raw) (.cancel cause) blocks
  | overflow {raw : List UInt8} {block : Block} {cause : AbortCause} :
      Frame.decode setup.mode raw = .ok block → Follows blocks.length block →
      ¬ FitsAt capacity blocks.length block.payload → cause.reason = .destinationExhausted →
      Answers setup capacity blocks (.frame raw) (.cancel cause) blocks
  | confirm :
      setup.confirmEot = true →
      Answers setup capacity blocks (.endOfTransmission false) .confirmation blocks
  | complete {again : Bool} :
      (setup.confirmEot = true → again = true) →
      Answers setup capacity blocks (.endOfTransmission again) .completion blocks

/-- Whether more may follow a reply. -/
def Writing.Lasts : Writing → Prop
  | .completion | .cancel _ => False
  | .request | .acceptance | .repetition | .rejection | .confirmation => True

/-- The answers to some messages, one for each, and the blocks that were accepted. -/
inductive Replies (setup : Setup τ) (capacity : Nat) :
    List Message → List Writing → List Block → Prop
  | nothing : Replies setup capacity [] [] []
  | reply {messages : List Message} {purposes : List Writing} {blocks later : List Block}
      {message : Message} {purpose : Writing} :
      Replies setup capacity messages purposes blocks → (∀ purpose ∈ purposes, purpose.Lasts) →
      Answers setup capacity blocks message purpose later →
      Replies setup capacity (messages ++ [message]) (purposes ++ [purpose]) later

/-- The writes for some purposes. -/
def spoken (mode : ChecksumMode) (purposes : List Writing) : List (List UInt8) :=
  purposes.map fun purpose => [purpose.byte mode]

/-- Number of announcements of the end that have to be repeated. -/
def unconfirmed (setup : Setup τ) (messages : List Message) : Nat :=
  if setup.confirmEot then messages.count (.endOfTransmission false) else 0

section Counting

variable {setup : Setup τ} {capacity : Nat} {messages : List Message} {purposes : List Writing}
  {blocks : List Block}

@[simp]
theorem spoken_append_singleton (mode : ChecksumMode) (purposes : List Writing)
    (purpose : Writing) :
    spoken mode (purposes ++ [purpose]) = spoken mode purposes ++ [[purpose.byte mode]] := by
  simp [spoken]

theorem length_spoken (mode : ChecksumMode) (purposes : List Writing) :
    (spoken mode purposes).length = purposes.length :=
  List.length_map ..

theorem Answers.ne_request {message : Message} {purpose : Writing} {later : List Block}
    (answers : Answers setup capacity blocks message purpose later) : purpose ≠ .request := by
  cases answers <;> exact nofun

@[simp]
theorem unconfirmed_append (setup : Setup τ) (messages more : List Message) :
    unconfirmed setup (messages ++ more) = unconfirmed setup messages + unconfirmed setup more := by
  unfold unconfirmed
  split
  · exact List.count_append
  · rfl

/-- An answer accepts a block, or none, and confirms an end that has to be repeated, or none. -/
theorem Answers.counts {message : Message} {purpose : Writing} {later : List Block}
    (answers : Answers setup capacity blocks message purpose later) :
    later.length = blocks.length + [purpose].count .acceptance ∧
      [purpose].count .confirmation = unconfirmed setup [message] := by
  cases answers with
  | accept _ _ _ => simp [unconfirmed]
  | «repeat» _ _ | reject _ | disorder _ _ _ _ | overflow _ _ _ _ => simp [unconfirmed]
  | confirm confirms => simp [unconfirmed, confirms]
  | @complete again repeats =>
      cases confirms : setup.confirmEot with
      | false => simp [unconfirmed, confirms]
      | true => simp [unconfirmed, repeats confirms]

/-- Every message has one answer, every accepted block is acknowledged, and every unconfirmed end
is refused. -/
theorem Replies.counts (replies : Replies setup capacity messages purposes blocks) :
    purposes.length = messages.length ∧ purposes.count .acceptance = blocks.length ∧
      purposes.count .confirmation = unconfirmed setup messages := by
  induction replies with
  | nothing => simp [unconfirmed]
  | reply _ _ answers induction =>
      obtain ⟨lengths, accepted, confirmed⟩ := induction
      obtain ⟨accepts, confirms⟩ := answers.counts
      refine ⟨by simp [lengths], ?_, ?_⟩
      · rw [List.count_append, accepted, accepts]
      · rw [List.count_append, confirmed, confirms, unconfirmed_append]

theorem count_byte (mode : ChecksumMode) {purpose : Writing} (other : purpose ≠ .request) :
    [[purpose.byte mode]].count [Signal.byte .acknowledge] =
        [purpose].count .acceptance + [purpose].count .repetition + [purpose].count .completion ∧
      [[purpose.byte mode]].count [Signal.byte .negativeAcknowledge] =
        [purpose].count .rejection + [purpose].count .confirmation := by
  cases purpose with
  | request => exact absurd rfl other
  | acceptance | repetition | rejection | confirmation | completion | cancel => exact ⟨rfl, rfl⟩

theorem Replies.count_spoken (replies : Replies setup capacity messages purposes blocks) :
    (spoken setup.mode purposes).count [Signal.byte .acknowledge] =
        purposes.count .acceptance + purposes.count .repetition + purposes.count .completion ∧
      (spoken setup.mode purposes).count [Signal.byte .negativeAcknowledge] =
        purposes.count .rejection + purposes.count .confirmation := by
  induction replies with
  | nothing => exact ⟨rfl, rfl⟩
  | reply _ _ answers induction =>
      obtain ⟨acknowledged, refused⟩ := induction
      obtain ⟨acknowledges, refuses⟩ := count_byte setup.mode answers.ne_request
      simp only [spoken_append_singleton, List.count_append, acknowledged, refused, acknowledges,
        refuses]
      omega

theorem Writing.Lasts.byte_ne {purpose : Writing} (lasts : purpose.Lasts) (mode : ChecksumMode) :
    purpose.byte mode ≠ Signal.byte .cancel := by
  cases purpose with
  | completion | cancel => exact absurd lasts id
  | request | acceptance | repetition | rejection | confirmation => cases mode <;> decide

theorem count_completion (lasts : ∀ purpose ∈ purposes, purpose.Lasts) :
    purposes.count .completion = 0 := by
  rw [List.count_eq_zero]
  intro member
  exact lasts _ member

/-- A receiver that goes on has not told its sender that it gave up. -/
theorem not_mem_spoken {mode : ChecksumMode} (lasts : ∀ purpose ∈ purposes, purpose.Lasts) :
    [Signal.byte .cancel] ∉ spoken mode purposes := by
  intro member
  obtain ⟨purpose, member, same⟩ := List.mem_map.mp member
  exact (lasts purpose member).byte_ne mode (List.cons.inj same).1

theorem Replies.exists_of_append {purpose : Writing}
    (replies : Replies setup capacity messages (purposes ++ [purpose]) blocks) :
    ∃ earlier message before, messages = earlier ++ [message] ∧
      Replies setup capacity earlier purposes before ∧
      Answers setup capacity before message purpose blocks := by
  generalize same : purposes ++ [purpose] = all at replies
  cases replies with
  | nothing => exact absurd same (List.append_ne_nil_of_right_ne_nil _ (List.cons_ne_nil _ _))
  | reply before _ answers =>
      obtain ⟨rfl, rfl⟩ := List.append_singleton_inj.mp same
      exact ⟨_, _, _, rfl, before, answers⟩

/-- Why a receiver gave up that told its sender so. -/
theorem Replies.reason_of_cancel {cause : AbortCause}
    (replies : Replies setup capacity messages (purposes ++ [.cancel cause]) blocks) :
    cause.reason = .outOfSequence ∨ cause.reason = .destinationExhausted := by
  obtain ⟨_, _, _, _, _, answers⟩ := replies.exists_of_append
  cases answers with
  | disorder _ _ _ reason => exact .inl reason
  | overflow _ _ _ reason => exact .inr reason

theorem Replies.exists_confirmed {signs : List Sign}
    (replies : Replies setup capacity (hearing setup.mode signs).messages
      (purposes ++ [.completion]) blocks) :
    ∃ before after, signs = before ++ .heard (Signal.byte .endOfTransmission) :: after ∧
      (hearing setup.mode before).attention = .packet ∧
      (hearing setup.mode signs).messages.length =
        (hearing setup.mode before).messages.length + 1 ∧
      (setup.confirmEot = true → (hearing setup.mode before).openings.getLast? =
        some (Signal.byte .endOfTransmission)) := by
  obtain ⟨earlier, message, _, messages_eq, _, answers⟩ := replies.exists_of_append
  cases answers with
  | complete repeats =>
      obtain ⟨before, after, cut, attentive, same, again_eq⟩ := exists_of_messages messages_eq
      refine ⟨before, after, cut, attentive, ?_, fun confirms => ?_⟩
      · rw [messages_eq, same, List.length_append, List.length_singleton]
      · exact of_decide_eq_true (again_eq.symm.trans (repeats confirms))

end Counting

end Receiver
end Xmodem
