import Xmodem.Proofs.Succession
import Xmodem.Proofs.Transmission

/-!
# Receivers that join a transmission

A receiver may join a transmission when its first packets are gone.  Then it takes every block from
some block on whose number looks like that of the first one, or it takes none.
-/

namespace Xmodem
namespace Packets

/-- The blocks of somebody who has skipped some blocks of a source and got all others up to some
place.  The numbers of the blocks do not tell what was skipped, or all was skipped. -/
structure Skips (source : List UInt8) (sent skipped : Nat) (blocks : List Block) : Prop where
  blocks_eq : blocks =
    (List.range' skipped (min sent (blockCount source) - skipped)).map (block source)
  behind : skipped ≤ min sent (blockCount source)
  aligned : 256 ∣ skipped ∨ skipped = min sent (blockCount source)

section Skips

variable {source : List UInt8} {sent place skipped : Nat} {blocks : List Block}

theorem skips_nil (source : List UInt8) (sent : Nat) :
    Skips source sent (min sent (blockCount source)) [] :=
  ⟨by simp, Nat.le_refl _, .inr rfl⟩

theorem Skips.length_eq (skips : Skips source sent skipped blocks) :
    blocks.length = min sent (blockCount source) - skipped := by
  rw [skips.blocks_eq, List.length_map, List.length_range']

theorem Skips.all (skips : Skips source sent skipped blocks) (all : blockCount source ≤ sent)
    {later : Nat} (behind : blockCount source ≤ later) : Skips source later skipped blocks := by
  obtain ⟨blocks_eq, behind_eq, aligned⟩ := skips
  rw [Nat.min_eq_right all] at blocks_eq behind_eq aligned
  rw [← Nat.min_eq_right behind] at blocks_eq behind_eq aligned
  exact ⟨blocks_eq, behind_eq, aligned⟩

/-- Numbers of blocks are equal when the places are equal up to a multiple of their number. -/
theorem number_eq_iff {count : Nat} :
    (block source place).number = .ofNat count ↔ (place + 1) % 256 = count % 256 := by
  rw [← UInt8.toNat_inj]
  simp [block, Block.ofChunk]

/-- A block that looks like the next one is the next one, or the first one of a new account. -/
theorem Skips.next (skips : Skips source sent skipped blocks) (inside : place < blockCount source)
    (near : sent = place ∨ sent = place + 1)
    (follows : Receiver.Follows blocks.length (block source place)) :
    ∃ fewer, fewer ≤ skipped ∧ Skips source (place + 1) fewer (blocks ++ [block source place]) := by
  have same := number_eq_iff.mp follows
  have length_eq := skips.length_eq
  obtain ⟨blocks_eq, behind, aligned⟩ := skips
  have capped : min sent (blockCount source) = sent := Nat.min_eq_left (by omega)
  have capped_next : min (place + 1) (blockCount source) = place + 1 := Nat.min_eq_left inside
  rw [capped] at blocks_eq behind aligned length_eq
  obtain rfl | rfl := near
  · -- The numbers agree only when what was skipped is a multiple of their number.
    refine ⟨skipped, Nat.le_refl _, ?_, ?_, .inl (by omega)⟩
    · have split : sent + 1 - skipped = sent - skipped + 1 := by omega
      have last : skipped + (sent - skipped) = sent := by omega
      rw [capped_next, split, List.range'_1_concat, last, List.map_append, ← blocks_eq,
        List.map_singleton]
    · omega
  · -- The last block again is taken only by somebody who has none, for the first one.
    obtain rfl : skipped = place + 1 := by omega
    obtain rfl : blocks = [] := by simpa using blocks_eq
    refine ⟨place, Nat.le_succ _, ?_, ?_, .inl ?_⟩
    · rw [capped_next, Nat.add_sub_cancel_left]
      rfl
    · omega
    · simp only [List.length_nil] at same
      omega

theorem Skips.again (skips : Skips source sent skipped blocks) (inside : place < blockCount source)
    (near : sent = place ∨ sent = place + 1)
    (repeats : Receiver.Repeats blocks.length (block source place)) :
    Skips source (place + 1) skipped blocks := by
  obtain ⟨some_block, number⟩ := repeats
  have same := number_eq_iff.mp number
  have length_eq := skips.length_eq
  have aligned := skips.aligned
  rw [Nat.min_eq_left (by omega : sent ≤ blockCount source)] at length_eq aligned
  obtain rfl | rfl := near
  · omega
  · exact skips

end Skips
end Packets

variable {τ : Type} [Quantity τ]

namespace Receiver

open Packets

/-- What a receiver has stored that takes part in a transmission, perhaps from the beginning. -/
def Holds (source : List UInt8) (early : Prop) (sent : Nat) (blocks : List Block) : Prop :=
  ∃ skipped, Skips source sent skipped blocks ∧ (early → skipped = 0)

/-- Whether a receiver takes part in a transmission, perhaps from the beginning. -/
inductive Joins (setup : Setup τ) (source : List UInt8) (early : Prop) :
    Course → List (ScriptItem τ) → Prop
  | awaiting {stage : Stage} {blocks : List Block} {refusals sent : Nat}
      {items : List (ScriptItem τ)} :
      stage.Awaits → Transmits setup.mode source sent items → Holds source early sent blocks →
      Joins setup source early ⟨stage, blocks, refusals⟩ items
  | collecting {raw rest : List UInt8} {blocks : List Block} {refusals place sent : Nat}
      {items : List (ScriptItem τ)} :
      place < blockCount source → sent = place ∨ sent = place + 1 →
      raw ++ rest = packet setup.mode source place → rest ≠ [] →
      Transmits setup.mode source (place + 1) items → Holds source early sent blocks →
      Joins setup source early ⟨.collecting raw, blocks, refusals⟩ (rest.map .byte ++ items)
  | answering {purpose : Writing} {blocks : List Block} {refusals sent : Nat}
      {items : List (ScriptItem τ)} :
      purpose ≠ .rejection → (purpose = .completion → blockCount source ≤ sent) →
      Transmits setup.mode source sent items → Holds source early sent blocks →
      Joins setup source early ⟨.answering purpose, blocks, refusals⟩ items
  | completed {blocks : List Block} {refusals : Nat} {items : List (ScriptItem τ)} :
      Holds source early (blockCount source) blocks →
      Joins setup source early ⟨.completed, blocks, refusals⟩ items
  | canceling {blocks : List Block} {refusals sent : Nat} {items : List (ScriptItem τ)} :
      Transmits setup.mode source sent items →
      Joins setup source early ⟨.canceling, blocks, refusals⟩ items
  | failed {failure : Failure} {blocks : List Block} {refusals sent : Nat}
      {items : List (ScriptItem τ)} :
      Transmits setup.mode source sent items →
      Joins setup source early ⟨.finished (.error failure), blocks, refusals⟩ items
  | succeeded {length : Nat} {blocks : List Block} {refusals : Nat}
      {items : List (ScriptItem τ)} :
      Holds source early (blockCount source) blocks →
      Joins setup source early ⟨.finished (.ok length), blocks, refusals⟩ items

section Holding

variable {source : List UInt8} {early : Prop} {sent place : Nat} {blocks : List Block}

theorem Holds.all (holds : Holds source early sent blocks) (all : blockCount source ≤ sent)
    {later : Nat} (behind : blockCount source ≤ later) : Holds source early later blocks := by
  obtain ⟨skipped, skips, none_skipped⟩ := holds
  exact ⟨skipped, skips.all all behind, none_skipped⟩

theorem Holds.next (holds : Holds source early sent blocks) (inside : place < blockCount source)
    (near : sent = place ∨ sent = place + 1) (follows : Follows blocks.length (block source place)) :
    Holds source early (place + 1) (blocks ++ [block source place]) := by
  obtain ⟨skipped, skips, none_skipped⟩ := holds
  obtain ⟨fewer, less, skips⟩ := skips.next inside near follows
  exact ⟨fewer, skips, fun first => Nat.eq_zero_of_le_zero (none_skipped first ▸ less)⟩

theorem Holds.again (holds : Holds source early sent blocks) (inside : place < blockCount source)
    (near : sent = place ∨ sent = place + 1) (repeats : Repeats blocks.length (block source place)) :
    Holds source early (place + 1) blocks := by
  obtain ⟨skipped, skips, none_skipped⟩ := holds
  exact ⟨skipped, skips.again inside near repeats, none_skipped⟩

end Holding

/-- Only a cancellation ends a receiver that hears it. -/
theorem Passes.eq_cancel {setup : Setup τ} {capacity : Nat} {course : Course} {deed : Deed}
    {outcome : Outcome} {blocks : List Block} {refusals : Nat} {value : UInt8}
    (passes : Passes setup capacity course deed ⟨.finished outcome, blocks, refusals⟩)
    (heard : deed.sign = some (.heard value)) : value = Signal.byte .cancel := by
  cases passes with
  | within awaits | ignore awaits | wait awaits => simp [Stage.Awaits] at awaits
  | complete | spoil => cases heard
  | cancel cancels => cases Option.some.inj heard ▸ cancels
  | leave _ _ causes =>
      cases Option.some.inj heard
      simpa using causes

namespace Joins

variable {setup : Setup τ} {capacity : Nat} {source : List UInt8} {early : Prop}
  {course later : Course} {deed : Deed} {blocks : List Block} {refusals sent place : Nat}
  {waiting : Bool} {items rest : List (ScriptItem τ)}

theorem hear_awaiting {stage : Stage} {value : UInt8} (awaits : stage.Awaits)
    (transmits : Transmits setup.mode source sent (.byte value :: rest))
    (holds : Holds source early sent blocks)
    (passes : Passes setup capacity ⟨stage, blocks, refusals⟩ deed later)
    (heard : deed.sign = some (.heard value)) : Joins setup source early later rest := by
  obtain ⟨place, frame, items, inside, near, rfl, begins, rfl, behind⟩ | ⟨rfl, all, behind⟩ :=
    transmits.opens
  · obtain ⟨-, noise⟩ | ⟨rfl, -⟩ | ⟨_, -, -, ends⟩ | ⟨failure, rfl, innocent⟩ :=
      passes.of_awaits awaits heard
    · exact absurd noise (by decide)
    · refine .collecting inside near begins.symm ?_ behind holds
      have whole : (packet setup.mode source place).length = _ := length_packet inside
      rintro rfl
      rw [begins, Frame.length] at whole
      simp at whole
      omega
    · exact absurd ends (by decide)
    · exact absurd (passes.eq_cancel heard) (by decide)
  · obtain ⟨-, noise⟩ | ⟨-, data⟩ | ⟨purpose, rfl, accepts, -⟩ | ⟨failure, rfl, -⟩ :=
      passes.of_awaits awaits heard
    · exact absurd noise (by decide)
    · exact absurd data (by decide)
    · exact .answering accepts (fun _ => Nat.le_succ _) behind (holds.all all (Nat.le_succ _))
    · exact .failed behind

theorem of_awaiting {stage : Stage} (awaits : stage.Awaits)
    (transmits : Transmits setup.mode source sent items) (holds : Holds source early sent blocks)
    (passes : Passes setup capacity ⟨stage, blocks, refusals⟩ deed later)
    (consumes : Consumes waiting items deed.sign rest) : Joins setup source early later rest := by
  by_cases heard : ∃ value, deed.sign = some (.heard value)
  · obtain ⟨value, heard⟩ := heard
    obtain rfl := (heard ▸ consumes).of_heard
    exact hear_awaiting awaits transmits holds passes heard
  · have unheard := not_exists.mp heard
    have behind := transmits.consume consumes unheard
    cases passes with
    | within | call | wait => exact .awaiting awaits behind holds
    | leave | spoil => exact .failed behind
    | ignore | «open» | finish | collect | accept | «repeat» | refuse | giveUp | drain =>
        exact absurd rfl (unheard _)
    | starve | reject | announce | answer | conclude | complete | cancel =>
        exact absurd awaits (by simp [Stage.Awaits])

theorem hear_collecting {raw unread : List UInt8} {value : UInt8}
    (inside : place < blockCount source) (near : sent = place ∨ sent = place + 1)
    (whole : raw ++ value :: unread = packet setup.mode source place)
    (transmits : Transmits setup.mode source (place + 1) items)
    (holds : Holds source early sent blocks)
    (passes : Passes setup capacity ⟨.collecting raw, blocks, refusals⟩ deed later)
    (heard : deed.sign = some (.heard value))
    (lasts : ∀ outcome, later.stage ≠ .finished outcome) :
    Joins setup source early later (unread.map .byte ++ items) := by
  have last := decode_of_full inside whole
  cases passes with
  | collect inner =>
      cases heard
      have frame_eq : raw ++ [value] ++ unread = packet setup.mode source place := by
        rw [List.append_assoc]
        exact whole
      exact .collecting inside near frame_eq (unread_ne_nil inside inner whole) transmits holds
  | accept full decoded follows =>
      cases heard
      obtain ⟨rfl, read⟩ := last full
      obtain rfl := Except.ok.inj (read.symm.trans decoded)
      exact .answering nofun nofun transmits (holds.next inside near follows)
  | «repeat» full decoded repeats =>
      cases heard
      obtain ⟨rfl, read⟩ := last full
      obtain rfl := Except.ok.inj (read.symm.trans decoded)
      exact .answering nofun nofun transmits (holds.again inside near repeats)
  | refuse full damaged =>
      cases heard
      exact absurd ((last full).2.symm.trans damaged) nofun
  | giveUp full =>
      cases heard
      obtain ⟨rfl, -⟩ := last full
      exact .canceling transmits
  | leave | spoil => exact absurd rfl (lasts _)
  | within | wait | starve => cases heard
  | ignore awaits | «open» awaits | finish awaits => simp [Stage.Awaits] at awaits

theorem of_collecting {raw unread : List UInt8} (inside : place < blockCount source)
    (near : sent = place ∨ sent = place + 1)
    (whole : raw ++ unread = packet setup.mode source place) (some_left : unread ≠ [])
    (transmits : Transmits setup.mode source (place + 1) items)
    (holds : Holds source early sent blocks)
    (passes : Passes setup capacity ⟨.collecting raw, blocks, refusals⟩ deed later)
    (consumes : Consumes false (unread.map .byte ++ items) deed.sign rest)
    (lasts : ∀ value, deed.sign = some (.heard value) →
      ∀ outcome, later.stage ≠ .finished outcome) :
    Joins setup source early later rest := by
  obtain ⟨value, unread, rfl⟩ := List.exists_cons_of_ne_nil some_left
  generalize sign_eq : deed.sign = sign at consumes
  cases consumes with
  | byte =>
      exact hear_collecting inside near whole transmits holds passes sign_eq (lasts _ sign_eq)
  | expire early => cases early
  | move | wrote =>
      cases passes with
      | within awaits => simp [Stage.Awaits] at awaits
      | leave _ _ causes => cases sign_eq <;> simp at causes
      | spoil _ writes => simp at writes
      | ignore | wait | «open» | finish | collect | accept | «repeat» | refuse | giveUp | starve =>
          cases sign_eq

theorem of_answering {purpose : Writing} (accepts : purpose ≠ .rejection)
    (last : purpose = .completion → blockCount source ≤ sent)
    (transmits : Transmits setup.mode source sent items) (holds : Holds source early sent blocks)
    (passes : Passes setup capacity ⟨.answering purpose, blocks, refusals⟩ deed later)
    (consumes : Consumes waiting items deed.sign rest) : Joins setup source early later rest := by
  cases passes with
  | announce | answer => exact .awaiting (.inr rfl) (transmits.consume consumes nofun) holds
  | conclude => exact .completed (holds.all (last rfl) (Nat.le_refl _))
  | spoil => exact .failed (transmits.consume consumes nofun)
  | within awaits | wait awaits | ignore awaits | «open» awaits | finish awaits =>
      simp [Stage.Awaits] at awaits
  | leave listens => simp [Stage.Listens, Stage.Awaits] at listens

theorem of_completed (holds : Holds source early (blockCount source) blocks)
    (passes : Passes setup capacity ⟨.completed, blocks, refusals⟩ deed later)
    (items : List (ScriptItem τ)) : Joins setup source early later items := by
  cases passes with
  | complete => exact .succeeded holds
  | within awaits | ignore awaits | wait awaits | «open» awaits | finish awaits =>
      simp [Stage.Awaits] at awaits
  | leave listens => simp [Stage.Listens, Stage.Awaits] at listens
  | spoil _ writes => simp at writes

theorem of_canceling (transmits : Transmits setup.mode source sent items)
    (passes : Passes setup capacity ⟨.canceling, blocks, refusals⟩ deed later)
    (consumes : Consumes waiting items deed.sign rest)
    (gave_up : ∀ length, later.stage ≠ .finished (.ok length)) :
    Joins setup source early later rest := by
  cases passes with
  | @cancel sign outcome _ _ cancels =>
      cases outcome with
      | ok length => exact absurd rfl (gave_up length)
      | error failure =>
          refine .failed (transmits.consume consumes fun value heard => ?_)
          cases Option.some.inj heard ▸ cancels
  | within awaits | ignore awaits | wait awaits | «open» awaits | finish awaits =>
      simp [Stage.Awaits] at awaits
  | leave listens => simp [Stage.Listens, Stage.Awaits] at listens
  | spoil _ writes => simp at writes

end Joins

section Reactions

variable {setup : Setup τ} {initial : Destination} {source : List UInt8} {early : Prop}
  {course : Course} {receiver : Receiver τ} {now : τ} {sign : Option Sign}
  {result : Receiver τ × List (Event τ)} {items rest : List (ScriptItem τ)}

theorem activity_collect_ne (receiver : Receiver τ) (now : τ) (raw : Array UInt8) (value : UInt8)
    (outcome : Outcome) : (receiver.collect now raw value).1.activity ≠ .ended outcome := by
  simp only [collect]
  split
  · simp
  · unfold receiveFrame
    split
    · unfold receiveBlock
      split
      · simp only [accept]
        split <;> simp [abortNotifying]
      · split <;> simp [abortNotifying]
    · simp

/-- A receiver that takes part in a transmission goes on to do so, as long as it goes on. -/
theorem Joins.react (joins : Joins setup source early course items)
    (stands : At setup initial course receiver) (reacts : Reacts receiver now sign result)
    (consumes : Consumes receiver.waits items sign rest) :
    ∃ later, At setup initial later result.1 ∧ Joins setup source early later rest := by
  obtain ⟨later, passes, arrives⟩ := stands.exists_passes reacts
  refine ⟨later, arrives, ?_⟩
  cases joins with
  | awaiting awaits transmits holds => exact .of_awaiting awaits transmits holds passes consumes
  | collecting inside near whole some_left transmits holds =>
      cases stands with
      | collecting _ _ collects =>
          -- No silence interrupts a packet, so the frame is read to its end.
          have still : receiver.waits = false := by
            simp only [waits, collects]
          refine .of_collecting inside near whole some_left transmits holds passes
            (still ▸ consumes) ?_
          rintro value rfl outcome finished
          have ended := arrives.ended_of_finished finished
          obtain ⟨_, -, rfl⟩ | ⟨silent, -⟩ | ⟨_, broken, -⟩ := reacts.of_collecting collects
          · exact activity_collect_ne _ _ _ _ _ ended
          · cases silent
          · cases broken
  | answering accepts last transmits holds =>
      exact .of_answering accepts last transmits holds passes consumes
  | completed holds => exact .of_completed holds passes rest
  | canceling transmits =>
      refine .of_canceling transmits passes consumes fun length finished => ?_
      have ended := arrives.ended_of_finished finished
      cases stands with
      | canceling _ _ writes =>
          obtain ⟨-, rfl⟩ | ⟨_, -, rfl⟩ := reacts.of_writing writes <;> cases ended
  | failed | succeeded =>
      cases stands with
      | finished _ _ ended => exact absurd reacts (Reacts.not_of_ended ended)

/-- When a receiver fails, the rest of the transmission is still to come; when it succeeds, the
transmission has come to its end. -/
theorem Joins.of_finished {outcome : Outcome} (joins : Joins setup source early course items)
    (finished : course.stage = .finished outcome) :
    (∃ failure sent, outcome = .error failure ∧ Transmits setup.mode source sent items) ∨
      ∃ length, outcome = .ok length ∧ Holds source early (blockCount source) course.blocks := by
  cases joins with
  | awaiting awaits =>
      obtain rfl : _ = Stage.finished outcome := finished
      simp [Stage.Awaits] at awaits
  | collecting | answering | completed | canceling => cases finished
  | @failed failure _ _ sent _ transmits =>
      exact .inl ⟨failure, sent, (Stage.finished.inj finished).symm, transmits⟩
  | @succeeded length _ _ _ holds =>
      exact .inr ⟨length, (Stage.finished.inj finished).symm, holds⟩

/-- A receiver that begins somewhere in a transmission takes part in it. -/
theorem joins_start (setup : Setup τ) {source : List UInt8} {early : Prop} {sent : Nat}
    (transmits : Transmits setup.mode source sent items) (first : early → sent = 0) :
    Joins setup source early ⟨.calling, [], 0⟩ items := by
  refine .awaiting (.inl rfl) transmits ⟨_, skips_nil source sent, fun early => ?_⟩
  rw [first early, Nat.zero_min]

end Reactions
end Receiver
end Xmodem
