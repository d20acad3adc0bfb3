import Mathlib.Data.List.Induction
import Xmodem.Proofs.Receiver.Stages

/-!
# What a receiver stores

Whatever the line does, the destination holds the payloads of the accepted blocks, cut at its end,
and behind them what it held before.  The counters, the block numbers, and the reported totals agree
with the accepted blocks, each of which arrived as one uninterrupted frame.
-/

namespace Xmodem
namespace Receiver

open Packets Destination

/-- The signs among deeds, in order. -/
def signs (deeds : List Deed) : List Sign :=
  deeds.filterMap Deed.sign

/-- The accepted blocks among deeds, in order. -/
def accepted (deeds : List Deed) : List Block :=
  deeds.filterMap Deed.accepted

/-- The totals that were reported, in order. -/
def totals (deeds : List Deed) : List Nat :=
  deeds.flatMap Deed.totals

/-- The totals after each of some number of blocks. -/
def milestones (capacity count : Nat) : List Nat :=
  (List.range count).map fun place => offset capacity (place + 1)

/-- Whether frames with some blocks were read one after the other, each in one piece. -/
inductive Reads (mode : ChecksumMode) : List Sign → List Block → Prop
  | nothing : Reads mode [] []
  | skip {signs : List Sign} {blocks : List Block} (sign : Sign) :
      Reads mode signs blocks → Reads mode (signs ++ [sign]) blocks
  | frame {signs : List Sign} {blocks : List Block} {raw : List UInt8} {block : Block} :
      Reads mode signs blocks → Frame.decode mode raw = .ok block →
      Reads mode (signs ++ raw.map .heard) (blocks ++ [block])

/-- Whether a deed is the acceptance of a block. -/
def Accepts (_ : List Deed) (deed : Deed) : Prop :=
  deed.accepted ≠ none

/-- Whether the acceptance of the last block was not written: it is about to be, or its write
failed. -/
def Unanswered (deeds : List Deed) : Prop :=
  Ends (fun before deed => Accepts before deed ∨
    (∃ bytes, deed.sign = some (.spoiled bytes)) ∧ Ends Accepts before) deeds

variable {τ : Type} [Quantity τ]

/-- What a receiver has done, seen from the line, and what it holds. -/
structure Image (setup : Setup τ) (initial : Destination) (deeds : List Deed)
    (receiver : Receiver τ) : Prop where
  /-- The cursor stands behind the accepted blocks, or at the end. -/
  cursor_eq : receiver.cursor = min (blockSize * (accepted deeds).length) initial.capacity
  /-- What lies before the cursor are the payloads, cut at the end. -/
  stored : receiver.destination.toList.take receiver.cursor =
    (payloads (accepted deeds)).take initial.capacity
  /-- What lies behind the cursor was never touched. -/
  untouched : receiver.destination.toList.drop receiver.cursor =
    initial.toList.drop receiver.cursor
  blocks_eq : receiver.metrics.blocks = (accepted deeds).length
  expected_eq : receiver.expectedBlock = .ofNat ((accepted deeds).length + 1)
  last_eq : receiver.lastAccepted =
    if accepted deeds = [] then none else some (.ofNat (accepted deeds).length)
  unstarted : receiver.phase = .awaitingStart → accepted deeds = []
  /-- A block is awaited only when there is room, except while the last one is acknowledged. -/
  roomy : receiver.phase = .awaitingBlock → receiver.activity ≠ .writing .acceptance →
    receiver.cursor < initial.capacity
  full : receiver.phase = .awaitingEotOrBlock → receiver.cursor = initial.capacity
  /-- Every accepted block was read as a frame without damage and without a pause. -/
  read : Reads setup.mode (signs deeds) (accepted deeds)
  numbered : ∀ place (inside : place < (accepted deeds).length),
    (accepted deeds)[place].number = .ofNat (place + 1)
  /-- Only padding lay beyond the end. -/
  fits : ∀ place (inside : place < (accepted deeds).length),
    FitsAt initial.capacity place (accepted deeds)[place].payload
  /-- Every block was reported, except the last one when it was not answered. -/
  reported : totals deeds = milestones initial.capacity (accepted deeds).length ∧
      ¬ Unanswered deeds ∨
    ∃ count, (accepted deeds).length = count + 1 ∧
      totals deeds = milestones initial.capacity count ∧ Unanswered deeds

section Laws

variable (deeds : List Deed) (deed : Deed)

@[simp]
theorem signs_append_singleton : signs (deeds ++ [deed]) = signs deeds ++ deed.sign.toList := by
  cases sign : deed.sign <;> simp [signs, sign]

@[simp]
theorem accepted_append_singleton :
    accepted (deeds ++ [deed]) = accepted deeds ++ deed.accepted.toList := by
  cases block : deed.accepted <;> simp [accepted, block]

@[simp]
theorem totals_append_singleton : totals (deeds ++ [deed]) = totals deeds ++ deed.totals := by
  simp [totals]

theorem milestones_succ (capacity count : Nat) :
    milestones capacity (count + 1) =
      milestones capacity count ++ [offset capacity (count + 1)] := by
  simp [milestones, List.range_succ]

theorem Reads.append {mode : ChecksumMode} {signs : List Sign} {blocks : List Block}
    (reads : Reads mode signs blocks) (more : List Sign) : Reads mode (signs ++ more) blocks := by
  induction more using List.reverseRecOn with
  | nil => simpa using reads
  | append_singleton more sign induction =>
      rw [← List.append_assoc]
      exact induction.skip sign

end Laws

/-- What was done on the way to a course. -/
structure Done (setup : Setup τ) (capacity : Nat) (deeds : List Deed) (course : Course) :
    Prop where
  accepted_eq : accepted deeds = course.blocks
  orderly : ∀ place (inside : place < course.blocks.length),
    Follows place course.blocks[place] ∧ FitsAt capacity place course.blocks[place].payload
  /-- The frame that is being read begins behind all others. -/
  read : ∃ earlier raw, signs deeds = earlier ++ raw.map .heard ∧
    Reads setup.mode earlier course.blocks ∧
    ∀ other, course.stage = .collecting other → other = raw
  accepts : course.stage = .answering .acceptance ↔ Ends Accepts deeds
  unanswered : Unanswered deeds →
    course.stage = .answering .acceptance ∨ ∃ outcome, course.stage = .finished outcome
  reported : totals deeds = milestones capacity course.blocks.length ∧ ¬ Unanswered deeds ∨
    ∃ count, course.blocks.length = count + 1 ∧ totals deeds = milestones capacity count ∧
      Unanswered deeds

section Passages

variable {setup : Setup τ} {capacity : Nat} {deeds : List Deed} {stage later : Stage}
  {blocks : List Block} {refusals : Nat}

theorem Done.reads (done : Done setup capacity deeds ⟨stage, blocks, refusals⟩) :
    Reads setup.mode (signs deeds) blocks := by
  obtain ⟨earlier, raw, same, reads, _⟩ := done.read
  rw [same]
  exact reads.append _

theorem Done.not_unanswered (done : Done setup capacity deeds ⟨stage, blocks, refusals⟩)
    (unaccepting : stage ≠ .answering .acceptance)
    (lasting : ∀ outcome, stage ≠ .finished outcome) :
    ¬ Unanswered deeds := by
  intro unanswered
  obtain accepting | ⟨outcome, finished⟩ := done.unanswered unanswered
  · exact unaccepting accepting
  · exact lasting outcome finished

theorem Done.totals_eq (done : Done setup capacity deeds ⟨stage, blocks, refusals⟩)
    (answered : ¬ Unanswered deeds) : totals deeds = milestones capacity blocks.length := by
  obtain ⟨same, _⟩ | ⟨_, _, _, unanswered⟩ := done.reported
  · exact same
  · exact absurd unanswered answered

theorem Done.quiet (done : Done setup capacity deeds ⟨stage, blocks, refusals⟩)
    (unaccepting : stage ≠ .answering .acceptance) (lasting : ∀ outcome, stage ≠ .finished outcome)
    (unaccepted : later ≠ .answering .acceptance) (sign : Option Sign) (counted : Nat)
    (collects : ∀ raw, later = .collecting raw → ∃ value, sign = some (.heard value) ∧
      (raw = [value] ∨ ∃ before, stage = .collecting before ∧ raw = before ++ [value])) :
    Done setup capacity (deeds ++ [.ofSign sign]) ⟨later, blocks, counted⟩ := by
  have open_ended := done.not_unanswered unaccepting lasting
  have unspoiled : ¬ Unanswered (deeds ++ [.ofSign sign]) := by
    rw [Unanswered, ends_append_singleton]
    rintro (accepts | ⟨_, accepts⟩)
    · exact accepts rfl
    · exact unaccepting (done.accepts.mpr accepts)
  refine ⟨?_, done.orderly, ?_, ?_, fun unanswered => absurd unanswered unspoiled,
    .inl ⟨?_, unspoiled⟩⟩
  · simpa [Deed.ofSign] using done.accepted_eq
  · rw [signs_append_singleton]
    by_cases reading : ∃ raw, later = .collecting raw
    · obtain ⟨raw, rfl⟩ := reading
      obtain ⟨value, rfl, rfl | ⟨before, rfl, rfl⟩⟩ := collects raw rfl
      · exact ⟨signs deeds, [value], rfl, done.reads, by rintro _ ⟨⟩; rfl⟩
      · obtain ⟨earlier, raw, same, reads, collected⟩ := done.read
        obtain rfl := collected before rfl
        refine ⟨earlier, before ++ [value], ?_, reads, by rintro _ ⟨⟩; rfl⟩
        rw [same]
        simp [Deed.ofSign]
    · refine ⟨signs deeds ++ sign.toList, [], by simp [Deed.ofSign], done.reads.append _, ?_⟩
      exact fun other collecting => absurd ⟨other, collecting⟩ reading
  · rw [ends_append_singleton]
    simp [Accepts, Deed.ofSign, unaccepted]
  · rw [totals_append_singleton, done.totals_eq open_ended]
    simp [Deed.ofSign]

theorem Done.accept {raw : List UInt8} {value : UInt8} {block : Block}
    (done : Done setup capacity deeds ⟨.collecting raw, blocks, refusals⟩)
    (decoded : Frame.decode setup.mode (raw ++ [value]) = .ok block)
    (follows : Follows blocks.length block) (fits : FitsAt capacity blocks.length block.payload) :
    Done setup capacity (deeds ++ [⟨some (.heard value), some block, []⟩])
      ⟨.answering .acceptance, blocks ++ [block], refusals⟩ := by
  have answered := done.not_unanswered nofun nofun
  have accepts : Ends Accepts (deeds ++ [⟨some (.heard value), some block, []⟩]) := by
    simp [Accepts]
  have unanswered : Unanswered (deeds ++ [⟨some (.heard value), some block, []⟩]) := by
    simp [Unanswered, Accepts]
  refine ⟨?_, ?_, ?_, by simpa using accepts, fun _ => .inl rfl,
    .inr ⟨blocks.length, List.length_append, ?_, unanswered⟩⟩
  · simp [done.accepted_eq]
  · intro place inside
    simp only [List.length_append, List.length_singleton] at inside
    obtain before | rfl := Nat.lt_succ_iff_lt_or_eq.mp inside
    · simpa [before] using done.orderly place before
    · simpa using ⟨follows, fits⟩
  · obtain ⟨earlier, before, same, reads, collected⟩ := done.read
    obtain rfl := collected raw rfl
    refine ⟨earlier ++ (raw ++ [value]).map .heard, [], ?_, reads.frame decoded, nofun⟩
    simp [same]
  · rw [totals_append_singleton, done.totals_eq answered, List.append_nil]

theorem Done.totals_of_accepting
    (done : Done setup capacity deeds ⟨.answering .acceptance, blocks, refusals⟩) :
    ∃ count, blocks.length = count + 1 ∧ totals deeds = milestones capacity count := by
  obtain ⟨before, deed, same, accepts⟩ := done.accepts.mp rfl
  obtain ⟨_, answered⟩ | ⟨count, long, reported, _⟩ := done.reported
  · exact absurd ⟨before, deed, same, .inl accepts⟩ answered
  · exact ⟨count, long, reported⟩

theorem Done.announce
    (done : Done setup capacity deeds ⟨.answering .acceptance, blocks, refusals⟩) :
    Done setup capacity
      (deeds ++ [⟨some (.wrote [Signal.byte .acknowledge]), none,
        [offset capacity blocks.length]⟩])
      ⟨.standing, blocks, refusals⟩ := by
  obtain ⟨count, long, reported⟩ := done.totals_of_accepting
  have answered : ¬ Unanswered (deeds ++ [⟨some (.wrote [Signal.byte .acknowledge]), none,
      [offset capacity blocks.length]⟩]) := by
    rw [Unanswered, ends_append_singleton]
    rintro (accepts | ⟨⟨bytes, spoiled⟩, _⟩)
    · exact accepts rfl
    · exact absurd spoiled nofun
  refine ⟨?_, done.orderly, ?_, by simp [Accepts], fun unanswered => absurd unanswered answered,
    .inl ⟨?_, answered⟩⟩
  · simpa using done.accepted_eq
  · rw [signs_append_singleton]
    exact ⟨_, [], (List.append_nil _).symm, done.reads.append _, nofun⟩
  · rw [totals_append_singleton, reported, long, milestones_succ]

theorem Done.spoil {outcome : Outcome} {bytes : List UInt8}
    (done : Done setup capacity deeds ⟨.answering .acceptance, blocks, refusals⟩) :
    Done setup capacity (deeds ++ [.ofSign (some (.spoiled bytes))])
      ⟨.finished outcome, blocks, refusals⟩ := by
  obtain ⟨count, long, reported⟩ := done.totals_of_accepting
  have unanswered : Unanswered (deeds ++ [.ofSign (some (.spoiled bytes))]) := by
    rw [Unanswered, ends_append_singleton]
    exact .inr ⟨⟨bytes, rfl⟩, done.accepts.mp rfl⟩
  refine ⟨?_, done.orderly, ?_, by simp [Accepts, Deed.ofSign], fun _ => .inr ⟨outcome, rfl⟩,
    .inr ⟨count, long, ?_, unanswered⟩⟩
  · simpa [Deed.ofSign] using done.accepted_eq
  · rw [signs_append_singleton]
    exact ⟨_, [], (List.append_nil _).symm, done.reads.append _, nofun⟩
  · rw [totals_append_singleton, reported]
    exact List.append_nil _

theorem Done.pass {course after : Course} {deed : Deed} (done : Done setup capacity deeds course)
    (passes : Passes setup capacity course deed after) :
    Done setup capacity (deeds ++ [deed]) after := by
  cases passes with
  | within awaits | wait awaits | ignore awaits _ =>
      obtain rfl | rfl := awaits <;> refine done.quiet ?_ ?_ ?_ _ _ ?_ <;> nofun
  | @«open» stage blocks refusals awaits =>
      obtain rfl | rfl := awaits <;> refine done.quiet (by nofun) (by nofun) (by nofun) _ _ ?_ <;>
        · rintro _ ⟨⟩
          exact ⟨_, rfl, .inl rfl⟩
  | finish awaits purpose =>
      obtain rfl | rfl := awaits <;> obtain rfl | rfl := purpose <;>
        refine done.quiet ?_ ?_ ?_ _ _ ?_ <;> nofun
  | @collect raw blocks refusals value _ =>
      refine done.quiet ?_ ?_ ?_ _ _ ?_
      case refine_4 =>
        rintro _ ⟨⟩
        exact ⟨value, rfl, .inr ⟨raw, rfl, rfl⟩⟩
      all_goals nofun
  | accept _ decoded follows fits => exact done.accept decoded follows fits
  | «repeat» | refuse | giveUp | starve | drain | reject | call | conclude | complete | cancel =>
      refine done.quiet ?_ ?_ ?_ _ _ ?_ <;> nofun
  | announce => exact done.announce
  | answer continues =>
      obtain rfl | rfl | rfl := continues <;> refine done.quiet ?_ ?_ ?_ _ _ ?_ <;> nofun
  | leave listens _ _ =>
      obtain (rfl | rfl) | ⟨_, rfl⟩ | rfl := listens <;>
        refine done.quiet ?_ ?_ ?_ _ _ ?_ <;> nofun
  | @spoil stage purpose failure blocks refusals _ writes =>
      obtain ⟨rfl, rfl⟩ | rfl := writes
      · refine done.quiet ?_ ?_ ?_ _ _ ?_ <;> nofun
      · by_cases accepting : purpose = .acceptance
        · subst accepting
          exact done.spoil
        · refine done.quiet (by simpa using accepting) ?_ ?_ _ _ ?_ <;> nofun

theorem done_of_treads {course : Course} (treads : Treads setup capacity deeds course) :
    Done setup capacity deeds course := by
  induction treads with
  | start =>
      refine ⟨rfl, nofun, ⟨[], [], rfl, .nothing, nofun⟩, ?_, ?_, .inl ⟨rfl, not_ends_nil _⟩⟩
      · simp [not_ends_nil]
      · exact fun unanswered => absurd unanswered (not_ends_nil _)
  | pass _ passes induction => exact induction.pass passes

end Passages

section Phases

variable {setup : Setup τ} {initial : Destination} {course : Course} {receiver : Receiver τ}

theorem At.blocks_eq_nil (stands : At setup initial course receiver)
    (calls : receiver.phase = .awaitingStart) : course.blocks = [] := by
  obtain ⟨_, nothing⟩ | met | ⟨inside, _⟩ | ends | ends := stands.phase_cases
  · exact nothing
  · exact absurd (met.symm.trans calls) (phaseAt_ne_awaitingStart _ _)
  · cases inside.symm.trans calls
  all_goals cases ends.symm.trans calls

/-- A receiver that waits for a block has room. -/
theorem At.cursor_lt (stands : At setup initial course receiver)
    (inside : receiver.phase = .awaitingBlock)
    (other : receiver.activity ≠ .writing .acceptance) : receiver.cursor < initial.capacity := by
  obtain ⟨calls, _⟩ | met | ⟨_, writes⟩ | ends | ends := stands.phase_cases
  · cases calls.symm.trans inside
  · have waits := met.symm.trans inside
    rw [stands.keeps.cursor_eq]
    unfold phaseAt at waits
    split at waits
    · cases waits
    · omega
  · exact absurd writes other
  all_goals cases ends.symm.trans inside

/-- A receiver that waits for the end of transmission is full. -/
theorem At.cursor_eq_capacity (stands : At setup initial course receiver)
    (full : receiver.phase = .awaitingEotOrBlock) : receiver.cursor = initial.capacity := by
  obtain ⟨calls, _⟩ | met | ⟨inside, _⟩ | ends | ends := stands.phase_cases
  · cases calls.symm.trans full
  · have waits := met.symm.trans full
    have most := offset_le initial.capacity course.blocks.length
    rw [stands.keeps.cursor_eq]
    unfold phaseAt at waits
    split at waits
    · omega
    · cases waits
  · cases inside.symm.trans full
  all_goals cases ends.symm.trans full

/-- What lies behind the cursor of a receiver. -/
theorem Keeps.drop_eq {blocks : List Block} {refusals : Nat}
    (keeps : Keeps setup initial blocks refusals receiver) :
    initial.toList.drop (blockSize * blocks.length) = initial.toList.drop receiver.cursor := by
  rw [keeps.cursor_eq, offset]
  rcases Nat.le_total (blockSize * blocks.length) initial.capacity with below | above
  · rw [Nat.min_eq_left below]
  · rw [Nat.min_eq_right above, List.drop_of_length_le (by rwa [length_toList]),
      List.drop_of_length_le (Nat.le_of_eq (length_toList initial))]

end Phases

/-- Whatever the line does, the destination holds the accepted blocks. -/
theorem image_of_converses {setup : Setup τ} {initial : Destination} {now : τ}
    {moments : List (Moment (Receiver τ) τ)} {receiver : Receiver τ}
    (talks : Converses (start setup initial now) moments receiver) :
    Image setup initial (moments.map deed) receiver := by
  obtain ⟨⟨stage, blocks, refusals⟩, treads, stands⟩ := exists_treads talks
  have done := done_of_treads treads
  obtain rfl : accepted (moments.map deed) = blocks := done.accepted_eq
  have keeps := stands.keeps
  have front : ((payloads (accepted (moments.map deed))).take initial.capacity).length =
      receiver.cursor := by
    rw [keeps.cursor_eq, List.length_take, length_payloads, offset, Nat.min_comm]
  exact
    { cursor_eq := keeps.cursor_eq
      stored := by rw [keeps.content_eq, List.take_left' front]
      untouched := by rw [keeps.content_eq, List.drop_left' front, keeps.drop_eq]
      blocks_eq := keeps.blocks_eq
      expected_eq := keeps.expected_eq
      last_eq := by simpa using keeps.last_eq
      unstarted := stands.blocks_eq_nil
      roomy := stands.cursor_lt
      full := stands.cursor_eq_capacity
      read := done.reads
      numbered := fun place inside => (done.orderly place inside).1
      fits := fun place inside => (done.orderly place inside).2
      reported := done.reported }

/-- A receiver with room for three bytes, whose frame is damaged at first. -/
theorem image_of_three_bytes :
    let setup : Setup Rat := ⟨.brief, .additive, none, false⟩
    let frame := Frame.encode .additive (block [1, 2, 3] 0)
    let line : ScriptedLine Rat :=
      ⟨(frame.map .byte).set 1 (.byte 0) ++ .silence :: frame.map .byte ++
        [.silence, .byte (Signal.byte .endOfTransmission)], none, [], 0⟩
    ∃ after moments,
      (Run.mk (start setup (.filled 3 0) 0) line 0 []).complete 400 = some after ∧
      Converses (start setup (.filled 3 0) 0) moments after.session ∧
      (accepted (moments.map deed)).length = 1 ∧
      after.session.destination.toList = [1, 2, 3] ∧
      Image setup (.filled 3 0) (moments.map deed) after.session := by
  intro setup frame line
  have ends : ((Run.mk (start setup (.filled 3 0) 0) line 0 []).complete 400).map
      (fun after => (after.session.metrics.blocks, after.session.destination.toList)) =
        some (1, [1, 2, 3]) := by
    decide +kernel
  obtain ⟨after, ends, same⟩ := Option.map_eq_some_iff.mp ends
  obtain ⟨blocks_eq, content_eq⟩ := Prod.mk.inj same
  obtain ⟨moments, talks, _⟩ := Run.exists_converses ends
  have image := image_of_converses talks
  exact ⟨after, moments, ends, talks, image.blocks_eq.symm.trans blocks_eq, content_eq, image⟩

end Receiver
end Xmodem
