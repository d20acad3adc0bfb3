import Xmodem.BootLoop
import Xmodem.Proofs.Receiver.Closing
import Xmodem.Proofs.Receiver.Joining

/-!
# Restarts within a transmission

When a session of a boot loop fails, the next one begins while the sender goes on from where it was.
So a session may miss the first blocks.  The loop never takes what such a session got for the whole
source: it reports fewer bytes than the source has.
-/

namespace Xmodem

open Packets Destination

variable {τ : Type} [Quantity τ]

namespace Packets

theorem payload_block_drop (source : List UInt8) (skipped place : Nat) :
    (block source (skipped + place)).payload =
      (block (source.drop (blockSize * skipped)) place).payload := by
  rw [payload_block, payload_block, List.drop_drop, Nat.mul_add]

theorem payloads_range' (source : List UInt8) (skipped count : Nat) :
    payloads ((List.range' skipped count).map (block source)) =
      image (source.drop (blockSize * skipped)) count := by
  rw [payloads, image, List.range'_eq_map_range, List.map_map, List.flatMap_map]
  simp only [Function.comp_apply, payload_block_drop]

theorem blockSize_mul_sub_lt {source : List UInt8} {skipped : Nat} (some_skipped : 0 < skipped)
    (inside : skipped ≤ blockCount source) :
    blockSize * (blockCount source - skipped) < source.length := by
  simp only [blockCount, blockSize] at inside ⊢
  omega

end Packets

namespace Receiver

/-- A receiver reports fewer bytes than a source has, since it has skipped some blocks of it. -/
structure Misses (source : List UInt8) (receiver : Receiver τ) (count skipped : Nat) : Prop where
  some_skipped : 0 < skipped
  inside : skipped ≤ blockCount source
  aligned : 256 ∣ skipped ∨ skipped = blockCount source
  short : count < source.length
  stored : count ≤ blockSize * (blockCount source - skipped)
  content_eq : receiver.destination.toList.take (blockSize * (blockCount source - skipped)) =
    image (source.drop (blockSize * skipped)) (blockCount source - skipped)

/-- Whether a receiver takes part in a transmission, perhaps from the beginning, since it was
started on a destination of some capacity. -/
def Attends (setup : Setup τ) (capacity : Nat) (source : List UInt8) (early : Prop)
    (receiver : Receiver τ) (items : List (ScriptItem τ)) : Prop :=
  ∃ initial begun moments course, initial.capacity = capacity ∧
    Converses (start setup initial begun) moments receiver ∧ At setup initial course receiver ∧
    Joins setup source early course items

section Attending

variable {setup : Setup τ} {capacity : Nat} {source : List UInt8} {early : Prop}
  {receiver : Receiver τ} {items rest : List (ScriptItem τ)}

theorem attends_start (setup : Setup τ) (initial : Destination) (begun : τ) {sent : Nat}
    (transmits : Transmits setup.mode source sent items) (first : early → sent = 0) :
    Attends setup initial.capacity source early (start setup initial begun) items :=
  ⟨initial, begun, [], _, rfl, .silent, at_start setup initial begun,
    joins_start setup transmits first⟩

theorem Attends.meet (attends : Attends setup capacity source early receiver items) {now later : τ}
    {answer : Answer} (meets : Meets (Session.action receiver now) now items answer later rest) :
    Attends setup capacity source early (receiver.next later answer).1 rest := by
  obtain ⟨initial, begun, moments, course, capacity_eq, talks, stands, joins⟩ := attends
  obtain ⟨after, arrives, joins⟩ :=
    joins.react stands (reacts_of_valid meets.valid) (meets.consumes receiver.waits)
  exact ⟨initial, begun, _, after, capacity_eq, .step talks meets.valid, arrives, joins⟩

/-- When a receiver fails, the rest of the transmission is still to come. -/
theorem Attends.of_failed (attends : Attends setup capacity source early receiver items)
    {failure : Failure} (failed : receiver.outcome? = some (.error failure)) :
    receiver.setup = setup ∧ receiver.destination.capacity = capacity ∧
      ∃ sent, Transmits setup.mode source sent items := by
  obtain ⟨initial, begun, moments, course, rfl, talks, stands, joins⟩ := attends
  have finished := stands.stage_of_ended (outcome?_eq_some_iff.mp failed)
  refine ⟨stands.keeps.setup_eq, stands.keeps.capacity_eq, ?_⟩
  obtain ⟨_, sent, -, transmits⟩ | ⟨_, ⟨⟩, -⟩ := joins.of_finished finished
  exact ⟨sent, transmits⟩

theorem transferred_le_cursor {expected : Nat}
    (known : receiver.setup.expectedLength = some expected)
    (unreached : receiver.cursor < expected) : receiver.transferred ≤ receiver.cursor := by
  simp only [transferred, known, if_neg (Nat.not_le_of_lt unreached)]
  split
  · exact Nat.sub_le ..
  · exact Nat.le_refl _

theorem Keeps.whole {initial : Destination} {blocks : List Block} {refusals : Nat}
    (keeps : Keeps setup initial blocks refusals receiver)
    (skips : Skips source (blockCount source) 0 blocks)
    (known : setup.expectedLength = some source.length) (long : source.length ≤ initial.capacity) :
    receiver.transferred = source.length ∧
      receiver.destination.toList.take source.length = source := by
  have all := (blockCount_le_iff source _).mp (Nat.le_refl _)
  have blocks_eq := skips.blocks_eq
  have length_eq := skips.length_eq
  rw [Nat.min_self, Nat.sub_zero] at blocks_eq length_eq
  constructor
  · refine transferred_eq_of_expected (keeps.setup_eq ▸ known) ?_
    rw [keeps.cursor_eq, length_eq]
    exact Nat.le_min.mpr ⟨all, long⟩
  · rw [keeps.content_eq, blocks_eq, payloads_range', Nat.mul_zero, List.drop_zero]
    exact take_image_append long _

theorem Keeps.misses {initial : Destination} {blocks : List Block} {refusals skipped : Nat}
    (keeps : Keeps setup initial blocks refusals receiver)
    (skips : Skips source (blockCount source) skipped blocks) (some_skipped : 0 < skipped)
    (known : setup.expectedLength = some source.length) (long : source.length ≤ initial.capacity) :
    Misses source receiver receiver.transferred skipped := by
  have length_eq := skips.length_eq
  obtain ⟨blocks_eq, inside, aligned⟩ := skips
  rw [Nat.min_self] at blocks_eq inside aligned length_eq
  have short := blockSize_mul_sub_lt some_skipped inside
  have cursor_eq : receiver.cursor = blockSize * (blockCount source - skipped) := by
    rw [keeps.cursor_eq, length_eq, offset, Nat.min_eq_left (by omega)]
  have stored := transferred_le_cursor (keeps.setup_eq ▸ known) (cursor_eq ▸ short)
  rw [cursor_eq] at stored
  refine ⟨some_skipped, inside, aligned, by omega, stored, ?_⟩
  have fits : (image (source.drop (blockSize * skipped)) (blockCount source - skipped)).take
      initial.capacity = image (source.drop (blockSize * skipped)) (blockCount source - skipped) := by
    refine List.take_of_length_le ?_
    rw [length_image]
    omega
  rw [keeps.content_eq, blocks_eq, payloads_range', fits, List.take_left' (length_image ..)]

/-- What a receiver reports that was there from the beginning, or came later. -/
theorem Attends.of_ok (attends : Attends setup capacity source early receiver items)
    (known : setup.expectedLength = some source.length) (long : source.length ≤ capacity)
    {count : Nat} (succeeded : receiver.outcome? = some (.ok count)) :
    count = source.length ∧ receiver.destination.toList.take source.length = source ∨
      ¬ early ∧ ∃ skipped, Misses source receiver count skipped := by
  obtain ⟨initial, begun, moments, course, rfl, talks, stands, joins⟩ := attends
  have ended := outcome?_eq_some_iff.mp succeeded
  have finished := stands.stage_of_ended ended
  obtain rfl := eq_transferred_of_converses talks succeeded
  obtain ⟨_, _, ⟨⟩, -⟩ | ⟨_, -, skipped, skips, none_skipped⟩ := joins.of_finished finished
  obtain rfl | some_skipped := Nat.eq_zero_or_pos skipped
  · exact .inl (stands.keeps.whole skips known long)
  · refine .inr ⟨fun first => ?_, skipped, stands.keeps.misses skips some_skipped known long⟩
    exact absurd (none_skipped first) some_skipped.ne'

end Attending
end Receiver

namespace BootLoop

/-- Whether the current session of a loop takes part in a transmission, from the beginning when it
is the first one. -/
structure Attends (setup : Receiver.Setup τ) (capacity : Nat) (source : List UInt8)
    (loop : BootLoop τ) (items : List (ScriptItem τ)) : Prop where
  positive : 0 < loop.session
  attends : loop.receiver.Attends setup capacity source (loop.session = 1) items

/-- How a loop ends that took part in a transmission. -/
inductive Reports (source : List UInt8) (loop : BootLoop τ) : Outcome → Prop
  | failed (failure : Failure) : Reports source loop (.error failure)
  | whole : loop.receiver.destination.toList.take source.length = source →
      Reports source loop (.ok source.length)
  | late {count skipped : Nat} : 1 < loop.session → loop.receiver.Misses source count skipped →
      Reports source loop (.ok count)

section Looping

variable {setup : Receiver.Setup τ} {capacity : Nat} {source : List UInt8} {loop : BootLoop τ}
  {now later : τ} {answer : Answer} {items rest : List (ScriptItem τ)}

theorem eq_start_of_open? {limit : Option Int}
    {opened : Except DestinationError (Receiver τ)} {loop : BootLoop τ}
    (opens : open? limit opened = .ok loop) :
    ∃ receiver, opened = .ok receiver ∧ loop = start (limit.map Int.toNat) receiver ∧
      ∀ most, limit = some most → 1 ≤ most := by
  cases limit with
  | none =>
      cases opened with
      | error error => exact absurd opens nofun
      | ok receiver => exact ⟨receiver, rfl, (Except.ok.inj opens).symm, nofun⟩
  | some most =>
      simp only [open?] at opens
      split at opens
      · exact absurd opens nofun
      · rename_i some_session
        cases opened with
        | error error => exact absurd opens nofun
        | ok receiver =>
            refine ⟨receiver, rfl, (Except.ok.inj opens).symm, ?_⟩
            rintro _ ⟨⟩
            exact Int.not_lt.mp some_session

/-- What the current session of a loop does at a moment of the loop. -/
def inner (moment : Moment (BootLoop τ) τ) : Moment (Receiver τ) τ :=
  ⟨moment.session.receiver, moment.asked, moment.answer, moment.answered⟩

section Moments

variable {moment : Moment (BootLoop τ) τ}

theorem valid_inner (valid : moment.Valid) : (inner moment).Valid :=
  ⟨valid.allowed, valid.prompt⟩

/-- The current session of a loop that acts is not over. -/
theorem outcome?_eq_none_of_valid (valid : moment.Valid) :
    moment.session.receiver.outcome? = none := by
  by_contra ended
  have stops : moment.action = .stop :=
    (Receiver.action_eq_stop_iff _ moment.asked).mpr (Option.ne_none_iff_exists'.mp ended)
  have allowed := valid.allowed
  rw [stops] at allowed
  cases allowed

/-- After a reaction of its receiver, a loop goes on with it, or with a fresh one when it failed, a
fresh session may avoid the failure, and one is left. -/
theorem after_cases (valid : moment.Valid) :
    (∀ failure, (inner moment).after.outcome? = some (.error failure) →
        failure.retryable = true → moment.session.mayRestart = false) ∧
        moment.after = { moment.session with receiver := (inner moment).after } ∨
      ∃ failure, (inner moment).after.outcome? = some (.error failure) ∧
        failure.retryable = true ∧ moment.session.mayRestart = true ∧ moment.after =
          { moment.session with
            session := moment.session.session + 1
            receiver := .start (inner moment).after.setup (inner moment).after.destination
              moment.answered } := by
  obtain ⟨loop, asked, answer, now⟩ := moment
  have goes_on : loop.receiver.outcome? = none := outcome?_eq_none_of_valid valid
  change (∀ failure, (loop.receiver.next now answer).1.outcome? = _ → _) ∧
      (loop.next now answer).1 = _ ∨
    ∃ failure, (loop.receiver.next now answer).1.outcome? = _ ∧ _ ∧ _ ∧ (loop.next now answer).1 = _
  unfold next
  rw [goes_on]
  simp only
  split
  · rename_i failure failed
    split
    · rename_i retryable
      unfold restart
      split
      · rename_i left
        exact .inr ⟨failure, failed, retryable, left, rfl⟩
      · rename_i none_left
        exact .inl ⟨fun _ _ _ => Bool.eq_false_iff.mpr none_left, rfl⟩
    · rename_i final
      refine .inl ⟨fun other also retryable => ?_, rfl⟩
      obtain rfl := Except.error.inj (Option.some.inj (failed.symm.trans also))
      exact absurd retryable final
  · rename_i unfailed
    exact .inl ⟨fun failure failed => absurd failed (unfailed failure), rfl⟩

end Moments

/-- Every step of a loop takes part in the transmission, also a step to the next session. -/
theorem Attends.meet (attends : Attends setup capacity source loop items)
    (meets : Meets (Session.action loop now) now items answer later rest) :
    Attends setup capacity source (Session.next loop later answer).1 rest := by
  obtain ⟨positive, attends⟩ := attends
  have attended : Receiver.Attends setup capacity source (loop.session = 1)
      (inner ⟨loop, now, answer, later⟩).after rest := attends.meet meets
  change Attends setup capacity source (Moment.mk loop now answer later).after rest
  obtain ⟨-, same⟩ | ⟨failure, failed, -, -, fresh⟩ := after_cases meets.valid
  · rw [same]
    exact ⟨positive, attended⟩
  · obtain ⟨setup_eq, capacity_eq, sent, transmits⟩ := attended.of_failed failed
    rw [fresh, setup_eq]
    refine ⟨Nat.succ_pos _, ?_⟩
    rw [← capacity_eq]
    exact Receiver.attends_start setup _ later transmits fun first =>
      absurd (Nat.succ.inj first) positive.ne'

theorem Attends.reports (attends : Attends setup capacity source loop items)
    (known : setup.expectedLength = some source.length) (long : source.length ≤ capacity)
    {outcome : Outcome} (ended : loop.receiver.outcome? = some outcome) :
    Reports source loop outcome := by
  cases outcome with
  | error failure => exact .failed failure
  | ok count =>
      obtain ⟨rfl, whole⟩ | ⟨later, skipped, misses⟩ := attends.attends.of_ok known long ended
      · exact .whole whole
      · have positive := attends.positive
        exact .late (by omega) misses

/-- A boot loop that hears all packets of a sender, with silences between them, never takes a part of
the source for the whole. -/
theorem reports_of_perform {initial : Destination} {limit : Option Nat} {counts : List Nat}
    {fuel : Nat} {result : Except AlreadyRan Outcome} {final : Run (BootLoop τ) τ}
    (known : setup.expectedLength = some source.length) (long : source.length ≤ initial.capacity)
    (some_copy : ∀ count ∈ counts, 0 < count) (inside : counts.length ≤ blockCount source + 1)
    (spaced : Spaced (Sender.groups setup.mode source counts) items)
    (ends : (Run.mk (start limit (.start setup initial now)) ⟨items, none, [], 0⟩ now
      []).perform fuel = some (result, final)) :
    ∃ outcome, result = .ok outcome ∧ Reports source final.session outcome := by
  obtain ⟨outcome, rfl, completes, ended⟩ := Run.complete_of_perform rfl ends
  have begins : Attends setup initial.capacity source (start limit (.start setup initial now))
      items :=
    ⟨Nat.one_pos, Receiver.attends_start setup initial now
      ⟨_, remaining_groups some_copy inside, spaced⟩ fun _ => rfl⟩
  have attends := Run.keeps_of_complete Attends.meet begins spaced.plain rfl rfl completes
  exact ⟨outcome, rfl, attends.reports known long ended⟩

end Looping

/-- The first session hears nothing, and the second one hears the block twice. -/
theorem reports_of_repeated_block :
    let setup : Receiver.Setup Rat := ⟨.brief, .additive, some 3, false⟩
    let frame := (packet .additive [1, 2, 3] 0).map .byte
    let items := .silence :: .silence :: (frame ++ .silence :: (frame ++
      ([Signal.byte .endOfTransmission].map .byte ++ [])))
    Spaced (Sender.groups .additive [1, 2, 3] [2, 1]) items ∧
    ∃ final, (Run.mk (start (some 2) (.start setup (.filled 3 0) 0)) ⟨items, none, [], 0⟩ 0
        []).perform 400 = some (.ok (.ok 3), final) ∧
      Reports [1, 2, 3] final.session (.ok 3) := by
  intro setup frame items
  have spaced : Spaced (Sender.groups .additive [1, 2, 3] [2, 1]) items :=
    .silence (.silence (.write (.silence (.write (.write .nil)))))
  have runs : ((Run.mk (start (some 2) (.start setup (.filled 3 0) 0)) ⟨items, none, [], 0⟩ 0
      []).perform 400).any (fun ending => ending.1 = .ok (.ok 3)) = true := by
    decide +kernel
  obtain ⟨⟨result, final⟩, ends, same⟩ := (Option.any_eq_true ..).mp runs
  obtain rfl : result = .ok (.ok 3) := of_decide_eq_true same
  obtain ⟨_, ⟨⟩, reports⟩ :=
    reports_of_perform rfl (by decide) (by decide) (by decide) spaced ends
  exact ⟨spaced, final, ends, reports⟩

/-- The first session gets one of two blocks, the second one refuses the other block, and the third
one takes the end of transmission for an empty transfer. -/
theorem part_reported_as_complete :
    let source := List.replicate 129 7
    let setup : Receiver.Setup Rat := ⟨.brief, .additive, some 129, false⟩
    ∃ items final, Spaced (Sender.groups .additive source [1, 1, 1]) items ∧
      (Run.mk (start none (.start setup (.filled 129 0) 0)) ⟨items, none, [], 0⟩ 0
        []).perform 1000 = some (.ok (.ok 0), final) ∧
      final.session.receiver.destination.toList.take 129 ≠ source := by
  intro source setup
  let frame (place : Nat) : List (ScriptItem Rat) := (packet .additive source place).map .byte
  let items := frame 0 ++ .silence :: .silence :: (frame 1 ++ (frame 2 ++ []))
  have spaced : Spaced (Sender.groups .additive source [1, 1, 1]) items :=
    .write (.silence (.silence (.write (.write .nil))))
  have runs : ((Run.mk (start none (.start setup (.filled 129 0) 0)) ⟨items, none, [], 0⟩ 0
      []).perform 1000).any (fun ending => ending.1 = .ok (.ok 0) ∧
        ending.2.session.receiver.destination.toList.take 129 ≠ source) = true := by
    decide +kernel
  obtain ⟨⟨result, final⟩, ends, holds⟩ := (Option.any_eq_true ..).mp runs
  obtain ⟨rfl, content⟩ := of_decide_eq_true holds
  exact ⟨items, final, spaced, ends, content⟩

end BootLoop
end Xmodem
