import Xmodem.Proofs.Agreement
import Xmodem.Proofs.Crossing

/-!
# Packets in succession

When writes are only delayed or lost, what waits at a receiver takes it forward packet by packet:
each is the next one or the last one again.  An acknowledgement may be one of an earlier copy, and
then the sender goes on although nothing of its packet has arrived.  As long as a copy of every
block arrives before the sender goes on, the succession has no gap.
-/

namespace Xmodem

open Packets

namespace Packets

/-- The first blocks of a source; all when there are not so many. -/
def blocks (source : List UInt8) (count : Nat) : List Block :=
  (List.range (min count (blockCount source))).map (block source)

variable {source : List UInt8} {count : Nat}

theorem length_blocks (source : List UInt8) (count : Nat) :
    (blocks source count).length = min count (blockCount source) := by
  simp [blocks]

theorem blocks_succ (inside : count < blockCount source) :
    blocks source (count + 1) = blocks source count ++ [block source count] := by
  rw [blocks, blocks, Nat.min_eq_left inside, Nat.min_eq_left inside.le, List.range_succ,
    List.map_append, List.map_singleton]

theorem blocks_of_le (all : blockCount source ≤ count) :
    blocks source count = blocks source (blockCount source) := by
  rw [blocks, blocks, Nat.min_eq_right all, Nat.min_self]

/-- What arrives when a receiver waits for the block at some place, or has just got it. -/
theorem follows_block_iff {place : Nat} (inside : place < blockCount source)
    (near : count = place ∨ count = place + 1) :
    (Receiver.Follows (blocks source count).length (block source place) ↔ count = place) ∧
      (Receiver.Repeats (blocks source count).length (block source place) ↔
        count = place + 1) := by
  have number_eq : (block source place).number = .ofNat (place + 1) := rfl
  rw [length_blocks, Nat.min_eq_left (by omega), Receiver.Follows, Receiver.Repeats, number_eq]
  -- Neighbouring numbers differ, also where they wrap around.
  obtain rfl | rfl := near <;> simp [UInt8.ofNat_add]

/-- Whether bytes take a receiver that has got some packets to a horizon, packet by packet. -/
inductive Arriving (mode : ChecksumMode) (source : List UInt8) (horizon : Nat) :
    Nat → List UInt8 → Prop
  | done : Arriving mode source horizon horizon []
  /-- The next packet. -/
  | next {count : Nat} {rest : List UInt8} :
      count ≤ blockCount source → Arriving mode source horizon (count + 1) rest →
      Arriving mode source horizon count (packet mode source count ++ rest)
  /-- The last packet again. -/
  | again {count : Nat} {rest : List UInt8} :
      count ≤ blockCount source → Arriving mode source horizon (count + 1) rest →
      Arriving mode source horizon (count + 1) (packet mode source count ++ rest)
  /-- A cancellation. -/
  | cancel {count : Nat} {rest : List UInt8} :
      Arriving mode source horizon count rest →
      Arriving mode source horizon count (Signal.byte .cancel :: rest)

namespace Arriving

variable {mode : ChecksumMode} {horizon later : Nat} {front back : List UInt8}

theorem append (first : Arriving mode source horizon count front)
    (second : Arriving mode source later horizon back) :
    Arriving mode source later count (front ++ back) := by
  induction first with
  | done => exact second
  | next inside _ induction => exact List.append_assoc .. ▸ .next inside induction
  | again inside _ induction => exact List.append_assoc .. ▸ .again inside induction
  | cancel _ induction => exact .cancel induction

/-- What the first byte tells. -/
inductive Opens (mode : ChecksumMode) (source : List UInt8) (horizon count : Nat) :
    UInt8 → List UInt8 → Prop
  | block {place : Nat} {frame rest : List UInt8} :
      place < blockCount source → count = place ∨ count = place + 1 →
      packet mode source place = startOfBlock :: frame →
      Arriving mode source horizon (place + 1) rest →
      Opens mode source horizon count startOfBlock (frame ++ rest)
  | ending {rest : List UInt8} :
      blockCount source ≤ count → Arriving mode source horizon (blockCount source + 1) rest →
      Opens mode source horizon count (Signal.byte .endOfTransmission) rest
  | cancel {rest : List UInt8} :
      Opens mode source horizon count (Signal.byte .cancel) rest

theorem opens {value : UInt8} {rest : List UInt8}
    (arriving : Arriving mode source horizon count (value :: rest)) :
    Opens mode source horizon count value rest := by
  have packet_opens {place : Nat} {bytes : List UInt8} (inside : place ≤ blockCount source)
      (near : count = place ∨ count = place + 1)
      (same : packet mode source place ++ bytes = value :: rest)
      (later : Arriving mode source horizon (place + 1) bytes) :
      Opens mode source horizon count value rest := by
    obtain before | last := Nat.lt_or_eq_of_le inside
    · have begins : packet mode source place = _ := packet_eq_cons before
      rw [begins, List.cons_append] at same
      obtain ⟨rfl, rfl⟩ := List.cons.inj same
      exact .block before near begins later
    · subst last
      rw [packet_blockCount, List.singleton_append] at same
      obtain ⟨rfl, rfl⟩ := List.cons.inj same
      exact .ending (by omega) later
  generalize whole : value :: rest = line at arriving
  cases arriving with
  | done => cases whole
  | next inside later => exact packet_opens inside (.inl rfl) whole.symm later
  | again inside later => exact packet_opens inside (.inr rfl) whole.symm later
  | cancel later =>
      obtain ⟨rfl, rfl⟩ := List.cons.inj whole
      exact .cancel

end Arriving
end Packets
variable {τ : Type} [Quantity τ]

section Receiving

variable {setup : Receiver.Setup τ} {capacity : Nat} {source : List UInt8} {horizon : Nat}
  {course later : Receiver.Course} {deed : Receiver.Deed} {line : List UInt8}

theorem Receiver.Passes.listens {value : UInt8}
    (passes : Receiver.Passes setup capacity course deed later)
    (heard : deed.sign = some (.heard value)) : course.stage.Listens := by
  cases passes with
  | ignore awaits | «open» awaits | finish awaits _ => exact .inl awaits
  | collect | accept | «repeat» | refuse | giveUp => exact .inr (.inl ⟨_, rfl⟩)
  | drain => exact .inr (.inr rfl)
  | leave listens => exact listens
  | within | call | wait | starve | reject | announce | answer | conclude | complete | spoil =>
      cases heard
  | cancel cancels => cases Option.some.inj heard ▸ cancels

theorem Receiver.Passes.of_awaits {stage : Receiver.Stage} {stored : List Block} {refusals : Nat}
    {value : UInt8} (awaits : stage.Awaits)
    (passes : Receiver.Passes setup capacity ⟨stage, stored, refusals⟩ deed later)
    (heard : deed.sign = some (.heard value)) :
    later = ⟨stage, stored, refusals⟩ ∧ value ∉ Receiver.announcements ∨
      later = ⟨.collecting [startOfBlock], stored, refusals⟩ ∧ value = startOfBlock ∨
      (∃ purpose, later = ⟨.answering purpose, stored, refusals⟩ ∧ purpose ≠ .rejection ∧
        value = Signal.byte .endOfTransmission) ∨
      ∃ failure, later = ⟨.finished (.error failure), stored, refusals⟩ ∧
        Receiver.Innocent (.error failure) := by
  cases passes with
  | ignore _ noise =>
      cases heard
      exact .inl ⟨rfl, noise⟩
  | «open» =>
      cases heard
      exact .inr (.inl ⟨rfl, rfl⟩)
  | finish _ ends =>
      cases heard
      obtain rfl | rfl := ends <;> exact .inr (.inr (.inl ⟨_, rfl, nofun, rfl⟩))
  | leave _ innocent => exact .inr (.inr (.inr ⟨_, rfl, innocent⟩))
  | within | call | wait | starve | reject | announce | answer | conclude | complete | spoil =>
      cases heard
  | collect | accept | «repeat» | refuse | giveUp | drain | cancel =>
      exact absurd awaits (by simp [Receiver.Stage.Awaits])

/-- Whether what waits at a receiver takes it to a horizon. -/
inductive Receives (setup : Receiver.Setup τ) (source : List UInt8) (horizon : Nat) :
    Receiver.Course → List UInt8 → Prop
  | awaiting {stage : Receiver.Stage} {count : Nat} {line : List UInt8} :
      stage.Awaits → Arriving setup.mode source horizon count line →
      Receives setup source horizon ⟨stage, blocks source count, 0⟩ line
  | collecting {raw rest line : List UInt8} {place count : Nat} :
      place < blockCount source → count = place ∨ count = place + 1 →
      raw ++ rest = packet setup.mode source place → rest ≠ [] →
      Arriving setup.mode source horizon (place + 1) line →
      Receives setup source horizon ⟨.collecting raw, blocks source count, 0⟩ (rest ++ line)
  | answering {purpose : Receiver.Writing} {count : Nat} {line : List UInt8} :
      purpose ≠ .rejection → (purpose = .completion → blockCount source ≤ count) →
      Arriving setup.mode source horizon count line →
      Receives setup source horizon ⟨.answering purpose, blocks source count, 0⟩ line
  | completed {line : List UInt8} :
      Receives setup source horizon ⟨.completed, blocks source (blockCount source), 0⟩ line
  | finished {outcome : Outcome} {stored : List Block} {line : List UInt8} :
      Receiver.Innocent outcome →
      (∀ length, outcome = .ok length →
        length = source.length ∧ stored = blocks source (blockCount source)) →
      Receives setup source horizon ⟨.finished outcome, stored, 0⟩ line

namespace Receives

/-- A receiver that gave up waits for nothing. -/
theorem failed {failure : Failure} {stored : List Block}
    (innocent : Receiver.Innocent (.error failure)) :
    Receives setup source horizon ⟨.finished (.error failure), stored, 0⟩ line :=
  .finished innocent fun _ other => absurd other nofun

theorem append {further : Nat} {more : List UInt8}
    (receives : Receives setup source horizon course line)
    (arriving : Arriving setup.mode source further horizon more) :
    Receives setup source further course (line ++ more) := by
  cases receives with
  | awaiting awaits before => exact .awaiting awaits (before.append arriving)
  | collecting inside near whole unread before =>
      rw [List.append_assoc]
      exact .collecting inside near whole unread (before.append arriving)
  | answering accepts last before => exact .answering accepts last (before.append arriving)
  | completed => exact .completed
  | finished innocent full => exact .finished innocent full

theorem hear_awaiting {stage : Receiver.Stage} {count : Nat} {value : UInt8} {rest : List UInt8}
    (awaits : stage.Awaits) (arriving : Arriving setup.mode source horizon count (value :: rest))
    (passes : Receiver.Passes setup capacity ⟨stage, blocks source count, 0⟩ deed later)
    (heard : deed.sign = some (.heard value)) : Receives setup source horizon later rest := by
  obtain ⟨rfl, noise⟩ | ⟨rfl, data⟩ | ⟨purpose, rfl, accepts, ends⟩ | ⟨failure, rfl, innocent⟩ :=
    passes.of_awaits awaits heard
  · cases arriving.opens <;> exact absurd noise (by decide)
  · cases arriving.opens with
    | @block place frame line inside near begins behind =>
        refine .collecting inside near begins.symm ?_ behind
        have whole : (packet setup.mode source place).length = _ := length_packet inside
        rintro rfl
        rw [begins, Frame.length] at whole
        simp at whole
        omega
    | ending | cancel => exact absurd data (by decide)
  · cases arriving.opens with
    | block => exact absurd ends (by decide)
    | ending all behind =>
        have same := blocks_of_le all
        have last : blocks source (blockCount source + 1) = _ := blocks_of_le (Nat.le_succ _)
        rw [same, ← last]
        exact .answering accepts (fun _ => Nat.le_succ _) behind
    | cancel => exact absurd ends (by decide)
  · exact .failed innocent

theorem hear_collecting {raw rest : List UInt8} {value : UInt8} {place count : Nat}
    (long : source.length ≤ capacity) (inside : place < blockCount source)
    (near : count = place ∨ count = place + 1)
    (whole : raw ++ value :: rest = packet setup.mode source place)
    (arriving : Arriving setup.mode source horizon (place + 1) line)
    (passes : Receiver.Passes setup capacity ⟨.collecting raw, blocks source count, 0⟩ deed later)
    (heard : deed.sign = some (.heard value)) :
    Receives setup source horizon later (rest ++ line) := by
  obtain ⟨follows_iff, repeats_iff⟩ := follows_block_iff inside near
  have last := decode_of_full inside whole
  cases passes with
  | collect inner =>
      cases heard
      have frame_eq : raw ++ [value] ++ rest = packet setup.mode source place := by
        rw [List.append_assoc]
        exact whole
      exact .collecting inside near frame_eq (unread_ne_nil inside inner whole) arriving
  | accept full decoded follows =>
      cases heard
      obtain ⟨rfl, read⟩ := last full
      obtain rfl := Except.ok.inj (read.symm.trans decoded)
      obtain rfl := follows_iff.mp follows
      rw [← blocks_succ inside]
      exact .answering nofun nofun arriving
  | «repeat» full decoded repeats =>
      cases heard
      obtain ⟨rfl, read⟩ := last full
      obtain rfl := Except.ok.inj (read.symm.trans decoded)
      obtain rfl := repeats_iff.mp repeats
      exact .answering nofun nofun arriving
  | refuse full damaged =>
      cases heard
      exact absurd ((last full).2.symm.trans damaged) nofun
  | giveUp full decoded unfit fresh =>
      cases heard
      obtain ⟨rfl, read⟩ := last full
      obtain rfl := Except.ok.inj (read.symm.trans decoded)
      obtain rfl | again := near
      · have unfit := unfit (follows_iff.mpr rfl)
        rw [length_blocks, Nat.min_eq_left inside.le] at unfit
        exact absurd (fits_of_length_le inside long) unfit
      · exact absurd (repeats_iff.mpr again) fresh
  | leave _ innocent => exact .failed innocent
  | within | wait | starve | spoil => cases heard
  | ignore awaits | «open» awaits | finish awaits =>
      exact absurd awaits (by simp [Receiver.Stage.Awaits])

theorem hear {value : UInt8} {rest : List UInt8} (long : source.length ≤ capacity)
    (receives : Receives setup source horizon course (value :: rest))
    (passes : Receiver.Passes setup capacity course deed later)
    (heard : deed.sign = some (.heard value)) : Receives setup source horizon later rest := by
  generalize whole : value :: rest = line at receives
  cases receives with
  | awaiting awaits arriving =>
      subst whole
      exact hear_awaiting awaits arriving passes heard
  | @collecting raw unread line place count inside near same some_left arriving =>
      obtain ⟨first, unread, rfl⟩ := List.exists_cons_of_ne_nil some_left
      obtain ⟨rfl, rfl⟩ := List.cons.inj whole
      exact hear_collecting long inside near same arriving passes heard
  | answering | completed | finished =>
      exact absurd (passes.listens heard) (by simp [Receiver.Stage.Listens, Receiver.Stage.Awaits])

theorem move (known : setup.expectedLength = some source.length) (long : source.length ≤ capacity)
    (receives : Receives setup source horizon course line)
    (passes : Receiver.Passes setup capacity course deed later)
    (unheard : ∀ value, deed.sign ≠ some (.heard value))
    (patient : deed.sign = some .silence → line = [] ∨ ∀ raw, course.stage ≠ .collecting raw) :
    Receives setup source horizon later line := by
  cases receives with
  | @awaiting stage count line awaits arriving =>
      cases passes with
      | within | call | wait => exact .awaiting awaits arriving
      | leave _ innocent | spoil innocent => exact .failed innocent
      | ignore | «open» | finish | collect | accept | «repeat» | refuse | giveUp | drain =>
          exact absurd rfl (unheard _)
      | starve | reject | announce | answer | conclude | complete | cancel =>
          exact absurd awaits (by simp [Receiver.Stage.Awaits])
  | @collecting raw rest line place count inside near whole some_left arriving =>
      cases passes with
      | starve =>
          obtain empty | other := patient rfl
          · exact absurd (List.append_eq_nil_iff.mp empty).1 some_left
          · exact absurd rfl (other raw)
      | leave _ innocent | spoil innocent => exact .failed innocent
      | within awaits | wait awaits => exact absurd awaits (by simp [Receiver.Stage.Awaits])
      | ignore | «open» | finish | collect | accept | «repeat» | refuse | giveUp =>
          exact absurd rfl (unheard _)
  | @answering purpose count line accepts last arriving =>
      cases passes with
      | announce | answer => exact .awaiting (.inr rfl) arriving
      | conclude =>
          rw [blocks_of_le (last rfl)]
          exact .completed
      | spoil innocent | leave _ innocent => exact .failed innocent
      | within awaits | wait awaits => exact absurd awaits (by simp [Receiver.Stage.Awaits])
      | ignore | «open» | finish => exact absurd rfl (unheard _)
  | completed =>
      cases passes with
      | complete reports =>
          have all := (blockCount_le_iff source _).mp (Nat.le_refl _)
          refine .finished (fun _ other => absurd other nofun) fun length same => ?_
          cases same
          refine ⟨reports _ known ?_, rfl⟩
          rw [length_blocks, Nat.min_self, Destination.offset]
          exact Nat.le_min.mpr ⟨all, long⟩
      | leave _ innocent | spoil innocent => exact .failed innocent
      | within awaits | wait awaits => exact absurd awaits (by simp [Receiver.Stage.Awaits])
      | ignore | «open» | finish => exact absurd rfl (unheard _)
  | finished =>
      cases passes with
      | leave _ innocent | spoil innocent => exact .failed innocent
      | within awaits | wait awaits => exact absurd awaits (by simp [Receiver.Stage.Awaits])
      | ignore | «open» | finish => exact absurd rfl (unheard _)

end Receives

end Receiving
/-- Whether a copy of every block arrived before the sender went on to the next one. -/
def Ledger.Covers (mode : ChecksumMode) (source : List UInt8) (ledger : Ledger) : Prop :=
  ∀ place < ledger.tally.place, place < blockCount source →
    (place, packet mode source place) ∈ ledger.arrived

section Sending

variable {mode : ChecksumMode} {policy : RetryPolicy τ} {source : List UInt8} {forth : Alteration}
  {place horizon : Nat} {stage later : Sender.Stage} {outgoing : Option (List UInt8)}
  {ledger : Ledger}

/-- The books of a sender at some packet, when what it delivered takes the receiver to a horizon. -/
structure Books (mode : ChecksumMode) (source : List UInt8) (place horizon : Nat)
    (outgoing : Option (List UInt8)) (ledger : Ledger) : Prop where
  mode_eq : ledger.tally.mode = some mode
  place_eq : ledger.tally.place = place
  inside : place ≤ blockCount source
  behind : place ≤ horizon
  ahead : horizon ≤ place + 1
  past : ∀ entry ∈ ledger.arrived, entry.1 ≤ place
  current : (place, packet mode source place) ∈ ledger.arrived →
    horizon = place + 1 ∨ outgoing = some (packet mode source place)

/-- Whether a sender that has delivered packets up to a horizon stands at a stage. -/
inductive Serves (mode : ChecksumMode) (source : List UInt8) (forth : Alteration) (horizon : Nat) :
    Sender.Stage → Option (List UInt8) → Ledger → Prop
  | sending {place copies : Nat} {outgoing : Option (List UInt8)} {ledger : Ledger} :
      Books mode source place horizon outgoing ledger →
      (∀ bytes, outgoing = some bytes →
        bytes = packet mode source place ∨ bytes = [] ∧ forth ≠ .none) →
      Serves mode source forth horizon (.sending mode place copies) outgoing ledger
  | awaiting {place copies : Nat} {ledger : Ledger} :
      Books mode source place horizon none ledger → (forth = .none → horizon = place + 1) →
      Serves mode source forth horizon (.awaiting mode place copies) none ledger
  | canceling {place : Nat} {outgoing : Option (List UInt8)} {ledger : Ledger} :
      (∀ bytes, outgoing = some bytes → bytes = [Signal.byte .cancel] ∨ bytes = []) →
      Serves mode source forth horizon (.canceling mode place) outgoing ledger
  | finished {outgoing : Option (List UInt8)} {ledger : Ledger} :
      Serves mode source forth horizon .finished outgoing ledger

/-- Between two writes, a packet that was delivered has taken the receiver further. -/
theorem Books.horizon_eq (books : Books mode source place horizon none ledger)
    (recorded : (place, packet mode source place) ∈ ledger.arrived) : horizon = place + 1 := by
  obtain arrived | pending := books.current recorded
  · exact arrived
  · cases pending

theorem Books.serves (books : Books mode source place horizon none ledger) (copies : Nat) :
    Serves mode source forth horizon (.sending mode place copies) none ledger := by
  refine .sending books ?_
  rintro bytes ⟨⟩

theorem Serves.exhausted (mode : ChecksumMode) (source : List UInt8) (forth : Alteration)
    (horizon place : Nat) (ledger : Ledger) :
    Serves mode source forth horizon (.canceling mode place) none ledger := by
  refine .canceling ?_
  rintro bytes ⟨⟩

theorem Serves.begin {value : UInt8} (asked : Sender.requested? value = some mode) :
    Serves mode source forth 0 (.sending mode 0 0) none (Ledger.empty.hear value) := by
  have noted : (Ledger.empty.hear value).tally = ⟨some mode, 0, 0⟩ := by
    simp [Ledger.hear, Ledger.empty, Sender.Tally.note, asked]
  have books : Books mode source 0 0 none (Ledger.empty.hear value) :=
    { mode_eq := by rw [noted]
      place_eq := by rw [noted]
      inside := Nat.zero_le _
      behind := Nat.le_refl _
      ahead := Nat.zero_le _
      past := fun _ recorded => absurd recorded List.not_mem_nil
      current := fun recorded => absurd recorded List.not_mem_nil }
  exact books.serves 0

theorem Serves.prepare {bytes : List UInt8} (loses : forth.Loses)
    (serves : Serves mode source forth horizon stage none ledger)
    (passes : Sender.Passes policy source stage (some (.wrote bytes)) later) :
    Serves mode source forth horizon stage (some (forth ledger.writes bytes))
      (ledger.write forth bytes) := by
  have fate := loses ledger.writes bytes
  cases serves with
  | @sending place _ _ _ books =>
      cases passes
      have noted : (ledger.write forth (packet mode source place)).tally =
          { ledger.tally with copies := ledger.tally.copies + 1 } := rfl
      refine .sending
        { books with
          mode_eq := books.mode_eq
          place_eq := books.place_eq
          past := ?_
          current := ?_ } ?_
      · intro entry recorded
        obtain earlier | now := List.mem_append.mp recorded
        · exact books.past entry earlier
        · rw [List.eq_of_mem_singleton now]
          exact books.place_eq.le
      · intro recorded
        obtain earlier | now := List.mem_append.mp recorded
        · exact .inl (books.horizon_eq earlier)
        · have same := Prod.ext_iff.mp (List.eq_of_mem_singleton now)
          exact .inr (congrArg some same.2.symm)
      · rintro _ ⟨⟩
        obtain kept | lost := fate
        · exact .inl kept
        · refine .inr ⟨lost, ?_⟩
          rintro rfl
          exact packet_ne_nil mode source place lost
  | awaiting =>
      cases passes with
      | retry failure | exhaust failure => exact absurd failure (by simp [Sender.Failure])
      | quit failure => exact absurd failure (by simp)
  | canceling =>
      cases passes with
      | cancel cancels =>
          cases Option.some.inj cancels
          refine .canceling ?_
          rintro _ ⟨⟩
          exact fate
  | finished => cases passes

theorem Serves.deliver {bytes altered : List UInt8}
    (serves : Serves mode source forth horizon stage (some altered) ledger)
    (passes : Sender.Passes policy source stage (some (.wrote bytes)) later) :
    ∃ further, Arriving mode source further horizon altered ∧
      Serves mode source forth further later none ledger := by
  cases serves with
  | @sending place copies _ _ books whole =>
      cases passes
      obtain rfl | ⟨rfl, lossy⟩ := whole altered rfl
      · refine ⟨place + 1, ?_, .awaiting
          { books with
            behind := Nat.le_succ _
            ahead := Nat.le_refl _
            current := fun _ => .inl rfl } fun _ => rfl⟩
        have near : horizon = place ∨ horizon = place + 1 := by
          have behind := books.behind
          have ahead := books.ahead
          omega
        rw [← List.append_nil (packet mode source place)]
        obtain rfl | rfl := near
        · exact .next books.inside .done
        · exact .again books.inside .done
      · refine ⟨horizon, .done, .awaiting { books with current := fun recorded => .inl ?_ }
          fun lossless => absurd lossless lossy⟩
        refine (books.current recorded).resolve_right fun same => ?_
        exact packet_ne_nil mode source place (Option.some.inj same).symm
  | canceling whole =>
      refine ⟨horizon, ?_, ?_⟩
      · obtain rfl | rfl := whole altered rfl
        · exact .cancel .done
        · exact .done
      · cases passes
        exact .finished
  | finished => cases passes

/-- A byte that is no acknowledgement tells nothing about the packets. -/
theorem Books.hear_of_ne (books : Books mode source place horizon outgoing ledger) {value : UInt8}
    (other : value ≠ Signal.byte .acknowledge) : ledger.hear value = ledger := by
  have same : ledger.tally.note (.heard value) = ledger.tally := by
    simp [Sender.Tally.note, books.mode_eq, other]
  rw [Ledger.hear, same]

theorem Books.advance (books : Books mode source place horizon none ledger)
    (inside : place < blockCount source) (arrived : horizon = place + 1) :
    Books mode source (place + 1) horizon none (ledger.hear (Signal.byte .acknowledge)) := by
  have noted : ledger.tally.note (.heard (Signal.byte .acknowledge)) =
      { ledger.tally with place := ledger.tally.place + 1, copies := 0 } := by
    simp [Sender.Tally.note, books.mode_eq]
  refine ⟨?_, ?_, inside, arrived.ge, by omega, fun entry recorded => ?_, fun recorded => ?_⟩
  · rw [Ledger.hear, noted]
    exact books.mode_eq
  · rw [Ledger.hear, noted]
    exact congrArg (· + 1) books.place_eq
  · exact (books.past entry recorded).trans (Nat.le_succ place)
  · exact absurd (books.past _ recorded) (Nat.not_succ_le_self place)

theorem Serves.hear {value : UInt8} (serves : Serves mode source forth horizon stage none ledger)
    (passes : Sender.Passes policy source stage (some (.heard value)) later)
    (covers : forth = .none ∨ (ledger.hear value).Covers mode source) :
    Serves mode source forth horizon later none (ledger.hear value) := by
  cases serves with
  | sending | finished => cases passes
  | @awaiting place copies _ books lossless =>
      cases passes with
      | advance inside =>
          -- The acknowledgement has no number; only the ledger tells that the packet has arrived.
          have arrived : horizon = place + 1 := by
            obtain whole | covers := covers
            · exact lossless whole
            · have next_place : place < (ledger.hear (Signal.byte .acknowledge)).tally.place := by
                simp [Ledger.hear, Sender.Tally.note, books.mode_eq, books.place_eq]
              exact books.horizon_eq (covers place next_place inside)
          exact (books.advance inside arrived).serves 0
      | finish => exact .finished
      | discard other =>
          rw [books.hear_of_ne other]
          exact .awaiting books lossless
      | retry failure =>
          have refused : value = Signal.byte .negativeAcknowledge := by
            simpa [Sender.Failure] using failure
          rw [books.hear_of_ne (by simp [refused, Signal.byte])]
          exact books.serves copies
      | exhaust => exact .exhausted ..
      | quit => exact .finished
  | canceling =>
      cases passes with
      | cancel cancels => cases cancels

theorem Serves.pause {sign : Option Sign}
    (serves : Serves mode source forth horizon stage none ledger)
    (silent : sign = none ∨ sign = some .silence)
    (passes : Sender.Passes policy source stage sign later) :
    Serves mode source forth horizon later none ledger := by
  cases passes with
  | within => exact serves
  | retry =>
      cases serves with
      | awaiting books => exact books.serves _
  | exhaust =>
      cases serves with
      | awaiting => exact .exhausted ..
  | leave | quit | finish | spoil | cancel => exact .finished
  | call => exact serves
  | begin | ignore | send | advance | discard => simp at silent

end Sending
section Running

variable {setup : Receiver.Setup τ} {source : List UInt8} {forth back : Alteration}
  {capacity : Nat} {before after : Crossing}

/-- Whether a receiver has met no sender. -/
def Unmet (course : Receiver.Course) : Prop :=
  course = ⟨.calling, [], 0⟩ ∨
    ∃ failure, course = ⟨.finished (.error failure), [], 0⟩ ∧ Receiver.Innocent (.error failure)

/-- Whether the packets on their way are in succession. -/
inductive Orderly (setup : Receiver.Setup τ) (source : List UInt8) (forth : Alteration) :
    Crossing → Prop
  /-- The sender has not heard the receiver yet. -/
  | greeting {course : Receiver.Course} {backward : List UInt8} {replying : Option (List UInt8)} :
      Unmet course →
      (∀ value ∈ backward, value = Receiver.Writing.request.byte setup.mode) →
      (∀ bytes, replying = some bytes → bytes ⊆ [Receiver.Writing.request.byte setup.mode]) →
      Orderly setup source forth ⟨.calling, course, [], backward, none, replying, .empty⟩
  | running {crossing : Crossing} {horizon : Nat} :
      Serves setup.mode source forth horizon crossing.stage crossing.outgoing crossing.ledger →
      Receives setup source horizon crossing.course crossing.forward →
      Orderly setup source forth crossing

namespace Orderly

theorem start : Orderly setup source forth .start :=
  .greeting (.inl rfl) nofun nofun

theorem receives_of_unmet {course : Receiver.Course} (unmet : Unmet course) :
    Receives setup source 0 course [] := by
  obtain rfl | ⟨failure, rfl, innocent⟩ := unmet
  · exact .awaiting (.inl rfl) .done
  · exact .failed innocent

theorem requested_request (mode : ChecksumMode) :
    Sender.requested? (Receiver.Writing.request.byte mode) = some mode := by
  cases mode <;> rfl

/-- A receiver that has met no sender does nothing but call and give up. -/
theorem unmet_of_passes {course later : Receiver.Course} {deed : Receiver.Deed}
    (unmet : Unmet course) (passes : Receiver.Passes setup capacity course deed later)
    (unheard : ∀ value, deed.sign ≠ some (.heard value)) :
    Unmet later ∧ ∀ bytes, deed.sign = some (.wrote bytes) →
      bytes = [Receiver.Writing.request.byte setup.mode] := by
  obtain rfl | ⟨failure, rfl, innocent⟩ := unmet
  · cases passes with
    | within | wait => exact ⟨.inl rfl, nofun⟩
    | call =>
        refine ⟨.inl rfl, ?_⟩
        rintro _ ⟨⟩
        rfl
    | ignore | «open» | finish => exact absurd rfl (unheard _)
    | leave _ innocent failed =>
        refine ⟨.inr ⟨_, rfl, innocent⟩, ?_⟩
        rintro _ ⟨⟩
        simp at failed
    | spoil innocent => exact ⟨.inr ⟨_, rfl, innocent⟩, nofun⟩
  · cases passes with
    | leave listens =>
        exact absurd listens (by simp [Receiver.Stage.Listens, Receiver.Stage.Awaits])
    | within awaits | wait awaits | ignore awaits | «open» awaits | finish awaits =>
        exact absurd awaits (by simp [Receiver.Stage.Awaits])
    | spoil _ writes => simp at writes

theorem step_greeting {course : Receiver.Course} {backward : List UInt8}
    {replying : Option (List UInt8)} (backLoses : back.Loses)
    (unmet : Unmet course)
    (called : ∀ value ∈ backward, value = Receiver.Writing.request.byte setup.mode)
    (calls : ∀ bytes, replying = some bytes → bytes ⊆ [Receiver.Writing.request.byte setup.mode])
    (step : Crossing.Step setup capacity source forth back
      ⟨.calling, course, [], backward, none, replying, .empty⟩ after) :
    Orderly setup source forth after := by
  cases step with
  | prepare _ passes =>
      cases passes with
      | leave failure => simp at failure
  | deliver pending => cases pending
  | @hear value rest _ _ waiting passes =>
      obtain rfl : backward = value :: rest := waiting
      obtain rfl := called value List.mem_cons_self
      have asked := requested_request setup.mode
      cases passes with
      | begin requests =>
          obtain rfl := Option.some.inj (asked.symm.trans requests)
          exact .running (.begin asked) (receives_of_unmet unmet)
      | ignore noise => exact absurd (asked.symm.trans noise) nofun
      | leave => exact .running .finished (receives_of_unmet unmet)
  | pause _ silent passes =>
      cases passes with
      | within | call => exact .greeting unmet called calls
      | leave => exact .running .finished (receives_of_unmet unmet)
      | begin | ignore => simp at silent
  | @answer bytes _ _ write _ writes passes =>
      obtain rfl := (unmet_of_passes unmet passes (by simp [writes])).2 bytes writes
      refine .greeting unmet called ?_
      rintro _ ⟨⟩
      obtain kept | lost := backLoses write [Receiver.Writing.request.byte setup.mode]
      · rw [kept]
        exact List.Subset.refl _
      · rw [lost]
        exact List.nil_subset _
  | reply pending writes passes =>
      obtain ⟨unmet, -⟩ := unmet_of_passes unmet passes (by simp [writes])
      refine .greeting unmet (fun value arrives => ?_) nofun
      obtain earlier | now := List.mem_append.mp arrives
      · exact called value earlier
      · exact List.eq_of_mem_singleton (calls _ pending now)
  | listen _ waiting => cases waiting
  | rest _ silent _ passes =>
      obtain ⟨unmet, -⟩ := unmet_of_passes unmet passes (by
        obtain silent | silent := silent <;> simp [silent])
      exact .greeting unmet called calls

theorem step (known : setup.expectedLength = some source.length) (long : source.length ≤ capacity)
    (forthLoses : forth.Loses) (backLoses : back.Loses)
    (orderly : Orderly setup source forth before)
    (step : Crossing.Step setup capacity source forth back before after)
    (covers : forth = .none ∨ after.ledger.Covers setup.mode source) :
    Orderly setup source forth after := by
  cases orderly with
  | greeting unmet called calls => exact step_greeting backLoses unmet called calls step
  | running serves receives =>
      cases step with
      | prepare none_yet passes =>
          rw [none_yet] at serves
          exact .running (serves.prepare forthLoses passes) receives
      | deliver pending passes =>
          rw [pending] at serves
          obtain ⟨further, arriving, serves⟩ := serves.deliver passes
          exact .running serves (receives.append arriving)
      | hear none_yet waiting passes =>
          rw [none_yet] at serves
          exact .running (none_yet ▸ serves.hear passes covers) receives
      | pause none_yet silent passes =>
          rw [none_yet] at serves
          exact .running (none_yet ▸ serves.pause silent passes) receives
      | answer => exact .running serves receives
      | reply pending writes passes =>
          refine .running serves (receives.move known long passes ?_ ?_) <;> simp [writes]
      | listen none_yet waiting heard passes =>
          rw [waiting] at receives
          exact .running serves (receives.hear long passes heard)
      | rest none_yet silent patient passes =>
          refine .running serves (receives.move known long passes ?_ fun _ => patient)
          obtain silent | silent := silent <;> simp [silent]

end Orderly

theorem Crossing.Step.covers_before
    (step : Crossing.Step setup capacity source forth back before after)
    (covers : after.ledger.Covers setup.mode source) :
    before.ledger.Covers setup.mode source := by
  cases step with
  | @prepare bytes _ _ _ =>
      intro place earlier inside
      obtain recorded | now := List.mem_append.mp (covers place earlier inside)
      · exact recorded
      · have same := congrArg Prod.fst (List.eq_of_mem_singleton now)
        exact absurd same earlier.ne
  | @hear value _ _ _ _ _ =>
      intro place earlier inside
      refine covers place (earlier.trans_le ?_) inside
      simp only [Ledger.hear, Sender.Tally.note]
      split
      · exact Nat.le_refl _
      · split
        · exact Nat.le_succ _
        · exact Nat.le_refl _
  | deliver | pause | answer | reply | listen | rest => exact covers

/-- The packets stay in succession as long as a copy of every block arrives in time. -/
theorem Orderly.of_reaches (known : setup.expectedLength = some source.length)
    (long : source.length ≤ capacity) (forthLoses : forth.Loses) (backLoses : back.Loses)
    (reaches : Crossing.Reaches setup capacity source forth back .start after)
    (covers : forth = .none ∨ after.ledger.Covers setup.mode source) :
    Orderly setup source forth after := by
  induction reaches with
  | refl => exact .start
  | tail _ step induction =>
      -- What the ledger covers in the end it covered at every point before.
      have orderly := induction (covers.imp_right step.covers_before)
      exact orderly.step known long forthLoses backLoses step covers

end Running
end Xmodem
