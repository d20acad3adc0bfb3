import Mathlib.Data.List.Induction
import Xmodem.Proofs.Sender.Stages

/-!
# What a sender writes

Whatever the line does, a sender writes nothing before it was called, then copies of one packet
after the other, and at last perhaps a cancellation.  Which packet it is, and which of its copies,
can be read off the signs so far: the first request fixes the checksum, and every acknowledgement
after it ends the copies of one packet.
-/

namespace Xmodem
namespace Sender

open Packets

/-- What the signs so far tell about the packets. -/
structure Tally where
  /-- Checksum asked for. -/
  mode : Option ChecksumMode
  /-- Number of acknowledgements since then. -/
  place : Nat
  /-- Number of writes since the last acknowledgement. -/
  copies : Nat
  deriving DecidableEq, Repr

namespace Tally

/-- Take account of one more sign. -/
def note (tally : Tally) : Sign → Tally
  | .wrote _ | .spoiled _ => { tally with copies := tally.copies + 1 }
  | .heard value =>
      if tally.mode = none then { tally with mode := requested? value }
      else if value = Signal.byte .acknowledge then
        { tally with place := tally.place + 1, copies := 0 }
      else tally
  | .silence | .broken => tally

end Tally

/-- What signs tell about the packets. -/
def tally (signs : List Sign) : Tally :=
  signs.foldl Tally.note ⟨none, 0, 0⟩

/-- The writes among signs, in order. -/
def writes (signs : List Sign) : List (List UInt8) :=
  signs.filterMap Sign.written?

/-- Copies of one packet after the other, given the number of copies of each. -/
def groups (mode : ChecksumMode) (source : List UInt8) (counts : List Nat) : List (List UInt8) :=
  counts.zipIdx.flatMap fun (count, place) => List.replicate count (packet mode source place)

/-- Whether nothing may follow a sign: the line failed, either side gave up, or the end of
transmission was acknowledged. -/
def Final (source : List UInt8) (before : List Sign) (sign : Sign) : Prop :=
  sign = .broken ∨ (∃ bytes, sign = .spoiled bytes) ∨ sign = .heard (Signal.byte .cancel) ∨
    sign = .wrote [Signal.byte .cancel] ∨
    sign = .heard (Signal.byte .acknowledge) ∧ (tally before).mode ≠ none ∧
      (tally before).place = blockCount source

variable {τ : Type} [Quantity τ]

/-- Whether a sign may follow others. -/
structure Permitted (policy : RetryPolicy τ) (source : List UInt8) (before : List Sign)
    (sign : Sign) : Prop where
  /-- Something may follow. -/
  goes_on : ¬ Ends (Final source) before
  /-- What is written is one more copy of the current packet, or a cancellation when the last copy
  failed. -/
  writes_right : ∀ bytes, sign.written? = some bytes →
    ∃ mode place copies, tally before = ⟨some mode, place, copies⟩ ∧
      (place ≤ blockCount source ∧ copies ≤ policy.maxRetries ∧
          bytes = packet mode source place ∨
        copies = policy.maxRetries + 1 ∧ Ends (fun _ => Failure) before ∧
          bytes = [Signal.byte .cancel])
  /-- When the last copy fails, what follows is a cancellation. -/
  cancels : (tally before).copies = policy.maxRetries + 1 →
    Ends (fun earlier last => (tally earlier).mode ≠ none ∧ Failure last) before →
    sign.written? = some [Signal.byte .cancel]
  /-- An acknowledgement answers at least one copy. -/
  answers : sign = .heard (Signal.byte .acknowledge) → (tally before).mode ≠ none →
    0 < (tally before).copies

/-- Whether the writes are copies of one packet after the other, and perhaps a cancellation. -/
def Grouped (policy : RetryPolicy τ) (source : List UInt8) (signs : List Sign) : Prop :=
  writes signs = [] ∨
    ∃ mode counts, (tally signs).mode = some mode ∧ counts.length ≤ blockCount source + 1 ∧
      (∀ count ∈ counts, 0 < count ∧ count ≤ policy.maxRetries + 1) ∧
      (writes signs = groups mode source counts ∨
        counts.getLast? = some (policy.maxRetries + 1) ∧
          writes signs = groups mode source counts ++ [[Signal.byte .cancel]])

/-- What the transcripts of all senders have in common. -/
structure WireLanguage (policy : RetryPolicy τ) (source : List UInt8) (signs : List Sign) :
    Prop where
  /-- Every sign is permitted after those before it. -/
  orderly : ∀ before sign after, signs = before ++ sign :: after →
    Permitted policy source before sign
  grouped : Grouped policy source signs
  bounded : (writes signs).length ≤ (blockCount source + 1) * (policy.maxRetries + 1) + 1

section Laws

variable (signs : List Sign) (sign : Sign)

@[simp]
theorem tally_append_singleton : tally (signs ++ [sign]) = (tally signs).note sign := by
  simp [tally]

@[simp]
theorem writes_append_singleton :
    writes (signs ++ [sign]) = writes signs ++ sign.written?.toList := by
  cases written : sign.written? <;> simp [writes, written]

theorem groups_append_singleton (mode : ChecksumMode) (source : List UInt8) (counts : List Nat)
    (count : Nat) :
    groups mode source (counts ++ [count]) =
      groups mode source counts ++ List.replicate count (packet mode source counts.length) := by
  simp [groups, List.zipIdx_append]

theorem length_groups_le (mode : ChecksumMode) (source : List UInt8) {counts : List Nat}
    {bound : Nat} (small : ∀ count ∈ counts, count ≤ bound) :
    (groups mode source counts).length ≤ counts.length * bound := by
  induction counts using List.reverseRecOn with
  | nil => simp [groups]
  | append_singleton counts count induction =>
      have front := induction fun count member => small count (List.mem_append_left _ member)
      have last := small count (by simp)
      rw [groups_append_singleton, List.length_append, List.length_replicate, List.length_append,
        List.length_singleton, Nat.succ_mul]
      omega

/-- If every sign is permitted after those before it, one more permitted sign changes nothing. -/
theorem orderly_append_singleton {policy : RetryPolicy τ} {source : List UInt8}
    (orderly : ∀ before sign after, signs = before ++ sign :: after →
      Permitted policy source before sign)
    (permitted : Permitted policy source signs sign) :
    ∀ before other after, signs ++ [sign] = before ++ other :: after →
      Permitted policy source before other := by
  intro before other after same
  induction after using List.reverseRecOn with
  | nil =>
      obtain ⟨rfl, rfl⟩ := List.append_singleton_inj.mp same
      exact permitted
  | append_singleton after last _ =>
      rw [← List.cons_append, ← List.append_assoc] at same
      exact orderly before other after (List.append_singleton_inj.mp same).1

end Laws

/-- What was said when some packets were acknowledged and some copies of the next one written. -/
structure Spoken (policy : RetryPolicy τ) (source : List UInt8) (mode : ChecksumMode)
    (place copies : Nat) (signs : List Sign) : Prop where
  tally_eq : tally signs = ⟨some mode, place, copies⟩
  inside : place ≤ blockCount source
  grouped : ∃ counts, counts.length = place ∧
    (∀ count ∈ counts, 0 < count ∧ count ≤ policy.maxRetries + 1) ∧
    writes signs = groups mode source (counts ++ [copies])

/-- What was said when a sender is at a stage. -/
inductive Fits (policy : RetryPolicy τ) (source : List UInt8) : Stage → List Sign → Prop
  | calling {signs : List Sign} :
      tally signs = ⟨none, 0, 0⟩ → writes signs = [] → ¬ Ends (Final source) signs →
      Fits policy source .calling signs
  | sending {signs : List Sign} {mode : ChecksumMode} {place copies : Nat} :
      Spoken policy source mode place copies signs → copies ≤ policy.maxRetries →
      ¬ Ends (Final source) signs → Fits policy source (.sending mode place copies) signs
  | awaiting {signs : List Sign} {mode : ChecksumMode} {place copies : Nat} :
      Spoken policy source mode place copies signs → 0 < copies →
      copies ≤ policy.maxRetries + 1 → ¬ Ends (fun _ => Failure) signs →
      ¬ Ends (Final source) signs → Fits policy source (.awaiting mode place copies) signs
  | canceling {signs : List Sign} {mode : ChecksumMode} {place : Nat} :
      Spoken policy source mode place (policy.maxRetries + 1) signs →
      Ends (fun _ => Failure) signs → ¬ Ends (Final source) signs →
      Fits policy source (.canceling mode place) signs
  | finished {signs : List Sign} : Grouped policy source signs → Fits policy source .finished signs

section Invariant

variable {policy : RetryPolicy τ} {source : List UInt8} {mode : ChecksumMode}
  {place copies : Nat} {signs : List Sign} {sign : Sign}

theorem Spoken.grouped_of_pos (spoken : Spoken policy source mode place copies signs)
    (some_copy : 0 < copies) (few : copies ≤ policy.maxRetries + 1) :
    Grouped policy source signs := by
  obtain ⟨counts, rfl, right, same⟩ := spoken.grouped
  refine .inr ⟨mode, counts ++ [copies], by rw [spoken.tally_eq], ?_, ?_, .inl same⟩
  · rw [List.length_append, List.length_singleton]
    exact Nat.succ_le_succ spoken.inside
  · intro count member
    obtain member | member := List.mem_append.mp member
    · exact right count member
    · obtain rfl := List.mem_singleton.mp member
      exact ⟨some_copy, few⟩

theorem Spoken.grouped_of_zero (spoken : Spoken policy source mode place 0 signs) :
    Grouped policy source signs := by
  obtain ⟨counts, rfl, right, same⟩ := spoken.grouped
  rw [groups_append_singleton, List.replicate_zero, List.append_nil] at same
  exact .inr ⟨mode, counts, by rw [spoken.tally_eq], Nat.le_succ_of_le spoken.inside, right,
    .inl same⟩

theorem Fits.grouped {stage : Stage} (fits : Fits policy source stage signs) :
    Grouped policy source signs := by
  cases fits with
  | calling _ nothing _ => exact .inl nothing
  | @sending _ mode place copies spoken few _ =>
      obtain rfl | some_copy := Nat.eq_zero_or_pos copies
      · exact spoken.grouped_of_zero
      · exact spoken.grouped_of_pos some_copy (Nat.le_succ_of_le few)
  | awaiting spoken some_copy few _ _ => exact spoken.grouped_of_pos some_copy few
  | canceling spoken _ _ => exact spoken.grouped_of_pos (Nat.succ_pos _) (Nat.le_refl _)
  | finished grouped => exact grouped

/-- The number of writes is bounded by the number of groups and the copies in each. -/
theorem Grouped.length_writes_le (grouped : Grouped policy source signs) :
    (writes signs).length ≤ (blockCount source + 1) * (policy.maxRetries + 1) + 1 := by
  obtain nothing | ⟨mode, counts, _, few, right, same⟩ := grouped
  · simp [nothing]
  have front := length_groups_le mode source fun count member => (right count member).2
  have bound := Nat.mul_le_mul_right (policy.maxRetries + 1) few
  obtain same | ⟨_, same⟩ := same
  · rw [same]
    omega
  · rw [same, List.length_append, List.length_singleton]
    omega

theorem Spoken.write (spoken : Spoken policy source mode place copies signs)
    (written : sign.written? = some (packet mode source place)) :
    Spoken policy source mode place (copies + 1) (signs ++ [sign]) := by
  obtain ⟨counts, rfl, right, same⟩ := spoken.grouped
  refine ⟨?_, spoken.inside, counts, rfl, right, ?_⟩
  · rw [tally_append_singleton, spoken.tally_eq]
    cases sign with
    | wrote | spoiled => rfl
    | heard | silence | broken => exact absurd written nofun
  · rw [writes_append_singleton, written, same, groups_append_singleton, groups_append_singleton,
      List.append_assoc, List.replicate_succ']
    rfl

theorem Spoken.meet (spoken : Spoken policy source mode place copies signs)
    (unwritten : sign.written? = none) (other : sign ≠ .heard (Signal.byte .acknowledge)) :
    Spoken policy source mode place copies (signs ++ [sign]) := by
  refine ⟨?_, spoken.inside, ?_⟩
  · rw [tally_append_singleton, spoken.tally_eq]
    cases sign with
    | wrote | spoiled => exact absurd unwritten nofun
    | heard value =>
        have differs : value ≠ Signal.byte .acknowledge := fun same => other (same ▸ rfl)
        simp [Tally.note, differs]
    | silence | broken => rfl
  · simpa [unwritten] using spoken.grouped

theorem Spoken.advance (spoken : Spoken policy source mode place copies signs)
    (some_copy : 0 < copies) (few : copies ≤ policy.maxRetries + 1)
    (inside : place < blockCount source) :
    Spoken policy source mode (place + 1) 0
      (signs ++ [.heard (Signal.byte .acknowledge)]) := by
  obtain ⟨counts, rfl, right, same⟩ := spoken.grouped
  refine ⟨?_, inside, counts ++ [copies], by simp, ?_, ?_⟩
  · rw [tally_append_singleton, spoken.tally_eq]
    rfl
  · intro count member
    obtain member | member := List.mem_append.mp member
    · exact right count member
    · obtain rfl := List.mem_singleton.mp member
      exact ⟨some_copy, few⟩
  · rw [writes_append_singleton, same, groups_append_singleton mode source (counts ++ [copies]) 0]
    rfl

theorem mode_tally_append_singleton (chosen : (tally signs).mode = some mode) (sign : Sign) :
    (tally (signs ++ [sign])).mode = some mode := by
  rw [tally_append_singleton]
  cases sign with
  | heard value =>
      simp only [Tally.note, chosen, reduceCtorEq, if_false]
      split
      · rfl
      · exact chosen
  | wrote | spoiled | silence | broken => exact chosen

theorem Grouped.meet (grouped : Grouped policy source signs) (unwritten : sign.written? = none) :
    Grouped policy source (signs ++ [sign]) := by
  have same : writes (signs ++ [sign]) = writes signs := by simp [unwritten]
  unfold Grouped at grouped ⊢
  rw [same]
  obtain nothing | ⟨mode, counts, chosen, rest⟩ := grouped
  · exact .inl nothing
  · exact .inr ⟨mode, counts, mode_tally_append_singleton chosen sign, rest⟩

theorem Spoken.grouped_of_cancel
    (spoken : Spoken policy source mode place (policy.maxRetries + 1) signs)
    (written : sign.written? = some [Signal.byte .cancel]) :
    Grouped policy source (signs ++ [sign]) := by
  obtain ⟨counts, rfl, right, same⟩ := spoken.grouped
  refine .inr ⟨mode, counts ++ [policy.maxRetries + 1], ?_, ?_, ?_, .inr ⟨by simp, ?_⟩⟩
  · exact mode_tally_append_singleton (by rw [spoken.tally_eq]) sign
  · rw [List.length_append, List.length_singleton]
    exact Nat.succ_le_succ spoken.inside
  · intro count member
    obtain member | member := List.mem_append.mp member
    · exact right count member
    · obtain rfl := List.mem_singleton.mp member
      exact ⟨Nat.succ_pos _, Nat.le_refl _⟩
  · simp [same, written]

theorem packet_ne_cancel (mode : ChecksumMode) (source : List UInt8) (place : Nat) :
    packet mode source place ≠ [Signal.byte .cancel] := by
  unfold packet
  split
  · exact nofun
  · decide

/-- A sender that calls may meet anything, but must not write. -/
theorem permitted_calling (fresh : tally signs = ⟨none, 0, 0⟩)
    (goes_on : ¬ Ends (Final source) signs) (unwritten : sign.written? = none) :
    Permitted policy source signs sign where
  goes_on := goes_on
  writes_right bytes written := absurd (unwritten.symm.trans written) nofun
  cancels spent := by
    rw [fresh] at spent
    exact absurd spent nofun
  answers _ begun := by
    rw [fresh] at begun
    exact absurd rfl begun

/-- A sender that waits for an answer may meet anything, but must not write. -/
theorem permitted_awaiting (spoken : Spoken policy source mode place copies signs)
    (some_copy : 0 < copies) (unfailing : ¬ Ends (fun _ => Failure) signs)
    (goes_on : ¬ Ends (Final source) signs) (unwritten : sign.written? = none) :
    Permitted policy source signs sign where
  goes_on := goes_on
  writes_right bytes written := absurd (unwritten.symm.trans written) nofun
  cancels _ failed := by
    obtain ⟨before, last, same, _, failure⟩ := failed
    exact absurd ⟨before, last, same, failure⟩ unfailing
  answers _ _ := by
    rw [spoken.tally_eq]
    exact some_copy

theorem permitted_sending (spoken : Spoken policy source mode place copies signs)
    (few : copies ≤ policy.maxRetries) (goes_on : ¬ Ends (Final source) signs)
    (written : sign.written? = some (packet mode source place)) :
    Permitted policy source signs sign where
  goes_on := goes_on
  writes_right bytes also := by
    obtain rfl := Option.some.inj (written.symm.trans also)
    exact ⟨mode, place, copies, spoken.tally_eq, .inl ⟨spoken.inside, few, rfl⟩⟩
  cancels spent := by
    rw [spoken.tally_eq] at spent
    simp only at spent
    omega
  answers heard := by
    subst heard
    exact absurd written nofun

theorem permitted_canceling
    (spoken : Spoken policy source mode place (policy.maxRetries + 1) signs)
    (failed : Ends (fun _ => Failure) signs) (goes_on : ¬ Ends (Final source) signs)
    (written : sign.written? = some [Signal.byte .cancel]) :
    Permitted policy source signs sign where
  goes_on := goes_on
  writes_right bytes also := by
    obtain rfl := Option.some.inj (written.symm.trans also)
    exact ⟨mode, place, _, spoken.tally_eq, .inr ⟨rfl, failed, rfl⟩⟩
  cancels _ _ := written
  answers heard := by
    subst heard
    exact absurd written nofun

theorem unfinal_of_failure (source : List UInt8) (signs : List Sign) (failure : Failure sign) :
    sign.written? = none ∧ sign ≠ .heard (Signal.byte .acknowledge) ∧
      ¬ Final source signs sign := by
  obtain rfl | rfl := failure
  · refine ⟨rfl, by decide, ?_⟩
    rintro (other | ⟨_, other⟩ | other | other | ⟨other, _⟩)
    case inr.inl => cases other
    all_goals exact absurd other (by decide)
  · simp [Sign.written?, Final]

theorem unfinal_of_request (source : List UInt8) {value : UInt8}
    (fresh : tally signs = ⟨none, 0, 0⟩) (asks : requested? value = some mode) :
    ¬ Final source signs (.heard value) := by
  rintro (other | ⟨_, other⟩ | same | other | ⟨_, begun, _⟩)
  · cases other
  · cases other
  · cases same
    cases asks
  · cases other
  · rw [fresh] at begun
    exact begun rfl

/-- One sign of a sender is permitted, and leads to the stage after it. -/
theorem Fits.pass {stage later : Stage} (fits : Fits policy source stage signs)
    (passes : Passes policy source stage (some sign) later) :
    Permitted policy source signs sign ∧ Fits policy source later (signs ++ [sign]) := by
  cases passes with
  | @begin value mode asks =>
      obtain ⟨fresh, nothing, goes_on⟩ := fits
      have unfinal := unfinal_of_request source fresh asks
      refine ⟨permitted_calling fresh goes_on rfl, .sending ⟨?_, Nat.zero_le _, [], rfl, nofun, ?_⟩
        (Nat.zero_le _) (by simpa using unfinal)⟩
      · simp [fresh, Tally.note, asks]
      · simp [nothing, Sign.written?, groups]
  | @ignore value unasked other =>
      obtain ⟨fresh, nothing, goes_on⟩ := fits
      refine ⟨permitted_calling fresh goes_on rfl, .calling ?_ ?_ ?_⟩
      · simp [fresh, Tally.note, unasked]
      · simp [nothing, Sign.written?]
      · simp [Final, other, fresh]
  | call =>
      obtain ⟨fresh, nothing, goes_on⟩ := fits
      refine ⟨permitted_calling fresh goes_on rfl, .calling ?_ ?_ ?_⟩
      · simp [fresh, Tally.note]
      · simp [nothing, Sign.written?]
      · simp [Final]
  | leave leaves =>
      obtain ⟨fresh, nothing, goes_on⟩ := fits
      have unwritten : sign.written? = none := by
        obtain rfl | rfl | rfl := leaves <;> rfl
      have silent : writes (signs ++ [sign]) = [] := by
        simp [nothing, unwritten]
      exact ⟨permitted_calling fresh goes_on unwritten, .finished (.inl silent)⟩
  | @send mode place copies inside left =>
      obtain ⟨⟩ | ⟨spoken, few, goes_on⟩ := fits
      refine ⟨permitted_sending spoken few goes_on rfl, .awaiting (spoken.write rfl)
        (Nat.succ_pos _) (Nat.succ_le_succ few) ?_ ?_⟩
      · simp [Failure]
      · simp [Final, packet_ne_cancel]
  | @spoil mode place copies inside left =>
      obtain ⟨⟩ | ⟨spoken, few, goes_on⟩ := fits
      exact ⟨permitted_sending spoken few goes_on rfl, .finished
        ((spoken.write rfl).grouped_of_pos (Nat.succ_pos _) (Nat.succ_le_succ few))⟩
  | @advance mode place copies inside =>
      obtain ⟨⟩ | ⟨⟩ | ⟨spoken, some_copy, few, unfailing, goes_on⟩ := fits
      refine ⟨permitted_awaiting spoken some_copy unfailing goes_on rfl,
        .sending (spoken.advance some_copy few inside) (Nat.zero_le _) ?_⟩
      have middle : place ≠ blockCount source := Nat.ne_of_lt inside
      have differs : Signal.byte .acknowledge ≠ Signal.byte .cancel := by decide
      simp [Final, spoken.tally_eq, middle, differs]
  | @finish mode copies =>
      obtain ⟨⟩ | ⟨⟩ | ⟨spoken, some_copy, few, unfailing, goes_on⟩ := fits
      exact ⟨permitted_awaiting spoken some_copy unfailing goes_on rfl,
        .finished ((spoken.grouped_of_pos some_copy few).meet rfl)⟩
  | @discard mode place copies value unacknowledged unrefused uncanceled =>
      obtain ⟨⟩ | ⟨⟩ | ⟨spoken, some_copy, few, unfailing, goes_on⟩ := fits
      refine ⟨permitted_awaiting spoken some_copy unfailing goes_on rfl,
        .awaiting (spoken.meet rfl ?_) some_copy few ?_ ?_⟩
      · simpa using unacknowledged
      · simp [Failure, unrefused]
      · simp [Final, unacknowledged, uncanceled]
  | @retry mode place copies _ failure left =>
      obtain ⟨⟩ | ⟨⟩ | ⟨spoken, some_copy, few, unfailing, goes_on⟩ := fits
      obtain ⟨unwritten, unacknowledged, unfinal⟩ := unfinal_of_failure source signs failure
      exact ⟨permitted_awaiting spoken some_copy unfailing goes_on unwritten,
        .sending (spoken.meet unwritten unacknowledged) left (by simpa using unfinal)⟩
  | @exhaust mode place _ failure =>
      obtain ⟨⟩ | ⟨⟩ | ⟨spoken, some_copy, few, unfailing, goes_on⟩ := fits
      obtain ⟨unwritten, unacknowledged, unfinal⟩ := unfinal_of_failure source signs failure
      exact ⟨permitted_awaiting spoken some_copy unfailing goes_on unwritten,
        .canceling (spoken.meet unwritten unacknowledged) (by simpa using failure)
          (by simpa using unfinal)⟩
  | @quit mode place copies _ quits =>
      obtain ⟨⟩ | ⟨⟩ | ⟨spoken, some_copy, few, unfailing, goes_on⟩ := fits
      have unwritten : sign.written? = none := by
        obtain rfl | rfl := quits <;> rfl
      exact ⟨permitted_awaiting spoken some_copy unfailing goes_on unwritten,
        .finished ((spoken.grouped_of_pos some_copy few).meet unwritten)⟩
  | @cancel mode place _ written =>
      obtain ⟨⟩ | ⟨⟩ | ⟨⟩ | ⟨spoken, failed, goes_on⟩ := fits
      exact ⟨permitted_canceling spoken failed goes_on written,
        .finished (spoken.grouped_of_cancel written)⟩

/-- Along its stages a sender speaks the wire language. -/
theorem fits_of_treads {stage : Stage} (treads : Treads policy source signs stage) :
    Fits policy source stage signs ∧
      ∀ before sign after, signs = before ++ sign :: after →
        Permitted policy source before sign := by
  induction treads with
  | start =>
      refine ⟨.calling rfl rfl (not_ends_nil _), ?_⟩
      intro before sign after same
      exact absurd same.symm (List.append_ne_nil_of_right_ne_nil before (List.cons_ne_nil _ _))
  | @pass signs sign stage later _ passes induction =>
      obtain ⟨fits, orderly⟩ := induction
      cases sign with
      | none =>
          cases passes
          simpa using ⟨fits, orderly⟩
      | some sign =>
          obtain ⟨permitted, fits⟩ := fits.pass passes
          exact ⟨fits, orderly_append_singleton signs sign orderly permitted⟩

end Invariant

/-- Whatever the line does, a sender speaks the wire language. -/
theorem wire_language {policy : RetryPolicy τ} {source : List UInt8} {now : τ}
    {moments : List (Moment (Sender τ) τ)} {sender : Sender τ}
    (talks : Converses (start policy source now) moments sender) :
    WireLanguage policy source (transcript waits moments) := by
  obtain ⟨stage, treads, _⟩ := exists_treads talks
  obtain ⟨fits, orderly⟩ := fits_of_treads treads
  exact ⟨orderly, fits.grouped, fits.grouped.length_writes_le⟩

/-- A sender whose block is refused once, and whose end of transmission is refused until the
budget is spent. -/
theorem wire_language_of_three_bytes :
    let heard (signal : Signal) : ScriptItem Rat := .byte signal.byte
    let line : ScriptedLine Rat :=
      ⟨[heard .negativeAcknowledge, heard .negativeAcknowledge, heard .acknowledge, .silence,
        heard .negativeAcknowledge, .silence, .silence], none, [], 0⟩
    ∃ after moments,
      (Run.mk (start .brief [1, 2, 3] 0) line 0 []).complete 60 = some after ∧
      Converses (start .brief [1, 2, 3] 0) moments after.session ∧
      writes (transcript waits moments) =
        groups .additive [1, 2, 3] [2, 4] ++ [[Signal.byte .cancel]] ∧
      WireLanguage .brief [1, 2, 3] (transcript waits moments) := by
  intro heard line
  have ends : ((Run.mk (start .brief [1, 2, 3] 0) line 0 []).complete 60).map
      (fun after => after.history.filterMap Happening.written?) =
        some (groups .additive [1, 2, 3] [2, 4] ++ [[Signal.byte .cancel]]) := by
    decide +kernel
  obtain ⟨after, ends, written⟩ := Option.map_eq_some_iff.mp ends
  obtain ⟨moments, talks, notes⟩ := Run.exists_converses ends
  have same : writes (transcript waits moments) =
      groups .additive [1, 2, 3] [2, 4] ++ [[Signal.byte .cancel]] := by
    rw [writes, ← talks.written_happenings waits, ← written, notes]
    rfl
  exact ⟨after, moments, ends, talks, same, wire_language talks⟩

end Sender
end Xmodem
