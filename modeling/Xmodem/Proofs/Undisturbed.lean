import Xmodem.Proofs.Receiver.Disturbance

/-!
# Endings that disturbances leave alone

A script may be disturbed in front of every packet.  Whatever the disturbances are, as long as there
are few silences among them, the receiver ends as it would have ended without them: with the same
outcome, the same destination, and the same reports.
-/

namespace Xmodem
namespace Receiver

/-- What may come between two packets, when some block was the latest one, with the number of silent
waits that it brings about. -/
inductive Disturbs (mode : ChecksumMode) (latest : Option Block) :
    Nat → List (ScriptItem Rat) → Prop
  | nothing : Disturbs mode latest 0 []
  | noise {value : UInt8} {count : Nat} {rest : List (ScriptItem Rat)} :
      value ∉ announcements → Disturbs mode latest count rest →
      Disturbs mode latest count (.byte value :: rest)
  | repetition {block : Block} {count : Nat} {rest : List (ScriptItem Rat)} :
      latest = some block → Disturbs mode latest count rest →
      Disturbs mode latest count ((Frame.encode mode block).map .byte ++ rest)
  | damage {raw drained : List UInt8} {error : FrameError} {count : Nat}
      {rest : List (ScriptItem Rat)} :
      raw.head? = some startOfBlock → raw.length = Frame.length mode →
      Frame.decode mode raw = .error error → Disturbs mode latest count rest →
      Disturbs mode latest count (raw.map .byte ++ (drained.map .byte ++ [.silence]) ++ rest)
  | fragment {raw : List UInt8} {count : Nat} {rest : List (ScriptItem Rat)} :
      raw.head? = some startOfBlock → raw.length < Frame.length mode →
      Disturbs mode latest count rest →
      Disturbs mode latest (count + 1) (raw.map .byte ++ [.silence] ++ rest)
  | pause {count : Nat} {rest : List (ScriptItem Rat)} :
      Disturbs mode latest count rest → Disturbs mode latest (count + 1) (.silence :: rest)

/-- The script of some blocks and the end of transmission, with disturbances in front of each. -/
inductive Disturbed (mode : ChecksumMode) (attempts : Nat) :
    Option Block → List Block → List (ScriptItem Rat) → Prop
  | last {latest : Option Block} {count : Nat} {before : List (ScriptItem Rat)} :
      Disturbs mode latest count before → count < attempts →
      Disturbed mode attempts latest [] (before ++ [.byte (Signal.byte .endOfTransmission)])
  | block {latest : Option Block} {count : Nat} {before rest : List (ScriptItem Rat)}
      {block : Block} {blocks : List Block} :
      Disturbs mode latest count before → count < attempts →
      Disturbed mode attempts (some block) blocks rest →
      Disturbed mode attempts latest (block :: blocks)
        (before ++ (Frame.encode mode block).map .byte ++ rest)

/-- The script of some blocks and the end of transmission. -/
def undisturbed (mode : ChecksumMode) : List Block → List (ScriptItem Rat)
  | [] => [.byte (Signal.byte .endOfTransmission)]
  | block :: blocks => (Frame.encode mode block).map .byte ++ undisturbed mode blocks

/-- How a transfer ends. -/
structure Ending where
  /-- The outcome of the receiver. -/
  outcome : Outcome
  /-- What it has stored. -/
  destination : Destination
  /-- The totals that it has reported. -/
  reports : List Nat

/-- How a transfer ends in which a receiver with some stock gets some blocks. -/
def Stock.ending (stock : Stock) : List Block → Ending
  | [] => ⟨.ok { stock.receiver with phase := .completed }.transferred, stock.destination, []⟩
  | block :: blocks =>
      if stock.receiver.hasRoomFor block.payload then
        let rest := (stock.store block).ending blocks
        { rest with reports := (stock.store block).cursor :: rest.reports }
      else
        ⟨.error ⟨.noRoom block.number stock.cursor stock.destination.capacity,
          { stock.receiver with phase := .aborted }.transferred⟩, stock.destination, []⟩

section Ending

variable {mode : ChecksumMode} {attempts : Nat} {latest : Option Block} {blocks : List Block}
  {items : List (ScriptItem Rat)} {stock : Stock}

/-- Nothing at all is a disturbance, too. -/
theorem disturbed_undisturbed (some_attempt : 0 < attempts) :
    Disturbed mode attempts latest blocks (undisturbed mode blocks) := by
  induction blocks generalizing latest with
  | nil => exact .last .nothing some_attempt
  | cons block blocks induction => exact .block .nothing some_attempt induction

/-- A receiver knows the latest block, and waits for another one. -/
def Stock.Latest (stock : Stock) (latest : Option Block) : Prop :=
  ∀ block, latest = some block →
    stock.lastAccepted = some block.number ∧ block.number ≠ stock.expectedBlock

theorem Stock.store_eq {block : Block} (roomy : stock.receiver.hasRoomFor block.payload = true) :
    (stock.store block).setup = stock.setup ∧
      (stock.store block).lastAccepted = some block.number ∧
      (stock.store block).expectedBlock = block.number + 1 := by
  simp only [store, accept, roomy, if_true]
  exact ⟨rfl, rfl, rfl⟩

theorem Stock.latest_store {block : Block}
    (roomy : stock.receiver.hasRoomFor block.payload = true) :
    (stock.store block).Latest (some block) := by
  obtain ⟨_, last, expected⟩ := Stock.store_eq roomy
  rintro _ ⟨⟩
  refine ⟨last, ?_⟩
  rw [expected, ne_eq, ← UInt8.toNat_inj, UInt8.toNat_add, UInt8.toNat_one]
  have small := block.number.toNat_lt
  omega

theorem Disturbs.leads {count : Nat} (disturbs : Disturbs stock.setup.mode latest count items)
    (known : stock.Latest latest) {before : Nat}
    (patient : before + count < stock.setup.policy.maxHandshakeAttempts) :
    Leads stock before items [] stock (before + count) := by
  induction disturbs generalizing before with
  | nothing => exact leads_nil
  | noise noise _ induction => exact (leads_noise noise).append (induction patient)
  | repetition same _ induction =>
      obtain ⟨last, unexpected⟩ := known _ same
      exact (leads_repetition last unexpected).append (induction patient)
  | damage first whole damaged _ induction =>
      exact (leads_damage first whole damaged _).append (induction patient)
  | @fragment raw count rest first short _ induction =>
      rw [← Nat.add_assoc, Nat.add_right_comm]
      exact (leads_fragment first short (by omega)).append (induction (by omega))
  | @pause count rest _ induction =>
      rw [← Nat.add_assoc, Nat.add_right_comm]
      exact (leads_pause (by omega)).append (induction (by omega))

/-- A receiver plays every disturbed script to the same ending. -/
theorem Disturbed.exists_plays (stock : Stock) (stored : Nat)
    (disturbed : Disturbed stock.setup.mode stock.setup.policy.maxHandshakeAttempts latest blocks
      items)
    (unconfirmed : stock.setup.confirmEot = false) (known : stock.Latest latest)
    (expected : stock.expectedBlock = .ofNat (stored + 1))
    (numbered : ∀ place (inside : place < blocks.length), Follows (stored + place) blocks[place])
    {receiver : Receiver Rat} {now : Rat} (awaits : Awaits stock 0 now receiver) :
    ∃ after : Cue (Receiver Rat) Rat,
      Plays ⟨receiver, now, items⟩ (stock.ending blocks).reports after ∧
      after.session.activity = .ended (stock.ending blocks).outcome ∧
      after.session.destination = (stock.ending blocks).destination := by
  induction blocks generalizing stock latest items stored receiver now with
  | nil =>
      obtain @⟨_, count, before, disturbs, patient⟩ := disturbed
      have leads := disturbs.leads known (Nat.zero_add count ▸ patient)
      obtain ⟨between, instant, plays, awaits⟩ := leads _ _ _ awaits
      obtain ⟨after, completes, ended, same⟩ := awaits.exists_completed unconfirmed []
      exact ⟨_, plays.trans completes, ended, same⟩
  | cons block blocks induction =>
      obtain _ | @⟨_, count, before, rest, _, _, disturbs, patient, disturbed⟩ := disturbed
      have first : block.number = stock.expectedBlock :=
        (numbered 0 (Nat.succ_pos _)).trans expected.symm
      have leads := disturbs.leads known (Nat.zero_add count ▸ patient)
      by_cases roomy : stock.receiver.hasRoomFor block.payload = true
      · obtain ⟨setup_eq, _, next⟩ := Stock.store_eq roomy
        obtain ⟨between, instant, plays, awaits⟩ :=
          leads.append (leads_block first roomy) _ _ rest awaits
        have expected_next : (stock.store block).expectedBlock = .ofNat (stored + 1 + 1) := by
          rw [next, first, expected]
          exact (UInt8.ofNat_add (stored + 1) 1).symm
        have numbered_next (place : Nat) (inside : place < blocks.length) :
            Follows (stored + 1 + place) blocks[place] := by
          have follows := numbered (place + 1) (Nat.succ_lt_succ inside)
          rwa [← Nat.add_assoc, Nat.add_right_comm] at follows
        rw [← setup_eq] at disturbed unconfirmed
        obtain ⟨after, more, ended, same⟩ := induction _ _ disturbed unconfirmed
          (Stock.latest_store roomy) expected_next numbered_next awaits
        have ending_eq : stock.ending (block :: blocks) = _ := if_pos roomy
        rw [ending_eq]
        exact ⟨after, plays.trans more, ended, same⟩
      · obtain ⟨between, instant, plays, awaits⟩ := leads _ _ _ awaits
        obtain ⟨after, ends, ended, same⟩ := awaits.exists_full first roomy rest
        rw [List.append_assoc]
        have ending_eq : stock.ending (block :: blocks) = _ := if_neg roomy
        rw [ending_eq]
        exact ⟨_, plays.trans ends, ended, same⟩

end Ending

theorem exists_awaits_start (setup : Setup Rat) (initial : Destination) (now : Rat)
    (items : List (ScriptItem Rat)) :
    ∃ later, Plays ⟨start setup initial now, now, items⟩ [] ⟨later, now, items⟩ ∧
      Awaits (start setup initial now).stock 0 now later := by
  have between : Between (start setup initial now).stock 0
      ((start setup initial now).next now .proceeded).1 :=
    ⟨.inl rfl, rfl, rfl, Nat.le_refl 0⟩
  obtain ⟨later, plays, awaits⟩ := between.exists_awaits
  exact ⟨later, plays_proceed nofun rfl plays, awaits⟩

theorem Disturbed.exists_perform {setup : Setup Rat} (initial : Destination) (now : Rat)
    {blocks : List Block} {items : List (ScriptItem Rat)}
    (disturbed : Disturbed setup.mode setup.policy.maxHandshakeAttempts none blocks items)
    (unconfirmed : setup.confirmEot = false)
    (numbered : ∀ place (inside : place < blocks.length), Follows place blocks[place]) :
    ∃ fuel final,
      (Run.mk (start setup initial now) ⟨items, none, [], 0⟩ now []).perform fuel =
        some (.ok ((start setup initial now).stock.ending blocks).outcome, final) ∧
      final.session.destination = ((start setup initial now).stock.ending blocks).destination ∧
      final.totals .received = ((start setup initial now).stock.ending blocks).reports := by
  obtain ⟨later, begins, awaits⟩ := exists_awaits_start setup initial now items
  obtain ⟨after, plays, ended, same⟩ := Disturbed.exists_plays _ 0 disturbed unconfirmed
    (by rintro _ ⟨⟩) rfl (by simpa using numbered) awaits
  have stands : (Run.mk (start setup initial now) ⟨items, none, [], 0⟩ now []).StandsAt
      ⟨start setup initial now, now, items⟩ := ⟨rfl, rfl, rfl, rfl, rfl⟩
  have stops : Session.action after.session after.now = .stop := by
    simp [Session.action, action, ended]
  have outcome_eq : after.session.outcome? =
      some ((start setup initial now).stock.ending blocks).outcome := by
    simp [outcome?, ended]
  obtain ⟨fuel, final, ends, session_eq, totals_eq⟩ :=
    Run.perform_of_plays stands rfl (begins.trans plays) stops outcome_eq
  exact ⟨fuel, final, ends, session_eq ▸ same, totals_eq⟩

/-- Disturbances leave the ending of a receiver as it is. -/
theorem same_ending_of_disturbed {setup : Setup Rat} {initial : Destination} {now : Rat}
    {blocks : List Block} {script : List (ScriptItem Rat)}
    (unconfirmed : setup.confirmEot = false)
    (numbered : ∀ place (inside : place < blocks.length), Follows place blocks[place])
    (disturbed : Disturbed setup.mode setup.policy.maxHandshakeAttempts none blocks script) :
    ∃ fuel outcome calm troubled,
      (Run.mk (start setup initial now) ⟨undisturbed setup.mode blocks, none, [], 0⟩ now
        []).perform fuel = some (.ok outcome, calm) ∧
      (Run.mk (start setup initial now) ⟨script, none, [], 0⟩ now []).perform fuel =
        some (.ok outcome, troubled) ∧
      troubled.session.destination = calm.session.destination ∧
      troubled.totals .received = calm.totals .received := by
  obtain ⟨few, calm, ends, calm_destination, calm_totals⟩ :=
    (disturbed_undisturbed setup.policy.maxHandshakeAttempts_pos).exists_perform initial
      now unconfirmed numbered
  obtain ⟨more, troubled, troubled_ends, destination_eq, totals_eq⟩ :=
    disturbed.exists_perform initial now unconfirmed numbered
  refine ⟨max few more, _, calm, troubled, Run.perform_mono (Nat.le_max_left ..) ends, ?_, ?_, ?_⟩
  · exact Run.perform_mono (Nat.le_max_right ..) troubled_ends
  · rw [destination_eq, calm_destination]
  · rw [totals_eq, calm_totals]

/-- All kinds of disturbances around one block. -/
theorem same_ending_of_disturbed_block :
    let setup : Setup Rat := ⟨.brief, .additive, none, false⟩
    let block := Packets.block [1, 2, 3] 0
    let frame := Frame.encode .additive block
    let before : List (ScriptItem Rat) :=
      .byte 0 :: ([startOfBlock, 1].map .byte ++ [.silence] ++
        ((frame.set 1 0).map .byte ++ ([startOfBlock, 4].map .byte ++ [.silence]) ++ []))
    let script := before ++ frame.map .byte ++
      (frame.map .byte ++ [.silence] ++ [.byte (Signal.byte .endOfTransmission)])
    Disturbed .additive 2 none [block] script ∧
    ∃ fuel outcome calm troubled,
      (Run.mk (start setup (.filled 3 0) 0) ⟨undisturbed .additive [block], none, [], 0⟩ 0
        []).perform fuel = some (.ok outcome, calm) ∧
      (Run.mk (start setup (.filled 3 0) 0) ⟨script, none, [], 0⟩ 0 []).perform fuel =
        some (.ok outcome, troubled) ∧
      troubled.session.destination = calm.session.destination ∧
      troubled.totals .received = calm.totals .received := by
  intro setup block frame before script
  have damaged : Frame.decode .additive (frame.set 1 0) = .error (.malformedNumber 0 254) := by
    decide +kernel
  have whole : (frame.set 1 0).length = Frame.length .additive := by
    rw [List.length_set]
    exact Frame.length_encode ..
  have disturbs : Disturbs .additive none 1 before :=
    .noise (by decide) (.fragment rfl (by decide) (.damage rfl whole damaged .nothing))
  have disturbed : Disturbed .additive 2 none [block] script :=
    .block disturbs (by decide) (.last (.repetition rfl (.pause .nothing)) (by decide))
  have numbered (place : Nat) (inside : place < [block].length) :
      Follows place [block][place] := by
    obtain rfl : place = 0 := Nat.lt_one_iff.mp inside
    rfl
  exact ⟨disturbed, same_ending_of_disturbed rfl numbered disturbed⟩

end Receiver
end Xmodem
