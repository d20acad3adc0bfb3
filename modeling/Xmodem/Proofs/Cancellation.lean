import Xmodem.Proofs.Receiver.Closing
import Xmodem.Proofs.Receiver.Hearing
import Xmodem.Proofs.Receiver.Image
import Xmodem.Proofs.Sender.Closing
import Xmodem.Proofs.Sender.Language

/-!
# Cancellations

A session that is told that its peer gave up gives up itself, at once and without a word, and blames
its peer in no other case.  A sender is told so whenever it waits; a receiver is told so whenever it
awaits a packet.  Within a frame and while the line is drained, the same byte is like any other one.
-/

namespace Xmodem

/-- What a session does about the cancellation of its peer, given when it listens to its peer, and
how many bytes were transferred. -/
structure Heeds (listens : List Sign → Prop) (transferred : Nat) (signs : List Sign)
    (outcome : Option Outcome) : Prop where
  /-- When the peer gives up, the session does so at once. -/
  heeds : ∀ before after, signs = before ++ .heard (Signal.byte .cancel) :: after →
    listens before → after = [] ∧
      ∃ cause : AbortCause, cause.reason = .canceledByPeer ∧
        outcome = some (.error ⟨cause, transferred⟩)
  /-- The peer is blamed in no other case. -/
  blames : ∀ failure, outcome = some (.error failure) → failure.reason = .canceledByPeer →
    Ends (fun before sign => sign = .heard (Signal.byte .cancel) ∧ listens before) signs

variable {τ : Type} [Quantity τ]

namespace Sender

variable {policy : RetryPolicy τ} {source : List UInt8} {begun now deadline : τ}
  {moments : List (Moment (Sender τ) τ)} {sender after : Sender τ}

theorem Reacts.of_heard {value : UInt8} (reacts : Reacts sender now (some (.heard value)) after) :
    (∃ deadline, sender.activity = .listening deadline) ∧ after = (sender.heard now value).1 := by
  cases reacts with
  | hear _ listens => exact ⟨⟨_, listens⟩, rfl⟩

theorem exists_heard_cancel (sender : Sender τ) (now : τ) :
    ∃ cause : AbortCause, cause.reason = .canceledByPeer ∧
      (sender.heard now (Signal.byte .cancel)).1 = (sender.abort now cause).1 := by
  unfold heard
  split
  · exact ⟨_, rfl, rfl⟩
  · exact ⟨_, rfl, rfl⟩

theorem cursor_eq_of_listening (talks : Converses (start policy source begun) moments sender)
    (listens : sender.activity = .listening deadline) :
    sender.cursor = min (blockSize * (tally (transcript waits moments)).place) source.length := by
  obtain ⟨stage, treads, stands⟩ := exists_treads talks
  have fits := (fits_of_treads treads).1
  cases stands with
  | calling keeps _ _ =>
      obtain ⟨fresh, _, _⟩ := fits
      rw [fresh]
      exact keeps.cursor_eq
  | awaiting keeps _ _ _ _ =>
      obtain ⟨⟩ | ⟨⟩ | ⟨spoken, _, _, _, _⟩ := fits
      rw [spoken.tally_eq]
      exact keeps.cursor_eq
  | ready _ _ doing | first _ _ _ doing | again _ _ _ _ _ doing | canceling doing
  | completed _ doing | ended doing => exact absurd (listens.symm.trans doing) nofun

theorem place_tally_cancel (signs : List Sign) :
    (tally (signs ++ [.heard (Signal.byte .cancel)])).place = (tally signs).place := by
  have differs : Signal.byte .cancel ≠ Signal.byte .acknowledge := by decide
  rw [tally_append_singleton]
  simp only [Tally.note, differs, if_false]
  split <;> rfl

/-- A sender that blames its receiver was told so just now. -/
theorem ends_of_canceled (talks : Converses (start policy source begun) moments sender)
    (blames : sender.abortReason? = some .canceledByPeer) :
    (∃ outcome, sender.activity = .ended outcome) ∧
      Ends (fun _ sign => sign = .heard (Signal.byte .cancel)) (transcript waits moments) := by
  induction talks with
  | silent => exact absurd blames nofun
  | @step moments moment _ valid induction =>
      have reacts := reacts_of_valid valid
      obtain earlier | ⟨shown, same, gives_up⟩ := reacts.gives_up blames
      · obtain ⟨⟨_, ended⟩, _⟩ := induction earlier
        exact absurd reacts (Reacts.not_of_ended ended)
      · cases gives_up with
        | canceled =>
            rw [same] at reacts
            obtain ⟨_, becomes⟩ := reacts.of_heard
            obtain ⟨cause, _, aborts⟩ := moment.session.exists_heard_cancel moment.answered
            refine ⟨⟨_, by rw [becomes, aborts]; rfl⟩, ?_⟩
            rw [transcript_append, transcript_singleton, same]
            exact (ends_append_singleton ..).mpr rfl

theorem outcome?_eq_some_iff {outcome : Outcome} :
    sender.outcome? = some outcome ↔ sender.activity = .ended outcome := by
  unfold outcome?
  split <;> simp_all

/-- A sender heeds the cancellation of its receiver in every wait. -/
theorem heeds_of_converses (talks : Converses (start policy source begun) moments sender) :
    Heeds (fun _ => True)
      (min (blockSize * (tally (transcript waits moments)).place) source.length)
      (transcript waits moments) sender.outcome? where
  heeds before after same _ := by
    obtain ⟨front, moment, back, begins, earlier, valid, shown, ends, later⟩ :=
      talks.exists_of_transcript same
    have reacts := reacts_of_valid valid
    rw [shown] at reacts
    obtain ⟨⟨deadline, listens⟩, becomes⟩ := reacts.of_heard
    obtain ⟨cause, peer, aborts⟩ := moment.session.exists_heard_cancel moment.answered
    have gave_up : moment.after.outcome? = some (.error ⟨cause, moment.session.cursor⟩) := by
      rw [becomes, aborts]
      rfl
    have stops (now : τ) : Session.action moment.after now = .stop :=
      (action_eq_stop_iff moment.after now).mpr ⟨_, gave_up⟩
    obtain ⟨rfl, rfl⟩ := ends.eq_nil_of_stop stops
    have reached := cursor_eq_of_listening begins listens
    have place_eq : (tally (transcript waits moments)).place = (tally before).place := by
      rw [same, ← later]
      exact place_tally_cancel before
    refine ⟨later.symm, cause, peer, ?_⟩
    rw [gave_up, reached, earlier, place_eq]
  blames failure ended reason := by
    have blames : sender.abortReason? = some .canceledByPeer := by
      rw [abortReason?, outcome?_eq_some_iff.mp ended, ← reason]
    obtain ⟨before, sign, same, heard⟩ := (ends_of_canceled talks blames).2
    exact ⟨before, sign, same, heard, trivial⟩

end Sender

namespace Receiver

/-- Number of bytes reported by a receiver that gives up behind some blocks. -/
def Setup.reached (setup : Setup τ) (capacity blocks : Nat) : Nat :=
  let stored := min (blockSize * blocks) capacity
  match setup.expectedLength with
  | some length => if length ≤ stored then length else stored
  | none => stored

variable {setup : Setup τ} {initial : Destination} {begun now deadline : τ}
  {moments : List (Moment (Receiver τ) τ)} {receiver : Receiver τ}
  {result : Receiver τ × List (Event τ)}

theorem Reacts.of_heard {value : UInt8} (reacts : Reacts receiver now (some (.heard value)) result)
    (attentive : receiver.activity.attention = .packet) :
    (∃ deadline, receiver.activity = .listening deadline) ∧ result = receiver.heard now value := by
  cases reacts with
  | hear _ listens => exact ⟨⟨_, listens⟩, rfl⟩
  | collect _ doing | drain _ doing =>
      rw [doing] at attentive
      exact absurd attentive nofun

theorem exists_heard_cancel (receiver : Receiver τ) (now : τ) :
    ∃ cause : AbortCause, cause.reason = .canceledByPeer ∧
      (receiver.heard now (Signal.byte .cancel)).1 = (receiver.abort now cause).1 := by
  obtain ⟨other, _⟩ | ⟨other, _⟩ | ⟨_, cause, peer, aborts⟩ | ⟨other, _⟩ :=
    receiver.heard_cases now (Signal.byte .cancel)
  · exact absurd other (by decide)
  · exact absurd other (by decide)
  · exact ⟨cause, peer, aborts⟩
  · exact absurd other (by decide)

theorem transferred_eq_reached {deeds : List Deed}
    (cursor_eq : receiver.cursor = min (blockSize * (accepted deeds).length) initial.capacity)
    (setup_eq : receiver.setup = setup) (incomplete : receiver.phase ≠ .completed) :
    receiver.transferred = setup.reached initial.capacity (accepted deeds).length := by
  unfold transferred Setup.reached
  rw [setup_eq, cursor_eq]
  cases setup.expectedLength <;> simp only [incomplete, if_false]

theorem ends_of_canceled (talks : Converses (start setup initial begun) moments receiver)
    (blames : receiver.abortReason? = some .canceledByPeer) :
    (∃ outcome, receiver.activity = .ended outcome) ∧
      Ends (fun before sign => sign = .heard (Signal.byte .cancel) ∧
        (hearing setup.mode before).attention = .packet) (transcript waits moments) := by
  induction talks with
  | silent => exact absurd blames nofun
  | @step moments moment talks valid induction =>
      have reacts := reacts_of_valid valid
      obtain earlier | ⟨shown, same, gives_up⟩ := reacts.gives_up blames
      · obtain ⟨⟨_, ended⟩, _⟩ := induction earlier
        exact absurd reacts (Reacts.not_of_ended ended)
      · cases gives_up with
        | canceled listens =>
            have attentive := (hears_of_converses talks).attention_of listens
            rw [same] at reacts
            obtain ⟨_, becomes⟩ := reacts.of_heard (congrArg Activity.attention listens)
            obtain ⟨cause, _, aborts⟩ := moment.session.exists_heard_cancel moment.answered
            have gave_up : moment.after = (moment.session.abort moment.answered cause).1 :=
              (congrArg Prod.fst becomes).trans aborts
            refine ⟨⟨_, congrArg Receiver.activity gave_up⟩, ?_⟩
            rw [transcript_append, transcript_singleton, same]
            exact (ends_append_singleton ..).mpr ⟨rfl, attentive⟩

/-- A receiver heeds the cancellation of its sender whenever it awaits a packet. -/
theorem heeds_of_converses (talks : Converses (start setup initial begun) moments receiver) :
    Heeds (fun before => (hearing setup.mode before).attention = .packet)
      (setup.reached initial.capacity (accepted (moments.map deed)).length)
      (transcript waits moments) receiver.outcome? where
  heeds before after same attentive := by
    obtain ⟨course, treads, stands⟩ := exists_treads talks
    have accepted_eq := (done_of_treads treads).accepted_eq
    obtain ⟨front, moment, back, begins, earlier, valid, shown, ends, later⟩ :=
      talks.exists_of_transcript same
    have reacts := reacts_of_valid valid
    rw [← earlier, (hears_of_converses begins).attention_eq] at attentive
    rw [shown] at reacts
    obtain ⟨⟨deadline, listens⟩, becomes⟩ := reacts.of_heard attentive
    obtain ⟨cause, peer, aborts⟩ := moment.session.exists_heard_cancel moment.answered
    have gave_up : moment.after = (moment.session.abort moment.answered cause).1 :=
      (congrArg Prod.fst becomes).trans aborts
    have outcome_eq : moment.after.outcome? = some (.error ⟨cause, moment.after.transferred⟩) := by
      rw [gave_up]
      rfl
    have stops (now : τ) : Session.action moment.after now = .stop :=
      (action_eq_stop_iff moment.after now).mpr ⟨_, outcome_eq⟩
    obtain ⟨rfl, rfl⟩ := ends.eq_nil_of_stop stops
    refine ⟨later.symm, cause, peer, ?_⟩
    have aborted : moment.after.phase ≠ .completed := by
      rw [gave_up]
      exact nofun
    have cursor_eq := stands.keeps.cursor_eq
    rw [← accepted_eq] at cursor_eq
    rw [outcome_eq, transferred_eq_reached cursor_eq stands.keeps.setup_eq aborted]
  blames failure ended reason := by
    have blames : receiver.abortReason? = some .canceledByPeer := by
      rw [abortReason?, outcome?_eq_some_iff.mp ended, ← reason]
    exact (ends_of_canceled talks blames).2

/-- While the line is drained, every byte is the same. -/
theorem after_eq_of_drain (talks : Converses (start setup initial begun) moments receiver)
    {front back : List (Moment (Receiver τ) τ)} {moment : Moment (Receiver τ) τ} {value : UInt8}
    (same : moments = front ++ moment :: back)
    (drains : (hearing setup.mode (transcript waits front)).attention = .drain)
    (arrives : moment.sign? waits = some (.heard value)) : moment.after = moment.session := by
  obtain ⟨begins, valid, _⟩ := talks.cut same
  have reacts := reacts_of_valid valid
  rw [(hears_of_converses begins).attention_eq] at drains
  rw [arrives] at reacts
  cases doing : moment.session.activity with
  | draining deadline =>
      obtain ⟨_, _, becomes⟩ | ⟨other, _⟩ | ⟨_, other, _⟩ := reacts.of_draining doing
      · exact congrArg Prod.fst becomes
      · exact absurd other nofun
      · exact absurd other nofun
  | idle | between | listening | collecting | writing | ended =>
      rw [doing] at drains
      exact absurd drains nofun

end Receiver

/-- Whatever its line does, a session heeds the cancellation of its peer whenever it listens to it,
and blames its peer in no other case.  A sender always listens when it waits, and a receiver when
it awaits a packet; what a receiver drains, it does not listen to. -/
theorem cancellation_heeded :
    (∀ (policy : RetryPolicy τ) (source : List UInt8) (begun : τ)
        (moments : List (Moment (Sender τ) τ)) (sender : Sender τ),
      Converses (Sender.start policy source begun) moments sender →
        Heeds (fun _ => True)
          (min (blockSize * (Sender.tally (transcript Sender.waits moments)).place) source.length)
          (transcript Sender.waits moments) sender.outcome?) ∧
    ∀ (setup : Receiver.Setup τ) (initial : Destination) (begun : τ)
        (moments : List (Moment (Receiver τ) τ)) (receiver : Receiver τ),
      Converses (Receiver.start setup initial begun) moments receiver →
        Heeds (fun before => (Receiver.hearing setup.mode before).attention = .packet)
          (setup.reached initial.capacity (Receiver.accepted (moments.map Receiver.deed)).length)
          (transcript Receiver.waits moments) receiver.outcome? ∧
        ∀ front moment back value, moments = front ++ moment :: back →
          (Receiver.hearing setup.mode (transcript Receiver.waits front)).attention = .drain →
          moment.sign? Receiver.waits = some (.heard value) → moment.after = moment.session := by
  constructor
  · intro policy source begun moments sender talks
    exact Sender.heeds_of_converses talks
  · intro setup initial begun moments receiver talks
    refine ⟨Receiver.heeds_of_converses talks, ?_⟩
    intro front moment back value same drains arrives
    exact Receiver.after_eq_of_drain talks same drains arrives

/-- A sender whose receiver gives up behind some noise while it waits for the last answer, and a
receiver whose sender gives up behind some noise after one block. -/
theorem cancellation_heeded_behind_noise :
    let heard (signal : Signal) : ScriptItem Rat := .byte signal.byte
    let leaving : ScriptedLine Rat :=
      ⟨[heard .negativeAcknowledge, heard .acknowledge, .byte 0, heard .cancel], none, [], 0⟩
    let frame := Frame.encode .additive (Packets.block [1, 2, 3] 0)
    let giving_up : ScriptedLine Rat :=
      ⟨frame.map .byte ++ [.byte 255, heard .cancel], none, [], 0⟩
    let setup : Receiver.Setup Rat := ⟨.brief, .additive, none, false⟩
    (∃ after moments,
      (Run.mk (Sender.start .brief [1, 2, 3] 0) leaving 0 []).complete 60 = some after ∧
      Converses (Sender.start .brief [1, 2, 3] 0) moments after.session ∧
      after.session.outcome? = some (.error ⟨.receiverCanceled .awaitingEotAck, 3⟩) ∧
      Ends (fun _ sign => sign = .heard (Signal.byte .cancel) ∧ True)
        (transcript Sender.waits moments)) ∧
    ∃ after moments,
      (Run.mk (Receiver.start setup (.filled 3 0) 0) giving_up 0 []).complete 400 = some after ∧
      Converses (Receiver.start setup (.filled 3 0) 0) moments after.session ∧
      after.session.outcome? = some (.error ⟨.senderCanceled 3, 3⟩) ∧
      Ends (fun before sign => sign = .heard (Signal.byte .cancel) ∧
        (Receiver.hearing .additive before).attention = .packet)
        (transcript Receiver.waits moments) := by
  intro heard leaving frame giving_up setup
  have sends : ((Run.mk (Sender.start .brief [1, 2, 3] 0) leaving 0 []).complete 60).map
      (fun after => after.session.outcome?) =
        some (some (.error ⟨.receiverCanceled .awaitingEotAck, 3⟩)) := by
    decide +kernel
  have receives :
      ((Run.mk (Receiver.start setup (.filled 3 0) 0) giving_up 0 []).complete 400).map
        (fun after => after.session.outcome?) = some (some (.error ⟨.senderCanceled 3, 3⟩)) := by
    decide +kernel
  obtain ⟨sender, sends, left⟩ := Option.map_eq_some_iff.mp sends
  obtain ⟨talk, talks, _⟩ := Run.exists_converses sends
  obtain ⟨receiver, receives, gave_up⟩ := Option.map_eq_some_iff.mp receives
  obtain ⟨answers, replies, _⟩ := Run.exists_converses receives
  obtain ⟨senders, receivers⟩ := cancellation_heeded (τ := Rat)
  have told := (senders _ _ _ _ _ talks).blames _ left rfl
  have told_receiver := (receivers _ _ _ _ _ replies).1.blames _ gave_up rfl
  exact ⟨⟨sender, talk, sends, talks, left, told⟩,
    receiver, answers, receives, replies, gave_up, told_receiver⟩

/-- A sender gives up right behind a damaged frame.  Its receiver drains what it hears, refuses the
frame, and completes the transfer when the sender goes on all the same. -/
theorem drained_cancellation_ignored :
    let setup : Receiver.Setup Rat := ⟨.brief, .additive, none, false⟩
    ∃ moments receiver before after,
      Converses (Receiver.start setup (.filled 3 0) 0) moments receiver ∧
      transcript Receiver.waits moments =
        before ++ .heard (Signal.byte .cancel) :: after ∧
      (Receiver.hearing .additive before).attention = .drain ∧
      receiver.outcome? = some (.ok 3) := by
  intro setup
  let frame := Frame.encode .additive (Packets.block [1, 2, 3] 0)
  let damaged := frame.set 3 0
  let line : ScriptedLine Rat :=
    ⟨damaged.map .byte ++ .byte (Signal.byte .cancel) :: .silence ::
      frame.map .byte ++ [.byte (Signal.byte .endOfTransmission)], none, [], 0⟩
  let run := Run.mk (Receiver.start setup (.filled 3 0) 0) line 0 []
  let signs := transcript Receiver.waits (run.talk 600).1
  have told : signs = signs.take 133 ++ .heard (Signal.byte .cancel) :: signs.drop 134 := by
    decide +kernel
  have drains : (Receiver.hearing .additive (signs.take 133)).attention = .drain := by
    decide +kernel
  have completes : (run.talk 600).2.session.outcome? = some (.ok 3) := by
    decide +kernel
  exact ⟨_, _, _, _, run.converses_talk 600, told, drains, completes⟩

end Xmodem
