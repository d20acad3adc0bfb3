import Xmodem.Proofs.Endings
import Xmodem.Proofs.Lengths

/-!
# Muffled lines

When every write arrives as it was sent, or not at all, or as one byte that means nothing, a
transfer ends, and it ends well or in the failure of the receiver.  Every packet is sent a bounded
number of times, and between two packets the receiver waits a bounded number of times.
-/

namespace Xmodem

/-- Whether a write arrives as it was sent, or not at all, or as one byte that means nothing. -/
def Alteration.Muffles (alteration : Alteration) (meaningful : List UInt8) (write : Nat)
    (bytes : List UInt8) : Prop :=
  alteration write bytes = bytes ∨ alteration write bytes = [] ∨
    ∃ noise, noise ∉ meaningful ∧ alteration write bytes = [noise]

/-- Whether the answers of a receiver are at worst muffled. -/
def Alteration.Answers (back : Alteration) (mode : ChecksumMode) : Prop :=
  ∀ write purpose,
    back.Muffles (Sender.replies ++ Sender.calls) write [Receiver.Writing.byte mode purpose]

/-- Whether from some write on, a cancellation and the packets from some place on are at worst
muffled. -/
structure Alteration.Carries (forth : Alteration) (mode : ChecksumMode) (source : List UInt8)
    (place sent : Nat) : Prop where
  packets : ∀ later ≥ place, ∀ write ≥ sent,
    forth.Muffles Receiver.announcements write (Packets.packet mode source later)
  cancellation : ∀ write ≥ sent, forth.Muffles Receiver.announcements write [Signal.byte .cancel]

theorem Alteration.Carries.mono {forth : Alteration} {mode : ChecksumMode} {source : List UInt8}
    {place later sent more : Nat} (carries : forth.Carries mode source place sent)
    (behind : place ≤ later) (longer : sent ≤ more) : forth.Carries mode source later more where
  packets further further_ge write write_ge :=
    carries.packets further (behind.trans further_ge) write (longer.trans write_ge)
  cancellation write write_ge := carries.cancellation write (longer.trans write_ge)

namespace Scene

open Packets Destination

/-- Whether the receiver of a pair has given up or holds the whole source. -/
def Safe (source : List UInt8) (pair : Pair Rat) : Prop :=
  Fails pair ∨ pair.receiver.outcome? = some (.ok source.length) ∧
    pair.receiver.destination.toList.take source.length = source

variable {setup : Receiver.Setup Rat} {initial : Destination} {source : List UInt8}
  {forth back : Alteration} {place count sent answered attempts handshakes idle calls bound : Nat}
  {pending : Bool} {metrics counters : Metrics Rat} {sender : Sender Rat}
  {receiver : Receiver Rat} {backward forward : List UInt8} {now first second later : Rat}
  {before : Scene} {phase : ReceivePhase}

theorem safe_of_failed (failed : receiver.Failed) (pair : Pair Rat)
    (receiver_eq : pair.receiver = receiver) : Safe source pair := by
  left
  rw [Fails, receiver_eq]
  exact failed

/-- A receiver that has completed holds the source and says so. -/
theorem safe_of_completed (long : source.length ≤ initial.capacity)
    (expects : setup.expectedLength = some source.length) (pair : Pair Rat)
    (receiver_eq : pair.receiver =
      .completed setup initial source (blockCount source) calls pending counters later) :
    Safe source pair := by
  right
  have stored : source.length ≤ offset initial.capacity (blockCount source) :=
    le_min ((blockCount_le_iff source _).mp le_rfl) long
  have reported : Receiver.reported setup initial source (blockCount source) .completed =
      source.length := by
    rw [Receiver.reported_completed, expects]
    exact if_pos stored
  rw [receiver_eq]
  exact ⟨congrArg (fun length => some (Except.ok length)) reported, take_toList_holding long⟩

/-- Whether every pair ends well that just wrote a packet. -/
def WrittenEnds (setup : Receiver.Setup Rat) (initial : Destination) (source : List UInt8)
    (forth back : Alteration) (place attempts sent : Nat) : Prop :=
  ∀ ⦃count answered handshakes metrics receiver now second⦄,
    Listens setup initial source count second receiver → Near source place count → now ≤ second →
    Ends (Safe source)
      ⟨.waiting setup.policy setup.mode source place attempts handshakes metrics
          (now + setup.policy.byteTimeout), receiver,
        ⟨forth, back, sent + 1, answered, [], forth sent (packet setup.mode source place)⟩, now,
        .until (now + setup.policy.byteTimeout), .until second⟩

/-- Whether every pair ends well in which the sender waits for an answer, nothing is on its way, and
the receiver has less than some patience. -/
def CalmEnds (setup : Receiver.Setup Rat) (initial : Destination) (source : List UInt8)
    (forth back : Alteration) (place attempts sent bound : Nat) : Prop :=
  ∀ ⦃count answered handshakes metrics receiver now first second⦄,
    Listens setup initial source count second receiver → receiver.patience < bound →
    Near source place count → now ≤ first → now ≤ second →
    Ends (Safe source)
      ⟨.waiting setup.policy setup.mode source place attempts handshakes metrics first, receiver,
        ⟨forth, back, sent, answered, [], []⟩, now, .until first, .until second⟩

section Replies

theorem ends_given_up (carries : forth.Carries setup.mode source place sent)
    (rests : receiver.Rests second) (late : now ≤ second) :
    Ends (Safe source)
      ⟨sender, receiver, ⟨forth, back, sent + 1, answered, [],
        forth sent [Signal.byte .cancel]⟩, now, .ended, .until second⟩ := by
  refine (ends_deserted rests late ?_).mono fun pair fails => .inl fails
  rcases carries.cancellation sent le_rfl with arrives | lost | ⟨noise, meaningless, muffled⟩
  · exact .inr ⟨_, by decide, by decide, arrives⟩
  · exact .inl lost
  · simp only [Receiver.announcements, List.mem_cons, List.not_mem_nil, or_false, not_or]
      at meaningless
    exact .inr ⟨noise, meaningless.1, meaningless.2.1, muffled⟩

variable (carries : forth.Carries setup.mode source place sent)
  (again : attempts < setup.policy.maxRetries →
    WrittenEnds setup initial source forth back place (attempts + 1) sent)
  (calm : CalmEnds setup initial source forth back place attempts sent bound)
  (listens : Listens setup initial source count second receiver)
  (patient : receiver.patience < bound) (near : Near source place count) (early : now < first)
  (late : now ≤ second)

include listens late

include carries again in
theorem ends_refusal (near : Near source place count) :
    Ends (Safe source)
      ⟨.waiting setup.policy setup.mode source place attempts handshakes metrics first, receiver,
        ⟨forth, back, sent, answered, [Signal.byte .negativeAcknowledge], []⟩, now, .until first,
        .until second⟩ := by
  rcases Nat.lt_or_ge attempts setup.policy.maxRetries with few | many
  · exact Reaches.ends (.single (leads_of_refusal few)) (again few listens near late)
  · obtain ⟨cause, leads⟩ := leads_of_last_refusal many
    exact Reaches.ends (.single leads) (ends_given_up carries listens.rests late)

include calm patient near early

/-- A reply was written.  It is enough to know what becomes of it when it arrives. -/
theorem ends_replied (purpose : Receiver.Writing) (answers : back.Answers setup.mode)
    {write : Nat}
    (arrives : Ends (Safe source)
      ⟨.waiting setup.policy setup.mode source place attempts handshakes metrics first, receiver,
        ⟨forth, back, sent, answered, [Receiver.Writing.byte setup.mode purpose], []⟩, now,
        .until first, .until second⟩) :
    Ends (Safe source)
      ⟨.waiting setup.policy setup.mode source place attempts handshakes metrics first, receiver,
        ⟨forth, back, sent, answered, back write [Receiver.Writing.byte setup.mode purpose], []⟩,
        now, .until first, .until second⟩ := by
  rcases answers write purpose with intact | lost | ⟨noise, meaningless, muffled⟩
  · rw [intact]
    exact arrives
  · rw [lost]
    exact calm listens patient near early.le late
  · have ignored : noise ∉ Sender.replies := fun reply =>
      meaningless (List.mem_append_left _ reply)
    rw [muffled]
    exact Reaches.ends (.single (leads_of_noise ignored early))
      (calm listens patient near early.le late)

theorem ends_called_again (carries : forth.Carries setup.mode source place sent)
    (again : attempts < setup.policy.maxRetries →
      WrittenEnds setup initial source forth back place (attempts + 1) sent)
    (answers : back.Answers setup.mode) {write : Nat} :
    Ends (Safe source)
      ⟨.waiting setup.policy setup.mode source place attempts handshakes metrics first, receiver,
        ⟨forth, back, sent, answered,
          back write [Receiver.Writing.request.byte setup.mode], []⟩, now, .until first,
        .until second⟩ := by
  refine ends_replied calm listens patient near early late .request answers ?_
  rcases Sender.request_refuses_or_noise setup.mode with refusal | noise
  · rw [refusal]
    exact ends_refusal carries again listens late near
  · exact Reaches.ends (.single (leads_of_noise noise early))
      (calm listens patient near early.le late)

end Replies

section Silence

variable (carries : forth.Carries setup.mode source place sent) (answers : back.Answers setup.mode)
  (again : attempts < setup.policy.maxRetries →
    WrittenEnds setup initial source forth back place (attempts + 1) sent)

include carries answers again

theorem ends_silent_receiver (handshakes answered : Nat) (metrics : Metrics Rat)
    (calm : CalmEnds setup initial source forth back place attempts sent bound)
    (listens : Listens setup initial source count second receiver)
    (patient : receiver.patience ≤ bound) (near : Near source place count) (early : now < first)
    (reaches : ∀ later after pause,
      Turn .b now (receiver.next now .silence).1 ⟨forth, back, sent, answered, [], []⟩ later after
        pause →
      before.Reaches
        ⟨.waiting setup.policy setup.mode source place attempts handshakes metrics first, later,
          after, now, .until first, pause⟩) :
    before.Ends (Safe source) := by
  have late : now ≤ now + setup.policy.handshakeTimeout :=
    (setup.policy.lt_add_handshakeTimeout _).le
  obtain ⟨later, after, pause, turn, silenced⟩ :=
    listens.silenced now ⟨forth, back, sent, answered, [], []⟩ rfl
  refine (reaches later after pause turn).ends ?_
  cases silenced with
  | calls later_eq blocks less =>
      subst later_eq
      exact ends_called_again calm (.calling blocks) (less.trans_le patient) near early late carries
        again answers
  | waits listens less => exact calm listens (less.trans_le patient) near early.le late
  | quits quits => exact ends_unheard_quiet (safe_of_failed quits.failed) .waiting early.le

theorem ends_calm (bound : Nat) :
    CalmEnds setup initial source forth back place attempts sent bound := by
  induction bound with
  | zero =>
      intro count answered handshakes metrics receiver now first second listens patient
      exact absurd patient (Nat.not_lt_zero _)
  | succ bound induction =>
      intro count answered handshakes metrics receiver now first second listens patient near
        early late
      -- The sender goes first on a tie, and then uses up a retry instead of patience.
      rcases le_or_gt first second with sender_first | receiver_first
      · rcases Nat.lt_or_ge attempts setup.policy.maxRetries with few | many
        · exact Reaches.ends
            (reaches_of_sender_timeout rfl rfl early (.inr ⟨second, rfl, sender_first, rfl⟩)
              (Sender.turn_retry .timeout few rfl))
            (again few listens near sender_first)
        · obtain ⟨cause, turn⟩ := Sender.turn_giveUp .timeout many
          exact Reaches.ends
            (reaches_of_sender_timeout rfl rfl early (.inr ⟨second, rfl, sender_first, rfl⟩) turn)
            (ends_given_up carries listens.rests sender_first)
      · refine ends_silent_receiver carries answers again handshakes answered metrics induction
          listens (by omega) near receiver_first fun later after pause turn => ?_
        exact reaches_of_receiver_timeout rfl rfl late (.inr ⟨first, rfl, receiver_first, rfl⟩) turn

end Silence

section Packets

variable (answers : back.Answers setup.mode)
  (calm : ∀ bound, CalmEnds setup initial source forth back place attempts sent bound)

include answers calm

theorem ends_acknowledged
    (further : WrittenEnds setup initial source forth back (place + 1) 0 sent)
    (listens : Listens setup initial source (place + 1) second receiver)
    (inside : place < blockCount source) (early : now < first) (late : now ≤ second) {write : Nat} :
    Ends (Safe source)
      ⟨.waiting setup.policy setup.mode source place attempts handshakes metrics first, receiver,
        ⟨forth, back, sent, answered, back write [Signal.byte .acknowledge], []⟩, now,
        .until first, .until second⟩ := by
  have near : Near source place (place + 1) := ⟨Nat.le_succ _, le_rfl, inside⟩
  refine ends_replied (calm _) listens (Nat.lt_succ_self _) near early late .acceptance answers ?_
  exact Reaches.ends (.single (leads_of_acknowledge inside))
    (further listens ⟨le_rfl, by omega, inside⟩ late)

theorem ends_noise (carries : forth.Carries setup.mode source place sent)
    (again : attempts < setup.policy.maxRetries →
      WrittenEnds setup initial source forth back place (attempts + 1) sent)
    (listens : Listens setup initial source count second receiver)
    (near : Near source place count) (early : now < first) (late : now ≤ second) {noise : UInt8}
    (meaningless : noise ∉ Receiver.announcements) :
    Ends (Safe source)
      ⟨.waiting setup.policy setup.mode source place attempts handshakes metrics first, receiver,
        ⟨forth, back, sent, answered, [], [noise]⟩, now, .until first, .until second⟩ := by
  have ignored := listens.next_of_noise meaningless now
  rcases late.lt_or_eq with before | rfl
  · have waits : Turn .b now (receiver.next now (.byte noise)).1
        ⟨forth, back, sent, answered, [], []⟩ receiver ⟨forth, back, sent, answered, [], []⟩
        (.until second) := by
      rw [ignored]
      exact Receiver.turn_listening listens.activity_eq before rfl
    exact Reaches.ends (.single (leads_of_receiver_byte ⟨rfl, early⟩ rfl rfl waits))
      (calm _ listens (Nat.lt_succ_self _) near early.le late)
  · refine ends_silent_receiver carries answers again handshakes answered metrics (calm _) listens
      le_rfl near early fun later after pause turn => ?_
    refine .single (leads_of_receiver_byte ⟨rfl, early⟩ rfl rfl ?_)
    rw [ignored]
    exact Receiver.turn_overdue listens.activity_eq le_rfl turn

end Packets

section Transfer

variable (long : source.length ≤ initial.capacity)
  (expects : setup.expectedLength = some source.length) (answers : back.Answers setup.mode)

include long expects answers

theorem ends_arrived (carries : forth.Carries setup.mode source place sent)
    (further : place < blockCount source →
      WrittenEnds setup initial source forth back (place + 1) 0 sent)
    (again : attempts < setup.policy.maxRetries →
      WrittenEnds setup initial source forth back place (attempts + 1) sent)
    (listens : Listens setup initial source count second receiver)
    (near : Near source place count) (early : now < first) :
    Ends (Safe source)
      ⟨.waiting setup.policy setup.mode source place attempts handshakes metrics first, receiver,
        ⟨forth, back, sent, answered, [], packet setup.mode source place⟩, now, .until first,
        .until second⟩ := by
  have calm := ends_calm carries answers again
  have late : now ≤ now + setup.policy.handshakeTimeout :=
    (setup.policy.lt_add_handshakeTimeout _).le
  obtain ⟨after, leads, reply⟩ := leads_of_packet long listens near early
  refine Reaches.ends (.single leads) ?_
  cases reply with
  | acknowledged inside listens =>
      exact ends_acknowledged answers calm (further inside) listens inside early late
  | refused place_eq listens =>
      have level : Near source place place := ⟨le_rfl, by omega, place_eq.le⟩
      refine ends_replied (calm _) listens (Nat.lt_succ_self _) level early late .confirmation
        answers ?_
      exact ends_refusal carries again listens late level
  | completed place_eq blocks =>
      subst place_eq
      refine ends_unheard (safe_of_completed long expects) early le_rfl ?_
      rcases answers answered .completion with arrives | lost | ⟨noise, _, muffled⟩
      · exact .inr ⟨_, arrives⟩
      · exact .inl lost
      · exact .inr ⟨noise, muffled⟩

theorem ends_written (carries : forth.Carries setup.mode source place sent)
    (further : place < blockCount source →
      WrittenEnds setup initial source forth back (place + 1) 0 (sent + 1))
    (again : attempts < setup.policy.maxRetries →
      WrittenEnds setup initial source forth back place (attempts + 1) (sent + 1)) :
    WrittenEnds setup initial source forth back place attempts sent := by
  intro count answered handshakes metrics receiver now second listens near late
  have carries_on := carries.mono le_rfl (Nat.le_succ sent)
  have calm := ends_calm carries_on answers again
  have early : now < now + setup.policy.byteTimeout := setup.policy.lt_add_byteTimeout _
  rcases carries.packets place le_rfl sent le_rfl with
    arrives | lost | ⟨noise, meaningless, muffled⟩
  · rw [arrives]
    exact ends_arrived long expects answers carries_on further again listens near early
  · rw [lost]
    exact calm _ listens (Nat.lt_succ_self _) near early.le late
  · rw [muffled]
    exact ends_noise answers calm carries_on again listens near early late meaningless

/-- A packet was written, and whatever is written for the next one is known to end well. -/
theorem writtenEnds_of_further (carries : forth.Carries setup.mode source place sent)
    (further : place < blockCount source → ∀ more > sent,
      WrittenEnds setup initial source forth back (place + 1) 0 more) :
    WrittenEnds setup initial source forth back place attempts sent := by
  induction left_eq : setup.policy.maxRetries - attempts generalizing attempts sent with
  | zero =>
      refine ends_written long expects answers carries
        (fun inside => further inside _ (Nat.lt_succ_self _)) fun few => ?_
      omega
  | succ left induction =>
      refine ends_written long expects answers carries
        (fun inside => further inside _ (Nat.lt_succ_self _)) fun _ => ?_
      refine induction (carries.mono le_rfl (Nat.le_succ _)) (fun inside more more_gt => ?_)
        (by omega)
      exact further inside more (Nat.lt_of_succ_lt more_gt)

/-- On a muffled line, what was written ends well. -/
theorem writtenEnds (carries : forth.Carries setup.mode source place sent) :
    WrittenEnds setup initial source forth back place attempts sent := by
  induction left_eq : blockCount source - place generalizing place attempts sent with
  | zero =>
      refine writtenEnds_of_further long expects answers carries fun inside => ?_
      omega
  | succ left induction =>
      refine writtenEnds_of_further long expects answers carries fun _ more more_gt => ?_
      exact induction (carries.mono (Nat.le_succ _) more_gt.le) (by omega)

/-- On a muffled line, a sender that waits for an answer ends well. -/
theorem calmEnds (carries : forth.Carries setup.mode source place sent) (bound : Nat) :
    CalmEnds setup initial source forth back place attempts sent bound :=
  ends_calm carries answers (fun _ => writtenEnds long expects answers carries) bound

end Transfer

/-- Whether every pair ends well in which both ends wait for the start, nothing is on its way, and
the two have less than some patience together.  -/
def GreetingEnds (setup : Receiver.Setup Rat) (initial : Destination) (source : List UInt8)
    (forth back : Alteration) (sent bound : Nat) : Prop :=
  ∀ ⦃answered handshakes calls metrics counters now first second⦄,
    counters.blocks = 0 →
    setup.policy.maxHandshakeAttempts - handshakes +
      (setup.policy.maxHandshakeAttempts - calls) < bound →
    now ≤ first → now ≤ second →
    Ends (Safe source)
      ⟨.greeting setup.policy source handshakes metrics .awaitingStart (.listening first),
        .calling setup initial source calls counters (.listening second),
        ⟨forth, back, sent, answered, [], []⟩, now, .until first, .until second⟩

section Start

variable (answers : back.Answers setup.mode)
  (written : WrittenEnds setup initial source forth back 0 0 sent)

include answers written

theorem ends_call (greets : GreetingEnds setup initial source forth back sent bound)
    (blocks : counters.blocks = 0)
    (patient : setup.policy.maxHandshakeAttempts - handshakes +
      (setup.policy.maxHandshakeAttempts - calls) < bound)
    (early : now < first) (late : now ≤ second) {write : Nat} :
    Ends (Safe source)
      ⟨.greeting setup.policy source handshakes metrics .awaitingStart (.listening first),
        .calling setup initial source calls counters (.listening second),
        ⟨forth, back, sent, answered,
          back write [Receiver.Writing.request.byte setup.mode], []⟩, now, .until first,
        .until second⟩ := by
  rcases answers write .request with intact | lost | ⟨noise, meaningless, muffled⟩
  · rw [intact]
    exact Reaches.ends (.single leads_of_call)
      (written (.calling blocks) ⟨le_rfl, by omega, Nat.zero_le _⟩ late)
  · rw [lost]
    exact greets blocks patient early.le late
  · have ignored : noise ∉ Sender.calls := fun call =>
      meaningless (List.mem_append_right _ call)
    rw [muffled]
    exact Reaches.ends (.single (leads_of_noise_before_start ignored early))
      (greets blocks patient early.le late)

theorem ends_greeting (bound : Nat) :
    GreetingEnds setup initial source forth back sent bound := by
  induction bound with
  | zero =>
      intro answered handshakes calls metrics counters now first second blocks patient
      exact absurd patient (Nat.not_lt_zero _)
  | succ bound induction =>
      intro answered handshakes calls metrics counters now first second blocks patient early late
      have same : counters.silent.blocks = 0 := blocks
      rcases le_or_gt first second with sender_first | receiver_first
      · rcases Nat.lt_or_ge (handshakes + 1) setup.policy.maxHandshakeAttempts with more | last
        · have later : first ≤ first + setup.policy.handshakeTimeout :=
            (setup.policy.lt_add_handshakeTimeout _).le
          exact Reaches.ends
            (reaches_of_sender_timeout rfl rfl early (.inr ⟨second, rfl, sender_first, rfl⟩)
              (Sender.turn_uncalled more rfl))
            (induction blocks (by omega) later sender_first)
        · have rests : (Receiver.calling setup initial source calls counters
              (.listening second)).Rests second := .calling rfl rfl
          refine Reaches.ends
            (reaches_of_sender_timeout rfl rfl early (.inr ⟨second, rfl, sender_first, rfl⟩)
              (Sender.turn_unheard last)) ?_
          exact (ends_deserted rests sender_first (.inl rfl)).mono fun pair fails => .inl fails
      · rcases Nat.lt_or_ge (calls + 1) setup.policy.maxHandshakeAttempts with more | last
        · have later : second ≤ second + setup.policy.handshakeTimeout :=
            (setup.policy.lt_add_handshakeTimeout _).le
          exact Reaches.ends
            (reaches_of_receiver_timeout rfl rfl late (.inr ⟨first, rfl, receiver_first, rfl⟩)
              (Receiver.turn_call_again more rfl))
            (ends_call answers written induction same (by omega) receiver_first later)
        · exact Reaches.ends
            (reaches_of_receiver_timeout rfl rfl late (.inr ⟨first, rfl, receiver_first, rfl⟩)
              (Receiver.turn_call_in_vain last))
            (ends_unheard_quiet (safe_of_failed ⟨_, rfl⟩) .greeting receiver_first.le)

end Start

/-- On a muffled line, a transfer ends well. -/
theorem ends_called (long : source.length ≤ initial.capacity)
    (expects : setup.expectedLength = some source.length) (answers : back.Answers setup.mode)
    (carries : forth.Carries setup.mode source 0 0) :
    (called setup initial source forth back).Ends (Safe source) := by
  have written : WrittenEnds setup initial source forth back 0 0 0 :=
    writtenEnds long expects answers carries
  have early : (0 : Rat) < 0 + setup.policy.handshakeTimeout :=
    setup.policy.lt_add_handshakeTimeout _
  exact ends_call answers written (ends_greeting answers written _) rfl (Nat.lt_succ_self _) early
    early.le

end Scene
end Xmodem
