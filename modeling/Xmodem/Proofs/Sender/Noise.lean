import Mathlib.Tactic.Ring
import Xmodem.Proofs.Performance
import Xmodem.Proofs.Sender.Language
import Xmodem.Proofs.Sender.Weighing

/-!
# Noise at a sender

A sender that waits drops every byte that means nothing to it, and its deadline stays where it was.
So what it does depends on everything else that it learns, and when.  On an exact clock one more
byte of noise in a script leaves all that as it was, unless it is read at the very instant at which
the wait ends: then the wait is over before what lies behind the noise is read.
-/

namespace Xmodem
namespace Sender

section Learning

variable {τ : Type} [Quantity τ]

/-- Whether a sender reads a byte that means nothing to it. -/
def ignores (moment : Moment (Sender τ) τ) : Bool :=
  match moment.answer with
  | .byte value => value ∉ moment.session.heeded
  | _ => false

/-- What a sender learns, and when, noise aside. -/
def learned (moments : List (Moment (Sender τ) τ)) : List (Answer × τ) :=
  (moments.filter fun moment => !ignores moment).map fun moment =>
    (moment.answer, moment.answered)

/-- A sender, what it has written, and the progress that it has reported. -/
structure Trace (τ : Type) [Quantity τ] where
  /-- The sender. -/
  sender : Sender τ
  /-- What it has written. -/
  writes : List (List UInt8)
  /-- The progress that it has reported. -/
  totals : List Nat

/-- What a sender is about to write. -/
def writing? (sender : Sender τ) : Option (List UInt8) :=
  match sender.activity with
  | .writing purpose => some (purpose.bytes sender.frame)
  | _ => none

/-- Let a sender learn one more thing. -/
def Trace.learn (trace : Trace τ) (answer : Answer × τ) : Trace τ where
  sender := (trace.sender.next answer.2 answer.1).1
  writes := trace.writes ++ trace.sender.writing?.toList
  totals := trace.totals ++ Event.totals .sent (trace.sender.next answer.2 answer.1).2

variable {first last final : Sender τ} {moments more : List (Moment (Sender τ) τ)}
  {moment : Moment (Sender τ) τ}

theorem writes_append_toList (signs : List Sign) (sign : Option Sign) :
    writes (signs ++ sign.toList) = writes signs ++ (sign.bind Sign.written?).toList := by
  cases sign with
  | none => simp
  | some sign => exact writes_append_singleton signs sign

/-- The writes of a moment are those that the sender was about to make. -/
theorem written?_sign (valid : moment.Valid) :
    (moment.sign? waits).bind Sign.written? = moment.session.writing? := by
  have reacts := reacts_of_valid valid
  generalize moment.sign? waits = sign at reacts ⊢
  generalize moment.after = after at reacts
  unfold writing?
  cases reacts with
  | wake doing | begin doing | hear _ doing | expire doing | «break» _ doing | write doing
  | spoil _ doing =>
      rw [doing]
      rfl

theorem eq_of_ignores (valid : moment.Valid) (noise : ignores moment = true) :
    moment.after = moment.session ∧ moment.session.writing? = none ∧
      Event.totals .sent moment.events = [] := by
  unfold ignores at noise
  split at noise
  · rename_i value answered
    have unheeded := of_decide_eq_true noise
    have shown := sign?_eq_of_byte valid answered
    have reacts := reacts_of_valid valid
    rw [shown] at reacts
    obtain ⟨⟨_, listens⟩, -⟩ := reacts.of_heard
    obtain ⟨occasion, ignored⟩ := exists_discards moment.answered unheeded
    have dropped : Session.next moment.session moment.answered moment.answer =
        moment.session.discard value occasion := by
      rw [answered, session_next, next_listening_byte listens, ignored]
    unfold Moment.after Moment.events
    rw [dropped]
    refine ⟨rfl, ?_, rfl⟩
    simp [writing?, listens]
  · cases noise

theorem learned_append_singleton (moments : List (Moment (Sender τ) τ))
    (moment : Moment (Sender τ) τ) :
    learned (moments ++ [moment]) =
      learned moments ++ if ignores moment then [] else [(moment.answer, moment.answered)] := by
  unfold learned
  cases noise : ignores moment <;> simp [noise]

theorem trace_learned (talks : Converses first moments last) :
    (learned moments).foldl Trace.learn ⟨first, [], []⟩ =
      ⟨last, writes (transcript waits moments), sentTotals moments⟩ := by
  induction talks with
  | silent => rfl
  | @step moments moment _ valid induction =>
      have reported : sentTotals (moments ++ [moment]) =
          sentTotals moments ++ Event.totals .sent moment.events := by
        rw [sentTotals, List.flatMap_append, List.flatMap_singleton]
        rfl
      rw [learned_append_singleton, List.foldl_append, induction, transcript_append,
        transcript_singleton, writes_append_toList, written?_sign valid, reported]
      by_cases noise : ignores moment = true
      · obtain ⟨same, silent, unreported⟩ := eq_of_ignores valid noise
        rw [if_pos noise, same, silent, unreported, Option.toList_none, List.append_nil,
          List.append_nil]
        rfl
      · rw [if_neg noise]
        rfl

/-- Senders that learn the same, noise aside, do the same. -/
theorem eq_of_learned_eq (talks : Converses first moments last) (also : Converses first more final)
    (same : learned more = learned moments) :
    final = last ∧ writes (transcript waits more) = writes (transcript waits moments) ∧
      sentTotals more = sentTotals moments := by
  have traces := trace_learned also
  rw [same, trace_learned talks] at traces
  obtain ⟨rfl, written, reported⟩ := Trace.mk.inj traces
  exact ⟨rfl, written.symm, reported.symm⟩

end Learning

end Sender

namespace Run

variable {σ τ : Type} [Quantity τ] [Session σ τ]

omit [Quantity τ] [Session σ τ] in
/-- A run over another script. -/
def along (run : Run σ τ) (items : List (ScriptItem τ)) : Run σ τ :=
  { run with line := { run.line with items := items } }

/-- When the next move of a run reads a byte that stands before some items, if it does. -/
def arrival? [DecidableEq τ] (run : Run σ τ) (value : UInt8) (after : List (ScriptItem τ)) :
    Option τ :=
  match Session.action run.session run.now with
  | .read timeout =>
      let reading := ScriptedLine.readItems run.line.ending run.now timeout run.line.items
      if reading.answer = .byte value ∧ reading.items = after then some reading.now else none
  | _ => none

theorem next_of_read {run : Run σ τ} {timeout : τ}
    (acts : Session.action run.session run.now = .read timeout) :
    let reading := ScriptedLine.readItems run.line.ending run.now timeout run.line.items
    run.next = some ((mk run.session { run.line with items := reading.items } reading.now
      (Happening.ofReading timeout reading.answer ++ run.past)).answer reading.answer) := by
  simp only [next, acts, ScriptedLine.read]

theorem next_of_writing {run : Run σ τ} {bytes : List UInt8}
    (acts : Session.action run.session run.now = .write bytes) :
    run.next = some ((mk run.session run.line.write.2 run.now
      (.wrote bytes :: run.past)).answer run.line.write.1) := by
  simp only [next, acts]

omit [Quantity τ] [Session σ τ] in
theorem written_wait (run : Run σ τ) (line : ScriptedLine τ) (now timeout : τ) (answer : Answer) :
    (mk run.session line now (Happening.ofReading timeout answer ++ run.past)).history.filterMap
      Happening.written? = run.history.filterMap Happening.written? := by
  cases answer <;> simp [history, Happening.ofReading, Happening.written?, List.filterMap_cons]

omit [Quantity τ] [Session σ τ] in
theorem totals_wait (run : Run σ τ) (line : ScriptedLine τ) (now timeout : τ) (answer : Answer)
    (direction : Direction) :
    (mk run.session line now (Happening.ofReading timeout answer ++ run.past)).totals direction =
      run.totals direction := by
  cases answer <;>
    simp [totals, history, Happening.ofReading, Happening.event?, List.filterMap_cons]

theorem next_eq_none_iff {run : Run σ τ} :
    run.next = none ↔ Session.action run.session run.now = .stop := by
  unfold next
  cases Session.action run.session run.now <;> simp

theorem talk_succ {run after : Run σ τ} {count : Nat}
    (moves : (run.talk count).2.next = some after) : (run.talk (count + 1)).2 = after := by
  induction count generalizing run with
  | zero =>
      obtain ⟨moment, shown, -⟩ := exists_moment moves
      have moves : run.next = some after := moves
      have shown : run.moment? = some moment := shown
      simp only [talk, shown, moves]
  | succ count induction =>
      unfold talk at moves ⊢
      split at moves
      · rename_i moment next shown goes_on
        exact induction moves
      · rename_i stuck
        obtain ⟨moment, shown, -⟩ := exists_moment moves
        exact absurd moves (stuck moment after shown)

theorem talk_of_halted {run : Run σ τ} {count more : Nat} (halts : (run.talk count).2.next = none)
    (later : count ≤ more) : (run.talk more).2 = (run.talk count).2 := by
  induction count generalizing run more with
  | zero =>
      have halts : run.next = none := halts
      cases more with
      | zero => rfl
      | succ more =>
          unfold talk
          rw [halts]
          cases run.moment? <;> rfl
  | succ count induction =>
      obtain ⟨more, rfl⟩ := Nat.exists_eq_add_of_le' (Nat.lt_of_lt_of_le count.succ_pos later)
      unfold talk at halts ⊢
      split at halts
      · exact induction halts (Nat.le_of_succ_le_succ later)
      · rfl

end Run

namespace Sender

section Scripts

/-- Whether a script has one more byte than another one, and what is allowed of a sender that reads
that byte at some instant holds wherever it is read. -/
inductive Inserts (allowed : Sender Rat → Rat → UInt8 → Prop) (run : Run (Sender Rat) Rat) :
    List (ScriptItem Rat) → List (ScriptItem Rat) → Prop
  | byte {before after : List (ScriptItem Rat)} {value : UInt8} :
      (∀ count now, ((run.along (before ++ .byte value :: after)).talk count).2.arrival? value
          after = some now →
        allowed ((run.along (before ++ .byte value :: after)).talk count).2.session now value) →
      Inserts allowed run (before ++ after) (before ++ .byte value :: after)

/-- Whether a byte means nothing to a sender. -/
def Unheeded (sender : Sender Rat) (_ : Rat) (value : UInt8) : Prop :=
  value ∉ sender.heeded

/-- Whether the wait of a sender goes on at an instant. -/
def waitsBeyond (sender : Sender Rat) (now : Rat) : Bool :=
  match sender.activity with
  | .listening deadline => now < deadline
  | _ => false

/-- Whether a byte means nothing to a sender, and is not read at the very instant at which the wait
ends. -/
def UnheededEarly (sender : Sender Rat) (now : Rat) (value : UInt8) : Prop :=
  value ∉ sender.heeded ∧ sender.waitsBeyond now = true

instance (sender : Sender Rat) (now : Rat) (value : UInt8) :
    Decidable (Unheeded sender now value) :=
  inferInstanceAs (Decidable (value ∉ sender.heeded))

instance (sender : Sender Rat) (now : Rat) (value : UInt8) :
    Decidable (UnheededEarly sender now value) :=
  inferInstanceAs (Decidable (value ∉ sender.heeded ∧ sender.waitsBeyond now = true))

/-- Whether two runs have come to the same, noise aside. -/
structure Same (run other : Run (Sender Rat) Rat) : Prop where
  session_eq : other.session = run.session
  now_eq : other.now = run.now
  writes_eq : other.history.filterMap Happening.written? =
    run.history.filterMap Happening.written?
  totals_eq : other.totals .sent = run.totals .sent

theorem Same.trans {first second third : Run (Sender Rat) Rat} (same : Same first second)
    (also : Same second third) : Same first third where
  session_eq := also.session_eq.trans same.session_eq
  now_eq := also.now_eq.trans same.now_eq
  writes_eq := also.writes_eq.trans same.writes_eq
  totals_eq := also.totals_eq.trans same.totals_eq

/-- A read stops within some items, or goes on behind them. -/
theorem readItems_append (ending : Option Fault) (now left : Rat)
    (before : List (ScriptItem Rat)) :
    (∃ answer later rest, ∀ after, ScriptedLine.readItems ending now left (before ++ after) =
        ⟨answer, later, rest ++ after⟩) ∨
      ∃ later, ∀ after, ScriptedLine.readItems ending now left (before ++ after) =
        ScriptedLine.readItems ending later (now + left - later) after := by
  induction before generalizing now left with
  | nil =>
      refine .inr ⟨now, fun after => ?_⟩
      rw [List.nil_append, add_sub_cancel_left]
  | cons item before induction =>
      cases item with
      | byte | fault => exact .inl ⟨_, _, before, fun after => rfl⟩
      | silence => exact .inl ⟨_, _, before, fun after => rfl⟩
      | wait duration =>
          by_cases inside : duration ≤ left
          · have total : now + duration + (left - duration) = now + left := by ring
            have skipped (after : List (ScriptItem Rat)) :
                ScriptedLine.readItems ending now left (.wait duration :: before ++ after) =
                  ScriptedLine.readItems ending (now + duration) (left - duration)
                    (before ++ after) :=
              if_pos inside
            simp only [skipped]
            rw [← total]
            exact induction (now + duration) (left - duration)
          · refine .inl ⟨.silence, now + left, .wait (duration - left) :: before, fun after => ?_⟩
            exact if_neg inside

/-- Whether two runs have come to the same on lines that differ in their scripts at most, perhaps at
different instants. -/
structure Kin (run other : Run (Sender Rat) Rat) : Prop where
  session_eq : other.session = run.session
  line_eq : other.line = { run.line with items := other.line.items }
  writes_eq : other.history.filterMap Happening.written? =
    run.history.filterMap Happening.written?
  totals_eq : other.totals .sent = run.totals .sent

section Kinship

variable {run other : Run (Sender Rat) Rat}

theorem Kin.same (kin : Kin run other) (now_eq : other.now = run.now) : Same run other :=
  ⟨kin.session_eq, now_eq, kin.writes_eq, kin.totals_eq⟩

theorem history_answer (run : Run (Sender Rat) Rat) (answer : Answer) :
    (run.answer answer).history =
      run.history ++ (Session.next run.session run.now answer).2.map .reported := by
  simp [Run.history, Run.answer]

theorem written_reported (events : List (Event Rat)) :
    (events.map Happening.reported).filterMap Happening.written? = [] := by
  simp [List.filterMap_map, Function.comp_def, Happening.written?]

theorem Kin.answer (kin : Kin run other) (now_eq : other.now = run.now) (answer : Answer) :
    Kin (run.answer answer) (other.answer answer) ∧
      (other.answer answer).now = (run.answer answer).now := by
  obtain ⟨session_eq, line_eq, writes_eq, totals_eq⟩ := kin
  refine ⟨⟨?_, line_eq, ?_, ?_⟩, now_eq⟩
  · simp only [Run.answer, session_eq, now_eq]
  · rw [history_answer, history_answer, List.filterMap_append, List.filterMap_append,
      written_reported, written_reported, writes_eq]
  · rw [Run.totals_answer, Run.totals_answer, session_eq, now_eq, totals_eq]

theorem Kin.wait (kin : Kin run other) (timeout longer : Rat) (answer : Answer)
    (items others : List (ScriptItem Rat)) (now : Rat) :
    Kin
      (.mk run.session { run.line with items := items } now
        (Happening.ofReading timeout answer ++ run.past))
      (.mk other.session { other.line with items := others } now
        (Happening.ofReading longer answer ++ other.past)) := by
  obtain ⟨session_eq, line_eq, writes_eq, totals_eq⟩ := kin
  refine ⟨session_eq, ?_, ?_, ?_⟩
  · rw [line_eq]
  · rw [Run.written_wait, Run.written_wait, writes_eq]
  · rw [Run.totals_wait, Run.totals_wait, totals_eq]

theorem Kin.read (kin : Kin run other) {timeout longer : Rat}
    (reads : Session.action run.session run.now = .read timeout)
    (also : Session.action other.session other.now = .read longer) {answer : Answer} {now : Rat}
    {items others : List (ScriptItem Rat)}
    (meets : ScriptedLine.readItems run.line.ending run.now timeout run.line.items =
      ⟨answer, now, items⟩)
    (meets_also : ScriptedLine.readItems other.line.ending other.now longer other.line.items =
      ⟨answer, now, others⟩) :
    ∃ after later, run.next = some after ∧ other.next = some later ∧ Kin after later ∧
      later.now = after.now ∧ after.line.items = items ∧ later.line.items = others := by
  have moves := Run.next_of_read reads
  have moves_also := Run.next_of_read also
  rw [meets] at moves
  rw [meets_also] at moves_also
  obtain ⟨answered, now_eq⟩ := (kin.wait timeout longer answer items others now).answer rfl answer
  exact ⟨_, _, moves, moves_also, answered, now_eq, rfl, rfl⟩

theorem Kin.write (kin : Kin run other) (bytes : List UInt8) :
    other.line.write.1 = run.line.write.1 ∧
      Kin (.mk run.session run.line.write.2 run.now (.wrote bytes :: run.past))
        (.mk other.session other.line.write.2 other.now (.wrote bytes :: other.past)) ∧
      run.line.write.2.items = run.line.items ∧ other.line.write.2.items = other.line.items := by
  have counted (line : ScriptedLine Rat) :
      line.write.2 = { line with writes := line.writes + 1 } := by
    unfold ScriptedLine.write
    split <;> rfl
  obtain ⟨session_eq, line_eq, writes_eq, totals_eq⟩ := kin
  refine ⟨?_, ⟨session_eq, ?_, ?_, ?_⟩, ?_, ?_⟩
  · rw [line_eq]
    unfold ScriptedLine.write
    dsimp only
    split <;> rfl
  · rw [counted, counted, line_eq]
  · simpa [Run.history, Happening.written?] using writes_eq
  · rw [Run.totals_cons _ _ _ _ rfl, Run.totals_cons _ _ _ _ rfl]
    exact totals_eq
  · rw [counted]
  · rw [counted]

theorem Kin.move (kin : Kin run other) (now_eq : other.now = run.now) {after : Run (Sender Rat) Rat}
    (moves : run.next = some after)
    (busy : ∀ timeout, Session.action run.session run.now ≠ .read timeout) :
    ∃ later, other.next = some later ∧ Kin after later ∧ later.now = after.now ∧
      after.line.items = run.line.items ∧ later.line.items = other.line.items := by
  have acts_eq : Session.action other.session other.now = Session.action run.session run.now := by
    rw [kin.session_eq, now_eq]
  cases acts : Session.action run.session run.now with
  | stop => simp [Run.next, acts] at moves
  | read timeout => exact absurd acts (busy timeout)
  | proceed =>
      obtain rfl := Option.some.inj ((Run.next_of_proceed acts).symm.trans moves)
      obtain ⟨answered, same⟩ := kin.answer now_eq .proceeded
      exact ⟨_, Run.next_of_proceed (acts_eq.trans acts), answered, same, rfl, rfl⟩
  | write bytes =>
      obtain rfl := Option.some.inj ((Run.next_of_writing acts).symm.trans moves)
      obtain ⟨answer_eq, written, kept, kept_also⟩ := kin.write bytes
      obtain ⟨answered, same⟩ := written.answer now_eq run.line.write.1
      refine ⟨_, Run.next_of_writing (acts_eq.trans acts), ?_, same, kept, kept_also⟩
      rw [answer_eq]
      exact answered

theorem Kin.ignore (kin : Kin run other) {timeout now : Rat} {value : UInt8}
    {items : List (ScriptItem Rat)}
    (reads : Session.action other.session other.now = .read timeout)
    (meets : ScriptedLine.readItems other.line.ending other.now timeout other.line.items =
      ⟨.byte value, now, items⟩)
    (unheeded : value ∉ other.session.heeded) :
    ∃ later, other.next = some later ∧ Kin run later ∧ later.now = now ∧
      later.line.items = items := by
  have moves := Run.next_of_read reads
  rw [meets] at moves
  let moment : Moment (Sender Rat) Rat := ⟨other.session, other.now, .byte value, now⟩
  have noise : ignores moment = true := decide_eq_true unheeded
  obtain ⟨same, -, unreported⟩ := eq_of_ignores (Moment.valid_of_read reads value) noise
  obtain ⟨session_eq, line_eq, writes_eq, totals_eq⟩ := kin
  refine ⟨_, moves, ⟨?_, ?_, ?_, ?_⟩, rfl, rfl⟩
  · exact same.trans session_eq
  · change { other.line with items := items } = { run.line with items := items }
    rw [line_eq]
  · rw [history_answer, List.filterMap_append, written_reported, List.append_nil,
      Run.written_wait, writes_eq]
  · have quiet : Event.totals .sent (Session.next other.session now (.byte value)).2 = [] :=
      unreported
    rw [Run.totals_answer, quiet, List.append_nil, Run.totals_wait, totals_eq]

end Kinship

/-- Whether a run over a script with one more byte keeps up with a run over the script without it:
the byte lies ahead, or behind. -/
inductive Trails (value : UInt8) (after : List (ScriptItem Rat))
    (run other : Run (Sender Rat) Rat) : Prop
  | ahead (before : List (ScriptItem Rat)) :
      Kin run other → other.now = run.now → run.line.items = before ++ after →
      other.line.items = before ++ .byte value :: after → Trails value after run other
  | behind :
      Kin run other → other.now = run.now → other.line.items = run.line.items →
      Trails value after run other

section Keeping

variable {value : UInt8} {after : List (ScriptItem Rat)} {run other moved : Run (Sender Rat) Rat}

theorem Trails.kin (trails : Trails value after run other) :
    Kin run other ∧ other.now = run.now := by
  cases trails with
  | ahead _ kin now_eq | behind kin now_eq => exact ⟨kin, now_eq⟩

theorem action_of_early {sender : Sender Rat} {now deadline : Rat}
    (listens : sender.activity = .listening deadline) (early : now < deadline) :
    sender.action now = .read (deadline - now) := by
  have some_left : ¬ deadline - now ≤ 0 := not_le.mpr (sub_pos.mpr early)
  simp only [action, listens, if_neg some_left]

/-- The byte is read and dropped, and the wait goes on as if nothing had come. -/
theorem Kin.reread (kin : Kin run other) {timeout later : Rat}
    (reads : run.session.action run.now = .read timeout)
    (also : other.session.action other.now = .read timeout)
    (goes_on : ScriptedLine.readItems run.line.ending run.now timeout run.line.items =
      ScriptedLine.readItems run.line.ending later (run.now + timeout - later) after)
    (meets : ScriptedLine.readItems other.line.ending other.now timeout other.line.items =
      ⟨.byte value, later, after⟩)
    (noise : UnheededEarly other.session later value) (moves : run.next = some moved) :
    ∃ between next, other.next = some between ∧ between.next = some next ∧
      Trails value after moved next := by
  obtain ⟨between, drops, dropped, rfl, rfl⟩ := kin.ignore also meets noise.1
  obtain ⟨deadline, listens, rfl, -⟩ := exists_listening_of_read reads
  have early : between.now < deadline := by
    have beyond := noise.2
    rw [kin.session_eq] at beyond
    simpa [waitsBeyond, listens] using beyond
  have left : run.now + (deadline - run.now) - between.now = deadline - between.now := by ring
  rw [left] at goes_on
  have rereads : Session.action between.session between.now = .read (deadline - between.now) :=
    action_of_early (dropped.session_eq ▸ listens) early
  have meets_again : ScriptedLine.readItems between.line.ending between.now
      (deadline - between.now) between.line.items =
        ScriptedLine.readItems run.line.ending between.now (deadline - between.now)
          between.line.items := by
    rw [congrArg ScriptedLine.ending dropped.line_eq]
  obtain ⟨same, next, moves_also, follows, becomes, now_eq, items_eq, items_also⟩ :=
    dropped.read reads rereads goes_on meets_again
  obtain rfl := Option.some.inj (moves.symm.trans moves_also)
  exact ⟨between, next, drops, follows, .behind becomes now_eq (items_also.trans items_eq.symm)⟩

/-- Every move keeps the runs together. -/
theorem Trails.next (trails : Trails value after run other) (moves : run.next = some moved)
    (noise : ∀ now, other.arrival? value after = some now →
      UnheededEarly other.session now value) :
    (∃ next, other.next = some next ∧ Trails value after moved next) ∨
      ∃ between next, other.next = some between ∧ between.next = some next ∧
        Trails value after moved next := by
  obtain ⟨kin, now_eq⟩ := trails.kin
  by_cases busy : ∀ timeout, Session.action run.session run.now ≠ .read timeout
  · obtain ⟨next, follows, becomes, later_eq, items_eq, items_also⟩ := kin.move now_eq moves busy
    refine .inl ⟨next, follows, ?_⟩
    cases trails with
    | ahead before _ _ first second =>
        exact .ahead before becomes later_eq (items_eq.trans first) (items_also.trans second)
    | behind _ _ same =>
        exact .behind becomes later_eq (items_also.trans (same.trans items_eq.symm))
  · push Not at busy
    obtain ⟨timeout, reads⟩ := busy
    have also : Session.action other.session other.now = .read timeout := by
      rw [kin.session_eq, now_eq, reads]
    have ending_eq : other.line.ending = run.line.ending := by rw [kin.line_eq]
    cases trails with
    | ahead before _ _ first second =>
        obtain ⟨answer, later, rest, stops⟩ | ⟨later, goes_on⟩ :=
          readItems_append run.line.ending run.now timeout before
        · obtain ⟨same, next, moves_also, follows, becomes, later_eq, items_eq, items_also⟩ :=
            kin.read reads also (first ▸ stops after)
              (by rw [ending_eq, now_eq, second]; exact stops _)
          obtain rfl := Option.some.inj (moves.symm.trans moves_also)
          exact .inl ⟨next, follows, .ahead rest becomes later_eq items_eq items_also⟩
        · have meets : ScriptedLine.readItems other.line.ending other.now timeout other.line.items =
              ⟨.byte value, later, after⟩ := by
            rw [ending_eq, now_eq, second]
            exact goes_on _
          have arrives : other.arrival? value after = some later := by
            unfold Run.arrival?
            rw [also]
            simp only [meets, and_self, if_true]
          exact .inr (kin.reread reads also (first ▸ goes_on after) meets (noise later arrives)
            moves)
    | behind _ _ items_same =>
        obtain ⟨same, next, moves_also, follows, becomes, later_eq, items_eq, items_also⟩ :=
          kin.read reads also rfl (by rw [ending_eq, now_eq, items_same])
        obtain rfl := Option.some.inj (moves.symm.trans moves_also)
        exact .inl ⟨next, follows, .behind becomes later_eq (items_also.trans items_eq.symm)⟩

theorem Trails.exists_complete {first : Run (Sender Rat) Rat}
    (trails : Trails value after run other)
    (noise : ∀ count now, (first.talk count).2.arrival? value after = some now →
      UnheededEarly (first.talk count).2.session now value)
    {count fuel : Nat} (comes : (first.talk count).2 = other) {final : Run (Sender Rat) Rat}
    (ends : run.complete fuel = some final) :
    ∃ enough last, other.complete enough = some last ∧ Same final last := by
  induction fuel generalizing run other count with
  | zero => cases ends
  | succ fuel induction =>
      obtain ⟨kin, now_eq⟩ := trails.kin
      unfold Run.complete at ends
      split at ends
      · rename_i halts
        obtain rfl := Option.some.inj ends
        have halts_also : other.next = none := by
          rw [Run.next_eq_none_iff] at halts ⊢
          rw [kin.session_eq, now_eq, halts]
        exact ⟨1, other, by rw [Run.complete, halts_also], kin.same now_eq⟩
      · rename_i moved moves
        obtain ⟨next, follows, trails⟩ | ⟨between, next, drops, follows, trails⟩ :=
          trails.next moves (comes ▸ noise count)
        · have comes : (first.talk (count + 1)).2 = next := Run.talk_succ (comes ▸ follows)
          obtain ⟨enough, last, completes, same⟩ := induction trails comes ends
          exact ⟨enough + 1, last, (Run.complete_eq_some_of_next follows).trans completes, same⟩
        · have comes : (first.talk (count + 1)).2 = between := Run.talk_succ (comes ▸ drops)
          have comes : (first.talk (count + 2)).2 = next := Run.talk_succ (comes ▸ follows)
          obtain ⟨enough, last, completes, same⟩ := induction trails comes ends
          refine ⟨enough + 2, last, ?_, same⟩
          rw [Run.complete_eq_some_of_next drops, Run.complete_eq_some_of_next follows]
          exact completes

end Keeping

/-- Noise in a script changes nothing. -/
theorem Inserts.exists_complete {run final : Run (Sender Rat) Rat}
    {items more : List (ScriptItem Rat)} {fuel : Nat}
    (inserts : Inserts UnheededEarly run items more)
    (ends : (run.along items).complete fuel = some final) :
    ∃ enough last, (run.along more).complete enough = some last ∧ Same final last := by
  cases inserts with
  | @byte before after value noise =>
      have kin : Kin (run.along (before ++ after)) (run.along (before ++ .byte value :: after)) :=
        ⟨rfl, rfl, rfl, rfl⟩
      have trails : Trails value after (run.along (before ++ after))
          (run.along (before ++ .byte value :: after)) := .ahead before kin rfl rfl rfl
      have begins : ((run.along (before ++ .byte value :: after)).talk 0).2 =
          run.along (before ++ .byte value :: after) := rfl
      exact trails.exists_complete noise begins ends

/-- It is enough to look at a script until the run is over. -/
theorem inserts_of_halted {allowed : Sender Rat → Rat → UInt8 → Prop}
    {run : Run (Sender Rat) Rat} (before after : List (ScriptItem Rat)) (value : UInt8) (last : Nat)
    (halts : ((run.along (before ++ .byte value :: after)).talk last).2.next = none)
    (holds : ∀ count < last + 1,
      ∀ now ∈ ((run.along (before ++ .byte value :: after)).talk count).2.arrival? value after,
        allowed ((run.along (before ++ .byte value :: after)).talk count).2.session now value) :
    Inserts allowed run (before ++ after) (before ++ .byte value :: after) := by
  refine .byte fun count now arrives => ?_
  obtain early | late := Nat.lt_or_ge count (last + 1)
  · exact holds count early now arrives
  · rw [Run.talk_of_halted halts (Nat.le_of_succ_le late)] at arrives ⊢
    exact holds last (Nat.lt_succ_self last) now arrives

/-- The replies to a sender that was called decide its outcome and the progress that it reports.
Noise makes no difference as long as no wait ends in another manner; and in a script no wait does,
unless a byte of noise is read at the very instant at which its wait ends. -/
theorem outcome_of_replies :
    (∀ (τ : Type) [Quantity τ] (policy : RetryPolicy τ) (source : List UInt8) (created : τ)
      (moments : List (Moment (Sender τ) τ)) (sender : Sender τ),
      Converses (start policy source created) moments sender →
      (∃ sign ∈ transcript waits moments, Calls sign) → Intact (transcript waits moments) →
      Answered policy source (answers (transcript waits moments)) (sentTotals moments) sender) ∧
    (∀ (τ : Type) [Quantity τ] (first last final : Sender τ)
      (moments more : List (Moment (Sender τ) τ)),
      Converses first moments last → Converses first more final →
      learned more = learned moments →
      final = last ∧ writes (transcript waits more) = writes (transcript waits moments) ∧
        sentTotals more = sentTotals moments) ∧
    ∀ (run final : Run (Sender Rat) Rat) (items more : List (ScriptItem Rat)) (fuel : Nat),
      Relation.ReflTransGen (Inserts UnheededEarly run) items more →
      (run.along items).complete fuel = some final →
      ∃ enough last, (run.along more).complete enough = some last ∧ Same final last := by
  refine ⟨?_, ?_, ?_⟩
  · intro τ _ policy source created moments sender talks called intact
    exact answered_of_converses talks called intact
  · intro τ _ first last final moments more talks also same
    exact eq_of_learned_eq talks also same
  · intro run final items more fuel inserts ends
    induction inserts with
    | refl => exact ⟨fuel, final, ends, ⟨rfl, rfl, rfl, rfl⟩⟩
    | tail _ inserts induction =>
        obtain ⟨enough, middle, completes, same⟩ := induction
        obtain ⟨more, last, completes, also⟩ := inserts.exists_complete completes
        exact ⟨more, last, completes, same.trans also⟩

/-- One block is refused and lost, and a byte of noise arrives half a second after the first copy
of it. -/
theorem outcome_of_noisy_replies :
    let run := Run.mk (start RetryPolicy.brief [1, 2, 3] 0) ⟨[], none, [], 0⟩ 0 []
    let refuse : ScriptItem Rat := .byte (Signal.byte .negativeAcknowledge)
    let acknowledge : ScriptItem Rat := .byte (Signal.byte .acknowledge)
    let before : List (ScriptItem Rat) := [refuse, .wait (1 / 2)]
    let after : List (ScriptItem Rat) := [refuse, .silence, acknowledge, acknowledge]
    let talk := (run.along (before ++ .byte 0 :: after)).talk 60
    let clean := (run.along (before ++ after)).talk 60
    answers (transcript waits talk.1) = [.refused, .expired, .acknowledged, .acknowledged] ∧
      Answered .brief [1, 2, 3] (answers (transcript waits talk.1)) (sentTotals talk.1)
        talk.2.session ∧
      talk.2.session = clean.2.session ∧
      ∃ final enough last, final.session.outcome? = some (.ok 3) ∧
        (run.along (before ++ .byte 0 :: after)).complete enough = some last ∧
        Same final last := by
  intro run refuse acknowledge before after talk clean
  obtain ⟨judges, learns, scripts⟩ := outcome_of_replies
  have replies : answers (transcript waits talk.1) =
      [.refused, .expired, .acknowledged, .acknowledged] := by
    decide +kernel
  have called : ∃ sign ∈ transcript waits talk.1, Calls sign := by
    decide +kernel
  have intact : Intact (transcript waits talk.1) := by
    decide +kernel
  have talks := (run.along (before ++ .byte 0 :: after)).converses_talk 60
  have answered := judges Rat .brief [1, 2, 3] 0 _ _ talks called intact
  have same : learned talk.1 = learned clean.1 := by
    decide +kernel
  have talks_clean := (run.along (before ++ after)).converses_talk 60
  obtain ⟨session_eq, -, -⟩ := learns Rat _ _ _ _ _ talks_clean talks same
  have inserts : Inserts UnheededEarly run (before ++ after) (before ++ .byte 0 :: after) :=
    inserts_of_halted before after 0 30 (by decide +kernel) (by decide +kernel)
  have completes : ((run.along (before ++ after)).complete 60).map
      (fun final => final.session.outcome?) = some (some (.ok 3)) := by
    decide +kernel
  obtain ⟨final, ends, ended⟩ := Option.map_eq_some_iff.mp completes
  obtain ⟨enough, last, completes, alike⟩ := scripts run final _ _ 60 (.single inserts) ends
  exact ⟨replies, answered, session_eq, final, enough, last, ended, completes, alike⟩

/-- A byte of noise is read at the very instant at which a wait ends.  The wait is over, and a
sender without patience gives up, although the acknowledgement is there. -/
theorem noise_at_deadline :
    let policy : RetryPolicy Rat := { RetryPolicy.brief with maxRetries := 0 }
    let run := Run.mk (start policy [1] 0) ⟨[], none, [], 0⟩ 0 []
    let call : ScriptItem Rat := .byte (Signal.byte .negativeAcknowledge)
    let acknowledge : ScriptItem Rat := .byte (Signal.byte .acknowledge)
    Inserts Unheeded run [call, .wait 1, acknowledge, acknowledge]
        [call, .wait 1, .byte 0, acknowledge, acknowledge] ∧
      ((run.along [call, .wait 1, acknowledge, acknowledge]).complete 20).map
          (fun final => final.session.outcome?) = some (some (.ok 1)) ∧
      ((run.along [call, .wait 1, .byte 0, acknowledge, acknowledge]).complete 20).map
          (fun final => final.session.outcome?) =
        some (some (.error ⟨.unacknowledged (.block 1) 0, 0⟩)) := by
  intro policy run call acknowledge
  refine ⟨?_, by decide +kernel, by decide +kernel⟩
  exact inserts_of_halted [call, .wait 1] [acknowledge, acknowledge] 0 15 (by decide +kernel)
    (by decide +kernel)

end Scripts
end Sender
end Xmodem
