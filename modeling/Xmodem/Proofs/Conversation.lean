import Xmodem.Line.Run

/-!
# Conversations

A session talks to surroundings that may do anything: every read may return any byte, nothing, or a
failure, every write may fail, and the clock may show any instant.  A conversation lists the moments
at which the session acted.  What it put on the line and met there is its transcript.
-/

namespace Xmodem

variable {σ τ : Type}

/-- The bytes that were handed to the line. -/
def Happening.written? : Happening τ → Option (List UInt8)
  | wrote bytes => some bytes
  | _ => none

/-- The totals that events report in a direction. -/
def Event.totals (direction : Direction) (events : List (Event τ)) : List Nat :=
  events.filterMap fun
    | .progress other total => if other = direction then some total else none
    | _ => none

/-- Whether surroundings may give an answer to an action. -/
inductive Action.Allows : Action τ → Answer → Prop
  | proceeded : Allows .proceed .proceeded
  | byte (timeout : τ) (value : UInt8) : Allows (.read timeout) (.byte value)
  | silence (timeout : τ) : Allows (.read timeout) .silence
  | broken (timeout : τ) (fault : Fault) : Allows (.read timeout) (.fault fault)
  | written (bytes : List UInt8) : Allows (.write bytes) .written
  | spoiled (bytes : List UInt8) (fault : Fault) : Allows (.write bytes) (.fault fault)

/-- A session acts at one instant and gets its answer at another one. -/
structure Moment (σ τ : Type) where
  /-- The session. -/
  session : σ
  /-- When it acts. -/
  asked : τ
  /-- The answer of its surroundings. -/
  answer : Answer
  /-- When it gets the answer. -/
  answered : τ

/-- What a session does on the line, or meets there. -/
inductive Sign where
  /-- Bytes were put on the line. -/
  | wrote (bytes : List UInt8)
  /-- The line failed under some bytes. -/
  | spoiled (bytes : List UInt8)
  /-- A byte arrived. -/
  | heard (value : UInt8)
  /-- A wait was over before anything arrived. -/
  | silence
  /-- A read failed. -/
  | broken
  deriving DecidableEq, Repr

namespace Sign

/-- The bytes that were to be put on the line. -/
def written? : Sign → Option (List UInt8)
  | wrote bytes | spoiled bytes => some bytes
  | _ => none

/-- The sign of an action and its answer.  An internal move is the end of a wait when the session
was waiting, and leaves no sign otherwise. -/
def of? (waiting : Bool) : Action τ → Answer → Option Sign
  | .proceed, .proceeded => if waiting then some silence else none
  | .read _, .byte value => some (heard value)
  | .read _, .silence => some silence
  | .read _, .fault _ => some broken
  | .write bytes, .written => some (wrote bytes)
  | .write bytes, .fault _ => some (spoiled bytes)
  | _, _ => none

end Sign

namespace Moment

variable [Session σ τ]

/-- What the session does. -/
def action (moment : Moment σ τ) : Action τ :=
  Session.action moment.session moment.asked

/-- The session afterwards. -/
def after (moment : Moment σ τ) : σ :=
  (Session.next moment.session moment.answered moment.answer).1

/-- What the session reports. -/
def events (moment : Moment σ τ) : List (Event τ) :=
  (Session.next moment.session moment.answered moment.answer).2

/-- Whether the answer is one to the action; internal moves take no time. -/
structure Valid (moment : Moment σ τ) : Prop where
  allowed : moment.action.Allows moment.answer
  prompt : moment.answer = .proceeded → moment.answered = moment.asked

/-- The sign of a moment, when one can tell the sessions that wait. -/
def sign? (waiting : σ → Bool) (moment : Moment σ τ) : Option Sign :=
  Sign.of? (waiting moment.session) moment.action moment.answer

/-- What a history gets from a moment. -/
def happenings (moment : Moment σ τ) : List (Happening τ) :=
  (match moment.action with
    | .read timeout => Happening.ofReading timeout moment.answer
    | .write bytes => [.wrote bytes]
    | .proceed | .stop => []) ++ moment.events.map .reported

theorem Valid.written_happenings {moment : Moment σ τ} (valid : moment.Valid)
    (waiting : σ → Bool) :
    moment.happenings.filterMap Happening.written? =
      (moment.sign? waiting).toList.filterMap Sign.written? := by
  have reported : (moment.events.map .reported).filterMap Happening.written? = [] := by
    simp [List.filterMap_map, Function.comp_def, Happening.written?]
  have allowed := valid.allowed
  unfold happenings sign?
  rw [List.filterMap_append, reported, List.append_nil]
  generalize moment.action = action at allowed
  generalize moment.answer = answer at allowed
  cases allowed with
  | proceeded => cases waiting moment.session <;> rfl
  | byte | silence | broken | written | spoiled => rfl

section Answers

variable {session : σ} {asked now : τ}

theorem valid_of_write {bytes : List UInt8} (writes : Session.action session asked = .write bytes) :
    (mk session asked .written now).Valid :=
  ⟨by rw [action, writes]; exact .written bytes, nofun⟩

theorem valid_of_read {timeout : τ} (reads : Session.action session asked = .read timeout)
    (value : UInt8) : (mk session asked (.byte value) now).Valid :=
  ⟨by rw [action, reads]; exact .byte timeout value, nofun⟩

theorem valid_of_expire {timeout : τ} (reads : Session.action session asked = .read timeout) :
    (mk session asked .silence now).Valid :=
  ⟨by rw [action, reads]; exact .silence timeout, nofun⟩

theorem valid_of_proceed (proceeds : Session.action session now = .proceed) :
    (mk session now .proceeded now).Valid :=
  ⟨by rw [action, proceeds]; exact .proceeded, fun _ => rfl⟩

variable (waiting : σ → Bool)

theorem sign_of_write {bytes : List UInt8} (writes : Session.action session asked = .write bytes) :
    (mk session asked .written now).sign? waiting = some (.wrote bytes) := by
  simp only [sign?, action, writes, Sign.of?]

theorem sign_of_read {timeout : τ} (reads : Session.action session asked = .read timeout)
    (value : UInt8) :
    (mk session asked (.byte value) now).sign? waiting = some (.heard value) := by
  simp only [sign?, action, reads, Sign.of?]

theorem sign_of_expire {timeout : τ} (reads : Session.action session asked = .read timeout) :
    (mk session asked .silence now).sign? waiting = some .silence := by
  simp only [sign?, action, reads, Sign.of?]

theorem sign_of_proceed (proceeds : Session.action session now = .proceed) :
    (mk session now .proceeded now).sign? waiting = none ∨
      (mk session now .proceeded now).sign? waiting = some .silence := by
  simp only [sign?, action, proceeds, Sign.of?]
  split
  · exact .inr rfl
  · exact .inl rfl

end Answers

end Moment

/-- Whether the last element of a list has a property, given those before it. -/
def Ends {α : Type} (property : List α → α → Prop) (elements : List α) : Prop :=
  ∃ before last, elements = before ++ [last] ∧ property before last

@[simp]
theorem ends_append_singleton {α : Type} (elements : List α) (element : α)
    (property : List α → α → Prop) :
    Ends property (elements ++ [element]) ↔ property elements element := by
  constructor
  · rintro ⟨before, last, same, holds⟩
    obtain ⟨rfl, rfl⟩ := List.append_singleton_inj.mp same
    exact holds
  · exact fun holds => ⟨elements, element, rfl, holds⟩

theorem not_ends_nil {α : Type} (property : List α → α → Prop) : ¬ Ends property [] := by
  rintro ⟨before, last, same, _⟩
  exact List.append_ne_nil_of_right_ne_nil before (List.cons_ne_nil _ _) same.symm

section Talk

variable [Session σ τ]

/-- The signs of a conversation. -/
def transcript (waiting : σ → Bool) (moments : List (Moment σ τ)) : List Sign :=
  moments.filterMap (Moment.sign? waiting)

@[simp]
theorem transcript_append (waiting : σ → Bool) (front back : List (Moment σ τ)) :
    transcript waiting (front ++ back) = transcript waiting front ++ transcript waiting back :=
  List.filterMap_append

theorem transcript_singleton (waiting : σ → Bool) (moment : Moment σ τ) :
    transcript waiting [moment] = (moment.sign? waiting).toList := by
  cases sign : moment.sign? waiting <;> simp [transcript, sign]

/-- The moments of a session from its first state to another one, in order. -/
inductive Converses (first : σ) : List (Moment σ τ) → σ → Prop
  | silent : Converses first [] first
  | step {moments : List (Moment σ τ)} {moment : Moment σ τ} :
      Converses first moments moment.session → moment.Valid →
      Converses first (moments ++ [moment]) moment.after

theorem Converses.trans {first second third : σ} {front back : List (Moment σ τ)}
    (before : Converses first front second) (after : Converses second back third) :
    Converses first (front ++ back) third := by
  induction after with
  | silent => simpa using before
  | step _ valid converses =>
      rw [← List.append_assoc]
      exact .step converses valid

/-- A conversation can be cut at every moment. -/
theorem Converses.cut {first last : σ} {moments front back : List (Moment σ τ)}
    {moment : Moment σ τ} (talks : Converses first moments last)
    (same : moments = front ++ moment :: back) :
    Converses first front moment.session ∧ moment.Valid ∧ Converses moment.after back last := by
  induction talks generalizing back with
  | silent =>
      exact absurd same.symm (List.append_ne_nil_of_right_ne_nil front (List.cons_ne_nil _ _))
  | step talks valid induction =>
      obtain rfl | ⟨back, final, rfl⟩ := back.eq_nil_or_concat
      · obtain ⟨rfl, rfl⟩ := List.append_singleton_inj.mp same
        exact ⟨talks, valid, .silent⟩
      · rw [List.concat_eq_append, ← List.cons_append, ← List.append_assoc] at same
        obtain ⟨earlier, rfl⟩ := List.append_singleton_inj.mp same
        obtain ⟨begins, cut_valid, ends⟩ := induction earlier
        rw [List.concat_eq_append]
        exact ⟨begins, cut_valid, ends.step valid⟩

/-- What was said before and after a sign of a conversation, and the moment of the sign. -/
theorem Converses.exists_of_transcript {first last : σ} {moments : List (Moment σ τ)}
    (talks : Converses first moments last) {waiting : σ → Bool} {before after : List Sign}
    {sign : Sign} (same : transcript waiting moments = before ++ sign :: after) :
    ∃ (front : List (Moment σ τ)) (moment : Moment σ τ) (back : List (Moment σ τ)),
      Converses first front moment.session ∧ transcript waiting front = before ∧
      moment.Valid ∧ moment.sign? waiting = some sign ∧
      Converses moment.after back last ∧ transcript waiting back = after := by
  obtain ⟨front, rest, rfl, earlier, later⟩ := List.filterMap_eq_append_iff.mp same
  obtain ⟨quiet, moment, back, rfl, unsigned, shown, later⟩ := List.filterMap_eq_cons_iff.mp later
  obtain ⟨begins, valid, ends⟩ := talks.cut (List.append_assoc front quiet _).symm
  have nothing : transcript waiting quiet = [] := List.filterMap_eq_nil_iff.mpr unsigned
  have same : transcript waiting (front ++ quiet) = before := by
    rw [transcript_append, nothing, List.append_nil]
    exact earlier
  exact ⟨front ++ quiet, moment, back, begins, same, valid, shown, ends, later⟩

theorem Converses.eq_nil_of_stop {first last : σ} {moments : List (Moment σ τ)}
    (talks : Converses first moments last) (stops : ∀ now, Session.action first now = .stop) :
    moments = [] ∧ last = first := by
  induction talks with
  | silent => exact ⟨rfl, rfl⟩
  | @step moments moment _ valid induction =>
      have allowed := valid.allowed
      rw [Moment.action, induction.2, stops] at allowed
      cases allowed

theorem Converses.written_happenings {first session : σ} {moments : List (Moment σ τ)}
    (talks : Converses first moments session) (waiting : σ → Bool) :
    (moments.flatMap Moment.happenings).filterMap Happening.written? =
      (transcript waiting moments).filterMap Sign.written? := by
  induction talks with
  | silent => rfl
  | step _ valid induction =>
      rw [List.flatMap_append, List.filterMap_append, transcript_append, List.filterMap_append,
        induction, List.flatMap_singleton, valid.written_happenings waiting, transcript_singleton]

end Talk

namespace Run

variable [Quantity τ] [Session σ τ]

omit [Session σ τ] in
theorem allows_readItems (ending : Option Fault) (now left timeout : τ)
    (items : List (ScriptItem τ)) :
    (Action.read timeout).Allows (ScriptedLine.readItems ending now left items).answer := by
  induction items generalizing now left with
  | nil =>
      cases ending with
      | none => exact .silence timeout
      | some fault => exact .broken timeout fault
  | cons item items induction =>
      cases item with
      | byte value => exact .byte timeout value
      | silence => exact .silence timeout
      | fault fault => exact .broken timeout fault
      | wait duration =>
          unfold ScriptedLine.readItems
          split
          · exact induction ..
          · exact .silence timeout

omit [Quantity τ] [Session σ τ] in
theorem allows_write (bytes : List UInt8) (line : ScriptedLine τ) :
    (.write bytes : Action τ).Allows line.write.1 := by
  unfold ScriptedLine.write
  split
  · exact .spoiled bytes _
  · exact .written bytes

/-- The moment at which a run moves; nothing when its session is over. -/
def moment? (run : Run σ τ) : Option (Moment σ τ) :=
  match Session.action run.session run.now with
  | .stop => none
  | .proceed => some ⟨run.session, run.now, .proceeded, run.now⟩
  | .read timeout =>
      let (answer, later, _) := run.line.read run.now timeout
      some ⟨run.session, run.now, answer, later⟩
  | .write _ => some ⟨run.session, run.now, run.line.write.1, run.now⟩

/-- The moments of at most some number of moves, and the run afterwards. -/
def talk : Nat → Run σ τ → List (Moment σ τ) × Run σ τ
  | 0, run => ([], run)
  | fuel + 1, run =>
      match run.moment?, run.next with
      | some moment, some after =>
          let (moments, last) := talk fuel after
          (moment :: moments, last)
      | _, _ => ([], run)

theorem exists_moment {run after : Run σ τ} (moves : run.next = some after) :
    ∃ moment, run.moment? = some moment ∧ moment.Valid ∧ moment.session = run.session ∧
      moment.after = after.session ∧ after.history = run.history ++ moment.happenings := by
  unfold next at moves
  split at moves
  case h_1 => exact absurd moves nofun
  case h_2 acts =>
    obtain rfl := Option.some.inj moves
    refine ⟨⟨run.session, run.now, .proceeded, run.now⟩, ?_, ⟨?_, fun _ => rfl⟩, rfl, rfl, ?_⟩
    · rw [moment?, acts]
    · rw [Moment.action, acts]
      exact .proceeded
    · simp [history, answer, Moment.happenings, Moment.action, Moment.events, acts]
  case h_3 timeout acts =>
    have allowed : (Action.read timeout).Allows (run.line.read run.now timeout).1 :=
      allows_readItems ..
    have shown : run.moment? =
        some ⟨run.session, run.now, (run.line.read run.now timeout).1,
          (run.line.read run.now timeout).2.1⟩ := by
      rw [moment?, acts]
    generalize run.line.read run.now timeout = reading at moves allowed shown
    obtain ⟨answer, later, line⟩ := reading
    obtain rfl := Option.some.inj moves
    refine ⟨⟨run.session, run.now, answer, later⟩, shown, ⟨?_, fun internal => ?_⟩, rfl, rfl, ?_⟩
    · rw [Moment.action, acts]
      exact allowed
    · obtain rfl : answer = .proceeded := internal
      cases allowed
    · have reversed : (Happening.ofReading timeout answer).reverse =
          Happening.ofReading timeout answer := by
        cases answer <;> rfl
      simp [history, Run.answer, Moment.happenings, Moment.action, Moment.events, acts, reversed]
  case h_4 bytes acts =>
    have allowed : (.write bytes : Action τ).Allows run.line.write.1 := allows_write ..
    have shown : run.moment? = some ⟨run.session, run.now, run.line.write.1, run.now⟩ := by
      rw [moment?, acts]
    generalize run.line.write = writing at moves allowed shown
    obtain ⟨answer, line⟩ := writing
    obtain rfl := Option.some.inj moves
    refine ⟨⟨run.session, run.now, answer, run.now⟩, shown, ⟨?_, fun _ => rfl⟩, rfl, rfl, ?_⟩
    · rw [Moment.action, acts]
      exact allowed
    · simp [history, Run.answer, Moment.happenings, Moment.action, Moment.events, acts]

/-- What a session says over a scripted line is a conversation. -/
theorem exists_converses {fuel : Nat} {run after : Run σ τ}
    (ends : run.complete fuel = some after) :
    ∃ moments, Converses run.session moments after.session ∧
      after.history = run.history ++ moments.flatMap Moment.happenings := by
  induction fuel generalizing run with
  | zero => exact absurd ends nofun
  | succ fuel induction =>
      unfold complete at ends
      split at ends
      · obtain rfl := Option.some.inj ends
        exact ⟨[], .silent, by simp⟩
      · rename_i between moves
        obtain ⟨moment, _, valid, begins, leads, notes⟩ := exists_moment moves
        obtain ⟨moments, talks, more⟩ := induction ends
        have before : Converses run.session [] moment.session := begins ▸ .silent
        have later : Converses moment.after moments after.session := leads ▸ talks
        exact ⟨[moment] ++ moments, (before.step valid).trans later, by simp [more, notes]⟩

theorem converses_talk (fuel : Nat) (run : Run σ τ) :
    Converses run.session (run.talk fuel).1 (run.talk fuel).2.session := by
  induction fuel generalizing run with
  | zero => exact .silent
  | succ fuel induction =>
      unfold talk
      split
      · rename_i first after shown moves
        obtain ⟨moment, same, valid, begins, leads, _⟩ := exists_moment moves
        obtain rfl := Option.some.inj (shown.symm.trans same)
        have before : Converses run.session [] first.session := begins ▸ .silent
        have later := leads ▸ induction after
        exact (before.step valid).trans later
      · exact .silent

end Run
end Xmodem
