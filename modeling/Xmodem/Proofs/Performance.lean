import Xmodem.Proofs.Conversation

/-!
# Performances

A script of bytes and silences is performed by the session that reads it: bytes arrive at once, and
a silence lasts as long as the session waits.  The relation `Plays` follows a session through such a
script and collects the totals that it reports.  What was followed to an end is a run.
-/

namespace Xmodem

namespace Happening

variable {τ : Type}

/-- The event that was reported. -/
def event? : Happening τ → Option (Event τ)
  | reported event => some event
  | _ => none

theorem filterMap_event?_reported (events : List (Event τ)) :
    (events.map reported).filterMap event? = events := by
  simp [List.filterMap_map, Function.comp_def, event?]

end Happening

/-- The totals that a history reports in a direction. -/
def Run.totals {σ τ : Type} (direction : Direction) (run : Run σ τ) : List Nat :=
  Event.totals direction (run.history.filterMap Happening.event?)

theorem Event.totals_append {τ : Type} (direction : Direction) (front back : List (Event τ)) :
    totals direction (front ++ back) = totals direction front ++ totals direction back :=
  List.filterMap_append

variable {σ τ : Type} [Quantity τ]

/-- How a script answers an action at an instant, and what is left of it at which instant.  Behind
the script there is silence. -/
inductive Meets : Action τ → τ → List (ScriptItem τ) → Answer → τ →
    List (ScriptItem τ) → Prop
  | proceeded {now : τ} {items : List (ScriptItem τ)} :
      Meets .proceed now items .proceeded now items
  | written {now : τ} {items : List (ScriptItem τ)} {bytes : List UInt8} :
      Meets (.write bytes) now items .written now items
  | byte {now timeout : τ} {items : List (ScriptItem τ)} {value : UInt8} :
      Meets (.read timeout) now (.byte value :: items) (.byte value) now items
  | silence {now timeout : τ} {items : List (ScriptItem τ)} :
      Meets (.read timeout) now (.silence :: items) .silence (now + timeout) items
  | exhausted {now timeout : τ} : Meets (.read timeout) now [] .silence (now + timeout) []

/-- Whether a script has only bytes and silences. -/
def Plain (items : List (ScriptItem τ)) : Prop :=
  ∀ item ∈ items, item = .silence ∨ ∃ value, item = .byte value

section Answers

variable {action : Action τ} {answer : Answer} {now later : τ}
  {items rest : List (ScriptItem τ)}

theorem Meets.allows (meets : Meets action now items answer later rest) :
    action.Allows answer := by
  cases meets with
  | proceeded => exact .proceeded
  | written => exact .written _
  | byte => exact .byte _ _
  | silence | exhausted => exact .silence _

theorem Meets.prompt (meets : Meets action now items answer later rest)
    (internal : answer = .proceeded) : later = now := by
  cases meets with
  | proceeded | written | byte => rfl
  | silence | exhausted => exact absurd internal nofun

theorem Meets.plain (meets : Meets action now items answer later rest) (plain : Plain items) :
    Plain rest := by
  cases meets with
  | proceeded | written | exhausted => exact plain
  | byte | silence => exact (List.forall_mem_cons.mp plain).2

theorem Meets.valid [Session σ τ] {session : σ}
    (meets : Meets (Session.action session now) now items answer later rest) :
    (Moment.mk session now answer later).Valid :=
  ⟨meets.allows, meets.prompt⟩

/-- What a sign takes from a script.  A wait that was over before its read takes nothing. -/
inductive Consumes (waiting : Bool) :
    List (ScriptItem τ) → Option Sign → List (ScriptItem τ) → Prop
  | byte {value : UInt8} {items : List (ScriptItem τ)} :
      Consumes waiting (.byte value :: items) (some (.heard value)) items
  | silence {items : List (ScriptItem τ)} :
      Consumes waiting (.silence :: items) (some .silence) items
  | exhausted : Consumes waiting [] (some .silence) []
  | expire {items : List (ScriptItem τ)} :
      waiting = true → Consumes waiting items (some .silence) items
  | move {items : List (ScriptItem τ)} : Consumes waiting items none items
  | wrote {items : List (ScriptItem τ)} {bytes : List UInt8} :
      Consumes waiting items (some (.wrote bytes)) items

theorem Meets.consumes (meets : Meets action now items answer later rest) (waiting : Bool) :
    Consumes waiting items (Sign.of? waiting action answer) rest := by
  cases meets with
  | proceeded =>
      cases waiting with
      | false => exact .move
      | true => exact .expire rfl
  | written => exact .wrote
  | byte => exact .byte
  | silence => exact .silence
  | exhausted => exact .exhausted

omit [Quantity τ] in
theorem Consumes.of_heard {waiting : Bool} {value : UInt8}
    (consumes : Consumes waiting items (some (.heard value)) rest) :
    items = .byte value :: rest := by
  cases consumes
  rfl

end Answers

/-- A session at an instant, in front of the rest of a script. -/
structure Cue (σ τ : Type) where
  /-- The session. -/
  session : σ
  /-- The instant. -/
  now : τ
  /-- What is left of the script. -/
  items : List (ScriptItem τ)

variable [Session σ τ]

/-- A session goes on through a script, and reports some totals of received bytes meanwhile. -/
inductive Plays : Cue σ τ → List Nat → Cue σ τ → Prop
  | rest (cue : Cue σ τ) : Plays cue [] cue
  | step {session : σ} {now later : τ} {items rest : List (ScriptItem τ)} {answer : Answer}
      {totals : List Nat} {after : Cue σ τ} :
      Meets (Session.action session now) now items answer later rest →
      Plays ⟨(Session.next session later answer).1, later, rest⟩ totals after →
      Plays ⟨session, now, items⟩
        (Event.totals .received (Session.next session later answer).2 ++ totals) after

variable {first second third : Cue σ τ} {front back reports : List Nat}

theorem Plays.trans (plays : Plays first front second) (continues : Plays second back third) :
    Plays first (front ++ back) third := by
  induction plays with
  | rest => exact continues
  | step meets _ induction =>
      rw [List.append_assoc]
      exact .step meets (induction continues)

theorem Plays.quiet {session : σ} {now later : τ} {items rest : List (ScriptItem τ)}
    {answer : Answer} (meets : Meets (Session.action session now) now items answer later rest)
    (nothing : Event.totals .received (Session.next session later answer).2 = [])
    (plays : Plays ⟨(Session.next session later answer).1, later, rest⟩ reports third) :
    Plays ⟨session, now, items⟩ reports third := by
  have step := Plays.step meets plays
  rwa [nothing, List.nil_append] at step

/-- Whether a run without faults stands at a cue. -/
structure Run.StandsAt (run : Run σ τ) (cue : Cue σ τ) : Prop where
  session_eq : run.session = cue.session
  now_eq : run.now = cue.now
  items_eq : run.line.items = cue.items
  endless : run.line.ending = none
  faultless : run.line.writeFaults = []

namespace Run

omit [Quantity τ] in
theorem totals_answer (run : Run σ τ) (direction : Direction) (answer : Answer) :
    (run.answer answer).totals direction = run.totals direction ++
      Event.totals direction (Session.next run.session run.now answer).2 := by
  simp only [totals, history, Run.answer, List.reverse_append, List.reverse_reverse,
    List.filterMap_append, Happening.filterMap_event?_reported, Event.totals_append]

omit [Quantity τ] [Session σ τ] in
theorem totals_cons (run : Run σ τ) (line : ScriptedLine τ) (now : τ) (direction : Direction)
    {happening : Happening τ} (unreported : happening.event? = none) :
    (mk run.session line now (happening :: run.past)).totals direction = run.totals direction := by
  simp [Run.totals, history, unreported]

theorem next_of_proceed {run : Run σ τ} (acts : Session.action run.session run.now = .proceed) :
    run.next = some (run.answer .proceeded) := by
  simp only [next, acts]

theorem next_of_write {run : Run σ τ} {bytes : List UInt8}
    (acts : Session.action run.session run.now = .write bytes)
    (faultless : run.line.writeFaults = []) :
    run.next = some ((mk run.session { run.line with writes := run.line.writes + 1 } run.now
      (.wrote bytes :: run.past)).answer .written) := by
  simp only [next, acts, ScriptedLine.write, faultless, List.lookup_nil]

theorem next_of_byte {run : Run σ τ} {timeout : τ} {value : UInt8}
    {rest : List (ScriptItem τ)} (acts : Session.action run.session run.now = .read timeout)
    (items_eq : run.line.items = .byte value :: rest) :
    run.next = some ((mk run.session { run.line with items := rest } run.now
      (.received timeout value :: run.past)).answer (.byte value)) := by
  simp only [next, acts, ScriptedLine.read, items_eq]
  rfl

theorem next_of_silence {run : Run σ τ} {timeout : τ} {rest : List (ScriptItem τ)}
    (acts : Session.action run.session run.now = .read timeout)
    (items_eq : run.line.items = .silence :: rest) :
    run.next = some ((mk run.session { run.line with items := rest } (run.now + timeout)
      (.silent timeout :: run.past)).answer .silence) := by
  simp only [next, acts, ScriptedLine.read, items_eq]
  rfl

theorem next_of_over {run : Run σ τ} {timeout : τ}
    (acts : Session.action run.session run.now = .read timeout) (items_eq : run.line.items = [])
    (endless : run.line.ending = none) :
    run.next = some ((mk run.session run.line (run.now + timeout)
      (.silent timeout :: run.past)).answer .silence) := by
  obtain ⟨session, ⟨items, ending, faults, writes⟩, now, past⟩ := run
  obtain rfl : items = [] := items_eq
  obtain rfl : ending = none := endless
  simp only [next, acts]
  rfl

theorem exists_next {run : Run σ τ} {cue : Cue σ τ} {later : τ} {rest : List (ScriptItem τ)}
    {answer : Answer} (stands : run.StandsAt cue)
    (meets : Meets (Session.action cue.session cue.now) cue.now cue.items answer later rest) :
    ∃ after, run.next = some after ∧
      after.StandsAt ⟨(Session.next cue.session later answer).1, later, rest⟩ ∧
      after.totals .received = run.totals .received ++
        Event.totals .received (Session.next cue.session later answer).2 := by
  obtain ⟨session, now, items⟩ := cue
  obtain ⟨rfl, rfl, rfl, endless, faultless⟩ := stands
  generalize acts : Session.action run.session run.now = action at meets
  generalize items_eq : run.line.items = items at meets
  cases meets with
  | proceeded =>
      refine ⟨_, next_of_proceed acts, ⟨rfl, rfl, items_eq, endless, faultless⟩, ?_⟩
      rw [totals_answer]
  | written =>
      refine ⟨_, next_of_write acts faultless, ⟨rfl, rfl, items_eq, endless, faultless⟩, ?_⟩
      rw [totals_answer, totals_cons _ _ _ _ rfl]
  | byte =>
      refine ⟨_, next_of_byte acts items_eq, ⟨rfl, rfl, rfl, endless, faultless⟩, ?_⟩
      rw [totals_answer, totals_cons _ _ _ _ rfl]
  | silence =>
      refine ⟨_, next_of_silence acts items_eq, ⟨rfl, rfl, rfl, endless, faultless⟩, ?_⟩
      rw [totals_answer, totals_cons _ _ _ _ rfl]
  | exhausted =>
      refine ⟨_, next_of_over acts items_eq endless, ⟨rfl, rfl, items_eq, endless, faultless⟩, ?_⟩
      rw [totals_answer, totals_cons _ _ _ _ rfl]

theorem meets_of_next {run after : Run σ τ} (moves : run.next = some after)
    (plain : Plain run.line.items) (endless : run.line.ending = none)
    (faultless : run.line.writeFaults = []) :
    ∃ answer, Meets (Session.action run.session run.now) run.now run.line.items answer after.now
        after.line.items ∧
      after.session = (Session.next run.session after.now answer).1 ∧
      after.line.ending = none ∧ after.line.writeFaults = [] := by
  cases acts : Session.action run.session run.now with
  | stop => simp [next, acts] at moves
  | proceed =>
      obtain rfl := Option.some.inj ((next_of_proceed acts).symm.trans moves)
      exact ⟨.proceeded, .proceeded, rfl, endless, faultless⟩
  | write bytes =>
      obtain rfl := Option.some.inj ((next_of_write acts faultless).symm.trans moves)
      exact ⟨.written, .written, rfl, endless, faultless⟩
  | read timeout =>
      cases items_eq : run.line.items with
      | nil =>
          obtain rfl := Option.some.inj ((next_of_over acts items_eq endless).symm.trans moves)
          refine ⟨.silence, ?_, rfl, endless, faultless⟩
          simpa [Run.answer, items_eq] using Meets.exhausted
      | cons item rest =>
          rw [items_eq] at plain
          obtain rfl | ⟨value, rfl⟩ := plain item List.mem_cons_self
          · obtain rfl := Option.some.inj ((next_of_silence acts items_eq).symm.trans moves)
            exact ⟨.silence, .silence, rfl, endless, faultless⟩
          · obtain rfl := Option.some.inj ((next_of_byte acts items_eq).symm.trans moves)
            exact ⟨.byte value, .byte, rfl, endless, faultless⟩

/-- What every step through a script keeps is kept by a run to its end. -/
theorem keeps_of_complete {property : σ → List (ScriptItem τ) → Prop}
    (keeps : ∀ {session : σ} {now later : τ} {items rest : List (ScriptItem τ)} {answer : Answer},
      property session items → Meets (Session.action session now) now items answer later rest →
      property (Session.next session later answer).1 rest)
    {fuel : Nat} {run final : Run σ τ} (holds : property run.session run.line.items)
    (plain : Plain run.line.items) (endless : run.line.ending = none)
    (faultless : run.line.writeFaults = []) (ends : run.complete fuel = some final) :
    property final.session final.line.items := by
  induction fuel generalizing run with
  | zero => exact absurd ends nofun
  | succ fuel induction =>
      unfold complete at ends
      split at ends
      · obtain rfl := Option.some.inj ends
        exact holds
      · rename_i after moves
        obtain ⟨answer, meets, session_eq, endless, faultless⟩ :=
          meets_of_next moves plain endless faultless
        refine induction ?_ (meets.plain plain) endless faultless ends
        rw [session_eq]
        exact keeps holds meets

theorem complete_of_plays {run : Run σ τ} (stands : run.StandsAt first)
    (plays : Plays first reports third)
    (stops : Session.action third.session third.now = .stop) :
    ∃ fuel final, run.complete fuel = some final ∧ final.session = third.session ∧
      final.totals .received = run.totals .received ++ reports := by
  induction plays generalizing run with
  | rest cue =>
      have halts : run.next = none := by
        rw [← stands.session_eq, ← stands.now_eq] at stops
        simp only [next, stops]
      exact ⟨1, run, by rw [complete, halts], stands.session_eq, (List.append_nil _).symm⟩
  | step meets _ induction =>
      obtain ⟨after, moves, later, after_totals⟩ := exists_next stands meets
      obtain ⟨fuel, final, ends, same, final_totals⟩ := induction later stops
      refine ⟨fuel + 1, final, (complete_eq_some_of_next moves).trans ends, same, ?_⟩
      rw [final_totals, after_totals, List.append_assoc]

/-- What a fresh session plays to its end is what its run ends with. -/
theorem perform_of_plays {run : Run σ τ} {outcome : Outcome} (stands : run.StandsAt first)
    (fresh : Session.idle first.session = true) (plays : Plays first reports third)
    (stops : Session.action third.session third.now = .stop)
    (ended : Session.outcome? third.session = some outcome) :
    ∃ fuel final, run.perform fuel = some (.ok outcome, final) ∧ final.session = third.session ∧
      final.totals .received = run.totals .received ++ reports := by
  obtain ⟨fuel, final, ends, same, totals_eq⟩ := complete_of_plays stands plays stops
  refine ⟨fuel, final, ?_, same, totals_eq⟩
  rw [← stands.session_eq] at fresh
  rw [← same] at ended
  rw [perform, if_pos fresh, ends]
  simp only [ended, Option.map_some]

theorem complete_of_perform {fuel : Nat} {run final : Run σ τ} {result : Except AlreadyRan Outcome}
    (fresh : Session.idle run.session = true) (ends : run.perform fuel = some (result, final)) :
    ∃ outcome, result = .ok outcome ∧ run.complete fuel = some final ∧
      Session.outcome? final.session = some outcome := by
  rw [perform, if_pos fresh] at ends
  cases completes : run.complete fuel with
  | none => simp [completes] at ends
  | some last =>
      rw [completes] at ends
      obtain ⟨outcome, ended, same⟩ := Option.map_eq_some_iff.mp ends
      obtain ⟨rfl, rfl⟩ := Prod.mk.inj same
      exact ⟨outcome, rfl, rfl, ended⟩

theorem complete_mono {fuel more : Nat} {run final : Run σ τ} (enough : fuel ≤ more)
    (ends : run.complete fuel = some final) : run.complete more = some final := by
  induction fuel generalizing run more with
  | zero => exact absurd ends nofun
  | succ fuel induction =>
      obtain ⟨more, rfl⟩ := Nat.exists_eq_add_of_le' (Nat.lt_of_lt_of_le fuel.succ_pos enough)
      unfold complete at ends ⊢
      split at ends
      · exact ends
      · exact induction (Nat.le_of_succ_le_succ enough) ends

theorem perform_mono {fuel more : Nat} {run final : Run σ τ}
    {result : Except AlreadyRan Outcome} (enough : fuel ≤ more)
    (ends : run.perform fuel = some (result, final)) :
    run.perform more = some (result, final) := by
  unfold perform at ends ⊢
  by_cases fresh : Session.idle run.session = true
  · rw [if_pos fresh] at ends ⊢
    cases completes : run.complete fuel with
    | none => simp [completes] at ends
    | some last =>
        rw [completes] at ends
        rw [complete_mono enough completes]
        exact ends
  · rw [if_neg fresh] at ends ⊢
    exact ends

end Run
end Xmodem
