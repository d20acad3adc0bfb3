import Xmodem.CommandLine.Rehearsal
import Xmodem.Proofs.Conversation

/-!
# Undertakings

A job works in surroundings that may do anything with its port: it may be refused, bytes may arrive
or not, reads and writes may fail, and the clock may show any instant.  Memory may be found or not.
Only the job itself changes files.  An undertaking lists the moments at which the job acted; those of
its transfer are a conversation.  Every rehearsal is an undertaking.
-/

namespace Xmodem.CommandLine

/-- Whether surroundings with some files may give an answer to an action, and which files are there
afterwards. -/
inductive JobAction.Allows (files : Files) : JobAction → JobAnswer → Files → Prop
  | proceeded : Allows files .proceed (.line .proceeded) files
  | loaded (name : String) : Allows files (.readFile name) (.input (files.read name)) files
  | input (content : List UInt8) : Allows files .readInput (.input (.ok content)) files
  | opened (name : String) (settings : SerialSettings Float)
      (result : Except OpeningError Unit) :
      Allows files (.openPort name settings) (.opened result) files
  | reserved (bytes : Nat) (found : Bool) : Allows files (.reserve bytes) (.reserved found) files
  | read (timeout : Float) {answer : Answer} :
      (Action.read timeout).Allows answer → Allows files (.read timeout) (.line answer) files
  | written (bytes : List UInt8) {answer : Answer} :
      (.write bytes : Action Float).Allows answer → Allows files (.write bytes) (.line answer) files
  | closed : Allows files .closePort .closed files
  | stored {name : String} {bytes : List UInt8} {later : Files} :
      files.write name bytes = .ok later →
      Allows files (.writeFile name bytes) (.stored (.ok ())) later
  | unstored {name : String} {bytes : List UInt8} {error : FileError} :
      files.write name bytes = .error error →
      Allows files (.writeFile name bytes) (.stored (.error error)) files

/-- A job acts at one instant and gets its answer at another one. -/
structure JobMoment where
  /-- The job. -/
  job : Job
  /-- When it acts. -/
  asked : Float
  /-- The answer of its surroundings. -/
  answer : JobAnswer
  /-- When it gets the answer. -/
  answered : Float

namespace JobMoment

/-- What the job does. -/
def action (moment : JobMoment) : JobAction :=
  moment.job.action moment.asked

/-- The job afterwards. -/
def after (moment : JobMoment) : Job :=
  (moment.job.next moment.answered moment.answer).1

/-- What the job shows. -/
def output (moment : JobMoment) : List Output :=
  (moment.job.next moment.answered moment.answer).2

/-- Whether the answer is one to the action; internal moves take no time. -/
structure Valid (files : Files) (moment : JobMoment) (later : Files) : Prop where
  allowed : moment.action.Allows files moment.answer later
  prompt : moment.answer = .line .proceeded → moment.answered = moment.asked

section Inversion

variable {files later : Files} {moment : JobMoment}

theorem Valid.of_idle (valid : moment.Valid files later) (idle : moment.job.stage = .idle) :
    moment.answer = .line .proceeded ∧ later = files := by
  obtain ⟨⟨command, _, progress⟩, asked, answer, answered⟩ := moment
  obtain rfl := idle
  cases valid.allowed
  exact ⟨rfl, rfl⟩

theorem Valid.of_loading {input : Option String} (valid : moment.Valid files later)
    (loads : moment.job.stage = .loading input) : ∃ result, moment.answer = .input result := by
  obtain ⟨⟨command, _, progress⟩, asked, answer, answered⟩ := moment
  obtain rfl := loads
  have allowed := valid.allowed
  cases input with
  | none =>
      cases allowed
      exact ⟨_, rfl⟩
  | some name =>
      cases allowed
      exact ⟨_, rfl⟩

theorem Valid.of_opening {source : List UInt8} {port : String} {settings : SerialSettings Float}
    (valid : moment.Valid files later)
    (opens : moment.job.stage = .opening source port settings) :
    ∃ result, moment.answer = .opened result ∧ later = files := by
  obtain ⟨⟨command, _, progress⟩, asked, answer, answered⟩ := moment
  obtain rfl := opens
  cases valid.allowed
  exact ⟨_, rfl, rfl⟩

theorem Valid.of_reserving {destination : Destination} (valid : moment.Valid files later)
    (reserves : moment.job.stage = .reserving destination) :
    ∃ found, moment.answer = .reserved found ∧ later = files := by
  obtain ⟨⟨command, _, progress⟩, asked, answer, answered⟩ := moment
  obtain rfl := reserves
  cases valid.allowed
  exact ⟨_, rfl, rfl⟩

theorem Valid.of_writing {source : List UInt8} (valid : moment.Valid files later)
    (writes : moment.job.stage = .writing source) :
    ∃ answer, moment.answer = .line answer ∧ (.write source : Action Float).Allows answer := by
  obtain ⟨⟨command, _, progress⟩, asked, answer, answered⟩ := moment
  obtain rfl := writes
  cases valid.allowed with
  | written _ allowed => exact ⟨_, rfl, allowed⟩

/-- What a job meets while its transfer runs is a moment of the transfer. -/
theorem Valid.of_transferring {transfer : Transfer Float} (valid : moment.Valid files later)
    (transfers : moment.job.stage = .transferring transfer) :
    ∃ answer, moment.answer = .line answer ∧ later = files ∧
      (Moment.mk transfer moment.asked answer moment.answered).Valid := by
  obtain ⟨⟨command, _, progress⟩, asked, answer, answered⟩ := moment
  obtain rfl := transfers
  obtain ⟨allowed, prompt⟩ := valid
  have answers : ∃ reply, answer = .line reply ∧ later = files ∧
      (Session.action transfer asked).Allows reply := by
    simp only [action, Job.action] at allowed
    generalize Session.action transfer asked = action at allowed
    cases action with
    | proceed =>
        cases allowed
        exact ⟨_, rfl, rfl, .proceeded⟩
    | read timeout =>
        cases allowed with
        | read _ allowed => exact ⟨_, rfl, rfl, allowed⟩
    | write bytes =>
        cases allowed with
        | written _ allowed => exact ⟨_, rfl, rfl, allowed⟩
    | stop => cases allowed
  obtain ⟨reply, rfl, same, allowed⟩ := answers
  exact ⟨reply, rfl, same, allowed, fun internal => prompt (congrArg JobAnswer.line internal)⟩

theorem Valid.of_closing {completion : Completion} (valid : moment.Valid files later)
    (closes : moment.job.stage = .closing completion) :
    moment.answer = .closed ∧ later = files := by
  obtain ⟨⟨command, _, progress⟩, asked, answer, answered⟩ := moment
  obtain rfl := closes
  cases valid.allowed
  exact ⟨rfl, rfl⟩

theorem Valid.of_storing {name : String} {image : List UInt8} (valid : moment.Valid files later)
    (stores : moment.job.stage = .storing name image) :
    moment.answer = .stored (.ok ()) ∧ files.write name image = .ok later ∨
      ∃ error, moment.answer = .stored (.error error) ∧ files.write name image = .error error ∧
        later = files := by
  obtain ⟨⟨command, _, progress⟩, asked, answer, answered⟩ := moment
  obtain rfl := stores
  cases valid.allowed with
  | stored writes => exact .inl ⟨rfl, writes⟩
  | unstored fails => exact .inr ⟨_, rfl, fails, rfl⟩

theorem Valid.not_of_ended {ending : Ending} (stops : moment.job.stage = .ended ending) :
    ¬ moment.Valid files later := by
  obtain ⟨⟨command, _, progress⟩, asked, answer, answered⟩ := moment
  obtain rfl := stops
  intro valid
  cases valid.allowed

end Inversion

/-- What a transfer does at a moment of its job. -/
def transfer? (moment : JobMoment) : Option (Moment (Transfer Float) Float) :=
  match moment.job.stage, moment.answer with
  | .transferring transfer, .line answer =>
      some ⟨transfer, moment.asked, answer, moment.answered⟩
  | _, _ => none

end JobMoment

/-- The report in some output. -/
def Output.report? : Output → Option Report
  | report result => some result
  | note _ | failure _ => none

namespace Job

/-- What the transfer of a job did in some moments of the job. -/
def talk (moments : List JobMoment) : List (Moment (Transfer Float) Float) :=
  moments.filterMap JobMoment.transfer?

/-- What a job reported in some moments. -/
def reports (moments : List JobMoment) : List Report :=
  (moments.flatMap JobMoment.output).filterMap Output.report?

/-- The moments of a job from its first state to another one, in order, and what becomes of the
files. -/
inductive Undertakes (first : Job) (files : Files) : List JobMoment → Job → Files → Prop
  | nothing : Undertakes first files [] first files
  | step {moments : List JobMoment} {moment : JobMoment} {before later : Files} :
      Undertakes first files moments moment.job before → moment.Valid before later →
      Undertakes first files (moments ++ [moment]) moment.after later

section Laws

variable {first second third : Job} {files others later : Files} {front back : List JobMoment}
  {moment : JobMoment}

theorem talk_append_singleton (moments : List JobMoment) :
    talk (moments ++ [moment]) = talk moments ++ moment.transfer?.toList := by
  cases same : moment.transfer? <;> simp [talk, same]

theorem reports_append_singleton (moments : List JobMoment) :
    reports (moments ++ [moment]) =
      reports moments ++ moment.output.filterMap Output.report? := by
  simp [reports]

theorem Undertakes.trans (before : first.Undertakes files front second others)
    (after : second.Undertakes others back third later) :
    first.Undertakes files (front ++ back) third later := by
  induction after with
  | nothing => simpa using before
  | step _ valid undertakes =>
      rw [← List.append_assoc]
      exact .step undertakes valid

end Laws
end Job

namespace Rehearsal

theorem fst_write (port : ScriptedPort Float) (bytes : List UInt8) :
    (port.write bytes).1 = port.line.write.1 := by
  unfold ScriptedPort.write
  split
  rename_i answer line writes
  cases answer <;> exact (congrArg Prod.fst writes).symm

/-- A command with a standard input, a port, no files, and any amount of memory. -/
def ofPort (input : List UInt8) (port : ScriptedPort Float) (command : Command) : Rehearsal :=
  ⟨.start command, .ofList [], input, port, [], fun _ => true⟩

/-- The moment at which a rehearsal moves; nothing when its job is over. -/
def moment? (rehearsal : Rehearsal) : Option JobMoment :=
  let now := rehearsal.port.now
  match rehearsal.job.action now with
  | .stop => none
  | .proceed => some ⟨rehearsal.job, now, .line .proceeded, now⟩
  | .readFile name => some ⟨rehearsal.job, now, .input (rehearsal.files.read name), now⟩
  | .readInput => some ⟨rehearsal.job, now, .input (.ok rehearsal.input), now⟩
  | .openPort _ _ => some ⟨rehearsal.job, now, .opened rehearsal.port.opening, now⟩
  | .reserve bytes => some ⟨rehearsal.job, now, .reserved (rehearsal.memory bytes), now⟩
  | .read timeout =>
      let (answer, port) := rehearsal.port.read timeout
      some ⟨rehearsal.job, now, .line answer, port.now⟩
  | .write bytes =>
      let (answer, port) := rehearsal.port.write bytes
      some ⟨rehearsal.job, now, .line answer, port.now⟩
  | .closePort => some ⟨rehearsal.job, now, .closed, now⟩
  | .writeFile name bytes =>
      match rehearsal.files.write name bytes with
      | .ok _ => some ⟨rehearsal.job, now, .stored (.ok ()), now⟩
      | .error error => some ⟨rehearsal.job, now, .stored (.error error), now⟩

/-- Whether a moment leads from one rehearsal to another one. -/
structure Leads (before : Rehearsal) (moment : JobMoment) (after : Rehearsal) : Prop where
  shown_eq : before.moment? = some moment
  valid : moment.Valid before.files after.files
  job_eq : moment.job = before.job
  after_eq : moment.after = after.job
  output_eq : after.shown = moment.output.reverse ++ before.shown

theorem leads_of_allows {before : Rehearsal} (state : Rehearsal) {answer : JobAnswer}
    (job_eq : state.job = before.job) (shown_eq : state.shown = before.shown)
    (met : before.moment? = some ⟨before.job, before.port.now, answer, state.port.now⟩)
    (allowed : (before.job.action before.port.now).Allows before.files answer state.files)
    (prompt : answer = .line .proceeded → state.port.now = before.port.now) :
    ∃ moment, before.Leads moment (state.answer answer) := by
  refine ⟨_, met, ⟨allowed, prompt⟩, rfl, ?_, ?_⟩
  · simp only [JobMoment.after, Rehearsal.answer, job_eq]
  · simp only [JobMoment.output, Rehearsal.answer, job_eq, shown_eq]

/-- What a rehearsal does next is a moment of its job. -/
theorem exists_leads {rehearsal after : Rehearsal} (moves : rehearsal.next = some after) :
    ∃ moment, rehearsal.Leads moment after := by
  unfold next at moves
  split at moves
  case h_1 => cases moves
  case h_2 acts =>
    obtain rfl := Option.some.inj moves
    refine leads_of_allows rehearsal rfl rfl (by simp only [moment?, acts]) ?_ fun _ => rfl
    rw [acts]
    exact .proceeded
  case h_3 name acts =>
    obtain rfl := Option.some.inj moves
    refine leads_of_allows rehearsal rfl rfl (by simp only [moment?, acts]) ?_ nofun
    rw [acts]
    exact .loaded name
  case h_4 acts =>
    obtain rfl := Option.some.inj moves
    refine leads_of_allows rehearsal rfl rfl (by simp only [moment?, acts]) ?_ nofun
    rw [acts]
    exact .input rehearsal.input
  case h_5 name settings acts =>
    obtain rfl := Option.some.inj moves
    refine leads_of_allows { rehearsal with port := _ } rfl rfl
      (by simp only [moment?, acts]; rfl) ?_ nofun
    rw [acts]
    exact .opened name settings _
  case h_6 bytes acts =>
    obtain rfl := Option.some.inj moves
    refine leads_of_allows rehearsal rfl rfl (by simp only [moment?, acts]) ?_ nofun
    rw [acts]
    exact .reserved bytes _
  case h_7 timeout acts =>
    have allowed : (Action.read timeout).Allows (rehearsal.port.read timeout).1 :=
      Run.allows_readItems ..
    have met : rehearsal.moment? = some ⟨rehearsal.job, rehearsal.port.now,
        .line (rehearsal.port.read timeout).1, (rehearsal.port.read timeout).2.now⟩ := by
      simp only [moment?, acts]
    generalize rehearsal.port.read timeout = reading at moves allowed met
    obtain ⟨answer, port⟩ := reading
    obtain rfl := Option.some.inj moves
    refine leads_of_allows { rehearsal with port := port } rfl rfl met ?_ ?_
    · rw [acts]
      exact .read timeout allowed
    · rintro ⟨⟩
      cases allowed
  case h_8 bytes acts =>
    have allowed : (.write bytes : Action Float).Allows (rehearsal.port.write bytes).1 := by
      rw [fst_write]
      exact Run.allows_write bytes rehearsal.port.line
    have met : rehearsal.moment? = some ⟨rehearsal.job, rehearsal.port.now,
        .line (rehearsal.port.write bytes).1, (rehearsal.port.write bytes).2.now⟩ := by
      simp only [moment?, acts]
    generalize rehearsal.port.write bytes = writing at moves allowed met
    obtain ⟨answer, port⟩ := writing
    obtain rfl := Option.some.inj moves
    refine leads_of_allows { rehearsal with port := port } rfl rfl met ?_ ?_
    · rw [acts]
      exact .written bytes allowed
    · rintro ⟨⟩
      cases allowed
  case h_9 acts =>
    obtain rfl := Option.some.inj moves
    refine leads_of_allows { rehearsal with port := _ } rfl rfl
      (by simp only [moment?, acts]; rfl) ?_ nofun
    rw [acts]
    exact .closed
  case h_10 name bytes acts =>
    split at moves
    · rename_i files writes
      obtain rfl := Option.some.inj moves
      refine leads_of_allows { rehearsal with files := files } rfl rfl
        (by simp only [moment?, acts, writes]) ?_ nofun
      rw [acts]
      exact .stored writes
    · rename_i error fails
      obtain rfl := Option.some.inj moves
      refine leads_of_allows rehearsal rfl rfl (by simp only [moment?, acts, fails]) ?_ nofun
      rw [acts]
      exact .unstored fails

/-- A rehearsal after at most some number of moves. -/
def advance : Nat → Rehearsal → Rehearsal
  | 0, rehearsal => rehearsal
  | count + 1, rehearsal =>
      match rehearsal.next with
      | none => rehearsal
      | some rehearsal => advance count rehearsal

/-- The moments of at most some number of moves. -/
def course : Nat → Rehearsal → List JobMoment
  | 0, _ => []
  | count + 1, rehearsal =>
      match rehearsal.next with
      | none => []
      | some after => rehearsal.moment?.toList ++ course count after

/-- The moves of a rehearsal are an undertaking of its job. -/
theorem undertakes_course (count : Nat) (rehearsal : Rehearsal) :
    rehearsal.job.Undertakes rehearsal.files (rehearsal.course count) (rehearsal.advance count).job
        (rehearsal.advance count).files ∧
      (rehearsal.advance count).shown.reverse =
        rehearsal.shown.reverse ++ (rehearsal.course count).flatMap JobMoment.output := by
  induction count generalizing rehearsal with
  | zero => exact ⟨.nothing, by simp [advance, course]⟩
  | succ count induction =>
      unfold advance course
      cases moves : rehearsal.next with
      | none => exact ⟨.nothing, by simp⟩
      | some between =>
          obtain ⟨moment, met, valid, begins, leads, shows⟩ := exists_leads moves
          obtain ⟨undertakes, more⟩ := induction between
          have before : rehearsal.job.Undertakes rehearsal.files [] moment.job rehearsal.files :=
            begins ▸ .nothing
          rw [← leads] at undertakes
          simp only [met, Option.toList_some]
          exact ⟨(before.step valid).trans undertakes, by simp [more, shows]⟩

theorem exists_undertakes_advance (count : Nat) (rehearsal : Rehearsal) :
    ∃ moments, rehearsal.job.Undertakes rehearsal.files moments (rehearsal.advance count).job
        (rehearsal.advance count).files ∧
      (rehearsal.advance count).shown.reverse =
        rehearsal.shown.reverse ++ moments.flatMap JobMoment.output :=
  ⟨_, undertakes_course count rehearsal⟩

theorem eq_advance_of_complete {fuel : Nat} {rehearsal final : Rehearsal}
    (completes : rehearsal.complete fuel = some final) : final = rehearsal.advance fuel := by
  induction fuel generalizing rehearsal with
  | zero => cases completes
  | succ fuel induction =>
      cases moves : rehearsal.next with
      | none =>
          rw [complete, moves] at completes
          rw [advance, moves]
          exact (Option.some.inj completes).symm
      | some between =>
          rw [complete, moves] at completes
          rw [advance, moves]
          exact induction completes

theorem exists_undertakes {fuel : Nat} {rehearsal final : Rehearsal}
    (completes : rehearsal.complete fuel = some final) :
    ∃ moments, rehearsal.job.Undertakes rehearsal.files moments final.job final.files ∧
      final.shown.reverse = rehearsal.shown.reverse ++ moments.flatMap JobMoment.output := by
  rw [eq_advance_of_complete completes]
  exact exists_undertakes_advance fuel rehearsal

end Rehearsal
end Xmodem.CommandLine
