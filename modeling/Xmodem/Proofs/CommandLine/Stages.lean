import Xmodem.Proofs.CommandLine.Commands
import Xmodem.Proofs.CommandLine.Undertaking
import Xmodem.Proofs.Transfers

/-!
# Stages of a job

Which stage of a job follows which one depends on its command and on the answers that it gets.
Choices that cannot be used are told apart by the stage at which they are noticed: at the beginning,
when the port is open but not yet certain to be closed, when it is certain to be closed, or when
there is an image to store.  All that a job can do is said once, in `Job.Turns`.
-/

namespace Xmodem.CommandLine

namespace Command

/-- Whether a file that is to be sent has a name that no file can have. -/
inductive Misnames : Command → Prop
  | send {connection : Connection} {name : String} {raw : Bool} :
      Job.nameable name = false → Misnames (.send connection (some name) raw)

/-- Choices that are noticed once the port is open, before it is certain to be closed. -/
inductive Abandons : Command → Escape → Prop
  | capacity {connection : Connection} {reception : Reception} {error : CapacityError} :
      Destination.ofCapacity? reception.capacity 0 = .error error →
      Abandons (.receive connection reception) (.capacity error)
  | policy {connection : Connection} {reception : Reception} {destination : Destination}
      {error : Escape} :
      Destination.ofCapacity? reception.capacity 0 = .ok destination →
      connection.policy = .error error → Abandons (.receive connection reception) error

/-- Choices that are noticed once the port is open and certain to be closed. -/
inductive Rejects : Command → Escape → Prop
  | policy {connection : Connection} {input : Option String} {error : Escape} :
      connection.policy = .error error → Rejects (.send connection input false) error
  | blankLength {connection : Connection} {reception : Reception} {destination : Destination}
      {policy : RetryPolicy Float} :
      Destination.ofCapacity? reception.capacity 0 = .ok destination →
      connection.policy = .ok policy → reception.expectedLength = some .blank →
      Rejects (.receive connection reception) (.blank .expectedLength)
  | length {connection : Connection} {reception : Reception} {destination : Destination}
      {policy : RetryPolicy Float} {length : Int} :
      Destination.ofCapacity? reception.capacity 0 = .ok destination →
      connection.policy = .ok policy → reception.expectedLength = some (.given length) →
      ¬ (0 ≤ length ∧ length ≤ destination.capacity) →
      Rejects (.receive connection reception)
        (.destination (.lengthDoesNotFit length destination.capacity))

/-- Choices that are noticed once there is an image to store. -/
inductive Withholds : Command → Escape → Prop
  | blank {connection : Connection} {reception : Reception} :
      reception.output = .blank → Withholds (.receive connection reception) (.blank .output)
  | misnamed {connection : Connection} {reception : Reception} {name : String} :
      reception.output = .given name → Job.nameable name = false →
      Withholds (.receive connection reception) .zeroInName

/-- Whether a command leads to a transfer. -/
inductive Conducts : Command → Transfer Float → Prop
  | send {connection : Connection} {input : Option String} {sender : Sender Float} :
      Conducts (.send connection input false) (.sending sender)
  | receive {connection : Connection} {reception : Reception} {destination : Destination}
      {policy : RetryPolicy Float} {transfer : Transfer Float} :
      Destination.ofCapacity? reception.capacity 0 = .ok destination →
      connection.policy = .ok policy → transfer.destination?.isSome →
      Conducts (.receive connection reception) transfer

section Choices

variable {command : Command} {error other : Escape} {transfer : Transfer Float}

theorem Abandons.not_rejects (abandons : command.Abandons error) : ¬ command.Rejects other := by
  intro rejects
  cases abandons with
  | capacity impossible =>
      cases rejects with
      | blankLength possible | length possible => cases impossible.symm.trans possible
  | policy _ refused =>
      cases rejects with
      | blankLength _ accepted | length _ accepted => cases refused.symm.trans accepted

theorem Abandons.not_conducts (abandons : command.Abandons error) :
    ¬ command.Conducts transfer := by
  intro conducts
  cases abandons with
  | capacity impossible =>
      cases conducts with
      | receive possible => cases impossible.symm.trans possible
  | policy _ refused =>
      cases conducts with
      | receive _ accepted => cases refused.symm.trans accepted

theorem Rejects.unique (first : command.Rejects error) (second : command.Rejects other) :
    error = other := by
  cases first with
  | policy refused =>
      cases second with
      | policy same => exact Except.error.inj (refused.symm.trans same)
  | blankLength _ _ left =>
      cases second with
      | blankLength => rfl
      | length _ _ given => cases left.symm.trans given
  | length possible _ given =>
      cases second with
      | blankLength _ _ left => cases given.symm.trans left
      | length same _ also =>
          cases possible.symm.trans same
          cases given.symm.trans also
          rfl

theorem Withholds.unique (first : command.Withholds error) (second : command.Withholds other) :
    error = other := by
  cases first with
  | blank left =>
      cases second with
      | blank => rfl
      | misnamed given => cases left.symm.trans given
  | misnamed given =>
      cases second with
      | blank left => cases given.symm.trans left
      | misnamed => rfl

theorem Conducts.next (conducts : command.Conducts transfer) (now : Float) (answer : Answer) :
    command.Conducts (transfer.next now answer).1 := by
  cases conducts with
  | send => exact .send
  | receive possible accepted receives =>
      refine .receive possible accepted ?_
      cases transfer with
      | sending => cases receives
      | receiving | booting => rfl

end Choices
end Command

namespace Job

/-- What follows when a job asks for the port of a connection. -/
inductive Asked (connection : Connection) (source : List UInt8) : Stage → Prop
  | opening {settings : SerialSettings Float} :
      connection.settings = .ok settings →
      Asked connection source (.opening source connection.port settings)
  | refused {error : SettingsError} :
      connection.settings = .error (.refused error) →
      Asked connection source (.ended (.exit .portFailure))
  | blank {switch : BlankSwitch} :
      connection.settings = .error (.blank switch) →
      Asked connection source (.ended (.escape (.blank switch)))

/-- Which stages a command can come to. -/
inductive Suits : Command → Stage → Prop
  | idle {command : Command} : command.NeedsPort → Suits command .idle
  | loading {connection : Connection} {input : Option String} {raw : Bool} :
      Suits (.send connection input raw) (.loading input)
  | opening {command : Command} {source : List UInt8} {port : String}
      {settings : SerialSettings Float} :
      (start command).connection?.isSome → Suits command (.opening source port settings)
  | reserving {connection : Connection} {reception : Reception} {destination : Destination} :
      Destination.ofCapacity? reception.capacity 0 = .ok destination →
      Suits (.receive connection reception) (.reserving destination)
  | writing {connection : Connection} {input : Option String} {source : List UInt8} :
      Suits (.send connection input true) (.writing source)
  | transferring {command : Command} {transfer : Transfer Float} :
      command.Conducts transfer → Suits command (.transferring transfer)
  | leaving {command : Command} {ending : Ending} : Suits command (.closing (.ended ending))
  | sent {connection : Connection} {input : Option String} {raw : Bool} {bytes : Nat} :
      Suits (.send connection input raw) (.closing (.sent bytes))
  | received {connection : Connection} {reception : Reception} {image : List UInt8} :
      Suits (.receive connection reception) (.closing (.received image))
  | storing {connection : Connection} {reception : Reception} {name : String}
      {image : List UInt8} : Suits (.receive connection reception) (.storing name image)
  | ended {command : Command} {ending : Ending} : Suits command (.ended ending)

/-- Which stage of a job follows which one with an answer that it gets at some instant. -/
inductive Turns (now : Float) : Command → Stage → JobAnswer → Stage → Prop
  | refuse (error : Escape) :
      Turns now (.refuse error) .idle (.line .proceeded) (.ended (.escape error))
  | misname {command : Command} :
      command.Misnames → Turns now command .idle (.line .proceeded) (.ended (.escape .zeroInName))
  | load {connection : Connection} {input : Option String} {raw : Bool} :
      ¬ (Command.send connection input raw).Misnames →
      Turns now (.send connection input raw) .idle (.line .proceeded) (.loading input)
  | unread {command : Command} {input : Option String} (error : FileError) :
      Turns now command (.loading input) (.input (.error error)) (.ended (.exit .fileFailure))
  | read {connection : Connection} {input : Option String} {raw : Bool} {source : List UInt8}
      {later : Stage} :
      Asked connection source later →
      Turns now (.send connection input raw) (.loading input) (.input (.ok source)) later
  | ask {connection : Connection} {reception : Reception} {later : Stage} :
      Asked connection [] later →
      Turns now (.receive connection reception) .idle (.line .proceeded) later
  | unopened {command : Command} {source : List UInt8} {port : String}
      {settings : SerialSettings Float} (error : OpeningError) :
      Turns now command (.opening source port settings) (.opened (.error error))
        (.ended (.exit .portFailure))
  | exceed {connection : Connection} {reception : Reception} {source : List UInt8} {port : String}
      {settings : SerialSettings Float} {error : CapacityError} :
      Destination.ofCapacity? reception.capacity 0 = .error error →
      Turns now (.receive connection reception) (.opening source port settings) (.opened (.ok ()))
        (.ended (.escape (.capacity error)))
  | reserve {connection : Connection} {reception : Reception} {source : List UInt8} {port : String}
      {settings : SerialSettings Float} {destination : Destination} :
      Destination.ofCapacity? reception.capacity 0 = .ok destination →
      Turns now (.receive connection reception) (.opening source port settings) (.opened (.ok ()))
        (.reserving destination)
  | lack {command : Command} {destination : Destination} :
      Turns now command (.reserving destination) (.reserved false)
        (.ended (.escape (.capacity .noMemory)))
  | abandon {connection : Connection} {reception : Reception} {destination : Destination}
      {error : Escape} :
      Destination.ofCapacity? reception.capacity 0 = .ok destination →
      connection.policy = .error error →
      Turns now (.receive connection reception) (.reserving destination) (.reserved true)
        (.ended (.escape error))
  | rejectReception {connection : Connection} {reception : Reception} {destination : Destination}
      {error : Escape} :
      (Command.receive connection reception).Rejects error →
      Turns now (.receive connection reception) (.reserving destination) (.reserved true)
        (.closing (.ended (.escape error)))
  | conductReception {connection : Connection} {reception : Reception}
      {destination : Destination} {transfer : Transfer Float} :
      (Command.receive connection reception).Conducts transfer →
      (∀ error, ¬ (Command.receive connection reception).Rejects error) →
      Turns now (.receive connection reception) (.reserving destination) (.reserved true)
        (.transferring transfer)
  | reject {connection : Connection} {input : Option String} {source : List UInt8} {port : String}
      {settings : SerialSettings Float} {error : Escape} :
      (Command.send connection input false).Rejects error →
      Turns now (.send connection input false) (.opening source port settings) (.opened (.ok ()))
        (.closing (.ended (.escape error)))
  | pour {connection : Connection} {input : Option String} {source : List UInt8} {port : String}
      {settings : SerialSettings Float} :
      Turns now (.send connection input true) (.opening source port settings) (.opened (.ok ()))
        (.writing source)
  | conduct {connection : Connection} {input : Option String} {source : List UInt8} {port : String}
      {settings : SerialSettings Float} {transfer : Transfer Float} :
      (Command.send connection input false).Conducts transfer →
      (∀ error, ¬ (Command.send connection input false).Rejects error) →
      Turns now (.send connection input false) (.opening source port settings) (.opened (.ok ()))
        (.transferring transfer)
  | poured {command : Command} {source : List UInt8} :
      Turns now command (.writing source) (.line .written) (.closing (.sent source.length))
  | spill {command : Command} {source : List UInt8} (message : String) :
      Turns now command (.writing source) (.line (.fault (.port message)))
        (.closing (.ended (.exit .portFailure)))
  | spoil {command : Command} {source : List UInt8} {fault : Fault} :
      (∀ message, fault ≠ .port message) →
      Turns now command (.writing source) (.line (.fault fault))
        (.closing (.ended (.escape (.fault fault))))
  | transfer {command : Command} {before : Transfer Float} {answer : Answer} :
      Session.outcome? (before.next now answer).1 = none →
      Turns now command (.transferring before) (.line answer)
        (.transferring (before.next now answer).1)
  | fail {command : Command} {before : Transfer Float} {answer : Answer}
      {failure : Failure} :
      Session.outcome? (before.next now answer).1 = some (.error failure) →
      Turns now command (.transferring before) (.line answer)
        (.closing (.ended (.exit .transferFailure)))
  | send {connection : Connection} {input : Option String} {before : Transfer Float}
      {answer : Answer} {bytes : Nat} :
      Session.outcome? (before.next now answer).1 = some (.ok bytes) →
      Turns now (.send connection input false) (.transferring before) (.line answer)
        (.closing (.sent bytes))
  | receive {connection : Connection} {reception : Reception} {before : Transfer Float}
      {answer : Answer} {bytes : Nat} {image : List UInt8} :
      Session.outcome? (before.next now answer).1 = some (.ok bytes) →
      Turns now (.receive connection reception) (.transferring before) (.line answer)
        (.closing (.received image))
  | leave {command : Command} {ending : Ending} :
      Turns now command (.closing (.ended ending)) .closed (.ended ending)
  | report {command : Command} {bytes : Nat} :
      Turns now command (.closing (.sent bytes)) .closed (.ended (.exit .success))
  | withhold {command : Command} {image : List UInt8} {error : Escape} :
      command.Withholds error →
      Turns now command (.closing (.received image)) .closed (.ended (.escape error))
  | store {connection : Connection} {reception : Reception} {name : String}
      {image : List UInt8} :
      reception.output = .given name → nameable name = true →
      Turns now (.receive connection reception) (.closing (.received image)) .closed
        (.storing name image)
  | stored {command : Command} {name : String} {image : List UInt8} :
      Turns now command (.storing name image) (.stored (.ok ())) (.ended (.exit .success))
  | unstored {command : Command} {name : String} {image : List UInt8} (error : FileError) :
      Turns now command (.storing name image) (.stored (.error error)) (.ended (.exit .fileFailure))

/-- A job keeps its command and goes on with a stage that follows. -/
structure Goes (now : Float) (command : Command) (before : Stage) (answer : JobAnswer)
    (later : Job) : Prop where
  command_eq : later.command = command
  suits : Suits command later.stage
  turns : Turns now command before answer later.stage

section Moving

variable {job : Job} {now : Float} {command : Command} {before stage : Stage} {answer : JobAnswer}
  {output : List Output} {connection : Connection} {reception : Reception}

theorem goes_enter (commands : job.command = command) (suits : Suits command stage)
    (turns : Turns now command before answer stage) :
    Goes now command before answer (job.enter stage output).1 :=
  ⟨commands, suits, turns⟩

theorem exists_asked (job : Job) (connection : Connection) (source : List UInt8) :
    ∃ stage output, job.ask connection source = job.enter stage output ∧
      Asked connection source stage := by
  unfold ask
  split
  · rename_i settings accepted
    exact ⟨_, _, rfl, .opening accepted⟩
  · rename_i error refused
    exact ⟨_, _, rfl, .refused refused⟩
  · rename_i switch left
    exact ⟨_, _, rfl, .blank left⟩

theorem Asked.suits {source : List UInt8} (asked : Asked connection source stage)
    (connects : (start command).connection?.isSome) : Suits command stage := by
  cases asked with
  | opening => exact .opening connects
  | refused | blank => exact .ended

theorem goes_begin (needs : command.NeedsPort) (commands : job.command = command) :
    Goes now command .idle (.line .proceeded) job.begin.1 := by
  unfold begin
  rw [commands]
  cases command with
  | send connection input raw =>
      cases input with
      | none => exact goes_enter commands .loading (.load nofun)
      | some name =>
          cases fit : nameable name with
          | true =>
              simp only [Option.all_some, fit, if_true]
              refine goes_enter commands .loading (.load ?_)
              rintro ⟨unfit⟩
              cases fit.symm.trans unfit
          | false =>
              simp only [Option.all_some, fit, Bool.false_eq_true, if_false]
              exact goes_enter commands .ended (.misname (.send fit))
  | receive connection reception =>
      obtain ⟨stage, output, asks, asked⟩ := job.exists_asked connection []
      simp only [asks]
      exact goes_enter commands (asked.suits rfl) (.ask asked)
  | measure => exact needs.elim
  | refuse error => exact goes_enter commands .ended (.refuse error)

theorem goes_loaded {input : Option String} {raw : Bool}
    (commands : job.command = .send connection input raw)
    (result : Except FileError (List UInt8)) :
    Goes now (.send connection input raw) (.loading input) (.input result)
      (job.loaded result).1 := by
  cases result with
  | error error => exact goes_enter commands .ended (.unread error)
  | ok source =>
      obtain ⟨stage, output, asks, asked⟩ := job.exists_asked connection source
      simp only [loaded, connection?, commands, asks]
      exact goes_enter commands (asked.suits rfl) (.read asked)

theorem goes_startSending {input : Option String} {raw : Bool} {source : List UInt8}
    {port : String} {settings : SerialSettings Float}
    (commands : job.command = .send connection input raw) :
    Goes now (.send connection input raw) (.opening source port settings) (.opened (.ok ()))
      (job.startSending connection raw source now output).1 := by
  unfold startSending
  cases raw with
  | true => exact goes_enter commands .writing .pour
  | false =>
      simp only [Bool.false_eq_true, if_false]
      split
      · rename_i error refused
        exact goes_enter commands .leaving (.reject (.policy refused))
      · rename_i accepted
        refine goes_enter commands (.transferring .send) (.conduct .send ?_)
        rintro _ ⟨refused⟩
        cases accepted.symm.trans refused

/-- Once capacity and limits are accepted, a length is rejected if the receiver refuses it. -/
theorem rejects_iff_of_length {destination : Destination} {policy : RetryPolicy Float}
    {length : Option Int} {error : Escape}
    (possible : Destination.ofCapacity? reception.capacity 0 = .ok destination)
    (accepted : connection.policy = .ok policy)
    (known : reception.expectedLength = length.map .given) :
    (Command.receive connection reception).Rejects error ↔
      (Receiver.open? policy reception.mode length reception.confirmEot destination
        now).mapError .destination = .error error := by
  obtain ⟨capacity, -, rfl⟩ := Destination.exists_eq_filled possible
  have writable : (Destination.filled capacity 0).readOnly = false := rfl
  cases length with
  | none =>
      simp only [Receiver.open?, writable, Bool.false_eq_true, if_false]
      constructor
      · intro rejects
        cases rejects with
        | blankLength _ _ left => cases known.symm.trans left
        | length _ _ given => cases known.symm.trans given
      · nofun
  | some length =>
      simp only [Receiver.open?, writable, Bool.false_eq_true, if_false]
      constructor
      · intro rejects
        cases rejects with
        | blankLength _ _ left => cases known.symm.trans left
        | length same _ given unfit =>
            obtain rfl := Except.ok.inj (possible.symm.trans same)
            obtain rfl := Entry.given.inj (Option.some.inj (known.symm.trans given))
            rw [if_neg unfit]
            rfl
      · intro refused
        split at refused
        · cases refused
        · rename_i unfit
          cases refused
          exact .length possible accepted known unfit

theorem goes_startSession {destination : Destination} {policy : RetryPolicy Float}
    (commands : job.command = .receive connection reception)
    (possible : Destination.ofCapacity? reception.capacity 0 = .ok destination)
    (accepted : connection.policy = .ok policy) :
    Goes now (.receive connection reception) (.reserving destination) (.reserved true)
      (job.startSession reception policy destination now).1 := by
  have conducts (receiver : Receiver Float) :
      (Command.receive connection reception).Conducts
        (if reception.repeated then .booting (.start none receiver) else .receiving receiver) := by
    refine .receive possible accepted ?_
    split <;> rfl
  have unknown_eq (unknown : reception.expectedLength = none) :
      reception.expectedLength = (none : Option Int).map .given := unknown
  have given_eq {length : Int} (given : reception.expectedLength = some (.given length)) :
      reception.expectedLength = (some length).map .given := given
  unfold startSession
  dsimp only
  split
  · rename_i error refused
    refine goes_enter commands .leaving (.rejectReception ?_)
    split at refused
    · rename_i unknown
      exact (rejects_iff_of_length possible accepted (unknown_eq unknown)).mpr refused
    · rename_i length given
      exact (rejects_iff_of_length possible accepted (given_eq given)).mpr refused
    · rename_i left
      cases refused
      exact .blankLength possible accepted left
  · rename_i receiver opens
    refine goes_enter commands (.transferring (conducts receiver))
      (.conductReception (conducts receiver) ?_)
    intro error rejects
    split at opens
    · rename_i unknown
      cases opens.symm.trans
        ((rejects_iff_of_length possible accepted (unknown_eq unknown)).mp rejects)
    · rename_i length given
      cases opens.symm.trans
        ((rejects_iff_of_length possible accepted (given_eq given)).mp rejects)
    · cases opens

theorem goes_startReceiving {source : List UInt8} {port : String}
    {settings : SerialSettings Float} (commands : job.command = .receive connection reception) :
    Goes now (.receive connection reception) (.opening source port settings) (.opened (.ok ()))
      (job.startReceiving reception output).1 := by
  unfold startReceiving
  dsimp only
  split
  · rename_i impossible
    exact goes_enter commands .ended (.exceed impossible)
  · rename_i possible
    exact goes_enter commands (.reserving possible) (.reserve possible)

theorem goes_reserved {destination : Destination}
    (commands : job.command = .receive connection reception)
    (possible : Destination.ofCapacity? reception.capacity 0 = .ok destination) (found : Bool) :
    Goes now (.receive connection reception) (.reserving destination) (.reserved found)
      (job.reserved destination now found).1 := by
  unfold reserved
  rw [commands]
  cases found with
  | false => exact goes_enter commands .ended .lack
  | true =>
      dsimp only
      split
      · rename_i refused
        exact goes_enter commands .ended (.abandon possible refused)
      · rename_i accepted
        exact goes_startSession commands possible accepted

theorem goes_opened {source : List UInt8} {port : String} {settings : SerialSettings Float}
    (connects : (start command).connection?.isSome) (commands : job.command = command)
    (result : Except OpeningError Unit) :
    Goes now command (.opening source port settings) (.opened result)
      (job.opened source port settings now result).1 := by
  unfold opened
  rw [commands]
  cases result with
  | error error => exact goes_enter commands .ended (.unopened error)
  | ok _ =>
      cases command with
      | send connection input raw => exact goes_startSending commands
      | receive connection reception => exact goes_startReceiving commands
      | measure | refuse => cases connects

theorem goes_wrote {input : Option String} {source : List UInt8} {answer : Answer}
    (commands : job.command = .send connection input true)
    (answers : (.write source : Action Float).Allows answer) :
    Goes now (.send connection input true) (.writing source) (.line answer)
      (job.wrote source answer).1 := by
  cases answers with
  | written => exact goes_enter commands .sent .poured
  | spoiled _ fault =>
      cases fault with
      | port message => exact goes_enter commands .leaving (.spill message)
      | system | closed => exact goes_enter commands .leaving (.spoil nofun)

/-- What a transfer reports changes neither the command nor the stage. -/
theorem relay_unchanged (job : Job) (now : Float) (events : List (Event Float)) :
    (job.relay now events).1.command = job.command ∧
      (job.relay now events).1.stage = job.stage := by
  induction events generalizing job with
  | nil => exact ⟨rfl, rfl⟩
  | cons event events induction =>
      cases event with
      | note note => exact induction job
      | stepped status => exact induction job
      | progress direction total =>
          unfold relay
          split
          · exact induction _
          · exact induction job

theorem goes_transferred {transfer : Transfer Float} {answer : Answer}
    (commands : job.command = command) (conducts : command.Conducts transfer) :
    Goes now command (.transferring transfer) (.line answer)
      (job.transferred transfer now answer).1 := by
  have relayed := (relay_unchanged job now (transfer.next now answer).2).1
  have later := conducts.next now answer
  unfold transferred
  dsimp only
  split
  · rename_i unfinished
    exact goes_enter (relayed.trans commands) (.transferring later) (.transfer unfinished)
  · rename_i outcome finished
    cases outcome with
    | error failure => exact goes_enter (relayed.trans commands) .leaving (.fail finished)
    | ok bytes =>
        generalize following : (transfer.next now answer).1 = after at later finished
        rw [← following] at finished
        cases later with
        | send => exact goes_enter (relayed.trans commands) .sent (.send finished)
        | receive _ _ receives =>
            obtain ⟨destination, holds⟩ := Option.isSome_iff_exists.mp receives
            simp only [completion, holds]
            exact goes_enter (relayed.trans commands) .received (.receive finished)

theorem goes_closed {completion : Completion} (commands : job.command = command)
    (suits : Suits command (.closing completion)) :
    Goes now command (.closing completion) .closed (job.closed completion).1 := by
  cases suits with
  | leaving => exact goes_enter commands .ended .leave
  | sent =>
      simp only [closed, commands]
      exact goes_enter commands .ended .report
  | received =>
      simp only [closed, commands, store]
      split
      · rename_i left
        exact goes_enter commands .ended (.withhold (.blank left))
      · rename_i name given
        split
        · rename_i fit
          exact goes_enter commands .storing (.store given fit)
        · rename_i unfit
          exact goes_enter commands .ended
            (.withhold (.misnamed given (Bool.eq_false_iff.mpr unfit)))

theorem goes_stored {name : String} {image : List UInt8} {result : Except FileError Unit}
    (commands : job.command = .receive connection reception) :
    Goes now (.receive connection reception) (.storing name image) (.stored result)
      (job.stored name image result).1 := by
  cases result with
  | error error => exact goes_enter commands .ended (.unstored error)
  | ok _ =>
      simp only [stored, connection?, commands]
      exact goes_enter commands .ended .stored

end Moving

section Running

variable {command : Command} {files later : Files} {moments : List JobMoment} {final : Job}

/-- At every moment a job goes on with a stage that follows. -/
theorem goes_of_valid {moment : JobMoment} (suits : Suits command moment.job.stage)
    (commands : moment.job.command = command) (valid : moment.Valid files later) :
    Goes moment.answered command moment.job.stage moment.answer moment.after := by
  have after_eq : moment.after = (moment.job.next moment.answered moment.answer).1 := rfl
  generalize same : moment.job.stage = stage at suits
  have standing := suits
  cases suits with
  | idle needs =>
      obtain ⟨answer_eq, -⟩ := valid.of_idle same
      simp only [after_eq, next, same, answer_eq]
      exact goes_begin needs commands
  | loading =>
      obtain ⟨result, answer_eq⟩ := valid.of_loading same
      simp only [after_eq, next, same, answer_eq]
      exact goes_loaded commands result
  | opening connects =>
      obtain ⟨result, answer_eq, -⟩ := valid.of_opening same
      simp only [after_eq, next, same, answer_eq]
      exact goes_opened connects commands result
  | reserving possible =>
      obtain ⟨found, answer_eq, -⟩ := valid.of_reserving same
      simp only [after_eq, next, same, answer_eq]
      exact goes_reserved commands possible found
  | writing =>
      obtain ⟨answer, answer_eq, allowed⟩ := valid.of_writing same
      simp only [after_eq, next, same, answer_eq]
      exact goes_wrote commands allowed
  | transferring conducts =>
      obtain ⟨answer, answer_eq, -⟩ := valid.of_transferring same
      simp only [after_eq, next, same, answer_eq]
      exact goes_transferred commands conducts
  | leaving | sent | received =>
      obtain ⟨answer_eq, -⟩ := valid.of_closing same
      simp only [after_eq, next, same, answer_eq]
      exact goes_closed commands standing
  | storing =>
      obtain ⟨answer_eq, -⟩ | ⟨error, answer_eq, -⟩ := valid.of_storing same
      · simp only [after_eq, next, same, answer_eq]
        exact goes_stored commands
      · simp only [after_eq, next, same, answer_eq]
        exact goes_stored commands
  | ended => exact absurd valid (JobMoment.Valid.not_of_ended same)

/-- What holds when a job begins, and is kept from each stage to one that follows, holds all the
time. -/
theorem holds_of_undertakes (property : List JobMoment → Stage → Prop)
    (begins : property [] .idle)
    (keeps : ∀ (moments : List JobMoment) (moment : JobMoment) (files later : Files),
      property moments moment.job.stage → moment.Valid files later →
      Turns moment.answered command moment.job.stage moment.answer moment.after.stage →
      property (moments ++ [moment]) moment.after.stage)
    (needs : command.NeedsPort)
    (undertakes : (start command).Undertakes files moments final later) :
    property moments final.stage := by
  have standing : final.command = command ∧ Suits command final.stage ∧
      property moments final.stage := by
    induction undertakes with
    | nothing => exact ⟨rfl, .idle needs, begins⟩
    | step _ valid induction =>
        obtain ⟨commands, suits, holds⟩ := induction
        obtain ⟨command_eq, suits_still, turns⟩ := goes_of_valid suits commands valid
        exact ⟨command_eq, suits_still, keeps _ _ _ _ holds valid turns⟩
  exact standing.2.2

theorem ending?_eq_some_iff {job : Job} {ending : Ending} :
    job.ending? = some ending ↔ job.stage = .ended ending := by
  unfold ending?
  split
  · rename_i same
    rw [same, Option.some.injEq, Stage.ended.injEq]
  · rename_i other
    simp only [reduceCtorEq, false_iff]
    exact other ending

/-- What is checked of the first moves with a port holds of an undertaking. -/
theorem exists_rehearsed {arguments : List String} (input : List UInt8)
    (port : ScriptedPort Float) (count : Nat) (check : Job → List JobMoment → Bool)
    (passes : (Invocation.ofArguments arguments).toOption.any (fun invocation =>
      let rehearsal := Rehearsal.ofPort input port invocation.command
      check (rehearsal.advance count).job (rehearsal.course count)) = true) :
    ∃ invocation moments final later, Invocation.ofArguments arguments = .ok invocation ∧
      (start invocation.command).Undertakes (.ofList []) moments final later ∧
      check final moments = true := by
  obtain ⟨invocation, understood, passed⟩ := (Option.any_eq_true ..).mp passes
  have undertakes := ((Rehearsal.ofPort input port invocation.command).undertakes_course count).1
  exact ⟨invocation, _, _, _, toOption_eq_some_iff.mp understood, undertakes, passed⟩

end Running
end Job
end Xmodem.CommandLine
