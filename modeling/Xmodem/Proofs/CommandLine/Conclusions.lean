import Xmodem.Proofs.CommandLine.Stages

/-!
# How a job ends

A job ends with success when everything is sent or stored, with a failure of a file, of the port or
of the transfer when that is what it met, and with an error that nobody handles in the cases that it
overlooks.  Each of these endings is decided at one moment, and nothing that comes later changes it.
-/

namespace Xmodem.CommandLine

namespace JobMoment

/-- Whether a moment brings a transfer to its end. -/
def Concludes (moment : JobMoment) (outcome : Outcome) : Prop :=
  ∃ transfer answer, moment.job.stage = .transferring transfer ∧ moment.answer = .line answer ∧
    Session.outcome? (transfer.next moment.answered answer).1 = some outcome

/-- Whether everything is done that a command asks for. -/
inductive Achieves (command : Command) (moment : JobMoment) : Prop
  | poured {source : List UInt8} :
      moment.job.stage = .writing source → moment.answer = .line .written → Achieves command moment
  | sent {connection : Connection} {input : Option String} {bytes : Nat} :
      command = .send connection input false → moment.Concludes (.ok bytes) →
      Achieves command moment
  | stored {name : String} {image : List UInt8} :
      moment.job.stage = .storing name image → moment.answer = .stored (.ok ()) →
      Achieves command moment

/-- Whether a file cannot be read or written. -/
inductive LacksFile (moment : JobMoment) : Prop
  | unread {input : Option String} {error : FileError} :
      moment.job.stage = .loading input → moment.answer = .input (.error error) → LacksFile moment
  | unstored {name : String} {image : List UInt8} {error : FileError} :
      moment.job.stage = .storing name image → moment.answer = .stored (.error error) →
      LacksFile moment

/-- Whether it is time to ask for the port of a connection. -/
inductive Demands (moment : JobMoment) : Command → Connection → Prop
  | send {connection : Connection} {input : Option String} {raw : Bool} {source : List UInt8} :
      moment.job.stage = .loading input → moment.answer = .input (.ok source) →
      Demands moment (.send connection input raw) connection
  | receive {connection : Connection} {reception : Reception} :
      moment.job.stage = .idle → Demands moment (.receive connection reception) connection

/-- Whether the port cannot be opened, or cannot be written without the protocol. -/
inductive LacksPort (command : Command) (moment : JobMoment) : Prop
  | refused {connection : Connection} {error : SettingsError} :
      moment.Demands command connection → connection.settings = .error (.refused error) →
      LacksPort command moment
  | unopened {source : List UInt8} {port : String} {settings : SerialSettings Float}
      {error : OpeningError} :
      moment.job.stage = .opening source port settings → moment.answer = .opened (.error error) →
      LacksPort command moment
  | spilled {source : List UInt8} {message : String} :
      moment.job.stage = .writing source → moment.answer = .line (.fault (.port message)) →
      LacksPort command moment

/-- Whether it is time for a transfer: the port is open, and there is memory for what is to be
received. -/
inductive Prepared (moment : JobMoment) : Command → Prop
  | send {connection : Connection} {input : Option String} {source : List UInt8} {port : String}
      {settings : SerialSettings Float} :
      moment.job.stage = .opening source port settings → moment.answer = .opened (.ok ()) →
      Prepared moment (.send connection input false)
  | receive {connection : Connection} {reception : Reception} {destination : Destination} :
      moment.job.stage = .reserving destination → moment.answer = .reserved true →
      Prepared moment (.receive connection reception)

/-- Whether something happens that a job does not handle: a switch was left blank, a name cannot be
that of a file, the limits, the capacity or the length cannot be used, there is no memory for the
destination, or a write without the protocol fails for a reason that is not one of the port. -/
inductive Overlooks (command : Command) (moment : JobMoment) : Escape → Prop
  | refused {error : Escape} :
      moment.job.stage = .idle → command = .refuse error → Overlooks command moment error
  | misnamed : moment.job.stage = .idle → command.Misnames → Overlooks command moment .zeroInName
  | blank {connection : Connection} {switch : BlankSwitch} :
      moment.Demands command connection → connection.settings = .error (.blank switch) →
      Overlooks command moment (.blank switch)
  | exceeded {connection : Connection} {reception : Reception} {source : List UInt8}
      {port : String} {settings : SerialSettings Float} {error : CapacityError} :
      command = .receive connection reception →
      moment.job.stage = .opening source port settings → moment.answer = .opened (.ok ()) →
      Destination.ofCapacity? reception.capacity 0 = .error error →
      Overlooks command moment (.capacity error)
  | starved {destination : Destination} :
      moment.job.stage = .reserving destination → moment.answer = .reserved false →
      Overlooks command moment (.capacity .noMemory)
  | abandoned {connection : Connection} {reception : Reception} {destination : Destination}
      {error : Escape} :
      command = .receive connection reception → moment.job.stage = .reserving destination →
      moment.answer = .reserved true → connection.policy = .error error →
      Overlooks command moment error
  | rejected {error : Escape} :
      moment.Prepared command → command.Rejects error →
      Overlooks command moment error
  | spoiled {source : List UInt8} {fault : Fault} :
      moment.job.stage = .writing source → moment.answer = .line (.fault fault) →
      (∀ message, fault ≠ .port message) → Overlooks command moment (.fault fault)
  | withheld {bytes : Nat} {error : Escape} :
      moment.Concludes (.ok bytes) → command.Withholds error → Overlooks command moment error

/-- Whether a moment decides how a job ends. -/
def Decides (command : Command) (moment : JobMoment) : Ending → Prop
  | .exit .success => moment.Achieves command
  | .exit .fileFailure => moment.LacksFile
  | .exit .portFailure => moment.LacksPort command
  | .exit .transferFailure => ∃ failure, moment.Concludes (.error failure)
  | .escape error => moment.Overlooks command error

end JobMoment

namespace Job

/-- Whether it is settled how a job ends. -/
inductive Settles (command : Command) : Stage → Ending → Prop
  | ended (ending : Ending) : Settles command (.ended ending) ending
  | leaving (ending : Ending) : Settles command (.closing (.ended ending)) ending
  | sent (bytes : Nat) : Settles command (.closing (.sent bytes)) (.exit .success)
  | received (image : List UInt8) {error : Escape} :
      command.Withholds error → Settles command (.closing (.received image)) (.escape error)

section Steps

variable {now : Float} {command : Command} {before later : Stage} {answer : JobAnswer}
  {ending : Ending} {moment : JobMoment}

theorem Settles.turn (settles : Settles command before ending)
    (turns : Turns now command before answer later) : Settles command later ending := by
  cases settles with
  | ended => cases turns
  | leaving =>
      cases turns with
      | leave => exact .ended ending
  | sent =>
      cases turns with
      | report => exact .ended _
  | received _ withholds =>
      cases turns with
      | withhold also =>
          rw [withholds.unique also]
          exact .ended _
      | store given fit =>
          cases withholds with
          | blank left => cases given.symm.trans left
          | misnamed same unfit =>
              cases given.symm.trans same
              cases fit.symm.trans unfit

/-- The end of a transfer is followed by what its outcome calls for. -/
theorem settles_of_concludes {outcome : Outcome} (concludes : moment.Concludes outcome)
    (turns : Turns moment.answered command moment.job.stage moment.answer later) :
    (∃ failure, outcome = .error failure ∧ later = .closing (.ended (.exit .transferFailure))) ∨
    (∃ connection input bytes, command = .send connection input false ∧ outcome = .ok bytes ∧
      later = .closing (.sent bytes)) ∨
    ∃ connection reception bytes image, command = .receive connection reception ∧
      outcome = .ok bytes ∧ later = .closing (.received image) := by
  obtain ⟨transfer, answer, transfers, answers, finished⟩ := concludes
  rw [transfers, answers] at turns
  cases turns with
  | transfer unfinished => cases unfinished.symm.trans finished
  | fail same =>
      obtain rfl := Option.some.inj (same.symm.trans finished)
      exact .inl ⟨_, rfl, rfl⟩
  | send same =>
      obtain rfl := Option.some.inj (same.symm.trans finished)
      exact .inr (.inl ⟨_, _, _, rfl, rfl, rfl⟩)
  | receive same =>
      obtain rfl := Option.some.inj (same.symm.trans finished)
      exact .inr (.inr ⟨_, _, _, _, rfl, rfl, rfl⟩)

theorem asked_of_demands {connection : Connection} (demands : moment.Demands command connection)
    (turns : Turns moment.answered command moment.job.stage moment.answer later) :
    ∃ source, Asked connection source later := by
  cases demands with
  | send loads answers =>
      rw [loads, answers] at turns
      cases turns with
      | read asked => exact ⟨_, asked⟩
  | receive idle =>
      rw [idle] at turns
      generalize moment.answer = answer at turns
      cases turns with
      | misname misnames => cases misnames
      | ask asked => exact ⟨_, asked⟩

theorem settles_of_achieves (achieves : moment.Achieves command)
    (turns : Turns moment.answered command moment.job.stage moment.answer later) :
    Settles command later (.exit .success) := by
  cases achieves with
  | poured writes answers =>
      rw [writes, answers] at turns
      cases turns with
      | poured => exact .sent _
  | sent commands concludes =>
      obtain ⟨_, outcome_eq, -⟩ | ⟨_, _, bytes, -, -, rfl⟩ | ⟨_, _, _, _, receives, -⟩ :=
        settles_of_concludes concludes turns
      · cases outcome_eq
      · exact .sent bytes
      · cases commands.symm.trans receives
  | stored stores answers =>
      rw [stores, answers] at turns
      cases turns with
      | stored => exact .ended _

theorem settles_of_lacksFile (lacks : moment.LacksFile)
    (turns : Turns moment.answered command moment.job.stage moment.answer later) :
    Settles command later (.exit .fileFailure) := by
  cases lacks with
  | unread loads answers =>
      rw [loads, answers] at turns
      cases turns with
      | unread => exact .ended _
  | unstored stores answers =>
      rw [stores, answers] at turns
      cases turns with
      | unstored => exact .ended _

theorem settles_of_lacksPort (lacks : moment.LacksPort command)
    (turns : Turns moment.answered command moment.job.stage moment.answer later) :
    Settles command later (.exit .portFailure) := by
  cases lacks with
  | refused demands refused =>
      obtain ⟨_, asked⟩ := asked_of_demands demands turns
      cases asked with
      | opening accepted => cases refused.symm.trans accepted
      | refused => exact .ended _
      | blank left => cases refused.symm.trans left
  | unopened opens answers =>
      rw [opens, answers] at turns
      cases turns with
      | unopened => exact .ended _
  | spilled writes answers =>
      rw [writes, answers] at turns
      cases turns with
      | spill => exact .leaving _
      | spoil other => exact absurd rfl (other _)

/-- Choices that are rejected when it is time for a transfer settle the ending. -/
theorem settles_of_rejects {error : Escape} (prepared : moment.Prepared command)
    (rejects : command.Rejects error)
    (turns : Turns moment.answered command moment.job.stage moment.answer later) :
    Settles command later (.escape error) := by
  cases prepared with
  | send opens answers =>
      rw [opens, answers] at turns
      cases turns with
      | reject also =>
          rw [rejects.unique also]
          exact .leaving _
      | conduct _ accepts => exact absurd rejects (accepts error)
  | receive reserves answers =>
      rw [reserves, answers] at turns
      cases turns with
      | abandon possible refused =>
          exact absurd rejects (Command.Abandons.policy possible refused).not_rejects
      | rejectReception also =>
          rw [rejects.unique also]
          exact .leaving _
      | conductReception _ accepts => exact absurd rejects (accepts error)

theorem settles_of_overlooks {error : Escape} (overlooks : moment.Overlooks command error)
    (turns : Turns moment.answered command moment.job.stage moment.answer later) :
    Settles command later (.escape error) := by
  cases overlooks with
  | refused idle commands =>
      rw [idle, commands] at turns
      generalize moment.answer = answer at turns
      cases turns with
      | refuse => exact .ended _
      | misname misnames => cases misnames
  | misnamed idle misnames =>
      rw [idle] at turns
      generalize moment.answer = answer at turns
      cases turns with
      | refuse | ask => cases misnames
      | misname => exact .ended _
      | load named => exact absurd misnames named
  | blank demands left =>
      obtain ⟨_, asked⟩ := asked_of_demands demands turns
      cases asked with
      | opening accepted => cases left.symm.trans accepted
      | refused refused => cases left.symm.trans refused
      | blank same =>
          cases left.symm.trans same
          exact .ended _
  | exceeded commands opens answers impossible =>
      rw [commands, opens, answers] at turns
      cases turns with
      | exceed same =>
          cases impossible.symm.trans same
          exact .ended _
      | reserve possible => cases impossible.symm.trans possible
  | starved reserves answers =>
      rw [reserves, answers] at turns
      cases turns with
      | lack => exact .ended _
  | abandoned commands reserves answers refused =>
      rw [commands, reserves, answers] at turns
      cases turns with
      | abandon _ same =>
          cases refused.symm.trans same
          exact .ended _
      | rejectReception rejects =>
          cases rejects with
          | blankLength _ accepted | length _ accepted => cases refused.symm.trans accepted
      | conductReception conducts =>
          cases conducts with
          | receive _ accepted => cases refused.symm.trans accepted
  | rejected prepared rejects => exact settles_of_rejects prepared rejects turns
  | spoiled writes answers other =>
      rw [writes, answers] at turns
      cases turns with
      | spill => exact absurd rfl (other _)
      | spoil => exact .leaving _
  | withheld concludes withholds =>
      obtain ⟨_, outcome_eq, -⟩ | ⟨_, _, _, sends, -⟩ | ⟨_, _, _, image, -, -, rfl⟩ :=
        settles_of_concludes concludes turns
      · cases outcome_eq
      · subst sends
        cases withholds
      · exact .received image withholds

theorem settles_of_decides (decides : moment.Decides command ending)
    (turns : Turns moment.answered command moment.job.stage moment.answer later) :
    Settles command later ending := by
  cases ending with
  | exit status =>
      cases status with
      | success => exact settles_of_achieves decides turns
      | fileFailure => exact settles_of_lacksFile decides turns
      | portFailure => exact settles_of_lacksPort decides turns
      | transferFailure =>
          obtain ⟨failure, concludes⟩ := decides
          obtain ⟨_, -, rfl⟩ | ⟨_, _, _, -, outcome_eq, -⟩ | ⟨_, _, _, _, -, outcome_eq, -⟩ :=
            settles_of_concludes concludes turns
          · exact .leaving _
          · cases outcome_eq
          · cases outcome_eq
  | escape error => exact settles_of_overlooks decides turns

/-- What is settled after a moment was settled before, unless the moment decides it. -/
theorem decides_of_settles
    (turns : Turns moment.answered command moment.job.stage moment.answer later)
    (settles : Settles command later ending) :
    Settles command moment.job.stage ending ∨ moment.Decides command ending := by
  obtain ⟨⟨owner, before, progress⟩, asked, answer, answered⟩ := moment
  change Turns answered command before answer later at turns
  cases turns with
  | refuse =>
      cases settles
      exact .inr (.refused rfl rfl)
  | misname misnames =>
      cases settles
      exact .inr (.misnamed rfl misnames)
  | load | reserve | conductReception | pour | conduct | transfer | store => cases settles
  | unread =>
      cases settles
      exact .inr (.unread rfl rfl)
  | read also =>
      cases also with
      | opening => cases settles
      | refused refused =>
          cases settles
          exact .inr (.refused (.send rfl rfl) refused)
      | blank left =>
          cases settles
          exact .inr (.blank (.send rfl rfl) left)
  | ask also =>
      cases also with
      | opening => cases settles
      | refused refused =>
          cases settles
          exact .inr (.refused (.receive rfl) refused)
      | blank left =>
          cases settles
          exact .inr (.blank (.receive rfl) left)
  | unopened =>
      cases settles
      exact .inr (.unopened rfl rfl)
  | exceed impossible =>
      cases settles
      exact .inr (.exceeded rfl rfl rfl impossible)
  | lack =>
      cases settles
      exact .inr (.starved rfl rfl)
  | abandon _ refused =>
      cases settles
      exact .inr (.abandoned rfl rfl rfl refused)
  | rejectReception rejects =>
      cases settles
      exact .inr (.rejected (.receive rfl rfl) rejects)
  | reject rejects =>
      cases settles
      exact .inr (.rejected (.send rfl rfl) rejects)
  | poured =>
      cases settles
      exact .inr (.poured rfl rfl)
  | spill =>
      cases settles
      exact .inr (.spilled rfl rfl)
  | spoil other =>
      cases settles
      exact .inr (.spoiled rfl rfl other)
  | fail finished =>
      cases settles
      exact .inr ⟨_, _, _, rfl, rfl, finished⟩
  | send finished =>
      cases settles
      exact .inr (.sent rfl ⟨_, _, rfl, rfl, finished⟩)
  | receive finished =>
      cases settles with
      | received _ withholds => exact .inr (.withheld ⟨_, _, rfl, rfl, finished⟩ withholds)
  | leave =>
      cases settles
      exact .inl (.leaving ending)
  | report =>
      cases settles
      exact .inl (.sent _)
  | withhold withholds =>
      cases settles
      exact .inl (.received _ withholds)
  | stored =>
      cases settles
      exact .inr (.stored rfl rfl)
  | unstored =>
      cases settles
      exact .inr (.unstored rfl rfl)

/-- What is settled is what was decided at some moment. -/
theorem settles_iff_decided {files after : Files} {moments : List JobMoment} {final : Job}
    (needs : command.NeedsPort)
    (undertakes : (start command).Undertakes files moments final after) (ending : Ending) :
    (∃ moment ∈ moments, moment.Decides command ending) ↔
      Settles command final.stage ending := by
  refine holds_of_undertakes (fun moments stage =>
    (∃ moment ∈ moments, moment.Decides command ending) ↔ Settles command stage ending)
    (iff_of_false (by simp) nofun) ?_ needs undertakes
  intro moments moment _ _ before _ turns
  simp only [List.mem_append, List.mem_singleton, or_and_right, exists_or, exists_eq_left, before]
  constructor
  · rintro (settles | decides)
    · exact settles.turn turns
    · exact settles_of_decides decides turns
  · exact decides_of_settles turns

end Steps

section Ending

variable {arguments : List String} {invocation : Invocation} {files later : Files}
  {moments : List JobMoment} {final : Job} {ending : Ending}

/-- What a command ends with.  It succeeds exactly when everything is sent or stored.  Its exit
status tells of a file, of the port, or of the transfer exactly when that failed.  It ends with an
error that is not handled exactly when it overlooks something: however the port behaves while a
transfer runs, that is not one of those cases. -/
theorem ending_iff_decided (understood : Invocation.ofArguments arguments = .ok invocation)
    (asks : Invocation.AsksForPort arguments)
    (undertakes : (start invocation.command).Undertakes files moments final later)
    (ends : final.ending? = some ending) :
    (ending = .exit .success ↔ ∃ moment ∈ moments, moment.Achieves invocation.command) ∧
    (ending = .exit .fileFailure ↔ ∃ moment ∈ moments, moment.LacksFile) ∧
    (ending = .exit .portFailure ↔ ∃ moment ∈ moments, moment.LacksPort invocation.command) ∧
    (ending = .exit .transferFailure ↔
      ∃ moment ∈ moments, ∃ failure, moment.Concludes (.error failure)) ∧
    (∀ error, ending = .escape error ↔
      ∃ moment ∈ moments, moment.Overlooks invocation.command error) ∧
    ((∃ status, ending = .exit status) ↔
      ¬ ∃ moment ∈ moments, ∃ error, moment.Overlooks invocation.command error) := by
  have needs := Invocation.needsPort_of_asksForPort understood asks
  have decided (other : Ending) :
      ending = other ↔ ∃ moment ∈ moments, moment.Decides invocation.command other := by
    rw [settles_iff_decided needs undertakes, ending?_eq_some_iff.mp ends]
    constructor
    · rintro rfl
      exact .ended ending
    · rintro ⟨⟩
      rfl
  refine ⟨decided _, decided _, decided _, decided _, fun error => decided _, ?_⟩
  constructor
  · rintro ⟨status, rfl⟩ ⟨moment, met, error, overlooks⟩
    cases (decided (.escape error)).mpr ⟨moment, met, overlooks⟩
  · intro careful
    cases ending with
    | exit status => exact ⟨status, rfl⟩
    | escape error =>
        obtain ⟨moment, met, overlooks⟩ := (decided (.escape error)).mp rfl
        exact absurd ⟨moment, met, error, overlooks⟩ careful

/-- A port that does not exist is no reason for more than an exit status. -/
theorem exit_of_missing_port :
    let arguments := ["recv", "tty0", "--out", "o", "--cap", "1"]
    ∃ invocation moments final later,
      Invocation.ofArguments arguments = .ok invocation ∧ Invocation.AsksForPort arguments ∧
      (start invocation.command).Undertakes (.ofList []) moments final later ∧
      final.ending? = some (.exit .portFailure) ∧
      (∃ moment ∈ moments, moment.LacksPort invocation.command) ∧
      ¬ ∃ moment ∈ moments, ∃ error, moment.Overlooks invocation.command error := by
  intro arguments
  obtain ⟨invocation, moments, final, later, understood, undertakes, passed⟩ :=
    @exists_rehearsed arguments [] ⟨.error (.port "no such port"), ⟨[], none, [], 0⟩, 0, []⟩ 5
      (fun job _ => job.ending? = some (.exit .portFailure)) (by decide +kernel)
  have ends := of_decide_eq_true passed
  have asks : Invocation.AsksForPort arguments :=
    ⟨.given .info, false, "recv", arguments.tail, rfl, .inr rfl⟩
  obtain ⟨-, -, missing, -, -, careful⟩ := ending_iff_decided understood asks undertakes ends
  exact ⟨invocation, moments, final, later, understood, asks, undertakes, ends, missing.mp rfl,
    careful.mp ⟨_, rfl⟩⟩

/-- A write without the protocol that fails for a reason which is not one of the port is not
handled. -/
theorem escape_of_raw_write :
    let arguments := ["send", "tty0", "-r"]
    let error := Escape.fault (.system "plain failure")
    ∃ invocation moments final later,
      Invocation.ofArguments arguments = .ok invocation ∧ Invocation.AsksForPort arguments ∧
      (start invocation.command).Undertakes (.ofList []) moments final later ∧
      final.ending? = some (.escape error) := by
  intro arguments error
  obtain ⟨invocation, moments, final, later, understood, undertakes, passed⟩ :=
    @exists_rehearsed arguments [0]
      ⟨.ok (), ⟨[], none, [(0, .system "plain failure")], 0⟩, 0, []⟩ 5
      (fun job _ => job.ending? = some (.escape error)) (by decide +kernel)
  have asks : Invocation.AsksForPort arguments :=
    ⟨.given .info, false, "send", arguments.tail, rfl, .inl rfl⟩
  exact ⟨invocation, moments, final, later, understood, asks, undertakes,
    of_decide_eq_true passed⟩

end Ending
end Job
end Xmodem.CommandLine
