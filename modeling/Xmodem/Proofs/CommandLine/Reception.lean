import Xmodem.Proofs.CommandLine.Commands
import Xmodem.Proofs.CommandLine.Undertaking
import Xmodem.Proofs.Transfers

/-!
# Receiving into a file

A command to receive writes its file when its transfer is complete, and only then.  The file gets
the payloads that the last session accepted, cut at the number of bytes that is reported.  However
the job ends otherwise, all files are as before.
-/

namespace Xmodem.CommandLine

/-- What a job begins to receive with. -/
structure Preparation (connection : Connection) (reception : Reception) where
  /-- Limits and timeouts. -/
  policy : RetryPolicy Float
  /-- True length of the image, when it is known. -/
  expectedLength : Option Int
  /-- Number of bytes that fit. -/
  capacity : Nat
  /-- When the first session was set up. -/
  begun : Float
  policy_eq : connection.policy = .ok policy
  expectedLength_eq : reception.expectedLength = expectedLength.map .given
  capacity_eq : reception.capacity = capacity

namespace Preparation

variable {connection : Connection} {reception : Reception}

/-- The choices for all sessions. -/
def setup (preparation : Preparation connection reception) : Receiver.Setup Float where
  policy := preparation.policy
  mode := reception.mode
  expectedLength := preparation.expectedLength.map Int.toNat
  confirmEot := reception.confirmEot

/-- Where the bytes go. -/
def destination (preparation : Preparation connection reception) : Destination :=
  .filled preparation.capacity 0

/-- The transfer that is begun. -/
def transfer (preparation : Preparation connection reception) : Transfer Float :=
  .ofReceiver reception.repeated
    (.start preparation.setup preparation.destination preparation.begun)

theorem capacity_destination (preparation : Preparation connection reception) :
    preparation.destination.capacity = preparation.capacity :=
  Nat.zero_add _

end Preparation

/-- The sessions of a job that receives: those that failed, and the last one. -/
structure Account (connection : Connection) (reception : Reception)
    (talk : List (Moment (Transfer Float) Float)) extends Preparation connection reception where
  /-- The sessions that failed. -/
  earlier : List (Sitting Float)
  /-- The last session. -/
  current : Sitting Float
  sittings : Sittings toPreparation.setup toPreparation.destination begun earlier current
  /-- What the transfer did is what its sessions did, one after the other. -/
  moments_eq : talk.filterMap Transfer.inner? =
    earlier.flatMap Sitting.moments ++ current.moments
  single : reception.repeated = false → earlier = []

/-- The payloads that the last session accepted, one after the other. -/
def Account.payloads {connection : Connection} {reception : Reception}
    {talk : List (Moment (Transfer Float) Float)} (account : Account connection reception talk) :
    List UInt8 :=
  Packets.payloads (Receiver.accepted (account.current.moments.map Receiver.deed))

/-- Whether a transfer is complete at the end of its conversation, with some number of bytes. -/
def Completes (talk : List (Moment (Transfer Float) Float)) (count : Nat) : Prop :=
  Ends (fun _ moment => Session.outcome? moment.after = some (.ok count)) talk

/-- Whether a transfer is not complete. -/
def Incomplete (talk : List (Moment (Transfer Float) Float)) : Prop :=
  ∀ count, ¬ Completes talk count

theorem incomplete_nil : Incomplete [] :=
  fun _ => not_ends_nil _

/-- Whether the last session of a job was complete, and some bytes are what it received. -/
structure Brings (connection : Connection) (reception : Reception)
    (talk : List (Moment (Transfer Float) Float)) (image : List UInt8) : Prop where
  completes : Completes talk image.length
  account : ∃ account : Account connection reception talk,
    account.current.last.outcome? = some (.ok image.length) ∧ image.length ≤ account.capacity ∧
      image = account.payloads.take image.length

/-- Whether a command is to receive into a file of some name, or is refused. -/
inductive Command.ReceivesInto (name : String) : Command → Prop
  | receive {connection : Connection} {reception : Reception} :
      reception.output = .given name → ReceivesInto name (.receive connection reception)
  | refuse (error : Escape) : ReceivesInto name (.refuse error)

/-- The endings of a job that has nothing to store: the port or the transfer failed, or an error was
not handled. -/
def Ending.Fails (ending : Ending) : Prop :=
  ending = .exit .portFailure ∨ ending = .exit .transferFailure ∨ ∃ error, ending = .escape error

theorem Ending.fails_escape (error : Escape) : (escape error).Fails :=
  .inr (.inr ⟨error, rfl⟩)

/-- What remains to be done once the port is closed. -/
def Stage.completion? : Stage → Option Completion
  | closing completion => some completion
  | _ => none

theorem Stage.eq_closing {stage : Stage} {completion : Completion}
    (closes : stage.completion? = some completion) : stage = .closing completion := by
  unfold completion? at closes
  split at closes
  · rw [Option.some.inj closes]
  · cases closes

namespace Job

/-- Where a job stands that is to receive into a file, with what its transfer did, what it reported,
and the files as they are. -/
inductive Standing (name : String) (files : Files) :
    Command → List (Moment (Transfer Float) Float) → List Report → Stage → Files → Prop
  | idle {command : Command} : Standing name files command [] [] .idle files
  | opening {connection : Connection} {reception : Reception} {source : List UInt8}
      {port : String} {settings : SerialSettings Float} :
      Standing name files (.receive connection reception) [] []
        (.opening source port settings) files
  | reserving {connection : Connection} {reception : Reception} {destination : Destination} :
      Destination.ofCapacity? reception.capacity 0 = .ok destination →
      Standing name files (.receive connection reception) [] [] (.reserving destination) files
  | transferring {connection : Connection} {reception : Reception}
      {talk : List (Moment (Transfer Float) Float)} {transfer : Transfer Float}
      (preparation : Preparation connection reception) :
      Converses preparation.transfer talk transfer → Incomplete talk →
      Standing name files (.receive connection reception) talk [] (.transferring transfer) files
  | leaving {command : Command} {talk : List (Moment (Transfer Float) Float)} {ending : Ending} :
      ending.Fails → Incomplete talk →
      Standing name files command talk [] (.closing (.ended ending)) files
  | received {connection : Connection} {reception : Reception}
      {talk : List (Moment (Transfer Float) Float)} {image : List UInt8} :
      Brings connection reception talk image →
      Standing name files (.receive connection reception) talk [] (.closing (.received image)) files
  | storing {connection : Connection} {reception : Reception}
      {talk : List (Moment (Transfer Float) Float)} {image : List UInt8} :
      Brings connection reception talk image →
      Standing name files (.receive connection reception) talk [] (.storing name image) files
  | failed {command : Command} {talk : List (Moment (Transfer Float) Float)} {ending : Ending} :
      ending.Fails → Incomplete talk →
      Standing name files command talk [] (.ended ending) files
  | stored {connection : Connection} {reception : Reception}
      {talk : List (Moment (Transfer Float) Float)} {image : List UInt8} {later : Files} :
      Brings connection reception talk image → files.write name image = .ok later →
      Standing name files (.receive connection reception) talk
        [.received connection.port image.length name] (.ended (.exit .success)) later

section Moves

variable {job : Job} {now : Float} {name : String} {files later : Files} {output : List Output}
  {connection : Connection} {reception : Reception} {command : Command} {stage : Stage}
  {talk : List (Moment (Transfer Float) Float)}

/-- Whether a job stands somewhere after a move, when it has reported nothing before. -/
structure Moves (name : String) (files : Files) (command : Command)
    (talk : List (Moment (Transfer Float) Float)) (result : Job × List Output) (later : Files) :
    Prop where
  command_eq : result.1.command = command
  stands : Standing name files command talk (result.2.filterMap Output.report?) result.1.stage
    later

theorem moves_enter (commands : job.command = command)
    (quiet : output.filterMap Output.report? = [])
    (stands : Standing name files command talk [] stage later) :
    Moves name files command talk (job.enter stage output) later :=
  ⟨commands, quiet.symm ▸ stands⟩

theorem moves_ask (commands : job.command = .receive connection reception) :
    Moves name files (.receive connection reception) [] (job.ask connection []) files := by
  unfold ask
  split
  · exact moves_enter commands rfl .opening
  · exact moves_enter commands rfl (.failed (.inl rfl) incomplete_nil)
  · exact moves_enter commands rfl (.failed (Ending.fails_escape _) incomplete_nil)

theorem moves_begin (receives : command.ReceivesInto name) (commands : job.command = command) :
    Moves name files command [] job.begin files := by
  unfold begin
  rw [commands]
  cases receives with
  | receive _ => exact moves_ask commands
  | refuse error =>
      exact moves_enter commands rfl (.failed (Ending.fails_escape error) incomplete_nil)

theorem moves_startSession {policy : RetryPolicy Float} {capacity : Nat}
    (commands : job.command = .receive connection reception)
    (policy_eq : connection.policy = .ok policy) (capacity_eq : reception.capacity = capacity) :
    Moves name files (.receive connection reception) []
      (job.startSession reception policy (.filled capacity 0) now) files := by
  unfold startSession
  dsimp only
  split
  · exact moves_enter commands rfl (.leaving (Ending.fails_escape _) incomplete_nil)
  · rename_i receiver prepares
    refine moves_enter commands rfl ?_
    have opens : ∃ length : Option Int, reception.expectedLength = length.map .given ∧
        Receiver.open? policy reception.mode length reception.confirmEot (.filled capacity 0) now =
          .ok receiver := by
      split at prepares
      · exact ⟨none, ‹_›, mapError_eq_ok.mp prepares⟩
      · exact ⟨some _, ‹_›, mapError_eq_ok.mp prepares⟩
      · cases prepares
    obtain ⟨length, length_eq, opens⟩ := opens
    obtain rfl := Receiver.eq_start_of_open? opens
    let preparation : Preparation connection reception :=
      ⟨policy, length, capacity, now, policy_eq, length_eq, capacity_eq⟩
    exact .transferring preparation .silent incomplete_nil

theorem openingNote_quiet (port : String) (settings : SerialSettings Float) :
    (openingNote port settings).filterMap Output.report? = [] := by
  unfold openingNote
  split <;> rfl

theorem moves_reserved {destination : Destination}
    (commands : job.command = .receive connection reception)
    (possible : Destination.ofCapacity? reception.capacity 0 = .ok destination) (found : Bool) :
    Moves name files (.receive connection reception) [] (job.reserved destination now found)
      files := by
  unfold reserved
  rw [commands]
  cases found with
  | false => exact moves_enter commands rfl (.failed (Ending.fails_escape _) incomplete_nil)
  | true =>
      dsimp only
      split
      · exact moves_enter commands rfl (.failed (Ending.fails_escape _) incomplete_nil)
      · rename_i policy_eq
        obtain ⟨capacity, capacity_eq, rfl⟩ := Destination.exists_eq_filled possible
        exact moves_startSession commands policy_eq capacity_eq

theorem moves_startReceiving (commands : job.command = .receive connection reception)
    (quiet : output.filterMap Output.report? = []) :
    Moves name files (.receive connection reception) [] (job.startReceiving reception output)
      files := by
  unfold startReceiving
  have still_quiet : (if reception.expectedLength.isNone = true then
      output ++ [.note .lengthUnknown] else output).filterMap Output.report? = [] := by
    split
    · rw [List.filterMap_append, quiet]
      rfl
    · exact quiet
  generalize (if reception.expectedLength.isNone = true then
    output ++ [.note .lengthUnknown] else output) = output at still_quiet ⊢
  dsimp only
  split
  · exact moves_enter commands still_quiet (.failed (Ending.fails_escape _) incomplete_nil)
  · rename_i possible
    exact moves_enter commands still_quiet (.reserving possible)

theorem moves_opened {source : List UInt8} {port : String} {settings : SerialSettings Float}
    (commands : job.command = .receive connection reception)
    (result : Except OpeningError Unit) :
    Moves name files (.receive connection reception) []
      (job.opened source port settings now result) files := by
  unfold opened
  rw [commands]
  cases result with
  | error error => exact moves_enter commands rfl (.failed (.inl rfl) incomplete_nil)
  | ok _ => exact moves_startReceiving commands (openingNote_quiet port settings)

theorem relay_quiet (job : Job) (now : Float) (events : List (Event Float)) :
    (job.relay now events).1.command = job.command ∧
      (job.relay now events).2.filterMap Output.report? = [] := by
  induction events generalizing job with
  | nil => exact ⟨rfl, rfl⟩
  | cons event events induction =>
      cases event with
      | note note => exact induction job
      | stepped status => exact induction job
      | progress direction total =>
          unfold relay
          split
          · exact induction _
          · exact induction job

/-- A transfer that is complete brought what its last session accepted. -/
theorem exists_brings {transfer : Transfer Float} {count : Nat}
    (preparation : Preparation connection reception)
    (talks : Converses preparation.transfer talk transfer)
    (finished : Session.outcome? transfer = some (.ok count)) (completes : Completes talk count) :
    ∃ image, Brings connection reception talk image ∧
      completion transfer (.ok count) = (.received image, []) := by
  obtain ⟨earlier, current, sittings, moments_eq, single, outcome_eq, destination_eq⟩ :=
    Transfer.exists_sittings talks
  have succeeded := outcome_eq.symm.trans finished
  obtain ⟨fits, length_eq, image_eq⟩ := sittings.slice_eq succeeded
  let account : Account connection reception talk :=
    { preparation with
      earlier := earlier
      current := current
      sittings := sittings
      moments_eq := moments_eq
      single := single }
  rw [preparation.capacity_destination] at fits
  refine ⟨current.last.destination.slice 0 count, ⟨?_, account, ?_⟩, ?_⟩
  · rwa [length_eq]
  · rw [length_eq]
    exact ⟨succeeded, fits, image_eq⟩
  · simp only [completion, destination_eq]

/-- What a transfer does leads to what it does next, or to what remains to be done after it. -/
theorem moves_transferred {transfer : Transfer Float} {asked : Float} {answer : Answer}
    (commands : job.command = .receive connection reception)
    (preparation : Preparation connection reception)
    (talks : Converses preparation.transfer talk transfer)
    (valid : (Moment.mk transfer asked answer now).Valid) :
    Moves name files (.receive connection reception) (talk ++ [⟨transfer, asked, answer, now⟩])
      (job.transferred transfer now answer) files := by
  obtain ⟨relayed, quiet⟩ := relay_quiet job now (transfer.next now answer).2
  have goes_on : Converses preparation.transfer (talk ++ [⟨transfer, asked, answer, now⟩])
      (transfer.next now answer).1 := talks.step valid
  have completes_iff (count : Nat) : Completes (talk ++ [⟨transfer, asked, answer, now⟩]) count ↔
      Session.outcome? (transfer.next now answer).1 = some (.ok count) :=
    ends_append_singleton ..
  unfold transferred
  dsimp only
  split
  · rename_i unfinished
    refine moves_enter (relayed.trans commands) quiet (.transferring preparation goes_on ?_)
    intro count completes
    rw [completes_iff, unfinished] at completes
    cases completes
  · rename_i outcome finished
    cases outcome with
    | error failure =>
        refine moves_enter (relayed.trans commands) ?_ (.leaving (.inr (.inl rfl)) ?_)
        · rw [List.filterMap_append, quiet]
          rfl
        · intro count completes
          rw [completes_iff, finished] at completes
          cases completes
    | ok count =>
        obtain ⟨image, brings, kept⟩ :=
          exists_brings preparation goes_on finished ((completes_iff count).mpr finished)
        rw [kept]
        refine moves_enter (relayed.trans commands) ?_ (.received brings)
        rw [List.append_nil, quiet]

theorem closed_received (commands : job.command = .receive connection reception)
    (output : reception.output = .given name) (fit : nameable name = true) (image : List UInt8) :
    job.closed (.received image) = job.enter (.storing name image) [] := by
  simp only [closed, commands, store, output, fit, if_true]

theorem moves_closed {completion : Completion} (receives : command.ReceivesInto name)
    (fit : nameable name = true) (commands : job.command = command)
    (stands : Standing name files command talk [] (.closing completion) later) :
    Moves name files command talk (job.closed completion) later := by
  cases stands with
  | leaving fails incomplete => exact moves_enter commands rfl (.failed fails incomplete)
  | @received _ _ _ image brings =>
      cases receives with
      | receive output =>
          rw [closed_received commands output fit]
          exact moves_enter commands rfl (.storing brings)

theorem moves_stored {image : List UInt8} (brings : Brings connection reception talk image)
    (writes : files.write name image = .ok later)
    (commands : job.command = .receive connection reception) :
    Moves name files (.receive connection reception) talk (job.stored name image (.ok ()))
      later := by
  simp only [stored, connection?, commands]
  exact ⟨commands, .stored brings writes⟩

end Moves

section Running

variable {name : String} {files between later : Files} {command : Command}
  {talked : List (Moment (Transfer Float) Float)} {reported : List Report} {moment : JobMoment}

theorem Standing.moves (receives : command.ReceivesInto name) (fit : nameable name = true)
    (writable : ∀ image, ∃ stored, files.write name image = .ok stored)
    (commands : moment.job.command = command)
    (stands : Standing name files command talked reported moment.job.stage between)
    (valid : moment.Valid between later) :
    reported = [] ∧ Moves name files command (talked ++ moment.transfer?.toList)
      (moment.job.next moment.answered moment.answer) later := by
  generalize same : moment.job.stage = stage at stands
  have standing := stands
  cases stands with
  | idle =>
      obtain ⟨answer_eq, rfl⟩ := valid.of_idle same
      refine ⟨rfl, ?_⟩
      simp only [next, same, answer_eq, JobMoment.transfer?]
      exact moves_begin receives commands
  | opening =>
      obtain ⟨result, answer_eq, rfl⟩ := valid.of_opening same
      refine ⟨rfl, ?_⟩
      simp only [next, same, answer_eq, JobMoment.transfer?]
      exact moves_opened commands result
  | reserving possible =>
      obtain ⟨found, answer_eq, rfl⟩ := valid.of_reserving same
      refine ⟨rfl, ?_⟩
      simp only [next, same, answer_eq, JobMoment.transfer?]
      exact moves_reserved commands possible found
  | transferring preparation talks incomplete =>
      obtain ⟨answer, answer_eq, rfl, inner_valid⟩ := valid.of_transferring same
      refine ⟨rfl, ?_⟩
      simp only [next, same, answer_eq, JobMoment.transfer?]
      exact moves_transferred commands preparation talks inner_valid
  | leaving | received =>
      obtain ⟨answer_eq, rfl⟩ := valid.of_closing same
      refine ⟨rfl, ?_⟩
      simp only [next, same, answer_eq, JobMoment.transfer?, Option.toList_none, List.append_nil]
      exact moves_closed receives fit commands standing
  | storing brings =>
      obtain ⟨answer_eq, writes⟩ | ⟨error, -, fails, -⟩ := valid.of_storing same
      · refine ⟨rfl, ?_⟩
        simp only [next, same, answer_eq, JobMoment.transfer?, Option.toList_none, List.append_nil]
        exact moves_stored brings writes commands
      · obtain ⟨stored, writes⟩ := writable _
        cases fails.symm.trans writes
  | failed | stored => exact absurd valid (JobMoment.Valid.not_of_ended same)

/-- Whatever its surroundings do, a job stands somewhere all the time. -/
theorem standing_of_undertakes {moments : List JobMoment} {final : Job}
    (receives : command.ReceivesInto name) (fit : nameable name = true)
    (writable : ∀ image, ∃ stored, files.write name image = .ok stored)
    (undertakes : (start command).Undertakes files moments final later) :
    final.command = command ∧
      Standing name files command (talk moments) (reports moments) final.stage later := by
  induction undertakes with
  | nothing => exact ⟨rfl, .idle⟩
  | step _ valid induction =>
      obtain ⟨commands, stands⟩ := induction
      obtain ⟨unreported, command_eq, stands⟩ :=
        stands.moves receives fit writable commands valid
      rw [talk_append_singleton, reports_append_singleton, unreported, List.nil_append]
      exact ⟨command_eq, stands⟩

/-- A job that has received an image stores it and is over. -/
theorem exists_undertakes_stored {moments : List JobMoment} {job : Job} {image : List UInt8}
    (receives : command.ReceivesInto name) (fit : nameable name = true)
    (writable : ∀ image, ∃ stored, files.write name image = .ok stored)
    (undertakes : (start command).Undertakes files moments job between)
    (received : job.stage = .closing (.received image))
    (writes : files.write name image = .ok later) :
    ∃ more final, job.Undertakes between more final later ∧
      final.ending? = some (.exit .success) := by
  obtain ⟨commands, stands⟩ := standing_of_undertakes receives fit writable undertakes
  rw [received] at stands
  generalize talk moments = talked at stands
  generalize reports moments = reported at stands
  cases stands with
  | @received connection reception =>
      cases receives with
      | receive output =>
          let storing : Job := { job with stage := .storing name image }
          have closing : job.next 0 .closed = (storing, []) := by
            simp only [next, received]
            exact closed_received commands output fit image
          have ends : (storing.next 0 (.stored (.ok ()))).1.ending? = some (.exit .success) := by
            simp only [storing, next, stored, connection?, commands]
            rfl
          have closes : JobMoment.Valid files ⟨job, 0, .closed, 0⟩ files := by
            refine ⟨?_, by simp⟩
            simp only [JobMoment.action, action, received]
            exact .closed
          have stores : JobMoment.Valid files ⟨storing, 0, .stored (.ok ()), 0⟩ later :=
            ⟨.stored writes, by simp⟩
          have begins : job.Undertakes files [] job files := .nothing
          have closed : job.Undertakes files [⟨job, 0, .closed, 0⟩] storing files := by
            have same : (JobMoment.mk job 0 .closed 0).after = storing :=
              congrArg Prod.fst closing
            rw [← same]
            exact begins.step closes
          exact ⟨_, _, closed.step stores, ends⟩

end Running

section Ending

variable {arguments : List String} {invocation : Invocation} {options : Options}
  {port name : String} {files later : Files} {moments : List JobMoment} {final : Job}
  {ending : Ending}

theorem receivesInto_of_asks (understood : Invocation.ofArguments arguments = .ok invocation)
    (asks : Invocation.Asks arguments options port)
    (output : options.output = some (.given name)) :
    invocation.command.ReceivesInto name ∧
      ∀ connection reception, invocation.command = .receive connection reception →
        connection.port = port := by
  obtain ⟨_, capacity, same, -, commands⟩ | commands :=
    Invocation.command_of_asks understood asks
  · obtain rfl := Option.some.inj (same.symm.trans output)
    rw [commands]
    refine ⟨.receive rfl, fun connection reception same => ?_⟩
    rw [← (Command.receive.inj same).1]
    rfl
  · rw [commands]
    exact ⟨.refuse _, fun connection reception same => Command.noConfusion same⟩

/-- However a command to receive ends, it ends with success when its transfer is complete, and only
then.  In that case the file holds what the last session accepted, up to the number of bytes that is
reported.  Otherwise no file has changed. -/
theorem stores_iff_completes (understood : Invocation.ofArguments arguments = .ok invocation)
    (asks : Invocation.Asks arguments options port) (output : options.output = some (.given name))
    (fit : nameable name = true)
    (writable : ∀ image, ∃ stored, files.write name image = .ok stored)
    (undertakes : (start invocation.command).Undertakes files moments final later)
    (ends : final.ending? = some ending) :
    (ending = .exit .success ↔ ∃ count, Completes (talk moments) count) ∧
    (ending = .exit .success → ∃ connection reception image place,
      invocation.command = .receive connection reception ∧
      Brings connection reception (talk moments) image ∧
      reports moments = [⟨[("role", .text "receiver"), ("tty", .text port),
        ("bytes", .figure (.whole image.length)), ("out", .text name)]⟩] ∧
      files.locate name true = .ok place ∧ files.Changes place image later ∧
      (place ≠ Files.nullDevice → later.read name = .ok image)) ∧
    (ending ≠ .exit .success → ending.Fails ∧ later = files ∧ reports moments = []) := by
  obtain ⟨receives, port_eq⟩ := receivesInto_of_asks understood asks output
  obtain ⟨-, stands⟩ := standing_of_undertakes receives fit writable undertakes
  have ended : final.stage = .ended ending := by
    unfold ending? at ends
    split at ends
    · rename_i same
      rw [same, Option.some.inj ends]
    · cases ends
  rw [ended] at stands
  generalize invocation.command = command at stands port_eq ⊢
  generalize reports moments = reported at stands ⊢
  generalize talk moments = talked at stands ⊢
  cases stands with
  | failed fails incomplete =>
      have failed : ending ≠ .exit .success := by
        rintro rfl
        simp [Ending.Fails] at fails
      refine ⟨⟨fun succeeds => absurd succeeds failed, ?_⟩, fun succeeds => absurd succeeds failed,
        fun _ => ⟨fails, rfl, rfl⟩⟩
      rintro ⟨count, completes⟩
      exact absurd completes (incomplete count)
  | @stored connection reception _ image _ brings writes =>
      obtain ⟨place, located, changes, reads⟩ := Files.exists_changes writable writes
      refine ⟨⟨fun _ => ⟨_, brings.completes⟩, fun _ => rfl⟩, fun _ => ?_,
        fun fails => absurd rfl fails⟩
      refine ⟨connection, reception, image, place, rfl, brings, ?_, located, changes, reads⟩
      rw [port_eq connection reception rfl]
      rfl

/-- Three bytes arrive at the port of a command line, and get into a file that did not exist. -/
theorem stores_three_bytes :
    let arguments := ["recv", "/dev/ttyS0", "--out", "a", "--cap", "3"]
    ∃ invocation moments final later,
      Invocation.ofArguments arguments = .ok invocation ∧
      (start invocation.command).Undertakes (.ofList []) moments final later ∧
      final.ending? = some (.exit .success) ∧ (∃ count, Completes (talk moments) count) ∧
      later.read "a" = .ok [1, 2, 3] ∧
      reports moments = [⟨[("role", .text "receiver"), ("tty", .text "/dev/ttyS0"),
        ("bytes", .figure (.whole 3)), ("out", .text "a")]⟩] := by
  intro arguments
  let line : ScriptedLine Float :=
    ⟨(Frame.encode .additive (Packets.block [1, 2, 3] 0)).map .byte ++
      [.byte (Signal.byte .endOfTransmission)], none, [], 0⟩
  let rehearsal (command : Command) : Rehearsal :=
    ⟨start command, .ofList [], [], ⟨.ok (), line, 0, []⟩, [], fun _ => true⟩
  have split_eq : "a".splitOn "/" = ["a"] := by
    rw [String.splitOn, if_neg (by decide), String.splitOnAux, if_neg (by decide +kernel),
      if_neg (by decide +kernel), String.splitOnAux, if_pos (by decide +kernel)]
    decide +kernel
  have located : (Files.ofList []).locate "a" true = .ok (Files.home ++ ["a"]) := by
    refine Files.locate_eq_ok_iff.mpr ⟨by decide, by decide +kernel, by decide +kernel, Files.home,
      "a", ?_, ?_, by decide, by decide, by decide +kernel, by decide +kernel⟩
    · rw [Files.parts, split_eq]
      decide +kernel
    · rw [Files.parts, split_eq]
      decide
  have writes (image : List UInt8) : (Files.ofList []).write "a" image =
      .ok ((Files.ofList []).put (Files.home ++ ["a"]) image) := by
    simp only [Files.write, located]
    rfl
  have fit : nameable "a" = true := by simp [nameable]
  have runs : (Invocation.ofArguments arguments).toOption.any (fun invocation =>
      ((rehearsal invocation.command).advance 143).job.stage.completion? =
        some (.received [1, 2, 3])) = true := by
    decide +kernel
  have reads : (Options.receiveGrammar.read .standard arguments.tail).toOption.any (fun reading =>
      reading.1.output = some (.given "a") ∧ reading.2 = ["/dev/ttyS0"]) = true := by
    decide +kernel
  obtain ⟨invocation, understood, received⟩ := (Option.any_eq_true ..).mp runs
  obtain ⟨⟨options, operands⟩, fits, chosen⟩ := (Option.any_eq_true ..).mp reads
  obtain ⟨output, rfl⟩ := of_decide_eq_true chosen
  have understood := toOption_eq_some_iff.mp understood
  have asks : Invocation.Asks arguments options "/dev/ttyS0" :=
    ⟨.given .info, false, arguments.tail, rfl, toOption_eq_some_iff.mp fits⟩
  have writable (image : List UInt8) : ∃ stored, (Files.ofList []).write "a" image =
    .ok stored := ⟨_, writes image⟩
  obtain ⟨receives, -⟩ := receivesInto_of_asks understood asks output
  obtain ⟨moments, undertakes, -⟩ :=
    (rehearsal invocation.command).exists_undertakes_advance 143
  obtain ⟨more, final, goes_on, ends⟩ := exists_undertakes_stored receives fit writable undertakes
    (Stage.eq_closing (of_decide_eq_true received)) (writes [1, 2, 3])
  have whole := undertakes.trans goes_on
  obtain ⟨completes, holds, -⟩ :=
    stores_iff_completes understood asks output fit writable whole ends
  obtain ⟨_, _, image, place, -, -, reported, found, -, read⟩ := holds rfl
  obtain rfl := Except.ok.inj (located.symm.trans found)
  have held : ((Files.ofList []).put (Files.home ++ ["a"]) [1, 2, 3]).read "a" =
      .ok [1, 2, 3] := Files.read_put located (by decide)
  obtain rfl := Except.ok.inj (held.symm.trans (read (by decide)))
  exact ⟨invocation, _, final, _, understood, whole, ends, completes.mp rfl, held, reported⟩

end Ending

end Job
end Xmodem.CommandLine
