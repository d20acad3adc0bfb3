import Xmodem.CommandLine.FileError
import Xmodem.CommandLine.Invocation
import Xmodem.Note.Wording
import Xmodem.ProgressReport
import Xmodem.Report
import Xmodem.Transfer

/-!
# Jobs

A job carries out one invocation.  Like a session it is a reactive machine: it names one action at a
time, its surroundings carry the action out and answer, and the job moves on and produces output.
-/

namespace Xmodem.CommandLine

/-- What a job asks of its surroundings. -/
inductive JobAction where
  /-- An internal move. -/
  | proceed
  /-- Read a whole file. -/
  | readFile (name : String)
  /-- Read the whole standard input. -/
  | readInput
  /-- Open the port. -/
  | openPort (name : String) (settings : SerialSettings Float)
  /-- Find memory for some number of bytes. -/
  | reserve (bytes : Nat)
  /-- Wait for one byte from the port. -/
  | read (timeout : Float)
  /-- Write bytes to the port and send them out. -/
  | write (bytes : List UInt8)
  /-- Close the port. -/
  | closePort
  /-- Write a whole file. -/
  | writeFile (name : String) (bytes : List UInt8)
  /-- Nothing; the job is over. -/
  | stop

/-- What the surroundings answer. -/
inductive JobAnswer where
  /-- To an internal move, a read from the port, or a write to it. -/
  | line (answer : Answer)
  /-- To a request for input. -/
  | input (result : Except FileError (List UInt8))
  /-- To the opening of the port. -/
  | opened (result : Except OpeningError Unit)
  /-- To a request for memory: whether there is enough. -/
  | reserved (found : Bool)
  /-- To the closing of the port. -/
  | closed
  /-- To the writing of a file. -/
  | stored (result : Except FileError Unit)

/-- What a job shows. -/
inductive Output where
  /-- A note. -/
  | note (note : Note Float)
  /-- The reason for a failure. -/
  | failure (text : String)
  /-- The result. -/
  | report (report : Report)

namespace Output

/-- One line for the error stream, unless the note is below a threshold. -/
def errorText (threshold : Severity) : Output → String
  | note remark =>
      if threshold.rank ≤ remark.severity.rank then
        "[" ++ remark.severity.name ++ "] " ++ remark.text ++ "\n"
      else
        ""
  | failure text => "[ERROR] " ++ text ++ "\n"
  | report _ => ""

/-- The result for the standard output. -/
def resultText (json : Bool) : Output → String
  | report result => (if json then result.json else result.inline) ++ "\n"
  | note _ | failure _ => ""

end Output

/-- What remains to be done once the port is closed. -/
inductive Completion where
  /-- Nothing. -/
  | ended (ending : Ending)
  /-- Report what was sent. -/
  | sent (bytes : Nat)
  /-- Store what was received. -/
  | received (image : List UInt8)
  deriving DecidableEq, Repr

/-- What a job is doing. -/
inductive Stage where
  /-- Nothing; the job has not begun. -/
  | idle
  /-- Reading the input: a file, or the standard input. -/
  | loading (file : Option String)
  /-- Opening a port; the input, if there is any. -/
  | opening (source : List UInt8) (port : String) (settings : SerialSettings Float)
  /-- Finding memory for a destination while the port is open. -/
  | reserving (destination : Destination)
  /-- Writing the input without the protocol. -/
  | writing (source : List UInt8)
  /-- Running a transfer. -/
  | transferring (transfer : Transfer Float)
  /-- Closing the port. -/
  | closing (completion : Completion)
  /-- Storing what was received in a file. -/
  | storing (file : String) (image : List UInt8)
  /-- Finding memory for a measurement. -/
  | preparing (benchmark : Benchmark Float) (pair : Pair Float)
  /-- Running a measurement. -/
  | measuring (benchmark : Benchmark Float) (pair : Pair Float)
  /-- Nothing; the job is over. -/
  | ended (ending : Ending)

/-- An invocation on its way. -/
structure Job where
  /-- What is to be done. -/
  command : Command
  /-- What the job is doing. -/
  stage : Stage
  /-- What progress was reported. -/
  progress : ProgressReport Float

namespace Job

/-- A job that has not begun. -/
def start (command : Command) : Job where
  command := command
  stage := .idle
  progress := .fresh

/-- A job that goes on with another stage. -/
def enter (job : Job) (stage : Stage) (output : List Output) : Job × List Output :=
  ({ job with stage := stage }, output)

/-- A job that is over. -/
def finish (job : Job) (ending : Ending) (output : List Output) : Job × List Output :=
  job.enter (.ended ending) output

/-- A job that fails with an explanation. -/
def fail (job : Job) (status : ExitStatus) (text : String) : Job × List Output :=
  job.finish (.exit status) [.failure text]

/-- The connection of a job that uses a port. -/
def connection? (job : Job) : Option Connection :=
  match job.command with
  | .send connection _ _ => some connection
  | .receive connection _ => some connection
  | .measure _ | .refuse _ => none

/-- Explanation of a failed transfer. -/
def failureText (activity : String) (failure : Failure) : String :=
  activity ++ " failed (" ++ failure.reason.name ++ "): " ++ failure.message

/-- Begin to measure. -/
def measure (job : Job) (benchmark : Benchmark Float) : Job × List Output :=
  match benchmark.start with
  | .ok pair => job.enter (.preparing benchmark pair) []
  | .error error => job.finish (.escape (.benchmark error)) []

/-- Go on with a measurement, if there is memory for it. -/
def prepared (job : Job) (benchmark : Benchmark Float) (pair : Pair Float) (found : Bool) :
    Job × List Output :=
  if found then job.enter (.measuring benchmark pair) []
  else job.finish (.escape (.benchmark (.capacity .noMemory))) []

/-- Whether a file can have a name. -/
def nameable (name : String) : Bool :=
  !name.contains '\x00'

/-- Ask for a port. -/
def ask (job : Job) (connection : Connection) (source : List UInt8) : Job × List Output :=
  match connection.settings with
  | .ok settings => job.enter (.opening source connection.port settings) []
  | .error (.refused error) =>
      job.fail .portFailure ("Failed to open serial port: " ++ error.message)
  | .error (.blank switch) => job.finish (.escape (.blank switch)) []

/-- Begin with what the command needs first. -/
def begin (job : Job) : Job × List Output :=
  match job.command with
  | .send _ input _ =>
      if input.all nameable then job.enter (.loading input) []
      else job.finish (.escape .zeroInName) []
  | .receive connection _ => job.ask connection []
  | .measure benchmark => job.measure benchmark
  | .refuse error => job.finish (.escape error) []

/-- Go on with the input. -/
def loaded (job : Job) (result : Except FileError (List UInt8)) : Job × List Output :=
  match result, job.connection? with
  | .ok source, some connection => job.ask connection source
  | .ok _, none => (job, [])
  | .error error, _ => job.fail .fileFailure ("Failed to read input: " ++ error.message)

/-- Begin to send. -/
def startSending (job : Job) (connection : Connection) (raw : Bool) (source : List UInt8)
    (now : Float) (output : List Output) : Job × List Output :=
  if raw then
    job.enter (.writing source) output
  else
    match connection.policy with
    | .error error => job.enter (.closing (.ended (.escape error))) output
    | .ok policy => job.enter (.transferring (.sending (.start policy source now))) output

/-- Begin to receive into a destination. -/
def startSession (job : Job) (reception : Reception) (policy : RetryPolicy Float)
    (destination : Destination) (now : Float) : Job × List Output :=
  let receiver (expectedLength : Option Int) : Except Escape (Receiver Float) :=
    (Receiver.open? policy reception.mode expectedLength reception.confirmEot destination
      now).mapError .destination
  let receiver := match reception.expectedLength with
    | none => receiver none
    | some (.given length) => receiver (some length)
    | some .blank => .error (.blank .expectedLength)
  match receiver with
  | .error error => job.enter (.closing (.ended (.escape error))) []
  | .ok receiver =>
      let transfer : Transfer Float :=
        if reception.repeated then .booting (.start none receiver) else .receiving receiver
      job.enter (.transferring transfer) []

/-- Begin to receive: find memory for the destination.  A capacity without a destination is noticed
while the port is not in use yet, and the port is not closed then. -/
def startReceiving (job : Job) (reception : Reception) (output : List Output) :
    Job × List Output :=
  let output :=
    if reception.expectedLength.isNone then output ++ [.note .lengthUnknown] else output
  match Destination.ofCapacity? reception.capacity 0 with
  | .error error => job.finish (.escape (.capacity error)) output
  | .ok destination => job.enter (.reserving destination) output

/-- Go on to receive, if there is memory for the destination.  When there is none, and when the
policy is refused, the port is not closed either. -/
def reserved (job : Job) (destination : Destination) (now : Float) (found : Bool) :
    Job × List Output :=
  match found, job.command with
  | false, _ => job.finish (.escape (.capacity .noMemory)) []
  | true, .receive connection reception => match connection.policy with
      | .error error => job.finish (.escape error) []
      | .ok policy => job.startSession reception policy destination now
  | true, _ => (job, [])

/-- The note about an open port, if its speed is known. -/
def openingNote (port : String) (settings : SerialSettings Float) : List Output :=
  match settings.baud with
  | some baud => [.note (.opened port baud settings.flowControl.name)]
  | none => []

/-- Go on once the port is open. -/
def opened (job : Job) (source : List UInt8) (port : String) (settings : SerialSettings Float)
    (now : Float) (result : Except OpeningError Unit) : Job × List Output :=
  match result, job.command with
  | .error error, _ => job.fail .portFailure ("Failed to open serial port: " ++ error.message)
  | .ok (), .send connection _ raw =>
      job.startSending connection raw source now (openingNote port settings)
  | .ok (), .receive _ reception => job.startReceiving reception (openingNote port settings)
  | .ok (), .measure _ | .ok (), .refuse _ => (job, [])

/-- Go on once bytes were written without the protocol. -/
def wrote (job : Job) (source : List UInt8) : Answer → Job × List Output
  | .written => job.enter (.closing (.sent source.length)) []
  | .fault (.port message) =>
      job.enter (.closing (.ended (.exit .portFailure)))
        [.failure ("Failed to write to serial port: " ++ message)]
  | .fault fault => job.enter (.closing (.ended (.escape (.fault fault)))) []
  | _ => (job, [])

/-- Whether a job reports progress. -/
def reportsProgress (job : Job) : Bool :=
  match job.connection? with
  | some connection => connection.progress
  | none => false

/-- Pass on what a transfer reports.  Progress at a rate beyond all quantities is left out. -/
def relay (job : Job) (now : Float) : List (Event Float) → Job × List Output
  | [] => (job, [])
  | .note note :: events =>
      let (job, output) := job.relay now events
      (job, .note note :: output)
  | .progress direction total :: events =>
      match job.reportsProgress, job.progress.report? direction now total with
      | true, some (progress, note) =>
          let (job, output) := { job with progress := progress }.relay now events
          (job, .note note :: output)
      | _, _ => job.relay now events
  | .stepped _ :: events => job.relay now events

/-- What remains to be done after a transfer, and what is shown of it. -/
def completion (transfer : Transfer Float) : Outcome → Completion × List Output
  | .error failure =>
      (.ended (.exit .transferFailure), [.failure (failureText "Transfer" failure)])
  | .ok bytes =>
      match transfer.destination? with
      | none => (.sent bytes, [])
      | some destination => (.received (destination.slice 0 bytes), [])

/-- Go on with a transfer. -/
def transferred (job : Job) (transfer : Transfer Float) (now : Float) (answer : Answer) :
    Job × List Output :=
  let (transfer, events) := transfer.next now answer
  let (job, output) := job.relay now events
  match Session.outcome? transfer with
  | none => job.enter (.transferring transfer) output
  | some outcome =>
      let (completion, more) := completion transfer outcome
      job.enter (.closing completion) (output ++ more)

/-- Begin to store an image. -/
def store (job : Job) (output : Entry String) (image : List UInt8) : Job × List Output :=
  match output with
  | .blank => job.finish (.escape (.blank .output)) []
  | .given name =>
      if nameable name then job.enter (.storing name image) []
      else job.finish (.escape .zeroInName) []

/-- Go on once the port is closed. -/
def closed (job : Job) (completion : Completion) : Job × List Output :=
  match completion, job.command with
  | .ended ending, _ => job.finish ending []
  | .sent bytes, .send connection _ raw =>
      job.finish (.exit .success) [.report (.sent connection.port bytes raw)]
  | .received image, .receive _ reception => job.store reception.output image
  | _, _ => (job, [])

/-- Go on once the image is stored. -/
def stored (job : Job) (name : String) (image : List UInt8) (result : Except FileError Unit) :
    Job × List Output :=
  match result, job.connection? with
  | .error error, _ => job.fail .fileFailure ("Failed to write output: " ++ error.message)
  | .ok (), some connection =>
      job.finish (.exit .success) [.report (.received connection.port image.length name)]
  | .ok (), none => (job, [])

/-- The notes among happenings, in order, when the latest comes first. -/
def notes (past : List (LinkEnd × Happening Float)) : List Output :=
  past.reverse.filterMap fun
    | (_, .reported (.note note)) => some (.note note)
    | _ => none

/-- Go on with a measurement. -/
def measured (job : Job) (benchmark : Benchmark Float) (pair : Pair Float) : Job × List Output :=
  match { pair with past := [] }.next with
  | some pair => job.enter (.measuring benchmark pair) (notes pair.past)
  | none =>
      match benchmark.result pair with
      | .ok result => job.finish (.exit .success) [.report (.measured result)]
      | .error (.transfer failure) =>
          job.fail .transferFailure (failureText "Benchmark transfer" failure)
      | .error error => job.finish (.escape (.benchmark error)) []

/-- The action at an instant. -/
def action (job : Job) (now : Float) : JobAction :=
  match job.stage with
  | .idle => .proceed
  | .loading (some name) => .readFile name
  | .loading none => .readInput
  | .opening _ port settings => .openPort port settings
  | .reserving destination => .reserve destination.capacity
  | .writing source => .write source
  | .transferring transfer => match Session.action transfer now with
      | .proceed => .proceed
      | .read timeout => .read timeout
      | .write bytes => .write bytes
      | .stop => .stop
  | .closing _ => .closePort
  | .storing name image => .writeFile name image
  | .preparing benchmark _ => .reserve benchmark.size.toNat
  | .measuring _ _ => .proceed
  | .ended _ => .stop

/-- The job after an answer, and its output on the way.  An answer to another action than the
current one changes nothing. -/
def next (job : Job) (now : Float) (answer : JobAnswer) : Job × List Output :=
  match job.stage, answer with
  | .idle, .line .proceeded => job.begin
  | .loading _, .input result => job.loaded result
  | .opening source port settings, .opened result => job.opened source port settings now result
  | .reserving destination, .reserved found => job.reserved destination now found
  | .writing source, .line answer => job.wrote source answer
  | .transferring transfer, .line answer => job.transferred transfer now answer
  | .closing completion, .closed => job.closed completion
  | .storing name image, .stored result => job.stored name image result
  | .preparing benchmark pair, .reserved found => job.prepared benchmark pair found
  | .measuring benchmark pair, .line .proceeded => job.measured benchmark pair
  | _, _ => (job, [])

/-- How a job that is over ended. -/
def ending? (job : Job) : Option Ending :=
  match job.stage with
  | .ended ending => some ending
  | _ => none

end Job
end Xmodem.CommandLine
