import Xmodem.CommandLine.Files
import Xmodem.CommandLine.Job
import Xmodem.Line.Port

/-!
# Rehearsals

A rehearsal carries out a job in surroundings that behave as planned: a working directory, a
standard input, a scripted port, and a memory.
-/

namespace Xmodem.CommandLine

/-- A job and its surroundings. -/
structure Rehearsal where
  /-- The job. -/
  job : Job
  /-- The files. -/
  files : Files
  /-- The standard input. -/
  input : List UInt8
  /-- The port. -/
  port : ScriptedPort Float
  /-- What the job showed so far, the latest first. -/
  shown : List Output
  /-- Whether there is memory for some number of bytes. -/
  memory : Nat → Bool := fun _ => true

namespace Rehearsal

/-- Hand an answer to the job. -/
def answer (rehearsal : Rehearsal) (answer : JobAnswer) : Rehearsal :=
  let (job, output) := rehearsal.job.next rehearsal.port.now answer
  { rehearsal with job := job, shown := output.reverse ++ rehearsal.shown }

/-- Carry out one action; nothing when the job is over. -/
def next (rehearsal : Rehearsal) : Option Rehearsal :=
  match rehearsal.job.action rehearsal.port.now with
  | .stop => none
  | .proceed => some (rehearsal.answer (.line .proceeded))
  | .readFile name => some (rehearsal.answer (.input (rehearsal.files.read name)))
  | .readInput => some (rehearsal.answer (.input (.ok rehearsal.input)))
  | .openPort name settings =>
      let (result, port) := rehearsal.port.open? name settings
      some ({ rehearsal with port := port }.answer (.opened result))
  | .reserve bytes => some (rehearsal.answer (.reserved (rehearsal.memory bytes)))
  | .read timeout =>
      let (answer, port) := rehearsal.port.read timeout
      some ({ rehearsal with port := port }.answer (.line answer))
  | .write bytes =>
      let (answer, port) := rehearsal.port.write bytes
      some ({ rehearsal with port := port }.answer (.line answer))
  | .closePort => some ({ rehearsal with port := rehearsal.port.close }.answer .closed)
  | .writeFile name bytes =>
      match rehearsal.files.write name bytes with
      | .ok files => some ({ rehearsal with files := files }.answer (.stored (.ok ())))
      | .error error => some (rehearsal.answer (.stored (.error error)))

/-- Carry out actions until the job is over; nothing when more than `fuel` would be needed. -/
def complete : Nat → Rehearsal → Option Rehearsal
  | 0, _ => none
  | fuel + 1, rehearsal =>
      match rehearsal.next with
      | none => some rehearsal
      | some rehearsal => complete fuel rehearsal

/-- Everything on the error stream. -/
def errorText (rehearsal : Rehearsal) (threshold : Severity) : String :=
  String.join (rehearsal.shown.reverse.map (Output.errorText threshold))

/-- Everything on the standard output. -/
def resultText (rehearsal : Rehearsal) (json : Bool) : String :=
  String.join (rehearsal.shown.reverse.map (Output.resultText json))

end Rehearsal
end Xmodem.CommandLine
