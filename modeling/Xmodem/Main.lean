import Xmodem.CommandLine.Job

/-!
# The program

The command line program.  All decisions are made by jobs; here their actions are carried out on the
files, streams, and devices of the operating system.
-/

namespace Xmodem.Program

open CommandLine

/-- A device that is open. -/
structure Device where
  /-- Where bytes are written. -/
  outgoing : IO.FS.Handle
  /-- Bytes that arrived and were not read, and a failure if there was one. -/
  incoming : IO.Ref (List UInt8 × Option Fault)

/-- Collect arriving bytes until the device fails or ends. -/
partial def collect (handle : IO.FS.Handle) (incoming : IO.Ref (List UInt8 × Option Fault)) :
    IO Unit := do
  try
    let arrived ← handle.read 1
    if arrived.isEmpty then
      return
    incoming.modify fun (waiting, fault) => (waiting ++ arrived.data.toList, fault)
  catch error =>
    incoming.modify fun (waiting, _) => (waiting, some (.system (toString error)))
    return
  collect handle incoming

/-- Seconds on the clock. -/
def seconds : IO Float := do
  return (← IO.monoNanosNow).toFloat / 1e9

/-- A failure of a file, as the operating system describes it. -/
def fileError (name : String) (error : IO.Error) : FileError :=
  match error with
  | .noFileOrDirectory _ _ _ => .missing name
  | .inappropriateType _ _ _ => .isDirectory name
  | .permissionDenied _ _ _ => ⟨13, "Permission denied", some name⟩
  | error => ⟨5, toString error, some name⟩

/-- Open a device for reading and writing. -/
def openDevice (name : String) : IO Device := do
  let outgoing ← IO.FS.Handle.mk name .readWrite
  let handle ← IO.FS.Handle.mk name .read
  let incoming ← IO.mkRef ([], none)
  let _ ← IO.asTask (collect handle incoming) .dedicated
  return ⟨outgoing, incoming⟩

/-- Wait for a byte until an instant. -/
partial def await (device : Device) (deadline : Float) : IO Answer := do
  match ← device.incoming.get with
  | (value :: _, _) =>
      device.incoming.modify fun (waiting, fault) => (waiting.drop 1, fault)
      return .byte value
  | ([], some fault) => return .fault fault
  | ([], none) =>
      if deadline ≤ (← seconds) then
        return .silence
      else
        IO.sleep 1
        await device deadline

/-- Write bytes and send them out. -/
def send (device : Device) (bytes : List UInt8) : IO Answer := do
  try
    device.outgoing.write ⟨bytes.toArray⟩
    device.outgoing.flush
    return .written
  catch error =>
    return .fault (.system (toString error))

/-- Everything on a stream. -/
partial def drain (stream : IO.FS.Stream) (content : ByteArray) : IO ByteArray := do
  let more ← stream.read 4096
  if more.isEmpty then return content else drain stream (content ++ more)

/-- Carry out one action of a job, given the device that is open.  Memory is found where it is
used. -/
def carryOut (device : Option Device) : JobAction → IO (JobAnswer × Option Device)
  | .proceed | .stop => return (.line .proceeded, device)
  | .readFile name => do
      try
        let content ← IO.FS.readBinFile name
        return (.input (.ok content.data.toList), device)
      catch error =>
        return (.input (.error (fileError name error)), device)
  | .readInput => do
      let content ← drain (← IO.getStdin) ByteArray.empty
      return (.input (.ok content.data.toList), device)
  | .openPort name _ => do
      try
        return (.opened (.ok ()), some (← openDevice name))
      catch error =>
        return (.opened (.error (.port (fileError name error).message)), none)
  | .reserve _ => return (.reserved true, device)
  | .read timeout => do
      match device with
      | some port => return (.line (← await port ((← seconds) + timeout)), device)
      | none => return (.line .silence, device)
  | .write bytes => do
      match device with
      | some port => return (.line (← send port bytes), device)
      | none => return (.line .written, device)
  | .closePort => return (.closed, none)
  | .writeFile name bytes => do
      try
        IO.FS.writeBinFile name ⟨bytes.toArray⟩
        return (.stored (.ok ()), device)
      catch error =>
        return (.stored (.error (fileError name error)), device)

/-- Show output on the two streams. -/
def display (invocation : Invocation) (output : Output) : IO Unit := do
  IO.eprint (output.errorText invocation.threshold)
  IO.print (output.resultText invocation.json)

/-- Carry out a job to its end. -/
partial def carryThrough (invocation : Invocation) (job : Job) (device : Option Device) :
    IO UInt32 := do
  match job.ending? with
  | some (.exit status) => return status.code.toUInt32
  | some (.escape error) =>
      IO.eprintln error.message
      return 1
  | none =>
      let (answer, device) ← carryOut device (job.action (← seconds))
      let (job, output) := job.next (← seconds) answer
      output.forM (display invocation)
      carryThrough invocation job device

end Xmodem.Program

/-- Read the arguments and carry out the command. -/
def main (arguments : List String) : IO UInt32 := do
  match Xmodem.CommandLine.Invocation.ofArguments arguments with
  | .error .help =>
      IO.println "usage: send | recv | bench, with options and the path of a port"
      return 0
  | .error .usage =>
      IO.eprintln "usage: send | recv | bench, with options and the path of a port"
      return 2
  | .ok invocation =>
      Xmodem.Program.carryThrough invocation (.start invocation.command) none
