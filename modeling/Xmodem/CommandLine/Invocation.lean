import Xmodem.CommandLine.Ending
import Xmodem.CommandLine.Grammar
import Xmodem.SerialPort
import Xmodem.Text.Numeral

/-!
# Invocations

An invocation is one of three commands with all its choices made: send an image to a port, receive
an image from a port, or measure a transfer over a simulated link.  Choices that cannot be used are
kept with the reason, because a command notices them only where it uses them.
-/

namespace Xmodem.CommandLine

/-- The reasons for which the settings of a port cannot be used. -/
inductive SettingsFlaw where
  /-- They are refused. -/
  | refused (error : SettingsError)
  /-- A switch is left blank. -/
  | blank (switch : BlankSwitch)
  deriving DecidableEq, Repr

/-- A serial port and how to talk to the peer behind it. -/
structure Connection where
  /-- Name of the port. -/
  port : String
  /-- How the port is opened. -/
  settings : Except SettingsFlaw (SerialSettings Float)
  /-- Limits and timeouts. -/
  policy : Except Escape (RetryPolicy Float)
  /-- Whether progress is reported. -/
  progress : Bool

/-- Choices for receiving an image. -/
structure Reception where
  /-- File to which the image goes. -/
  output : Entry String
  /-- Number of bytes that fit. -/
  capacity : Int
  /-- True length of the image, when it is known. -/
  expectedLength : Option (Entry Int)
  /-- Checksum asked for. -/
  mode : ChecksumMode
  /-- Whether the end of transmission has to be repeated. -/
  confirmEot : Bool
  /-- Whether a fresh session follows a failure that it may avoid. -/
  repeated : Bool

/-- What is to be done. -/
inductive Command where
  /-- Send a file, or the standard input, with or without the protocol. -/
  | send (connection : Connection) (input : Option String) (raw : Bool)
  /-- Receive an image into a file. -/
  | receive (connection : Connection) (reception : Reception)
  /-- Measure a transfer over a simulated link. -/
  | measure (benchmark : Benchmark Float)
  /-- Nothing, because of an error. -/
  | refuse (error : Escape)

/-- A command and how its course and result are shown. -/
structure Invocation where
  /-- Notes below this severity are not shown. -/
  threshold : Severity
  /-- Whether the result is written as JSON. -/
  json : Bool
  /-- What is to be done. -/
  command : Command

/-- The values of all switches. -/
structure Options where
  /-- Whether the result is written as JSON. -/
  json : Bool
  /-- How often one packet may be sent again. -/
  retries : Entry Int
  /-- Speed in baud. -/
  baud : Entry Int
  /-- Seconds to wait for the peer to begin a packet. -/
  handshakeTimeout : Entry Float
  /-- Seconds to wait for one expected byte. -/
  byteTimeout : Entry Float
  /-- Number of silent waits at which the transfer ends. -/
  handshakeAttempts : Entry Int
  /-- Number of data bits. -/
  width : Entry CharacterWidth
  /-- Number of stop bits. -/
  stopBits : Entry StopBits
  /-- How the peer is paced. -/
  flowControl : Entry FlowControl
  /-- Whether progress is reported. -/
  progress : Bool
  /-- File to send. -/
  input : Entry String
  /-- Whether bytes are sent without the protocol. -/
  raw : Bool
  /-- File to which an image goes. -/
  output : Option (Entry String)
  /-- Number of bytes that fit. -/
  capacity : Option (Entry Int)
  /-- True length of an image. -/
  expectedLength : Option (Entry Int)
  /-- Whether redundancy codes are asked for. -/
  crc : Bool
  /-- Whether the end of transmission has to be repeated. -/
  confirmEot : Bool
  /-- Whether failed sessions are followed by fresh ones. -/
  bootLoop : Bool
  /-- Number of random bytes to send. -/
  size : Entry Int
  /-- Share of the bytes that are lost. -/
  lossRate : Entry Float
  /-- Share of the bytes in which one bit is inverted. -/
  corruptRate : Entry Float
  /-- Duration of every write, in thousandths of a second. -/
  delay : Entry Int
  /-- Wait for one byte, in thousandths of a second. -/
  timeout : Entry Int
  /-- Seed for all chance. -/
  seed : Option (Entry Int)

namespace Options

/-- The values of switches that are not given. -/
def standard : Options where
  json := false
  retries := .given PolicyLimits.standard.maxRetries
  baud := .given 115200
  handshakeTimeout := .given PolicyLimits.standard.handshakeTimeout
  byteTimeout := .given PolicyLimits.standard.byteTimeout
  handshakeAttempts := .given PolicyLimits.standard.maxHandshakeAttempts
  width := .given .eight
  stopBits := .given .one
  flowControl := .given .none
  progress := true
  input := .blank
  raw := false
  output := none
  capacity := none
  expectedLength := none
  crc := false
  confirmEot := false
  bootLoop := false
  size := .given (256 * 1024)
  lossRate := .given 0.0
  corruptRate := .given 0.0
  delay := .given 0
  timeout := .given 250
  seed := none

/-- A switch that takes a value. -/
def taking {α : Type} (read : String → Option α) (names : List String)
    (store : Entry α → Options → Options) : Switch Options :=
  ⟨names, .take fun entry options => (entry.read? read).map (store · options)⟩

/-- A switch that takes a whole number. -/
def integer : List String → (Entry Int → Options → Options) → Switch Options :=
  taking Text.Numeral.integer?

/-- A switch that takes a number. -/
def real : List String → (Entry Float → Options → Options) → Switch Options :=
  taking Text.Numeral.real?

/-- A switch that takes any text. -/
def text : List String → (Entry String → Options → Options) → Switch Options :=
  taking some

/-- The width that a text stands for. -/
def width? (text : String) : Option CharacterWidth := do
  CharacterWidth.ofFigure? (.whole (← Text.Numeral.integer? text))

/-- The stop bits that a text stands for. -/
def stopBits? (text : String) : Option StopBits := do
  StopBits.ofFigure? (.real (← Text.Numeral.real? text))

/-- A switch that takes no value. -/
def flag (names : List String) (store : Options → Options) : Switch Options :=
  ⟨names, .change store⟩

/-- The call for help. -/
def help {σ : Type} : Switch σ :=
  ⟨["-h", "--help"], .help⟩

/-- Switches of all commands. -/
def common : List (Switch Options) :=
  [help,
    integer ["--retries"] fun value options => { options with retries := value },
    flag ["--json"] fun options => { options with json := true }]

/-- Switches of the commands that use a port. -/
def serial : List (Switch Options) :=
  [integer ["-b", "--baud"] fun value options => { options with baud := value },
    real ["-t", "--timeout"] fun value options => { options with handshakeTimeout := value },
    real ["--byte-timeout"] fun value options => { options with byteTimeout := value },
    integer ["--handshake-attempts"] fun value options =>
      { options with handshakeAttempts := value },
    taking width? ["-w", "--width"] fun value options => { options with width := value },
    taking stopBits? ["-s", "--stop-bits"] fun value options =>
      { options with stopBits := value },
    taking FlowControl.ofName? ["-f", "--flow-control"] fun value options =>
      { options with flowControl := value },
    flag ["--no-progress"] fun options => { options with progress := false }]

/-- Switch for redundancy codes. -/
def redundancy : Switch Options :=
  flag ["--crc"] fun options => { options with crc := true }

/-- Arguments for sending. -/
def sendGrammar : Grammar Options where
  switches := common ++ serial ++
    [text ["-i"] fun value options => { options with input := value },
      flag ["-r", "--raw"] fun options => { options with raw := true }]
  operands := .values 1

/-- Arguments for receiving. -/
def receiveGrammar : Grammar Options where
  switches := common ++ serial ++
    [redundancy,
      text ["--out"] fun value options => { options with output := some value },
      integer ["--capacity"] fun value options => { options with capacity := some value },
      integer ["--expected-length"] fun value options =>
        { options with expectedLength := some value },
      flag ["--confirm-eot"] fun options => { options with confirmEot := true },
      flag ["--boot-loop"] fun options => { options with bootLoop := true }]
  operands := .values 1

example : (receiveGrammar.completions "--cap".toList).map (·.names) = [["--capacity"]] := by decide

example : sendGrammar.hasAmbiguous ["tty0", "--r", "3"] = true := by decide

/-- Arguments for measuring. -/
def measureGrammar : Grammar Options where
  switches := common ++
    [redundancy,
      integer ["--size-bytes"] fun value options => { options with size := value },
      real ["--loss-rate"] fun value options => { options with lossRate := value },
      real ["--corrupt-rate"] fun value options => { options with corruptRate := value },
      integer ["--delay-ms"] fun value options => { options with delay := value },
      integer ["--timeout-ms"] fun value options => { options with timeout := value },
      integer ["--seed"] fun value options => { options with seed := some value }]
  operands := .values 0

/-- The checksum asked for. -/
def mode (options : Options) : ChecksumMode :=
  if options.crc then .crc16 else .additive

/-- How a port is opened. -/
def settings (options : Options) : Except SettingsFlaw (SerialSettings Float) :=
  match options.width, options.stopBits, options.flowControl with
  | .given width, .given stopBits, .given flowControl =>
      .ok
        { baud := options.baud.value?
          width := width
          stopBits := stopBits
          flowControl := flowControl
          writeTimeout := 5.0 }
  | .given _, .given _, .blank => .error (.refused (.flowControl "[]"))
  | _, _, _ => .error (.blank .format)

/-- Check limits, and notice a blank if they are good otherwise. -/
def notice (switch : BlankSwitch) (limits : PolicyLimits Float) :
    Except Escape (RetryPolicy Float) :=
  match limits.check with
  | .error error => .error (.policy error)
  | .ok _ => .error (.blank switch)

/-- Limits and timeouts.  A blank is noticed when it is its turn to be checked. -/
def policy (options : Options) : Except Escape (RetryPolicy Float) :=
  let standard := PolicyLimits.standard
  match options.retries, options.byteTimeout, options.handshakeTimeout,
      options.handshakeAttempts with
  | .blank, _, _, _ => .error (.blank .retries)
  | .given retries, .blank, _, _ => notice .byteTimeout { standard with maxRetries := retries }
  | .given retries, .given _, .blank, _ =>
      notice .handshakeTimeout { standard with maxRetries := retries }
  | .given retries, .given byteTimeout, .given handshakeTimeout, .blank =>
      notice .handshakeAttempts
        { standard with
          maxRetries := retries
          byteTimeout := byteTimeout
          handshakeTimeout := handshakeTimeout }
  | .given retries, .given byteTimeout, .given handshakeTimeout, .given handshakeAttempts =>
      let limits : PolicyLimits Float :=
        { standard with
          maxRetries := retries
          byteTimeout := byteTimeout
          handshakeTimeout := handshakeTimeout
          maxHandshakeAttempts := handshakeAttempts }
      limits.check.mapError .policy

/-- The connection to a port. -/
def connection (options : Options) (port : String) : Connection where
  port := port
  settings := options.settings
  policy := options.policy
  progress := options.progress

/-- The command to send; without a file the standard input is sent. -/
def send? (options : Options) : List String → Option Command
  | [port] =>
      some (.send (options.connection port) (options.input.value?.filter (· ≠ "")) options.raw)
  | _ => none

/-- The command to receive, if file and capacity are given. -/
def receive? (options : Options) : List String → Option Command
  | [port] =>
      match options.output, options.capacity with
      | some output, some capacity =>
          some (.receive (options.connection port)
            { output := output
              capacity := capacity.value?.getD 0
              expectedLength := options.expectedLength
              mode := options.mode
              confirmEot := options.confirmEot
              repeated := options.bootLoop })
      | _, _ => none
  | _ => none

/-- The value of a switch that must not be left blank. -/
def required {α : Type} (switch : BlankSwitch) : Entry α → Except Escape α
  | .given value => .ok value
  | .blank => .error (.blank switch)

/-- The choices for a measurement.  Blanks that only a write notices spoil the link. -/
def benchmark (options : Options) : Except Escape (Benchmark Float) := do
  let seed ← options.seed.mapM (required .seed)
  let size ← required .size options.size
  let timeout ← required .timeout options.timeout
  let timeout ← (Benchmark.waitOf? timeout).mapError .benchmark
  let maxRetries ← required .retries options.retries
  let delay := options.delay.value?.map Benchmark.pauseOf
  let sensible := options.lossRate.value?.isSome && options.corruptRate.value?.isSome &&
    delay.any (·.2)
  return {
    size := size
    mode := options.mode
    lossRate := options.lossRate.value?.getD 0.0
    corruptRate := options.corruptRate.value?.getD 0.0
    delay := (delay.map (·.1)).getD 0.0
    timeout := timeout
    maxRetries := maxRetries
    seed := seed
    defective := !sensible }

/-- The command to measure. -/
def measure? (options : Options) : List String → Option Command
  | [] =>
      match options.benchmark with
      | .ok benchmark => some (.measure benchmark)
      | .error error => some (.refuse error)
  | _ => none

end Options

namespace Invocation

/-- Arguments before the name of a command. -/
def grammar : Grammar (Entry Severity) where
  switches :=
    [Options.help, ⟨["--log-level"], .take fun entry _ => entry.read? Severity.ofName?⟩]
  operands := .command

/-- Read the arguments of one command. -/
def ofCommand (threshold : Entry Severity) (grammar : Grammar Options)
    (command? : Options → List String → Option Command) (arguments : List String) :
    Except Stop Invocation := do
  let (options, operands) ← grammar.read .standard arguments
  match command? options operands, threshold with
  | some command, .given threshold => return ⟨threshold, options.json, command⟩
  | some _, .blank => return ⟨.info, options.json, .refuse (.blank .severity)⟩
  | none, _ => throw .usage

/-- Read all arguments. -/
def ofArguments (arguments : List String) : Except Stop Invocation := do
  let (threshold, surplus, operands) ← grammar.readLeniently (.given .info) arguments
  let invocation ← match operands with
    | "send" :: arguments => ofCommand threshold Options.sendGrammar Options.send? arguments
    | "recv" :: arguments => ofCommand threshold Options.receiveGrammar Options.receive? arguments
    | "bench" :: arguments => ofCommand threshold Options.measureGrammar Options.measure? arguments
    | _ => throw .usage
  if surplus then throw .usage else return invocation

end Invocation
end Xmodem.CommandLine
