import Xmodem.Line.History
import Xmodem.Line.Script

/-!
# Scripted ports

A serial port whose line follows a script.  Opening may fail as planned.  A write that succeeds is
followed by sending out all bytes.
-/

namespace Xmodem

/-- A serial port that behaves as planned, a clock, and what happened so far. -/
structure ScriptedPort (τ : Type) where
  /-- What happens when the port is opened. -/
  opening : Except OpeningError Unit
  /-- The line behind the port. -/
  line : ScriptedLine τ
  /-- The clock. -/
  now : τ
  /-- What happened so far, the latest first. -/
  past : List (Happening τ)

namespace ScriptedPort

variable {τ : Type} [Quantity τ]

/-- What happened so far, in order. -/
def history (scripted : ScriptedPort τ) : List (Happening τ) :=
  scripted.past.reverse

/-- Note what happened. -/
def record (scripted : ScriptedPort τ) (happening : Happening τ) : ScriptedPort τ :=
  { scripted with past := happening :: scripted.past }

/-- Open the port. -/
def open? (scripted : ScriptedPort τ) (port : String) (settings : SerialSettings τ) :
    Except OpeningError Unit × ScriptedPort τ :=
  (scripted.opening, scripted.record (.opening port settings))

/-- Read one byte for at most some time. -/
def read (scripted : ScriptedPort τ) (timeout : τ) : Answer × ScriptedPort τ :=
  let (answer, now, line) := scripted.line.read scripted.now timeout
  let past := Happening.ofReading timeout answer ++ scripted.past
  (answer, { scripted with line := line, now := now, past := past })

/-- Write bytes and send them out. -/
def write (scripted : ScriptedPort τ) (bytes : List UInt8) : Answer × ScriptedPort τ :=
  let (answer, line) := scripted.line.write
  let scripted := { scripted.record (.wrote bytes) with line := line }
  match answer with
  | .fault _ => (answer, scripted)
  | _ => (answer, scripted.record .flushed)

/-- Close the port. -/
def close (scripted : ScriptedPort τ) : ScriptedPort τ :=
  scripted.record .closed

end ScriptedPort
end Xmodem
