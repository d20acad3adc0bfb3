import Xmodem.Benchmark

/-!
# Endings of jobs

A job ends with an exit status, or with an error that it does not handle.  Some of these errors come
from switches that are left blank: a blank is taken for a value and noticed where the value is used.
-/

namespace Xmodem.CommandLine

/-- How a job ends as planned. -/
inductive ExitStatus where
  /-- Everything was done. -/
  | success
  /-- A file could not be read or written. -/
  | fileFailure
  /-- The port could not be opened or written. -/
  | portFailure
  /-- The transfer failed. -/
  | transferFailure
  deriving DecidableEq, Repr

namespace ExitStatus

/-- Number of an exit status. -/
def code : ExitStatus → Nat
  | success => 0
  | fileFailure => 1
  | portFailure => 2
  | transferFailure => 3

end ExitStatus

/-- The switches that must not be left blank. -/
inductive BlankSwitch where
  /-- Severity of the notes that are shown. -/
  | severity
  /-- Number of data bits or of stop bits. -/
  | format
  /-- Number of retries. -/
  | retries
  /-- Wait for one byte. -/
  | byteTimeout
  /-- Wait for the peer to begin. -/
  | handshakeTimeout
  /-- Number of silent waits. -/
  | handshakeAttempts
  /-- True length of an image. -/
  | expectedLength
  /-- File to which an image goes. -/
  | output
  /-- Seed for all chance. -/
  | seed
  /-- Number of random bytes to send. -/
  | size
  /-- Wait for one byte while measuring. -/
  | timeout
  deriving DecidableEq, Repr

namespace BlankSwitch

/-- What is wrong with a blank where it is used. -/
def message : BlankSwitch → String
  | severity => "attribute name must be string, not 'list'"
  | format => "unhashable type: 'list'"
  | retries | handshakeAttempts => "'<' not supported between instances of 'list' and 'int'"
  | byteTimeout => "'<' not supported between instances of 'float' and 'list'"
  | handshakeTimeout => "'<' not supported between instances of 'list' and 'float'"
  | expectedLength => "'<=' not supported between instances of 'int' and 'list'"
  | output => "expected str, bytes or os.PathLike object, not list"
  | seed => "unsupported operand type(s) for %: 'list' and 'int'"
  | size => "'list' object cannot be interpreted as an integer"
  | timeout => "unsupported operand type(s) for /: 'list' and 'float'"

end BlankSwitch

/-- The errors that a job does not handle. -/
inductive Escape where
  /-- A switch is left blank. -/
  | blank (switch : BlankSwitch)
  /-- The name of a file contains the zero character. -/
  | zeroInName
  /-- The retry policy is refused. -/
  | policy (error : PolicyError)
  /-- There is no destination of the capacity. -/
  | capacity (error : CapacityError)
  /-- The destination is refused. -/
  | destination (error : DestinationError)
  /-- A write without the protocol failed. -/
  | fault (fault : Fault)
  /-- A measurement has no result. -/
  | benchmark (error : BenchmarkError)
  deriving DecidableEq, Repr

namespace Escape

/-- Explanation of an error. -/
def message : Escape → String
  | blank switch => switch.message
  | zeroInName => "embedded null byte"
  | policy error => error.message
  | capacity error => error.message
  | destination error => error.message
  | fault failure => failure.message
  | benchmark error => error.message

end Escape

/-- How a job ends. -/
inductive Ending where
  /-- With an exit status. -/
  | exit (status : ExitStatus)
  /-- With an error that is not handled. -/
  | escape (error : Escape)
  deriving DecidableEq, Repr

end Xmodem.CommandLine
