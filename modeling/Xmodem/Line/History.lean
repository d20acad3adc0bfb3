import Xmodem.SerialPort

/-!
# Histories

A history lists what happened on a line and what its user reported, in order.
-/

namespace Xmodem

/-- One thing that happened. -/
inductive Happening (τ : Type) where
  /-- A port was asked for. -/
  | opening (port : String) (settings : SerialSettings τ)
  /-- A read with some timeout returned a byte. -/
  | received (timeout : τ) (value : UInt8)
  /-- A read with some timeout returned nothing. -/
  | silent (timeout : τ)
  /-- A read failed. -/
  | readFault (fault : Fault)
  /-- Bytes were handed to the line. -/
  | wrote (bytes : List UInt8)
  /-- The line was asked to send out all bytes. -/
  | flushed
  /-- The port was closed. -/
  | closed
  /-- A session reported an event. -/
  | reported (event : Event τ)

namespace Happening

variable {τ : Type}

/-- What a read with some timeout and answer adds to a history. -/
def ofReading (timeout : τ) : Answer → List (Happening τ)
  | .byte value => [received timeout value]
  | .silence => [silent timeout]
  | .fault fault => [readFault fault]
  | .proceeded | .written => []

end Happening
end Xmodem
