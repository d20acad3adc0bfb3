import Xmodem.Quantity

/-!
# Session metrics

Counters of one session together with the instants at which it began and ended.
-/

namespace Xmodem

/-- Counters and instants of one session. -/
structure Metrics (τ : Type) where
  /-- Blocks sent for the first time, or accepted. -/
  blocks : Nat
  /-- Bytes transferred, known once the session completed. -/
  bytes : Nat
  /-- Waits that ended in silence. -/
  timeouts : Nat
  /-- Packets sent again, or received again. -/
  retransmits : Nat
  /-- Negative acknowledgements received, or frames refused. -/
  naks : Nat
  /-- When the session began. -/
  start : τ
  /-- When the session ended, if it did. -/
  finish : Option τ
  deriving DecidableEq, Repr

namespace Metrics

variable {τ : Type} [Quantity τ]

/-- All counters at zero. -/
def fresh (start : τ) : Metrics τ where
  blocks := 0
  bytes := 0
  timeouts := 0
  retransmits := 0
  naks := 0
  start := start
  finish := none

/-- Time between two instants; none before the end is known. -/
def durationBetween (start : τ) (finish : Option τ) : τ :=
  match finish with
  | none => 0
  | some finish => Quantity.greatest 0 (finish - start)

/-- Kibibytes for each second, zero when no time passed; nothing when the kibibytes are beyond all
quantities. -/
def rate? (bytes : Int) (duration : τ) : Option τ :=
  if duration ≤ 0 then some 0 else (Quantity.ofQuotient? bytes 1024).map (· / duration)

/-- Length of the session. -/
def duration (metrics : Metrics τ) : τ :=
  durationBetween metrics.start metrics.finish

/-- Transfer rate of the session. -/
def throughput? (metrics : Metrics τ) : Option τ :=
  rate? metrics.bytes metrics.duration

end Metrics
end Xmodem
