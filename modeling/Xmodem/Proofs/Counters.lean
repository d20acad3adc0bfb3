import Xmodem.Metrics
import Xmodem.Note
import Xmodem.Proofs.Packets

/-!
# Counters

What the events of a transfer do to the counters of the two ends.
-/

namespace Xmodem
namespace Metrics

/-- The counters after a packet goes out for the first time: only blocks are counted. -/
def introduce (metrics : Metrics Rat) (source : List UInt8) (place : Nat) : Metrics Rat :=
  if place < Packets.blockCount source then { metrics with blocks := metrics.blocks + 1 }
  else metrics

/-- The counters after a failed attempt. -/
def fail (metrics : Metrics Rat) : RetryTrigger → Metrics Rat
  | .timeout => { metrics with timeouts := metrics.timeouts + 1 }
  | .nak => { metrics with naks := metrics.naks + 1 }

/-- The counters after a packet goes out or arrives again. -/
def repeated (metrics : Metrics Rat) : Metrics Rat :=
  { metrics with retransmits := metrics.retransmits + 1 }

/-- The counters after a silent wait. -/
def silent (metrics : Metrics Rat) : Metrics Rat :=
  { metrics with timeouts := metrics.timeouts + 1 }

/-- The counters after a block was stored. -/
def stored (metrics : Metrics Rat) : Metrics Rat :=
  { metrics with blocks := metrics.blocks + 1 }

/-- The counters after a frame was refused. -/
def refused (metrics : Metrics Rat) : Metrics Rat :=
  { metrics with naks := metrics.naks + 1 }

@[simp]
theorem timeouts_introduce (metrics : Metrics Rat) (source : List UInt8) (place : Nat) :
    (metrics.introduce source place).timeouts = metrics.timeouts := by
  unfold introduce
  split <;> rfl

@[simp]
theorem retransmits_introduce (metrics : Metrics Rat) (source : List UInt8) (place : Nat) :
    (metrics.introduce source place).retransmits = metrics.retransmits := by
  unfold introduce
  split <;> rfl

/-- Every failed attempt that is followed by another one counts as a repetition. -/
theorem retransmits_repeated_fail {metrics : Metrics Rat} {failures : Nat}
    (counted : metrics.retransmits = failures) (trigger : RetryTrigger) :
    (metrics.fail trigger).repeated.retransmits = failures + 1 := by
  cases trigger <;> exact congrArg (· + 1) counted

end Metrics
end Xmodem
