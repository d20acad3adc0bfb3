import Mathlib.Tactic.Linarith
import Xmodem.RetryPolicy

/-!
# Exact timeouts

Over the rational numbers, a checked policy has positive timeouts, and a deadline has passed exactly
when nothing remains until it.
-/

namespace Xmodem

namespace Quantity

theorem least_le_left (first second : Rat) : least first second ≤ first := by
  unfold least
  split <;> linarith

theorem least_le_right (first second : Rat) : least first second ≤ second := by
  unfold least
  split <;> linarith

end Quantity

namespace RetryPolicy

variable (policy : RetryPolicy Rat)

theorem byteTimeout_pos : 0 < policy.byteTimeout :=
  (not_le.mp policy.timeouts_positive).trans_le
    ((Quantity.least_le_left ..).trans (Quantity.least_le_left ..))

theorem handshakeTimeout_pos : 0 < policy.handshakeTimeout :=
  (not_le.mp policy.timeouts_positive).trans_le
    ((Quantity.least_le_left ..).trans (Quantity.least_le_right ..))

theorem purgeTimeout_pos : 0 < policy.purgeTimeout :=
  (not_le.mp policy.timeouts_positive).trans_le (Quantity.least_le_right ..)

theorem lt_add_byteTimeout (now : Rat) : now < now + policy.byteTimeout :=
  lt_add_of_pos_right now policy.byteTimeout_pos

theorem lt_add_handshakeTimeout (now : Rat) : now < now + policy.handshakeTimeout :=
  lt_add_of_pos_right now policy.handshakeTimeout_pos

theorem lt_add_purgeTimeout (now : Rat) : now < now + policy.purgeTimeout :=
  lt_add_of_pos_right now policy.purgeTimeout_pos

theorem decide_of_lt {retries : Nat} (few : retries < policy.maxRetries) :
    policy.decide retries = .retry := by
  simp [decide, few]

theorem decide_of_le {retries : Nat} (many : policy.maxRetries ≤ retries) :
    policy.decide retries = .giveUp := by
  simp [many]

/-- A policy of small numbers, for examples. -/
def brief : RetryPolicy Rat where
  maxRetries := 3
  byteTimeout := 1
  handshakeTimeout := 4
  maxHandshakeAttempts := 2
  purgeTimeout := 1 / 4
  timeouts_positive := by decide +kernel
  maxHandshakeAttempts_pos := by decide

end RetryPolicy
end Xmodem
