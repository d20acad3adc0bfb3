import Xmodem.Quantity

/-!
# Retry policies

A policy bounds how often a block is sent again, how many silent waits are borne, and how long each
wait lasts.  Only checked policies exist.  Where quantities are exact, the check says that every
timeout is positive.
-/

namespace Xmodem

/-- The reasons to refuse a policy. -/
inductive PolicyError where
  /-- A negative number of retries. -/
  | negativeRetries
  /-- A timeout that is not positive. -/
  | timeoutNotPositive
  /-- No silent wait at all. -/
  | noHandshakeAttempt
  deriving DecidableEq, Repr

namespace PolicyError

/-- Explanation of an error. -/
def message : PolicyError → String
  | negativeRetries => "max_retries_per_block must be >= 0"
  | timeoutNotPositive => "timeouts must be positive"
  | noHandshakeAttempt => "max_handshake_attempts must be >= 1"

end PolicyError

/-- What to do after a failed attempt. -/
inductive Decision where
  /-- Try again. -/
  | retry
  /-- End the transfer. -/
  | giveUp
  deriving DecidableEq, Repr

namespace Decision

/-- Name of a decision. -/
def name : Decision → String
  | retry => "retry"
  | giveUp => "give-up"

end Decision

/-- Limits and timeouts of one transfer. -/
structure RetryPolicy (τ : Type) [Quantity τ] where
  /-- How often one block, or the end of transmission, may be sent again. -/
  maxRetries : Nat
  /-- Wait for one expected byte. -/
  byteTimeout : τ
  /-- Wait for the peer to begin a packet. -/
  handshakeTimeout : τ
  /-- Number of silent waits at which the transfer ends. -/
  maxHandshakeAttempts : Nat
  /-- How long the line has to be quiet after a damaged frame. -/
  purgeTimeout : τ
  timeouts_positive :
    ¬ Quantity.least (Quantity.least byteTimeout handshakeTimeout) purgeTimeout ≤ 0
  maxHandshakeAttempts_pos : 0 < maxHandshakeAttempts

/-- The numbers from which a policy is made. -/
structure PolicyLimits (τ : Type) where
  /-- How often one block, or the end of transmission, may be sent again. -/
  maxRetries : Int
  /-- Wait for one expected byte. -/
  byteTimeout : τ
  /-- Wait for the peer to begin a packet. -/
  handshakeTimeout : τ
  /-- Number of silent waits at which the transfer ends. -/
  maxHandshakeAttempts : Int
  /-- How long the line has to be quiet after a damaged frame. -/
  purgeTimeout : τ

namespace PolicyLimits

/-- Ten retries, one second for a byte, six waits of ten seconds, a tenth of a second of quiet. -/
def standard : PolicyLimits Float where
  maxRetries := 10
  byteTimeout := 1.0
  handshakeTimeout := 10.0
  maxHandshakeAttempts := 6
  purgeTimeout := 0.1

variable {τ : Type} [Quantity τ]

/-- The policy with given limits.  Retries are checked first and attempts last. -/
def check (limits : PolicyLimits τ) : Except PolicyError (RetryPolicy τ) :=
  if limits.maxRetries < 0 then
    .error .negativeRetries
  else if positive :
      Quantity.least (Quantity.least limits.byteTimeout limits.handshakeTimeout)
        limits.purgeTimeout ≤ 0 then
    .error .timeoutNotPositive
  else if attempts : limits.maxHandshakeAttempts < 1 then
    .error .noHandshakeAttempt
  else
    .ok
      { maxRetries := limits.maxRetries.toNat
        byteTimeout := limits.byteTimeout
        handshakeTimeout := limits.handshakeTimeout
        maxHandshakeAttempts := limits.maxHandshakeAttempts.toNat
        purgeTimeout := limits.purgeTimeout
        timeouts_positive := positive
        maxHandshakeAttempts_pos := by omega }

end PolicyLimits

namespace RetryPolicy

variable {τ : Type} [Quantity τ]

/-- What to do when an attempt failed after a number of retries.  Silence and damage draw on the
same budget. -/
def decide (policy : RetryPolicy τ) (retries : Int) : Decision :=
  if policy.maxRetries ≤ retries then .giveUp else .retry

/-- Whether a number of silent waits ends the transfer. -/
def exhausted (policy : RetryPolicy τ) (attempts : Int) : Bool :=
  policy.maxHandshakeAttempts ≤ attempts

@[simp]
theorem decide_eq_giveUp_iff (policy : RetryPolicy τ) (retries : Int) :
    policy.decide retries = .giveUp ↔ policy.maxRetries ≤ retries := by
  unfold decide
  split <;> simp_all

@[simp]
theorem exhausted_iff (policy : RetryPolicy τ) (attempts : Int) :
    policy.exhausted attempts = true ↔ policy.maxHandshakeAttempts ≤ attempts := by
  simp [exhausted]

end RetryPolicy
end Xmodem
