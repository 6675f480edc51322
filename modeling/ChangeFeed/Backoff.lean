/-
# Retry policies

A policy bounds how often a failing read is tried again and how long each wait is: the delay starts
at a base, doubles with every attempt up to the 32nd, is computed within 64 bits, and is capped.
-/

import ChangeFeed.Word

namespace ChangeFeed

structure Backoff where
  /-- The most retries in a row; 0 sets no bound. -/
  maxRetries : Nat := 3
  /-- The first delay, in milliseconds. -/
  baseDelay : Nat := 50
  /-- The largest delay, in milliseconds. -/
  maxDelay : Nat := 1000
  deriving DecidableEq, Repr

namespace Backoff

/-- Why a policy is refused. -/
inductive Defect where
  | zeroBaseDelay
  | maxBelowBase (maxDelay baseDelay : Nat)
  deriving DecidableEq, Repr

def Defect.message : Defect → String
  | .zeroBaseDelay => "base_delay_ms must be greater than 0"
  | .maxBelowBase maxDelay baseDelay =>
    "max_delay_ms(" ++ toString maxDelay ++ ") must not be less than base_delay_ms(" ++
      toString baseDelay ++ ")"

/-- The first defect of a policy, if it has one. -/
def defect? (policy : Backoff) : Option Defect :=
  if policy.baseDelay = 0 then some .zeroBaseDelay
  else if policy.maxDelay < policy.baseDelay then
    some (.maxBelowBase policy.maxDelay policy.baseDelay)
  else none

/-- Whether another attempt is allowed after so many failures in a row. -/
def allowsRetry (policy : Backoff) (attempts : Nat) : Bool :=
  policy.maxRetries == 0 || attempts < policy.maxRetries

/-- The delay before the attempt that follows `attempt` earlier ones, in milliseconds. -/
def delay (policy : Backoff) (attempt : Nat) : Nat :=
  min (min (policy.baseDelay * Nat.pow 2 (min attempt 32)) maxUInt64) policy.maxDelay

theorem delay_le_maxDelay (policy : Backoff) (attempt : Nat) :
    policy.delay attempt ≤ policy.maxDelay :=
  Nat.min_le_right _ _

end Backoff

end ChangeFeed
