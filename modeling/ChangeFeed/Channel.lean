/-
# Channels

A channel holds as many messages as its capacity says.  It must be able to hold one, and there is a
limit to what it can count.  A channel is never seen full here: what it is for takes its messages
before more of them come.
-/

namespace ChangeFeed

namespace Channel

/-- Why there is no channel of some capacity. -/
inductive Defect where
  /-- It could hold nothing. -/
  | noCapacity
  /-- It could hold more than is counted. -/
  | tooMuchCapacity
  deriving DecidableEq, Repr

/-- The most messages that a channel can hold. -/
def maxCapacity : Nat := 2305843009213693951

def Defect.message : Defect → String
  | .noCapacity => "mpsc bounded channel requires buffer > 0"
  | .tooMuchCapacity =>
    "a semaphore may not have more than MAX_PERMITS permits (" ++ toString maxCapacity ++ ")"

/-- What speaks against a capacity. -/
def defect? (capacity : Nat) : Option Defect :=
  if capacity = 0 then some .noCapacity
  else if maxCapacity < capacity then some .tooMuchCapacity
  else none

end Channel

end ChangeFeed
