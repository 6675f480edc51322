/-
# What a poller tells the watcher

Events travel from the poller to the watcher in the order in which they were sent.  A poll cycle
sends batches and discontinuities and ends with one of three events: it reached the head of the log,
it gave up, or the source failed for good.
-/

import ChangeFeed.Source

namespace ChangeFeed

inductive Event where
  /-- Changes of a snapshot that seed the known revisions. -/
  | primed (changes : List Change)
  /-- Changes in commit order. -/
  | batch (changes : List Change)
  /-- The resume position was lost and reading starts anew, after the snapshot if there is one. -/
  | discontinuity (snapshot : Option Snapshot)
  /-- The cycle with this number reached the head of the log. -/
  | cycleComplete (seq : Nat)
  /-- The cycle with this number gave up. -/
  | cycleAborted (seq : Nat) (reason : String)
  /-- Nothing more can be read. -/
  | fatal (reason : String)
  deriving DecidableEq, Repr

/-- A line over which one side tells the other to stop.  It holds one signal at most, and can be
cut by its sender. -/
structure StopLine where
  signalled : Bool := false
  severed : Bool := false
  deriving DecidableEq, Repr

namespace StopLine

/-- Puts a signal on the line; fails if one waits there already or the line is cut. -/
def signal (line : StopLine) : Bool × StopLine :=
  if line.signalled || line.severed then (false, line) else (true, { line with signalled := true })

/-- Takes the signal off the line, if there is one. -/
def take (line : StopLine) : Bool × StopLine :=
  (line.signalled, { line with signalled := false })

/-- The sender goes; a signal already sent stays. -/
def sever (line : StopLine) : StopLine :=
  { line with severed := true }

/-- Whether a listener that waits on the line must stop.  It stops for a signal, which is used up,
and for a cut line. -/
def interrupts (line : StopLine) : Bool × StopLine :=
  (line.signalled || line.severed, { line with signalled := false })

end StopLine

end ChangeFeed
