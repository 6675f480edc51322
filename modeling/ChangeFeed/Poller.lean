/-
# Poll cycles

A poller serves one poll at a time.  A cycle reads until the reader has caught up, and sends each
batch before it commits it.  Retryable errors are tried again as the retry policy allows, counted
since the last batch or fresh start; a cycle whose retries are used up gives up and leaves its
place.  A rejected resume position makes the next turn start anew from a snapshot, and that turn is
owed until it succeeds, across cycles if need be.

A cycle stops short when the watcher is gone, or when it is told to stop while it waits to retry.

A cycle is a sequence of turns.  Each turn but the last uses up something that the source holds
ready as long as the source honours the position that its own snapshot names; `cycle` allows the
turns that this takes, and says so when they did not suffice.
-/

import ChangeFeed.Backoff
import ChangeFeed.Event
import ChangeFeed.Reader

namespace ChangeFeed

/-- Whether a poller goes on serving polls. -/
inductive Flow where
  | serving
  | stopped
  deriving DecidableEq, Repr

/-- What one turn leaves to do: another turn after so many failures in a row, or nothing. -/
inductive Turn where
  | again (attempts : Nat)
  | finished (flow : Flow)
  deriving DecidableEq, Repr

structure Poller (σ κ : Type) where
  reader : Reader σ κ
  policy : Backoff
  /-- The resume position is lost and a fresh start is owed. -/
  needsFreshStart : Bool := false
  /-- The line over which the watcher stops the poller. -/
  stopLine : StopLine := {}
  /-- Whether there is still a watcher to send events to. -/
  watched : Bool := true
  /-- Events sent and not yet received, oldest first. -/
  outbox : List Event := []
  /-- How many reads were tried again, in all. -/
  retries : Nat := 0

namespace Poller

variable {σ κ : Type}

/-- Sends an event.  Without a watcher nothing is sent and the poller stops. -/
def send (poller : Poller σ κ) (event : Event) : Flow × Poller σ κ :=
  if poller.watched then (.serving, { poller with outbox := poller.outbox ++ [event] })
  else (.stopped, poller)

/-- Reports that nothing more can be read, and stops. -/
def fail (poller : Poller σ κ) (reason : String) : Turn × Poller σ κ :=
  (.finished .stopped, (poller.send (.fatal reason)).2)

/-- Waits before the next attempt; a stop that arrives meanwhile ends the cycle. -/
def wait (poller : Poller σ κ) (attempts : Nat) : Turn × Poller σ κ :=
  let (interrupted, stopLine) := poller.stopLine.interrupts
  let poller := { poller with retries := poller.retries + 1, stopLine }
  if interrupted then (.finished .stopped, poller) else (.again (attempts + 1), poller)

/-- Gives the cycle up.  The cursor is dropped, the committed position stays. -/
def abort (poller : Poller σ κ) (seq : Nat) (error : ReadError) : Turn × Poller σ κ :=
  let poller := { poller with reader := poller.reader.resetCursor }
  let (flow, poller) := poller.send (.cycleAborted seq error.message)
  (.finished flow, poller)

/-- Tries again as far as the policy allows, and gives up after that. -/
def retry (poller : Poller σ κ) (seq attempts : Nat) (error : ReadError) : Turn × Poller σ κ :=
  if poller.policy.allowsRetry attempts then poller.wait attempts else poller.abort seq error

/-- Sends a batch and commits it once it has been handed over. -/
def handOver (poller : Poller σ κ) (batch : Batch) : Turn × Poller σ κ :=
  match poller.send (.batch batch.changes) with
  | (.stopped, poller) => (.finished .stopped, poller)
  | (.serving, poller) =>
    match batch.position with
    | none => (.again 0, poller)
    | some position => (.again 0, { poller with reader := poller.reader.commit position })

variable [Source σ κ]

/-- A turn that owes a fresh start. -/
def freshStartTurn (poller : Poller σ κ) (seq attempts : Nat) : Turn × Poller σ κ :=
  match poller.reader.reopenFresh with
  | (.ok snapshot, reader) =>
    match { poller with reader, needsFreshStart := false }.send (.discontinuity snapshot) with
    | (.serving, poller) => (.again 0, poller)
    | (.stopped, poller) => (.finished .stopped, poller)
  | (.error (.fatal reason), reader) => { poller with reader }.fail reason
  | (.error error, reader) => { poller with reader }.retry seq attempts error

/-- A turn that reads a batch. -/
def readTurn (poller : Poller σ κ) (seq attempts : Nat) : Turn × Poller σ κ :=
  match poller.reader.next with
  | (.ok batch, reader) =>
    let poller := { poller with reader }
    if batch.isEmpty then
      let (flow, poller) := poller.send (.cycleComplete seq)
      (.finished flow, poller)
    else poller.handOver batch
  | (.error (.resumeRejected _), reader) =>
    (.again attempts, { poller with reader, needsFreshStart := true })
  | (.error (.fatal reason), reader) => { poller with reader }.fail reason
  | (.error (.retryable reason), reader) =>
    { poller with reader }.retry seq attempts (.retryable reason)

/-- One turn of the cycle `seq`. -/
def turn (poller : Poller σ κ) (seq attempts : Nat) : Turn × Poller σ κ :=
  if poller.needsFreshStart then poller.freshStartTurn seq attempts
  else poller.readTurn seq attempts

/-- At most `fuel` turns of the cycle `seq`; no flow if that many did not end it. -/
def turns (seq : Nat) : Nat → Nat → Poller σ κ → Option Flow × Poller σ κ
  | 0, _, poller => (none, poller)
  | fuel + 1, attempts, poller =>
    match poller.turn seq attempts with
    | (.again attempts, poller) => turns seq fuel attempts poller
    | (.finished flow, poller) => (some flow, poller)

/-- More turns than a cycle takes on a source that honours its own positions. -/
def turnBound (poller : Poller σ κ) : Nat :=
  4 * Source.backlog poller.reader.source + 16

/-- The cycle `seq`: reads until the reader has caught up. -/
def cycle (poller : Poller σ κ) (seq : Nat) : Option Flow × Poller σ κ :=
  turns seq poller.turnBound 0 poller

/-- One attempt at taking a snapshot to start from.  Without a snapshot, and when the retries are
used up, the poller starts without one. -/
def primeTurn (poller : Poller σ κ) (attempts : Nat) : Turn × Poller σ κ :=
  match poller.reader.prime with
  | (.ok none, reader) => (.finished .serving, { poller with reader })
  | (.ok (some snapshot), reader) =>
    let (flow, poller) := { poller with reader }.send (.primed snapshot.changes)
    (.finished flow, poller)
  | (.error (.fatal reason), reader) => { poller with reader }.fail reason
  | (.error _, reader) =>
    let poller := { poller with reader }
    if poller.policy.allowsRetry attempts then poller.wait attempts
    else (.finished .serving, poller)

/-- At most `fuel` attempts at a snapshot. -/
def primeTurns : Nat → Nat → Poller σ κ → Option Flow × Poller σ κ
  | 0, _, poller => (none, poller)
  | fuel + 1, attempts, poller =>
    match poller.primeTurn attempts with
    | (.again attempts, poller) => primeTurns fuel attempts poller
    | (.finished flow, poller) => (some flow, poller)

/-- Takes a snapshot to start from, trying again as the policy allows. -/
def prime (poller : Poller σ κ) : Option Flow × Poller σ κ :=
  primeTurns poller.turnBound 0 poller

/-- Serves polls in order until one stops the poller. -/
def serve (poller : Poller σ κ) : List Nat → Option Flow × Poller σ κ
  | [] => (some .serving, poller)
  | seq :: rest =>
    match poller.cycle seq with
    | (some .serving, poller) => serve poller rest
    | stopped => stopped

/-- The whole life of a poller whose polls are given in advance: a snapshot first if it is to
prime, then the polls. -/
def run (poller : Poller σ κ) (primes : Bool) (polls : List Nat) : Option Flow × Poller σ κ :=
  if primes then
    match poller.prime with
    | (some .serving, poller) => poller.serve polls
    | stopped => stopped
  else poller.serve polls

/-- The events sent and not yet received, taken out. -/
def takeEvents (poller : Poller σ κ) : List Event × Poller σ κ :=
  (poller.outbox, { poller with outbox := [] })

end Poller

end ChangeFeed
