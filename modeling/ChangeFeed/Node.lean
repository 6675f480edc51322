/-
# A node

A node is a log in memory, the poller that reads it and the watcher that serves its subscribers, put
together.  The poller runs whenever a poll waits for it and its events reach the watcher in order.
When neither has anything to do, time passes until the next idle poll.  The first one is due as soon
as the node has started.

A poller that stops leaves no more events; what it sent before still reaches the watcher.
-/

import ChangeFeed.MemoryLog
import ChangeFeed.Poller
import ChangeFeed.Settings
import ChangeFeed.Watcher

namespace ChangeFeed

structure Node where
  poller : Poller MemoryLog MemoryLog.Cursor
  watcher : Watcher
  /-- Whether the poller still serves polls. -/
  polling : Bool := true

namespace Node

/-- Why a node does not start. -/
inductive StartFault where
  | settings (defect : SettingsDefect)
  | channel (defect : Channel.Defect)
  deriving DecidableEq, Repr

def log (node : Node) : MemoryLog :=
  node.poller.reader.source

/-- The node after its log was changed from outside. -/
def setLog (node : Node) (log : MemoryLog) : Node :=
  { node with poller.reader.source := log }

/-- Everything counted, the poller's retries included. -/
def metrics (node : Node) : Metrics :=
  { node.watcher.metrics with readerRetries := node.poller.retries }

/-- A node's poller before it starts. -/
def newPoller (settings : Settings) (log : MemoryLog) : Poller MemoryLog MemoryLog.Cursor where
  reader := Reader.ofSource log none settings.watcher.maxBatch
  policy := settings.retry.logReader

/-- Hands the poller's events to the watcher. -/
def deliver (node : Node) : Node :=
  let (events, poller) := node.poller.takeEvents
  { node with poller, watcher := (node.watcher.receiveAll events).settle }

/-- Starts a node: the poller takes a snapshot if it is to.  Refuses settings with a defect, and those
that call for a channel that there is not. -/
def start (settings : Settings) (strategy : Option Strategy) (log : MemoryLog) :
    Except StartFault Node :=
  match settings.defect? with
  | some defect => .error (.settings defect)
  | none => do
    let watcher ←
      (Watcher.ofSettings settings.watcher (strategy.getD settings.watcher.reconcile)).mapError
        .channel
    let poller := newPoller settings log
    let node : Node :=
      if settings.watcher.primeFromSnapshot then
        let (flow, poller) := poller.prime
        { poller, watcher, polling := flow == some .serving }
      else { poller, watcher }
    return node.deliver

/-- Serves the poll that waits, if one does, and hands the events over. -/
def servePoll (node : Node) : Node :=
  match node.polling, node.watcher.takePoll with
  | true, (some seq, watcher) =>
    let (flow, poller) := node.poller.cycle seq
    { poller, watcher, polling := flow == some .serving : Node }.deliver
  | _, _ => node

/-- Time passes until the poll clock ticks. -/
def tick (node : Node) : Node :=
  { node with watcher := node.watcher.tick }

/-- Whether there is something to wait for: an open request on a watcher that runs. -/
def isWaiting (node : Node) : Bool :=
  !node.watcher.hasEnded && node.watcher.desk.controller.waiting != 0

/-- Runs until no request waits or the watcher has ended, for at most `fuel` polls.  A poll that
gave up is followed by the next idle one. -/
def runUntilAnswered : Nat → Node → Node
  | 0, node => node
  | fuel + 1, node =>
    if node.isWaiting then
      let node := node.servePoll
      let node := if node.isWaiting then node.tick else node
      runUntilAnswered fuel node
    else node

/-- More polls than a request has to wait for: each poll that gives up uses up a fault. -/
def pollBound (node : Node) : Nat :=
  2 * node.log.backlog + 8

/-- Asks for a sync and waits for it.  Fails if the watcher ends without answering. -/
def sync (node : Node) : Except WatchError Unit × Node :=
  let node := { node with watcher := node.watcher.requestSync }
  let node := node.runUntilAnswered node.pollBound
  match node.watcher.desk.requests.getLast? with
  | some .done => (.ok (), node)
  | _ => (.error .stopped, node)

/-- Changes the watcher, and lets it take note of stopped subscriptions. -/
def withWatcher (node : Node) (watcher : Watcher) : Node :=
  { node with watcher := watcher.settle }

/-- Shuts the node down. -/
def shutDown (node : Node) : Node :=
  { node with watcher := node.watcher.shutDown, polling := false }

end Node

end ChangeFeed
