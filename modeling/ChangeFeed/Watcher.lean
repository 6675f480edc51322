/-
# The watcher

The watcher is where everything meets: it takes the poller's events, keeps the known revisions and
the registry, decides when to poll, and marks the mailboxes of interested subscriptions.  Each of
its functions handles one input and runs to its end before the next.

Stopped subscriptions are unregistered through a queue, so a subscription may be stopped and still
registered for a while; marks on its closed mailbox do nothing.

Requests and events come over channels, whose capacities are set.  A watcher ends once, by a
shutdown or by a failure of its reader.  It then closes every registered subscription, forgets the
waiting sync requests, and tells the poller to stop.  An ended watcher refuses requests and ignores
events; its subscriptions can still be drained.
-/

import ChangeFeed.Channel
import ChangeFeed.Event
import ChangeFeed.Metrics
import ChangeFeed.Registry
import ChangeFeed.Settings
import ChangeFeed.Sync

namespace ChangeFeed

/-- Why a watcher refused a request. -/
inductive WatchError where
  /-- The watcher has ended. -/
  | stopped
  /-- The key names nothing that can be watched. -/
  | invalidKey (reason : String)
  /-- There is no reader. -/
  | readerUnavailable (reason : String)
  deriving DecidableEq, Repr

/-- The name of a kind of refusal. -/
def WatchError.kind : WatchError → String
  | .stopped => "Stopped"
  | .invalidKey _ => "InvalidWatchKey"
  | .readerUnavailable _ => "ReaderUnavailable"

def WatchError.message : WatchError → String
  | .stopped => "Watcher stopped"
  | .invalidKey reason => "Invalid watch key: " ++ reason
  | .readerUnavailable reason => "Log reader unavailable: " ++ reason

/-- How a watcher ended. -/
inductive Outcome where
  /-- It was shut down. -/
  | shutDown
  /-- Its reader failed for good. -/
  | failed (reason : String)
  deriving DecidableEq, Repr

/-- The channel from the watcher to the poller, which holds one poll at most. -/
structure PollSlot where
  waiting : Option Nat := none
  /-- Whether nobody is left to take polls. -/
  abandoned : Bool := false
  deriving DecidableEq, Repr

namespace PollSlot

/-- Puts a poll into the channel; fails if one waits there or nobody is left to take it. -/
def offer (slot : PollSlot) (seq : Nat) : Bool × PollSlot :=
  if slot.abandoned || slot.waiting.isSome then (false, slot)
  else (true, { slot with waiting := some seq })

/-- Takes the waiting poll. -/
def take (slot : PollSlot) : Option Nat × PollSlot :=
  (slot.waiting, { slot with waiting := none })

/-- Whoever took the polls goes, and with it the poll that waits. -/
def abandon (_ : PollSlot) : PollSlot :=
  ⟨none, true⟩

end PollSlot

/-- Every subscription ever handed out. -/
abbrev Subscriptions := Std.ExtTreeMap SubscriptionId Subscription

namespace Subscriptions

/-- Marks a document id in the mailbox of one subscription, and counts it if it is new there. -/
def mark (subscriptions : Subscriptions) (id : SubscriptionId) (document : String) :
    Nat × Subscriptions :=
  match subscriptions[id]? with
  | none => (0, subscriptions)
  | some subscription =>
    let (new, mailbox) := subscription.mailbox.mark document
    (new.toNat, subscriptions.insert id { subscription with mailbox })

/-- Marks in order, and counts the new ones. -/
def markEach (subscriptions : Subscriptions) : List (SubscriptionId × String) → Nat × Subscriptions
  | [] => (0, subscriptions)
  | (id, document) :: rest =>
    let (new, subscriptions) := subscriptions.mark id document
    let (count, subscriptions) := markEach subscriptions rest
    (new + count, subscriptions)

/-- Closes the mailboxes of some subscriptions. -/
def closeEach (subscriptions : Subscriptions) (ids : List SubscriptionId) (reason : CloseReason) :
    Subscriptions :=
  ids.foldl (fun subscriptions id => subscriptions.modify id fun subscription =>
    { subscription with mailbox := subscription.mailbox.close reason }) subscriptions

end Subscriptions

structure Watcher where
  strategy : Strategy
  /-- What it has seen of the log. -/
  knownState : KnownState := {}
  registry : Registry := {}
  subscriptions : Subscriptions := ∅
  nextId : SubscriptionId := 1
  desk : SyncDesk := {}
  /-- Stopped subscriptions that are still to be unregistered, oldest first. -/
  unregistering : List SubscriptionId := []
  polls : PollSlot := {}
  /-- The line over which the poller is stopped. -/
  readerStop : StopLine := {}
  metrics : Metrics := {}
  /-- How the watcher ended, if it has. -/
  outcome : Option Outcome := none

/-- What a watcher holds at one moment. -/
structure WatcherStats where
  subscriptions : Nat
  watchedKeys : Nat
  entityCollections : Nat
  knownDocuments : Nat
  pollsIssued : Nat
  syncWaiters : Nat
  deriving DecidableEq, Repr

namespace Watcher

def hasEnded (watcher : Watcher) : Bool :=
  watcher.outcome.isSome

def stats (watcher : Watcher) : WatcherStats where
  subscriptions := watcher.registry.size
  watchedKeys := watcher.registry.watchedKeys
  entityCollections := watcher.registry.entityCollections
  knownDocuments := watcher.knownState.size
  pollsIssued := watcher.desk.controller.pollsIssued
  syncWaiters := watcher.desk.controller.waiting

/-- Asks a watcher what it holds.  An ended watcher does not answer. -/
def askStats (watcher : Watcher) : Except WatchError WatcherStats :=
  if watcher.hasEnded then .error .stopped else .ok watcher.stats

/-! ## Changes -/

/-- The marks that news of a document causes: its id for everyone interested. -/
def marksFor (registry : Registry) (document : Document) : List (SubscriptionId × String) :=
  (registry.matching document).map fun id => (id, document.id)

/-- Marks, and counts the new marks. -/
def deliver (watcher : Watcher) (marks : List (SubscriptionId × String)) : Watcher :=
  let (count, subscriptions) := watcher.subscriptions.markEach marks
  { watcher with
    subscriptions
    metrics := { watcher.metrics with pendingMarks := watcher.metrics.pendingMarks + count } }

/-- Takes a change in: news is known from now on and reported to everyone interested, a replay is
only counted. -/
def apply (watcher : Watcher) (change : Change) : Watcher :=
  let metrics := watcher.metrics
  match watcher.knownState.observe change with
  | (true, knownState) =>
    { watcher with
      knownState
      metrics := { metrics with recordsApplied := metrics.recordsApplied + 1 } }.deliver
        (marksFor watcher.registry change.document)
  | (false, knownState) =>
    { watcher with
      knownState
      metrics := { metrics with duplicateRecords := metrics.duplicateRecords + 1 } }

/-- Takes changes in, in order. -/
def applyAll (watcher : Watcher) (changes : List Change) : Watcher :=
  changes.foldl apply watcher

/-- Reconciles after a discontinuity, and reports what the strategy suspects. -/
def reconcile (watcher : Watcher) (snapshot : Option Snapshot) : Watcher :=
  let (plan, knownState) := watcher.knownState.reconcile watcher.strategy snapshot
  let suspected := plan.suspects.toList.flatMap (marksFor watcher.registry)
  let watched := if plan.allWatchedEntities then watcher.registry.entities else []
  { watcher with knownState, metrics := watcher.metrics.reconciled watcher.strategy }.deliver
    (suspected ++ watched)

/-! ## Polls -/

/-- Hands a poll to the poller; one that it cannot take is forgotten. -/
def issue (watcher : Watcher) (poll : Option Nat) : Watcher :=
  match poll with
  | none => watcher
  | some seq =>
    match watcher.polls.offer seq with
    | (true, polls) => { watcher with polls }
    | (false, _) => { watcher with desk := watcher.desk.release seq }

/-- A tick of the poll clock.  The first one is due as soon as the watcher runs, but requests that
are there by then come before it. -/
def tick (watcher : Watcher) : Watcher :=
  if watcher.hasEnded then watcher
  else
    let (poll, desk) := watcher.desk.tick
    { watcher with desk }.issue poll

/-- Files a sync request under the next ticket.  An ended watcher will not answer it. -/
def requestSync (watcher : Watcher) : Watcher :=
  if watcher.hasEnded then { watcher with desk := watcher.desk.refuse }
  else
    let (poll, desk) := watcher.desk.request
    { watcher with desk }.issue poll

/-- Takes the poll that waits for the poller. -/
def takePoll (watcher : Watcher) : Option Nat × Watcher :=
  let (poll, polls) := watcher.polls.take
  (poll, { watcher with polls })

/-! ## Subscriptions -/

/-- Registers a subscription.  It starts with the documents it must hear of at once; these are not
counted as marks. -/
def watch (watcher : Watcher) (key : WatchKey) (since : Option Revno) :
    Except WatchError SubscriptionId × Watcher :=
  if watcher.hasEnded then (.error .stopped, watcher)
  else
    match key.defect? with
    | some defect => (.error (.invalidKey defect.message), watcher)
    | none =>
      let id := watcher.nextId
      let (_, mailbox) := Mailbox.markAll {} (watcher.knownState.catchUp key since)
      let metrics := watcher.metrics
      (.ok id,
        { watcher with
          nextId := id + 1
          registry := watcher.registry.insert id key
          subscriptions := watcher.subscriptions.insert id { key, mailbox }
          metrics := { metrics with activeSubscriptions := metrics.activeSubscriptions + 1 } })

/-- Unregisters a subscription, if it is registered. -/
def unregister (watcher : Watcher) (id : SubscriptionId) : Watcher :=
  match watcher.registry.remove? id with
  | none => watcher
  | some registry =>
    let metrics := watcher.metrics
    { watcher with
      registry
      metrics := { metrics with activeSubscriptions := metrics.activeSubscriptions - 1 } }

/-- Unregisters the subscription that was stopped first. -/
def unregisterNext (watcher : Watcher) : Watcher :=
  match watcher.unregistering with
  | [] => watcher
  | id :: rest => { watcher with unregistering := rest }.unregister id

/-- Unregisters every stopped subscription. -/
def settle (watcher : Watcher) : Watcher :=
  watcher.unregistering.foldl unregister { watcher with unregistering := [] }

/-- Puts a subscription back after its subscriber used it, and queues it if it has to be
unregistered.  An ended watcher no longer takes note of that. -/
def update (watcher : Watcher) (id : SubscriptionId) (subscription : Subscription)
    (unregister : Bool) : Watcher :=
  { watcher with
    subscriptions := watcher.subscriptions.insert id subscription
    unregistering :=
      if unregister && !watcher.hasEnded then watcher.unregistering ++ [id]
      else watcher.unregistering }

/-- The subscriber stops a subscription. -/
def stop (watcher : Watcher) (id : SubscriptionId) : Watcher :=
  match watcher.subscriptions[id]? with
  | none => watcher
  | some subscription =>
    let (unregister, subscription) := subscription.stop
    watcher.update id subscription unregister

/-- The subscriber gives a subscription up. -/
def drop (watcher : Watcher) (id : SubscriptionId) : Watcher :=
  match watcher.subscriptions[id]? with
  | none => watcher
  | some subscription =>
    let (unregister, subscription) := subscription.drop
    watcher.update id subscription unregister

/-- The subscriber takes what is pending. -/
def changes (watcher : Watcher) (id : SubscriptionId) : IdSet × Watcher :=
  match watcher.subscriptions[id]? with
  | none => (∅, watcher)
  | some subscription =>
    let (ids, subscription) := subscription.changes
    (ids, watcher.update id subscription false)

/-- The subscriber asks for the next changes. -/
def next (watcher : Watcher) (id : SubscriptionId) : Delivery × Watcher :=
  match watcher.subscriptions[id]? with
  | none => (.ended, watcher)
  | some subscription =>
    let (delivery, subscription) := subscription.next
    (delivery, watcher.update id subscription false)

/-- The subscriber asks the stream of a subscription for its next element. -/
def streamNext (watcher : Watcher) (id : SubscriptionId) : Delivery × Watcher :=
  match watcher.subscriptions[id]? with
  | none => (.ended, watcher)
  | some subscription =>
    let (delivery, unregister, subscription) := subscription.streamNext
    (delivery, watcher.update id subscription unregister)

/-! ## The end -/

/-- Ends the watcher: closes what is registered, forgets who waits, and stops the poller. -/
def finish (watcher : Watcher) (reason : CloseReason) (outcome : Outcome) : Watcher :=
  let metrics := watcher.metrics
  { watcher with
    subscriptions := watcher.subscriptions.closeEach watcher.registry.ids reason
    metrics :=
      { metrics with activeSubscriptions := metrics.activeSubscriptions - watcher.registry.size }
    registry := {}
    desk := watcher.desk.failAll
    unregistering := []
    readerStop := watcher.readerStop.signal.2
    outcome := some outcome }

/-- A shutdown, by a signal or because nobody is left to give one. -/
def shutDown (watcher : Watcher) : Watcher :=
  if watcher.hasEnded then watcher else watcher.finish .shutdown .shutDown

/-- The poller went without a word. -/
def readerLost (watcher : Watcher) : Watcher :=
  if watcher.hasEnded then watcher
  else watcher.finish .fatal (.failed "log reader exited unexpectedly")

/-- Handles one event of the poller. -/
def receive (watcher : Watcher) (event : Event) : Watcher :=
  if watcher.hasEnded then watcher
  else
    match event with
    | .primed changes => watcher.applyAll changes
    | .batch changes => watcher.applyAll changes
    | .discontinuity snapshot => watcher.reconcile snapshot
    | .cycleComplete seq =>
      let (poll, desk) := watcher.desk.complete seq
      { watcher with desk }.issue poll
    | .cycleAborted seq _ => { watcher with desk := watcher.desk.release seq }
    | .fatal reason => watcher.finish .fatal (.failed reason)

/-- Handles events in order. -/
def receiveAll (watcher : Watcher) (events : List Event) : Watcher :=
  events.foldl receive watcher

/-! ## The start -/

/-- What speaks against the channels that are set, in the order of requests and events. -/
def channelDefect? (settings : WatcherSettings) : Option Channel.Defect :=
  Channel.defect? settings.commandBuffer <|> Channel.defect? settings.readerBuffer

/-- A watcher that has just started, before the first tick of its poll clock. -/
def start (strategy : Strategy) : Watcher :=
  { strategy }

/-- Starts a watcher as it is set, but with a given strategy.  It has failed from the start if its
poll clock has no period. -/
def ofSettings (settings : WatcherSettings) (strategy : Strategy) :
    Except Channel.Defect Watcher :=
  match channelDefect? settings with
  | some defect => .error defect
  | none =>
    if settings.pollInterval = 0 then
      .ok { strategy, outcome := some (.failed "`period` must be non-zero.") }
    else .ok (start strategy)

end Watcher

end ChangeFeed
