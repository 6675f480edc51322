/-
# Subscriptions

A subscriber holds a subscription as a handle, takes changes through it, and can turn it once into a
stream that ends with the subscription.  Stopping closes the mailbox and unregisters the
subscription with the watcher, the first time only; a handle or stream that is given up stops, and
so does a stream that has ended.
-/

import ChangeFeed.Mailbox
import ChangeFeed.WatchKey

namespace ChangeFeed

/-- Subscriptions are numbered within one watcher, from 1. -/
abbrev SubscriptionId := Nat

/-- How a subscriber holds a subscription. -/
inductive Handle where
  | held
  /-- Turned into a stream. -/
  | streaming
  /-- Turned into a stream, which has ended. -/
  | exhausted
  /-- Given up. -/
  | dropped
  deriving DecidableEq, Repr

structure Subscription where
  key : WatchKey
  mailbox : Mailbox := {}
  /-- Whether the subscriber stopped it. -/
  stopped : Bool := false
  handle : Handle := .held

namespace Subscription

/-- Stops delivery.  The first stop has to be made known to the watcher. -/
def stop (subscription : Subscription) : Bool × Subscription :=
  if subscription.stopped then (false, subscription)
  else
    (true, { subscription with stopped := true, mailbox := subscription.mailbox.close .stopped })

/-- Gives the handle or the stream up, which stops the subscription. -/
def drop (subscription : Subscription) : Bool × Subscription :=
  let (unregister, subscription) := subscription.stop
  (unregister, { subscription with handle := .dropped })

/-- Takes what is pending. -/
def changes (subscription : Subscription) : IdSet × Subscription :=
  let (ids, mailbox) := subscription.mailbox.drain
  (ids, { subscription with mailbox })

/-- Asks for the next changes without waiting. -/
def next (subscription : Subscription) : Delivery × Subscription :=
  let (delivery, mailbox) := subscription.mailbox.next
  (delivery, { subscription with mailbox })

/-- Asks the stream for its next element without waiting.  The handle becomes a stream if it is
none; at the end of the stream the subscription inside is stopped, which may have to be made known
to the watcher. -/
def streamNext (subscription : Subscription) : Delivery × Bool × Subscription :=
  match subscription.handle with
  | .exhausted | .dropped => (.ended, false, subscription)
  | .held | .streaming =>
    match subscription.next with
    | (.ended, subscription) =>
      let (unregister, subscription) := subscription.stop
      (.ended, unregister, { subscription with handle := .exhausted })
    | (delivery, subscription) => (delivery, false, { subscription with handle := .streaming })

/-- The subscription as diagnostics show it. -/
def debug (id : SubscriptionId) (subscription : Subscription) : String :=
  let closed :=
    match subscription.mailbox.closed with
    | none => "None"
    | some reason => "Some(" ++ reason.debug ++ ")"
  "Subscription \x7b id: SubscriptionId(" ++ toString id ++ "), key: " ++ subscription.key.debug ++
    ", pending: " ++ toString subscription.mailbox.pending.size ++ ", closed: " ++ closed ++ " \x7d"

end Subscription

end ChangeFeed
