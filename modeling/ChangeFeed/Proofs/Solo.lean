/-
# A subscription with a watcher of its own

What a subscription is due can be said without a registry. A `Solo` is a watcher that serves one
subscription and nobody else: it folds the events over what is known, marks what the key covers, and
lets the subscriber use the mailbox. It is what a watcher is compared with when one asks whether the
other subscriptions can be felt.

`Occurrence` is anything that happens to a watcher, and `Sight` is what one of its subscriptions has to
do with it: the events and the end of the watcher are seen by all, the uses of a subscription by that
one only, and what others ask of the watcher by none.
-/

import ChangeFeed.Proofs.Interest

namespace ChangeFeed

/-! ## What occurs, and who sees it -/

/-- How a subscriber uses a subscription. -/
inductive Use where
  | stop
  | drop
  | changes
  | next
  | streamNext
  deriving DecidableEq, Repr

/-- What a subscriber gets for using a subscription. -/
inductive Receipt where
  /-- What was pending, be it nothing. -/
  | taken (ids : IdSet)
  /-- The answer to a request for the next changes. -/
  | answer (delivery : Delivery)

/-- What one subscription sees of a watcher's life. -/
inductive Sight where
  /-- The watcher handles an event. -/
  | told (event : Event)
  /-- The subscriber uses the subscription. -/
  | used (use : Use)
  /-- The watcher is brought to its end. -/
  | ended (reason : CloseReason)
  deriving DecidableEq, Repr

namespace Subscription

/-- The subscription after it was used. -/
def use (subscription : Subscription) : Use → Subscription
  | .stop => subscription.stop.2
  | .drop => subscription.drop.2
  | .changes => subscription.changes.2
  | .next => subscription.next.2
  | .streamNext => subscription.streamNext.2.2

/-- What the subscriber gets, if the use brings anything. -/
def receipt? (subscription : Subscription) : Use → Option Receipt
  | .stop | .drop => none
  | .changes => some (.taken subscription.changes.1)
  | .next => some (.answer subscription.next.1)
  | .streamNext => some (.answer subscription.streamNext.1)

end Subscription

namespace Watcher

/-- What can occur to a watcher. -/
inductive Occurrence where
  /-- It handles an event. -/
  | handled (event : Event)
  /-- It is asked something. -/
  | asked (input : Input)
  /-- The poll that it has issued is taken. -/
  | polled
  deriving DecidableEq, Repr

/-- The use of a subscription that a watcher is asked for. -/
def Input.use? : Input → Option (SubscriptionId × Use)
  | .stop id => some (id, .stop)
  | .drop id => some (id, .drop)
  | .changes id => some (id, .changes)
  | .next id => some (id, .next)
  | .streamNext id => some (id, .streamNext)
  | .tick | .requestSync | .giveUp _ | .watch _ _ | .unregisterNext | .shutDown | .readerLost
  | .abandonPolls => none

/-- The reason for which a watcher is asked to close its subscriptions. -/
def Input.closing? : Input → Option CloseReason
  | .shutDown => some .shutdown
  | .readerLost => some .fatal
  | .tick | .requestSync | .giveUp _ | .watch _ _ | .unregisterNext | .stop _ | .drop _ | .changes _
  | .next _ | .streamNext _ | .abandonPolls => none

/-- What a subscription sees of what a watcher is asked. -/
def Input.seenBy (id : SubscriptionId) (input : Input) : Option Sight :=
  match input.use? with
  | some (other, use) => if other = id then some (.used use) else none
  | none => input.closing?.map .ended

/-- What a subscription sees of an occurrence. -/
def Occurrence.seenBy (id : SubscriptionId) : Occurrence → Option Sight
  | .handled event => some (.told event)
  | .asked input => input.seenBy id
  | .polled => none

/-- The event that is handled. -/
def Occurrence.event? : Occurrence → Option Event
  | .handled event => some event
  | .asked _ | .polled => none

/-- The watcher after an occurrence. -/
def undergo (watcher : Watcher) : Occurrence → Watcher
  | .handled event => watcher.receive event
  | .asked input => watcher.take input
  | .polled => watcher.takePoll.2

/-- The watcher after occurrences, in order. -/
def run (watcher : Watcher) (occurrences : List Occurrence) : Watcher :=
  occurrences.foldl undergo watcher

/-- What the subscriber of a subscription gets in an occurrence. -/
def receipt? (watcher : Watcher) (id : SubscriptionId) : Occurrence → Option Receipt
  | .asked (.changes other) => if other = id then some (.taken (watcher.changes id).1) else none
  | .asked (.next other) => if other = id then some (.answer (watcher.next id).1) else none
  | .asked (.streamNext other) => if other = id then some (.answer (watcher.streamNext id).1) else none
  | _ => none

/-- What the subscriber of a subscription gets in the course of occurrences. -/
def receipts (id : SubscriptionId) : Watcher → List Occurrence → List Receipt
  | _, [] => []
  | watcher, occurrence :: rest =>
    (watcher.receipt? id occurrence).toList ++ receipts id (watcher.undergo occurrence) rest

end Watcher

/-! ## The reference -/

/-- A watcher that serves one subscription. -/
structure Solo where
  strategy : Strategy
  knownState : KnownState
  subscription : Subscription
  hasEnded : Bool := false

/-- The ids under a key that a reconciliation asks to report: those of the suspects that the key
covers, and that of the document which it watches singly. -/
def Reconciliation.idsUnder (plan : Reconciliation) (key : WatchKey) : List String :=
  (plan.suspects.toList.filter key.covers).map (·.id) ++
    match key with
    | .entity document => if plan.allWatchedEntities then [document.id] else []
    | .collection _ => []

namespace Solo

/-- A new subscription, when so much is known. -/
def start (strategy : Strategy) (knownState : KnownState) (key : WatchKey) (since : Option Revno) :
    Solo where
  strategy
  knownState
  subscription := { key, mailbox := (Mailbox.markAll {} (knownState.catchUp key since)).2 }

/-- What the solo has seen of the log, as one table of documents. -/
def known (solo : Solo) : Revisions :=
  solo.knownState.revisions

/-- Marks ids in the mailbox. -/
def mark (solo : Solo) (ids : List String) : Solo :=
  { solo with subscription.mailbox := (solo.subscription.mailbox.markAll ids).2 }

/-- Takes a change in: news is known from now on, and marked if the key covers its document. -/
def apply (solo : Solo) (change : Change) : Solo :=
  let (isNews, knownState) := solo.knownState.observe change
  { solo with knownState }.mark
    (if isNews && solo.subscription.key.covers change.document then [change.document.id] else [])

/-- Closes the mailbox for good. -/
def close (solo : Solo) (reason : CloseReason) : Solo :=
  { solo with
    subscription.mailbox := solo.subscription.mailbox.close reason
    hasEnded := true }

/-- Handles an event. -/
def receive (solo : Solo) : Event → Solo
  | .primed changes | .batch changes => changes.foldl apply solo
  | .discontinuity snapshot =>
    let (plan, knownState) := solo.knownState.reconcile solo.strategy snapshot
    { solo with knownState }.mark (plan.idsUnder solo.subscription.key)
  | .cycleComplete _ | .cycleAborted _ _ => solo
  | .fatal _ => solo.close .fatal

/-- The solo after what its subscription sees. After the end only the subscriber goes on. -/
def see (solo : Solo) : Sight → Solo
  | .told event => if solo.hasEnded then solo else solo.receive event
  | .used use => { solo with subscription := solo.subscription.use use }
  | .ended reason => if solo.hasEnded then solo else solo.close reason

/-- The solo after sights, in order. -/
def run (solo : Solo) (sights : List Sight) : Solo :=
  sights.foldl see solo

/-- What the subscriber gets for what the subscription sees. -/
def receipt? (solo : Solo) : Sight → Option Receipt
  | .used use => solo.subscription.receipt? use
  | .told _ | .ended _ => none

/-- What the subscriber gets in the course of sights. -/
def receipts : Solo → List Sight → List Receipt
  | _, [] => []
  | solo, sight :: rest => (solo.receipt? sight).toList ++ receipts (solo.see sight) rest

/-! ## What an event comes to -/

variable {solo : Solo} {event : Event} {text : String}

/-- The ids under a key that changes bring news of, when they are taken in, in order. -/
def newsUnder (key : WatchKey) (known : Revisions) : List Change → List String
  | [] => []
  | change :: rest =>
    (if known.isNews change && key.covers change.document then [change.document.id] else []) ++
      newsUnder key (known.observe change) rest

/-- The ids that an event marks. -/
def marksOf (solo : Solo) : Event → List String
  | .primed changes | .batch changes => newsUnder solo.subscription.key solo.known changes
  | .discontinuity snapshot =>
    (solo.knownState.reconcile solo.strategy snapshot).1.idsUnder solo.subscription.key
  | .cycleComplete _ | .cycleAborted _ _ | .fatal _ => []

theorem mark_mark (solo : Solo) (first second : List String) :
    (solo.mark first).mark second = solo.mark (first ++ second) := by
  simp only [mark, Mailbox.markAll_append]

theorem applyAll_eq (solo : Solo) (changes : List Change) :
    changes.foldl apply solo =
      { solo with knownState := solo.knownState.observeAll changes }.mark
        (newsUnder solo.subscription.key solo.known changes) := by
  induction changes generalizing solo with
  | nil => rfl
  | cons change rest ih =>
    have learned : (solo.apply change).known = solo.known.observe change :=
      solo.knownState.revisions_observe change
    rw [List.foldl_cons, ih, learned, newsUnder, known, KnownState.isNews_revisions]
    exact mark_mark { solo with knownState := solo.knownState.observeAll (change :: rest) } _ _

/-- **An event about the log makes its changes known and its marks**, and does nothing else. -/
theorem receive_eq (isAboutLog : event.isAboutLog = true) :
    solo.receive event =
      { solo with knownState := solo.knownState.observeAll event.changes }.mark
        (solo.marksOf event) := by
  cases event with
  | primed changes | batch changes => exact solo.applyAll_eq changes
  | discontinuity snapshot =>
    rw [Event.changes, ← KnownState.reconcile_known _ solo.strategy]
    rfl
  | cycleComplete _ | cycleAborted _ _ | fatal _ => cases isAboutLog

theorem receive_known (isAboutLog : event.isAboutLog = true) :
    (solo.receive event).known = solo.known.observeAll event.changes := by
  rw [receive_eq isAboutLog]
  exact solo.knownState.revisions_observeAll event.changes

theorem mem_newsUnder_iff {key : WatchKey} {known : Revisions} {changes : List Change} :
    text ∈ newsUnder key known changes ↔ ∃ document, key.covers document = true ∧
      document.id = text ∧ document ∈ known.newsIn changes := by
  induction changes generalizing known with
  | nil => simp [newsUnder, Revisions.newsIn]
  | cons change rest ih =>
    by_cases news : known.isNews change = true
    · have here : text ∈ (if key.covers change.document then [change.document.id] else []) ↔
          ∃ document, key.covers document = true ∧ document.id = text ∧ change.document = document := by
        constructor
        · intro listed
          split at listed
          · next covers => exact ⟨_, covers, (List.mem_singleton.mp listed).symm, rfl⟩
          · cases listed
        · rintro ⟨document, covers, rfl, rfl⟩
          rw [if_pos covers]
          exact List.mem_singleton_self _
      simp only [newsUnder, Revisions.newsIn, news, if_true, Bool.true_and, List.mem_append, ih, here,
        Std.ExtTreeSet.mem_insert, Std.compare_eq_iff_eq, and_or_left, exists_or]
    · simp [newsUnder, Revisions.newsIn, news, ih]

theorem mem_idsUnder_iff {plan : Reconciliation} {key : WatchKey} :
    text ∈ plan.idsUnder key ↔ ∃ document, key.covers document = true ∧ document.id = text ∧
      (document ∈ plan.suspects ∨ plan.allWatchedEntities = true ∧ key = .entity document) := by
  have suspected : text ∈ (plan.suspects.toList.filter key.covers).map (·.id) ↔
      ∃ document, key.covers document = true ∧ document.id = text ∧ document ∈ plan.suspects := by
    simp only [List.mem_map, List.mem_filter, Std.ExtTreeSet.mem_toList]
    exact exists_congr fun document =>
      ⟨fun ⟨⟨member, covers⟩, same⟩ => ⟨covers, same, member⟩,
        fun ⟨covers, same, member⟩ => ⟨⟨member, covers⟩, same⟩⟩
  have watched : text ∈ (match key with
        | .entity document => if plan.allWatchedEntities then [document.id] else []
        | .collection _ => []) ↔
      ∃ document, key.covers document = true ∧ document.id = text ∧
        plan.allWatchedEntities = true ∧ key = .entity document := by
    cases key with
    | collection name => simp
    | entity watched =>
      show text ∈ (if plan.allWatchedEntities then [watched.id] else []) ↔ _
      constructor
      · intro listed
        split at listed
        · next all =>
          exact ⟨watched, by simp [WatchKey.covers], (List.mem_singleton.mp listed).symm, all, rfl⟩
        · cases listed
      · rintro ⟨document, -, rfl, all, same⟩
        cases same
        rw [if_pos all]
        exact List.mem_singleton_self _
  simp only [Reconciliation.idsUnder, List.mem_append, suspected, watched, and_or_left, exists_or]

end Solo

end ChangeFeed
