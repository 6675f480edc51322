/-
# Subscribers and their registration

Between the subscribers, the registry and the queue of those to unregister there is one agreement,
`Orderly`: whoever is registered is found under its key, nobody is queued who has not stopped, and
only the stopped have closed mailboxes. A running watcher keeps it, so a subscription that has been
registered remains so, and its mailbox open, for as long as its subscriber does not stop it.

`Input` names everything but events that a watcher is asked to do.
-/

import ChangeFeed.Proofs.Marks

namespace ChangeFeed

/-! ## The index -/

namespace SubscriptionIndex

variable {α : Type} [Ord α] [Std.TransOrd α] {index : SubscriptionIndex α} {key : α}
  {id removed : SubscriptionId}

theorem mem_idsOf_iff : id ∈ index.idsOf key ↔ id ∈ index.getD key ∅ :=
  Std.ExtTreeSet.mem_toList

theorem mem_idsOf_add_self (index : SubscriptionIndex α) (key : α) (id : SubscriptionId) :
    id ∈ (index.add key id).idsOf key := by
  rw [mem_idsOf_iff]
  unfold add
  rw [Std.ExtTreeMap.getD_insert_self]
  exact Std.ExtTreeSet.mem_insert_self

variable [Std.LawfulEqOrd α]

/-- An addition keeps what the index has. -/
theorem mem_idsOf_add_of_mem (member : id ∈ index.idsOf key) (other : α) (added : SubscriptionId) :
    id ∈ (index.add other added).idsOf key := by
  rw [mem_idsOf_iff] at member ⊢
  unfold add
  rw [Std.ExtTreeMap.getD_insert]
  split
  · next same =>
    rw [Std.compare_eq_iff_eq.mp same]
    exact Std.ExtTreeSet.mem_insert.mpr (Or.inr member)
  · exact member

/-- A removal keeps everybody else. -/
theorem mem_idsOf_remove_of_mem (member : id ∈ index.idsOf key) (different : removed ≠ id)
    (other : α) : id ∈ (index.remove other removed).idsOf key := by
  rw [mem_idsOf_iff] at member ⊢
  unfold remove
  cases found : index[other]? with
  | none => exact member
  | some ids =>
    have kept : other = key → id ∈ ids.erase removed := by
      rintro rfl
      rw [Std.ExtTreeMap.getD_eq_getD_getElem?, found] at member
      exact Std.ExtTreeSet.mem_erase.mpr ⟨by simpa using different, member⟩
    by_cases empty : (ids.erase removed).isEmpty
    · have elsewhere : other ≠ key := fun same => by
        have held := kept same
        rw [Std.ExtTreeSet.isEmpty_iff.mp empty] at held
        exact Std.ExtTreeSet.not_mem_empty held
      simp only [empty, if_true]
      rw [Std.ExtTreeMap.getD_erase, if_neg (by simpa using elsewhere)]
      exact member
    · simp only [empty, if_false, Bool.false_eq_true]
      rw [Std.ExtTreeMap.getD_insert]
      split
      · next same => exact kept (Std.compare_eq_iff_eq.mp same)
      · exact member

end SubscriptionIndex

namespace Registry

variable {registry : Registry} {id : SubscriptionId} {key : WatchKey}

/-- Whoever is registered is in the index under its key. -/
def Indexed (registry : Registry) : Prop :=
  ∀ id key, registry.keys[id]? = some key → id ∈ SubscriptionIndex.idsOf registry.byKey key

theorem Indexed.insert (indexed : registry.Indexed) (id : SubscriptionId) (key : WatchKey) :
    (registry.insert id key).Indexed := by
  intro other found registered
  simp only [Registry.insert, Std.ExtTreeMap.getElem?_insert, Std.compare_eq_iff_eq] at registered
  split at registered
  · next same =>
    cases registered
    exact same ▸ SubscriptionIndex.mem_idsOf_add_self _ _ _
  · exact SubscriptionIndex.mem_idsOf_add_of_mem (indexed other found registered) key id

theorem Indexed.remove (indexed : registry.Indexed) {after : Registry}
    (removed : registry.remove? id = some after) : after.Indexed := by
  obtain ⟨key, -, rfl⟩ := Option.map_eq_some_iff.mp removed
  intro other found registered
  simp only [Std.ExtTreeMap.getElem?_erase, Std.compare_eq_iff_eq] at registered
  split at registered
  · cases registered
  · next different =>
    exact SubscriptionIndex.mem_idsOf_remove_of_mem (indexed other found registered) different key

/-- A removal takes nobody else out. -/
theorem getElem?_keys_remove {after : Registry} (removed : registry.remove? id = some after)
    {other : SubscriptionId} (different : id ≠ other) : after.keys[other]? = registry.keys[other]? := by
  obtain ⟨key, -, rfl⟩ := Option.map_eq_some_iff.mp removed
  simp [Std.ExtTreeMap.getElem?_erase, different]

/-- Whoever is registered under a key is interested in the documents that the key covers. -/
theorem Indexed.mem_matching (indexed : registry.Indexed) (registered : registry.keys[id]? = some key)
    {document : Document} (covers : key.covers document = true) : id ∈ registry.matching document := by
  have listed := indexed id key registered
  have present : registry.keys.contains id = true := by
    rw [Std.ExtTreeMap.contains_eq_isSome_getElem?, registered]
    rfl
  refine List.mem_filter.mpr ⟨List.mem_append.mpr ?_, present⟩
  cases key with
  | collection name =>
    have same : document.collection = name := by simpa [WatchKey.covers] using covers
    exact Or.inr (same ▸ listed)
  | entity watched =>
    have same : document = watched := by simpa [WatchKey.covers] using covers
    exact Or.inl (same ▸ listed)

end Registry

/-! ## What watchers are asked -/

namespace Watcher

/-- What a watcher is asked to do, events apart. -/
inductive Input where
  | tick
  | requestSync
  /-- Whoever asked for a sync no longer waits. -/
  | giveUp (ticket : Nat)
  | watch (key : WatchKey) (since : Option Revno)
  | unregisterNext
  | stop (id : SubscriptionId)
  | drop (id : SubscriptionId)
  | changes (id : SubscriptionId)
  | next (id : SubscriptionId)
  | streamNext (id : SubscriptionId)
  | shutDown
  | readerLost
  /-- Nobody takes polls any more. -/
  | abandonPolls
  deriving DecidableEq, Repr

/-- The watcher after it was asked. -/
def take (watcher : Watcher) : Input → Watcher
  | .tick => watcher.tick
  | .requestSync => watcher.requestSync
  | .giveUp ticket => { watcher with desk := watcher.desk.giveUp ticket }
  | .watch key since => (watcher.watch key since).2
  | .unregisterNext => watcher.unregisterNext
  | .stop id => watcher.stop id
  | .drop id => watcher.drop id
  | .changes id => (watcher.changes id).2
  | .next id => (watcher.next id).2
  | .streamNext id => (watcher.streamNext id).2
  | .shutDown => watcher.shutDown
  | .readerLost => watcher.readerLost
  | .abandonPolls => { watcher with polls := watcher.polls.abandon }

/-- The subscriber stopped the subscription. -/
def HasStopped (watcher : Watcher) (id : SubscriptionId) : Prop :=
  ∃ subscription, watcher.subscriptions[id]? = some subscription ∧ subscription.stopped = true

instance (watcher : Watcher) (id : SubscriptionId) : Decidable (watcher.HasStopped id) :=
  decidable_of_iff ((watcher.subscriptions[id]?).any (·.stopped) = true) (by
    simp [HasStopped, Option.any_eq_true])

/-- Registry, subscriptions and the queue of those to unregister agree. -/
structure Orderly (watcher : Watcher) : Prop where
  indexed : watcher.registry.Indexed
  present : ∀ (id : SubscriptionId) key, watcher.registry.keys[id]? = some key →
    (watcher.subscriptions[id]?).isSome = true
  fresh : ∀ id : SubscriptionId, (watcher.subscriptions[id]?).isSome = true → id < watcher.nextId
  unregistering : ∀ id ∈ watcher.unregistering, watcher.HasStopped id
  isOpen : ∀ (id : SubscriptionId) subscription, watcher.subscriptions[id]? = some subscription →
    subscription.stopped = false → subscription.mailbox.closed = none

/-- What a running watcher owes its subscribers from one moment to the next. -/
structure Continues (before after : Watcher) : Prop where
  orderly : after.Orderly
  stopped : ∀ id, before.HasStopped id → after.HasStopped id
  registered : ∀ (id : SubscriptionId) key, before.registry.keys[id]? = some key →
    after.registry.keys[id]? = some key ∨ after.HasStopped id

variable {watcher before after : Watcher}

/-- What does not touch registrations and subscriptions owes nobody anything. -/
theorem Orderly.continues (orderly : before.Orderly) (registry : after.registry = before.registry)
    (subscriptions : after.subscriptions = before.subscriptions)
    (nextId : after.nextId = before.nextId)
    (unregistering : after.unregistering = before.unregistering) : Continues before after := by
  have stopped : ∀ id, before.HasStopped id → after.HasStopped id := by
    intro id stopped
    rwa [HasStopped, subscriptions]
  refine ⟨⟨registry ▸ orderly.indexed, ?_, ?_, ?_, ?_⟩, stopped, ?_⟩
  · intro id key
    rw [registry, subscriptions]
    exact orderly.present id key
  · intro id
    rw [subscriptions, nextId]
    exact orderly.fresh id
  · intro id queued
    exact stopped id (orderly.unregistering id (unregistering ▸ queued))
  · intro id subscription
    rw [subscriptions]
    exact orderly.isOpen id subscription
  · intro id key registered
    exact Or.inl (registry ▸ registered)

theorem Orderly.issue (orderly : watcher.Orderly) (desk : SyncDesk) (poll : Option Nat) :
    Continues watcher ({ watcher with desk }.issue poll) := by
  cases poll with
  | none => exact orderly.continues rfl rfl rfl rfl
  | some seq =>
    simp only [Watcher.issue]
    split <;> exact orderly.continues rfl rfl rfl rfl

/-- Marks touch mailboxes only, and close none. -/
theorem Orderly.mark (orderly : watcher.Orderly) (marks : List (SubscriptionId × String))
    (registry : after.registry = watcher.registry)
    (subscriptions : after.subscriptions = (watcher.subscriptions.markEach marks).2)
    (nextId : after.nextId = watcher.nextId)
    (unregistering : after.unregistering = watcher.unregistering) : Continues watcher after := by
  have isSome : ∀ id : SubscriptionId,
      (after.subscriptions[id]?).isSome = (watcher.subscriptions[id]?).isSome := by
    intro id
    rw [subscriptions, Subscriptions.getElem?_markEach, Option.isSome_map]
  have stopped : ∀ id, watcher.HasStopped id → after.HasStopped id := by
    rintro id ⟨subscription, present, stopped⟩
    rw [HasStopped, subscriptions, Subscriptions.getElem?_markEach, present]
    exact ⟨_, rfl, stopped⟩
  refine ⟨⟨registry ▸ orderly.indexed, ?_, ?_, ?_, ?_⟩, stopped, ?_⟩
  · intro id key
    rw [registry, isSome]
    exact orderly.present id key
  · intro id
    rw [isSome, nextId]
    exact orderly.fresh id
  · intro id queued
    exact stopped id (orderly.unregistering id (unregistering ▸ queued))
  · intro id subscription found open'
    rw [subscriptions, Subscriptions.getElem?_markEach] at found
    obtain ⟨earlier, present, rfl⟩ := Option.map_eq_some_iff.mp found
    exact (Mailbox.closed_markAll _ _).trans (orderly.isOpen id earlier present open')
  · intro id key registered
    exact Or.inl (registry ▸ registered)

/-! ### Subscribers -/

theorem Orderly.watch (orderly : watcher.Orderly) (key : WatchKey) (since : Option Revno) :
    Continues watcher (watcher.watch key since).2 := by
  unfold Watcher.watch
  split
  · exact orderly.continues rfl rfl rfl rfl
  · split
    · exact orderly.continues rfl rfl rfl rfl
    · have unused : watcher.subscriptions[watcher.nextId]? = none := by
        cases used : watcher.subscriptions[watcher.nextId]? with
        | none => rfl
        | some _ => exact absurd (orderly.fresh _ (by rw [used]; rfl)) (Nat.lt_irrefl _)
      have older : ∀ {id : SubscriptionId} {subscription : Subscription},
          watcher.subscriptions[id]? = some subscription → watcher.nextId ≠ id := by
        rintro id subscription present rfl
        rw [unused] at present
        cases present
      refine ⟨⟨orderly.indexed.insert _ _, ?_, ?_, ?_, ?_⟩, ?_, ?_⟩
      · intro id other registered
        simp only [Registry.insert, Std.ExtTreeMap.getElem?_insert, Std.compare_eq_iff_eq]
          at registered ⊢
        split at registered
        · next same => rw [if_pos same]; rfl
        · next different =>
          rw [if_neg different]
          exact orderly.present id other registered
      · intro id present
        simp only [Std.ExtTreeMap.getElem?_insert, Std.compare_eq_iff_eq] at present
        split at present
        · next same => exact same ▸ Nat.lt_succ_self _
        · exact Nat.lt_succ_of_lt (orderly.fresh id present)
      · intro id queued
        obtain ⟨subscription, present, stopped⟩ := orderly.unregistering id queued
        refine ⟨subscription, ?_, stopped⟩
        rw [Std.ExtTreeMap.getElem?_insert, if_neg (by simpa using older present)]
        exact present
      · intro id subscription present open'
        simp only [Std.ExtTreeMap.getElem?_insert, Std.compare_eq_iff_eq] at present
        split at present
        · cases present
          exact Mailbox.closed_markAll _ _
        · exact orderly.isOpen id subscription present open'
      · rintro id ⟨subscription, present, stopped⟩
        refine ⟨subscription, ?_, stopped⟩
        rw [Std.ExtTreeMap.getElem?_insert, if_neg (by simpa using older present)]
        exact present
      · intro id other registered
        obtain ⟨subscription, present⟩ := Option.isSome_iff_exists.mp
          (orderly.present id other registered)
        apply Or.inl
        simp only [Registry.insert]
        rw [Std.ExtTreeMap.getElem?_insert, if_neg (by simpa using older present)]
        exact registered

theorem Orderly.unregister (orderly : watcher.Orderly) {id : SubscriptionId}
    (stopped : watcher.HasStopped id) : Continues watcher (watcher.unregister id) := by
  unfold Watcher.unregister
  cases removed : watcher.registry.remove? id with
  | none => exact orderly.continues rfl rfl rfl rfl
  | some registry =>
    have kept : ∀ other : SubscriptionId, id ≠ other →
        registry.keys[other]? = watcher.registry.keys[other]? :=
      fun other => Registry.getElem?_keys_remove removed
    have gone : registry.keys[id]? = none := by
      obtain ⟨key, -, rfl⟩ := Option.map_eq_some_iff.mp removed
      exact Std.ExtTreeMap.getElem?_erase_self
    refine ⟨⟨orderly.indexed.remove removed, ?_, orderly.fresh, orderly.unregistering,
      orderly.isOpen⟩, fun _ stopped => stopped, ?_⟩
    · intro other key registered
      by_cases same : id = other
      · rw [← same, gone] at registered
        cases registered
      · exact orderly.present other key (kept other same ▸ registered)
    · intro other key registered
      by_cases same : id = other
      · exact Or.inr (same ▸ stopped)
      · exact Or.inl ((kept other same).trans registered)

theorem Orderly.unregisterNext (orderly : watcher.Orderly) :
    Continues watcher watcher.unregisterNext := by
  unfold Watcher.unregisterNext
  cases queued : watcher.unregistering with
  | nil => exact orderly.continues rfl rfl rfl rfl
  | cons id rest =>
    have shorter : ({ watcher with unregistering := rest } : Watcher).Orderly :=
      { orderly with
        unregistering := fun other later => by
          exact orderly.unregistering other (queued ▸ List.mem_cons_of_mem id later) }
    have continues := shorter.unregister (orderly.unregistering id (queued ▸ List.mem_cons_self))
    exact ⟨continues.orderly, continues.stopped, continues.registered⟩

/-- A subscription that is put back has been stopped, or is as open as it was. -/
theorem Orderly.update (orderly : watcher.Orderly) {id : SubscriptionId}
    {before after : Subscription} (present : watcher.subscriptions[id]? = some before)
    {unregister : Bool}
    (used : after.stopped = true ∨ after.stopped = before.stopped ∧
      after.mailbox.closed = before.mailbox.closed ∧ unregister = false) :
    Continues watcher (watcher.update id after unregister) := by
  have found : ∀ other : SubscriptionId, (watcher.update id after unregister).subscriptions[other]? =
      if id = other then some after else watcher.subscriptions[other]? := by
    intro other
    simp [Watcher.update, Std.ExtTreeMap.getElem?_insert]
  have isSome : ∀ other : SubscriptionId,
      ((watcher.update id after unregister).subscriptions[other]?).isSome =
        (watcher.subscriptions[other]?).isSome := by
    intro other
    rw [found]
    split
    · next same => rw [← same, present]; rfl
    · rfl
  have stopped : ∀ other, watcher.HasStopped other →
      (watcher.update id after unregister).HasStopped other := by
    rintro other ⟨subscription, held, stopped⟩
    rw [HasStopped, found]
    by_cases same : id = other
    · rw [if_pos same]
      rw [← same, present] at held
      cases held
      exact ⟨after, rfl, used.elim (fun now => now) fun still => still.1.trans stopped⟩
    · rw [if_neg same]
      exact ⟨subscription, held, stopped⟩
  refine ⟨⟨orderly.indexed, ?_, ?_, ?_, ?_⟩, stopped, fun _ _ registered => Or.inl registered⟩
  · intro other key registered
    rw [isSome]
    exact orderly.present other key registered
  · intro other held
    rw [isSome] at held
    exact orderly.fresh other held
  · intro other queued
    simp only [Watcher.update] at queued
    split at queued
    · next asked =>
      rcases List.mem_append.mp queued with earlier | last
      · exact stopped other (orderly.unregistering other earlier)
      · rw [List.mem_singleton.mp last, HasStopped, found, if_pos rfl]
        refine ⟨after, rfl, used.resolve_right fun still => ?_⟩
        rw [still.2.2] at asked
        cases asked
    · exact stopped other (orderly.unregistering other queued)
  · intro other subscription held open'
    rw [found] at held
    split at held
    · cases held
      rcases used with stopped | ⟨same, closed, -⟩
      · rw [stopped] at open'
        cases open'
      · rw [closed]
        exact orderly.isOpen id before present (same ▸ open')
    · exact orderly.isOpen other subscription held open'

theorem stopped_stop (subscription : Subscription) : subscription.stop.2.stopped = true := by
  unfold Subscription.stop
  split
  · next stopped => exact stopped
  · rfl

theorem next_mailbox (mailbox : Mailbox) : mailbox.next.2.closed = mailbox.closed := by
  unfold Mailbox.next
  split <;> rfl

theorem streamNext_used (subscription : Subscription) :
    subscription.streamNext.2.2.stopped = true ∨
      subscription.streamNext.2.2.stopped = subscription.stopped ∧
        subscription.streamNext.2.2.mailbox.closed = subscription.mailbox.closed ∧
        subscription.streamNext.2.1 = false := by
  unfold Subscription.streamNext
  split
  · exact Or.inr ⟨rfl, rfl, rfl⟩
  · exact Or.inr ⟨rfl, rfl, rfl⟩
  all_goals
    have closed := next_mailbox subscription.mailbox
    match asked : subscription.next with
    | (.ended, after) => exact Or.inl (stopped_stop after)
    | (.changes _, after) | (.pending, after) =>
      have same : after = subscription.next.2 := by rw [asked]
      exact Or.inr ⟨by rw [same]; rfl, by rw [same]; exact closed, rfl⟩

/-! ### Running watchers -/

/-- Handing a poll out is for the poller and the desk. -/
theorem issue_eq (watcher : Watcher) (poll : Option Nat) :
    ∃ desk polls, watcher.issue poll = { watcher with desk, polls } := by
  cases poll with
  | none => exact ⟨_, _, rfl⟩
  | some seq =>
    simp only [Watcher.issue]
    split <;> exact ⟨_, _, rfl⟩

theorem issue_frame (watcher : Watcher) (poll : Option Nat) :
    (watcher.issue poll).knownState = watcher.knownState ∧
      (watcher.issue poll).strategy = watcher.strategy ∧
        (watcher.issue poll).outcome = watcher.outcome := by
  obtain ⟨desk, polls, same⟩ := issue_eq watcher poll
  rw [same]
  exact ⟨rfl, rfl, rfl⟩

/-- The input neither uses a subscription nor opens or closes any. -/
def Input.isIdle : Input → Bool
  | .tick | .requestSync | .giveUp _ | .unregisterNext | .abandonPolls => true
  | .watch _ _ | .stop _ | .drop _ | .changes _ | .next _ | .streamNext _ | .shutDown
  | .readerLost => false

/-- **An idle input is for the poller, the desk and the registrations.** -/
theorem take_of_isIdle (watcher : Watcher) {input : Input} (idle : input.isIdle = true) :
    ∃ desk polls registry unregistering activeSubscriptions, watcher.take input =
      { watcher with
        desk, polls, registry, unregistering
        metrics := { watcher.metrics with activeSubscriptions } } := by
  cases input with
  | tick =>
    simp only [take, tick]
    split
    · exact ⟨_, _, _, _, _, rfl⟩
    · obtain ⟨desk, polls, same⟩ :=
        issue_eq { watcher with desk := watcher.desk.tick.2 } watcher.desk.tick.1
      exact ⟨desk, polls, _, _, _, same⟩
  | requestSync =>
    simp only [take, requestSync]
    split
    · exact ⟨_, _, _, _, _, rfl⟩
    · obtain ⟨desk, polls, same⟩ :=
        issue_eq { watcher with desk := watcher.desk.request.2 } watcher.desk.request.1
      exact ⟨desk, polls, _, _, _, same⟩
  | giveUp _ | abandonPolls => exact ⟨_, _, _, _, _, rfl⟩
  | unregisterNext =>
    simp only [take, unregisterNext]
    split
    · exact ⟨_, _, _, _, _, rfl⟩
    · unfold Watcher.unregister
      split <;> exact ⟨_, _, _, _, _, rfl⟩
  | watch _ _ | stop _ | drop _ | changes _ | next _ | streamNext _ | shutDown | readerLost => cases idle

/-- No input teaches a watcher anything or changes its strategy, and a watcher that ended stays
ended. -/
theorem take_frame (watcher : Watcher) (input : Input) :
    (watcher.take input).knownState = watcher.knownState ∧
      (watcher.take input).strategy = watcher.strategy ∧
        (watcher.hasEnded = true → (watcher.take input).hasEnded = true) := by
  have framed : ∀ after : Watcher, after.knownState = watcher.knownState ∧
      after.strategy = watcher.strategy ∧ after.outcome = watcher.outcome →
        after.knownState = watcher.knownState ∧ after.strategy = watcher.strategy ∧
          (watcher.hasEnded = true → after.hasEnded = true) := by
    rintro after ⟨known, strategy, outcome⟩
    exact ⟨known, strategy, fun ended => by rwa [hasEnded, outcome]⟩
  cases idle : input.isIdle with
  | true =>
    obtain ⟨_, _, _, _, _, same⟩ := watcher.take_of_isIdle idle
    rw [same]
    exact framed _ ⟨rfl, rfl, rfl⟩
  | false =>
    cases input with
    | tick | requestSync | giveUp _ | unregisterNext | abandonPolls => cases idle
    | watch key since =>
      simp only [take, watch]
      split
      · exact framed _ ⟨rfl, rfl, rfl⟩
      · split <;> exact framed _ ⟨rfl, rfl, rfl⟩
    | stop id | drop id | changes id | next id | streamNext id =>
      simp only [take, stop, drop, changes, next, streamNext]
      split <;> exact framed _ ⟨rfl, rfl, rfl⟩
    | shutDown | readerLost =>
      simp only [take, shutDown, readerLost]
      split
      · exact framed _ ⟨rfl, rfl, rfl⟩
      · exact ⟨rfl, rfl, fun _ => rfl⟩

theorem known_take (watcher : Watcher) (input : Input) : (watcher.take input).known = watcher.known :=
  congrArg KnownState.revisions (watcher.take_frame input).1

theorem running_of_take {input : Input} (running : (watcher.take input).hasEnded = false) :
    watcher.hasEnded = false := by
  cases ended : watcher.hasEnded with
  | false => rfl
  | true =>
    rw [(watcher.take_frame input).2.2 ended] at running
    cases running

theorem running_of_receive {event : Event} (running : (watcher.receive event).hasEnded = false) :
    watcher.hasEnded = false := by
  cases ended : watcher.hasEnded with
  | false => rfl
  | true =>
    have still : watcher.receive event = watcher := if_pos ended
    rw [still, ended] at running
    cases running

/-- **A watcher that is asked something and still runs has kept what it owes its subscribers.** -/
theorem Orderly.take (orderly : watcher.Orderly) (input : Input)
    (running : (watcher.take input).hasEnded = false) : Continues watcher (watcher.take input) := by
  have before := running_of_take running
  cases input with
  | tick =>
    simp only [Watcher.take, Watcher.tick, before, Bool.false_eq_true, if_false]
    exact orderly.issue _ _
  | requestSync =>
    simp only [Watcher.take, Watcher.requestSync, before, Bool.false_eq_true, if_false]
    exact orderly.issue _ _
  | giveUp _ | abandonPolls => exact orderly.continues rfl rfl rfl rfl
  | watch key since => exact orderly.watch key since
  | unregisterNext => exact orderly.unregisterNext
  | stop id =>
    simp only [Watcher.take, Watcher.stop]
    split
    · exact orderly.continues rfl rfl rfl rfl
    · next present => exact orderly.update present (Or.inl (stopped_stop _))
  | drop id =>
    simp only [Watcher.take, Watcher.drop]
    split
    · exact orderly.continues rfl rfl rfl rfl
    · next present => exact orderly.update present (Or.inl (stopped_stop _))
  | changes id =>
    simp only [Watcher.take, Watcher.changes]
    split
    · exact orderly.continues rfl rfl rfl rfl
    · next present => exact orderly.update present (Or.inr ⟨rfl, rfl, rfl⟩)
  | next id =>
    simp only [Watcher.take, Watcher.next]
    split
    · exact orderly.continues rfl rfl rfl rfl
    · next present => exact orderly.update present (Or.inr ⟨rfl, next_mailbox _, rfl⟩)
  | streamNext id =>
    simp only [Watcher.take, Watcher.streamNext]
    split
    · exact orderly.continues rfl rfl rfl rfl
    · next present => exact orderly.update present (streamNext_used _)
  | shutDown | readerLost =>
    simp only [Watcher.take, Watcher.shutDown, Watcher.readerLost, before, Bool.false_eq_true,
      if_false] at running
    cases running

/-- **Neither does an event make it fail its subscribers**, if it does not end the watcher. -/
theorem Orderly.receive (orderly : watcher.Orderly) (event : Event)
    (running : (watcher.receive event).hasEnded = false) :
    Continues watcher (watcher.receive event) := by
  have before := running_of_receive running
  by_cases isAboutLog : event.isAboutLog = true
  · obtain ⟨metrics, received⟩ := receive_eq before event isAboutLog
    rw [received]
    exact orderly.mark (watcher.marksOf event) rfl rfl rfl rfl
  · cases event with
    | primed _ | batch _ | discontinuity _ => exact absurd rfl isAboutLog
    | cycleComplete seq =>
      simp only [Watcher.receive, before, Bool.false_eq_true, if_false]
      exact orderly.issue _ _
    | cycleAborted seq reason =>
      simp only [Watcher.receive, before, Bool.false_eq_true, if_false]
      exact orderly.continues rfl rfl rfl rfl
    | fatal reason =>
      simp only [Watcher.receive, before, Bool.false_eq_true, if_false] at running
      cases running

/-- A new watcher owes nobody anything. -/
theorem orderly_start (strategy : Strategy) : (start strategy).Orderly where
  indexed id key registered := by simp [start] at registered
  present id key registered := by simp [start] at registered
  fresh id present := by simp [start] at present
  unregistering id queued := by cases queued
  isOpen id subscription present := by simp [start] at present

end Watcher

end ChangeFeed
