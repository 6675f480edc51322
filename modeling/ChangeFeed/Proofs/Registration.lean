/-
# Nobody stays registered in vain

A subscription is registered when it is opened and unregistered some time after its subscriber stopped
it, by way of a queue. Between the two it is either served or queued, never both and never neither:
`IsBalanced` says so of a running watcher, together with the count of the registered that the watcher
exposes. Every occurrence keeps the balance, so no registration outlives its turn in the queue and no
turn comes to a subscription that is not registered.
-/

import ChangeFeed.Proofs.Independence
import Mathlib.Data.List.Dedup

namespace ChangeFeed

/-! ## Indexes without empty sets -/

namespace SubscriptionIndex

variable {α : Type} [Ord α] [Std.TransOrd α] {index : SubscriptionIndex α}

/-- No key stands in the index without a subscription. -/
def IsTight (index : SubscriptionIndex α) : Prop :=
  ∀ (key : α) ids, index[key]? = some ids → ids ≠ ∅

theorem isTight_empty : IsTight (∅ : SubscriptionIndex α) := by
  intro key ids found
  simp at found

theorem IsTight.add (tight : IsTight index) (key : α) (id : SubscriptionId) :
    IsTight (index.add key id) := by
  intro other ids found
  unfold SubscriptionIndex.add at found
  rw [Std.ExtTreeMap.getElem?_insert] at found
  split at found
  · cases found
    exact Std.ExtTreeSet.insert_ne_empty
  · exact tight other ids found

theorem IsTight.remove (tight : IsTight index) (key : α) (id : SubscriptionId) :
    IsTight (index.remove key id) := by
  intro other ids found
  unfold SubscriptionIndex.remove at found
  split at found
  · exact tight other ids found
  · next present =>
    split at found
    · rw [Std.ExtTreeMap.getElem?_erase] at found
      split at found
      · cases found
      · exact tight other ids found
    · next left =>
      rw [Std.ExtTreeMap.getElem?_insert] at found
      split at found
      · cases found
        exact fun empty => left (Std.ExtTreeSet.isEmpty_iff.mpr empty)
      · exact tight other ids found

/-- The keys of a tight index are those under which there is somebody. -/
theorem IsTight.mem_iff (tight : IsTight index) {key : α} :
    key ∈ index ↔ ∃ id, id ∈ index.idsOf key := by
  simp only [mem_idsOf_iff, Std.ExtTreeMap.getD_eq_getD_getElem?]
  constructor
  · intro member
    obtain ⟨ids, found⟩ := Option.isSome_iff_exists.mp (Std.ExtTreeMap.mem_iff_isSome_getElem?.mp member)
    rw [found]
    by_contra nobody
    apply tight key ids found
    exact Std.ExtTreeSet.eq_empty_iff_forall_not_mem.mpr (not_exists.mp nobody)
  · rintro ⟨id, listed⟩
    cases found : index[key]? with
    | some ids =>
      rw [Std.ExtTreeMap.mem_iff_isSome_getElem?, found]
      rfl
    | none =>
      rw [found] at listed
      exact absurd listed Std.ExtTreeSet.not_mem_empty

/-- **The size of a tight index is the number of different keys under which there is somebody.** -/
theorem IsTight.size_eq [Std.LawfulEqOrd α] [DecidableEq α] (tight : IsTight index) {keys : List α}
    (listed : ∀ key, key ∈ keys ↔ ∃ id, id ∈ index.idsOf key) : index.size = keys.dedup.length := by
  have perm : index.keys.Perm keys.dedup := by
    apply (List.perm_ext_iff_of_nodup Std.ExtTreeMap.nodup_keys keys.nodup_dedup).mpr
    intro key
    rw [Std.ExtTreeMap.mem_keys, tight.mem_iff, List.mem_dedup, listed]
  rw [← Std.ExtTreeMap.length_keys]
  exact perm.length_eq

end SubscriptionIndex

/-- The collection of a single document that is watched. -/
def WatchKey.entityCollection? : WatchKey → Option String
  | .collection _ => none
  | .entity document => some document.collection

namespace Registry

variable {registry after : Registry} {id : SubscriptionId} {key : WatchKey}

/-- No index holds an empty set. -/
structure IsTight (registry : Registry) : Prop where
  byKey : SubscriptionIndex.IsTight registry.byKey
  entities : SubscriptionIndex.IsTight registry.entitiesByCollection

theorem isTight_empty : ({} : Registry).IsTight where
  byKey := SubscriptionIndex.isTight_empty
  entities := SubscriptionIndex.isTight_empty

theorem IsTight.insert (tight : registry.IsTight) (id : SubscriptionId) (key : WatchKey) :
    (registry.insert id key).IsTight where
  byKey := tight.byKey.add key id
  entities := by
    cases key with
    | collection _ => exact tight.entities
    | entity document => exact tight.entities.add document.collection id

theorem IsTight.remove (tight : registry.IsTight) (removed : registry.remove? id = some after) :
    after.IsTight := by
  obtain ⟨key, -, rfl⟩ := Option.map_eq_some_iff.mp removed
  refine ⟨tight.byKey.remove key id, ?_⟩
  cases key with
  | collection _ => exact tight.entities
  | entity document => exact tight.entities.remove document.collection id

/-- The keys of all who are registered. -/
def watched (registry : Registry) : List WatchKey :=
  registry.keys.toList.map (·.2)

theorem mem_watched_iff :
    key ∈ registry.watched ↔ ∃ id : SubscriptionId, registry.keys[id]? = some key := by
  simp only [watched, List.mem_map, Prod.exists, Std.ExtTreeMap.mem_toList_iff_getElem?_eq_some,
    exists_eq_right]

theorem watchedKeys_eq (exact : registry.IsExact) (tight : registry.IsTight) :
    registry.watchedKeys = registry.watched.dedup.length := by
  apply tight.byKey.size_eq
  intro key
  simp only [mem_watched_iff, exact.byKey]

theorem entityCollections_eq (exact : registry.IsExact) (tight : registry.IsTight) :
    registry.entityCollections =
      (registry.watched.filterMap WatchKey.entityCollection?).dedup.length := by
  apply tight.entities.size_eq
  intro name
  simp only [List.mem_filterMap, mem_watched_iff, exact.entities]
  constructor
  · rintro ⟨key, ⟨id, registered⟩, same⟩
    cases key with
    | collection _ => cases same
    | entity document => exact ⟨id, document, registered, Option.some.inj same⟩
  · rintro ⟨id, document, registered, same⟩
    exact ⟨_, ⟨id, registered⟩, congrArg some same⟩

end Registry

/-! ## Where a subscription stands -/

/-- Where a subscription stands with its subscriber. -/
inductive Stance where
  /-- The subscriber has it and has not stopped it. -/
  | served
  | stopped
  /-- It was not stopped and nobody has it. -/
  | astray
  deriving DecidableEq, Repr

namespace Subscription

def stance (subscription : Subscription) : Stance :=
  if subscription.stopped then .stopped
  else if subscription.isHeld then .served else .astray

/-- A use stops the subscription, and then the watcher is told, or leaves its stance as it is. -/
theorem stance_use (subscription : Subscription) (use : Use) :
    (subscription.unregisters use = false ∧ (subscription.use use).stance = subscription.stance) ∨
      subscription.unregisters use = true ∧ subscription.stopped = false ∧
        (subscription.use use).stance = .stopped := by
  cases subscription.effect_use use with
  | keeps _ same unasked | takes _ same unasked =>
    refine Or.inl ⟨unasked, ?_⟩
    unfold stance
    rw [same]
    cases stopped : subscription.stopped with
    | true => rfl
    | false => rw [isHeld_use (same.trans stopped)]
  | stops _ serving stopped asked => exact Or.inr ⟨asked, serving, if_pos stopped⟩

end Subscription

namespace Watcher

variable {watcher before after : Watcher} {id : SubscriptionId} {key : WatchKey} {base : Int}
  {occurrence : Occurrence} {input : Input} {event : Event}

/-- Where a subscription stands, if it was ever opened. -/
def stance? (watcher : Watcher) (id : SubscriptionId) : Option Stance :=
  (watcher.subscriptions[id]?).map (·.stance)

/-- The subscriber has the subscription and has not stopped it. -/
def Serves (watcher : Watcher) (id : SubscriptionId) : Prop :=
  ∃ subscription, watcher.subscriptions[id]? = some subscription ∧ subscription.isHeld = true ∧
    subscription.stopped = false

theorem serves_iff : watcher.Serves id ↔ watcher.stance? id = some .served := by
  have served : ∀ subscription : Subscription, subscription.stance = .served ↔
      subscription.isHeld = true ∧ subscription.stopped = false := by
    intro subscription
    unfold Subscription.stance
    cases subscription.stopped <;> cases subscription.isHeld <;> decide
  simp only [stance?, Option.map_eq_some_iff, served]
  rfl

theorem HasStopped.stance?_eq (stopped : watcher.HasStopped id) :
    watcher.stance? id = some .stopped := by
  obtain ⟨subscription, present, stopped⟩ := stopped
  unfold stance?
  rw [present]
  exact congrArg some (if_pos stopped)

/-- Who is registered is served or queued, the queue holds nobody twice, and the count of the
registered has grown by so many since it stood at `base`. -/
structure IsBalanced (base : Int) (watcher : Watcher) : Prop where
  tight : watcher.registry.IsTight
  found : ∀ id, watcher.stance? id ≠ some .astray
  registered : ∀ id, id ∈ watcher.registry.keys ↔
    watcher.stance? id = some .served ∨ id ∈ watcher.unregistering
  nodup : watcher.unregistering.Nodup
  gauge : watcher.metrics.activeSubscriptions = base + watcher.registry.size

/-- What leaves the registrations and the stances alone keeps the balance. -/
theorem IsBalanced.congr (balanced : before.IsBalanced base) (registry : after.registry = before.registry)
    (unregistering : after.unregistering = before.unregistering)
    (gauge : after.metrics.activeSubscriptions = before.metrics.activeSubscriptions)
    (stance : ∀ id, after.stance? id = before.stance? id) : after.IsBalanced base where
  tight := registry ▸ balanced.tight
  found id := by
    rw [stance]
    exact balanced.found id
  registered id := by
    rw [registry, unregistering, stance]
    exact balanced.registered id
  nodup := unregistering ▸ balanced.nodup
  gauge := by
    rw [registry, gauge]
    exact balanced.gauge

/-! ### Events -/

theorem IsBalanced.issue (balanced : watcher.IsBalanced base) (desk : SyncDesk) (poll : Option Nat) :
    ({ watcher with desk }.issue poll).IsBalanced base := by
  obtain ⟨desk, polls, same⟩ := issue_eq { watcher with desk } poll
  rw [same]
  exact balanced.congr rfl rfl rfl fun _ => rfl

theorem gauge_applyAll (watcher : Watcher) (changes : List Change) :
    (watcher.applyAll changes).metrics.activeSubscriptions = watcher.metrics.activeSubscriptions := by
  induction changes generalizing watcher with
  | nil => rfl
  | cons change rest ih =>
    apply (ih (watcher.apply change)).trans
    unfold apply
    split <;> rfl

/-- What an event about the log counts are changes, marks and reconciliations. -/
theorem gauge_receive (running : watcher.hasEnded = false) (isAboutLog : event.isAboutLog = true) :
    (watcher.receive event).metrics.activeSubscriptions = watcher.metrics.activeSubscriptions := by
  cases event with
  | primed changes | batch changes =>
    simp only [receive, running, Bool.false_eq_true, if_false, gauge_applyAll]
  | discontinuity snapshot =>
    simp only [receive, running, Bool.false_eq_true, if_false, reconcile, deliver]
    cases watcher.strategy <;> rfl
  | cycleComplete _ | cycleAborted _ _ | fatal _ => cases isAboutLog

theorem IsBalanced.receive (balanced : watcher.IsBalanced base) (event : Event)
    (running : (watcher.receive event).hasEnded = false) : (watcher.receive event).IsBalanced base := by
  have before := running_of_receive running
  by_cases isAboutLog : event.isAboutLog = true
  · have gauge := gauge_receive before isAboutLog
    obtain ⟨metrics, received⟩ := receive_eq before event isAboutLog
    rw [received] at gauge ⊢
    refine IsBalanced.congr balanced rfl rfl gauge fun id => ?_
    unfold stance?
    rw [Subscriptions.getElem?_markEach, Option.map_map]
    rfl
  · cases event with
    | primed _ | batch _ | discontinuity _ => exact absurd rfl isAboutLog
    | cycleComplete seq =>
      simp only [Watcher.receive, before, Bool.false_eq_true, if_false]
      exact balanced.issue _ _
    | cycleAborted seq reason =>
      simp only [Watcher.receive, before, Bool.false_eq_true, if_false]
      exact balanced.congr rfl rfl rfl fun _ => rfl
    | fatal reason =>
      simp only [Watcher.receive, before, Bool.false_eq_true, if_false] at running
      cases running

/-! ### Subscribers -/

/-- A new subscription, with so much in its mailbox. -/
def enrol (watcher : Watcher) (key : WatchKey) (mailbox : Mailbox) : Watcher :=
  { watcher with
    nextId := watcher.nextId + 1
    registry := watcher.registry.insert watcher.nextId key
    subscriptions := watcher.subscriptions.insert watcher.nextId { key, mailbox }
    metrics := { watcher.metrics with
      activeSubscriptions := watcher.metrics.activeSubscriptions + 1 } }

/-- A subscription is refused, and nothing changes, or it is opened under the next id with what it has
missed. -/
theorem watch_cases (watcher : Watcher) (key : WatchKey) (since : Option Revno) :
    (∃ refusal, watcher.watch key since = (.error refusal, watcher)) ∨
      watcher.hasEnded = false ∧ watcher.watch key since = (.ok watcher.nextId,
        watcher.enrol key (Mailbox.markAll {} (watcher.knownState.catchUp key since)).2) := by
  unfold Watcher.watch
  split
  · exact Or.inl ⟨_, rfl⟩
  · next goesOn =>
    split
    · exact Or.inl ⟨_, rfl⟩
    · exact Or.inr ⟨Bool.eq_false_iff.mpr goesOn, rfl⟩

/-- **A subscription that is opened is served and registered**, and counted. -/
theorem IsBalanced.enrol (balanced : watcher.IsBalanced base) (orderly : watcher.Orderly)
    (key : WatchKey) (mailbox : Mailbox) : (watcher.enrol key mailbox).IsBalanced base := by
  have unregistered : watcher.nextId ∉ watcher.registry.keys := by
    intro member
    obtain ⟨other, registered⟩ := Option.isSome_iff_exists.mp
      (Std.ExtTreeMap.mem_iff_isSome_getElem?.mp member)
    exact Nat.lt_irrefl _ (orderly.lt_nextId registered)
  have unqueued : watcher.nextId ∉ watcher.unregistering := by
    intro queued
    obtain ⟨subscription, present, -⟩ := orderly.unregistering _ queued
    exact Nat.lt_irrefl _ (orderly.fresh watcher.nextId (by rw [present]; rfl))
  have stance : ∀ id, (watcher.enrol key mailbox).stance? id =
      if watcher.nextId = id then some .served else watcher.stance? id := by
    intro id
    simp only [stance?, Watcher.enrol, Std.ExtTreeMap.getElem?_insert, Std.compare_eq_iff_eq]
    split <;> rfl
  have larger : (watcher.enrol key mailbox).registry.size = watcher.registry.size + 1 := by
    simp [Registry.size, Watcher.enrol, Registry.insert, Std.ExtTreeMap.size_insert, unregistered]
  refine ⟨balanced.tight.insert _ _, ?_, ?_, balanced.nodup, ?_⟩
  · intro id
    rw [stance]
    split
    · exact fun astray => by cases astray
    · exact balanced.found id
  · intro id
    rw [stance]
    simp only [Watcher.enrol, Registry.insert, Std.ExtTreeMap.mem_insert, Std.compare_eq_iff_eq]
    by_cases same : watcher.nextId = id
    · simp [same]
    · simp [same, balanced.registered id]
  · show watcher.metrics.activeSubscriptions + 1 = _
    rw [larger, balanced.gauge]
    omega

/-- What is registered is found when it is to be unregistered. -/
theorem unregister_of_mem (member : id ∈ watcher.registry.keys) :
    ∃ registry, watcher.registry.remove? id = some registry ∧
      registry.keys = watcher.registry.keys.erase id ∧ watcher.registry.size = registry.size + 1 := by
  obtain ⟨key, registered⟩ := Option.isSome_iff_exists.mp
    (Std.ExtTreeMap.mem_iff_isSome_getElem?.mp member)
  have positive : 0 < watcher.registry.keys.size := by
    apply Nat.pos_of_ne_zero
    rw [Ne, ← Std.ExtTreeMap.eq_empty_iff_size_eq_zero]
    exact Std.ExtTreeMap.ne_empty_of_mem member
  unfold Registry.remove?
  rw [registered]
  refine ⟨_, rfl, rfl, ?_⟩
  simp only [Registry.size, Std.ExtTreeMap.size_erase, Std.ExtTreeMap.contains_iff_mem, member, if_true]
  omega

/-- **Who is next in the queue is registered, and no longer is afterwards.** -/
theorem IsBalanced.unregisterNext (balanced : watcher.IsBalanced base) (orderly : watcher.Orderly) :
    watcher.unregisterNext.IsBalanced base := by
  cases queued : watcher.unregistering with
  | nil =>
    have nothing : watcher.unregisterNext = watcher := by
      unfold Watcher.unregisterNext
      rw [queued]
    rwa [nothing]
  | cons id rest =>
    have listed : id ∈ watcher.unregistering := queued ▸ List.mem_cons_self
    have stopped := (orderly.unregistering id listed).stance?_eq
    obtain ⟨registry, removed, keys, larger⟩ :=
      unregister_of_mem ((balanced.registered id).mpr (Or.inr listed))
    have after : watcher.unregisterNext =
        { watcher with
          unregistering := rest
          registry
          metrics := { watcher.metrics with
            activeSubscriptions := watcher.metrics.activeSubscriptions - 1 } } := by
      unfold Watcher.unregisterNext
      rw [queued]
      simp only [unregister, removed]
    have nodup := balanced.nodup
    rw [queued] at nodup
    obtain ⟨once, nodup⟩ := List.nodup_cons.mp nodup
    rw [after]
    refine ⟨balanced.tight.remove removed, balanced.found, ?_, nodup, ?_⟩
    · intro other
      have elsewhere := balanced.registered other
      show other ∈ registry.keys ↔ watcher.stance? other = some .served ∨ other ∈ rest
      rw [keys, Std.ExtTreeMap.mem_erase, elsewhere, queued, List.mem_cons]
      by_cases same : id = other
      · subst same
        simp [stopped, once]
      · simp [same, Ne.symm same]
    · show watcher.metrics.activeSubscriptions - 1 = base + registry.size
      rw [balanced.gauge, larger]
      omega

/-- **Whoever stops a subscription is queued, the first time only.** -/
theorem IsBalanced.used (balanced : watcher.IsBalanced base) (orderly : watcher.Orderly)
    (running : watcher.hasEnded = false) {use : Use} {subscription : Subscription}
    (present : watcher.subscriptions[id]? = some subscription) :
    (watcher.update id (subscription.use use) (subscription.unregisters use)).IsBalanced base := by
  have before : watcher.stance? id = some subscription.stance := by
    unfold stance?
    rw [present]
    rfl
  have stance : ∀ other,
      (watcher.update id (subscription.use use) (subscription.unregisters use)).stance? other =
        if id = other then some (subscription.use use).stance else watcher.stance? other := by
    intro other
    simp only [stance?, update, Std.ExtTreeMap.getElem?_insert, Std.compare_eq_iff_eq]
    split <;> rfl
  rcases subscription.stance_use use with ⟨unasked, same⟩ | ⟨asked, serving, stopped⟩
  · refine IsBalanced.congr balanced rfl ?_ rfl fun other => ?_
    · simp [update, unasked]
    · rw [stance, same]
      split
      · next here => rw [← here, before]
      · rfl
  · -- Not stopped before, it was served, and not yet queued.
    have served : subscription.stance = .served := by
      have found := balanced.found id
      rw [before] at found
      unfold Subscription.stance at found ⊢
      cases held : subscription.isHeld with
      | true => simp [serving]
      | false => simp [serving, held] at found
    have unqueued : id ∉ watcher.unregistering := by
      intro queued
      have stopped := (orderly.unregistering id queued).stance?_eq
      rw [before, served] at stopped
      cases stopped
    have queue : (watcher.update id (subscription.use use)
        (subscription.unregisters use)).unregistering = watcher.unregistering ++ [id] := by
      simp [update, asked, running]
    refine ⟨balanced.tight, ?_, ?_, ?_, balanced.gauge⟩
    · intro other
      rw [stance, stopped]
      split
      · exact fun astray => by cases astray
      · exact balanced.found other
    · intro other
      rw [stance, stopped, queue, List.mem_append, List.mem_singleton]
      show other ∈ watcher.registry.keys ↔ _
      rw [balanced.registered]
      by_cases same : id = other
      · subst same
        simp [before, served]
      · simp [same, Ne.symm same]
    · rw [queue, List.nodup_append]
      refine ⟨balanced.nodup, List.nodup_singleton id, ?_⟩
      intro other listed last isLast same
      exact unqueued (List.mem_singleton.mp isLast ▸ same ▸ listed)

/-- There is no use of a subscription that was never opened. -/
theorem take_of_absent {use : Use} (absent : watcher.subscriptions[id]? = none)
    (asks : input.use? = some (id, use)) : watcher.take input = watcher := by
  cases input <;> cases asks <;> simp only [take, stop, drop, changes, next, streamNext, absent]

/-! ### Runs -/

theorem IsBalanced.take (balanced : watcher.IsBalanced base) (orderly : watcher.Orderly)
    (input : Input) (running : (watcher.take input).hasEnded = false) :
    (watcher.take input).IsBalanced base := by
  have before := running_of_take running
  cases asks : input.use? with
  | some asked =>
    obtain ⟨id, use⟩ := asked
    cases present : watcher.subscriptions[id]? with
    | none =>
      rw [take_of_absent present asks]
      exact balanced
    | some subscription =>
      rw [take_of_use present asks]
      exact balanced.used orderly before present
  | none =>
    cases input with
    | tick =>
      simp only [Watcher.take, tick, before, Bool.false_eq_true, if_false]
      exact balanced.issue _ _
    | requestSync =>
      simp only [Watcher.take, requestSync, before, Bool.false_eq_true, if_false]
      exact balanced.issue _ _
    | giveUp _ | abandonPolls => exact balanced.congr rfl rfl rfl fun _ => rfl
    | watch key since =>
      simp only [Watcher.take]
      rcases watcher.watch_cases key since with ⟨refusal, refused⟩ | ⟨-, opened⟩
      · rw [refused]
        exact balanced
      · rw [opened]
        exact balanced.enrol orderly key _
    | unregisterNext => exact balanced.unregisterNext orderly
    | shutDown | readerLost =>
      simp only [Watcher.take, shutDown, readerLost, before, Bool.false_eq_true, if_false] at running
      cases running
    | stop _ | drop _ | changes _ | next _ | streamNext _ => cases asks

/-- **A running watcher stays in balance**, whatever occurs. -/
theorem IsBalanced.undergo (balanced : watcher.IsBalanced base) (tidy : watcher.IsTidy)
    (running : (watcher.undergo occurrence).hasEnded = false) :
    (watcher.undergo occurrence).IsBalanced base := by
  cases occurrence with
  | handled event => exact balanced.receive event running
  | asked input => exact balanced.take (tidy.orderly (running_of_take running)) input running
  | polled => exact balanced.congr rfl rfl rfl fun _ => rfl

theorem IsBalanced.run {occurrences : List Occurrence} (balanced : watcher.IsBalanced base)
    (tidy : watcher.IsTidy) (running : (watcher.run occurrences).hasEnded = false) :
    (watcher.run occurrences).IsBalanced base := by
  induction occurrences generalizing watcher with
  | nil => exact balanced
  | cons occurrence rest ih =>
    have now : (watcher.undergo occurrence).hasEnded = false := running_of_run running
    exact ih (balanced.undergo tidy now) (tidy.undergo occurrence) running

/-- What has been counted before makes no difference. -/
theorem isTidy_counting (strategy : Strategy) (metrics : Metrics) :
    ({ start strategy with metrics } : Watcher).IsTidy where
  exact := (isTidy_start strategy).exact
  orderly running := by
    have orderly := (isTidy_start strategy).orderly running
    have continues : Continues (start strategy) { start strategy with metrics } :=
      orderly.continues rfl rfl rfl rfl
    exact continues.orderly

/-- A new watcher has registered nobody. -/
theorem isBalanced_start (strategy : Strategy) (metrics : Metrics) :
    ({ start strategy with metrics } : Watcher).IsBalanced metrics.activeSubscriptions where
  tight := Registry.isTight_empty
  found id := by simp [start, stance?]
  registered id := by simp [start, stance?]
  nodup := List.nodup_nil
  gauge := (Int.add_zero _).symm

/-! ### Ids -/

/-- The id under which a subscription is opened in an occurrence. -/
def opened? (watcher : Watcher) : Occurrence → Option SubscriptionId
  | .asked (.watch key since) => (watcher.watch key since).1.toOption
  | _ => none

/-- The ids under which subscriptions are opened in the course of occurrences, in order. -/
def opened : Watcher → List Occurrence → List SubscriptionId
  | _, [] => []
  | watcher, occurrence :: rest =>
    (watcher.opened? occurrence).toList ++ opened (watcher.undergo occurrence) rest

theorem nextId_issue (watcher : Watcher) (poll : Option Nat) :
    (watcher.issue poll).nextId = watcher.nextId := by
  obtain ⟨desk, polls, same⟩ := issue_eq watcher poll
  rw [same]

theorem nextId_receive (watcher : Watcher) (event : Event) :
    (watcher.receive event).nextId = watcher.nextId := by
  cases ended : watcher.hasEnded with
  | true => rw [show watcher.receive event = watcher from if_pos ended]
  | false =>
    by_cases isAboutLog : event.isAboutLog = true
    · obtain ⟨metrics, received⟩ := receive_eq ended event isAboutLog
      rw [received]
    · cases event with
      | primed _ | batch _ | discontinuity _ => exact absurd rfl isAboutLog
      | cycleComplete seq =>
        simp only [receive, ended, Bool.false_eq_true, if_false]
        rw [nextId_issue]
      | cycleAborted _ _ | fatal _ => simp only [receive, ended, Bool.false_eq_true, if_false, finish]

/-- An occurrence opens a subscription under the next id, or leaves the next id as it is. -/
theorem opened?_cases (watcher : Watcher) (occurrence : Occurrence) :
    (watcher.opened? occurrence = none ∧ (watcher.undergo occurrence).nextId = watcher.nextId) ∨
      watcher.opened? occurrence = some watcher.nextId ∧
        (watcher.undergo occurrence).nextId = watcher.nextId + 1 := by
  cases occurrence with
  | handled event => exact Or.inl ⟨rfl, watcher.nextId_receive event⟩
  | polled => exact Or.inl ⟨rfl, rfl⟩
  | asked input =>
    cases idle : input.isIdle with
    | true =>
      obtain ⟨_, _, _, _, _, same⟩ := watcher.take_of_isIdle idle
      refine Or.inl ⟨?_, by rw [undergo, same]⟩
      cases input <;> first | rfl | cases idle
    | false =>
      cases input with
      | tick | requestSync | giveUp _ | unregisterNext | abandonPolls => cases idle
      | watch key since =>
        simp only [opened?, undergo, take]
        rcases watcher.watch_cases key since with ⟨refusal, refused⟩ | ⟨-, opened⟩
        · rw [refused]
          exact Or.inl ⟨rfl, rfl⟩
        · rw [opened]
          exact Or.inr ⟨rfl, rfl⟩
      | stop _ | drop _ | changes _ | next _ | streamNext _ =>
        refine Or.inl ⟨rfl, ?_⟩
        simp only [undergo, take, stop, drop, changes, next, streamNext]
        split <;> rfl
      | shutDown | readerLost =>
        refine Or.inl ⟨rfl, ?_⟩
        simp only [undergo, take, shutDown, readerLost]
        split <;> rfl

/-- **Subscriptions are numbered in the order in which they are opened**, without gaps. -/
theorem opened_eq_range' (watcher : Watcher) (occurrences : List Occurrence) :
    opened watcher occurrences = List.range' watcher.nextId (opened watcher occurrences).length := by
  induction occurrences generalizing watcher with
  | nil => rfl
  | cons occurrence rest ih =>
    have later := ih (watcher.undergo occurrence)
    unfold opened
    rcases watcher.opened?_cases occurrence with ⟨nothing, same⟩ | ⟨next, larger⟩
    · rw [nothing]
      rwa [same] at later
    · rw [next]
      rw [larger] at later
      exact congrArg (watcher.nextId :: ·) later

/-- **Nobody stays registered in vain, and nobody is served unregistered.** As long as a watcher runs, a
subscription is registered exactly if its subscriber has it and has not stopped it, or it waits to be
unregistered, and it is never both. None waits twice, and what waits is found registered. The indexes say
what the registered keys say, without an empty set, so their sizes are the numbers of different keys and
of different collections of single documents. No id is given out twice, and the count of the registered
has grown since the start by the number of those who are registered. -/
theorem registered_iff_served_or_unregistering (strategy : Strategy) (metrics : Metrics)
    (occurrences : List Occurrence)
    (running : (({ start strategy with metrics } : Watcher).run occurrences).hasEnded = false) :
    let first : Watcher := { start strategy with metrics }
    let watcher := first.run occurrences
    let registry := watcher.registry
    (∀ id, (id ∈ registry.keys ↔ watcher.Serves id ∨ id ∈ watcher.unregistering) ∧
        ¬ (watcher.Serves id ∧ id ∈ watcher.unregistering)) ∧
      watcher.unregistering.Nodup ∧
      (∀ id ∈ watcher.unregistering, (registry.remove? id).isSome = true) ∧
      (∀ id key, id ∈ SubscriptionIndex.idsOf registry.byKey key ↔ registry.keys[id]? = some key) ∧
      (∀ id name, id ∈ SubscriptionIndex.idsOf registry.entitiesByCollection name ↔
        ∃ document, registry.keys[id]? = some (.entity document) ∧ document.collection = name) ∧
      (∀ (key : WatchKey) ids, registry.byKey[key]? = some ids → ids ≠ ∅) ∧
      (∀ (name : String) ids, registry.entitiesByCollection[name]? = some ids → ids ≠ ∅) ∧
      watcher.stats.watchedKeys = registry.watched.dedup.length ∧
      watcher.stats.entityCollections =
        (registry.watched.filterMap WatchKey.entityCollection?).dedup.length ∧
      (opened first occurrences).Nodup ∧
      watcher.metrics.activeSubscriptions = metrics.activeSubscriptions + watcher.stats.subscriptions := by
  intro first watcher registry
  have balanced : watcher.IsBalanced metrics.activeSubscriptions :=
    (isBalanced_start strategy metrics).run (isTidy_counting strategy metrics) running
  have tidy : watcher.IsTidy := (isTidy_counting strategy metrics).run occurrences
  refine ⟨fun id => ⟨?_, ?_⟩, balanced.nodup, ?_, tidy.exact.byKey, tidy.exact.entities,
    balanced.tight.byKey, balanced.tight.entities, ?_, ?_, ?_, balanced.gauge⟩
  · rw [serves_iff]
    exact balanced.registered id
  · rintro ⟨serves, queued⟩
    have stopped := ((tidy.orderly running).unregistering id queued).stance?_eq
    rw [serves_iff.mp serves] at stopped
    cases stopped
  · intro id queued
    obtain ⟨_, removed, -⟩ := unregister_of_mem ((balanced.registered id).mpr (Or.inr queued))
    exact Option.isSome_iff_exists.mpr ⟨_, removed⟩
  · exact Registry.watchedKeys_eq tidy.exact balanced.tight
  · exact Registry.entityCollections_eq tidy.exact balanced.tight
  · rw [opened_eq_range']
    exact List.nodup_range'

/-- One subscriber stops twice and lets go, another does not even wait for the answer, and a third is
refused. Beside the one who stays, only the second is still registered, as long as it is queued. -/
theorem three_opened_and_two_registered :
    let metrics : Metrics := { activeSubscriptions := 3 }
    let apple : WatchKey := .entity ⟨"fruit", "apple"⟩
    let occurrences : List Occurrence :=
      [.asked (.watch (.collection "fruit") none), .asked (.watch apple none), .asked (.stop 2),
        .asked (.stop 2), .asked (.watch apple none), .asked (.drop 3), .asked .unregisterNext,
        .asked (.drop 2), .asked (.watch (.collection "") none)]
    let watcher := ({ start .snapshot with metrics } : Watcher).run occurrences
    3 ∈ watcher.registry.keys ∧ ¬ watcher.Serves 3 ∧ watcher.metrics.activeSubscriptions = 5 := by
  intro metrics apple occurrences watcher
  obtain ⟨registered, -, -, -, -, -, -, -, -, -, gauge⟩ :=
    registered_iff_served_or_unregistering .snapshot metrics occurrences (by decide)
  obtain ⟨named, never⟩ := registered 3
  have queued : 3 ∈ watcher.unregistering := by decide
  have two : watcher.stats.subscriptions = 2 := by decide
  refine ⟨?_, fun serves => never ⟨serves, queued⟩, ?_⟩
  · rw [named]
    exact Or.inr queued
  · rw [gauge, two]
    rfl

end Watcher

end ChangeFeed
