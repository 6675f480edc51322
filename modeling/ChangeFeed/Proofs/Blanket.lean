/-
# The blanket strategy covers the precise one

After a discontinuity the precise strategy reports what a snapshot has news of, and the blanket strategy
reports everything that is known or watched. Either way the same is known afterwards, so two watchers
that differ in their strategy alone go on knowing the same, and whatever the precise one marks the blanket
one marks too. `Underlies` says this of a subscription in both, and whatever the subscription sees keeps
it. A subscriber cannot lose anything by a change to the blanket strategy.
-/

import ChangeFeed.Proofs.Closing

namespace ChangeFeed

/-! ## Plans -/

/-- Whatever the plan reports, the wider plan reports too. -/
structure Reconciliation.IsWithin (plan wider : Reconciliation) : Prop where
  suspects : ∀ document ∈ plan.suspects, document ∈ wider.suspects
  entities : plan.allWatchedEntities = true → wider.allWatchedEntities = true

namespace KnownState

/-- **No strategy reports more than the blanket one.** -/
theorem isWithin_assumeChanged (known : KnownState) (strategy : Strategy) (snapshot : Option Snapshot) :
    (known.reconcile strategy snapshot).1.IsWithin (known.reconcile .assumeChanged snapshot).1 where
  suspects _ suspected := mem_suspects_reconcileBlanket_iff.mpr (mem_of_mem_suspects suspected)
  entities _ := rfl

end KnownState

/-! ## One subscription -/

theorem Mailbox.closed_close (mailbox : Mailbox) (reason : CloseReason) :
    (mailbox.close reason).closed = some (mailbox.closed.getD reason) := by
  cases closed : mailbox.closed <;> cases reason <;> simp [close, closed]

namespace Subscription

variable {subscription lower upper : Subscription}

/-- What has been stopped is closed. -/
def IsTied (subscription : Subscription) : Prop :=
  subscription.stopped = true → subscription.mailbox.closed.isSome = true

theorem IsTied.use (tied : subscription.IsTied) (use : Use) : (subscription.use use).IsTied :=
  (subscription.follows_use use).closed tied

theorem IsTied.serving (tied : subscription.IsTied) (isOpen : subscription.mailbox.closed = none) :
    subscription.stopped = false := by
  apply Bool.eq_false_iff.mpr
  intro stopped
  have closed := tied stopped
  rw [isOpen] at closed
  cases closed

theorem IsTied.mailbox_stop (tied : subscription.IsTied) :
    subscription.stop.2.mailbox = subscription.mailbox.close .stopped := by
  unfold stop
  split
  · next stopped =>
    obtain ⟨reason, closed⟩ := Option.isSome_iff_exists.mp (tied stopped)
    exact (Mailbox.close_of_closed closed .stopped).symm
  · rfl

/-- Only the subscriber who stops or lets go closes the mailbox by a use, unless it is closed already. -/
theorem IsTied.closed_use (tied : subscription.IsTied) (use : Use) :
    (subscription.use use).mailbox.closed =
      match use with
      | .stop | .drop => some (subscription.mailbox.closed.getD .stopped)
      | .changes | .next | .streamNext => subscription.mailbox.closed := by
  have stops : subscription.stop.2.mailbox.closed =
      some (subscription.mailbox.closed.getD .stopped) := by
    rw [tied.mailbox_stop, Mailbox.closed_close]
  cases use with
  | stop | drop => exact stops
  | changes => rfl
  | next => exact Watcher.next_mailbox subscription.mailbox
  | streamNext =>
    show subscription.streamNext.2.2.mailbox.closed = subscription.mailbox.closed
    rcases subscription.streamNext_cases with ⟨-, gone⟩ | ⟨-, ⟨closed, ends⟩ | waits | hands⟩
    · rw [gone]
    · obtain ⟨reason, closed⟩ := Option.isSome_iff_exists.mp closed
      rw [ends]
      exact stops.trans (by rw [closed, Option.getD_some])
    · rw [waits]
    · rw [hands]
      rfl

/-- The use leaves nothing pending. -/
def isSpentBy (subscription : Subscription) : Use → Bool
  | .stop | .drop => subscription.mailbox.closed.isNone
  | .changes | .next => true
  | .streamNext => subscription.isHeld

/-- A use leaves nothing pending or everything. -/
theorem IsTied.pending_use (tied : subscription.IsTied) (use : Use) :
    (subscription.use use).mailbox.pending =
      if subscription.isSpentBy use then ∅ else subscription.mailbox.pending := by
  have stops : subscription.stop.2.mailbox.pending =
      if subscription.mailbox.closed.isNone then ∅ else subscription.mailbox.pending := by
    rw [tied.mailbox_stop]
    cases closed : subscription.mailbox.closed <;> simp [Mailbox.close, closed]
  cases use with
  | stop | drop => exact stops
  | changes => rfl
  | next =>
    have taken : subscription.isTakenBy .next = true := rfl
    exact pending_of_isTakenBy taken
  | streamNext =>
    cases held : subscription.isHeld with
    | true =>
      have taken : subscription.isTakenBy .streamNext = true := held
      simp only [isSpentBy, held, if_true]
      exact pending_of_isTakenBy taken
    | false =>
      simp only [isSpentBy, held, Bool.false_eq_true, if_false]
      exact congrArg (·.2.2.mailbox.pending) (streamNext_of_not_isHeld held)

/-- As much is pending in the upper subscription as in the lower one, and both are closed or neither is.
Both are held in the same way until the lower one has come to its end. -/
structure Underlies (lower upper : Subscription) : Prop where
  lowerTied : lower.IsTied
  upperTied : upper.IsTied
  key : upper.key = lower.key
  closed : upper.mailbox.closed = lower.mailbox.closed
  pending : ∀ text ∈ lower.mailbox.pending, text ∈ upper.mailbox.pending
  held : upper.isHeld = lower.isHeld ∨
    lower.mailbox.closed.isSome = true ∧ lower.mailbox.pending = ∅

/-- What the upper subscription has left to give, the lower one has not. -/
theorem Underlies.spent (underlies : lower.Underlies upper) {use : Use}
    (spent : upper.isSpentBy use = true) : (lower.use use).mailbox.pending = ∅ := by
  rw [underlies.lowerTied.pending_use]
  split
  · rfl
  · next left =>
    cases use with
    | stop | drop =>
      simp only [isSpentBy, underlies.closed] at spent left
      exact absurd spent left
    | changes | next => exact absurd rfl left
    | streamNext =>
      rcases underlies.held with same | ⟨-, nothing⟩
      · simp only [isSpentBy, same] at spent left
        exact absurd spent left
      · exact nothing

/-- An open stream is asked for its next element, and goes on. -/
theorem IsTied.isHeld_streamNext (tied : subscription.IsTied)
    (isOpen : subscription.mailbox.closed = none) :
    (subscription.use .streamNext).isHeld = subscription.isHeld :=
  isHeld_use ((tied.use .streamNext).serving ((tied.closed_use .streamNext).trans isOpen))

/-- Both are held in the same way after a use, or the lower one has come to its end. -/
theorem Underlies.held_use (underlies : lower.Underlies upper) (use : Use) :
    (upper.use use).isHeld = (lower.use use).isHeld ∨
      (lower.use use).mailbox.closed.isSome = true ∧ (lower.use use).mailbox.pending = ∅ := by
  have closes (closed : lower.mailbox.closed.isSome = true) :
      (lower.use use).mailbox.closed.isSome = true := by
    rw [underlies.lowerTied.closed_use]
    cases use <;> first | rfl | exact closed
  have handle (subscription : Subscription) : subscription.stop.2.isHeld = subscription.isHeld := by
    unfold stop
    split <;> rfl
  rcases underlies.held with same | ⟨closed, nothing⟩
  · cases use with
    | stop => exact Or.inl ((handle upper).trans (same.trans (handle lower).symm))
    | drop => exact Or.inl rfl
    | changes | next => exact Or.inl same
    | streamNext =>
      cases isOpen : lower.mailbox.closed with
      | none =>
        rw [underlies.upperTied.isHeld_streamNext (underlies.closed.trans isOpen),
          underlies.lowerTied.isHeld_streamNext isOpen]
        exact Or.inl same
      | some reason =>
        -- a closed stream gives all that is left if it is still held, and is left alone if it is not
        cases held : lower.isHeld with
        | true =>
          have spent : upper.isSpentBy .streamNext = true := same.trans held
          exact Or.inr ⟨closes (by rw [isOpen]; rfl), underlies.spent spent⟩
        | false =>
          left
          show upper.streamNext.2.2.isHeld = lower.streamNext.2.2.isHeld
          rw [streamNext_of_not_isHeld held, streamNext_of_not_isHeld (same.trans held)]
          exact same
  · exact Or.inr ⟨closes closed, (lower.effect_use use).spent nothing⟩

/-- A subscription underlies another after they were used in the same way. -/
theorem Underlies.use (underlies : lower.Underlies upper) (use : Use) :
    (lower.use use).Underlies (upper.use use) where
  lowerTied := underlies.lowerTied.use use
  upperTied := underlies.upperTied.use use
  key := (upper.key_use use).trans (underlies.key.trans (lower.key_use use).symm)
  closed := by
    rw [underlies.upperTied.closed_use, underlies.lowerTied.closed_use, underlies.closed]
  pending := by
    intro text listed
    rw [underlies.upperTied.pending_use]
    split
    · next spent =>
      rw [underlies.spent spent] at listed
      exact absurd listed Std.ExtTreeSet.not_mem_empty
    · apply underlies.pending
      rw [underlies.lowerTied.pending_use] at listed
      split at listed
      · exact absurd listed Std.ExtTreeSet.not_mem_empty
      · exact listed
  held := underlies.held_use use

/-- The ids that a use brings, if it brings anything. -/
theorem map_ids_receipt? (subscription : Subscription) (use : Use) :
    (subscription.receipt? use).map Receipt.ids =
      match use with
      | .stop | .drop => none
      | .changes | .next => some subscription.mailbox.pending
      | .streamNext => some (if subscription.isHeld then subscription.mailbox.pending else ∅) := by
  have spent (empty : subscription.mailbox.pending.isEmpty = true) :
      subscription.mailbox.pending = ∅ := Std.ExtTreeSet.isEmpty_iff.mp empty
  cases use with
  | stop | drop | changes => rfl
  | next =>
    simp only [receipt?, Option.map_some]
    cases empty : subscription.mailbox.pending.isEmpty with
    | true =>
      rw [next_of_isEmpty empty, spent empty]
      split <;> rfl
    | false =>
      rw [next_of_not_isEmpty empty]
      rfl
  | streamNext =>
    simp only [receipt?, Option.map_some]
    cases held : subscription.isHeld with
    | false =>
      rw [streamNext_of_not_isHeld held]
      rfl
    | true =>
      cases empty : subscription.mailbox.pending.isEmpty with
      | true =>
        rw [streamNext_of_isEmpty held empty, spent empty]
        split <;> rfl
      | false =>
        rw [streamNext_of_not_isEmpty held empty]
        rfl

/-- What the lower subscriber gets for a use, the upper one gets too. -/
theorem Underlies.receipt? (underlies : lower.Underlies upper) {use : Use} {ids : IdSet}
    (got : (lower.receipt? use).map Receipt.ids = some ids) :
    ∃ more, (upper.receipt? use).map Receipt.ids = some more ∧ ∀ text ∈ ids, text ∈ more := by
  rw [map_ids_receipt?] at got ⊢
  cases use with
  | stop | drop => cases got
  | changes | next =>
    cases got
    exact ⟨_, rfl, underlies.pending⟩
  | streamNext =>
    cases got
    refine ⟨_, rfl, ?_⟩
    intro text listed
    split at listed
    · next held =>
      rcases underlies.held with same | ⟨-, nothing⟩
      · rw [if_pos (same.trans held)]
        exact underlies.pending text listed
      · rw [nothing] at listed
        exact absurd listed Std.ExtTreeSet.not_mem_empty
    · exact absurd listed Std.ExtTreeSet.not_mem_empty

theorem Underlies.close (underlies : lower.Underlies upper) (reason : CloseReason) :
    ({ lower with mailbox := lower.mailbox.close reason } : Subscription).Underlies
      { upper with mailbox := upper.mailbox.close reason } where
  lowerTied _ := lower.mailbox.isSome_closed_close reason
  upperTied _ := upper.mailbox.isSome_closed_close reason
  key := underlies.key
  closed := by
    show (upper.mailbox.close reason).closed = (lower.mailbox.close reason).closed
    rw [Mailbox.closed_close, Mailbox.closed_close, underlies.closed]
  pending := by
    have same := underlies.closed
    show ∀ text ∈ (lower.mailbox.close reason).pending, text ∈ (upper.mailbox.close reason).pending
    cases closed : lower.mailbox.closed with
    | some first =>
      rw [Mailbox.close_of_closed closed, Mailbox.close_of_closed (same.trans closed)]
      exact underlies.pending
    | none =>
      rw [closed] at same
      cases reason with
      | stopped =>
        intro text listed
        simp [Mailbox.close, closed] at listed
      | shutdown | fatal =>
        simp only [Mailbox.close, closed, same]
        exact underlies.pending
  held := by
    rcases underlies.held with same | ⟨closed, nothing⟩
    · exact Or.inl same
    · obtain ⟨first, closed⟩ := Option.isSome_iff_exists.mp closed
      right
      simp only [Mailbox.close_of_closed closed]
      exact ⟨by rw [closed]; rfl, nothing⟩

/-- More marks in the upper mailbox change nothing. -/
theorem Underlies.mark (underlies : lower.Underlies upper) {fewer more : List String}
    (covers : fewer ⊆ more) :
    ({ lower with mailbox := (lower.mailbox.markAll fewer).2 } : Subscription).Underlies
      { upper with mailbox := (upper.mailbox.markAll more).2 } where
  lowerTied stopped := (congrArg Option.isSome (Mailbox.closed_markAll _ _)).trans
    (underlies.lowerTied stopped)
  upperTied stopped := (congrArg Option.isSome (Mailbox.closed_markAll _ _)).trans
    (underlies.upperTied stopped)
  key := underlies.key
  closed := by
    show (upper.mailbox.markAll more).2.closed = (lower.mailbox.markAll fewer).2.closed
    rw [Mailbox.closed_markAll, Mailbox.closed_markAll, underlies.closed]
  pending := by
    have same := underlies.closed
    show ∀ text ∈ (lower.mailbox.markAll fewer).2.pending, text ∈ (upper.mailbox.markAll more).2.pending
    intro text listed
    cases closed : lower.mailbox.closed with
    | some reason =>
      rw [Mailbox.markAll_of_closed closed] at listed
      rw [Mailbox.markAll_of_closed (same.trans closed)]
      exact underlies.pending text listed
    | none =>
      rw [Mailbox.mem_pending_markAll closed] at listed
      rw [Mailbox.mem_pending_markAll (same.trans closed)]
      exact listed.imp (@covers text) (underlies.pending text)
  held := by
    rcases underlies.held with same | ⟨closed, nothing⟩
    · exact Or.inl same
    · obtain ⟨reason, closed⟩ := Option.isSome_iff_exists.mp closed
      right
      simp only [Mailbox.markAll_of_closed closed]
      exact ⟨by rw [closed]; rfl, nothing⟩

end Subscription

/-! ## One subscription with a watcher of its own -/

namespace Solo

variable {lower upper : Solo}

/-- Two watchers know the same, and either they have the same strategy or the upper one has the blanket
strategy. -/
structure Underlies (lower upper : Solo) : Prop where
  strategy : upper.strategy = lower.strategy ∨ upper.strategy = .assumeChanged
  knownState : upper.knownState = lower.knownState
  hasEnded : upper.hasEnded = lower.hasEnded
  subscription : lower.subscription.Underlies upper.subscription

/-- A new subscription underlies itself, under the same strategy or the blanket one. -/
theorem underlies_start {strategy other : Strategy} (covers : other = strategy ∨ other = .assumeChanged)
    (known : KnownState) (key : WatchKey) (since : Option Revno) :
    (start strategy known key since).Underlies (start other known key since) where
  strategy := covers
  knownState := rfl
  hasEnded := rfl
  subscription :=
    { lowerTied := fun stopped => by cases stopped
      upperTied := fun stopped => by cases stopped
      key := rfl
      closed := rfl
      pending := fun _ listed => listed
      held := Or.inl rfl }

/-- What the lower one marks, the upper one marks. -/
theorem Underlies.marksOf_subset (underlies : lower.Underlies upper) (event : Event) :
    lower.marksOf event ⊆ upper.marksOf event := by
  have key := underlies.subscription.key
  cases event with
  | primed changes | batch changes =>
    simp only [marksOf, known, key, underlies.knownState]
    exact List.Subset.refl _
  | discontinuity snapshot =>
    have within : (lower.knownState.reconcile lower.strategy snapshot).1.IsWithin
        (lower.knownState.reconcile upper.strategy snapshot).1 := by
      rcases underlies.strategy with same | blanket
      · rw [same]
        exact ⟨fun _ suspected => suspected, fun all => all⟩
      · rw [blanket]
        exact lower.knownState.isWithin_assumeChanged lower.strategy snapshot
    intro text marked
    simp only [marksOf, mem_idsUnder_iff, key, underlies.knownState] at marked ⊢
    obtain ⟨document, covers, same, reported⟩ := marked
    have alsoReported := reported.imp (within.suspects document) (And.imp_left within.entities)
    exact ⟨document, covers, same, alsoReported⟩
  | cycleComplete _ | cycleAborted _ _ | fatal _ => exact List.nil_subset _

theorem Underlies.receive (underlies : lower.Underlies upper) (event : Event) :
    (lower.receive event).Underlies (upper.receive event) := by
  by_cases isAboutLog : event.isAboutLog = true
  · rw [receive_eq isAboutLog, receive_eq isAboutLog]
    exact
      { strategy := underlies.strategy
        knownState := congrArg (·.observeAll event.changes) underlies.knownState
        hasEnded := underlies.hasEnded
        subscription := underlies.subscription.mark (underlies.marksOf_subset event) }
  · cases event with
    | primed _ | batch _ | discontinuity _ => exact absurd rfl isAboutLog
    | cycleComplete _ | cycleAborted _ _ => exact underlies
    | fatal reason =>
      exact ⟨underlies.strategy, underlies.knownState, rfl, underlies.subscription.close .fatal⟩

/-- **Whatever both see, the one goes on underlying the other.** -/
theorem Underlies.see (underlies : lower.Underlies upper) (sight : Sight) :
    (lower.see sight).Underlies (upper.see sight) := by
  have same := underlies.hasEnded
  cases sight with
  | told event =>
    simp only [Solo.see, same]
    split
    · exact underlies
    · exact underlies.receive event
  | used use =>
    exact ⟨underlies.strategy, underlies.knownState, same, underlies.subscription.use use⟩
  | ended reason =>
    simp only [Solo.see, same]
    split
    · exact underlies
    · exact ⟨underlies.strategy, underlies.knownState, rfl, underlies.subscription.close reason⟩

end Solo

/-! ## Whole watchers -/

namespace Watcher

variable {watcher lower upper : Watcher} {id : SubscriptionId} {occurrence : Occurrence} {solo : Solo}

/-- A watcher that is to end does so. -/
theorem ends_of_closing (closes : occurrence.closing?.isSome = true) :
    (watcher.undergo occurrence).hasEnded = true := by
  obtain ⟨reason, closes⟩ := Option.isSome_iff_exists.mp closes
  cases ended : watcher.hasEnded with
  | true =>
    cases after : (watcher.undergo occurrence).hasEnded with
    | true => rfl
    | false => exact absurd ((running_of_undergo after).symm.trans ended) Bool.false_ne_true
  | false =>
    cases occurrence with
    | polled => cases closes
    | asked input =>
      obtain ⟨outcome, taken⟩ := take_of_closing closes
      have after : watcher.undergo (.asked input) = watcher.finish reason outcome :=
        taken.trans (if_neg (by simp [ended]))
      rw [after]
      rfl
    | handled event =>
      cases event with
      | fatal text =>
        have after : watcher.undergo (.handled (.fatal text)) = watcher.finish .fatal (.failed text) :=
          if_neg (by simp [ended])
        rw [after]
        rfl
      | primed _ | batch _ | discontinuity _ | cycleComplete _ | cycleAborted _ _ => cases closes

/-- Whether a watcher ends depends on what occurs, and on nothing else. -/
theorem hasEnded_undergo (watcher : Watcher) (occurrence : Occurrence) :
    (watcher.undergo occurrence).hasEnded = (watcher.hasEnded || occurrence.closing?.isSome) := by
  cases after : (watcher.undergo occurrence).hasEnded with
  | false =>
    have before := running_of_undergo after
    have goesOn : occurrence.closing?.isSome = false := by
      apply Bool.eq_false_iff.mpr
      intro closes
      exact Bool.false_ne_true (after.symm.trans (ends_of_closing closes))
    rw [before, goesOn, Bool.or_false]
  | true =>
    cases before : watcher.hasEnded with
    | true => rfl
    | false =>
      obtain ⟨reason, outcome, closes, -⟩ := exists_finish before after
      rw [closes, Option.isSome_some, Bool.false_or]

/-- What has been seen depends on the events alone, as long as the watcher runs. -/
theorem knownState_undergo (watcher : Watcher) (occurrence : Occurrence) :
    (watcher.undergo occurrence).knownState =
      if watcher.hasEnded then watcher.knownState
      else watcher.knownState.observeAll (occurrence.event?.elim [] Event.changes) := by
  have nothing : watcher.knownState.observeAll [] = watcher.knownState := rfl
  cases occurrence with
  | polled => simp only [Occurrence.event?, Option.elim, nothing, ite_self, undergo, takePoll]
  | asked input =>
    simp only [Occurrence.event?, Option.elim, nothing, ite_self]
    exact (watcher.take_frame input).1
  | handled event =>
    cases ended : watcher.hasEnded with
    | true => exact congrArg Watcher.knownState (if_pos ended : watcher.receive event = watcher)
    | false => exact receive_knownState ended event

/-- The id under which a subscription is opened is the next one, as long as the watcher runs. -/
theorem opened?_congr (hasEnded : upper.hasEnded = lower.hasEnded) (nextId : upper.nextId = lower.nextId)
    (occurrence : Occurrence) : upper.opened? occurrence = lower.opened? occurrence := by
  cases occurrence with
  | handled _ | polled => rfl
  | asked input =>
    cases input with
    | watch key since =>
      simp only [opened?, watch, hasEnded, nextId]
      split
      · rfl
      · split <;> rfl
    | tick | requestSync | giveUp _ | unregisterNext | stop _ | drop _ | changes _ | next _
    | streamNext _ | shutDown | readerLost | abandonPolls => rfl

/-- Events open no subscriptions. -/
theorem absent_receive (absent : watcher.subscriptions[id]? = none) (event : Event) :
    (watcher.receive event).subscriptions[id]? = none := by
  cases ended : watcher.hasEnded with
  | true => rwa [show watcher.receive event = watcher from if_pos ended]
  | false =>
    by_cases isAboutLog : event.isAboutLog = true
    · obtain ⟨metrics, received⟩ := receive_eq ended event isAboutLog
      rw [received]
      apply (Subscriptions.getElem?_markEach _ _ _).trans
      rw [absent, Option.map_none]
    · cases event with
      | primed _ | batch _ | discontinuity _ => exact absurd rfl isAboutLog
      | cycleComplete seq =>
        simp only [receive, ended, Bool.false_eq_true, if_false]
        rwa [subscriptions_issue]
      | cycleAborted _ _ =>
        simp only [receive, ended, Bool.false_eq_true, if_false]
        exact absent
      | fatal reason =>
        simp only [receive, ended, Bool.false_eq_true, if_false]
        apply (Subscriptions.getElem?_closeEach _ _ _ _).trans
        rw [absent, Option.map_none, ite_self]

/-- A subscription that was not there before is opened. -/
theorem opened?_of_present (absent : watcher.subscriptions[id]? = none)
    (present : (watcher.undergo occurrence).subscriptions[id]? ≠ none) :
    watcher.opened? occurrence = some id := by
  have kept : (watcher.undergo occurrence).subscriptions = watcher.subscriptions →
      watcher.opened? occurrence = some id := fun same => absurd (same ▸ absent) present
  cases occurrence with
  | handled event => exact absurd (absent_receive absent event) present
  | polled => exact kept rfl
  | asked input =>
    cases asks : input.use? with
    | some asked =>
      obtain ⟨other, use⟩ := asked
      cases found : watcher.subscriptions[other]? with
      | none => exact kept (congrArg Watcher.subscriptions (take_of_absent found asks))
      | some subscription =>
        have different : other ≠ id := by
          rintro rfl
          rw [absent] at found
          cases found
        have taken : watcher.undergo (.asked input) = _ := take_of_use found asks
        rw [taken] at present
        simp [update, Std.ExtTreeMap.getElem?_insert, different, absent] at present
    | none =>
      cases idle : input.isIdle with
      | true =>
        obtain ⟨_, _, _, _, _, same⟩ := watcher.take_of_isIdle idle
        exact kept (by rw [undergo, same])
      | false =>
        cases input with
        | watch key since =>
          rcases watcher.watch_cases key since with ⟨refusal, refused⟩ | ⟨-, opened⟩
          · exact kept (congrArg (·.2.subscriptions) refused)
          · have after : watcher.undergo (.asked (.watch key since)) = watcher.enrol key _ :=
              congrArg Prod.snd opened
            have new : watcher.opened? (.asked (.watch key since)) = some watcher.nextId :=
              congrArg (·.1.toOption) opened
            rw [after] at present
            rw [new]
            by_cases same : watcher.nextId = id
            · rw [same]
            · simp [enrol, Std.ExtTreeMap.getElem?_insert, same, absent] at present
        | shutDown | readerLost =>
          apply absurd _ present
          simp only [undergo, take, shutDown, readerLost]
          split
          · exact absent
          · apply (Subscriptions.getElem?_closeEach _ _ _ _).trans
            rw [absent, Option.map_none, ite_self]
        | tick | requestSync | giveUp _ | unregisterNext | abandonPolls => cases idle
        | stop _ | drop _ | changes _ | next _ | streamNext _ => cases asks

/-- Two watchers know the same, number subscriptions alike and have both ended or neither. Either they
have the same strategy or the upper one has the blanket strategy, and each subscription of the lower one
underlies the one of the same number in the upper one. -/
structure Underlies (lower upper : Watcher) : Prop where
  lowerTidy : lower.IsTidy
  upperTidy : upper.IsTidy
  strategy : upper.strategy = lower.strategy ∨ upper.strategy = .assumeChanged
  knownState : upper.knownState = lower.knownState
  hasEnded : upper.hasEnded = lower.hasEnded
  nextId : upper.nextId = lower.nextId
  served : ∀ id, lower.subscriptions[id]? ≠ none → ∃ below above : Solo, Mirrors id lower below ∧
    Mirrors id upper above ∧ below.Underlies above

/-- A subscription that is opened in both underlies itself. -/
theorem Underlies.opened (underlies : lower.Underlies upper)
    (opened : lower.opened? occurrence = some id) :
    ∃ below above : Solo, Mirrors id (lower.undergo occurrence) below ∧
      Mirrors id (upper.undergo occurrence) above ∧ below.Underlies above := by
  have alsoOpened := (opened?_congr underlies.hasEnded underlies.nextId occurrence).trans opened
  have given {outcome : Except WatchError SubscriptionId} (some : outcome.toOption = some id) :
      outcome = .ok id := by
    cases outcome <;> cases some
    rfl
  cases occurrence with
  | handled _ | polled => cases opened
  | asked input =>
    cases input with
    | watch key since =>
      have below := mirrors_watch underlies.lowerTidy (given opened)
      have above := mirrors_watch underlies.upperTidy (given alsoOpened)
      rw [underlies.knownState] at above
      exact ⟨_, _, below, above, Solo.underlies_start underlies.strategy lower.knownState key since⟩
    | tick | requestSync | giveUp _ | unregisterNext | stop _ | drop _ | changes _ | next _
    | streamNext _ | shutDown | readerLost | abandonPolls => cases opened

/-- **Whatever occurs to both, the one goes on underlying the other.** -/
theorem Underlies.undergo (underlies : lower.Underlies upper) (occurrence : Occurrence) :
    (lower.undergo occurrence).Underlies (upper.undergo occurrence) where
  lowerTidy := underlies.lowerTidy.undergo occurrence
  upperTidy := underlies.upperTidy.undergo occurrence
  strategy := by
    have kept (watcher : Watcher) : (watcher.undergo occurrence).strategy = watcher.strategy :=
      watcher.strategy_run [occurrence]
    rw [kept, kept]
    exact underlies.strategy
  knownState := by
    rw [knownState_undergo, knownState_undergo, underlies.knownState, underlies.hasEnded]
  hasEnded := by
    rw [hasEnded_undergo, hasEnded_undergo, underlies.hasEnded]
  nextId := by
    have same := opened?_congr underlies.hasEnded underlies.nextId occurrence
    rcases lower.opened?_cases occurrence with ⟨nothing, below⟩ | ⟨next, below⟩ <;>
      rcases upper.opened?_cases occurrence with ⟨alsoNothing, above⟩ | ⟨alsoNext, above⟩ <;>
      simp_all [underlies.nextId]
  served id present := by
    cases before : lower.subscriptions[id]? with
    | none => exact underlies.opened (opened?_of_present before present)
    | some subscription =>
      obtain ⟨below, above, lowerMirrors, upperMirrors, still⟩ :=
        underlies.served id (by rw [before]; exact Option.some_ne_none _)
      refine ⟨_, _, lowerMirrors.undergo occurrence, upperMirrors.undergo occurrence, ?_⟩
      cases occurrence.seenBy id with
      | none => exact still
      | some sight => exact still.see sight

theorem Underlies.run (underlies : lower.Underlies upper) (occurrences : List Occurrence) :
    (lower.run occurrences).Underlies (upper.run occurrences) := by
  induction occurrences generalizing lower upper with
  | nil => exact underlies
  | cons occurrence rest ih => exact ih (underlies.undergo occurrence)

/-! ### Before and after a change of strategy -/

theorem underlies_start (strategy : Strategy) : (start strategy).Underlies (start strategy) where
  lowerTidy := isTidy_start strategy
  upperTidy := isTidy_start strategy
  strategy := Or.inl rfl
  knownState := rfl
  hasEnded := rfl
  nextId := rfl
  served id present := by
    have nobody : (start strategy).subscriptions[id]? = none := Std.ExtTreeMap.getElem?_empty
    exact absurd nobody present

/-- The strategy is no part of what a watcher owes. -/
theorem IsTidy.with_strategy (tidy : watcher.IsTidy) (strategy : Strategy) :
    ({ watcher with strategy } : Watcher).IsTidy where
  exact := tidy.exact
  orderly running := by
    have continues : Continues watcher { watcher with strategy } :=
      (tidy.orderly running).continues rfl rfl rfl rfl
    exact continues.orderly

theorem Mirrors.with_strategy (mirrors : Mirrors id watcher solo) (strategy : Strategy) :
    Mirrors id { watcher with strategy } { solo with strategy } :=
  ⟨mirrors.tidy.with_strategy strategy, rfl, mirrors.knownState, mirrors.hasEnded, mirrors.present,
    mirrors.registered, mirrors.closed⟩

/-- A watcher underlies itself with the blanket strategy. -/
theorem Underlies.with_strategy (underlies : lower.Underlies upper) (strategy : Strategy) :
    ({ lower with strategy } : Watcher).Underlies { upper with strategy := .assumeChanged } where
  lowerTidy := underlies.lowerTidy.with_strategy strategy
  upperTidy := underlies.upperTidy.with_strategy .assumeChanged
  strategy := Or.inr rfl
  knownState := underlies.knownState
  hasEnded := underlies.hasEnded
  nextId := underlies.nextId
  served id present := by
    obtain ⟨below, above, lowerMirrors, upperMirrors, still⟩ := underlies.served id present
    exact ⟨_, _, lowerMirrors.with_strategy strategy, upperMirrors.with_strategy .assumeChanged,
      Or.inr rfl, still.knownState, still.hasEnded, still.subscription⟩

/-- What is pending in the mailbox of a subscription. -/
def pendingIn (watcher : Watcher) (id : SubscriptionId) : List String :=
  watcher.subscriptions[id]?.elim [] (·.mailbox.pending.toList)

/-- What the subscriber of a subscription is given in an occurrence. -/
def gotIn (watcher : Watcher) (id : SubscriptionId) (occurrence : Occurrence) : List String :=
  (watcher.receipt? id occurrence).elim [] (·.ids.toList)

theorem Underlies.pendingIn_subset (underlies : lower.Underlies upper) (id : SubscriptionId) :
    lower.pendingIn id ⊆ upper.pendingIn id := by
  cases present : lower.subscriptions[id]? with
  | none =>
    rw [pendingIn, present]
    exact List.nil_subset _
  | some subscription =>
    obtain ⟨below, above, lowerMirrors, upperMirrors, still⟩ :=
      underlies.served id (by rw [present]; exact Option.some_ne_none _)
    rw [pendingIn, pendingIn, lowerMirrors.present, upperMirrors.present]
    intro text listed
    exact Std.ExtTreeSet.mem_toList.mpr
      (still.subscription.pending text (Std.ExtTreeSet.mem_toList.mp listed))

theorem mem_gotIn_iff {text : String} : text ∈ watcher.gotIn id occurrence ↔
    ∃ ids, (watcher.receipt? id occurrence).map Receipt.ids = some ids ∧ text ∈ ids := by
  unfold gotIn
  cases watcher.receipt? id occurrence <;> simp

/-- Nobody is given anything by a subscription that was never opened. -/
theorem gotIn_of_absent (absent : watcher.subscriptions[id]? = none) (occurrence : Occurrence) :
    watcher.gotIn id occurrence = [] := by
  cases occurrence with
  | handled _ | polled => rfl
  | asked input =>
    cases input with
    | changes other | next other | streamNext other =>
      by_cases same : other = id
      · subst same
        simp [gotIn, receipt?, changes, next, streamNext, absent, Receipt.ids]
      · simp [gotIn, receipt?, same]
    | tick | requestSync | giveUp _ | watch _ _ | unregisterNext | stop _ | drop _ | shutDown
    | readerLost | abandonPolls => rfl

theorem Underlies.gotIn_subset (underlies : lower.Underlies upper) (id : SubscriptionId)
    (occurrence : Occurrence) : lower.gotIn id occurrence ⊆ upper.gotIn id occurrence := by
  cases present : lower.subscriptions[id]? with
  | none =>
    rw [gotIn_of_absent present]
    exact List.nil_subset _
  | some subscription =>
    obtain ⟨below, above, lowerMirrors, upperMirrors, still⟩ :=
      underlies.served id (by rw [present]; exact Option.some_ne_none _)
    intro text given
    rw [mem_gotIn_iff, lowerMirrors.receipt?_eq] at given
    rw [mem_gotIn_iff, upperMirrors.receipt?_eq]
    obtain ⟨ids, got, listed⟩ := given
    cases seen : occurrence.seenBy id with
    | none =>
      rw [seen] at got
      cases got
    | some sight =>
      rw [seen] at got
      cases sight with
      | told _ | ended _ => cases got
      | used use =>
        obtain ⟨more, alsoGot, covers⟩ := still.subscription.receipt? got
        exact ⟨more, alsoGot, covers text listed⟩

/-- **No strategy marks more than the blanket one.** -/
theorem marksOf_subset_assumeChanged (watcher : Watcher) (snapshot : Option Snapshot) :
    watcher.marksOf (.discontinuity snapshot) ⊆
      ({ watcher with strategy := .assumeChanged } : Watcher).marksOf (.discontinuity snapshot) := by
  have within := watcher.knownState.isWithin_assumeChanged watcher.strategy snapshot
  intro mark marked
  rcases List.mem_append.mp marked with suspected | watched
  · obtain ⟨document, listed, interested⟩ := List.mem_flatMap.mp suspected
    apply List.mem_append_left
    apply List.mem_flatMap.mpr ⟨document, ?_, interested⟩
    exact Std.ExtTreeSet.mem_toList.mpr (within.suspects document (Std.ExtTreeSet.mem_toList.mp listed))
  · apply List.mem_append_right
    split at watched
    · exact watched
    · cases watched

/-- **The blanket strategy covers the precise one.** Whatever a watcher has been through, both take the
same from a discontinuity and the blanket strategy makes every mark that the precise one makes. So let
whatever occur to a watcher that goes on with the one or with the other: at every moment what is pending
under the precise strategy is pending under the blanket one, and what a subscriber is given under the
precise strategy it is given under the blanket one. -/
theorem blanket_covers_precise (strategy : Strategy) (before after : List Occurrence)
    (id : SubscriptionId) (occurrence : Occurrence) :
    let watcher := (start strategy).run before
    let precise := ({ watcher with strategy := .snapshot } : Watcher).run after
    let blanket := ({ watcher with strategy := .assumeChanged } : Watcher).run after
    (∀ (known : KnownState) (snapshot : Option Snapshot),
        (known.reconcile .snapshot snapshot).2 = (known.reconcile .assumeChanged snapshot).2) ∧
      (∀ (watcher : Watcher) (snapshot : Option Snapshot),
        ({ watcher with strategy := .snapshot } : Watcher).marksOf (.discontinuity snapshot) ⊆
          ({ watcher with strategy := .assumeChanged } : Watcher).marksOf (.discontinuity snapshot)) ∧
      precise.knownState = blanket.knownState ∧
      precise.pendingIn id ⊆ blanket.pendingIn id ∧
      precise.gotIn id occurrence ⊆ blanket.gotIn id occurrence := by
  intro watcher precise blanket
  have underlies : precise.Underlies blanket :=
    (((underlies_start strategy).run before).with_strategy .snapshot).run after
  refine ⟨fun known snapshot => ?_, fun watcher snapshot => ?_, underlies.knownState.symm, ?_, ?_⟩
  · rw [KnownState.reconcile_known, KnownState.reconcile_known]
  · exact marksOf_subset_assumeChanged { watcher with strategy := .snapshot } snapshot
  · exact underlies.pendingIn_subset id
  · exact underlies.gotIn_subset id occurrence

/-- A snapshot that tells nothing new: the blanket strategy reports the apple, the precise one does not. -/
example :
    let apple : Document := ⟨"fruit", "apple"⟩
    let occurrences : List Occurrence :=
      [.handled (.batch [.update apple 1]), .asked (.watch (.collection "fruit") none),
        .asked (.changes 1), .handled (.discontinuity (some ⟨[.update apple 1], none⟩))]
    ((start .snapshot).run occurrences).pendingIn 1 = [] ∧
      ((start .assumeChanged).run occurrences).pendingIn 1 = ["apple"] := by
  decide

end Watcher

end ChangeFeed
