/-
# Subscriptions do not feel each other

A watcher looks up in its registry whom an event concerns. The registry is shared by all subscriptions,
and changes whenever one of them comes or goes. `Mirrors` says that for each subscription it might as
well not be there: the subscription is at every moment what a watcher of its own would have made of it.

A step of the one is a step of the other, or nothing to it at all. So what a subscriber gets depends
on what was known when the subscription began, on the events since and on the subscriber itself, and
not on who else subscribes.
-/

import ChangeFeed.Proofs.Exactness
import ChangeFeed.Proofs.Receipts

namespace ChangeFeed

namespace Subscription

/-- The subscription is to the same key, and if it is stopped then it is closed, as it was before. -/
structure Follows (before after : Subscription) : Prop where
  key : after.key = before.key
  closed : (before.stopped = true → before.mailbox.closed.isSome = true) →
    after.stopped = true → after.mailbox.closed.isSome = true

/-- Whatever a subscriber does, its subscription follows from what it was. -/
theorem follows_use (subscription : Subscription) (use : Use) :
    subscription.Follows (subscription.use use) where
  key := subscription.key_use use
  closed closed stopped := by
    cases subscription.effect_use use with
    | keeps mailbox same | takes mailbox same =>
      rw [mailbox]
      exact closed (same.symm.trans stopped)
    | stops mailbox =>
      rw [mailbox]
      exact subscription.mailbox.isSome_closed_close .stopped

end Subscription

namespace Watcher

variable {watcher : Watcher} {id : SubscriptionId} {input : Input} {occurrence : Occurrence}
  {subscription : Subscription} {solo : Solo} {key : WatchKey} {since : Option Revno}

/-! ## What an input is to a subscription -/

/-- What a subscription does not see is neither the end of the watcher nor a use of it. -/
theorem Input.unseen (unseen : input.seenBy id = none) :
    input.uses id = false ∧ input.endsWatcher = false := by
  cases input <;> simp_all [Input.seenBy, Input.use?, Input.closing?, Input.uses, Input.endsWatcher]

/-- What it sees is the one or the other. -/
theorem Input.seen_cases {sight : Sight} (seen : input.seenBy id = some sight) :
    (∃ use, input.use? = some (id, use) ∧ sight = .used use) ∨
      ∃ reason, input.closing? = some reason ∧ sight = .ended reason := by
  unfold Input.seenBy at seen
  split at seen
  · next asked =>
    split at seen
    · next same =>
      cases seen
      exact Or.inl ⟨_, same ▸ asked, rfl⟩
    · cases seen
  · obtain ⟨reason, closes, rfl⟩ := Option.map_eq_some_iff.mp seen
    exact Or.inr ⟨reason, closes, rfl⟩

/-- A use puts the subscription back as the subscriber leaves it. -/
theorem take_of_use {use : Use} (present : watcher.subscriptions[id]? = some subscription)
    (asks : input.use? = some (id, use)) :
    watcher.take input =
      watcher.update id (subscription.use use) (subscription.unregisters use) := by
  cases input <;> cases asks <;> simp only [take, stop, drop, changes, next, streamNext, present] <;> rfl

/-- A watcher ends once, and then closes what is registered. -/
theorem take_of_closing {reason : CloseReason} (closes : input.closing? = some reason) :
    ∃ outcome, watcher.take input =
      if watcher.hasEnded then watcher else watcher.finish reason outcome := by
  cases input with
  | shutDown | readerLost =>
    cases closes
    exact ⟨_, rfl⟩
  | tick | requestSync | giveUp _ | watch _ _ | unregisterNext | stop _ | drop _ | changes _ | next _
  | streamNext _ | abandonPolls => cases closes

/-- No watcher is asked to end as if its subscribers had stopped. -/
theorem Input.closing?_ne_stopped {reason : CloseReason} (closes : input.closing? = some reason) :
    reason ≠ .stopped := by
  rintro rfl
  cases input <;> cases closes

/-! ## Housekeeping -/

/-- Between occurrences the registry is exact, and a running watcher owes its subscribers nothing. -/
structure IsTidy (watcher : Watcher) : Prop where
  exact : watcher.registry.IsExact
  orderly : watcher.hasEnded = false → watcher.Orderly

theorem isTidy_start (strategy : Strategy) : (start strategy).IsTidy where
  exact := Registry.isExact_empty
  orderly _ := orderly_start strategy

theorem running_of_undergo (running : (watcher.undergo occurrence).hasEnded = false) :
    watcher.hasEnded = false := by
  cases occurrence with
  | handled event => exact running_of_receive running
  | asked input => exact running_of_take running
  | polled => exact running

theorem running_of_run {occurrences : List Occurrence}
    (running : (watcher.run occurrences).hasEnded = false) : watcher.hasEnded = false := by
  induction occurrences generalizing watcher with
  | nil => exact running
  | cons occurrence rest ih => exact running_of_undergo (ih running)

/-- A watcher that still runs has kept what it owes. -/
theorem IsTidy.continues (tidy : watcher.IsTidy)
    (running : (watcher.undergo occurrence).hasEnded = false) :
    Continues watcher (watcher.undergo occurrence) := by
  have orderly := tidy.orderly (running_of_undergo running)
  cases occurrence with
  | handled event => exact orderly.receive event running
  | asked input => exact orderly.take input running
  | polled => exact orderly.continues rfl rfl rfl rfl

theorem IsTidy.undergo (tidy : watcher.IsTidy) (occurrence : Occurrence) :
    (watcher.undergo occurrence).IsTidy where
  exact := by
    cases occurrence with
    | handled event => exact isExact_receive tidy.exact event
    | asked input => exact isExact_take tidy.exact tidy.orderly input
    | polled => exact tidy.exact
  orderly running := (tidy.continues running).orderly

theorem IsTidy.run (tidy : watcher.IsTidy) (occurrences : List Occurrence) :
    (watcher.run occurrences).IsTidy :=
  List.foldlRecOn (motive := IsTidy) occurrences Watcher.undergo tidy
    fun _ tidy occurrence _ => tidy.undergo occurrence

theorem strategy_receive (watcher : Watcher) (event : Event) :
    (watcher.receive event).strategy = watcher.strategy := by
  cases ended : watcher.hasEnded with
  | true => rw [show watcher.receive event = watcher from if_pos ended]
  | false =>
    by_cases isAboutLog : event.isAboutLog = true
    · obtain ⟨metrics, received⟩ := receive_eq ended event isAboutLog
      rw [received]
    · cases event with
      | primed _ | batch _ | discontinuity _ => exact absurd rfl isAboutLog
      | cycleComplete seq =>
        simp only [receive, ended, Bool.false_eq_true, if_false]
        exact (issue_frame _ _).2.1
      | cycleAborted _ _ | fatal _ => simp only [receive, ended, Bool.false_eq_true, if_false, finish]

theorem strategy_run (watcher : Watcher) (occurrences : List Occurrence) :
    (watcher.run occurrences).strategy = watcher.strategy := by
  induction occurrences generalizing watcher with
  | nil => rfl
  | cons occurrence rest ih =>
    apply (ih (watcher.undergo occurrence)).trans
    cases occurrence with
    | handled event => exact watcher.strategy_receive event
    | asked input => exact (watcher.take_frame input).2.1
    | polled => rfl

/-- **What a running watcher has seen is what the events have told it**, whatever else has occurred. -/
theorem knownState_run {occurrences : List Occurrence}
    (running : (watcher.run occurrences).hasEnded = false) :
    (watcher.run occurrences).knownState =
      watcher.knownState.observeAll (Event.told (occurrences.filterMap (·.event?))) := by
  induction occurrences generalizing watcher with
  | nil => rfl
  | cons occurrence rest ih =>
    apply (ih running).trans
    cases occurrence with
    | handled event =>
      have runs : (watcher.run (.handled event :: rest)).hasEnded = false := running
      have learned := receive_knownState (running_of_run runs) event
      show (watcher.receive event).knownState.observeAll _ = _
      rw [learned, ← KnownState.observeAll_append, ← Event.told_cons]
      rfl
    | asked input =>
      show (watcher.take input).knownState.observeAll _ = _
      rw [(watcher.take_frame input).1]
      rfl
    | polled => rfl

/-- **What a running watcher knows is what the events have taught it**, whatever else has occurred. -/
theorem known_run {occurrences : List Occurrence}
    (running : (watcher.run occurrences).hasEnded = false) :
    (watcher.run occurrences).known =
      watcher.known.observeAll (Event.told (occurrences.filterMap (·.event?))) := by
  rw [known, knownState_run running, KnownState.revisions_observeAll]
  rfl

/-! ## The mirror -/

/-- The solo is what the watcher is to this subscription. -/
structure Mirrors (id : SubscriptionId) (watcher : Watcher) (solo : Solo) : Prop where
  tidy : watcher.IsTidy
  strategy : solo.strategy = watcher.strategy
  knownState : solo.knownState = watcher.knownState
  hasEnded : solo.hasEnded = watcher.hasEnded
  present : watcher.subscriptions[id]? = some solo.subscription
  /-- Only what has been stopped is unregistered. -/
  registered : watcher.hasEnded = false → solo.subscription.stopped = false →
    watcher.registry.keys[id]? = some solo.subscription.key
  closed : solo.subscription.stopped = true → solo.subscription.mailbox.closed.isSome = true

theorem Mirrors.known (mirrors : Mirrors id watcher solo) : solo.known = watcher.known :=
  congrArg KnownState.revisions mirrors.knownState

/-- The registration is kept, so what remains to be compared are the data. -/
theorem Mirrors.undergo_of_follows (mirrors : Mirrors id watcher solo) {later : Solo}
    (strategy : later.strategy = (watcher.undergo occurrence).strategy)
    (knownState : later.knownState = (watcher.undergo occurrence).knownState)
    (hasEnded : later.hasEnded = (watcher.undergo occurrence).hasEnded)
    (present : (watcher.undergo occurrence).subscriptions[id]? = some later.subscription)
    (follows : solo.subscription.Follows later.subscription) :
    Mirrors id (watcher.undergo occurrence) later where
  tidy := mirrors.tidy.undergo occurrence
  strategy := strategy
  knownState := knownState
  hasEnded := hasEnded
  present := present
  registered running serving := by
    have continues := mirrors.tidy.continues running
    have serves : ¬ (watcher.undergo occurrence).HasStopped id := by
      rintro ⟨subscription, found, stopped⟩
      cases present.symm.trans found
      exact Bool.false_ne_true (serving.symm.trans stopped)
    have served : solo.subscription.stopped = false := by
      cases stopped : solo.subscription.stopped with
      | false => rfl
      | true => exact absurd (continues.stopped id ⟨_, mirrors.present, stopped⟩) serves
    have before := mirrors.registered (running_of_undergo running) served
    rw [follows.key]
    exact (continues.registered id _ before).resolve_right serves
  closed := follows.closed mirrors.closed

/-- What leaves the subscription, what is known and the end alone is nothing to the solo. -/
theorem Mirrors.kept (mirrors : Mirrors id watcher solo)
    (knownState : (watcher.undergo occurrence).knownState = watcher.knownState)
    (strategy : (watcher.undergo occurrence).strategy = watcher.strategy)
    (outcome : (watcher.undergo occurrence).outcome = watcher.outcome)
    (present : (watcher.undergo occurrence).subscriptions[id]? = watcher.subscriptions[id]?) :
    Mirrors id (watcher.undergo occurrence) solo := by
  apply mirrors.undergo_of_follows
  · exact mirrors.strategy.trans strategy.symm
  · exact mirrors.knownState.trans knownState.symm
  · exact mirrors.hasEnded.trans (congrArg Option.isSome outcome.symm)
  · exact present.trans mirrors.present
  · exact ⟨rfl, fun closed => closed⟩

theorem Mirrors.unseen (mirrors : Mirrors id watcher solo) (unseen : occurrence.seenBy id = none) :
    Mirrors id (watcher.undergo occurrence) solo := by
  cases occurrence with
  | handled event => cases unseen
  | polled => exact mirrors.kept rfl rfl rfl rfl
  | asked input =>
    obtain ⟨unused, goesOn⟩ := Input.unseen unseen
    have older : watcher.hasEnded = false → id < watcher.nextId := fun running =>
      (mirrors.tidy.orderly running).fresh id (by rw [mirrors.present]; rfl)
    obtain ⟨knownState, strategy, -⟩ := watcher.take_frame input
    exact mirrors.kept knownState strategy (outcome_take goesOn)
      (getElem?_subscriptions_take goesOn unused older)

/-- A use is the same use. -/
theorem Mirrors.used (mirrors : Mirrors id watcher solo) {use : Use}
    (asks : input.use? = some (id, use)) :
    Mirrors id (watcher.undergo (.asked input)) (solo.see (.used use)) := by
  have taken := take_of_use mirrors.present asks
  apply mirrors.undergo_of_follows
  · exact mirrors.strategy.trans (by simp only [undergo, taken, update])
  · exact mirrors.knownState.trans (by simp only [undergo, taken, update])
  · exact mirrors.hasEnded.trans (by simp only [undergo, taken, update, Watcher.hasEnded])
  · simp [undergo, taken, update, Solo.see]
  · exact solo.subscription.follows_use use

/-- Whoever is not registered when the watcher ends has been stopped, and is closed already. -/
theorem Mirrors.present_finish (mirrors : Mirrors id watcher solo) (running : watcher.hasEnded = false)
    (reason : CloseReason) (outcome : Outcome) :
    (watcher.finish reason outcome).subscriptions[id]? = some (solo.close reason).subscription := by
  apply (Subscriptions.getElem?_closeEach _ _ _ _).trans
  rw [mirrors.present]
  split
  · rfl
  · next unregistered =>
    have stopped : solo.subscription.stopped = true := by
      cases serving : solo.subscription.stopped with
      | true => rfl
      | false =>
        have registered := mirrors.registered running serving
        exact absurd (Std.ExtTreeMap.mem_keys.mpr
          (Std.ExtTreeMap.mem_iff_isSome_getElem?.mpr (by simp [registered]))) unregistered
    obtain ⟨first, closed⟩ := Option.isSome_iff_exists.mp (mirrors.closed stopped)
    simp only [Solo.close, Mailbox.close_of_closed closed]

theorem follows_close (solo : Solo) (reason : CloseReason) :
    solo.subscription.Follows (solo.close reason).subscription where
  key := rfl
  closed closed stopped := by
    obtain ⟨first, already⟩ := Option.isSome_iff_exists.mp (closed stopped)
    simp only [Solo.close, Mailbox.close_of_closed already, already, Option.isSome_some]

/-- The end of the watcher is the end of the solo. -/
theorem Mirrors.finished (mirrors : Mirrors id watcher solo) (running : watcher.hasEnded = false)
    {reason : CloseReason} {outcome : Outcome}
    (ends : watcher.undergo occurrence = watcher.finish reason outcome) :
    Mirrors id (watcher.undergo occurrence) (solo.close reason) := by
  apply mirrors.undergo_of_follows
  · exact mirrors.strategy.trans (by rw [ends]; rfl)
  · exact mirrors.knownState.trans (by rw [ends]; rfl)
  · exact (by rw [ends]; rfl)
  · rw [ends]
    exact mirrors.present_finish running reason outcome
  · exact follows_close solo reason

/-- **What the registry marks for the subscription is what the solo marks.** -/
theorem Mirrors.mem_marksOf_iff (mirrors : Mirrors id watcher solo) (running : watcher.hasEnded = false)
    (serving : solo.subscription.stopped = false) (event : Event) (text : String) :
    text ∈ Subscriptions.marksIn (watcher.marksOf event) id ↔ text ∈ solo.marksOf event := by
  rw [Subscriptions.mem_marksIn_iff,
    mem_marksOf_iff_exists mirrors.tidy.exact (mirrors.registered running serving)]
  cases event with
  | primed changes | batch changes =>
    simp only [Solo.marksOf, Solo.mem_newsUnder_iff, mirrors.known]
    rfl
  | discontinuity snapshot =>
    simp only [Solo.marksOf, Solo.mem_idsUnder_iff, mirrors.knownState, mirrors.strategy]
    rfl
  | cycleComplete _ | cycleAborted _ _ | fatal _ => simp [Solo.marksOf, Reports]

/-- An event about the log does the same to both. -/
theorem Mirrors.told_of_isAboutLog (mirrors : Mirrors id watcher solo)
    (running : watcher.hasEnded = false) {event : Event} (isAboutLog : event.isAboutLog = true) :
    Mirrors id (watcher.undergo (.handled event)) (solo.receive event) := by
  obtain ⟨metrics, received⟩ := receive_eq running event isAboutLog
  have after : watcher.undergo (.handled event) = _ := received
  rw [Solo.receive_eq isAboutLog]
  apply mirrors.undergo_of_follows
  · rw [after]
    exact mirrors.strategy
  · rw [after]
    exact congrArg (·.observeAll event.changes) mirrors.knownState
  · rw [after]
    exact mirrors.hasEnded
  · have marked := Subscriptions.getElem?_markEach watcher.subscriptions (watcher.marksOf event) id
    rw [mirrors.present, Option.map_some] at marked
    have sameMarks : (solo.subscription.mailbox.markAll
        (Subscriptions.marksIn (watcher.marksOf event) id)).2 =
          (solo.subscription.mailbox.markAll (solo.marksOf event)).2 := by
      apply Mailbox.markAll_congr
      intro isOpen
      apply mirrors.mem_marksOf_iff running
      -- An open mailbox has not been stopped.
      cases stopped : solo.subscription.stopped with
      | false => rfl
      | true =>
        have closed := mirrors.closed stopped
        rw [isOpen] at closed
        cases closed
    rw [sameMarks] at marked
    rw [after]
    exact marked
  · refine ⟨rfl, fun closed stopped => ?_⟩
    exact (congrArg Option.isSome (Mailbox.closed_markAll _ _)).trans (closed stopped)

/-- An event is the same event. -/
theorem Mirrors.told (mirrors : Mirrors id watcher solo) (event : Event) :
    Mirrors id (watcher.undergo (.handled event)) (solo.see (.told event)) := by
  cases ended : watcher.hasEnded with
  | true =>
    have still : watcher.receive event = watcher := if_pos ended
    have soloStill : solo.see (.told event) = solo := if_pos (mirrors.hasEnded.trans ended)
    rw [soloStill]
    simp only [undergo]
    rw [still]
    exact mirrors
  | false =>
    have soloGoes : solo.see (.told event) = solo.receive event :=
      if_neg (by simp [mirrors.hasEnded, ended])
    rw [soloGoes]
    cases event with
    | primed _ | batch _ | discontinuity _ => exact mirrors.told_of_isAboutLog ended rfl
    | cycleComplete seq =>
      have after : watcher.undergo (.handled (.cycleComplete seq)) =
          { watcher with desk := (watcher.desk.complete seq).2 }.issue (watcher.desk.complete seq).1 :=
        if_neg (by simp [ended])
      obtain ⟨knownState, strategy, outcome⟩ := issue_frame
        { watcher with desk := (watcher.desk.complete seq).2 } (watcher.desk.complete seq).1
      apply mirrors.kept
      · exact (congrArg Watcher.knownState after).trans knownState
      · exact (congrArg Watcher.strategy after).trans strategy
      · exact (congrArg Watcher.outcome after).trans outcome
      · rw [after, subscriptions_issue]
    | cycleAborted seq reason =>
      have after : watcher.undergo (.handled (.cycleAborted seq reason)) =
          { watcher with desk := watcher.desk.release seq } := if_neg (by simp [ended])
      apply mirrors.kept <;> rw [after]
    | fatal reason => exact mirrors.finished ended (if_neg (by simp [ended]))

/-- **A step of the watcher is a step of the solo**, or nothing to it. -/
theorem Mirrors.undergo (mirrors : Mirrors id watcher solo) (occurrence : Occurrence) :
    Mirrors id (watcher.undergo occurrence) ((occurrence.seenBy id).elim solo solo.see) := by
  cases seen : occurrence.seenBy id with
  | none => exact mirrors.unseen seen
  | some sight =>
    cases occurrence with
    | polled => cases seen
    | handled event =>
      cases seen
      exact mirrors.told event
    | asked input =>
      rcases Input.seen_cases seen with ⟨use, asks, rfl⟩ | ⟨reason, closes, rfl⟩
      · exact mirrors.used asks
      · obtain ⟨outcome, taken⟩ := take_of_closing closes
        cases ended : watcher.hasEnded with
        | true =>
          have soloStill : solo.see (.ended reason) = solo := if_pos (mirrors.hasEnded.trans ended)
          have still : watcher.undergo (.asked input) = watcher := taken.trans (if_pos ended)
          rw [still]
          simp only [Option.elim, soloStill]
          exact mirrors
        | false =>
          have soloEnds : solo.see (.ended reason) = solo.close reason :=
            if_neg (by simp [mirrors.hasEnded, ended])
          simp only [Option.elim, soloEnds]
          exact mirrors.finished ended (taken.trans (if_neg (by simp [ended])))

/-- **The solo stays what the watcher is to the subscription**, whatever occurs. -/
theorem Mirrors.run (mirrors : Mirrors id watcher solo) (occurrences : List Occurrence) :
    Mirrors id (watcher.run occurrences) (solo.run (occurrences.filterMap (·.seenBy id))) := by
  induction occurrences generalizing watcher solo with
  | nil => exact mirrors
  | cons occurrence rest ih =>
    have later := ih (mirrors.undergo occurrence)
    cases seen : occurrence.seenBy id with
    | none =>
      rw [seen] at later
      rw [List.filterMap_cons_none seen]
      exact later
    | some sight =>
      rw [seen] at later
      rw [List.filterMap_cons_some seen]
      exact later

theorem Mirrors.receipt?_eq (mirrors : Mirrors id watcher solo) (occurrence : Occurrence) :
    watcher.receipt? id occurrence = (occurrence.seenBy id).bind solo.receipt? := by
  cases occurrence with
  | handled _ | polled => rfl
  | asked input =>
    cases input with
    | changes other | next other | streamNext other =>
      by_cases same : other = id
      · subst same
        simp [receipt?, Occurrence.seenBy, Input.seenBy, Input.use?, changes, next, streamNext,
          mirrors.present, Solo.receipt?, Subscription.receipt?]
      · simp [receipt?, Occurrence.seenBy, Input.seenBy, Input.use?, same]
    | stop other | drop other =>
      by_cases same : other = id <;>
        simp [receipt?, Occurrence.seenBy, Input.seenBy, Input.use?, same, Solo.receipt?,
          Subscription.receipt?]
    | tick | requestSync | giveUp _ | watch _ _ | unregisterNext | shutDown | readerLost
    | abandonPolls => rfl

/-- **The subscriber gets from the watcher what the solo would give.** -/
theorem Mirrors.receipts_eq (mirrors : Mirrors id watcher solo) (occurrences : List Occurrence) :
    receipts id watcher occurrences = solo.receipts (occurrences.filterMap (·.seenBy id)) := by
  induction occurrences generalizing watcher solo with
  | nil => rfl
  | cons occurrence rest ih =>
    have now := mirrors.receipt?_eq occurrence
    have later := ih (mirrors.undergo occurrence)
    rw [receipts, now, later]
    cases seen : occurrence.seenBy id with
    | none => rw [List.filterMap_cons_none seen]; rfl
    | some sight => rw [List.filterMap_cons_some seen]; rfl

/-- A subscription that is opened has a solo of its own. -/
theorem mirrors_watch (tidy : watcher.IsTidy) (opened : (watcher.watch key since).1 = .ok id) :
    Mirrors id (watcher.watch key since).2 (.start watcher.strategy watcher.knownState key since) := by
  have after := tidy.undergo (.asked (.watch key since))
  have frame := watcher.take_frame (.watch key since)
  have outcome : (watcher.take (.watch key since)).outcome = watcher.outcome := outcome_take rfl
  cases ended : watcher.hasEnded with
  | true =>
    rw [watch, if_pos ended] at opened
    cases opened
  | false =>
    have asked : watcher.watch key since = _ := if_neg (by simp [ended])
    cases defect : key.defect? with
    | some defect =>
      rw [asked, defect] at opened
      cases opened
    | none =>
      rw [asked, defect] at opened
      cases opened
      exact
        { tidy := after
          strategy := frame.2.1.symm
          knownState := frame.1.symm
          hasEnded := by
            rw [hasEnded, show (watcher.watch key since).2.outcome = watcher.outcome from outcome]
            exact ended.symm
          present := by
            rw [asked, defect]
            exact Std.ExtTreeMap.getElem?_insert_self
          registered := fun _ _ => by
            rw [asked, defect]
            exact Std.ExtTreeMap.getElem?_insert_self
          closed := fun stopped => by
            have running :
                (Solo.start watcher.strategy watcher.knownState key since).subscription.stopped = false :=
              rfl
            rw [running] at stopped
            cases stopped }

/-- What has been seen when a subscription is opened is what the events have told. -/
theorem knownState_of_opened {strategy : Strategy} {before : List Occurrence}
    (opened : (((start strategy).run before).watch key since).1 = .ok id) :
    ((start strategy).run before).knownState =
      KnownState.observeAll {} (Event.told (before.filterMap (·.event?))) := by
  have mirrors := mirrors_watch ((isTidy_start strategy).run before) opened
  have running : (((start strategy).run before).take (.watch key since)).hasEnded = false :=
    mirrors.hasEnded.symm
  exact knownState_run (running_of_take running)

/-- **Subscriptions do not feel each other.** Let a subscription be opened after whatever has occurred
to a watcher. From then on it is at every moment what a watcher that serves nobody else makes of it,
when told of the same events and used in the same way, and its subscriber gets the same from both. So
wherever a watcher has been told the same before and the subscription sees the same after, it is the
same and its subscriber gets the same, whoever else subscribes there, uses a subscription or stops. -/
theorem served_as_if_alone (strategy : Strategy) (before : List Occurrence) (key : WatchKey)
    (since : Option Revno) (id : SubscriptionId)
    (opened : (((start strategy).run before).watch key since).1 = .ok id) (after : List Occurrence) :
    let watcher := (start strategy).run before
    let serving := (watcher.watch key since).2
    let solo := Solo.start strategy watcher.knownState key since
    let seen := after.filterMap (·.seenBy id)
    (serving.run after).subscriptions[id]? = some (solo.run seen).subscription ∧
      receipts id serving after = solo.receipts seen ∧
      ∀ (otherBefore otherAfter : List Occurrence) (otherId : SubscriptionId),
        otherBefore.filterMap (·.event?) = before.filterMap (·.event?) →
        (((start strategy).run otherBefore).watch key since).1 = .ok otherId →
        otherAfter.filterMap (·.seenBy otherId) = seen →
        let other := (((start strategy).run otherBefore).watch key since).2
        (other.run otherAfter).subscriptions[otherId]? = (serving.run after).subscriptions[id]? ∧
          receipts otherId other otherAfter = receipts id serving after := by
  intro watcher serving solo seen
  have mirrors : Mirrors id serving solo := by
    have mirrors := mirrors_watch ((isTidy_start strategy).run before) opened
    rwa [strategy_run] at mirrors
  have present := (mirrors.run after).present
  have receipts := mirrors.receipts_eq after
  refine ⟨present, receipts, ?_⟩
  intro otherBefore otherAfter otherId sameEvents otherOpened sameSights other
  have sameKnown : ((start strategy).run otherBefore).knownState = watcher.knownState := by
    rw [knownState_of_opened otherOpened, knownState_of_opened opened, sameEvents]
  have otherMirrors : Mirrors otherId other solo := by
    have mirrors := mirrors_watch ((isTidy_start strategy).run otherBefore) otherOpened
    rwa [strategy_run, sameKnown] at mirrors
  have otherPresent := (otherMirrors.run otherAfter).present
  have otherReceipts := otherMirrors.receipts_eq otherAfter
  rw [sameSights] at otherPresent otherReceipts
  exact ⟨otherPresent.trans present.symm, otherReceipts.trans receipts.symm⟩

/-- Two others come, are told of the same document and go, and the first subscriber notices nothing. -/
theorem apple_served_as_if_alone :
    let apple : Document := ⟨"fruit", "apple"⟩
    let key : WatchKey := .entity apple
    let told : List Occurrence := [.handled (.batch [.update apple 2]), .handled (.discontinuity none)]
    let alone := ((start .snapshot).watch key none).2
    let crowded := (((start .snapshot).run [.asked (.watch key none)]).watch key none).2
    let others : List Occurrence :=
      [.asked (.watch (.collection "fruit") none), .asked (.stop 1), .asked .unregisterNext] ++ told ++
        [.asked (.stop 3), .asked .unregisterNext]
    (crowded.run others).subscriptions[2]? = (alone.run told).subscriptions[1]? ∧
      ((alone.run told).changes 1).1.toList = ["apple"] := by
  intro apple key told alone crowded others
  have opened : (((start .snapshot).run []).watch key none).1 = .ok 1 := rfl
  have otherOpened :
      (((start .snapshot).run [.asked (.watch key none)]).watch key none).1 = .ok 2 := rfl
  have sameSights : others.filterMap (·.seenBy 2) = told.filterMap (·.seenBy 1) := by decide
  have served := (served_as_if_alone .snapshot [] key none 1 opened told).2.2
    [.asked (.watch key none)] others 2 rfl otherOpened sameSights
  exact ⟨served.1, by decide⟩

end Watcher

end ChangeFeed
