/-
# The end of a watcher

When a watcher ends it closes what is registered and gives the reason, unless the subscriber was first.
What is pending then stays in the mailbox until it is taken. From that moment the watcher does nothing
more of its own, so each subscription runs out by itself: `Solo.IsOver` says that it is closed for good,
and what its subscriber has got and what is left always make up what was there at the end.
-/

import ChangeFeed.Proofs.Registration

namespace ChangeFeed

/-- Nothing comes, and nothing is to be waited for. -/
def Receipt.IsBarren : Receipt → Prop
  | .taken ids => ids = ∅
  | .answer .ended => True
  | .answer .pending | .answer (.changes _) => False

/-- All ids that a subscriber gets, in order. -/
def gathered (receipts : List Receipt) : List String :=
  receipts.flatMap (·.ids.toList)

theorem gathered_append (first later : List Receipt) :
    gathered (first ++ later) = gathered first ++ gathered later :=
  List.flatMap_append

namespace Subscription

variable {subscription before after : Subscription} {use : Use} {asks : Bool} {receipt : Option Receipt}
  {reason : CloseReason}

/-- The use takes what is pending, if anything is. -/
def isTakenBy (subscription : Subscription) : Use → Bool
  | .changes | .next => true
  | .streamNext => subscription.isHeld
  | .stop | .drop => false

/-- No use puts anything in. -/
theorem Effect.spent (effect : Effect before after asks receipt) (spent : before.mailbox.pending = ∅) :
    after.mailbox.pending = ∅ := by
  cases effect with
  | keeps mailbox => rw [mailbox, spent]
  | takes mailbox => rw [mailbox]
  | stops mailbox =>
    rw [mailbox]
    cases closed : before.mailbox.closed <;> simp [Mailbox.close, closed, spent]

/-- What can be taken is not pending any more when it is taken. -/
theorem pending_of_isTakenBy (taken : subscription.isTakenBy use = true) :
    (subscription.use use).mailbox.pending = ∅ := by
  cases empty : subscription.mailbox.pending.isEmpty with
  | true => exact (subscription.effect_use use).spent (Std.ExtTreeSet.isEmpty_iff.mp empty)
  | false =>
    cases use with
    | stop | drop => cases taken
    | changes => rfl
    | next => exact congrArg (·.2.mailbox.pending) (next_of_not_isEmpty empty)
    | streamNext => exact congrArg (·.2.2.mailbox.pending) (streamNext_of_not_isEmpty taken empty)

/-- A subscription that is closed and spent has nothing more to give. -/
theorem isBarren_of_spent (closed : subscription.mailbox.closed = some reason)
    (spent : subscription.mailbox.pending = ∅) : ∀ got ∈ subscription.receipt? use, got.IsBarren := by
  have empty : subscription.mailbox.pending.isEmpty = true := Std.ExtTreeSet.isEmpty_iff.mpr spent
  have ended : subscription.next.1 = .ended := by
    rw [next_of_isEmpty empty, closed]
    rfl
  have streamEnded : subscription.streamNext.1 = .ended := by
    cases held : subscription.isHeld with
    | false => rw [streamNext_of_not_isHeld held]
    | true =>
      rw [streamNext_of_isEmpty held empty, closed]
      rfl
  intro got given
  cases use with
  | stop | drop => cases given
  | changes =>
    cases given
    exact spent
  | next =>
    cases given
    rw [ended]
    trivial
  | streamNext =>
    cases given
    rw [streamEnded]
    trivial

/-- **What a closed mailbox holds, the subscriber gets once**: what a use brings and what it leaves make
up what was pending. -/
theorem Effect.conserves (effect : Effect before after asks receipt)
    (closed : before.mailbox.closed = some reason) : after.mailbox.closed = some reason ∧
      gathered receipt.toList ++ after.mailbox.pending.toList = before.mailbox.pending.toList := by
  have nothing : (∀ got ∈ receipt, got.ids = ∅) → gathered receipt.toList = [] := by
    intro nothing
    refine List.flatMap_eq_nil_iff.mpr fun got given => ?_
    rw [nothing got (Option.mem_toList.mp given)]
    rfl
  cases effect with
  | keeps mailbox _ _ none =>
    rw [mailbox, nothing none]
    exact ⟨closed, rfl⟩
  | takes mailbox _ _ all =>
    obtain ⟨got, given, ids⟩ := all
    rw [Option.mem_def.mp given, mailbox]
    refine ⟨closed, ?_⟩
    simp [gathered, ids]
  | stops mailbox _ _ _ none =>
    rw [mailbox, nothing none, Mailbox.close_of_closed closed]
    exact ⟨closed, rfl⟩

end Subscription

namespace Solo

variable {solo : Solo} {sight : Sight} {sights : List Sight} {use : Use} {reason : CloseReason}

/-! ## Until the end -/

/-- Before the end the mailbox is open until the subscriber stops, and nothing is pending after that. -/
structure IsLive (solo : Solo) : Prop where
  running : solo.hasEnded = false
  serving : solo.subscription.stopped = false → solo.subscription.mailbox.closed = none
  stopped : solo.subscription.stopped = true → solo.subscription.mailbox = ⟨∅, some .stopped⟩

theorem isLive_start (strategy : Strategy) (known : KnownState) (key : WatchKey)
    (since : Option Revno) : (start strategy known key since).IsLive where
  running := rfl
  serving _ := Mailbox.closed_markAll _ _
  stopped := nofun

theorem IsLive.used (live : solo.IsLive) (use : Use) : (solo.see (.used use)).IsLive := by
  cases solo.subscription.effect_use use with
  | keeps mailbox same =>
    refine ⟨live.running, fun serving => ?_, fun stopped => mailbox.trans ?_⟩
    · exact (congrArg Mailbox.closed mailbox).trans (live.serving (same.symm.trans serving))
    · exact live.stopped (same.symm.trans stopped)
  | takes mailbox same =>
    refine ⟨live.running, fun serving => ?_, fun stopped => mailbox.trans ?_⟩
    · exact (congrArg Mailbox.closed mailbox).trans (live.serving (same.symm.trans serving))
    · rw [live.stopped (same.symm.trans stopped)]
  | stops mailbox serving stopped =>
    refine ⟨live.running, fun serves => ?_, fun _ => mailbox.trans ?_⟩
    · exact absurd (serves.symm.trans stopped) Bool.false_ne_true
    · simp [Mailbox.close, live.serving serving]

theorem IsLive.told (live : solo.IsLive) {event : Event}
    (running : (solo.receive event).hasEnded = false) : (solo.receive event).IsLive := by
  by_cases isAboutLog : event.isAboutLog = true
  · rw [receive_eq isAboutLog]
    refine ⟨live.running, fun serving => ?_, fun stopped => ?_⟩
    · exact (Mailbox.closed_markAll _ _).trans (live.serving serving)
    · have closed := live.stopped stopped
      exact (Mailbox.markAll_of_closed (congrArg Mailbox.closed closed) _).trans closed
  · cases event with
    | primed _ | batch _ | discontinuity _ => exact absurd rfl isAboutLog
    | cycleComplete _ | cycleAborted _ _ => exact live
    | fatal _ => cases running

theorem running_of_see (running : (solo.see sight).hasEnded = false) : solo.hasEnded = false := by
  cases sight with
  | used use => exact running
  | told _ | ended _ =>
    simp only [see] at running
    split at running
    · exact running
    · next goesOn => exact Bool.not_eq_true _ ▸ goesOn

theorem running_of_run (running : (solo.run sights).hasEnded = false) : solo.hasEnded = false := by
  induction sights generalizing solo with
  | nil => exact running
  | cons sight rest ih => exact running_of_see (ih running)

theorem IsLive.see (live : solo.IsLive) (running : (solo.see sight).hasEnded = false) :
    (solo.see sight).IsLive := by
  cases sight with
  | used use => exact live.used use
  | told event =>
    have goesOn : solo.see (.told event) = solo.receive event := if_neg (by simp [live.running])
    rw [goesOn] at running ⊢
    exact live.told running
  | ended reason =>
    have closes : solo.see (.ended reason) = solo.close reason := if_neg (by simp [live.running])
    rw [closes] at running
    cases running

/-- **Before the end only a subscriber who stops or lets go stops a subscription.** -/
theorem IsLive.stopped_use_iff (live : solo.IsLive) :
    (solo.subscription.use use).stopped = true ↔
      solo.subscription.stopped = true ∨ use = .stop ∨ use = .drop := by
  cases use with
  | stop => exact iff_of_true (Watcher.stopped_stop _) (Or.inr (Or.inl rfl))
  | drop => exact iff_of_true (Watcher.stopped_stop _) (Or.inr (Or.inr rfl))
  | changes | next => exact (or_iff_left (by simp)).symm
  | streamNext =>
    refine Iff.trans ?_ (or_iff_left (by simp)).symm
    show solo.subscription.streamNext.2.2.stopped = true ↔ _
    rcases solo.subscription.streamNext_cases with ⟨-, gone⟩ | ⟨-, ⟨closed, ends⟩ | waits | hands⟩
    · rw [gone]
    · rw [ends]
      refine iff_of_true (Watcher.stopped_stop _) ?_
      -- A mailbox that is closed before the end was closed by its subscriber.
      cases stopped : solo.subscription.stopped with
      | true => rfl
      | false =>
        rw [live.serving stopped] at closed
        cases closed
    · rw [waits]
    · rw [hands]
      rfl

theorem IsLive.stopped_see_iff (live : solo.IsLive) (running : (solo.see sight).hasEnded = false) :
    (solo.see sight).subscription.stopped = true ↔
      solo.subscription.stopped = true ∨ sight = .used .stop ∨ sight = .used .drop := by
  cases sight with
  | used use =>
    rw [Sight.used.injEq, Sight.used.injEq]
    exact live.stopped_use_iff
  | told event =>
    have goesOn : solo.see (.told event) = solo.receive event := if_neg (by simp [live.running])
    rw [goesOn] at running ⊢
    have same : (solo.receive event).subscription.stopped = solo.subscription.stopped := by
      cases event with
      | primed _ | batch _ | discontinuity _ =>
        rw [receive_eq rfl]
        rfl
      | cycleComplete _ | cycleAborted _ _ | fatal _ => rfl
    rw [same]
    simp
  | ended reason =>
    have closes : solo.see (.ended reason) = solo.close reason := if_neg (by simp [live.running])
    rw [closes] at running
    cases running

/-- **What is stopped before the end was stopped by its subscriber on the way.** -/
theorem IsLive.run (live : solo.IsLive) (running : (solo.run sights).hasEnded = false) :
    (solo.run sights).IsLive ∧ ((solo.run sights).subscription.stopped = true ↔
      solo.subscription.stopped = true ∨ .used .stop ∈ sights ∨ .used .drop ∈ sights) := by
  induction sights generalizing solo with
  | nil => exact ⟨live, by simp [Solo.run]⟩
  | cons sight rest ih =>
    have now : (solo.see sight).hasEnded = false := running_of_run running
    obtain ⟨later, stopped⟩ := ih (live.see now) running
    refine ⟨later, stopped.trans ?_⟩
    rw [live.stopped_see_iff now, List.mem_cons, List.mem_cons, eq_comm (a := sight), eq_comm (a := sight),
      or_assoc, or_or_or_comm]

/-! ## After the end -/

/-- The watcher has ended and the mailbox is closed. -/
structure IsOver (reason : CloseReason) (solo : Solo) : Prop where
  ended : solo.hasEnded = true
  closed : solo.subscription.mailbox.closed = some reason

/-- A subscription that was stopped before the end keeps to that. -/
theorem IsLive.close_of_stopped (live : solo.IsLive) (stopped : solo.subscription.stopped = true)
    (reason : CloseReason) : (solo.close reason).subscription.mailbox = ⟨∅, some .stopped⟩ := by
  have closed := live.stopped stopped
  exact (Mailbox.close_of_closed (congrArg Mailbox.closed closed) reason).trans closed

/-- Any other is closed by the end, and keeps what is pending. -/
theorem IsLive.close_of_serving (live : solo.IsLive) (serving : solo.subscription.stopped = false)
    (unstopped : reason ≠ .stopped) : (solo.close reason).subscription.mailbox =
      { solo.subscription.mailbox with closed := some reason } := by
  have isOpen := live.serving serving
  cases reason with
  | stopped => exact absurd rfl unstopped
  | shutdown | fatal => simp [Solo.close, Mailbox.close, isOpen]

/-- **After the end what the subscriber gets and what is left make up what was pending.** -/
theorem IsOver.see (isOver : solo.IsOver reason) (sight : Sight) :
    (solo.see sight).IsOver reason ∧
      gathered (solo.receipt? sight).toList ++ (solo.see sight).subscription.mailbox.pending.toList =
        solo.subscription.mailbox.pending.toList := by
  cases sight with
  | used use =>
    obtain ⟨closed, conserved⟩ := (solo.subscription.effect_use use).conserves isOver.closed
    exact ⟨⟨isOver.ended, closed⟩, conserved⟩
  | told _ | ended _ =>
    simp only [Solo.see, isOver.ended, if_true]
    exact ⟨isOver, rfl⟩

theorem IsOver.run (isOver : solo.IsOver reason) (sights : List Sight) :
    (solo.run sights).IsOver reason ∧
      gathered (solo.receipts sights) ++ (solo.run sights).subscription.mailbox.pending.toList =
        solo.subscription.mailbox.pending.toList := by
  induction sights generalizing solo with
  | nil => exact ⟨isOver, rfl⟩
  | cons sight rest ih =>
    obtain ⟨now, conserved⟩ := isOver.see sight
    obtain ⟨later, rest⟩ := ih now
    refine ⟨later, ?_⟩
    rw [receipts, gathered_append, List.append_assoc, ← conserved, ← rest]
    rfl

/-- **Once nothing is left nothing more comes.** -/
theorem IsOver.isBarren_of_spent (isOver : solo.IsOver reason)
    (spent : solo.subscription.mailbox.pending = ∅) (sights : List Sight) :
    ∀ got ∈ solo.receipts sights, got.IsBarren := by
  induction sights generalizing solo with
  | nil => nofun
  | cons sight rest ih =>
    have stillSpent : (solo.see sight).subscription.mailbox.pending = ∅ := by
      cases sight with
      | used use => exact (solo.subscription.effect_use use).spent spent
      | told _ | ended _ =>
        simp only [Solo.see, isOver.ended, if_true]
        exact spent
    intro got given
    rcases List.mem_append.mp given with now | later
    · cases sight with
      | used use =>
        exact Subscription.isBarren_of_spent isOver.closed spent got (Option.mem_toList.mp now)
      | told _ | ended _ => cases now
    · exact ih (isOver.see sight).1 stillSpent got later

end Solo

namespace Watcher

variable {watcher : Watcher} {id : SubscriptionId} {occurrence : Occurrence} {reason : CloseReason}
  {solo : Solo} {base : Int} {pending : IdSet}

/-! ## How a watcher ends -/

/-- The reason for which an occurrence closes the subscriptions of a watcher that still runs. -/
def Occurrence.closing? : Occurrence → Option CloseReason
  | .asked input => input.closing?
  | .handled (.fatal _) => some .fatal
  | .handled _ | .polled => none

theorem Occurrence.closing?_ne_stopped (closes : occurrence.closing? = some reason) :
    reason ≠ .stopped := by
  cases occurrence with
  | polled => cases closes
  | asked input => exact Input.closing?_ne_stopped closes
  | handled event =>
    rintro rfl
    cases event <;> cases closes

/-- **A watcher ends by a shutdown, by the loss of its reader or by a fatal event**, and by nothing else. -/
theorem exists_finish (running : watcher.hasEnded = false)
    (ended : (watcher.undergo occurrence).hasEnded = true) :
    ∃ reason outcome, occurrence.closing? = some reason ∧
      watcher.undergo occurrence = watcher.finish reason outcome := by
  have goesOn : (watcher.undergo occurrence).outcome ≠ watcher.outcome := by
    intro same
    have still : (watcher.undergo occurrence).hasEnded = watcher.hasEnded := congrArg Option.isSome same
    rw [still, running] at ended
    cases ended
  cases occurrence with
  | polled => exact absurd rfl goesOn
  | asked input =>
    cases closes : input.closing? with
    | none =>
      have ordinary : input.endsWatcher = false := by cases input <;> first | rfl | cases closes
      exact absurd (outcome_take ordinary) goesOn
    | some reason =>
      obtain ⟨outcome, taken⟩ : ∃ outcome, watcher.take input =
          if watcher.hasEnded then watcher else watcher.finish reason outcome := take_of_closing closes
      exact ⟨reason, outcome, closes, taken.trans (if_neg (by simp [running]))⟩
  | handled event =>
    have ordinary : event.isOrdinary = false := by
      refine Bool.eq_false_iff.mpr fun ordinary => ?_
      exact Bool.false_ne_true ((running_receive ordinary running).symm.trans ended)
    cases event with
    | fatal _ => exact ⟨.fatal, _, rfl, if_neg (by simp [running])⟩
    | discontinuity snapshot =>
      obtain ⟨metrics, received⟩ := receive_eq running (.discontinuity snapshot) rfl
      exact absurd (congrArg Watcher.outcome received) goesOn
    | primed _ | batch _ | cycleComplete _ | cycleAborted _ _ => cases ordinary

/-! ## Subscriptions that outlive the watcher -/

/-- What a watcher is asked for a use. -/
def Input.ofUse (id : SubscriptionId) : Use → Input
  | .stop => .stop id
  | .drop => .drop id
  | .changes => .changes id
  | .next => .next id
  | .streamNext => .streamNext id

theorem seenBy_eq_used_iff {use : Use} :
    occurrence.seenBy id = some (.used use) ↔ occurrence = .asked (.ofUse id use) := by
  cases occurrence with
  | handled _ | polled => simp [Occurrence.seenBy]
  | asked input =>
    cases input <;> cases use <;>
      simp [Occurrence.seenBy, Input.seenBy, Input.use?, Input.closing?, Input.ofUse]

/-- The subscriber takes what is pending, by the handle or by a stream that has not ended. -/
def IsTakenBy (watcher : Watcher) (id : SubscriptionId) (occurrence : Occurrence) : Prop :=
  ∃ subscription use, watcher.subscriptions[id]? = some subscription ∧
    subscription.isTakenBy use = true ∧ occurrence = .asked (.ofUse id use)

/-- The subscription is closed for good and its subscriber has so much to take: whatever occurs, what was
got and what is left make that up, whoever takes gets all that is left, and then nothing comes any more. -/
structure WindsUp (id : SubscriptionId) (reason : CloseReason) (pending : IdSet) (watcher : Watcher) :
    Prop where
  closed : ∀ after, ∃ subscription, (watcher.run after).subscriptions[id]? = some subscription ∧
    subscription.mailbox.closed = some reason ∧
    gathered (receipts id watcher after) ++ subscription.mailbox.pending.toList = pending.toList
  taken : ∀ after drain, (watcher.run after).IsTakenBy id drain →
    gathered (receipts id watcher (after ++ [drain])) = pending.toList
  barren : ∀ after drain later, (watcher.run after).IsTakenBy id drain →
    ∀ receipt ∈ receipts id ((watcher.run after).undergo drain) later, receipt.IsBarren

/-- **A subscription whose watcher has ended winds up.** -/
theorem Mirrors.windsUp (mirrors : Mirrors id watcher solo) (isOver : solo.IsOver reason) :
    watcher.WindsUp id reason solo.subscription.mailbox.pending := by
  have taking : ∀ {after drain}, (watcher.run after).IsTakenBy id drain →
      ∃ use, drain.seenBy id = some (.used use) ∧
        ((solo.run (after.filterMap (·.seenBy id))).subscription.use use).mailbox.pending = ∅ := by
    rintro after drain ⟨subscription, use, present, taken, asks⟩
    obtain rfl := Option.some.inj ((mirrors.run after).present.symm.trans present)
    exact ⟨use, seenBy_eq_used_iff.mpr asks, Subscription.pending_of_isTakenBy taken⟩
  refine ⟨fun after => ?_, fun after drain takes => ?_, fun after drain later takes => ?_⟩
  · obtain ⟨still, conserved⟩ := isOver.run (after.filterMap (·.seenBy id))
    rw [mirrors.receipts_eq]
    exact ⟨_, (mirrors.run after).present, still.closed, conserved⟩
  · -- To take is one more sight, and leaves nothing.
    obtain ⟨use, seen, spent⟩ := taking takes
    have conserved := (isOver.run (after.filterMap (·.seenBy id) ++ [.used use])).2
    have last : solo.run (after.filterMap (·.seenBy id) ++ [.used use]) =
        (solo.run (after.filterMap (·.seenBy id))).see (.used use) := by
      simp [Solo.run]
    rw [last] at conserved
    rw [mirrors.receipts_eq, List.filterMap_append, List.filterMap_cons_some seen, List.filterMap_nil,
      ← conserved]
    show _ = _ ++ ((solo.run (after.filterMap (·.seenBy id))).subscription.use use).mailbox.pending.toList
    rw [spent]
    exact (List.append_nil _).symm
  · obtain ⟨use, seen, spent⟩ := taking takes
    have mirrored := (mirrors.run after).undergo drain
    rw [seen] at mirrored
    rw [mirrored.receipts_eq]
    have now := ((isOver.run (after.filterMap (·.seenBy id))).1.see (.used use)).1
    exact now.isBarren_of_spent spent _

/-! ## The watcher after its end -/

/-- The watcher has ended, and nobody is registered or waits for an answer. -/
structure IsOver (base : Int) (watcher : Watcher) : Prop where
  ended : watcher.hasEnded = true
  registry : watcher.registry = {}
  unregistering : watcher.unregistering = []
  gauge : watcher.metrics.activeSubscriptions = base
  waiters : watcher.desk.controller.waiters = []
  answered : ∀ ticket : Nat, watcher.desk.requests[ticket]? ≠ some .waiting

/-- **The end of a balanced watcher clears it**, however many still wait to be unregistered. -/
theorem IsBalanced.finish (balanced : watcher.IsBalanced base) (reason : CloseReason)
    (outcome : Outcome) : (watcher.finish reason outcome).IsOver base where
  ended := rfl
  registry := rfl
  unregistering := rfl
  gauge := by
    show watcher.metrics.activeSubscriptions - watcher.registry.size = base
    rw [balanced.gauge]
    omega
  waiters := rfl
  answered ticket waits := (SyncDesk.getElem?_of_failAll (by decide) waits).1 rfl

/-- What remains of an ended watcher are its subscriptions and those who ask in vain. -/
theorem IsOver.undergo_eq (isOver : watcher.IsOver base) (occurrence : Occurrence) :
    ∃ subscriptions polls desk, watcher.undergo occurrence = { watcher with subscriptions, polls, desk } ∧
      (desk = watcher.desk ∨ desk = watcher.desk.refuse ∨ ∃ ticket, desk = watcher.desk.giveUp ticket) := by
  have same : watcher.undergo occurrence = watcher → ∃ subscriptions polls desk,
      watcher.undergo occurrence = { watcher with subscriptions, polls, desk } ∧
        (desk = watcher.desk ∨ desk = watcher.desk.refuse ∨
          ∃ ticket, desk = watcher.desk.giveUp ticket) :=
    fun same => ⟨_, _, _, same, Or.inl rfl⟩
  cases occurrence with
  | handled event => exact same (if_pos isOver.ended)
  | polled => exact ⟨_, _, _, rfl, Or.inl rfl⟩
  | asked input =>
    cases asks : input.use? with
    | some asked =>
      obtain ⟨id, use⟩ := asked
      cases present : watcher.subscriptions[id]? with
      | none => exact same (take_of_absent present asks)
      | some subscription =>
        refine ⟨watcher.subscriptions.insert id (subscription.use use), watcher.polls, watcher.desk, ?_,
          Or.inl rfl⟩
        apply (take_of_use present asks).trans
        simp [update, isOver.ended]
    | none =>
      cases input with
      | tick | shutDown | readerLost => exact same (if_pos isOver.ended)
      | requestSync => exact ⟨_, _, _, if_pos isOver.ended, Or.inr (Or.inl rfl)⟩
      | giveUp ticket => exact ⟨_, _, _, rfl, Or.inr (Or.inr ⟨ticket, rfl⟩)⟩
      | abandonPolls => exact ⟨_, _, _, rfl, Or.inl rfl⟩
      | watch key since => exact same (congrArg Prod.snd (if_pos isOver.ended))
      | unregisterNext =>
        apply same
        simp only [undergo, take, unregisterNext, isOver.unregistering]
      | stop _ | drop _ | changes _ | next _ | streamNext _ => cases asks

/-- **An ended watcher registers nobody and answers nobody**, whatever occurs. -/
theorem IsOver.undergo (isOver : watcher.IsOver base) (occurrence : Occurrence) :
    (watcher.undergo occurrence).IsOver base ∧
      ∀ ticket : Nat, (watcher.undergo occurrence).desk.requests[ticket]? = some .done →
        watcher.desk.requests[ticket]? = some .done := by
  obtain ⟨subscriptions, polls, desk, after, asked⟩ := isOver.undergo_eq occurrence
  rw [after]
  have kept : desk.controller.waiters = [] ∧ (∀ ticket : Nat, desk.requests[ticket]? ≠ some .waiting) ∧
      ∀ ticket : Nat, desk.requests[ticket]? = some .done → watcher.desk.requests[ticket]? = some .done := by
    rcases asked with rfl | rfl | ⟨left, rfl⟩
    · exact ⟨isOver.waiters, isOver.answered, fun _ done => done⟩
    · refine ⟨isOver.waiters, fun ticket waits => ?_, fun ticket done => ?_⟩
      · exact isOver.answered ticket (SyncDesk.getElem?_of_append (by decide) waits)
      · exact SyncDesk.getElem?_of_append (by decide) done
    · refine ⟨isOver.waiters, fun ticket waits => ?_, fun ticket done => ?_⟩
      · exact isOver.answered ticket (SyncDesk.getElem?_of_giveUp (by decide) waits)
      · exact SyncDesk.getElem?_of_giveUp (by decide) done
  obtain ⟨waiters, answered, done⟩ := kept
  exact ⟨⟨isOver.ended, isOver.registry, isOver.unregistering, isOver.gauge, waiters, answered⟩, done⟩

theorem IsOver.run (isOver : watcher.IsOver base) (occurrences : List Occurrence) :
    (watcher.run occurrences).IsOver base ∧ opened watcher occurrences = [] ∧
      ∀ ticket : Nat, (watcher.run occurrences).desk.requests[ticket]? = some .done →
        watcher.desk.requests[ticket]? = some .done := by
  induction occurrences generalizing watcher with
  | nil => exact ⟨isOver, rfl, fun _ done => done⟩
  | cons occurrence rest ih =>
    obtain ⟨now, before⟩ := isOver.undergo occurrence
    obtain ⟨later, nothing, done⟩ := ih now
    have refused : watcher.opened? occurrence = none := by
      rcases watcher.opened?_cases occurrence with ⟨nothing, -⟩ | ⟨-, larger⟩
      · exact nothing
      · obtain ⟨subscriptions, polls, desk, after, -⟩ := isOver.undergo_eq occurrence
        rw [after] at larger
        exact absurd larger (Nat.ne_of_lt (Nat.lt_succ_self _))
    refine ⟨later, ?_, fun ticket answered => before ticket (done ticket answered)⟩
    unfold opened
    rw [refused, nothing]
    rfl

/-! ## Whole runs -/

/-- **Until the end a subscription is stopped exactly if its subscriber stopped it or let it go.** -/
theorem Mirrors.stopped_iff {strategy : Strategy} {known : KnownState} {key : WatchKey}
    {since : Option Revno} (begun : Mirrors id watcher (.start strategy known key since))
    {meanwhile : List Occurrence} (running : (watcher.run meanwhile).hasEnded = false) :
    let solo := (Solo.start strategy known key since).run (meanwhile.filterMap (·.seenBy id))
    solo.IsLive ∧ (solo.subscription.stopped = true ↔
      .asked (.stop id) ∈ meanwhile ∨ .asked (.drop id) ∈ meanwhile) := by
  intro solo
  have goesOn : solo.hasEnded = false := (begun.run meanwhile).hasEnded.trans running
  obtain ⟨live, stopped⟩ := (Solo.isLive_start strategy known key since).run goesOn
  refine ⟨live, stopped.trans ?_⟩
  have unstopped : (Solo.start strategy known key since).subscription.stopped = false := rfl
  simp only [unstopped, Bool.false_eq_true, false_or, List.mem_filterMap, seenBy_eq_used_iff,
    exists_eq_right]
  rfl

/-- **A subscription that was opened winds up when its watcher ends**, with nothing if it was stopped and
with what is pending if it was not. -/
theorem Mirrors.windsUp_of_finish {strategy : Strategy} {known : KnownState} {key : WatchKey}
    {since : Option Revno} (begun : Mirrors id watcher (.start strategy known key since))
    {meanwhile : List Occurrence} {last : Watcher} (reached : last = watcher.run meanwhile)
    (running : last.hasEnded = false) {outcome : Outcome} (unstopped : reason ≠ .stopped)
    (finished : last.undergo occurrence = last.finish reason outcome) :
    let closing := last.undergo occurrence
    let stopped := .asked (.stop id) ∈ meanwhile ∨ .asked (.drop id) ∈ meanwhile
    (stopped → closing.WindsUp id .stopped ∅ ∧
        ∀ after, ∀ receipt ∈ receipts id closing after, receipt.IsBarren) ∧
      (¬ stopped → ∃ subscription, last.subscriptions[id]? = some subscription ∧
        closing.WindsUp id reason subscription.mailbox.pending) := by
  intro closing stopped
  subst reached
  obtain ⟨live, stopped_iff⟩ := begun.stopped_iff running
  have mirrored := begun.run meanwhile
  have mirrors := mirrored.finished running finished
  constructor
  · intro asked
    have closed := live.close_of_stopped (stopped_iff.mpr asked) reason
    have isOver : (Solo.close _ reason).IsOver .stopped := ⟨rfl, congrArg Mailbox.closed closed⟩
    have spent : _ = (∅ : IdSet) := congrArg Mailbox.pending closed
    refine ⟨spent ▸ mirrors.windsUp isOver, fun after => ?_⟩
    rw [mirrors.receipts_eq]
    exact isOver.isBarren_of_spent spent _
  · intro unasked
    have serving := Bool.eq_false_iff.mpr (mt stopped_iff.mp unasked)
    have closed := live.close_of_serving serving unstopped
    have isOver : (Solo.close _ reason).IsOver reason := ⟨rfl, congrArg Mailbox.closed closed⟩
    have kept := congrArg Mailbox.pending closed
    exact ⟨_, mirrored.present, kept ▸ mirrors.windsUp isOver⟩

/-- **The end is complete and loses nothing.** A watcher ends by a shutdown, by the loss of its reader or
by a fatal event, and that gives the reason. Each subscription that was ever opened is closed from then on,
as stopped if its subscriber stopped it or let it go before, and for the reason of the end otherwise. Of
one that was stopped nothing more comes. Of any other, what is pending at the end is got once by whoever
takes it, and nothing else. Who waits for a sync learns that there will be no answer, and nobody is
answered any more. Nobody is registered, no subscription is opened, and the count of the registered is what
it was before the watcher started. -/
theorem closed_completely_without_loss (strategy : Strategy) (metrics : Metrics)
    (before : List Occurrence) (exit : Occurrence)
    (running : (({ start strategy with metrics } : Watcher).run before).hasEnded = false)
    (ended : ((({ start strategy with metrics } : Watcher).run before).undergo exit).hasEnded = true) :
    let first : Watcher := { start strategy with metrics }
    let last := first.run before
    let closing := last.undergo exit
    ∃ reason, exit.closing? = some reason ∧
      (∀ (earlier meanwhile : List Occurrence) (key : WatchKey) (since : Option Revno)
        (id : SubscriptionId), before = earlier ++ .asked (.watch key since) :: meanwhile →
        ((first.run earlier).watch key since).1 = .ok id →
        let stopped := .asked (.stop id) ∈ meanwhile ∨ .asked (.drop id) ∈ meanwhile
        (stopped → closing.WindsUp id .stopped ∅ ∧
          ∀ after, ∀ receipt ∈ receipts id closing after, receipt.IsBarren) ∧
        (¬ stopped → ∃ subscription, last.subscriptions[id]? = some subscription ∧
          closing.WindsUp id reason subscription.mailbox.pending)) ∧
      (∀ ticket : Nat, last.desk.requests[ticket]? = some .waiting →
        closing.desk.requests[ticket]? = some .closed) ∧
      ∀ after, let final := closing.run after
        final.desk.controller.waiters = [] ∧
        (∀ ticket : Nat, final.desk.requests[ticket]? ≠ some .waiting) ∧
        (∀ ticket : Nat, final.desk.requests[ticket]? = some .done →
          last.desk.requests[ticket]? = some .done) ∧
        final.registry = {} ∧ opened closing after = [] ∧
        final.metrics.activeSubscriptions = metrics.activeSubscriptions := by
  intro first last closing
  have balanced : last.IsBalanced metrics.activeSubscriptions :=
    (isBalanced_start strategy metrics).run (isTidy_counting strategy metrics) running
  obtain ⟨reason, outcome, closes, finished⟩ := exists_finish running ended
  have cleared : closing.IsOver metrics.activeSubscriptions := by
    show (last.undergo exit).IsOver metrics.activeSubscriptions
    rw [finished]
    exact balanced.finish reason outcome
  have failed : closing.desk = last.desk.failAll := congrArg Watcher.desk finished
  refine ⟨reason, closes, ?_, ?_, fun after => ?_⟩
  · intro earlier meanwhile key since id split opened
    have reached : last = ((first.run earlier).watch key since).2.run meanwhile := by
      show first.run before = _
      rw [split]
      exact List.foldl_append
    have begun := mirrors_watch ((isTidy_counting strategy metrics).run earlier) opened
    exact begun.windsUp_of_finish reached running (Occurrence.closing?_ne_stopped closes) finished
  · intro ticket waits
    rw [failed]
    show (last.desk.requests.map _)[ticket]? = _
    rw [List.getElem?_map, waits]
    rfl
  · obtain ⟨later, nothing, done⟩ := cleared.run after
    refine ⟨later.waiters, later.answered, fun ticket answered => ?_, later.registry, nothing,
      later.gauge⟩
    have before := done ticket answered
    rw [failed] at before
    exact (SyncDesk.getElem?_of_failAll (by decide) before).2

/-- One subscriber has stopped and is still to be unregistered when the reader is lost. The other, who has
not taken the apple by then, finds it afterwards. -/
theorem apple_taken_after_end :
    let metrics : Metrics := { activeSubscriptions := 3 }
    let apple : Document := ⟨"fruit", "apple"⟩
    let meanwhile : List Occurrence :=
      [.asked (.watch (.entity apple) none), .asked .requestSync, .handled (.batch [.update apple 2]),
        .asked (.stop 2)]
    let last := ({ start .snapshot with metrics } : Watcher).run
      (.asked (.watch (.collection "fruit") none) :: meanwhile)
    let closing := last.undergo (.asked .readerLost)
    gathered (receipts 1 closing ([.asked .unregisterNext] ++ [.asked (.changes 1)])) = ["apple"] ∧
      (closing.run [.asked .unregisterNext]).metrics.activeSubscriptions = 3 := by
  intro metrics apple meanwhile last closing
  obtain ⟨reason, -, subscriptions, -, final⟩ := closed_completely_without_loss .snapshot metrics
    (.asked (.watch (.collection "fruit") none) :: meanwhile) (.asked .readerLost) (by decide) (by decide)
  obtain ⟨-, serving⟩ := subscriptions [] meanwhile (.collection "fruit") none 1 rfl rfl
  obtain ⟨subscription, present, winds⟩ := serving (by decide)
  have pending : (last.subscriptions[1]?).map (·.mailbox.pending.toList) = some ["apple"] := by decide
  rw [present, Option.map_some, Option.some.injEq] at pending
  obtain ⟨kept, found, -⟩ := winds.closed [.asked .unregisterNext]
  have taken := winds.taken _ (.asked (.changes 1)) ⟨kept, .changes, found, rfl, rfl⟩
  obtain ⟨-, -, -, -, -, gauge⟩ := final [.asked .unregisterNext]
  rw [taken, pending, gauge]
  exact ⟨rfl, rfl⟩

end Watcher

end ChangeFeed
