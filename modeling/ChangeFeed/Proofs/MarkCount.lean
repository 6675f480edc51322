/-
# What the count of marks counts

A watcher counts the ids that it adds to the mailboxes of its subscriptions. An id can come in with an
event, or be there from the start, when a subscription is opened with what it has missed. `entered` looks
at the mailboxes alone and says how many ids have come in, by either way; the mailboxes' own accounts say
what became of them.

Only what comes in with events is counted. So the count falls behind by what subscriptions are opened with,
and by nothing else.
-/

import ChangeFeed.Proofs.Blanket
import ChangeFeed.Proofs.Conservation
import Mathlib.Algebra.BigOperators.Group.Finset.Basic

namespace ChangeFeed

namespace Mailbox

variable {before after : Mailbox} {marks : List String} {accepted : Nat} {handed : Option IdSet}

/-- The ids that are pending and were not before. -/
def entered (before after : Mailbox) : IdSet :=
  after.pending \ before.pending

theorem size_entered_add (kept : ∀ text ∈ before.pending, text ∈ after.pending) :
    (before.entered after).size + before.pending.size = after.pending.size := by
  have split : (after.pending \ before.pending).size + (after.pending ∩ before.pending).size =
      after.pending.size := Std.ExtTreeSet.size_diff_add_size_inter_eq_size_left
  rwa [Std.ExtTreeSet.size_inter_eq_size_right kept] at split

theorem size_entered_of_subset (older : ∀ text ∈ after.pending, text ∈ before.pending) :
    (before.entered after).size = 0 := by
  have split : (after.pending \ before.pending).size + (after.pending ∩ before.pending).size =
      after.pending.size := Std.ExtTreeSet.size_diff_add_size_inter_eq_size_left
  rw [Std.ExtTreeSet.size_inter_eq_size_left older] at split
  exact Nat.add_eq_right.mp split

/-- **What comes in with marks are the new ones among them.** -/
theorem size_entered_markAll (mailbox : Mailbox) (ids : List String) :
    (mailbox.entered (mailbox.markAll ids).2).size = (mailbox.markAll ids).1 := by
  have kept : ∀ text ∈ mailbox.pending, text ∈ (mailbox.markAll ids).2.pending := by
    intro text pending
    cases closed : mailbox.closed with
    | some reason => rwa [markAll_of_closed closed]
    | none => exact (mem_pending_markAll closed).mpr (Or.inr pending)
  have sizes := size_entered_add kept
  rw [size_pending_markAll, Nat.add_comm] at sizes
  exact Nat.add_left_cancel sizes

/-- Nothing comes in by other ways. -/
theorem Turnover.size_entered (turnover : Turnover before after marks accepted handed) :
    (before.entered after).size = accepted := by
  have older : marks = [] → ∀ text ∈ after.pending, text ∈ before.pending := by
    rintro rfl text pending
    rcases turnover.mem_pending_iff.mp pending with ⟨-, marked⟩ | ⟨held, -⟩
    · cases marked
    · exact held
  cases turnover with
  | fills after_eq accepted_eq _ =>
    rw [after_eq, accepted_eq]
    exact before.size_entered_markAll marks
  | empties _ marks_eq accepted_eq _ | closes _ _ marks_eq accepted_eq _ =>
    rw [accepted_eq]
    exact size_entered_of_subset (older marks_eq)

end Mailbox

open Mailbox (Turnover)

namespace Subscriptions

variable {subscriptions : Subscriptions} {id : SubscriptionId} {bound : Nat}

/-- The mailbox of a subscription; one that was never opened has nothing in it. -/
def mailboxOf (subscriptions : Subscriptions) (id : SubscriptionId) : Mailbox :=
  (subscriptions[id]?).elim {} (·.mailbox)

/-- The subscriptions all have ids below a bound. -/
def IsBelow (subscriptions : Subscriptions) (bound : Nat) : Prop :=
  ∀ id, (subscriptions[id]?).isSome = true → id < bound

/-- How many ids are pending for the subscriptions below a bound. -/
def held (subscriptions : Subscriptions) (bound : Nat) : Nat :=
  ∑ id ∈ Finset.range bound, (subscriptions.mailboxOf id).pending.size

theorem mailboxOf_markEach (subscriptions : Subscriptions) (marks : List (SubscriptionId × String))
    (id : SubscriptionId) : ∃ ids, (subscriptions.markEach marks).2.mailboxOf id =
      ((subscriptions.mailboxOf id).markAll ids).2 := by
  unfold mailboxOf
  rw [getElem?_markEach]
  cases subscriptions[id]? with
  | none => exact ⟨[], rfl⟩
  | some subscription => exact ⟨_, rfl⟩

theorem IsBelow.markEach (below : subscriptions.IsBelow bound) (marks : List (SubscriptionId × String)) :
    (subscriptions.markEach marks).2.IsBelow bound := by
  intro id present
  rw [getElem?_markEach, Option.isSome_map] at present
  exact below id present

theorem held_mark (below : subscriptions.IsBelow bound) (other : SubscriptionId) (document : String) :
    (subscriptions.mark other document).2.held bound =
      subscriptions.held bound + (subscriptions.mark other document).1 := by
  cases found : subscriptions[other]? with
  | none => simp [mark, found]
  | some subscription =>
    have listed : other ∈ Finset.range bound := Finset.mem_range.mpr (below other (by simp [found]))
    have here : ((subscriptions.mark other document).2.mailboxOf other).pending.size =
        (subscriptions.mailboxOf other).pending.size + (subscriptions.mark other document).1 := by
      have size := subscription.mailbox.size_pending_markAll [document]
      have new : (subscriptions.mark other document).1 = (subscription.mailbox.mark document).1.toNat := by
        simp only [mark, found]
      rw [new]
      simp only [mailboxOf, getElem?_mark, found, if_true, Option.map_some, Option.elim_some]
      simpa only [Mailbox.markAll, Nat.zero_add] using size
    have elsewhere : ∀ id ∈ (Finset.range bound).erase other,
        ((subscriptions.mark other document).2.mailboxOf id).pending.size =
          (subscriptions.mailboxOf id).pending.size := by
      intro id rest
      have different : other ≠ id := (Finset.ne_of_mem_erase rest).symm
      simp only [mailboxOf, getElem?_mark, different, if_false]
    -- All summands but one stay.
    unfold held
    rw [← Finset.add_sum_erase _ _ listed, ← Finset.add_sum_erase _ _ listed, here,
      Finset.sum_congr rfl elsewhere]
    exact Nat.add_right_comm _ _ _

/-- **The new ones among marks are what is pending more than before.** -/
theorem held_markEach (below : subscriptions.IsBelow bound) (marks : List (SubscriptionId × String)) :
    (subscriptions.markEach marks).2.held bound =
      subscriptions.held bound + (subscriptions.markEach marks).1 := by
  induction marks generalizing subscriptions with
  | nil => rfl
  | cons mark rest ih =>
    obtain ⟨other, document⟩ := mark
    have stillBelow : (subscriptions.mark other document).2.IsBelow bound :=
      below.markEach [(other, document)]
    show ((subscriptions.mark other document).2.markEach rest).2.held bound = subscriptions.held bound +
      ((subscriptions.mark other document).1 + ((subscriptions.mark other document).2.markEach rest).1)
    rw [ih stillBelow, held_mark below, Nat.add_assoc]

theorem turnover_closeEach (subscriptions : Subscriptions) (ids : List SubscriptionId)
    (reason : CloseReason) (id : SubscriptionId) :
    Turnover (subscriptions.mailboxOf id) ((subscriptions.closeEach ids reason).mailboxOf id) [] 0 none := by
  unfold mailboxOf
  rw [getElem?_closeEach]
  split
  · cases subscriptions[id]? with
    | none => exact .fills rfl rfl rfl
    | some subscription => exact .closes reason rfl rfl rfl rfl
  · exact .fills rfl rfl rfl

end Subscriptions

namespace Watcher

variable {watcher : Watcher} {id : SubscriptionId} {occurrence : Occurrence} {bound : Nat} {event : Event}
  {input : Input}

/-! ## Accounts -/

/-- How many ids come into the mailbox of a subscription. -/
def entered (id : SubscriptionId) (watcher : Watcher) (occurrence : Occurrence) : Nat :=
  ((watcher.subscriptions.mailboxOf id).entered
    ((watcher.undergo occurrence).subscriptions.mailboxOf id)).size

/-- The set that the subscriber of a subscription gets, if one. -/
def handed? (id : SubscriptionId) (watcher : Watcher) (occurrence : Occurrence) : Option IdSet :=
  (watcher.receipt? id occurrence).bind Receipt.set?

/-- How many ids the subscriber of a subscription gets. -/
def drained (id : SubscriptionId) (watcher : Watcher) (occurrence : Occurrence) : Nat :=
  ((handed? id watcher occurrence).map (·.size)).getD 0

/-- How many ids are thrown away because the subscriber stops. -/
def discarded (id : SubscriptionId) (watcher : Watcher) (occurrence : Occurrence) : Nat :=
  if (watcher.subscriptions.mailboxOf id).StopsOpen
      ((watcher.undergo occurrence).subscriptions.mailboxOf id) then
    (watcher.subscriptions.mailboxOf id).pending.size
  else 0

/-- How many ids a subscription is opened with. -/
def seeded (watcher : Watcher) : Occurrence → Nat
  | .asked (.watch key since) =>
    match (watcher.watch key since).1 with
    | .ok _ => (Mailbox.markAll {} (watcher.knownState.catchUp key since)).1
    | .error _ => 0
  | _ => 0

/-- What is counted in single occurrences, summed up in the course of many. -/
def tally (count : Watcher → Occurrence → Nat) : Watcher → List Occurrence → Nat
  | _, [] => 0
  | watcher, occurrence :: rest =>
    count watcher occurrence + tally count (watcher.undergo occurrence) rest

/-! ## One occurrence -/

/-- Ids can come in. -/
def Occurrence.brings : Occurrence → Bool
  | .handled event => event.isAboutLog
  | .asked (.watch _ _) => true
  | .asked _ | .polled => false

theorem turnover_finish (watcher : Watcher) (reason : CloseReason) (outcome : Outcome) (id : SubscriptionId) :
    Turnover (watcher.subscriptions.mailboxOf id)
      ((watcher.finish reason outcome).subscriptions.mailboxOf id) [] 0 none :=
  Subscriptions.turnover_closeEach _ _ _ _

theorem receipt?_of_use {other : SubscriptionId} {use : Use} {subscription : Subscription}
    (present : watcher.subscriptions[other]? = some subscription) (asks : input.use? = some (other, use)) :
    watcher.receipt? id (.asked input) = if other = id then subscription.receipt? use else none := by
  by_cases same : other = id
  · subst same
    cases input <;> cases asks <;>
      simp [receipt?, changes, next, streamNext, present, Subscription.receipt?]
  · cases input <;> cases asks <;> simp [receipt?, same]

/-- Who uses a subscription that was never opened gets nothing. -/
theorem handed?_of_absent {other : SubscriptionId} {use : Use}
    (absent : watcher.subscriptions[other]? = none) (asks : input.use? = some (other, use))
    (id : SubscriptionId) : handed? id watcher (.asked input) = none ∨
      other = id ∧ handed? id watcher (.asked input) = some ∅ := by
  by_cases same : other = id
  · subst same
    cases input <;> cases asks <;>
      simp [handed?, receipt?, changes, next, streamNext, absent, Receipt.set?]
  · cases input <;> cases asks <;> simp [handed?, receipt?, same]

/-- A use of a subscription is nothing to the others. -/
theorem turnover_of_use {other : SubscriptionId} {use : Use} (asks : input.use? = some (other, use))
    (id : SubscriptionId) :
    Turnover (watcher.subscriptions.mailboxOf id) ((watcher.take input).subscriptions.mailboxOf id) [] 0
      (handed? id watcher (.asked input)) := by
  cases present : watcher.subscriptions[other]? with
  | none =>
    rw [take_of_absent present asks]
    rcases handed?_of_absent present asks id with nothing | ⟨rfl, nothing⟩
    · exact .fills rfl rfl nothing
    · have empty : watcher.subscriptions.mailboxOf other = {} := by
        simp only [Subscriptions.mailboxOf, present, Option.elim_none]
      rw [empty, nothing]
      exact .empties rfl rfl rfl rfl
  | some subscription =>
    rw [take_of_use present asks, handed?, receipt?_of_use present asks]
    by_cases same : other = id
    · subst same
      have before : watcher.subscriptions.mailboxOf other = subscription.mailbox := by
        simp only [Subscriptions.mailboxOf, present, Option.elim_some]
      have after : (watcher.update other (subscription.use use)
          (subscription.unregisters use)).subscriptions.mailboxOf other = (subscription.use use).mailbox := by
        simp [Subscriptions.mailboxOf, update]
      rw [if_pos rfl, before, after]
      exact subscription.turnover_use use
    · have after : (watcher.update other (subscription.use use)
          (subscription.unregisters use)).subscriptions.mailboxOf id =
            watcher.subscriptions.mailboxOf id := by
        simp [Subscriptions.mailboxOf, update, Std.ExtTreeMap.getElem?_insert, same]
      rw [if_neg same, after]
      exact .fills rfl rfl rfl

/-- The mailboxes are as they were, and the count of marks with them. -/
structure Rests (before after : Watcher) : Prop where
  subscriptions : after.subscriptions = before.subscriptions
  pendingMarks : after.metrics.pendingMarks = before.metrics.pendingMarks

theorem rests_issue (watcher : Watcher) (desk : SyncDesk) (poll : Option Nat) :
    Rests watcher ({ watcher with desk }.issue poll) := by
  obtain ⟨desk, polls, same⟩ := issue_eq { watcher with desk } poll
  rw [same]
  exact ⟨rfl, rfl⟩

/-- What neither uses a subscription nor opens or closes any leaves them all alone. -/
theorem rests_take (watcher : Watcher) (idle : input.isIdle = true) : Rests watcher (watcher.take input) := by
  obtain ⟨_, _, _, _, _, same⟩ := watcher.take_of_isIdle idle
  rw [same]
  exact ⟨rfl, rfl⟩

/-- An event that is not about the log leaves all mailboxes alone, or is the end. -/
theorem rests_receive_or_finish (watcher : Watcher) (still : event.isAboutLog = false) :
    Rests watcher (watcher.receive event) ∨
      ∃ reason outcome, watcher.receive event = watcher.finish reason outcome := by
  unfold receive
  split
  · exact Or.inl ⟨rfl, rfl⟩
  · cases event with
    | primed _ | batch _ | discontinuity _ => cases still
    | cycleComplete seq => exact Or.inl (watcher.rests_issue _ _)
    | cycleAborted seq reason => exact Or.inl ⟨rfl, rfl⟩
    | fatal reason => exact Or.inr ⟨_, _, rfl⟩

theorem handed?_of_unused (unused : input.use? = none) : handed? id watcher (.asked input) = none := by
  cases input <;> first | rfl | cases unused

theorem Rests.turnover {after : Watcher} (rests : Rests watcher after) (id : SubscriptionId) :
    Turnover (watcher.subscriptions.mailboxOf id) (after.subscriptions.mailboxOf id) [] 0 none := by
  rw [rests.subscriptions]
  exact .fills rfl rfl rfl

/-- **Where no ids come in nothing is counted**, and mailboxes are emptied or closed at most. -/
theorem turnover_of_not_brings (watcher : Watcher) (still : occurrence.brings = false) :
    (watcher.undergo occurrence).metrics.pendingMarks = watcher.metrics.pendingMarks ∧
      ∀ id, Turnover (watcher.subscriptions.mailboxOf id)
        ((watcher.undergo occurrence).subscriptions.mailboxOf id) [] 0 (handed? id watcher occurrence) := by
  cases occurrence with
  | polled => exact ⟨rfl, fun _ => .fills rfl rfl rfl⟩
  | handled event =>
    show (watcher.receive event).metrics.pendingMarks = _ ∧ ∀ id, Turnover _
      ((watcher.receive event).subscriptions.mailboxOf id) [] 0 none
    rcases watcher.rests_receive_or_finish still with rests | ⟨reason, outcome, finished⟩
    · exact ⟨rests.pendingMarks, rests.turnover⟩
    · rw [finished]
      exact ⟨rfl, watcher.turnover_finish _ _⟩
  | asked input =>
    cases asks : input.use? with
    | some asked =>
      obtain ⟨other, use⟩ := asked
      refine ⟨?_, turnover_of_use asks⟩
      show (watcher.take input).metrics.pendingMarks = _
      cases present : watcher.subscriptions[other]? with
      | none => rw [take_of_absent present asks]
      | some subscription =>
        rw [take_of_use present asks]
        rfl
    | none =>
      simp only [handed?_of_unused asks]
      cases closes : input.closing? with
      | some reason =>
        obtain ⟨outcome, taken⟩ : ∃ outcome, watcher.take input = _ := take_of_closing closes
        simp only [undergo, taken]
        split
        · exact ⟨rfl, fun _ => .fills rfl rfl rfl⟩
        · exact ⟨rfl, watcher.turnover_finish _ _⟩
      | none =>
        have idle : input.isIdle = true := by
          cases input with
          | tick | requestSync | giveUp _ | unregisterNext | abandonPolls => rfl
          | watch _ _ => cases still
          | stop _ | drop _ | changes _ | next _ | streamNext _ => cases asks
          | shutDown | readerLost => cases closes
        exact ⟨(watcher.rests_take idle).pendingMarks, (watcher.rests_take idle).turnover⟩

/-- An event about the log fills mailboxes. -/
theorem mailboxOf_receive (watcher : Watcher) (isAboutLog : event.isAboutLog = true)
    (id : SubscriptionId) : ∃ ids, (watcher.receive event).subscriptions.mailboxOf id =
      ((watcher.subscriptions.mailboxOf id).markAll ids).2 := by
  cases ended : watcher.hasEnded with
  | true =>
    rw [show watcher.receive event = watcher from if_pos ended]
    exact ⟨[], rfl⟩
  | false =>
    obtain ⟨metrics, received⟩ := receive_eq ended event isAboutLog
    rw [received]
    exact watcher.subscriptions.mailboxOf_markEach _ id

/-- A subscription that is opened has the mailbox it is given and had none before; the others keep theirs. -/
theorem mailboxOf_enrol (orderly : watcher.Orderly) (key : WatchKey) (mailbox : Mailbox)
    (id : SubscriptionId) :
    (watcher.enrol key mailbox).subscriptions.mailboxOf id =
        (if id = watcher.nextId then mailbox else watcher.subscriptions.mailboxOf id) ∧
      (id = watcher.nextId → watcher.subscriptions.mailboxOf id = {}) := by
  constructor
  · by_cases here : watcher.nextId = id
    · simp [Subscriptions.mailboxOf, enrol, here]
    · simp [Subscriptions.mailboxOf, enrol, Std.ExtTreeMap.getElem?_insert, here, Ne.symm here]
  · rintro rfl
    cases present : watcher.subscriptions[watcher.nextId]? with
    | none => simp only [Subscriptions.mailboxOf, present, Option.elim_none]
    | some subscription =>
      exact absurd (orderly.fresh watcher.nextId (by simp [present])) (Nat.lt_irrefl _)

/-- **Whatever occurs to a watcher, every mailbox takes marks in, hands everything over, or closes.** -/
theorem turnover_undergo (tidy : watcher.IsTidy) (occurrence : Occurrence) (id : SubscriptionId) :
    ∃ marks accepted, Turnover (watcher.subscriptions.mailboxOf id)
      ((watcher.undergo occurrence).subscriptions.mailboxOf id) marks accepted
      (handed? id watcher occurrence) := by
  cases brings : occurrence.brings with
  | false => exact ⟨_, _, (turnover_of_not_brings watcher brings).2 id⟩
  | true =>
    cases occurrence with
    | polled => cases brings
    | handled event =>
      obtain ⟨ids, after⟩ := watcher.mailboxOf_receive brings id
      exact ⟨ids, _, .fills after rfl rfl⟩
    | asked input =>
      cases input with
      | watch key since =>
        simp only [undergo, take]
        rcases watcher.watch_cases key since with ⟨refusal, refused⟩ | ⟨running, opened⟩
        · rw [refused]
          exact ⟨[], 0, .fills rfl rfl rfl⟩
        · obtain ⟨after, new⟩ := mailboxOf_enrol (tidy.orderly running) key
            (Mailbox.markAll {} (watcher.knownState.catchUp key since)).2 id
          rw [opened, after]
          split
          · next here =>
            rw [new here]
            exact ⟨_, _, .fills rfl rfl rfl⟩
          · exact ⟨[], 0, .fills rfl rfl rfl⟩
      | tick | requestSync | giveUp _ | unregisterNext | stop _ | drop _ | changes _ | next _ | streamNext _
      | shutDown | readerLost | abandonPolls => cases brings

/-- What comes into one mailbox is handed over, is pending, or is thrown away. -/
theorem size_pending_add_entered (tidy : watcher.IsTidy) (occurrence : Occurrence) (id : SubscriptionId) :
    (watcher.subscriptions.mailboxOf id).pending.size + entered id watcher occurrence =
      drained id watcher occurrence +
        ((watcher.undergo occurrence).subscriptions.mailboxOf id).pending.size +
          discarded id watcher occurrence := by
  obtain ⟨marks, accepted, turnover⟩ := turnover_undergo tidy occurrence id
  have sizes := turnover.size_eq
  rwa [← turnover.size_entered] at sizes

theorem pendingMarks_deliver (watcher : Watcher) (below : watcher.subscriptions.IsBelow bound)
    (marks : List (SubscriptionId × String)) :
    (watcher.deliver marks).metrics.pendingMarks + watcher.subscriptions.held bound =
      watcher.metrics.pendingMarks + (watcher.deliver marks).subscriptions.held bound := by
  have more := Subscriptions.held_markEach below marks
  show watcher.metrics.pendingMarks + (watcher.subscriptions.markEach marks).1 + _ =
    _ + (watcher.subscriptions.markEach marks).2.held bound
  rw [more]
  lia

theorem pendingMarks_apply (below : watcher.subscriptions.IsBelow bound) (change : Change) :
    (watcher.apply change).subscriptions.IsBelow bound ∧
      (watcher.apply change).metrics.pendingMarks + watcher.subscriptions.held bound =
        watcher.metrics.pendingMarks + (watcher.apply change).subscriptions.held bound := by
  unfold apply
  split
  · exact ⟨below.markEach _, pendingMarks_deliver _ below _⟩
  · exact ⟨below, rfl⟩

theorem pendingMarks_applyAll (below : watcher.subscriptions.IsBelow bound) (changes : List Change) :
    (watcher.applyAll changes).metrics.pendingMarks + watcher.subscriptions.held bound =
      watcher.metrics.pendingMarks + (watcher.applyAll changes).subscriptions.held bound := by
  induction changes generalizing watcher with
  | nil => rfl
  | cons change rest ih =>
    obtain ⟨stillBelow, now⟩ := pendingMarks_apply below change
    have later := ih stillBelow
    show ((watcher.apply change).applyAll rest).metrics.pendingMarks + _ =
      _ + ((watcher.apply change).applyAll rest).subscriptions.held bound
    lia

theorem pendingMarks_reconcile (below : watcher.subscriptions.IsBelow bound) (snapshot : Option Snapshot) :
    (watcher.reconcile snapshot).metrics.pendingMarks + watcher.subscriptions.held bound =
      watcher.metrics.pendingMarks + (watcher.reconcile snapshot).subscriptions.held bound := by
  let planned : Watcher := { watcher with
    knownState := (watcher.knownState.reconcile watcher.strategy snapshot).2
    metrics := watcher.metrics.reconciled watcher.strategy }
  have counted : planned.metrics.pendingMarks = watcher.metrics.pendingMarks := by
    show (watcher.metrics.reconciled watcher.strategy).pendingMarks = _
    cases watcher.strategy <;> rfl
  have delivered := planned.pendingMarks_deliver below (watcher.marksOf (.discontinuity snapshot))
  rwa [counted] at delivered

/-- **What an event about the log counts is what is pending more than before.** -/
theorem pendingMarks_receive (below : watcher.subscriptions.IsBelow bound)
    (isAboutLog : event.isAboutLog = true) :
    (watcher.receive event).metrics.pendingMarks + watcher.subscriptions.held bound =
      watcher.metrics.pendingMarks + (watcher.receive event).subscriptions.held bound := by
  unfold receive
  split
  · rfl
  · cases event with
    | primed changes | batch changes => exact pendingMarks_applyAll below changes
    | discontinuity snapshot => exact pendingMarks_reconcile below snapshot
    | cycleComplete _ | cycleAborted _ _ | fatal _ => cases isAboutLog

/-- What comes in with an event about the log is what is pending more than before. -/
theorem held_receive (watcher : Watcher) (isAboutLog : event.isAboutLog = true) (bound : Nat) :
    (watcher.receive event).subscriptions.held bound =
      watcher.subscriptions.held bound + ∑ id ∈ Finset.range bound, entered id watcher (.handled event) := by
  unfold Subscriptions.held
  rw [← Finset.sum_add_distrib]
  refine Finset.sum_congr rfl fun id _ => ?_
  obtain ⟨ids, after⟩ := watcher.mailboxOf_receive isAboutLog id
  simp only [entered, undergo, after, Mailbox.size_entered_markAll, Mailbox.size_pending_markAll]

/-- What comes in when a subscription is opened is what it is opened with. -/
theorem sum_entered_watch (tidy : watcher.IsTidy) {key : WatchKey} {since : Option Revno}
    (within : (watcher.watch key since).2.nextId ≤ bound) :
    ∑ id ∈ Finset.range bound, entered id watcher (.asked (.watch key since)) =
      watcher.seeded (.asked (.watch key since)) := by
  simp only [entered, seeded, undergo, take]
  rcases watcher.watch_cases key since with ⟨refusal, refused⟩ | ⟨running, opened⟩
  · rw [refused]
    exact Finset.sum_eq_zero fun id _ => Mailbox.size_entered_of_subset fun _ pending => pending
  · rw [opened] at within ⊢
    have after := mailboxOf_enrol (tidy.orderly running) key
      (Mailbox.markAll {} (watcher.knownState.catchUp key since)).2
    rw [Finset.sum_eq_single watcher.nextId]
    · rw [(after watcher.nextId).1, if_pos rfl, (after watcher.nextId).2 rfl]
      exact Mailbox.size_entered_markAll {} _
    · intro id _ older
      rw [(after id).1, if_neg older]
      exact Mailbox.size_entered_of_subset fun _ pending => pending
    · intro unlisted
      exact absurd (Finset.mem_range.mpr within) unlisted

/-- **The count grows by what comes in, but for what subscriptions are opened with.** -/
theorem pendingMarks_undergo (tidy : watcher.IsTidy) (occurrence : Occurrence)
    (within : (watcher.undergo occurrence).nextId ≤ bound) :
    (watcher.undergo occurrence).metrics.pendingMarks + watcher.seeded occurrence =
      watcher.metrics.pendingMarks + ∑ id ∈ Finset.range bound, entered id watcher occurrence := by
  cases brings : occurrence.brings with
  | false =>
    obtain ⟨count, turnover⟩ := turnover_of_not_brings watcher brings
    have nothing : ∀ id ∈ Finset.range bound, entered id watcher occurrence = 0 :=
      fun id _ => (turnover id).size_entered
    have unseeded : watcher.seeded occurrence = 0 := by
      cases occurrence with
      | handled _ | polled => rfl
      | asked input => cases input <;> first | rfl | cases brings
    rw [Finset.sum_eq_zero nothing, count, unseeded]
  | true =>
    cases occurrence with
    | polled => cases brings
    | handled event =>
      show (watcher.receive event).metrics.pendingMarks = _
      cases ended : watcher.hasEnded with
      | true =>
        have same : watcher.receive event = watcher := if_pos ended
        have held := watcher.held_receive brings bound
        rw [same] at held ⊢
        lia
      | false =>
        have below : watcher.subscriptions.IsBelow bound := fun id present =>
          Nat.lt_of_lt_of_le ((tidy.orderly ended).fresh id present) (watcher.nextId_receive event ▸ within)
        have count := pendingMarks_receive below brings
        rw [watcher.held_receive brings bound] at count
        lia
    | asked input =>
      cases input with
      | watch key since =>
        rw [sum_entered_watch tidy within]
        have count : (watcher.watch key since).2.metrics.pendingMarks = watcher.metrics.pendingMarks := by
          rcases watcher.watch_cases key since with ⟨refusal, refused⟩ | ⟨-, opened⟩
          · rw [refused]
          · rw [opened]
            rfl
        exact congrArg (· + _) count
      | tick | requestSync | giveUp _ | unregisterNext | stop _ | drop _ | changes _ | next _ | streamNext _
      | shutDown | readerLost | abandonPolls => cases brings

/-! ## Runs -/

theorem nextId_le_undergo (watcher : Watcher) (occurrence : Occurrence) :
    watcher.nextId ≤ (watcher.undergo occurrence).nextId := by
  rcases watcher.opened?_cases occurrence with ⟨-, same⟩ | ⟨-, larger⟩
  · exact same.ge
  · exact Nat.le_of_succ_le larger.ge

theorem nextId_le_run (watcher : Watcher) (occurrences : List Occurrence) :
    watcher.nextId ≤ (watcher.run occurrences).nextId := by
  induction occurrences generalizing watcher with
  | nil => exact Nat.le_refl _
  | cons occurrence rest ih => exact (watcher.nextId_le_undergo occurrence).trans (ih _)

theorem lt_nextId_of_mem_opened {occurrences : List Occurrence} (listed : id ∈ opened watcher occurrences) :
    id < (watcher.run occurrences).nextId := by
  induction occurrences generalizing watcher with
  | nil => cases listed
  | cons occurrence rest ih =>
    rcases List.mem_append.mp listed with now | later
    · rcases watcher.opened?_cases occurrence with ⟨nothing, -⟩ | ⟨next, larger⟩
      · rw [nothing] at now
        cases now
      · rw [next, Option.toList_some, List.mem_singleton] at now
        rw [now]
        exact (Nat.le_of_eq larger.symm).trans (nextId_le_run _ rest)
    · exact ih later

/-- **The count of a whole run grows by what comes in, but for what subscriptions are opened with.** -/
theorem pendingMarks_run (tidy : watcher.IsTidy) (occurrences : List Occurrence)
    (within : (watcher.run occurrences).nextId ≤ bound) :
    (watcher.run occurrences).metrics.pendingMarks + tally seeded watcher occurrences =
      watcher.metrics.pendingMarks +
        ∑ id ∈ Finset.range bound, tally (entered id) watcher occurrences := by
  induction occurrences generalizing watcher with
  | nil => simp [run, tally]
  | cons occurrence rest ih =>
    have soFar : (watcher.undergo occurrence).nextId ≤ bound := (nextId_le_run _ rest).trans within
    have now := pendingMarks_undergo tidy occurrence soFar
    have later := ih (tidy.undergo occurrence) within
    show ((watcher.undergo occurrence).run rest).metrics.pendingMarks + _ = _
    simp only [tally, Finset.sum_add_distrib]
    lia

/-- **What comes into one mailbox in a whole run is handed over, is pending, or is thrown away.** -/
theorem size_pending_add_tally (tidy : watcher.IsTidy) (occurrences : List Occurrence)
    (id : SubscriptionId) :
    (watcher.subscriptions.mailboxOf id).pending.size + tally (entered id) watcher occurrences =
      tally (drained id) watcher occurrences +
        ((watcher.run occurrences).subscriptions.mailboxOf id).pending.size +
          tally (discarded id) watcher occurrences := by
  induction occurrences generalizing watcher with
  | nil => simp [run, tally]
  | cons occurrence rest ih =>
    have now := size_pending_add_entered tidy occurrence id
    have later := ih (tidy.undergo occurrence)
    show _ = _ + (((watcher.undergo occurrence).run rest).subscriptions.mailboxOf id).pending.size + _
    simp only [tally]
    lia

/-- Nothing comes in for a subscription that is never opened. -/
theorem tally_entered_of_unopened {occurrences : List Occurrence}
    (absent : watcher.subscriptions[id]? = none) (unopened : id ∉ opened watcher occurrences) :
    tally (entered id) watcher occurrences = 0 := by
  induction occurrences generalizing watcher with
  | nil => rfl
  | cons occurrence rest ih =>
    rw [opened, List.mem_append, not_or] at unopened
    have still : (watcher.undergo occurrence).subscriptions[id]? = none := by
      by_contra present
      exact unopened.1 (by simp [opened?_of_present absent present])
    have nothing : entered id watcher occurrence = 0 := by
      apply Mailbox.size_entered_of_subset
      simp [Subscriptions.mailboxOf, still, Std.ExtTreeSet.not_mem_empty]
    rw [tally, nothing, ih still unopened.2]

theorem tally_eq_zero_iff {count : Watcher → Occurrence → Nat} {occurrences : List Occurrence} :
    tally count watcher occurrences = 0 ↔ ∀ earlier occurrence later,
      occurrences = earlier ++ occurrence :: later → count (watcher.run earlier) occurrence = 0 := by
  induction occurrences generalizing watcher with
  | nil => simp [tally]
  | cons first rest ih =>
    rw [tally, Nat.add_eq_zero_iff, ih]
    constructor
    · rintro ⟨now, later⟩ earlier occurrence after split
      cases earlier with
      | nil =>
        cases split
        exact now
      | cons _ earlier =>
        cases split
        exact later earlier occurrence after rfl
    · intro all
      exact ⟨all [] first rest rfl, fun earlier occurrence after split =>
        all (first :: earlier) occurrence after (congrArg (first :: ·) split)⟩

/-- A new mailbox has a new id for every list but the empty one. -/
theorem markAll_new_eq_zero_iff {ids : List String} : (Mailbox.markAll {} ids).1 = 0 ↔ ids = [] := by
  constructor
  · intro nothing
    have size := Mailbox.size_pending_markAll {} ids
    rw [nothing] at size
    have empty : (Mailbox.markAll {} ids).2.pending = ∅ := Std.ExtTreeSet.eq_empty_iff_size_eq_zero.mpr size
    refine List.eq_nil_iff_forall_not_mem.mpr fun id listed => ?_
    have pending : id ∈ (Mailbox.markAll {} ids).2.pending :=
      (Mailbox.mem_pending_markAll rfl).mpr (Or.inl listed)
    rw [empty] at pending
    exact Std.ExtTreeSet.not_mem_empty pending
  · rintro rfl
    rfl

theorem seeded_eq_zero_iff : watcher.seeded occurrence = 0 ↔
    ∀ key since id, occurrence = .asked (.watch key since) → (watcher.watch key since).1 = .ok id →
      watcher.knownState.catchUp key since = [] := by
  cases occurrence with
  | handled _ | polled => simp [seeded]
  | asked input =>
    cases input with
    | watch key since =>
      cases opened : (watcher.watch key since).1 with
      | error refusal =>
        simp only [seeded, opened, true_iff]
        rintro _ _ id ⟨⟩ granted
        cases opened.symm.trans granted
      | ok id =>
        simp only [seeded, opened, markAll_new_eq_zero_iff]
        constructor
        · rintro nothing _ _ _ ⟨⟩ _
          exact nothing
        · intro nothing
          exact nothing key since id rfl opened
    | tick | requestSync | giveUp _ | unregisterNext | stop _ | drop _ | changes _ | next _ | streamNext _
    | shutDown | readerLost | abandonPolls => simp [seeded]

/-- **The count of marks counts all but what subscriptions are opened with.** In every run it grows by the
ids that have come into the mailboxes of the subscriptions that were opened, but for those with which they
were opened. For each subscription the ids that have come in are those its subscriber has got, those
pending and those thrown away by a stop. So the count grows by just that exactly if no subscription was
opened with something it had missed. -/
theorem pendingMarks_counts_all_but_seeded (strategy : Strategy) (metrics : Metrics)
    (occurrences : List Occurrence) :
    let first : Watcher := { start strategy with metrics }
    let last := first.run occurrences
    let came := ∑ id ∈ (opened first occurrences).toFinset, tally (entered id) first occurrences
    last.metrics.pendingMarks + tally seeded first occurrences = metrics.pendingMarks + came ∧
      (∀ id, tally (entered id) first occurrences = tally (drained id) first occurrences +
        (last.subscriptions.mailboxOf id).pending.size + tally (discarded id) first occurrences) ∧
      (last.metrics.pendingMarks = metrics.pendingMarks + came ↔
        ∀ earlier key since later id, occurrences = earlier ++ .asked (.watch key since) :: later →
          ((first.run earlier).watch key since).1 = .ok id →
          (first.run earlier).knownState.catchUp key since = []) := by
  intro first last came
  have tidy : first.IsTidy := isTidy_counting strategy metrics
  have all : came = ∑ id ∈ Finset.range last.nextId, tally (entered id) first occurrences := by
    apply Finset.sum_subset
    · intro id listed
      exact Finset.mem_range.mpr (lt_nextId_of_mem_opened (List.mem_toFinset.mp listed))
    · intro id _ unlisted
      have absent : first.subscriptions[id]? = none := Std.ExtTreeMap.getElem?_empty
      exact tally_entered_of_unopened absent (mt List.mem_toFinset.mpr unlisted)
  have counted : last.metrics.pendingMarks + tally seeded first occurrences =
      metrics.pendingMarks + came := by
    rw [all]
    exact pendingMarks_run tidy occurrences (Nat.le_refl _)
  refine ⟨counted, fun id => ?_, ?_⟩
  · have sizes := size_pending_add_tally tidy occurrences id
    have nothing : (first.subscriptions.mailboxOf id).pending.size = 0 := rfl
    rwa [nothing, Nat.zero_add] at sizes
  · have unseeded : last.metrics.pendingMarks = metrics.pendingMarks + came ↔
        tally seeded first occurrences = 0 := by lia
    rw [unseeded, tally_eq_zero_iff]
    simp only [seeded_eq_zero_iff]
    constructor
    · intro nothing earlier key since later id split opened
      exact nothing earlier _ later split key since id rfl opened
    · rintro nothing earlier _ later split key since id rfl opened
      exact nothing earlier key since later id split opened

/-- A subscription that is opened late is handed an apple that was never counted. -/
theorem apple_handed_over_uncounted :
    let apple : Document := ⟨"m", "a"⟩
    let occurrences : List Occurrence :=
      [.handled (.batch [.update apple 1]), .asked (.watch (.collection "m") none), .asked (.changes 1)]
    let last := (start .snapshot).run occurrences
    last.metrics.pendingMarks = 0 ∧
      ∑ id ∈ (opened (start .snapshot) occurrences).toFinset,
        tally (entered id) (start .snapshot) occurrences = 1 ∧
      (receipts 1 (start .snapshot) occurrences).map (·.ids.toList) = [["a"]] := by
  decide

end Watcher

end ChangeFeed
