/-
# Catching up

A new subscription starts with the documents of which its subscriber has to hear at once, and from then
on the watcher marks what it has news of. The two have to dovetail: a document may become due before the
subscription is opened or after it, and by a change, by a snapshot or by a blanket report. `KeepsUp` says
that nothing that is due is missing from the mailbox, and that nothing is in it for which there is no
reason. Whatever occurs keeps it, as long as nothing is taken and the subscription is not stopped.
-/

import ChangeFeed.Proofs.Independence

namespace ChangeFeed

namespace Revisions

variable {known : Revisions} {changes : List Change} {document : Document}

/-- What is known of a document stays the same unless there is news of it. -/
theorem getElem?_observeAll_of_not_mem_newsIn (old : document ∉ known.newsIn changes) :
    (known.observeAll changes)[document]? = known[document]? := by
  induction changes generalizing known with
  | nil => rfl
  | cons change rest ih =>
    rw [newsIn_cons] at old
    have step := getElem?_observe known change document
    split at old
    · next news =>
      simp only [Std.ExtTreeSet.mem_insert, Std.compare_eq_iff_eq, not_or] at old
      rw [if_neg fun same => old.1 same.1] at step
      exact (ih old.2).trans step
    · next stale =>
      rw [if_neg fun same => stale same.2] at step
      exact (ih old).trans step

end Revisions

namespace Solo

variable {solo : Solo} {event : Event} {use : Use} {sight : Sight} {key : WatchKey}
  {since : Option Revno} {text : String} {document : Document}

/-- What an event brings news of, under the key, it marks. -/
theorem mem_marksOf_of_mem_newsIn (isAboutLog : event.isAboutLog = true)
    (covers : solo.subscription.key.covers document = true)
    (news : document ∈ solo.known.newsIn event.changes) : document.id ∈ solo.marksOf event := by
  cases event with
  | primed changes | batch changes => exact mem_newsUnder_iff.mpr ⟨document, covers, rfl, news⟩
  | discontinuity snapshot =>
    have suspected := KnownState.mem_suspects_of_mem_newsIn solo.strategy news
    exact mem_idsUnder_iff.mpr ⟨document, covers, rfl, Or.inl suspected⟩
  | cycleComplete _ | cycleAborted _ _ | fatal _ => cases isAboutLog

/-- What an event marks is known afterwards, or is the one document that is watched. -/
theorem exists_of_mem_marksOf (marked : text ∈ solo.marksOf event) :
    ∃ document, solo.subscription.key.covers document = true ∧ document.id = text ∧
      (document ∈ solo.known.observeAll event.changes ∨
        solo.subscription.key = .entity document) := by
  cases event with
  | primed changes | batch changes =>
    obtain ⟨document, covers, same, news⟩ := mem_newsUnder_iff.mp marked
    exact ⟨document, covers, same, Or.inl (Revisions.mem_of_mem_newsIn news)⟩
  | discontinuity snapshot =>
    obtain ⟨document, covers, same, suspected | watched⟩ := mem_idsUnder_iff.mp marked
    · exact ⟨document, covers, same, Or.inl (KnownState.mem_of_mem_suspects suspected)⟩
    · exact ⟨document, covers, same, Or.inr watched.2⟩
  | cycleComplete _ | cycleAborted _ _ | fatal _ => cases marked

/-- Of the documents under the key all that are due are pending, and what is pending is known or is the
one document that is watched. Before the end the mailbox is open. -/
structure KeepsUp (key : WatchKey) (since : Option Revno) (solo : Solo) : Prop where
  sameKey : solo.subscription.key = key
  isOpen : solo.hasEnded = false → solo.subscription.mailbox.closed = none
  due : ∀ document revision, solo.known[document]? = some revision → key.covers document = true →
    revision.isDue since = true → document.id ∈ solo.subscription.mailbox.pending
  reason : ∀ text ∈ solo.subscription.mailbox.pending, ∃ document, key.covers document = true ∧
    document.id = text ∧ (document ∈ solo.known ∨ key = .entity document)

theorem keepsUp_start (strategy : Strategy) (known : KnownState) (key : WatchKey)
    (since : Option Revno) : (start strategy known key since).KeepsUp key since := by
  have pending : ∀ text, text ∈ (start strategy known key since).subscription.mailbox.pending ↔
      text ∈ known.catchUp key since := by
    intro text
    refine (Mailbox.mem_pending_markAll rfl).trans (or_iff_left ?_)
    exact Std.ExtTreeSet.not_mem_empty
  refine ⟨rfl, fun _ => Mailbox.closed_markAll _ _, ?_, fun text listed => ?_⟩
  · intro document revision held covers due
    exact (pending _).mpr (KnownState.mem_catchUp_iff.mpr ⟨document, revision, held, covers, due, rfl⟩)
  · obtain ⟨document, revision, held, covers, -, same⟩ :=
      KnownState.mem_catchUp_iff.mp ((pending text).mp listed)
    refine ⟨document, covers, same, Or.inl ?_⟩
    show document ∈ known.revisions
    rw [Std.ExtTreeMap.mem_iff_isSome_getElem?, held, Option.isSome_some]

/-- What the mailbox and the known revisions make true stays true with them. -/
theorem KeepsUp.congr (keepsUp : solo.KeepsUp key since) {later : Solo}
    (sameKey : later.subscription.key = solo.subscription.key) (known : later.known = solo.known)
    (pending : later.subscription.mailbox.pending = solo.subscription.mailbox.pending)
    (isOpen : later.hasEnded = false → later.subscription.mailbox.closed = none) :
    later.KeepsUp key since where
  sameKey := sameKey.trans keepsUp.sameKey
  isOpen := isOpen
  due := by
    rw [known, pending]
    exact keepsUp.due
  reason := by
    rw [known, pending]
    exact keepsUp.reason

/-- **News that is due is marked, and of old news the mailbox has what is due already.** -/
theorem KeepsUp.receive_of_isAboutLog (keepsUp : solo.KeepsUp key since)
    (running : solo.hasEnded = false) (isAboutLog : event.isAboutLog = true) :
    (solo.receive event).KeepsUp key since := by
  have isOpen := keepsUp.isOpen running
  have pending : ∀ text,
      text ∈ (solo.subscription.mailbox.markAll (solo.marksOf event)).2.pending ↔
        text ∈ solo.marksOf event ∨ text ∈ solo.subscription.mailbox.pending :=
    fun _ => Mailbox.mem_pending_markAll isOpen
  obtain rfl := keepsUp.sameKey
  have learned := solo.receive_known isAboutLog
  rw [receive_eq isAboutLog] at learned ⊢
  refine ⟨rfl, fun _ => (Mailbox.closed_markAll _ _).trans isOpen, ?_, fun text listed => ?_⟩
  · intro document revision held covers due
    refine (pending _).mpr ?_
    by_cases news : document ∈ solo.known.newsIn event.changes
    · exact Or.inl (mem_marksOf_of_mem_newsIn isAboutLog covers news)
    · rw [learned] at held
      have before := (Revisions.getElem?_observeAll_of_not_mem_newsIn news).symm.trans held
      exact Or.inr (keepsUp.due document revision before covers due)
  · rw [learned]
    rcases (pending text).mp listed with marked | before
    · exact exists_of_mem_marksOf marked
    · obtain ⟨document, covers, same, reason⟩ := keepsUp.reason text before
      exact ⟨document, covers, same, reason.imp_left fun member => Revisions.mem_observeAll member _⟩

/-- The end of the watcher takes nothing out. -/
theorem KeepsUp.close (keepsUp : solo.KeepsUp key since) {reason : CloseReason}
    (unstopped : reason ≠ .stopped) : (solo.close reason).KeepsUp key since := by
  refine keepsUp.congr rfl rfl ?_ nofun
  cases closed : solo.subscription.mailbox.closed <;> cases reason <;>
    first | exact absurd rfl unstopped | simp [Solo.close, Mailbox.close, closed]

theorem KeepsUp.receive (keepsUp : solo.KeepsUp key since) (running : solo.hasEnded = false)
    (event : Event) : (solo.receive event).KeepsUp key since := by
  cases event with
  | primed _ | batch _ | discontinuity _ => exact keepsUp.receive_of_isAboutLog running rfl
  | cycleComplete _ | cycleAborted _ _ => exact keepsUp
  | fatal _ => exact keepsUp.close nofun

/-- A use that brings nothing has taken nothing out, unless it stopped the subscription. -/
theorem KeepsUp.used (keepsUp : solo.KeepsUp key since)
    (nothing : ∀ got ∈ solo.subscription.receipt? use, got.ids = ∅)
    (serving : (solo.subscription.use use).stopped = false) :
    (solo.see (.used use)).KeepsUp key since := by
  have kept : (solo.subscription.use use).mailbox = solo.subscription.mailbox := by
    cases solo.subscription.effect_use use with
    | keeps mailbox => exact mailbox
    | takes mailbox _ _ all =>
      obtain ⟨got, given, ids⟩ := all
      have empty := ids.symm.trans (nothing got given)
      rw [mailbox, ← empty]
    | stops _ _ stopped => exact absurd (serving.symm.trans stopped) Bool.false_ne_true
  refine keepsUp.congr (solo.subscription.key_use use) rfl (congrArg Mailbox.pending kept) ?_
  intro running
  exact (congrArg Mailbox.closed kept).trans (keepsUp.isOpen running)

/-! ## Runs -/

/-- **Whatever a subscription sees, it keeps up**, as long as nothing is taken and it is not stopped. -/
theorem KeepsUp.see (keepsUp : solo.KeepsUp key since)
    (nothing : ∀ got ∈ solo.receipt? sight, got.ids = ∅) (unstopped : sight ≠ .ended .stopped)
    (serving : (solo.see sight).subscription.stopped = false) :
    (solo.see sight).KeepsUp key since := by
  cases sight with
  | used use => exact keepsUp.used nothing serving
  | told event =>
    simp only [Solo.see]
    split
    · exact keepsUp
    · next running => exact keepsUp.receive (Bool.not_eq_true _ ▸ running) event
  | ended reason =>
    simp only [Solo.see]
    split
    · exact keepsUp
    · exact keepsUp.close fun same => unstopped (congrArg Sight.ended same)

/-- A subscription that is stopped stays so. -/
theorem serving_of_see (serving : (solo.see sight).subscription.stopped = false) :
    solo.subscription.stopped = false := by
  cases sight with
  | used use =>
    cases solo.subscription.effect_use use with
    | keeps _ stopped | takes _ stopped => exact stopped.symm.trans serving
    | stops _ before => exact before
  | told event =>
    simp only [Solo.see] at serving
    split at serving
    · exact serving
    · cases event with
      | primed _ | batch _ | discontinuity _ =>
        rw [receive_eq rfl] at serving
        exact serving
      | cycleComplete _ | cycleAborted _ _ | fatal _ => exact serving
  | ended reason =>
    simp only [Solo.see] at serving
    split at serving <;> exact serving

theorem serving_of_run {sights : List Sight} (serving : (solo.run sights).subscription.stopped = false) :
    solo.subscription.stopped = false := by
  induction sights generalizing solo with
  | nil => exact serving
  | cons sight rest ih => exact serving_of_see (ih serving)

theorem KeepsUp.run {sights : List Sight} (keepsUp : solo.KeepsUp key since)
    (nothing : ∀ got ∈ solo.receipts sights, got.ids = ∅)
    (unstopped : .ended .stopped ∉ sights)
    (serving : (solo.run sights).subscription.stopped = false) :
    (solo.run sights).KeepsUp key since := by
  induction sights generalizing solo with
  | nil => exact keepsUp
  | cons sight rest ih =>
    have now : ∀ got ∈ solo.receipt? sight, got.ids = ∅ := fun got given =>
      nothing got (List.mem_append_left _ (Option.mem_toList.mpr given))
    have later : ∀ got ∈ (solo.see sight).receipts rest, got.ids = ∅ := fun got given =>
      nothing got (List.mem_append_right _ given)
    have sees := keepsUp.see now (fun same => unstopped (same ▸ List.mem_cons_self))
      (serving_of_run serving)
    exact ih sees later (fun listed => unstopped (List.mem_cons_of_mem _ listed)) serving

end Solo

namespace Watcher

variable {id : SubscriptionId}

/-- What a subscription sees of the end is never that it was stopped. -/
theorem ended_stopped_not_mem_seen (occurrences : List Occurrence) :
    .ended .stopped ∉ occurrences.filterMap (·.seenBy id) := by
  intro listed
  obtain ⟨occurrence, -, seen⟩ := List.mem_filterMap.mp listed
  cases occurrence with
  | handled _ | polled => cases seen
  | asked input =>
    rcases Input.seen_cases seen with ⟨use, -, same⟩ | ⟨reason, closes, same⟩
    · cases same
    · cases same
      exact Input.closing?_ne_stopped closes rfl

/-- **Catching up and following leave no gap.** Let a subscription be opened after whatever has occurred
to a watcher. As long as its subscriber takes nothing and does not stop it, the ids of all documents
under its key are pending that are known as live, or known beyond the revision from which the subscriber
catches up. No id is pending but that of a document under the key which is known or watched singly. -/
theorem due_documents_pending (strategy : Strategy) (before : List Occurrence) (key : WatchKey)
    (since : Option Revno) (id : SubscriptionId)
    (opened : (((start strategy).run before).watch key since).1 = .ok id) (after : List Occurrence)
    (untouched : ∀ receipt ∈ receipts id (((start strategy).run before).watch key since).2 after,
      receipt.ids = ∅)
    (serving : ¬ ((((start strategy).run before).watch key since).2.run after).HasStopped id) :
    let watcher := (((start strategy).run before).watch key since).2.run after
    ∃ subscription, watcher.subscriptions[id]? = some subscription ∧
      (∀ document revision, watcher.known[document]? = some revision → key.covers document = true →
        (match since with
          | none => revision.removed = false
          | some seen => seen < revision.revno) →
        document.id ∈ subscription.mailbox.pending) ∧
      ∀ text ∈ subscription.mailbox.pending, ∃ document, key.covers document = true ∧
        document.id = text ∧ (document ∈ watcher.known ∨ key = .entity document) := by
  intro watcher
  have mirrors := mirrors_watch ((isTidy_start strategy).run before) opened
  have mirrored := mirrors.run after
  rw [mirrors.receipts_eq after] at untouched
  have keepsUp := (Solo.keepsUp_start _ _ key since).run untouched (ended_stopped_not_mem_seen after)
    (Bool.eq_false_iff.mpr fun stopped => serving ⟨_, mirrored.present, stopped⟩)
  refine ⟨_, mirrored.present, fun document revision held covers due => ?_, ?_⟩
  · refine keepsUp.due document revision (mirrored.known ▸ held) covers ?_
    cases since <;> simpa [Revision.isDue] using due
  · intro text listed
    obtain ⟨document, covers, same, reason⟩ := keepsUp.reason text listed
    exact ⟨document, covers, same, reason.imp_left fun member => mirrored.known ▸ member⟩

/-- A subscriber who has seen the pear live and takes nothing has its removal to expect, and the apple
when that changes. -/
theorem pear_and_apple_due :
    let apple : Document := ⟨"fruit", "apple"⟩
    let pear : Document := ⟨"fruit", "pear"⟩
    let before : List Occurrence := [.handled (.primed [.update apple 2, .removal pear 3])]
    let after : List Occurrence :=
      [.handled (.batch [.update apple 5]), .asked (.watch (.entity apple) none), .asked (.stop 2)]
    let watcher := (((start .snapshot).run before).watch (.collection "fruit") (some 3)).2.run after
    ∃ subscription, watcher.subscriptions[1]? = some subscription ∧
      "apple" ∈ subscription.mailbox.pending ∧ "pear" ∈ subscription.mailbox.pending := by
  have opened : (((start .snapshot).run [.handled (.primed [.update ⟨"fruit", "apple"⟩ 2,
      .removal ⟨"fruit", "pear"⟩ 3])]).watch (.collection "fruit") (some 3)).1 = .ok 1 := rfl
  intro apple pear before after watcher
  obtain ⟨subscription, present, due, -⟩ := due_documents_pending .snapshot before
    (.collection "fruit") (some 3) 1 opened after (fun _ given => absurd given List.not_mem_nil) (by decide)
  refine ⟨subscription, present, ?_, ?_⟩
  · exact due apple ⟨5, false⟩ (by decide) (by decide) (by decide)
  · exact due pear ⟨4, true⟩ (by decide) (by decide) (by decide)

end Watcher

end ChangeFeed
