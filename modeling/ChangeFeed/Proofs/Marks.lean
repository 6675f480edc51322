/-
# What an event does to the mailboxes

An event that brings changes has two effects on a watcher: its changes become known, and the
mailboxes of whoever is interested in their news are marked. `marksOf` names the marks before they
are made, and `receive_eq` says that the event has these two effects and no other.

From this comes the promise on which everything else rests: a change of which an event gives the
first knowledge is marked for every subscription that the registry has under a key of its document.
-/

import ChangeFeed.Proofs.KnownTable
import ChangeFeed.Watcher

namespace ChangeFeed

/-- The changes that an event brings to the watcher. -/
def Event.changes : Event → List Change
  | .primed changes => changes
  | .batch changes => changes
  | .discontinuity snapshot => Revisions.broughtBy snapshot
  | .cycleComplete _ | .cycleAborted _ _ | .fatal _ => []

/-- The event tells of the log and not of the poller. -/
def Event.isAboutLog : Event → Bool
  | .primed _ | .batch _ | .discontinuity _ => true
  | .cycleComplete _ | .cycleAborted _ _ | .fatal _ => false

/-! ## Marks in mailboxes -/

namespace Mailbox

theorem closed_markAll (mailbox : Mailbox) (ids : List String) :
    (mailbox.markAll ids).2.closed = mailbox.closed := by
  induction ids generalizing mailbox with
  | nil => rfl
  | cons id rest ih =>
    have first : (mailbox.mark id).2.closed = mailbox.closed := by
      unfold mark
      split <;> rfl
    exact (ih (mailbox.mark id).2).trans first

theorem close_close (mailbox : Mailbox) (reason later : CloseReason) :
    (mailbox.close reason).close later = mailbox.close reason := by
  cases closed : mailbox.closed with
  | some first => rw [close_of_closed closed, close_of_closed closed]
  | none => cases reason <;> simp [close, closed]

/-- Marks on an open mailbox add their ids and nothing else. -/
theorem mem_pending_markAll {mailbox : Mailbox} (isOpen : mailbox.closed = none)
    {ids : List String} {other : String} :
    other ∈ (mailbox.markAll ids).2.pending ↔ other ∈ ids ∨ other ∈ mailbox.pending := by
  induction ids generalizing mailbox with
  | nil => simp [markAll]
  | cons id rest ih =>
    have still : (mailbox.mark id).2.closed = none := by
      rw [show (mailbox.mark id).2 = (mailbox.markAll [id]).2 from rfl, closed_markAll, isOpen]
    have later := ih still
    rw [mem_pending_mark isOpen] at later
    rw [show (mailbox.markAll (id :: rest)).2 = ((mailbox.mark id).2.markAll rest).2 from rfl, later,
      List.mem_cons, ← or_assoc, or_comm (a := other ∈ rest)]

theorem markAll_append (mailbox : Mailbox) (first second : List String) :
    (mailbox.markAll (first ++ second)).2 = ((mailbox.markAll first).2.markAll second).2 := by
  induction first generalizing mailbox with
  | nil => rfl
  | cons id rest ih => exact ih (mailbox.mark id).2

theorem markAll_of_closed {mailbox : Mailbox} {reason : CloseReason}
    (closed : mailbox.closed = some reason) (ids : List String) :
    (mailbox.markAll ids).2 = mailbox := by
  induction ids with
  | nil => rfl
  | cons id rest ih =>
    show ((mailbox.mark id).2.markAll rest).2 = mailbox
    rwa [mark_of_closed closed]

/-- Neither the order of marks nor their number matters, and on a closed mailbox they do not matter
at all. -/
theorem markAll_congr {mailbox : Mailbox} {first second : List String}
    (same : mailbox.closed = none → ∀ text, text ∈ first ↔ text ∈ second) :
    (mailbox.markAll first).2 = (mailbox.markAll second).2 := by
  cases closed : mailbox.closed with
  | some reason => rw [markAll_of_closed closed, markAll_of_closed closed]
  | none =>
    have pending : (mailbox.markAll first).2.pending = (mailbox.markAll second).2.pending := by
      apply Std.ExtTreeSet.ext_mem
      intro text
      rw [mem_pending_markAll closed, mem_pending_markAll closed, same closed]
    have stays := (closed_markAll mailbox first).trans (closed_markAll mailbox second).symm
    show Mailbox.mk (mailbox.markAll first).2.pending (mailbox.markAll first).2.closed = _
    rw [pending, stays]

end Mailbox

namespace Subscriptions

/-- The documents that are marked for one subscription. -/
def marksIn (marks : List (SubscriptionId × String)) (id : SubscriptionId) : List String :=
  (marks.filter fun mark => mark.1 = id).map (·.2)

theorem mem_marksIn_iff {marks : List (SubscriptionId × String)} {id : SubscriptionId}
    {document : String} : document ∈ marksIn marks id ↔ (id, document) ∈ marks := by
  simp [marksIn]

theorem marksIn_cons (other id : SubscriptionId) (document : String)
    (marks : List (SubscriptionId × String)) :
    marksIn ((other, document) :: marks) id =
      if other = id then document :: marksIn marks id else marksIn marks id := by
  by_cases same : other = id <;> simp [marksIn, same]

theorem getElem?_mark (subscriptions : Subscriptions) (other id : SubscriptionId)
    (document : String) :
    (subscriptions.mark other document).2[id]? =
      if other = id then
        subscriptions[id]?.map fun subscription =>
          { subscription with mailbox := (subscription.mailbox.mark document).2 }
      else subscriptions[id]? := by
  unfold mark
  by_cases same : other = id
  · subst same
    cases found : subscriptions[other]? <;> simp [found]
  · cases found : subscriptions[other]? with
    | none => rw [if_neg same]
    | some there => simp [Std.ExtTreeMap.getElem?_insert, same]

/-- **Marks reach the mailboxes they name**, in order, and leave the rest of every subscription
alone. -/
theorem getElem?_markEach (subscriptions : Subscriptions) (marks : List (SubscriptionId × String))
    (id : SubscriptionId) :
    (subscriptions.markEach marks).2[id]? =
      subscriptions[id]?.map fun subscription =>
        { subscription with mailbox := (subscription.mailbox.markAll (marksIn marks id)).2 } := by
  induction marks generalizing subscriptions with
  | nil =>
    show subscriptions[id]? = _
    cases subscriptions[id]? <;> rfl
  | cons mark rest ih =>
    obtain ⟨other, document⟩ := mark
    have next := ih (subscriptions.mark other document).2
    rw [getElem?_mark] at next
    apply next.trans
    by_cases same : other = id
    · rw [if_pos same, marksIn_cons, if_pos same]
      cases subscriptions[id]? <;> rfl
    · rw [if_neg same, marksIn_cons, if_neg same]

theorem markEach_append (subscriptions : Subscriptions)
    (first second : List (SubscriptionId × String)) :
    (subscriptions.markEach (first ++ second)).2 =
      ((subscriptions.markEach first).2.markEach second).2 := by
  induction first generalizing subscriptions with
  | nil => rfl
  | cons mark rest ih => exact ih (subscriptions.mark mark.1 mark.2).2

/-- **A close reaches the mailboxes it names**; to close one of them twice is to close it once. -/
theorem getElem?_closeEach (subscriptions : Subscriptions) (ids : List SubscriptionId)
    (reason : CloseReason) (id : SubscriptionId) :
    (subscriptions.closeEach ids reason)[id]? =
      if id ∈ ids then
        subscriptions[id]?.map fun subscription =>
          { subscription with mailbox := subscription.mailbox.close reason }
      else subscriptions[id]? := by
  induction ids generalizing subscriptions with
  | nil => rfl
  | cons other rest ih =>
    apply (ih _).trans
    by_cases same : other = id
    · subst same
      simp only [Std.ExtTreeMap.getElem?_modify_self, Option.map_map, List.mem_cons_self, if_true]
      split
      · congr 1
        funext subscription
        simp only [Function.comp, Mailbox.close_close]
      · rfl
    · have different : id ≠ other := fun equal => same equal.symm
      simp only [Std.ExtTreeMap.getElem?_modify, Std.compare_eq_iff_eq, same, if_false, List.mem_cons,
        different, false_or]

end Subscriptions

/-! ## The marks of an event -/

namespace Watcher

variable {watcher : Watcher} {change : Change} {event : Event}

/-- What the watcher has seen of the log, as one table of documents. -/
def known (watcher : Watcher) : Revisions :=
  watcher.knownState.revisions

/-- The marks that changes cause when they are taken in, in order. -/
def marksOfNews (registry : Registry) (known : Revisions) :
    List Change → List (SubscriptionId × String)
  | [] => []
  | change :: rest =>
    (if known.isNews change then marksFor registry change.document else []) ++
      marksOfNews registry (known.observe change) rest

/-- The marks that an event causes. -/
def marksOf (watcher : Watcher) : Event → List (SubscriptionId × String)
  | .primed changes | .batch changes => marksOfNews watcher.registry watcher.known changes
  | .discontinuity snapshot =>
    let plan := (watcher.knownState.reconcile watcher.strategy snapshot).1
    plan.suspects.toList.flatMap (marksFor watcher.registry) ++
      if plan.allWatchedEntities then watcher.registry.entities else []
  | .cycleComplete _ | .cycleAborted _ _ | .fatal _ => []

/-- News is taken in and marked, and a replay changes nothing that is known. -/
theorem apply_eq (watcher : Watcher) (change : Change) :
    ∃ metrics, watcher.apply change =
      { watcher with
        knownState := (watcher.knownState.observe change).2
        subscriptions :=
          (watcher.subscriptions.markEach
            (if watcher.known.isNews change then marksFor watcher.registry change.document
            else [])).2
        metrics } := by
  refine ⟨(watcher.apply change).metrics, ?_⟩
  rw [known, KnownState.isNews_revisions, apply]
  generalize watcher.knownState.observe change = observed
  obtain ⟨isNews, knownState⟩ := observed
  cases isNews <;> rfl

theorem applyAll_eq (watcher : Watcher) (changes : List Change) :
    ∃ metrics, watcher.applyAll changes =
      { watcher with
        knownState := watcher.knownState.observeAll changes
        subscriptions :=
          (watcher.subscriptions.markEach
            (marksOfNews watcher.registry watcher.known changes)).2
        metrics } := by
  induction changes generalizing watcher with
  | nil => exact ⟨watcher.metrics, rfl⟩
  | cons change rest ih =>
    obtain ⟨metrics, taken⟩ := ih (watcher.apply change)
    obtain ⟨_, applied⟩ := watcher.apply_eq change
    refine ⟨metrics, taken.trans ?_⟩
    have learned : (watcher.apply change).known = watcher.known.observe change := by
      rw [applied]
      exact watcher.knownState.revisions_observe change
    rw [learned, applied, marksOfNews, Subscriptions.markEach_append]
    rfl

theorem reconcile_eq (watcher : Watcher) (snapshot : Option Snapshot) :
    ∃ metrics, watcher.reconcile snapshot =
      { watcher with
        knownState := watcher.knownState.observeAll (Revisions.broughtBy snapshot)
        subscriptions :=
          (watcher.subscriptions.markEach (watcher.marksOf (.discontinuity snapshot))).2
        metrics } := by
  refine ⟨(watcher.reconcile snapshot).metrics, ?_⟩
  rw [← KnownState.reconcile_known watcher.knownState watcher.strategy snapshot]
  rfl

/-- **An event about the log makes its changes known and its marks**, and does nothing else but
count. -/
theorem receive_eq (running : watcher.hasEnded = false) (event : Event)
    (isAboutLog : event.isAboutLog = true) :
    ∃ metrics, watcher.receive event =
      { watcher with
        knownState := watcher.knownState.observeAll event.changes
        subscriptions := (watcher.subscriptions.markEach (watcher.marksOf event)).2
        metrics } := by
  cases event with
  | primed changes | batch changes =>
    simpa [receive, running, Event.changes, marksOf] using watcher.applyAll_eq changes
  | discontinuity snapshot =>
    simpa [receive, running, Event.changes] using watcher.reconcile_eq snapshot
  | cycleComplete _ | cycleAborted _ _ | fatal _ => cases isAboutLog

/-- Whatever the event, its changes are taken in. -/
theorem receive_knownState (running : watcher.hasEnded = false) (event : Event) :
    (watcher.receive event).knownState = watcher.knownState.observeAll event.changes := by
  cases event with
  | primed changes =>
    obtain ⟨metrics, received⟩ := receive_eq running (.primed changes) rfl
    rw [received]
  | batch changes =>
    obtain ⟨metrics, received⟩ := receive_eq running (.batch changes) rfl
    rw [received]
  | discontinuity snapshot =>
    obtain ⟨metrics, received⟩ := receive_eq running (.discontinuity snapshot) rfl
    rw [received]
  | cycleComplete seq =>
    simp only [receive, running, Bool.false_eq_true, if_false, issue]
    split
    · rfl
    · split <;> rfl
  | cycleAborted _ _ | fatal _ => simp [receive, running, finish, Event.changes, KnownState.observeAll]

/-- Whatever the event, its changes are known afterwards, and nothing is forgotten. -/
theorem receive_known (running : watcher.hasEnded = false) (event : Event) :
    (watcher.receive event).known = watcher.known.observeAll event.changes := by
  rw [known, receive_knownState running, KnownState.revisions_observeAll]
  rfl

/-! ## Who is marked -/

theorem mem_marksOfNews {registry : Registry} {known : Revisions} {changes : List Change}
    {document : Document} {id : SubscriptionId} (news : document ∈ known.newsIn changes)
    (interested : id ∈ registry.matching document) :
    (id, document.id) ∈ marksOfNews registry known changes := by
  induction changes generalizing known with
  | nil => simp [Revisions.newsIn] at news
  | cons change rest ih =>
    rw [marksOfNews, List.mem_append]
    by_cases isNews : known.isNews change = true
    · simp only [Revisions.newsIn, isNews, if_true, Std.ExtTreeSet.mem_insert,
        Std.compare_eq_iff_eq] at news
      rcases news with rfl | later
      · apply Or.inl
        rw [if_pos isNews]
        exact List.mem_map.mpr ⟨id, interested, rfl⟩
      · exact Or.inr (ih later)
    · simp only [Revisions.newsIn, isNews, if_false, Bool.false_eq_true] at news
      exact Or.inr (ih news)

/-- **First knowledge is marked.** When an event teaches the watcher a change, it marks the
document's id for everyone whom the registry finds interested in the document. -/
theorem mem_marksOf_of_learned (unknown : ¬ watcher.known.Knows change)
    (learned : (watcher.known.observeAll event.changes).Knows change) {id : SubscriptionId}
    (interested : id ∈ watcher.registry.matching change.document) :
    (id, change.document.id) ∈ watcher.marksOf event := by
  cases event with
  | primed changes | batch changes =>
    exact mem_marksOfNews (Revisions.mem_newsIn_of_learned unknown learned) interested
  | discontinuity snapshot =>
    have suspected : change.document ∈
        (watcher.knownState.reconcile watcher.strategy snapshot).1.suspects :=
      KnownState.mem_suspects_of_learned unknown learned
    refine List.mem_append_left _ (List.mem_flatMap.mpr ⟨change.document, ?_, ?_⟩)
    · exact Std.ExtTreeSet.mem_toList.mpr suspected
    · exact List.mem_map.mpr ⟨id, interested, rfl⟩
  | cycleComplete _ | cycleAborted _ _ | fatal _ => exact absurd learned unknown

end Watcher

end ChangeFeed
