/-
# Removals

The removal of a live document is committed one step beyond the document's last revision, so that it is
news to whoever knows the whole history. A log decides on the number by its own table, and a watcher
decides by another one what is news. The two tables may differ on what they hold of a document, but not on
which revision numbers they have seen, and nothing else counts here.

A document that is live at the largest revision number has no step beyond. Its removal repeats the number,
and everybody takes it for a replay.
-/

import ChangeFeed.Proofs.Blanket
import ChangeFeed.Proofs.Maximum

namespace ChangeFeed

theorem Revno.lt_afterRemoval_iff {revno : Revno} :
    revno < revno.afterRemoval ↔ revno ≠ Int64.maxValue := by
  constructor
  · rintro beyond rfl
    exact absurd beyond (by decide)
  · exact lt_afterRemoval

namespace MemoryLog

variable {log : MemoryLog} {history : List Change} {document : Document} {revno : Revno}

/-! ## The table of a log -/

/-- **The revision table learns from what edits commit**, in whatever order the numbers come, and from
nothing else. -/
theorem knows_editAll_iff (log : MemoryLog) (edits : List Edit) (other : Change) :
    (log.editAll edits).revisions.Knows other ↔ log.revisions.Knows other ∨
      ∃ change ∈ log.committedBy edits, change.document = other.document ∧
        other.revno ≤ change.revno := by
  induction edits generalizing log with
  | nil => simp [editAll, committedBy]
  | cons edit rest ih =>
    have first := log.knows_edit_iff edit other
    apply (ih (log.edit edit)).trans
    rw [first, or_assoc]
    cases commits : log.committedBy? edit with
    | none => simp [committedBy, commits]
    | some change => simp [committedBy, commits]

/-- A revision number is beyond the history of a document exactly if the log does not know it. -/
theorem beyond_history_iff (supportsSnapshots : Bool) (edits : List Edit) (change : Change) :
    (∀ earlier ∈ (empty supportsSnapshots).committedBy edits,
        earlier.document = change.document → earlier.revno < change.revno) ↔
      ¬ ((empty supportsSnapshots).editAll edits).revisions.Knows change := by
  have nothing : ¬ (empty supportsSnapshots).revisions.Knows change :=
    Revisions.not_knows_iff.mpr (Revisions.isNews_empty change)
  simp only [knows_editAll_iff, nothing, false_or, not_exists, not_and, Int64.not_le]

theorem knows_iff_of_live (live : log.revisions[document]? = some ⟨revno, false⟩) (number : Revno)
    (removed : Bool) : log.revisions.Knows ⟨document, number, removed⟩ ↔ number ≤ revno := by
  rw [Revisions.knows_iff]
  simp [live]

/-- **A removal is beyond the history unless the revision numbers are used up.** -/
theorem beyond_history_removal_iff {supportsSnapshots : Bool} {edits : List Edit}
    (live : ((empty supportsSnapshots).editAll edits).revisions[document]? = some ⟨revno, false⟩) :
    (∀ earlier ∈ (empty supportsSnapshots).committedBy edits,
        earlier.document = document → earlier.revno < (Change.removal document revno).revno) ↔
      revno ≠ Int64.maxValue := by
  apply (beyond_history_iff supportsSnapshots edits (Change.removal document revno)).trans
  rw [← Revno.lt_afterRemoval_iff, ← Int64.not_le]
  exact not_congr (knows_iff_of_live live _ _)

theorem remove_eq_of_not_live (notLive : ∀ revno, log.revisions[document]? ≠ some ⟨revno, false⟩) :
    log.remove document = (none, log) := by
  rcases held : log.revisions[document]? with _ | ⟨revno, _ | _⟩
  · simp only [remove, held]
  · exact absurd held (notLive revno)
  · simp only [remove, held]

theorem committedBy?_remove_of_live (live : log.revisions[document]? = some ⟨revno, false⟩) :
    log.committedBy? (.remove document) = some (Change.removal document revno) := by
  simp only [committedBy?, live]

end MemoryLog

namespace Watcher

variable {watcher : Watcher} {id : SubscriptionId} {solo : Solo} {change : Change} {history : List Change}

/-! ## A change at a watcher -/

/-- To a watcher that has been told of a history, news is what goes beyond it. -/
theorem isNews_iff_of_told {strategy : Strategy} {occurrences : List Occurrence}
    (running : ((start strategy).run occurrences).hasEnded = false)
    (told : ∀ change, change ∈ Event.told (occurrences.filterMap (·.event?)) ↔ change ∈ history) :
    ((start strategy).run occurrences).known.isNews change = true ↔
      ∀ earlier ∈ history, earlier.document = change.document → earlier.revno < change.revno := by
  rw [known_run running]
  apply Revisions.isNews_observeAll_empty_iff.trans
  exact forall_congr' fun earlier => imp_congr_left (told earlier)

/-- A change that is known is counted, and that is all. -/
theorem receive_of_knows (running : watcher.hasEnded = false) (knows : watcher.known.Knows change) :
    watcher.receive (.batch [change]) =
      { watcher with
        metrics := { watcher.metrics with
          duplicateRecords := watcher.metrics.duplicateRecords + 1 } } := by
  have applied : watcher.receive (.batch [change]) = watcher.applyAll [change] := if_neg (by simp [running])
  rw [applied]
  exact applyAll_of_knows fun other listed => List.mem_singleton.mp listed ▸ knows

/-- A change that is news is what is held of its document from then on. -/
theorem getElem?_receive_of_isNews (running : watcher.hasEnded = false)
    (news : watcher.known.isNews change = true) :
    (watcher.receive (.batch [change])).known[change.document]? = some change.revision := by
  have learned : (watcher.receive (.batch [change])).known = watcher.known.observe change :=
    receive_known running _
  rw [learned, Revisions.getElem?_observe, if_pos ⟨rfl, news⟩]

/-- Whatever has occurred, each subscription there is has its solo. -/
theorem exists_mirrors {strategy : Strategy} {occurrences : List Occurrence} {subscription : Subscription}
    (present : ((start strategy).run occurrences).subscriptions[id]? = some subscription) :
    ∃ solo, Mirrors id ((start strategy).run occurrences) solo ∧ solo.subscription = subscription := by
  have itself := (underlies_start strategy).run occurrences
  obtain ⟨solo, _, mirrors, -, -⟩ := itself.served id (by rw [present]; exact Option.some_ne_none _)
  exact ⟨solo, mirrors, Option.some.inj (mirrors.present.symm.trans present)⟩

/-- **News of a document is pending wherever it is of interest.** -/
theorem Mirrors.pending_of_isNews (mirrors : Mirrors id watcher solo) (running : watcher.hasEnded = false)
    (news : watcher.known.isNews change = true) (isOpen : solo.subscription.mailbox.closed = none)
    (covers : solo.subscription.key.covers change.document = true) :
    ∃ marked, (watcher.receive (.batch [change])).subscriptions[id]? = some marked ∧
      marked.mailbox.closed = none ∧
      marked.mailbox.pending = solo.subscription.mailbox.pending.insert change.document.id := by
  have after := mirrors.told (.batch [change])
  have goesOn : solo.see (.told (.batch [change])) = solo.apply change :=
    if_neg (by simp [mirrors.hasEnded, running])
  have applied : solo.apply change =
      { solo with knownState := (solo.knownState.observe change).2 }.mark [change.document.id] := by
    have isNews : (solo.knownState.observe change).1 = true := by
      rw [mirrors.knownState, ← KnownState.isNews_revisions]
      exact news
    simp only [Solo.apply, isNews, covers, Bool.and_self, if_true]
  rw [goesOn, applied] at after
  refine ⟨_, after.present, (Mailbox.closed_markAll _ _).trans isOpen, ?_⟩
  apply Std.ExtTreeSet.ext_mem
  intro text
  apply (Mailbox.mem_pending_markAll isOpen).trans
  rw [List.mem_singleton, Std.ExtTreeSet.mem_insert, Std.compare_eq_iff_eq, eq_comm]

end Watcher

namespace MemoryLog

/-! ## A removal in the log and at a watcher -/

/-- **A removal is news unless the revision numbers are used up.** After any edits of a log, a document
that it does not hold as live is not removed, and the log stays as it is. The removal of a live document is
committed under a revision number that the history of the document has not reached, except if the document
is live at the largest one. And let a watcher run that has been told of the history so far. If the number
is new, then the watcher takes the removal in, holds the document as removed and has marked it for everyone
who is interested and not closed. If it is not, then the watcher counts a replay and does nothing else. -/
theorem removal_is_news_iff (supportsSnapshots : Bool) (edits : List Edit) (document : Document) :
    let log := (empty supportsSnapshots).editAll edits
    let history := (empty supportsSnapshots).committedBy edits
    ((∀ revno, log.revisions[document]? ≠ some ⟨revno, false⟩) → log.remove document = (none, log)) ∧
      ∀ revno, log.revisions[document]? = some ⟨revno, false⟩ →
        let removal := Change.removal document revno
        (log.remove document).1 = some removal.revno ∧
          (empty supportsSnapshots).committedBy (edits ++ [.remove document]) = history ++ [removal] ∧
          ((∀ earlier ∈ history, earlier.document = document → earlier.revno < removal.revno) ↔
            revno ≠ Int64.maxValue) ∧
          ∀ (strategy : Strategy) (occurrences : List Watcher.Occurrence),
            let watcher := (Watcher.start strategy).run occurrences
            let after := watcher.receive (.batch [removal])
            watcher.hasEnded = false →
            (∀ change, change ∈ Event.told (occurrences.filterMap (·.event?)) ↔ change ∈ history) →
            ((watcher.knownState.observe removal).1 = true ↔ revno ≠ Int64.maxValue) ∧
              (revno ≠ Int64.maxValue →
                after.known[document]? = some ⟨removal.revno, true⟩ ∧
                  ∀ (id : SubscriptionId) subscription, watcher.subscriptions[id]? = some subscription →
                    subscription.mailbox.closed = none → subscription.key.covers document = true →
                    ∃ marked, after.subscriptions[id]? = some marked ∧ marked.mailbox.closed = none ∧
                      marked.mailbox.pending = subscription.mailbox.pending.insert document.id) ∧
              (revno = Int64.maxValue → after =
                { watcher with
                  metrics := { watcher.metrics with
                    duplicateRecords := watcher.metrics.duplicateRecords + 1 } }) := by
  intro log history
  refine ⟨remove_eq_of_not_live, ?_⟩
  intro revno live removal
  have commits : log.committedBy? (.remove document) = some removal := committedBy?_remove_of_live live
  have beyond : (∀ earlier ∈ history, earlier.document = document → earlier.revno < removal.revno) ↔
      revno ≠ Int64.maxValue := beyond_history_removal_iff live
  refine ⟨?_, ?_, beyond, ?_⟩
  · simp only [remove, live]
    rfl
  · rw [committedBy_append]
    simp only [committedBy, List.append_nil]
    exact congrArg (fun change => history ++ Option.toList change) commits
  · intro strategy occurrences watcher after running told
    have isNews : watcher.known.isNews removal = true ↔ revno ≠ Int64.maxValue :=
      (Watcher.isNews_iff_of_told running told).trans beyond
    refine ⟨KnownState.isNews_revisions _ _ ▸ isNews, fun below => ⟨?_, ?_⟩, fun largest => ?_⟩
    · exact Watcher.getElem?_receive_of_isNews running (isNews.mpr below)
    · intro id subscription present isOpen covers
      obtain ⟨solo, mirrors, rfl⟩ := Watcher.exists_mirrors present
      exact mirrors.pending_of_isNews running (isNews.mpr below) isOpen covers
    · have replay : watcher.known.isNews removal = false :=
        Bool.eq_false_iff.mpr (mt isNews.mp (not_not_intro largest))
      exact Watcher.receive_of_knows running replay

/-- An apple comes back with a higher number, and is removed under the next one. Whoever has heard of it
in another order is told. -/
theorem apple_removed_once_more :
    let apple : Document := ⟨"fruit", "apple"⟩
    let edits : List Edit :=
      [.append (.update apple (-5)), .append ⟨apple, 7, true⟩, .append (.update apple 3), .upsert apple]
    let log := (empty false).editAll edits
    let watcher := (Watcher.start .snapshot).run
      [.asked (.watch (.collection "fruit") none), .handled (.batch [.update apple 8, .update apple 3]),
        .asked (.changes 1), .handled (.batch [.update apple (-5), ⟨apple, 7, true⟩])]
    let after := watcher.receive (.batch [.removal apple 8])
    log.revisions[apple]? = some ⟨8, false⟩ ∧ watcher.hasEnded = false ∧
      (log.remove apple).1 = some 9 ∧ after.known[apple]? = some ⟨9, true⟩ ∧
      ∃ marked, after.subscriptions[1]? = some marked ∧ "apple" ∈ marked.mailbox.pending := by
  intro apple edits log watcher after
  have live : log.revisions[apple]? = some ⟨8, false⟩ := by decide
  have running : watcher.hasEnded = false := by decide
  have told : [Change.update apple 8, .update apple 3, .update apple (-5), ⟨apple, 7, true⟩].Perm
      ((empty false).committedBy edits) := by decide
  obtain ⟨removed, -, -, heard⟩ := (removal_is_news_iff false edits apple).2 8 live
  obtain ⟨-, news, -⟩ := heard .snapshot _ running fun _ => told.mem_iff
  obtain ⟨known, marks⟩ := news (by decide)
  have serves : (watcher.subscriptions[1]?).map (fun subscription =>
      (subscription.key, subscription.mailbox.closed)) = some (.collection "fruit", none) := by decide
  obtain ⟨subscription, served, same⟩ := Option.map_eq_some_iff.mp serves
  obtain ⟨key, isOpen⟩ := Prod.mk.inj same
  have covers : subscription.key.covers apple = true := by rw [key]; rfl
  obtain ⟨marked, present, -, pending⟩ := marks 1 subscription served isOpen covers
  refine ⟨live, running, removed, known, marked, present, ?_⟩
  rw [pending]
  exact Std.ExtTreeSet.mem_insert_self

/-- The removal of an apple at the largest revision number is a replay: it stays live at the watcher, and
nothing is pending. -/
theorem last_apple_never_removed :
    let apple : Document := ⟨"fruit", "apple"⟩
    let last := Change.update apple Int64.maxValue
    let log := (empty false).append last
    let watcher := (Watcher.start .snapshot).run
      [.asked (.watch (.collection "fruit") none), .handled (.batch [last]), .asked (.changes 1)]
    let after := watcher.receive (.batch [.removal apple Int64.maxValue])
    log.revisions[apple]? = some ⟨Int64.maxValue, false⟩ ∧
      (log.remove apple).1 = some Int64.maxValue ∧
      (log.remove apple).2.entries.map (·.change) = [last, .removal apple Int64.maxValue] ∧
      (watcher.knownState.observe (.removal apple Int64.maxValue)).1 = false ∧
      after.known[apple]? = some ⟨Int64.maxValue, false⟩ ∧
      (after.changes 1).1.toList = [] := by
  decide

end MemoryLog

end ChangeFeed
