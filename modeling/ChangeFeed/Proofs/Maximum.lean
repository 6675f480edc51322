/-
# The greatest revisions seen

What starts empty holds, of every document, the first change of the greatest revision number among all
that it has seen, and has counted the documents. So it answers for the whole list of changes: what is news
is what goes beyond all of them, what has been seen before is nothing new in any order and however often,
and the order of the list itself matters only where two changes of one revision disagree on whether the
document is removed.

A watcher that is handed such replays counts them, and that is all.
-/

import ChangeFeed.Proofs.Priming
import ChangeFeed.Proofs.Snapshots
import Mathlib.Data.List.Dedup

namespace ChangeFeed

namespace Revisions

variable {known : Revisions} {changes : List Change} {change : Change} {document : Document}
  {revision : Revision}

/-! ## One document -/

/-- **News is what goes beyond every change of the document seen before.** -/
theorem isNews_observeAll_empty_iff :
    (observeAll ∅ changes).isNews change = true ↔
      ∀ earlier ∈ changes, earlier.document = change.document → earlier.revno < change.revno := by
  rw [← not_knows_iff]
  constructor
  · intro unknown earlier listed same
    apply Int64.not_le.mp
    intro reached
    exact unknown ((knows_observeAll_of_mem ∅ listed).of_le same.symm reached)
  · intro beyond knows
    rcases knows.of_observeAll with before | ⟨earlier, listed, same, reached⟩
    · exact not_knows_iff.mpr (isNews_empty change) before
    · exact Int64.not_le.mpr (beyond earlier listed same) reached

/-- What a table that started empty holds of a document is brought by a change. -/
theorem getElem?_observeAll_empty_iff :
    (observeAll ∅ changes)[document]? = some revision ↔
      ∃ (before : List Change) (change : Change) (after : List Change),
        changes = before ++ change :: after ∧ change.document = document ∧ change.revision = revision ∧
        (∀ earlier ∈ before, earlier.document = document → earlier.revno < change.revno) ∧
        ∀ later ∈ after, later.document = document → later.revno ≤ change.revno := by
  rw [getElem?_observeAll_eq_some_iff]
  constructor
  · intro newest
    cases newest with
    | held held _ => simp at held
    | brought before change after split same revision_eq _ first most =>
      subst revision_eq
      exact ⟨before, change, after, split, same, rfl, first, most⟩
  · rintro ⟨before, change, after, split, same, rfl, first, most⟩
    exact .brought before change after split same rfl (by simp) first most

theorem mem_observeAll_empty_iff :
    document ∈ observeAll ∅ changes ↔ document ∈ changes.map (·.document) := by
  rw [List.mem_map]
  constructor
  · intro member
    exact (exists_of_mem_observeAll member).resolve_left Std.ExtTreeMap.not_mem_empty
  · rintro ⟨change, listed, rfl⟩
    exact (knows_observeAll_of_mem ∅ listed).mem

/-! ## Orders -/

/-- Changes of one document and one revision number agree on whether it is removed. -/
def Agree (changes : List Change) : Prop :=
  ∀ first ∈ changes, ∀ second ∈ changes, first.document = second.document →
    first.revno = second.revno → first.removed = second.removed

instance (changes : List Change) : Decidable (Agree changes) :=
  inferInstanceAs (Decidable (∀ first ∈ changes, ∀ second ∈ changes, _ → _ → _))

/-- Where changes agree, their order makes no difference to what is held of a document. -/
theorem Agree.getElem?_observeAll_iff (agree : Agree changes) :
    (observeAll ∅ changes)[document]? = some revision ↔
      (∃ change ∈ changes, change.document = document ∧ change.revision = revision) ∧
        ∀ other ∈ changes, other.document = document → other.revno ≤ revision.revno := by
  constructor
  · intro held
    obtain ⟨before, change, after, rfl, same, rfl, first, most⟩ := getElem?_observeAll_empty_iff.mp held
    refine ⟨⟨change, by simp, same, rfl⟩, fun other listed here => ?_⟩
    rcases List.mem_append.mp listed with earlier | listed
    · exact Int64.le_of_lt (first other earlier here)
    · rcases List.mem_cons.mp listed with rfl | later
      · exact Int64.le_refl _
      · exact most other later here
  · rintro ⟨⟨change, listed, rfl, rfl⟩, most⟩
    obtain ⟨held, present, reached⟩ := knows_iff.mp (knows_observeAll_of_mem ∅ listed)
    obtain ⟨before, brings, after, split, same, rfl, -, -⟩ := getElem?_observeAll_empty_iff.mp present
    have member : brings ∈ changes := by simp [split]
    have number : brings.revno = change.revno := Int64.le_antisymm (most brings member same) reached
    have flag := agree brings member change listed same number
    rw [present]
    simp [Change.revision, number, flag]

theorem Agree.observeAll_perm (agree : Agree changes) {other : List Change} (perm : changes.Perm other) :
    observeAll ∅ other = observeAll ∅ changes := by
  have agreeOther : Agree other := by
    intro first firstListed second secondListed
    exact agree first (perm.mem_iff.mpr firstListed) second (perm.mem_iff.mpr secondListed)
  apply Std.ExtTreeMap.ext_getElem?
  intro document
  apply Option.ext
  intro revision
  rw [agree.getElem?_observeAll_iff, agreeOther.getElem?_observeAll_iff]
  simp only [perm.mem_iff]

end Revisions

namespace KnownState

/-- **The documents are those of the changes, each once.** -/
theorem perm_documents_observeAll_empty (changes : List Change) :
    (observeAll {} changes).documents.Perm (changes.map (·.document)).dedup := by
  apply (List.perm_ext_iff_of_nodup (nodup_documents _) (List.nodup_dedup _)).mpr
  intro document
  rw [List.mem_dedup, ← Revisions.mem_observeAll_empty_iff, mem_documents_iff_mem,
    revisions_observeAll, revisions_empty]

/-- **The count is the number of the documents.** -/
theorem size_observeAll_empty (changes : List Change) :
    (observeAll {} changes).size = (changes.map (·.document)).dedup.length :=
  (isSound_empty.observeAll changes).counted.trans (perm_documents_observeAll_empty changes).length_eq

end KnownState

namespace Watcher

variable {watcher : Watcher} {changes : List Change}

/-! ## Replays to a watcher -/

/-- **Replays are counted, and that is all.** -/
theorem applyAll_of_knows (knows : ∀ change ∈ changes, watcher.known.Knows change) :
    watcher.applyAll changes =
      { watcher with
        metrics := { watcher.metrics with
          duplicateRecords := watcher.metrics.duplicateRecords + changes.length } } := by
  induction changes generalizing watcher with
  | nil => rfl
  | cons change rest ih =>
    obtain ⟨now, later⟩ := List.forall_mem_cons.mp knows
    have stale : watcher.knownState.observe change = (false, watcher.knownState) :=
      KnownState.observe_of_knows now
    have counted : watcher.apply change =
        { watcher with
          metrics := { watcher.metrics with
            duplicateRecords := watcher.metrics.duplicateRecords + 1 } } := by
      rw [apply, stale]
    show (watcher.apply change).applyAll rest = _
    rw [counted]
    refine Eq.trans (ih later) ?_
    rw [List.length_cons, Nat.add_assoc, Nat.add_comm 1]

theorem receiveAll_of_knows {batches : List (List Change)}
    (knows : watcher.hasEnded = false →
      ∀ batch ∈ batches, ∀ change ∈ batch, watcher.known.Knows change) :
    ∃ duplicates, watcher.receiveAll (batches.map .batch) =
      { watcher with metrics := { watcher.metrics with duplicateRecords := duplicates } } := by
  induction batches generalizing watcher with
  | nil => exact ⟨_, rfl⟩
  | cons batch rest ih =>
    show ∃ duplicates, (watcher.receive (.batch batch)).receiveAll (rest.map .batch) = _
    cases ended : watcher.hasEnded with
    | true =>
      rw [show watcher.receive (.batch batch) = watcher from if_pos ended]
      exact ih fun running => absurd (running.symm.trans ended) Bool.false_ne_true
    | false =>
      obtain ⟨now, later⟩ := List.forall_mem_cons.mp (knows ended)
      have counted : watcher.receive (.batch batch) = watcher.applyAll batch := if_neg (by simp [ended])
      rw [counted, applyAll_of_knows now]
      exact ih fun _ => later

/-- What a running watcher was told, it knows. -/
theorem knows_run_of_told {occurrences : List Occurrence}
    (running : (watcher.run occurrences).hasEnded = false) {change : Change}
    (told : change ∈ Event.told (occurrences.filterMap (·.event?))) :
    (watcher.run occurrences).known.Knows change := by
  rw [known_run running]
  exact Revisions.knows_observeAll_of_mem _ told

/-! ## The count of a watcher -/

/-- Whatever occurs to a watcher, its documents stay counted. -/
theorem isSound_knownState_run (sound : watcher.knownState.IsSound) (occurrences : List Occurrence) :
    (watcher.run occurrences).knownState.IsSound := by
  induction occurrences generalizing watcher with
  | nil => exact sound
  | cons occurrence rest ih =>
    apply ih
    cases occurrence with
    | polled => exact sound
    | asked input => exact (watcher.take_frame input).1 ▸ sound
    | handled event =>
      show (watcher.receive event).knownState.IsSound
      cases ended : watcher.hasEnded with
      | true => rwa [show watcher.receive event = watcher from if_pos ended]
      | false =>
        rw [receive_knownState ended]
        exact sound.observeAll event.changes

/-- **A watcher says truly how many documents it knows.** -/
theorem knownDocuments_run (strategy : Strategy) (occurrences : List Occurrence) :
    let watcher := (start strategy).run occurrences
    watcher.stats.knownDocuments = watcher.knownState.documents.length :=
  (isSound_knownState_run KnownState.isSound_empty occurrences).counted

end Watcher

namespace KnownState

/-- **What is known is the maximum of what has been seen.** Let nothing be known, and let some changes be
observed. A change is news then exactly if it goes beyond every earlier change of its document. What is
held of a document is the first change that reaches the greatest revision number. The count is the number
of the documents that the changes have, and each of them is listed once. Changes that have been observed
are no news again, in whatever order and however often they come, and they change nothing; a watcher that
is handed them in batches counts them and does nothing else. And where changes of one document and one
revision number agree on whether it is removed, the order of the changes makes no difference. -/
theorem observed_is_maximum_of_seen (changes : List Change) :
    let known := observeAll {} changes
    (∀ change, (known.observe change).1 = true ↔
        ∀ earlier ∈ changes, earlier.document = change.document → earlier.revno < change.revno) ∧
      (∀ document revision, known.get? document = some revision ↔
        ∃ (before : List Change) (change : Change) (after : List Change),
          changes = before ++ change :: after ∧ change.document = document ∧ change.revision = revision ∧
          (∀ earlier ∈ before, earlier.document = document → earlier.revno < change.revno) ∧
          ∀ later ∈ after, later.document = document → later.revno ≤ change.revno) ∧
      known.size = (changes.map (·.document)).dedup.length ∧
      ((known.docs.map (·.1)).Perm (changes.map (·.document)).dedup ∧
        ∀ document revision, (document, revision) ∈ known.docs ↔ known.get? document = some revision) ∧
      (∀ replays, (∀ change ∈ replays, change ∈ changes) → known.observeAll replays = known ∧
        ∀ (before : List Change) (change : Change) (after : List Change),
          replays = before ++ change :: after →
          (known.observeAll before).observe change = (false, known)) ∧
      (∀ (first : Watcher) (occurrences : List Watcher.Occurrence) (batches : List (List Change)),
        let last := first.run occurrences
        (∀ batch ∈ batches, ∀ change ∈ batch,
            change ∈ Event.told (occurrences.filterMap (·.event?))) →
          ∃ duplicates, last.receiveAll (batches.map .batch) =
            { last with metrics := { last.metrics with duplicateRecords := duplicates } }) ∧
      ∀ other, changes.Perm other → Revisions.Agree changes → observeAll {} other = known := by
  intro known
  have table : known.revisions = Revisions.observeAll ∅ changes := by
    rw [revisions_observeAll, revisions_empty]
  have knows : ∀ change ∈ changes, known.revisions.Knows change := by
    intro change listed
    rw [table]
    exact Revisions.knows_observeAll_of_mem ∅ listed
  refine ⟨fun change => ?_, fun document revision => ?_, size_observeAll_empty changes,
    ⟨perm_documents_observeAll_empty changes, fun _ _ => mem_docs_iff⟩, ?_, ?_, ?_⟩
  · rw [← isNews_revisions, table]
    exact Revisions.isNews_observeAll_empty_iff
  · rw [← getElem?_revisions, table]
    exact Revisions.getElem?_observeAll_empty_iff
  · intro replays seen
    refine ⟨observeAll_of_knows fun change listed => knows change (seen change listed), ?_⟩
    rintro before change after rfl
    have earlier : ∀ other ∈ before, known.revisions.Knows other :=
      fun other listed => knows other (seen other (List.mem_append_left _ listed))
    rw [observeAll_of_knows earlier]
    exact observe_of_knows (knows change (seen change (by simp)))
  · intro first occurrences batches last told
    exact Watcher.receiveAll_of_knows fun running batch listed change inside =>
      Watcher.knows_run_of_told running (told batch listed change inside)
  · intro other perm agree
    exact observeAll_empty_congr (agree.observeAll_perm perm)

/-- A removal that comes twice, and late, is one removal. -/
example :
    let apple : Document := ⟨"fruit", "apple"⟩
    let known := observeAll {} [.removal apple 4, .update apple 3, .removal apple 4, .update apple (-2)]
    known.get? apple = some ⟨5, true⟩ ∧ known.size = 1 := by
  decide

end KnownState

end ChangeFeed
