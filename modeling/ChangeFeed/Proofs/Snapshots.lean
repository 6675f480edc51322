/-
# What a snapshot makes of the known revisions

A snapshot may list its changes in any order, several of one document among them, and stale ones. The
precise strategy takes them in one after the other and looks afterwards for what is missing. `IsNewest`
says what comes of that for one document, without an order of events: the known revision stands unless
the snapshot has one beyond it, and then the first of the greatest number takes its place.

What the snapshot lacks is reported and otherwise left as it was. So whoever subscribes afterwards
catches up on it as if it were still there, and the next reconciliation reports it anew.
-/

import ChangeFeed.Proofs.CatchUp

namespace ChangeFeed

namespace Revisions

variable {known : Revisions} {changes : List Change} {change : Change} {document : Document}
  {revision : Revision}

/-! ## The newest revision -/

/-- The newest revision of a document, among what is known and some changes. -/
inductive IsNewest (known : Revisions) (changes : List Change) (document : Document)
    (revision : Revision) : Prop where
  /-- It is known, and no change goes beyond it. -/
  | held (held : known[document]? = some revision)
      (most : ∀ change ∈ changes, change.document = document → change.revno ≤ revision.revno)
  /-- A change brings it, as the first to reach the greatest number. -/
  | brought (before : List Change) (change : Change) (after : List Change)
      (changes_eq : changes = before ++ change :: after) (same : change.document = document)
      (revision_eq : change.revision = revision)
      (beyond : ∀ old, known[document]? = some old → old.revno < revision.revno)
      (first : ∀ earlier ∈ before, earlier.document = document → earlier.revno < revision.revno)
      (most : ∀ later ∈ after, later.document = document → later.revno ≤ revision.revno)

theorem isNews_iff :
    known.isNews change = true ↔
      ∀ old, known[change.document]? = some old → old.revno < change.revno := by
  unfold isNews
  cases known[change.document]? with
  | none => simp
  | some old => simp

/-- What is newest once a change has been taken in was newest with the change still to come. -/
theorem IsNewest.of_observe (newest : (known.observe change).IsNewest changes document revision) :
    known.IsNewest (change :: changes) document revision := by
  have taken := getElem?_observe known change document
  cases newest with
  | held held most =>
    rw [held] at taken
    split at taken
    · next news =>
      cases taken
      exact .brought [] change changes rfl news.1 rfl (news.1 ▸ isNews_iff.mp news.2) nofun most
    · next stale =>
      apply IsNewest.held taken.symm
      intro other listed same
      rcases List.mem_cons.mp listed with rfl | later
      · apply Int64.not_lt.mp
        intro beyond
        apply stale
        refine ⟨same, isNews_iff.mpr ?_⟩
        intro old found
        cases (same ▸ found).symm.trans taken.symm
        exact beyond
      · exact most other later same
  | brought before brings after changes_eq same revision_eq beyond first most =>
    subst changes_eq revision_eq
    -- the change taken in is known by now, so the newest one, which goes beyond what is known, beats it
    have later : change.document = document → change.revno < brings.revno := by
      intro here
      have knows := knows_observe_self known change
      obtain ⟨old, found, reached⟩ := knows_iff.mp knows
      exact Int64.lt_of_le_of_lt reached (beyond old (here ▸ found))
    apply IsNewest.brought (change :: before) brings after rfl same rfl
    · intro old found
      by_cases replaced : change.document = document ∧ known.isNews change = true
      · have older := isNews_iff.mp replaced.2 old (replaced.1 ▸ found)
        exact Int64.lt_trans older (later replaced.1)
      · rw [if_neg replaced, found] at taken
        exact beyond old taken
    · intro earlier listed here
      rcases List.mem_cons.mp listed with rfl | rest
      · exact later here
      · exact first earlier rest here
    · exact most

/-- And the other way round. -/
theorem IsNewest.observe (newest : known.IsNewest (change :: changes) document revision) :
    (known.observe change).IsNewest changes document revision := by
  have taken := getElem?_observe known change document
  cases newest with
  | held held most =>
    have stale : ¬ (change.document = document ∧ known.isNews change = true) := by
      rintro ⟨same, news⟩
      have beyond := isNews_iff.mp news revision (same ▸ held)
      exact Int64.not_le.mpr beyond (most change List.mem_cons_self same)
    rw [if_neg stale] at taken
    apply IsNewest.held (taken.trans held)
    intro other listed
    exact most other (List.mem_cons_of_mem _ listed)
  | brought before brings after changes_eq same revision_eq beyond first most =>
    subst revision_eq
    cases before with
    | nil =>
      cases changes_eq
      have news : known.isNews change = true := isNews_iff.mpr (same ▸ beyond)
      rw [if_pos ⟨same, news⟩] at taken
      exact .held taken most
    | cons head before =>
      cases changes_eq
      apply IsNewest.brought before brings after rfl same rfl _
        (fun earlier listed => first earlier (List.mem_cons_of_mem _ listed)) most
      intro old found
      rw [found] at taken
      split at taken
      · next replaced =>
        cases taken
        exact first change List.mem_cons_self replaced.1
      · exact beyond old taken.symm

/-- **What is known after changes have been taken in is the newest revision of every document.** -/
theorem getElem?_observeAll_eq_some_iff :
    (known.observeAll changes)[document]? = some revision ↔
      known.IsNewest changes document revision := by
  induction changes generalizing known with
  | nil =>
    constructor
    · intro held
      exact .held held nofun
    · intro newest
      cases newest with
      | held held _ => exact held
      | brought before _ _ changes_eq => cases before <;> cases changes_eq
  | cons change rest ih =>
    have later : ((known.observe change).observeAll rest)[document]? = some revision ↔
        (known.observe change).IsNewest rest document revision := ih
    exact later.trans ⟨IsNewest.of_observe, IsNewest.observe⟩

/-- What none of the changes is about stays as it is. -/
theorem getElem?_observeAll_of_absent
    (absent : ∀ change ∈ changes, change.document ≠ document) :
    (known.observeAll changes)[document]? = known[document]? := by
  apply getElem?_observeAll_of_not_mem_newsIn
  intro news
  obtain ⟨change, listed, same, -⟩ := mem_newsIn_iff.mp news
  exact absent change listed same

/-! ## What is suspected -/

theorem mem_documentsOf_iff :
    document ∈ documentsOf changes ↔ ∃ change ∈ changes, change.document = document := by
  have gathered : ∀ documents : DocumentSet,
      document ∈ changes.foldl (fun documents change => documents.insert change.document) documents ↔
        document ∈ documents ∨ ∃ change ∈ changes, change.document = document := by
    induction changes with
    | nil => simp
    | cons change rest ih =>
      intro documents
      apply (ih (documents.insert change.document)).trans
      simp only [Std.ExtTreeSet.mem_insert, Std.compare_eq_iff_eq, List.mem_cons, exists_eq_or_imp]
      rw [or_comm (a := change.document = document), or_assoc]
  apply (gathered ∅).trans
  exact or_iff_right Std.ExtTreeSet.not_mem_empty

end Revisions

namespace KnownState

variable {known : KnownState} {changes : List Change} {document : Document} {snapshot : Snapshot}
  {key : WatchKey}

/-- The documents that a snapshot lacks although they are known as live. -/
theorem mem_liveOutside_documentsOf_iff :
    document ∈ (known.observeAll changes).liveOutside (documentsOf changes) ↔
      ∃ old, known.get? document = some old ∧ old.removed = false ∧
        ∀ change ∈ changes, change.document ≠ document := by
  have absent : document ∉ documentsOf changes ↔ ∀ change ∈ changes, change.document ≠ document := by
    simp [Revisions.mem_documentsOf_iff]
  have stays : (∀ change ∈ changes, change.document ≠ document) →
      (known.observeAll changes).get? document = known.get? document := by
    intro lacking
    rw [← getElem?_revisions, revisions_observeAll, Revisions.getElem?_observeAll_of_absent lacking,
      getElem?_revisions]
  rw [mem_liveOutside_iff, absent]
  constructor
  · rintro ⟨revision, held, live, lacking⟩
    exact ⟨revision, (stays lacking).symm.trans held, live, lacking⟩
  · rintro ⟨old, held, live, lacking⟩
    exact ⟨old, (stays lacking).trans held, live, lacking⟩

/-- **The precise strategy suspects what a snapshot has news of, and what it lacks.** -/
theorem mem_suspects_snapshot_iff :
    document ∈ (known.reconcile .snapshot (some snapshot)).1.suspects ↔
      (∃ change ∈ snapshot.changes, change.document = document ∧
          (known.get? document = none ∨
            ∃ old, known.get? document = some old ∧ old.revno < change.revno)) ∨
        ∃ old, known.get? document = some old ∧ old.removed = false ∧
          ∀ change ∈ snapshot.changes, change.document ≠ document := by
  have news : document ∈ known.revisions.newsIn snapshot.changes ↔
      ∃ change ∈ snapshot.changes, change.document = document ∧
        (known.get? document = none ∨
          ∃ old, known.get? document = some old ∧ old.revno < change.revno) := by
    rw [Revisions.mem_newsIn_iff]
    apply exists_congr
    intro change
    apply and_congr_right
    intro _
    apply and_congr_right
    rintro rfl
    rw [Revisions.not_knows_iff, Revisions.isNews_iff, getElem?_revisions]
    cases known.get? change.document with
    | none => simp
    | some old => simp
  rw [← news, ← mem_liveOutside_documentsOf_iff]
  exact mem_suspects_reconcilePrecise_iff

/-- What a snapshot lacks is suspected exactly if it is known as live. -/
theorem mem_suspects_iff_of_absent
    (absent : ∀ change ∈ snapshot.changes, change.document ≠ document) :
    document ∈ (known.reconcile .snapshot (some snapshot)).1.suspects ↔
      ∃ old, known.get? document = some old ∧ old.removed = false := by
  rw [mem_suspects_snapshot_iff]
  constructor
  · rintro (⟨change, listed, same, -⟩ | ⟨old, held, live, -⟩)
    · exact absurd same (absent change listed)
    · exact ⟨old, held, live⟩
  · rintro ⟨old, held, live⟩
    exact Or.inr ⟨old, held, live, absent⟩

/-- **The precise strategy is exact.** It suspects the documents of which the snapshot has a revision
that is not known or beyond the known one, and the documents known as live of which it has none, and no
others. Of every document the newest revision is known afterwards: the known one if the snapshot has
none beyond it, and else the first of the greatest number in the snapshot. No document is forgotten and
no revision number falls. -/
theorem reconcile_snapshot_exact (known : KnownState) (snapshot : Snapshot) :
    let plan := (known.reconcile .snapshot (some snapshot)).1
    let updated := (known.reconcile .snapshot (some snapshot)).2
    (∀ document, document ∈ plan.suspects ↔
        (∃ change ∈ snapshot.changes, change.document = document ∧
            (known.get? document = none ∨
              ∃ old, known.get? document = some old ∧ old.revno < change.revno)) ∨
          ∃ old, known.get? document = some old ∧ old.removed = false ∧
            ∀ change ∈ snapshot.changes, change.document ≠ document) ∧
      plan.allWatchedEntities = false ∧
      (∀ document revision, updated.get? document = some revision ↔
        known.revisions.IsNewest snapshot.changes document revision) ∧
      (∀ document, updated.get? document = none ↔
        known.get? document = none ∧ ∀ change ∈ snapshot.changes, change.document ≠ document) ∧
      ∀ (document : Document) (old : Revision), known.get? document = some old →
        ∃ revision : Revision, updated.get? document = some revision ∧ old.revno ≤ revision.revno := by
  intro plan updated
  have updated_eq : ∀ document, updated.get? document =
      (known.revisions.observeAll snapshot.changes)[document]? :=
    known.get?_reconcile .snapshot (some snapshot)
  refine ⟨fun document => mem_suspects_snapshot_iff, rfl, ?_, ?_, ?_⟩
  · intro document revision
    rw [updated_eq]
    exact Revisions.getElem?_observeAll_eq_some_iff
  · intro document
    rw [updated_eq, ← getElem?_revisions, getElem?_eq_none_iff,
      getElem?_eq_none_iff]
    constructor
    · intro unknown
      constructor
      · exact fun member => unknown (Revisions.mem_observeAll member _)
      · rintro change listed rfl
        exact unknown (Revisions.knows_observeAll_of_mem _ listed).mem
    · rintro ⟨unknown, lacking⟩ member
      rcases Revisions.exists_of_mem_observeAll member with before | ⟨change, listed, same⟩
      · exact unknown before
      · exact lacking change listed same
  · intro document old held
    have knows : known.revisions.Knows ⟨document, old.revno, false⟩ :=
      Revisions.knows_iff.mpr ⟨old, (getElem?_revisions known document).trans held, Int64.le_refl _⟩
    rw [updated_eq]
    exact Revisions.knows_iff.mp (knows.observeAll snapshot.changes)

/-! ## Catching up afterwards -/

/-- Under a key that covers it, a document is caught up on exactly if it is due. -/
theorem mem_catchUp_iff_of_covers {since : Option Revno} (covers : key.covers document = true) :
    document.id ∈ known.catchUp key since ↔
      ∃ revision, known.get? document = some revision ∧ revision.isDue since = true := by
  rw [mem_catchUp_iff]
  simp only [getElem?_revisions]
  constructor
  · rintro ⟨other, revision, held, covered, due, same⟩
    obtain rfl := key.eq_of_covers covered covers same
    exact ⟨revision, held, due⟩
  · rintro ⟨revision, held, due⟩
    exact ⟨document, revision, held, covers, due, rfl⟩

/-- Whoever catches up from the start is due what is live. -/
theorem mem_catchUp_none_iff (covers : key.covers document = true) :
    document.id ∈ known.catchUp key none ↔
      ∃ revision, known.get? document = some revision ∧ revision.removed = false := by
  apply (mem_catchUp_iff_of_covers covers).trans
  simp [Revision.isDue]

/-- **Whoever subscribes after a reconciliation catches up on what is live, and on what is gone.** Under
the key, the documents are due whose newest revision is live, among the known ones and those of the
snapshot. A document that the snapshot lacks is due exactly if it was known as live, which is when the
reconciliation reports it as missing, and it is reported again whenever the same snapshot comes. So what
is due is in the snapshot exactly if none of the documents known as live under the key is missing. -/
theorem catchUp_after_reconcile_snapshot (known : KnownState) (snapshot : Snapshot) (key : WatchKey) :
    let updated := (known.reconcile .snapshot (some snapshot)).2
    let lacks := fun document => ∀ change ∈ snapshot.changes, change.document ≠ document
    let isLive := fun document => ∃ old : Revision, known.get? document = some old ∧ old.removed = false
    (∀ text ∈ updated.catchUp key none, ∃ document, key.covers document = true ∧ document.id = text) ∧
      (∀ document, key.covers document = true →
        (document.id ∈ updated.catchUp key none ↔
          ∃ revision, known.revisions.IsNewest snapshot.changes document revision ∧
            revision.removed = false)) ∧
      (∀ document, key.covers document = true → lacks document →
        (document.id ∈ updated.catchUp key none ↔ isLive document)) ∧
      (∀ document, lacks document →
        (document ∈ (known.reconcile .snapshot (some snapshot)).1.suspects ↔ isLive document) ∧
          (document ∈ (updated.reconcile .snapshot (some snapshot)).1.suspects ↔ isLive document)) ∧
      ((∀ document, key.covers document = true → document.id ∈ updated.catchUp key none →
          ¬ lacks document) ↔
        ∀ document, key.covers document = true → isLive document → ¬ lacks document) := by
  intro updated lacks isLive
  have updated_eq : ∀ document, updated.get? document =
      (known.revisions.observeAll snapshot.changes)[document]? :=
    known.get?_reconcile .snapshot (some snapshot)
  have kept : ∀ document, lacks document → updated.get? document = known.get? document := by
    intro document lacking
    rw [updated_eq, Revisions.getElem?_observeAll_of_absent lacking, getElem?_revisions]
  have lacking_due : ∀ document, key.covers document = true → lacks document →
      (document.id ∈ updated.catchUp key none ↔ isLive document) := by
    intro document covers lacking
    rw [mem_catchUp_none_iff covers, kept document lacking]
  refine ⟨?_, ?_, lacking_due, ?_, ?_⟩
  · intro text listed
    obtain ⟨document, -, -, covers, -, same⟩ := mem_catchUp_iff.mp listed
    exact ⟨document, covers, same⟩
  · intro document covers
    apply (mem_catchUp_none_iff covers).trans
    apply exists_congr
    intro revision
    rw [updated_eq, Revisions.getElem?_observeAll_eq_some_iff]
  · intro document lacking
    constructor
    · exact mem_suspects_iff_of_absent lacking
    · rw [mem_suspects_iff_of_absent lacking, kept document lacking]
  · constructor
    · intro present document covers live lacking
      exact present document covers ((lacking_due document covers lacking).mpr live) lacking
    · intro present document covers listed lacking
      exact present document covers ((lacking_due document covers lacking).mp listed) lacking

/-- An apple that an empty snapshot lacks is reported as missing, and whoever subscribes next is told
that it is there. -/
theorem missing_apple_caught_up :
    let apple : Document := ⟨"m", "a"⟩
    let known := observeAll {} [.update apple 1]
    let reconciled := known.reconcile .snapshot (some ⟨[], none⟩)
    reconciled.1.suspects.toList = [apple] ∧
      reconciled.2.catchUp (.collection "m") none = ["a"] := by
  decide

end KnownState

end ChangeFeed
