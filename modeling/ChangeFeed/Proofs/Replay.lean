/-
# Replays

A table of revisions *knows* a change when the change is no news to it: the document is in the table
at the change's revision number or beyond. Everything the watcher owes its subscribers is stated in
these terms, so this module says how knowledge is gained and that it is never lost.
-/

import ChangeFeed.Reconcile

namespace ChangeFeed

namespace Revisions

variable {known : Revisions} {change other : Change} {changes : List Change}
  {document : Document}

/-- The change is a replay for this table. -/
def Knows (known : Revisions) (change : Change) : Prop :=
  known.isNews change = false

theorem knows_iff :
    known.Knows change ↔
      ∃ revision, known[change.document]? = some revision ∧ change.revno ≤ revision.revno :=
  isNews_eq_false_iff

theorem not_knows_iff : ¬ known.Knows change ↔ known.isNews change = true := by
  simp [Knows]

/-- Knowing a change depends only on its document and its revision number. -/
theorem Knows.of_le (knows : known.Knows change) (same : other.document = change.document)
    (earlier : other.revno ≤ change.revno) : known.Knows other := by
  obtain ⟨revision, held, reached⟩ := knows_iff.mp knows
  exact knows_iff.mpr ⟨revision, by rw [same, held], Int64.le_trans earlier reached⟩

/-- A change taken in is known from then on. -/
theorem knows_observe_self (known : Revisions) (change : Change) :
    (known.observe change).Knows change := by
  by_cases news : known.isNews change = true
  · refine knows_iff.mpr ⟨change.revision, ?_, Int64.le_refl _⟩
    rw [getElem?_observe, if_pos ⟨rfl, news⟩]
  · have stale : known.Knows change := by simpa [Knows] using news
    rw [observe_of_not_isNews stale]
    exact stale

/-- Taking another change in loses no knowledge. -/
theorem Knows.observe (knows : known.Knows change) (other : Change) :
    (known.observe other).Knows change := by
  obtain ⟨revision, held, reached⟩ := knows_iff.mp knows
  by_cases replaced : other.document = change.document ∧ known.isNews other = true
  · obtain ⟨same, news⟩ := replaced
    have beyond : revision.revno < other.revno := by
      simpa [isNews, same, held] using news
    refine knows_iff.mpr ⟨other.revision, ?_, ?_⟩
    · rw [getElem?_observe, if_pos ⟨same, news⟩]
    · exact Int64.le_of_lt (Int64.lt_of_le_of_lt reached beyond)
  · refine knows_iff.mpr ⟨revision, ?_, reached⟩
    rw [getElem?_observe, if_neg replaced, held]

theorem Knows.observeAll (knows : known.Knows change) (changes : List Change) :
    (known.observeAll changes).Knows change := by
  induction changes generalizing known with
  | nil => exact knows
  | cons head tail ih => exact ih (knows.observe head)

/-- Of changes taken in together each one is known afterwards. -/
theorem knows_observeAll_of_mem (known : Revisions) (member : change ∈ changes) :
    (known.observeAll changes).Knows change := by
  induction changes generalizing known with
  | nil => cases member
  | cons head tail ih =>
    rcases List.mem_cons.mp member with rfl | later
    · exact Knows.observeAll (knows_observe_self known change) tail
    · exact ih (known.observe head) later

/-- What a table knows after taking a change in, it knew before or learned from that change. -/
theorem Knows.of_observe (knows : (known.observe other).Knows change) :
    known.Knows change ∨ other.document = change.document ∧ change.revno ≤ other.revno := by
  obtain ⟨revision, held, reached⟩ := knows_iff.mp knows
  rw [getElem?_observe] at held
  split at held
  · next replaced =>
    cases held
    exact Or.inr ⟨replaced.1, reached⟩
  · exact Or.inl (knows_iff.mpr ⟨revision, held, reached⟩)

theorem knows_observe_iff :
    (known.observe change).Knows other ↔
      known.Knows other ∨ change.document = other.document ∧ other.revno ≤ change.revno := by
  constructor
  · exact Knows.of_observe
  · rintro (before | ⟨same, earlier⟩)
    · exact before.observe change
    · exact (knows_observe_self known change).of_le same.symm earlier

/-- A revision that moves its document forward, or leaves its number, teaches what an observed
change would. -/
theorem knows_insert_iff (change : Change)
    (forward : ∀ revision, known[change.document]? = some revision →
      revision.revno ≤ change.revno) :
    Knows (known.insert change.document change.revision) other ↔
      known.Knows other ∨ change.document = other.document ∧ other.revno ≤ change.revno := by
  by_cases same : change.document = other.document
  · have reached : Knows (known.insert change.document change.revision) other ↔
        other.revno ≤ change.revno := by
      rw [knows_iff, ← same, Std.ExtTreeMap.getElem?_insert_self]
      simp [Change.revision]
    rw [reached]
    constructor
    · exact fun earlier => Or.inr ⟨same, earlier⟩
    · rintro (before | ⟨-, earlier⟩)
      · obtain ⟨revision, held, earlier⟩ := knows_iff.mp before
        exact Int64.le_trans earlier (forward revision (same ▸ held))
      · exact earlier
  · have untouched : Knows (known.insert change.document change.revision) other ↔
        known.Knows other := by
      rw [knows_iff, knows_iff, Std.ExtTreeMap.getElem?_insert]
      simp [same]
    rw [untouched]
    exact ⟨Or.inl, fun either => either.resolve_right fun taught => same taught.1⟩

theorem Knows.of_observeAll (knows : (known.observeAll changes).Knows change) :
    known.Knows change ∨
      ∃ other ∈ changes, other.document = change.document ∧ change.revno ≤ other.revno := by
  induction changes generalizing known with
  | nil => exact Or.inl knows
  | cons head tail ih =>
    rcases ih knows with before | ⟨other, member, taught⟩
    · rcases before.of_observe with before | taught
      · exact Or.inl before
      · exact Or.inr ⟨head, List.mem_cons_self, taught⟩
    · exact Or.inr ⟨other, List.mem_cons_of_mem _ member, taught⟩

theorem observeAll_append (known : Revisions) (first second : List Change) :
    known.observeAll (first ++ second) = (known.observeAll first).observeAll second :=
  List.foldl_append

theorem mem_toChanges_iff :
    change ∈ known.toChanges ↔ known[change.document]? = some change.revision := by
  simp only [toChanges, List.mem_map, Prod.exists, Std.ExtTreeMap.mem_toList_iff_getElem?_eq_some]
  constructor
  · rintro ⟨document, revision, held, rfl⟩
    exact held
  · intro held
    exact ⟨change.document, change.revision, held, rfl⟩

/-- A table that takes a whole other table in knows all that the other one knew. -/
theorem Knows.observeAll_toChanges {table : Revisions} (knows : table.Knows change)
    (known : Revisions) : (known.observeAll table.toChanges).Knows change := by
  obtain ⟨revision, held, reached⟩ := knows_iff.mp knows
  have listed : (⟨change.document, revision.revno, revision.removed⟩ : Change) ∈ table.toChanges :=
    mem_toChanges_iff.mpr held
  exact (knows_observeAll_of_mem known listed).of_le rfl reached

/-! ## Documents -/

/-- To know a document is to know the smallest change of it. -/
theorem mem_iff_knows : document ∈ known ↔ known.Knows ⟨document, Int64.minValue, false⟩ := by
  rw [knows_iff, Std.ExtTreeMap.mem_iff_isSome_getElem?, Option.isSome_iff_exists]
  exact exists_congr fun revision => (and_iff_left (Int64.minValue_le revision.revno)).symm

theorem Knows.mem {change : Change} (knows : known.Knows change) : change.document ∈ known :=
  mem_iff_knows.mpr (knows.of_le rfl (Int64.minValue_le _))

/-- No document is forgotten. -/
theorem mem_observeAll (member : document ∈ known) (changes : List Change) :
    document ∈ known.observeAll changes :=
  mem_iff_knows.mpr ((mem_iff_knows.mp member).observeAll changes)

/-- A document that becomes known has a change among those that are taken in. -/
theorem exists_of_mem_observeAll (member : document ∈ known.observeAll changes) :
    document ∈ known ∨ ∃ change ∈ changes, change.document = document := by
  rcases (mem_iff_knows.mp member).of_observeAll with before | ⟨change, listed, same, -⟩
  · exact Or.inl (mem_iff_knows.mpr before)
  · exact Or.inr ⟨change, listed, same⟩

/-! ## News -/

/-- The documents of which changes bring news when they are taken in, in order. -/
def newsIn (known : Revisions) : List Change → DocumentSet
  | [] => ∅
  | change :: rest =>
    let news := newsIn (known.observe change) rest
    if known.isNews change then news.insert change.document else news

theorem newsIn_cons (known : Revisions) (change : Change) (rest : List Change) :
    known.newsIn (change :: rest) =
      if known.isNews change then ((known.observe change).newsIn rest).insert change.document
      else (known.observe change).newsIn rest :=
  rfl

/-- What changes teach a table is among their news. -/
theorem mem_newsIn_of_learned (unknown : ¬ known.Knows change)
    (learned : (known.observeAll changes).Knows change) :
    change.document ∈ known.newsIn changes := by
  induction changes generalizing known with
  | nil => exact absurd learned unknown
  | cons head tail ih =>
    by_cases early : (known.observe head).Knows change
    · have taught : head.document = change.document ∧ change.revno ≤ head.revno :=
        early.of_observe.resolve_left unknown
      have news : known.isNews head = true := by
        refine not_knows_iff.mp fun stale => unknown (stale.of_le taught.1.symm taught.2)
      rw [newsIn_cons, if_pos news, taught.1]
      exact Std.ExtTreeSet.mem_insert_self
    · have later := ih early learned
      by_cases news : known.isNews head = true
      · rw [newsIn_cons, if_pos news]
        exact Std.ExtTreeSet.mem_insert.mpr (Or.inr later)
      · rwa [newsIn_cons, if_neg news]

/-- **The news among changes are those that were not known before**, whatever order they come in. -/
theorem mem_newsIn_iff :
    document ∈ known.newsIn changes ↔
      ∃ change ∈ changes, change.document = document ∧ ¬ known.Knows change := by
  constructor
  · intro news
    induction changes generalizing known with
    | nil => simp [newsIn] at news
    | cons change rest ih =>
      have later : document ∈ (known.observe change).newsIn rest →
          ∃ other ∈ change :: rest, other.document = document ∧ ¬ known.Knows other := by
        intro news
        obtain ⟨other, listed, same, unknown⟩ := ih news
        exact ⟨other, List.mem_cons_of_mem _ listed, same, fun knows => unknown (knows.observe change)⟩
      by_cases isNews : known.isNews change = true
      · simp only [newsIn, isNews, if_true, Std.ExtTreeSet.mem_insert, Std.compare_eq_iff_eq] at news
        rcases news with same | news
        · exact ⟨change, List.mem_cons_self, same, not_knows_iff.mpr isNews⟩
        · exact later news
      · simp only [newsIn, isNews, if_false, Bool.false_eq_true] at news
        exact later news
  · rintro ⟨change, listed, rfl, unknown⟩
    exact mem_newsIn_of_learned unknown (knows_observeAll_of_mem known listed)

theorem mem_of_mem_newsIn (news : document ∈ known.newsIn changes) :
    document ∈ known.observeAll changes := by
  obtain ⟨change, listed, rfl, -⟩ := mem_newsIn_iff.mp news
  exact (knows_observeAll_of_mem known listed).mem

/-- The changes that a discontinuity brings along. -/
def broughtBy (snapshot : Option Snapshot) : List Change :=
  (snapshot.map (·.changes)).getD []

end Revisions

end ChangeFeed
