/-
# Latest revisions

A table from documents to the latest revision seen of each.  Revision numbers only move forward: a
change at or below the number in the table is a replay and leaves the table as it is.  Removed
documents stay in the table, which is what rejects a replayed change from before the removal.
-/

import ChangeFeed.Document

namespace ChangeFeed

/-- The latest revision of each document seen so far. -/
abbrev Revisions := Std.ExtTreeMap Document Revision

namespace Revisions

/-- A change is news when its document is unknown or known at a smaller revision number. -/
def isNews (known : Revisions) (change : Change) : Bool :=
  match known[change.document]? with
  | none => true
  | some revision => revision.revno < change.revno

/-- Takes a change into the table if it is news. -/
def observe (known : Revisions) (change : Change) : Revisions :=
  if known.isNews change then known.insert change.document change.revision else known

/-- Takes changes into the table in order. -/
def observeAll (known : Revisions) (changes : List Change) : Revisions :=
  changes.foldl observe known

/-- The documents of the table, in order. -/
def documents (known : Revisions) : List Document :=
  known.keys

/-- The table as a list of changes, one for each document, in document order. -/
def toChanges (known : Revisions) : List Change :=
  known.toList.map fun (document, revision) => ⟨document, revision.revno, revision.removed⟩

theorem isNews_empty (change : Change) : isNews ∅ change = true := by
  simp [isNews]

/-- A change that is no news is known at its revision number or beyond. -/
theorem isNews_eq_false_iff {known : Revisions} {change : Change} :
    known.isNews change = false ↔
      ∃ revision, known[change.document]? = some revision ∧ change.revno ≤ revision.revno := by
  unfold isNews
  cases known[change.document]? with
  | none => simp
  | some revision => simp [Int64.not_lt]

theorem observe_of_isNews {known : Revisions} {change : Change}
    (news : known.isNews change = true) :
    known.observe change = known.insert change.document change.revision := by
  simp [observe, news]

theorem observe_of_not_isNews {known : Revisions} {change : Change}
    (stale : known.isNews change = false) : known.observe change = known := by
  simp [observe, stale]

/-- News takes the place of its document's revision, and nothing else changes. -/
theorem getElem?_observe (known : Revisions) (change : Change) (document : Document) :
    (known.observe change)[document]? =
      if change.document = document ∧ known.isNews change = true then some change.revision
      else known[document]? := by
  by_cases news : known.isNews change = true
  · by_cases same : change.document = document <;>
      simp [observe, news, same, Std.ExtTreeMap.getElem?_insert]
  · simp [observe, news]

end Revisions

end ChangeFeed
