/-
# Documents and committed changes

A document is named by its collection and its id inside the collection, and is ordered by
collection first.  Each committed change carries the document's revision counter at that commit, a
signed 64-bit number; a removal is a change like any other, one step past the last live revision.
The counter does not wrap: the largest revision number is its own successor for removals, and has
no successor for updates.
-/

import Std.Data.ExtTreeMap

namespace ChangeFeed

/-- A document, as a member of a collection. -/
structure Document where
  collection : String
  id : String
  deriving DecidableEq, Repr

namespace Document

/-- Documents are ordered by collection, then by id, each by code points. -/
instance : Ord Document :=
  ⟨compareLex (compareOn Document.collection) (compareOn Document.id)⟩

instance : Std.TransOrd Document :=
  inferInstanceAs (Std.TransCmp (compareLex _ _))

instance : Std.LawfulEqOrd Document where
  compare_self := Std.ReflCmp.compare_self
  eq_of_compare {first second} equal := by
    have both : compareLex (compareOn Document.collection) (compareOn Document.id) first second =
        .eq := equal
    rw [compareLex_eq_eq] at both
    obtain ⟨sameCollection, sameId⟩ := both
    cases first
    cases second
    exact congr (congrArg Document.mk (Std.LawfulEqCmp.eq_of_compare sameCollection))
      (Std.LawfulEqCmp.eq_of_compare sameId)

/-- The collection and the id, parted by a slash. -/
def display (document : Document) : String :=
  document.collection ++ "/" ++ document.id

end Document

/-- The per-document revision counter. -/
abbrev Revno := Int64

namespace Revno

/-- The next revision number, if there is one. -/
def next? (revno : Revno) : Option Revno :=
  if revno = Int64.maxValue then none else some (revno + 1)

/-- The revision number of a removal after `revno`; the largest number stays as it is. -/
def afterRemoval (revno : Revno) : Revno :=
  (next? revno).getD revno

end Revno

/-- What is held about a document: its latest revision number and whether that was a removal. -/
structure Revision where
  revno : Revno
  removed : Bool
  deriving DecidableEq, Repr

/-- One committed change of a document. -/
structure Change where
  document : Document
  revno : Revno
  removed : Bool
  deriving DecidableEq, Repr

namespace Change

/-- A change that leaves the document live. -/
def update (document : Document) (revno : Revno) : Change :=
  ⟨document, revno, false⟩

/-- The removal that follows the document's last live revision. -/
def removal (document : Document) (lastLive : Revno) : Change :=
  ⟨document, lastLive.afterRemoval, true⟩

/-- The revision that a change leaves behind. -/
def revision (change : Change) : Revision :=
  ⟨change.revno, change.removed⟩

end Change

end ChangeFeed
