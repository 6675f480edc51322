/-
# Reconciliation after a discontinuity

After its resume position was rejected the reader may have missed changes.  A strategy decides which
documents have to be reported as possibly changed, and takes the snapshot, if there is one, into the
known revisions.  The precise strategy reports the documents whose revision moved and the live ones
that a snapshot no longer holds; the blanket strategy reports every known document and whatever else
is watched singly, and the precise one falls back on it without a snapshot.  Reporting too much is
allowed, leaving a change unreported is not.
-/

import ChangeFeed.KnownState
import ChangeFeed.Source
import Std.Data.ExtTreeSet

namespace ChangeFeed

/-- A set of documents, in document order. -/
abbrev DocumentSet := Std.ExtTreeSet Document

inductive Strategy where
  /-- Compares the known revisions with a snapshot. -/
  | snapshot
  /-- Takes everything known or watched as changed. -/
  | assumeChanged
  deriving DecidableEq, Repr

namespace Strategy

/-- The name of a strategy in settings and reports. -/
def label : Strategy → String
  | snapshot => "snapshot"
  | assumeChanged => "assume_changed"

/-- The name of a strategy in diagnostics. -/
def debug : Strategy → String
  | snapshot => "Snapshot"
  | assumeChanged => "AssumeChanged"

/-- The strategy with a name. -/
def ofLabel? (name : String) : Option Strategy :=
  [snapshot, assumeChanged].find? fun strategy => strategy.label == name

end Strategy

/-- What a reconciliation asks the watcher to report. -/
structure Reconciliation where
  /-- Documents to report to everyone interested in them. -/
  suspects : DocumentSet := ∅
  /-- Whether every subscription to a single document hears of its document as well. -/
  allWatchedEntities : Bool

/-- The documents that have a change among `changes`. -/
def documentsOf (changes : List Change) : DocumentSet :=
  changes.foldl (fun documents change => documents.insert change.document) ∅

namespace KnownState

/-- Takes changes in, in order, and gathers the documents of those that were news. -/
def observeEach (known : KnownState) : List Change → DocumentSet × KnownState
  | [] => (∅, known)
  | change :: rest =>
    let (isNews, known) := known.observe change
    let (news, known) := observeEach known rest
    (if isNews then news.insert change.document else news, known)

/-- The live documents outside a set. -/
def liveOutside (known : KnownState) (present : DocumentSet) : List Document :=
  (known.docs.filter fun (document, revision) =>
    !revision.removed && !present.contains document).map (·.1)

/-- Reports every known document and everything watched singly. -/
def reconcileBlanket (known : KnownState) (snapshot : Option Snapshot) :
    Reconciliation × KnownState :=
  let known :=
    match snapshot with
    | none => known
    | some snapshot => known.observeAll snapshot.changes
  ({ suspects := Std.ExtTreeSet.ofList known.documents, allWatchedEntities := true }, known)

/-- Reports the documents that a snapshot has news of, and the live ones that it lacks. -/
def reconcilePrecise (known : KnownState) (snapshot : Snapshot) : Reconciliation × KnownState :=
  let (news, updated) := known.observeEach snapshot.changes
  let purged := updated.liveOutside (documentsOf snapshot.changes)
  ({ suspects := news.insertMany purged, allWatchedEntities := false }, updated)

/-- Brings the known revisions up to date after a discontinuity. -/
def reconcile (known : KnownState) (strategy : Strategy) (snapshot : Option Snapshot) :
    Reconciliation × KnownState :=
  match strategy, snapshot with
  | .snapshot, some snapshot => known.reconcilePrecise snapshot
  | .snapshot, none | .assumeChanged, _ => known.reconcileBlanket snapshot

end KnownState

end ChangeFeed
