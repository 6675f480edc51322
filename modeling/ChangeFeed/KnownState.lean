/-
# Known revisions, collection by collection

What a watcher has seen is kept collection by collection, so that catching up on one does not look at
the others. Beside the collections a count is kept of the documents in all of them. Documents are never
dropped: a removed one stays, which is what rejects a replayed change from before the removal.
-/

import ChangeFeed.WatchKey

namespace ChangeFeed

/-- The latest revision of each document seen so far. -/
structure KnownState where
  /-- The documents of each collection, by id. -/
  collections : Std.ExtTreeMap String (Std.ExtTreeMap String Revision) := ∅
  /-- How many documents there are, counted as they come in. -/
  size : Nat := 0

namespace KnownState

/-- The latest revision of a document. -/
def get? (known : KnownState) (document : Document) : Option Revision :=
  known.collections[document.collection]?.bind fun documents => documents[document.id]?

/-- Puts the revision of a change in the place of its document's. -/
def put (known : KnownState) (change : Change) : KnownState :=
  let documents := known.collections.getD change.document.collection ∅
  { known with
    collections := known.collections.insert change.document.collection
      (documents.insert change.document.id change.revision) }

/-- Takes a change in if it is news, and tells whether it was.  A document is counted when it comes
in for the first time. -/
def observe (known : KnownState) (change : Change) : Bool × KnownState :=
  match known.get? change.document with
  | none => (true, { known.put change with size := known.size + 1 })
  | some revision =>
    if change.revno ≤ revision.revno then (false, known) else (true, known.put change)

/-- Takes changes in, in order. -/
def observeAll (known : KnownState) (changes : List Change) : KnownState :=
  changes.foldl (fun known change => (known.observe change).2) known

/-- Every known document with its revision, collection by collection and by id in each. -/
def docs (known : KnownState) : List (Document × Revision) :=
  known.collections.toList.flatMap fun (collection, documents) =>
    documents.toList.map fun (id, revision) => (⟨collection, id⟩, revision)

/-- Every known document, in the same order. -/
def documents (known : KnownState) : List Document :=
  known.docs.map (·.1)

def isEmpty (known : KnownState) : Bool :=
  known.size == 0

/-- The ids of the documents under a key that a new subscriber must hear of at once, in order. -/
def catchUp (known : KnownState) (key : WatchKey) (since : Option Revno) : List String :=
  match key with
  | .collection name =>
    ((known.collections.getD name ∅).toList.filter fun (_, revision) => revision.isDue since).map (·.1)
  | .entity document =>
    match known.get? document with
    | some revision => if revision.isDue since then [document.id] else []
    | none => []

end KnownState

end ChangeFeed
