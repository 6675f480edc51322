/-
# Watch keys

A subscriber names what it wants to hear about: every document of a collection, or one document.
Keys are ordered with all collections before all documents, and within each kind by their names.
A key that names an empty collection or an empty id is refused.
-/

import ChangeFeed.Revisions
import ChangeFeed.Text.Quoted

namespace ChangeFeed

inductive WatchKey where
  /-- Any document of the collection. -/
  | collection (name : String)
  /-- One document. -/
  | entity (document : Document)
  deriving DecidableEq, Repr

namespace WatchKey

/-- The collection in which the watched documents lie. -/
def collectionName : WatchKey → String
  | collection name => name
  | entity document => document.collection

/-- The watched id, empty for a collection. -/
def entityId : WatchKey → String
  | collection _ => ""
  | entity document => document.id

/-- Collections come first. -/
def kindRank : WatchKey → Nat
  | collection _ => 0
  | entity _ => 1

instance : Ord WatchKey :=
  ⟨compareLex (compareOn kindRank) (compareLex (compareOn collectionName) (compareOn entityId))⟩

instance : Std.TransOrd WatchKey :=
  inferInstanceAs (Std.TransCmp (compareLex _ (compareLex _ _)))

instance : Std.LawfulEqOrd WatchKey where
  compare_self := Std.ReflCmp.compare_self
  eq_of_compare {first second} equal := by
    have all : compareLex (compareOn kindRank)
        (compareLex (compareOn collectionName) (compareOn entityId)) first second = .eq := equal
    rw [compareLex_eq_eq, compareLex_eq_eq] at all
    obtain ⟨rank, name, id⟩ := all
    have rank : kindRank first = kindRank second := Std.LawfulEqCmp.eq_of_compare rank
    have name : collectionName first = collectionName second :=
      Std.LawfulEqCmp.eq_of_compare name
    have id : entityId first = entityId second := Std.LawfulEqCmp.eq_of_compare id
    match first, second with
    | collection _, collection _ => exact congrArg collection name
    | entity _, entity _ => exact congrArg entity (congr (congrArg Document.mk name) id)
    | collection _, entity _ => simp [kindRank] at rank
    | entity _, collection _ => simp [kindRank] at rank

/-- A collection with a star, or the collection and the id. -/
def display : WatchKey → String
  | collection name => name ++ "/*"
  | entity document => document.display

/-- The key as diagnostics show it. -/
def debug : WatchKey → String
  | collection name => "Collection(" ++ Text.quote name ++ ")"
  | entity document =>
    "Entity(" ++ Text.quote document.collection ++ ", " ++ Text.quote document.id ++ ")"

/-- Why a key is refused. -/
inductive Defect where
  | emptyCollection
  | emptyId (collectionName : String)
  deriving DecidableEq, Repr

def Defect.message : Defect → String
  | .emptyCollection => "empty collection name"
  | .emptyId name => "empty document id in collection " ++ name

/-- The first defect of a key, if it has one. -/
def defect? (key : WatchKey) : Option Defect :=
  if key.collectionName.isEmpty then some .emptyCollection
  else
    match key with
    | collection _ => none
    | entity document => if document.id.isEmpty then some (.emptyId document.collection) else none

/-- Whether a document is one that the key watches. -/
def covers (key : WatchKey) (document : Document) : Bool :=
  match key with
  | collection name => document.collection == name
  | entity watched => document == watched

end WatchKey

/-- Whether a new subscriber must hear of a revision at once: of a live document, or, when it has
seen revisions up to `since`, of any later one. -/
def Revision.isDue (revision : Revision) (since : Option Revno) : Bool :=
  match since with
  | none => !revision.removed
  | some seen => seen < revision.revno

end ChangeFeed
