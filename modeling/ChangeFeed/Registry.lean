/-
# The registry of subscriptions

The registry holds which subscription watches which key, with two indexes: the subscriptions of each
key, and the subscriptions to single documents inside each collection.  An index holds no empty sets
as long as every id is registered once at a time.  Registering an id again overwrites its key and
leaves its earlier index entries in place.
-/

import ChangeFeed.Subscription

namespace ChangeFeed

/-- A set of subscriptions, in ascending order. -/
abbrev SubscriptionIds := Std.ExtTreeSet SubscriptionId

/-- An index from keys of some kind to subscriptions. -/
abbrev SubscriptionIndex (α : Type) [Ord α] := Std.ExtTreeMap α SubscriptionIds

namespace SubscriptionIndex

variable {α : Type} [Ord α] [Std.TransOrd α]

/-- The subscriptions under a key, in ascending order. -/
def idsOf (index : SubscriptionIndex α) (key : α) : List SubscriptionId :=
  (index.getD key ∅).toList

/-- Adds a subscription under a key. -/
def add (index : SubscriptionIndex α) (key : α) (id : SubscriptionId) : SubscriptionIndex α :=
  index.insert key ((index.getD key ∅).insert id)

/-- Removes a subscription from under a key, and the key with the last of them. -/
def remove (index : SubscriptionIndex α) (key : α) (id : SubscriptionId) : SubscriptionIndex α :=
  match index[key]? with
  | none => index
  | some ids => if (ids.erase id).isEmpty then index.erase key else index.insert key (ids.erase id)

end SubscriptionIndex

structure Registry where
  /-- The key of each registered subscription. -/
  keys : Std.ExtTreeMap SubscriptionId WatchKey := ∅
  byKey : SubscriptionIndex WatchKey := ∅
  /-- The subscriptions to single documents, by collection. -/
  entitiesByCollection : SubscriptionIndex String := ∅

namespace Registry

/-- Registers a subscription under a key. -/
def insert (registry : Registry) (id : SubscriptionId) (key : WatchKey) : Registry where
  keys := registry.keys.insert id key
  byKey := SubscriptionIndex.add registry.byKey key id
  entitiesByCollection :=
    match key with
    | .collection _ => registry.entitiesByCollection
    | .entity document =>
      SubscriptionIndex.add registry.entitiesByCollection document.collection id

/-- Removes a subscription from every index; nothing if it is not registered. -/
def remove? (registry : Registry) (id : SubscriptionId) : Option Registry :=
  registry.keys[id]?.map fun key =>
    { keys := registry.keys.erase id
      byKey := SubscriptionIndex.remove registry.byKey key id
      entitiesByCollection :=
        match key with
        | .collection _ => registry.entitiesByCollection
        | .entity document =>
          SubscriptionIndex.remove registry.entitiesByCollection document.collection id }

/-- The subscriptions interested in a document: those to the document itself, then those to its
collection, each in ascending order. -/
def matching (registry : Registry) (document : Document) : List SubscriptionId :=
  (SubscriptionIndex.idsOf registry.byKey (.entity document) ++
    SubscriptionIndex.idsOf registry.byKey (.collection document.collection)).filter
      registry.keys.contains

/-- The document id that a registered subscription to a single document watches. -/
def watchedId? (registry : Registry) (id : SubscriptionId) : Option String :=
  match registry.keys[id]? with
  | some (.entity document) => some document.id
  | _ => none

/-- Every subscription to a single document with the id it watches, by collection and then in
ascending order. -/
def entities (registry : Registry) : List (SubscriptionId × String) :=
  registry.entitiesByCollection.toList.flatMap fun (_, ids) =>
    ids.toList.filterMap fun id => (registry.watchedId? id).map fun watched => (id, watched)

/-- The registered subscriptions, in ascending order. -/
def ids (registry : Registry) : List SubscriptionId :=
  registry.keys.keys

/-- How many subscriptions are registered. -/
def size (registry : Registry) : Nat :=
  registry.keys.size

/-- How many different keys are indexed. -/
def watchedKeys (registry : Registry) : Nat :=
  registry.byKey.size

/-- In how many collections single documents are watched. -/
def entityCollections (registry : Registry) : Nat :=
  registry.entitiesByCollection.size

end Registry

end ChangeFeed
