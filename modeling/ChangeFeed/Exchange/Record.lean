/-
# Records as values

How changes and what is made of them are written as values and read back.  A change is a record of
its collection, its id, its revision number and whether it is a removal; positions go by the name of
token.  A change and a document can also be read from the list of their fields in order.  Unknown
fields are ignored.
-/

import ChangeFeed.Event
import ChangeFeed.Script
import ChangeFeed.Value
import ChangeFeed.WatchKey

namespace ChangeFeed

instance : ToValue Int64 := ⟨fun number => .int number.toInt⟩

instance : OfValue Int64 where
  ofValue?
    | .int value =>
      if minInt64 ≤ value ∧ value ≤ maxInt64 then some (Int64.ofInt value) else none
    | _ => none

instance : ToValue Document where
  toValue document :=
    .table [("collection", toValue document.collection), ("id", toValue document.id)]

instance : OfValue Document where
  ofValue?
    | .list [collection, id] => do return ⟨← ofValue? collection, ← ofValue? id⟩
    | value => do return ⟨← value.field? "collection", ← value.field? "id"⟩

instance : ToValue Change where
  toValue change :=
    .table [("collection", toValue change.document.collection),
      ("id", toValue change.document.id), ("revno", toValue change.revno),
      ("removed", toValue change.removed)]

instance : OfValue Change where
  ofValue?
    | .list [collection, id, revno, removed] => do
      return ⟨⟨← ofValue? collection, ← ofValue? id⟩, ← ofValue? revno, ← ofValue? removed⟩
    | value => do
      return ⟨⟨← value.field? "collection", ← value.field? "id"⟩, ← value.field? "revno",
        ← value.field? "removed"⟩

instance : ToValue Entry where
  toValue entry :=
    .table [("token", toValue entry.position), ("record", toValue entry.change)]

instance : OfValue Entry where
  ofValue? value := do return ⟨← value.field? "token", ← value.field? "record"⟩

instance : ToValue Snapshot where
  toValue snapshot :=
    .table [("records", toValue snapshot.changes), ("token", toValue snapshot.position)]

instance : OfValue Snapshot where
  ofValue? value := do return ⟨← value.field? "records", ← value.field? "token"⟩

instance : OfValue Fault where
  ofValue? value := do
    match (← value.field? "fault" : String) with
    | "transient" => return .transient (← value.field? "reason")
    | "cursor_invalidated" => return .cursorInvalidated
    | "position_expired" => return .positionExpired (← value.field? "position")
    | "fatal" => return .fatal (← value.field? "reason")
    | _ => none

instance : ToValue Event where
  toValue
    | .primed changes => .table [("event", .text "primed"), ("records", toValue changes)]
    | .batch changes => .table [("event", .text "batch"), ("records", toValue changes)]
    | .discontinuity snapshot =>
      .table [("event", .text "discontinuity"), ("snapshot", toValue snapshot)]
    | .cycleComplete seq => .table [("event", .text "cycle_complete"), ("seq", toValue seq)]
    | .cycleAborted seq reason =>
      .table [("event", .text "cycle_aborted"), ("seq", toValue seq), ("reason", toValue reason)]
    | .fatal reason => .table [("event", .text "fatal"), ("reason", toValue reason)]

instance : OfValue Event where
  ofValue? value := do
    match (← value.field? "event" : String) with
    | "primed" => return .primed (← value.field? "records")
    | "batch" => return .batch (← value.field? "records")
    | "discontinuity" => return .discontinuity (← value.field? "snapshot")
    | "cycle_complete" => return .cycleComplete (← value.field? "seq")
    | "cycle_aborted" => return .cycleAborted (← value.field? "seq") (← value.field? "reason")
    | "fatal" => return .fatal (← value.field? "reason")
    | _ => none

/-- A key names a single document if it has an id, and else a collection. -/
instance : OfValue WatchKey where
  ofValue? value := do
    let collection ← value.field? "collection"
    match (← value.field? "id" : Option String) with
    | none => return .collection collection
    | some id => return .entity ⟨collection, id⟩

/-! ## Scripts -/

/-- Whether a value describes a fault. -/
def Value.isFault (value : Value) : Bool :=
  match value.get? "fault" with
  | none | some .null => false
  | some _ => true

/-- A fault or a resume point; whatever else stands for a cursor at the position asked for. -/
instance : OfValue OpenAnswer where
  ofValue? value :=
    if value.isFault then (ofValue? value).map OpenAnswer.fault
    else
      match value.field? "resume_point" with
      | some position => some (.resumeAt position)
      | none => some .asAsked

instance : OfValue ReadAnswer where
  ofValue?
    | .null => some .caughtUp
    | value =>
      if value.isFault then (ofValue? value).map ReadAnswer.fault
      else (ofValue? value).map ReadAnswer.entry

instance : OfValue SnapshotAnswer where
  ofValue?
    | .null => some (.snapshot none)
    | value =>
      if value.isFault then (ofValue? value).map SnapshotAnswer.fault
      else (ofValue? value).map fun snapshot => .snapshot (some snapshot)

/-- A script is read from the lists of its answers, each of which may be absent. -/
instance : OfValue Script where
  ofValue? value := do
    let opens : Option (List OpenAnswer) ← value.field? "opens"
    let reads : Option (List ReadAnswer) ← value.field? "entries"
    let snapshots : Option (List SnapshotAnswer) ← value.field? "snapshots"
    return {
      opens := opens.getD [], reads := reads.getD [], snapshots := snapshots.getD [] }

end ChangeFeed
