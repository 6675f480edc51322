/-
# Reports as values

How errors, counters and states are written as values for those who observe them.  An error is
written as its kind and its message; failed input or output of a service has a kind only.
-/

import ChangeFeed.Error
import ChangeFeed.Exchange.Record
import ChangeFeed.Reader

namespace ChangeFeed

/-- An error of a kind, with a message. -/
def Value.ofError (kind message : String) : Value :=
  .table [("error", .text kind), ("message", .text message)]

instance : ToValue Fault where
  toValue fault := .ofError ("Source." ++ fault.kind) fault.message

instance : ToValue Error where
  toValue
    | .service .io => .table [("error", .text "Service.Io")]
    | error => .ofError error.kind error.message

instance : ToValue ReadError := ⟨fun error => toValue (Error.read error)⟩

instance : ToValue WatchError := ⟨fun error => toValue (Error.watcher error)⟩

instance : ToValue ServiceError := ⟨fun error => toValue (Error.service error)⟩

instance : ToValue SettingsDefect := ⟨fun defect => toValue (Error.settings defect)⟩

instance : ToValue Unit := ⟨fun _ => .text "ok"⟩

/-- A result is written as its value or its error. -/
instance {ε α : Type} [ToValue ε] [ToValue α] : ToValue (Except ε α) where
  toValue
    | .ok value => toValue value
    | .error error => toValue error

/-- The verdict on what may have a defect. -/
def Value.ofDefect {ε : Type} [ToValue ε] : Option ε → Value
  | none => toValue ()
  | some defect => toValue defect

instance : ToValue Outcome := ⟨fun outcome => .ofDefect outcome.error?⟩

instance : ToValue IdSet := ⟨fun ids => toValue ids.toList⟩

instance : ToValue CloseReason := ⟨fun reason => .text reason.label⟩

instance : OfValue CloseReason where
  ofValue?
    | .text label => CloseReason.ofLabel? label
    | _ => none

instance : ToValue Delivery where
  toValue
    | .changes ids => .table [("next", toValue ids)]
    | .pending => .table [("next", .text "pending")]
    | .ended => .table [("next", .null)]

instance : ToValue RequestState where
  toValue
    | .waiting => .text "waiting"
    | .done => .text "done"
    | .closed => .text "closed"
    | .gaveUp => .text "gave_up"

instance : ToValue Metrics where
  toValue metrics :=
    .table [("records_applied", toValue metrics.recordsApplied),
      ("duplicate_records", toValue metrics.duplicateRecords),
      ("pending_marks", toValue metrics.pendingMarks),
      ("reader_retries", toValue metrics.readerRetries),
      ("active_subscriptions", toValue metrics.activeSubscriptions),
      ("reconciliations", .table (metrics.reconciliations.map fun (label, count) =>
        (label, toValue count)))]

/-- What a watcher holds, apart from its polls. -/
def WatcherStats.holdings (stats : WatcherStats) : List (String × Value) :=
  [("subscriptions", toValue stats.subscriptions), ("watched_keys", toValue stats.watchedKeys),
    ("entity_collections", toValue stats.entityCollections),
    ("known_documents", toValue stats.knownDocuments)]

instance : ToValue WatcherStats where
  toValue stats :=
    .table (stats.holdings ++ [("polls_issued", toValue stats.pollsIssued),
      ("sync_waiters", toValue stats.syncWaiters)])

instance : ToValue Batch where
  toValue batch :=
    .table [("records", toValue batch.changes), ("token", toValue batch.position),
      ("empty", toValue batch.isEmpty)]

/-! ## Services -/

instance : OfValue InitSystem where
  ofValue?
    | .text label => InitSystem.ofLabel? label
    | _ => none

instance : ToValue ServiceStatus where
  toValue
    | .running => .text "running"
    | .stopped => .text "stopped"
    | .notInstalled => .text "not_installed"
    | .unknown text => .table [("unknown", .text text)]

/-- A specification without a description gets the default one. -/
instance : OfValue ServiceSpec where
  ofValue? value := do
    let name ← value.field? "name"
    let description : Option String ← value.field? "description"
    let args : Option (List String) ← value.field? "args"
    return {
      name
      description := description.getD (ServiceSpec.defaultDescription name)
      executable := ← value.field? "executable"
      args := args.getD [] }

instance : ToValue CommandOutput where
  toValue output :=
    .table [("success", toValue output.success), ("stdout", toValue output.stdout),
      ("stderr", toValue output.stderr)]

instance : OfValue CommandOutput where
  ofValue? value := do
    return ⟨← value.field? "success", ← value.field? "stdout", ← value.field? "stderr"⟩

end ChangeFeed
