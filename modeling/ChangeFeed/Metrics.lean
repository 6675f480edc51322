/-
# Counters

What a watcher and its poller count, and the text in which the counters are exposed: families in
the order of their names, each with a help line, a type line and a line per sample.  A family
without samples is left out.  All names carry one common head.
-/

import ChangeFeed.Reconcile

namespace ChangeFeed

structure Metrics where
  /-- Changes that were news. -/
  recordsApplied : Nat := 0
  /-- Changes that were replays. -/
  duplicateRecords : Nat := 0
  /-- Ids newly added to a mailbox. -/
  pendingMarks : Nat := 0
  /-- Reads that were tried again. -/
  readerRetries : Nat := 0
  /-- Subscriptions registered now. -/
  activeSubscriptions : Int := 0
  /-- Reconciliations by the precise strategy. -/
  preciseReconciliations : Nat := 0
  /-- Reconciliations by the blanket strategy. -/
  blanketReconciliations : Nat := 0
  deriving DecidableEq, Repr

namespace Metrics

/-- Counts a reconciliation. -/
def reconciled (metrics : Metrics) : Strategy → Metrics
  | .snapshot => { metrics with preciseReconciliations := metrics.preciseReconciliations + 1 }
  | .assumeChanged => { metrics with blanketReconciliations := metrics.blanketReconciliations + 1 }

/-- The reconciliations of each strategy that was used, by label. -/
def reconciliations (metrics : Metrics) : List (String × Nat) :=
  [(Strategy.assumeChanged.label, metrics.blanketReconciliations),
    (Strategy.snapshot.label, metrics.preciseReconciliations)].filter fun (_, count) => count != 0

/-- A family of samples.  Each sample is the text of its labels, if it has any, and its value. -/
structure Family where
  name : String
  help : String
  kind : String
  samples : List (String × Int)

/-- The head of every exposed name. -/
def exposedHead : String := "statewatch_"

/-- The families in the order of their names. -/
def families (metrics : Metrics) : List Family :=
  [⟨"active_subscriptions", "Subscriptions currently registered", "gauge",
      [("", metrics.activeSubscriptions)]⟩,
    ⟨"duplicate_records", "Change records discarded as stale or replayed", "counter",
      [("", metrics.duplicateRecords)]⟩,
    ⟨"pending_marks", "Ids newly added to a subscription pending set", "counter",
      [("", metrics.pendingMarks)]⟩,
    ⟨"reader_retries", "Change log reads retried after a transient fault", "counter",
      [("", metrics.readerRetries)]⟩,
    ⟨"reconciliations", "Reconciliations after a rejected resume token", "counter",
      metrics.reconciliations.map fun (label, count) =>
        ("\x7bstrategy=\"" ++ label ++ "\"\x7d", (count : Int))⟩,
    ⟨"records_applied", "Change records that advanced known state", "counter",
      [("", metrics.recordsApplied)]⟩]

/-- The lines of a family. -/
def Family.lines (family : Family) : List String :=
  let name := exposedHead ++ family.name
  if family.samples.isEmpty then []
  else
    ["# HELP " ++ name ++ " " ++ family.help, "# TYPE " ++ name ++ " " ++ family.kind] ++
      family.samples.map fun (labels, value) => name ++ labels ++ " " ++ toString value

/-- The counters as text. -/
def expose (metrics : Metrics) : String :=
  String.join ((metrics.families.flatMap Family.lines).map (· ++ "\n"))

end Metrics

end ChangeFeed
