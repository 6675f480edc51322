/-
# Reading a source in batches

A reader takes a source's entries in commit order and in bounded batches.  It remembers how far the
entries have been handed over: the committed position moves forward only by `commit`, except where
the reader starts anew from a snapshot.  Any fault while reading drops the cursor, so the next read
opens one after the committed position and reads again whatever was not handed over.

The first cursor opened without a committed position fixes it at the cursor's resume point, so that
a truncation which overtakes an idle reader is noticed and not skipped.
-/

import ChangeFeed.Source

namespace ChangeFeed

/-- The changes of one read, and the position of the last of them. -/
structure Batch where
  changes : List Change := []
  position : Option Position := none
  deriving DecidableEq, Repr

namespace Batch

def isEmpty (batch : Batch) : Bool :=
  batch.changes.isEmpty

/-- The batch with one more entry at its end. -/
def push (batch : Batch) (entry : Entry) : Batch :=
  ⟨batch.changes ++ [entry.change], some entry.position⟩

end Batch

structure Reader (σ κ : Type) where
  source : σ
  cursor : Option κ := none
  /-- Everything up to this position has been handed over. -/
  committed : Option Position := none
  /-- The most changes that one batch may hold. -/
  batchLimit : Nat
  batchLimit_pos : 0 < batchLimit := by omega

namespace Reader

variable {σ κ : Type}

/-- A reader that resumes after a position, or from the oldest entry held.  A batch limit of 0
counts as 1. -/
def ofSource (source : σ) (resume : Option Position) (maxBatch : Nat) : Reader σ κ :=
  { source, committed := resume, batchLimit := max maxBatch 1 }

/-- An entry at or below the committed position has been handed over before. -/
def isHandedOver (committed : Option Position) (entry : Entry) : Bool :=
  match committed with
  | none => false
  | some position => entry.position ≤ position

/-- Marks everything up to a position as handed over; the committed position never moves back. -/
def commit (reader : Reader σ κ) (position : Position) : Reader σ κ :=
  match reader.committed with
  | none => { reader with committed := some position }
  | some committed => { reader with committed := some (max committed position) }

/-- Drops the cursor; the next read opens one after the committed position. -/
def resetCursor (reader : Reader σ κ) : Reader σ κ :=
  { reader with cursor := none }

/-- The reader as diagnostics show it. -/
def debug (reader : Reader σ κ) : String :=
  let committed :=
    match reader.committed with
    | none => "None"
    | some position => "Some(ResumeToken(" ++ toString position ++ "))"
  "LogReader \x7b committed: " ++ committed ++ ", cursor_open: " ++
    toString reader.cursor.isSome ++ ", max_batch_size: " ++ toString reader.batchLimit ++ " \x7d"

variable [Source σ κ]

/-- The open cursor, opening one if there is none.  The first opening of all fixes the committed
position. -/
def openCursor (reader : Reader σ κ) : Except ReadError κ × Reader σ κ :=
  match reader.cursor with
  | some cursor => (.ok cursor, reader)
  | none =>
    match Source.openCursor reader.committed reader.source with
    | (.error fault, source) => (.error (.ofFault fault), { reader with source })
    | (.ok cursor, source) =>
      let start := reader.committed.getD (Source.resumePoint σ cursor)
      (.ok cursor, { reader with source, cursor := some cursor, committed := some start })

/-- Adds entries to a batch until it holds `limit` changes, the cursor has caught up, or a fault
strikes.  Entries handed over before are skipped. -/
def fill (committed : Option Position) (limit : Nat) (batch : Batch) (cursor : κ) (source : σ) :
    Except Fault Batch × κ × σ :=
  if batch.changes.length < limit then
    match read : Source.nextEntry cursor source with
    | (.error fault, cursor, source) => (.error fault, cursor, source)
    | (.ok none, cursor, source) => (.ok batch, cursor, source)
    | (.ok (some entry), later, after) =>
      have : Source.unread later after < Source.unread cursor source := Source.unread_lt read
      if isHandedOver committed entry then fill committed limit batch later after
      else fill committed limit (batch.push entry) later after
  else (.ok batch, cursor, source)
termination_by Source.unread cursor source

/-- Reads the next batch, in commit order.  The batch is empty when the cursor has caught up. -/
def next (reader : Reader σ κ) : Except ReadError Batch × Reader σ κ :=
  match reader.openCursor with
  | (.error error, reader) => (.error error, reader)
  | (.ok cursor, reader) =>
    match fill reader.committed reader.batchLimit {} cursor reader.source with
    | (.error fault, _, source) => (.error (.ofFault fault), { reader with source, cursor := none })
    | (.ok batch, cursor, source) => (.ok batch, { reader with source, cursor := some cursor })

/-- Gives up the committed position and starts anew: after the snapshot, or from the oldest entry
held when the source has none to give. -/
def reopenFresh (reader : Reader σ κ) : Except ReadError (Option Snapshot) × Reader σ κ :=
  match Source.takeSnapshot reader.source with
  | (.error fault, source) => (.error (.ofFault fault), { reader with source, cursor := none })
  | (.ok snapshot, source) =>
    (.ok snapshot,
      { reader with source, cursor := none, committed := snapshot.bind (·.position) })

/-- Takes a snapshot to start from; without one nothing changes. -/
def prime (reader : Reader σ κ) : Except ReadError (Option Snapshot) × Reader σ κ :=
  match Source.takeSnapshot reader.source with
  | (.error fault, source) => (.error (.ofFault fault), { reader with source })
  | (.ok none, source) => (.ok none, { reader with source })
  | (.ok (some snapshot), source) =>
    (.ok (some snapshot),
      { reader with
        source, cursor := none, committed := snapshot.position <|> reader.committed })

end Reader

end ChangeFeed
