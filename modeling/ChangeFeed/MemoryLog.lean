/-
# A log held in memory

A capped, append-only log: entries get the positions 1, 2, 3, …, revision numbers advance per
document, old entries can be truncated, open cursors can be invalidated, and faults can be queued
for the next requests.  Truncation through a position expires every position before it, whether or
not an entry ever stood there.

A log that supports snapshots answers with the latest revision of every document it ever held,
removed ones included.
-/

import ChangeFeed.Revisions
import ChangeFeed.Source

namespace ChangeFeed

structure MemoryLog where
  /-- The entries still held, oldest first. -/
  entries : List Entry := []
  /-- The position of the newest entry ever appended, 0 before the first. -/
  lastPosition : Position := Position.origin
  /-- Entries at or below this position have been truncated. -/
  cut : Option Position := none
  /-- The latest revision of every document ever changed. -/
  revisions : Revisions := ∅
  /-- Cursors of an earlier generation are no longer readable. -/
  generation : Nat := 0
  openFaults : List Fault := []
  readFaults : List Fault := []
  snapshotFaults : List Fault := []
  supportsSnapshots : Bool := false

namespace MemoryLog

/-- An empty log, with or without snapshots. -/
def empty (supportsSnapshots : Bool) : MemoryLog :=
  { supportsSnapshots }

/-- Appends a change at the next position; the revision table is not looked at. -/
def push (log : MemoryLog) (change : Change) : MemoryLog :=
  { log with
    entries := log.entries ++ [⟨log.lastPosition + 1, change⟩]
    lastPosition := log.lastPosition + 1 }

/-- Appends any change, such as a replay.  The revision table follows if the change is news. -/
def append (log : MemoryLog) (change : Change) : MemoryLog :=
  { log with revisions := log.revisions.observe change }.push change

/-- The revision number that an update of `document` would get; there is none after the largest. -/
def updateRevno? (log : MemoryLog) (document : Document) : Option Revno :=
  match log.revisions[document]? with
  | none => some 1
  | some revision => revision.revno.next?

/-- Creates or updates a document.  Fails when its revision numbers are used up. -/
def upsert? (log : MemoryLog) (document : Document) : Option (Revno × MemoryLog) :=
  (log.updateRevno? document).map fun revno =>
    let change := Change.update document revno
    (revno, { log with revisions := log.revisions.insert document change.revision }.push change)

/-- Removes a live document, with the removal's revision number; an unknown or removed document
stays as it is. -/
def remove (log : MemoryLog) (document : Document) : Option Revno × MemoryLog :=
  match log.revisions[document]? with
  | some ⟨revno, false⟩ =>
    let change := Change.removal document revno
    (some change.revno,
      { log with revisions := log.revisions.insert document change.revision }.push change)
  | _ => (none, log)

/-- Drops every entry up to and including a position, and expires the positions before it. -/
def truncate (log : MemoryLog) (through : Position) : MemoryLog :=
  { log with
    entries := log.entries.dropWhile fun entry => entry.position ≤ through
    cut := some (max through (log.cut.getD Position.origin)) }

/-- Makes every open cursor fail its next read. -/
def invalidateCursors (log : MemoryLog) : MemoryLog :=
  { log with generation := log.generation + 1 }

def failNextOpen (log : MemoryLog) (fault : Fault) : MemoryLog :=
  { log with openFaults := log.openFaults ++ [fault] }

def failNextRead (log : MemoryLog) (fault : Fault) : MemoryLog :=
  { log with readFaults := log.readFaults ++ [fault] }

def failNextSnapshot (log : MemoryLog) (fault : Fault) : MemoryLog :=
  { log with snapshotFaults := log.snapshotFaults ++ [fault] }

/-- The position of the newest entry ever appended. -/
def head? (log : MemoryLog) : Option Position :=
  if log.lastPosition = 0 then none else some log.lastPosition

/-- The current revision number of a document. -/
def revno? (log : MemoryLog) (document : Document) : Option Revno :=
  log.revisions[document]?.map (·.revno)

/-- How many entries are still held. -/
def size (log : MemoryLog) : Nat :=
  log.entries.length

/-- A position is expired when it lies before the cut. -/
def isExpired (log : MemoryLog) (position : Position) : Bool :=
  match log.cut with
  | none => false
  | some cut => position < cut

/-- A place in the log: the last position read, and the generation it was opened in. -/
structure Cursor where
  openedAfter : Position
  after : Position
  generation : Nat
  deriving DecidableEq, Repr

/-- The first entry beyond a position. -/
def entryAfter (log : MemoryLog) (position : Position) : Option Entry :=
  log.entries.find? fun entry => position < entry.position

/-- A queued fault comes first; then an expired position is refused.  Without a position the
cursor starts at the cut. -/
def openCursor (after : Option Position) (log : MemoryLog) : Except Fault Cursor × MemoryLog :=
  match log.openFaults with
  | fault :: rest => (.error fault, { log with openFaults := rest })
  | [] =>
    match after with
    | some position =>
      if log.isExpired position then (.error (.positionExpired position), log)
      else (.ok ⟨position, position, log.generation⟩, log)
    | none =>
      let start := log.cut.getD Position.origin
      (.ok ⟨start, start, log.generation⟩, log)

/-- A queued fault comes first, then an old generation, then an expired position; a cursor that
none of them stops moves to the first entry beyond it. -/
def nextEntry (cursor : Cursor) (log : MemoryLog) :
    Except Fault (Option Entry) × Cursor × MemoryLog :=
  match log.readFaults with
  | fault :: rest => (.error fault, cursor, { log with readFaults := rest })
  | [] =>
    if log.generation ≠ cursor.generation then (.error .cursorInvalidated, cursor, log)
    else if log.isExpired cursor.after then (.error (.positionExpired cursor.after), cursor, log)
    else
      match log.entryAfter cursor.after with
      | none => (.ok none, cursor, log)
      | some entry => (.ok (some entry), { cursor with after := entry.position }, log)

/-- A queued fault comes first. -/
def takeSnapshot (log : MemoryLog) : Except Fault (Option Snapshot) × MemoryLog :=
  match log.snapshotFaults with
  | fault :: rest => (.error fault, { log with snapshotFaults := rest })
  | [] =>
    if log.supportsSnapshots then
      (.ok (some ⟨log.revisions.toChanges, some log.lastPosition⟩), log)
    else (.ok none, log)

/-- How many entries lie beyond a cursor. -/
def unread (cursor : Cursor) (log : MemoryLog) : Nat :=
  log.entries.countP fun entry => cursor.after < entry.position

/-- The entries held and the faults that wait. -/
def backlog (log : MemoryLog) : Nat :=
  log.entries.length + log.openFaults.length + log.readFaults.length + log.snapshotFaults.length

/-- Of the entries beyond a position, those beyond the first of them are fewer. -/
theorem countP_beyond_lt {entries : List Entry} {position : Position} {entry : Entry}
    (found : entries.find? (fun entry => decide (position < entry.position)) = some entry) :
    entries.countP (fun other => decide (entry.position < other.position)) <
      entries.countP (fun other => decide (position < other.position)) := by
  have beyond : position < entry.position := by simpa using List.find?_some found
  have weaker : ∀ other : Entry, decide (entry.position < other.position) = true →
      decide (position < other.position) = true := by
    intro other later
    exact decide_eq_true (Nat.lt_trans beyond (of_decide_eq_true later))
  induction entries with
  | nil => simp at found
  | cons head tail ih =>
    by_cases passed : position < head.position
    · have first : head = entry := by simpa [passed] using found
      subst first
      have fewer := List.countP_mono_left (l := tail) fun other _ => weaker other
      simp only [List.countP_cons, passed, Nat.lt_irrefl, decide_true, decide_false] at fewer ⊢
      simpa using Nat.lt_succ_of_le fewer
    · have later : ¬ entry.position < head.position := fun h => passed (Nat.lt_trans beyond h)
      simpa [List.countP_cons, passed, later] using ih (by simpa [passed] using found)

theorem unread_lt {cursor later : Cursor} {log after : MemoryLog} {entry : Entry}
    (read : nextEntry cursor log = (.ok (some entry), later, after)) :
    unread later after < unread cursor log := by
  unfold nextEntry at read
  split at read
  · simp at read
  · split at read
    · simp at read
    · split at read
      · simp at read
      · split at read
        · simp at read
        · next found =>
          simp only [Prod.mk.injEq, Except.ok.injEq, Option.some.injEq] at read
          obtain ⟨rfl, rfl, rfl⟩ := read
          exact countP_beyond_lt found

instance : Source MemoryLog Cursor where
  openCursor := openCursor
  resumePoint := Cursor.openedAfter
  nextEntry := nextEntry
  takeSnapshot := takeSnapshot
  unread := unread
  backlog := backlog
  unread_lt := unread_lt

end MemoryLog

end ChangeFeed
