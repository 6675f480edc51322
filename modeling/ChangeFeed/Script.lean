/-
# Scripted sources

A source that answers from three prepared lists: one for openings, one for reads and one for
snapshots.  Each request uses up the first answer of its list, and an empty list answers in the
plainest way: a cursor at the position asked for, caught up, no snapshot.  All cursors read from the
same list, so an entry is read once whatever cursor reads it.
-/

import ChangeFeed.Source

namespace ChangeFeed

/-- A prepared answer to an opening. -/
inductive OpenAnswer where
  | fault (fault : Fault)
  /-- A cursor with a resume point of its own. -/
  | resumeAt (position : Position)
  /-- A cursor at the position asked for. -/
  | asAsked
  deriving DecidableEq, Repr

/-- A prepared answer to a read. -/
inductive ReadAnswer where
  | fault (fault : Fault)
  | entry (entry : Entry)
  | caughtUp
  deriving DecidableEq, Repr

/-- A prepared answer to a request for a snapshot. -/
inductive SnapshotAnswer where
  | fault (fault : Fault)
  | snapshot (snapshot : Option Snapshot)
  deriving DecidableEq, Repr

structure Script where
  opens : List OpenAnswer := []
  reads : List ReadAnswer := []
  snapshots : List SnapshotAnswer := []
  deriving DecidableEq, Repr

namespace Script

/-- A cursor is its resume point. -/
structure Cursor where
  resumePoint : Position
  deriving DecidableEq, Repr

def openCursor (after : Option Position) (script : Script) : Except Fault Cursor × Script :=
  let asked : Cursor := ⟨after.getD Position.origin⟩
  match script.opens with
  | [] => (.ok asked, script)
  | answer :: rest =>
    let script := { script with opens := rest }
    match answer with
    | .fault fault => (.error fault, script)
    | .resumeAt position => (.ok ⟨position⟩, script)
    | .asAsked => (.ok asked, script)

def nextEntry (cursor : Cursor) (script : Script) :
    Except Fault (Option Entry) × Cursor × Script :=
  match script.reads with
  | [] => (.ok none, cursor, script)
  | answer :: rest =>
    let script := { script with reads := rest }
    match answer with
    | .fault fault => (.error fault, cursor, script)
    | .entry entry => (.ok (some entry), cursor, script)
    | .caughtUp => (.ok none, cursor, script)

def takeSnapshot (script : Script) : Except Fault (Option Snapshot) × Script :=
  match script.snapshots with
  | [] => (.ok none, script)
  | answer :: rest =>
    let script := { script with snapshots := rest }
    match answer with
    | .fault fault => (.error fault, script)
    | .snapshot snapshot => (.ok snapshot, script)

/-- How many answers of all kinds are left. -/
def backlog (script : Script) : Nat :=
  script.opens.length + script.reads.length + script.snapshots.length

theorem unread_lt {cursor later : Cursor} {script after : Script} {entry : Entry}
    (read : nextEntry cursor script = (.ok (some entry), later, after)) :
    after.reads.length < script.reads.length := by
  unfold nextEntry at read
  split at read
  · simp at read
  · next answer rest reads =>
    have used : after = { script with reads := rest } := by
      cases answer <;> simp at read
      exact read.2.2.symm
    simp [used, reads]

instance : Source Script Cursor where
  openCursor := openCursor
  resumePoint := Cursor.resumePoint
  nextEntry := nextEntry
  takeSnapshot := takeSnapshot
  unread _ script := script.reads.length
  backlog := backlog
  unread_lt := unread_lt

/-- Adds an answer to the openings. -/
def pushOpen (script : Script) (answer : OpenAnswer) : Script :=
  { script with opens := script.opens ++ [answer] }

/-- Adds an answer to the reads. -/
def pushRead (script : Script) (answer : ReadAnswer) : Script :=
  { script with reads := script.reads ++ [answer] }

/-- Adds an answer to the snapshots. -/
def pushSnapshot (script : Script) (answer : SnapshotAnswer) : Script :=
  { script with snapshots := script.snapshots ++ [answer] }

end Script

end ChangeFeed
