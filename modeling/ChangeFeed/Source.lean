/-
# Change sources

A change source is a store's committed log, seen through cursors.  Positions number the entries
from 1 in commit order; position 0 lies before the first entry a log ever held.  A source opens
cursors after a position, and may be able to give a snapshot of the latest revision of each
document.  Every request may fail with a fault, and a reader sees each fault as one of three kinds
of read error: to be tried again, a resume position that the source no longer honours, or fatal.

The class asks of a source only that reading an entry leaves fewer entries to read, so that reading
ends when nothing is added meanwhile.
-/

import ChangeFeed.Document

namespace ChangeFeed

/-- The place of an entry in a log, counted from 1. -/
abbrev Position := Nat

/-- The position before the first entry that a log ever held. -/
def Position.origin : Position := 0

/-- A position as messages name it. -/
def Position.display (position : Position) : String :=
  "@" ++ toString position

/-- A committed change at its place in the log. -/
structure Entry where
  position : Position
  change : Change
  deriving DecidableEq, Repr

/-- The latest change of each document that a source still holds, and the position it stands for,
where the source can tell. -/
structure Snapshot where
  changes : List Change
  position : Option Position
  deriving DecidableEq, Repr

/-- What can go wrong inside a source. -/
inductive Fault where
  /-- A passing failure of the store or of the way to it. -/
  | transient (reason : String)
  /-- The cursor became unreadable; one opened anew may do. -/
  | cursorInvalidated
  /-- The store no longer holds the entries after this position. -/
  | positionExpired (position : Position)
  /-- The store failed for good. -/
  | fatal (reason : String)
  deriving DecidableEq, Repr

/-- The name of a kind of fault. -/
def Fault.kind : Fault → String
  | .transient _ => "Transient"
  | .cursorInvalidated => "CursorInvalidated"
  | .positionExpired _ => "PositionExpired"
  | .fatal _ => "Fatal"

def Fault.message : Fault → String
  | .transient reason => "Transient source failure: " ++ reason
  | .cursorInvalidated => "Cursor invalidated"
  | .positionExpired position => "Resume position " ++ position.display ++ " expired"
  | .fatal reason => "Source failure: " ++ reason

/-- A fault as a reader has to take it. -/
inductive ReadError where
  /-- Reading again later may succeed. -/
  | retryable (reason : String)
  /-- The source no longer honours this resume position. -/
  | resumeRejected (position : Position)
  /-- Nothing more can be read. -/
  | fatal (reason : String)
  deriving DecidableEq, Repr

namespace ReadError

/-- The name of a kind of read error. -/
def kind : ReadError → String
  | .retryable _ => "Retryable"
  | .resumeRejected _ => "ResumeRejected"
  | .fatal _ => "Fatal"

def message : ReadError → String
  | .retryable reason => "Retryable read failure: " ++ reason
  | .resumeRejected position => "Resume token " ++ position.display ++ " rejected"
  | .fatal reason => "Fatal read failure: " ++ reason

/-- Transient faults and lost cursors can be retried, an expired position has to be given up, and
a fatal fault is final. -/
def ofFault : Fault → ReadError
  | .transient reason => .retryable reason
  | .cursorInvalidated => .retryable "cursor invalidated"
  | .positionExpired position => .resumeRejected position
  | .fatal reason => .fatal reason

end ReadError

/-- A store's committed log with state `σ`, read through cursors of type `κ`. -/
class Source (σ : Type) (κ : outParam Type) where
  /-- A cursor on the entries after a position, or from the oldest entry still held. -/
  openCursor : Option Position → σ → Except Fault κ × σ
  /-- The position after which a cursor was opened. -/
  resumePoint : κ → Position
  /-- The next entry of a cursor, or nothing when it has caught up. -/
  nextEntry : κ → σ → Except Fault (Option Entry) × κ × σ
  /-- The latest change of each document, or nothing when the source cannot tell. -/
  takeSnapshot : σ → Except Fault (Option Snapshot) × σ
  /-- How many entries a cursor can still read if nothing is added. -/
  unread : κ → σ → Nat
  /-- How many answers other than "caught up" the source holds ready: entries and waiting
  faults. -/
  backlog : σ → Nat
  /-- Reading an entry leaves fewer to read. -/
  unread_lt : ∀ {cursor later : κ} {source after : σ} {entry : Entry},
    nextEntry cursor source = (.ok (some entry), later, after) →
      unread later after < unread cursor source

end ChangeFeed
