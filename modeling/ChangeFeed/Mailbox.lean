/-
# Mailboxes

A mailbox collects the ids of changed documents for one subscriber until the subscriber takes them.
Several changes of one document before that count as one id.  A mailbox closes once and keeps the
first reason: a subscriber that stops gives up what is pending, while a mailbox closed by the
watcher keeps it to be taken.  Nothing is added to a closed mailbox.

To ask for the next changes is to look into the mailbox once: they are there, or the subscription has
ended, or there is nothing yet.  That a subscriber waits in the last case, and is woken by a mark or a
close, is not described here, and so neither is who is woken when several wait.
-/

import Std.Data.ExtTreeSet

namespace ChangeFeed

/-- A set of document ids, in ascending order of code points. -/
abbrev IdSet := Std.ExtTreeSet String

/-- Why a subscription stopped delivering. -/
inductive CloseReason where
  /-- The subscriber stopped it. -/
  | stopped
  /-- The watcher was shut down. -/
  | shutdown
  /-- The change log failed for good. -/
  | fatal
  deriving DecidableEq, Repr

namespace CloseReason

/-- The reason as a key of reports. -/
def label : CloseReason → String
  | stopped => "stopped"
  | shutdown => "shutdown"
  | fatal => "fatal"

/-- The reason with a key. -/
def ofLabel? (label : String) : Option CloseReason :=
  [stopped, shutdown, fatal].find? fun reason => reason.label == label

/-- The reason as diagnostics show it. -/
def debug : CloseReason → String
  | stopped => "Stopped"
  | shutdown => "Shutdown"
  | fatal => "Fatal"

end CloseReason

/-- What a subscriber gets when it asks for the next changes. -/
inductive Delivery where
  /-- Changed documents, at least one. -/
  | changes (ids : IdSet)
  /-- Nothing has changed yet. -/
  | pending
  /-- Nothing will ever change again. -/
  | ended

structure Mailbox where
  pending : IdSet := ∅
  closed : Option CloseReason := none

namespace Mailbox

/-- Adds an id.  It is new unless it is pending already or the mailbox is closed. -/
def mark (mailbox : Mailbox) (id : String) : Bool × Mailbox :=
  if mailbox.closed.isSome || mailbox.pending.contains id then (false, mailbox)
  else (true, { mailbox with pending := mailbox.pending.insert id })

theorem mark_of_closed {mailbox : Mailbox} {reason : CloseReason}
    (closed : mailbox.closed = some reason) (id : String) : mailbox.mark id = (false, mailbox) := by
  simp [mark, closed]

/-- A mark on an open mailbox adds its id and nothing else. -/
theorem mem_pending_mark {mailbox : Mailbox} (isOpen : mailbox.closed = none) (id other : String) :
    other ∈ (mailbox.mark id).2.pending ↔ other = id ∨ other ∈ mailbox.pending := by
  by_cases present : id ∈ mailbox.pending
  · have absorbed : other = id ∨ other ∈ mailbox.pending ↔ other ∈ mailbox.pending := by
      constructor
      · rintro (rfl | held)
        · exact present
        · exact held
      · exact Or.inr
    simp [mark, isOpen, present, absorbed]
  · have added : (mailbox.mark id).2.pending = mailbox.pending.insert id := by
      simp [mark, isOpen, present]
    rw [added, Std.ExtTreeSet.mem_insert, Std.compare_eq_iff_eq]
    exact or_congr_left eq_comm

/-- Adds ids in order, and counts the new ones. -/
def markAll (mailbox : Mailbox) : List String → Nat × Mailbox
  | [] => (0, mailbox)
  | id :: rest =>
    let (new, mailbox) := mailbox.mark id
    let (count, mailbox) := mailbox.markAll rest
    (count + new.toNat, mailbox)

/-- Takes what is pending. -/
def drain (mailbox : Mailbox) : IdSet × Mailbox :=
  (mailbox.pending, { mailbox with pending := ∅ })

/-- Closes the mailbox; the first reason stands. -/
def close (mailbox : Mailbox) (reason : CloseReason) : Mailbox :=
  match mailbox.closed, reason with
  | some _, _ => mailbox
  | none, .stopped => ⟨∅, some .stopped⟩
  | none, reason => { mailbox with closed := some reason }

theorem close_of_closed {mailbox : Mailbox} {reason : CloseReason}
    (closed : mailbox.closed = some reason) (later : CloseReason) :
    mailbox.close later = mailbox := by
  simp [close, closed]

/-- Takes what is pending if there is something, and tells an open empty mailbox from a closed
one. -/
def next (mailbox : Mailbox) : Delivery × Mailbox :=
  if mailbox.pending.isEmpty then
    (if mailbox.closed.isSome then .ended else .pending, mailbox)
  else
    let (ids, mailbox) := mailbox.drain
    (.changes ids, mailbox)

end Mailbox

end ChangeFeed
