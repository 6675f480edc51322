/-
# Polls and sync requests

The controller decides when the reader is asked for a poll.  Polls are numbered 0, 1, 2, … and at
most one is outstanding.  An idle tick polls only when none is.  A sync request has to be answered
by a poll issued at its arrival or later, so behind an outstanding poll it waits for the next one,
which is issued as soon as the outstanding poll completes.  Polls that fail or are lost answer
nobody and lose nobody.

The desk keeps, beside the controller, what became of each request for those who asked.
-/

namespace ChangeFeed

/-- A sync request that waits for a poll numbered `needs` or above. -/
structure Waiter where
  ticket : Nat
  needs : Nat
  deriving DecidableEq, Repr

structure SyncController where
  /-- The number of the next poll. -/
  nextSeq : Nat := 0
  outstanding : Option Nat := none
  /-- Requests not yet answered, oldest first. -/
  waiters : List Waiter := []
  /-- How many polls have been issued. -/
  pollsIssued : Nat := 0
  deriving DecidableEq, Repr

namespace SyncController

/-- Issues the next poll. -/
def issue (controller : SyncController) : Nat × SyncController :=
  (controller.nextSeq,
    { controller with
      nextSeq := controller.nextSeq + 1
      outstanding := some controller.nextSeq
      pollsIssued := controller.pollsIssued + 1 })

/-- Issues a poll if none is outstanding. -/
def issueIfIdle (controller : SyncController) : Option Nat × SyncController :=
  match controller.outstanding with
  | some _ => (none, controller)
  | none =>
    let (seq, controller) := controller.issue
    (some seq, controller)

/-- An idle tick. -/
def tick (controller : SyncController) : Option Nat × SyncController :=
  controller.issueIfIdle

/-- A sync request, which needs a poll not yet issued. -/
def request (controller : SyncController) (ticket : Nat) : Option Nat × SyncController :=
  let waiter : Waiter := ⟨ticket, controller.nextSeq⟩
  { controller with waiters := controller.waiters ++ [waiter] }.issueIfIdle

/-- A poll is no longer outstanding: it was given up, or never reached the reader. -/
def release (controller : SyncController) (seq : Nat) : SyncController :=
  if controller.outstanding = some seq then { controller with outstanding := none } else controller

/-- A poll reached the head of the log: answers the requests that it satisfies, and issues the next
poll if others wait and none is outstanding. -/
def complete (controller : SyncController) (seq : Nat) :
    List Nat × Option Nat × SyncController :=
  let controller := controller.release seq
  let (answered, waiting) := controller.waiters.partition fun waiter => waiter.needs ≤ seq
  let controller := { controller with waiters := waiting }
  let (poll, controller) :=
    if waiting.isEmpty then (none, controller) else controller.issueIfIdle
  (answered.map (·.ticket), poll, controller)

/-- Forgets every request. -/
def failAll (controller : SyncController) : SyncController :=
  { controller with waiters := [] }

/-- How many requests wait. -/
def waiting (controller : SyncController) : Nat :=
  controller.waiters.length

end SyncController

/-- What became of a sync request. -/
inductive RequestState where
  | waiting
  /-- Answered by a poll. -/
  | done
  /-- Forgotten without an answer. -/
  | closed
  /-- The asker no longer waits for the answer. -/
  | gaveUp
  deriving DecidableEq, Repr

structure SyncDesk where
  controller : SyncController := {}
  /-- The state of each request, by ticket from 0. -/
  requests : List RequestState := []
  deriving DecidableEq, Repr

namespace SyncDesk

/-- A waiting request gets its answer; one that was given up stays so. -/
def settle (answer : RequestState) (state : RequestState) : RequestState :=
  if state = .waiting then answer else state

def tick (desk : SyncDesk) : Option Nat × SyncDesk :=
  let (poll, controller) := desk.controller.tick
  (poll, { desk with controller })

/-- Files a request under the next ticket. -/
def request (desk : SyncDesk) : Option Nat × SyncDesk :=
  let (poll, controller) := desk.controller.request desk.requests.length
  (poll, ⟨controller, desk.requests ++ [.waiting]⟩)

/-- Files a request that nobody will answer. -/
def refuse (desk : SyncDesk) : SyncDesk :=
  { desk with requests := desk.requests ++ [.closed] }

def complete (desk : SyncDesk) (seq : Nat) : Option Nat × SyncDesk :=
  let (answered, poll, controller) := desk.controller.complete seq
  (poll, ⟨controller, answered.foldl (fun states ticket => states.modify ticket (settle .done))
    desk.requests⟩)

def release (desk : SyncDesk) (seq : Nat) : SyncDesk :=
  { desk with controller := desk.controller.release seq }

/-- Closes every request that waits. -/
def failAll (desk : SyncDesk) : SyncDesk :=
  ⟨desk.controller.failAll, desk.requests.map (settle .closed)⟩

/-- The asker of a ticket leaves; the controller is not told. -/
def giveUp (desk : SyncDesk) (ticket : Nat) : SyncDesk :=
  { desk with requests := desk.requests.set ticket .gaveUp }

end SyncDesk

end ChangeFeed
