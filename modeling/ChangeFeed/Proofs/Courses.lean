/-
# What a turn comes to

A turn first *asks* its source and then *acts* on the reply; `turn_eq` takes a turn apart in this way.
`Course` lists all that acting can come to, with the events it sends, the failures it counts and what
it leaves alone. What is said of a cycle goes through that list, and never back to the turn.
-/

import ChangeFeed.Proofs.Reads
import ChangeFeed.Proofs.Stage

namespace ChangeFeed

/-- The event is sent in the middle of a cycle: a batch that holds something, and no more than the
limit, or a discontinuity. -/
inductive Event.IsInterim (limit : Nat) : Event → Prop where
  | batch {changes : List Change} (filled : changes ≠ []) (fits : changes.length ≤ limit) :
    IsInterim limit (.batch changes)
  | discontinuity (snapshot : Option Snapshot) : IsInterim limit (.discontinuity snapshot)

/-- The event is the last one of the cycle `seq`. -/
inductive Event.Concludes (seq : Nat) : Event → Prop where
  | complete : Concludes seq (.cycleComplete seq)
  | aborted (reason : String) : Concludes seq (.cycleAborted seq reason)
  | fatal (reason : String) : Concludes seq (.fatal reason)

namespace Reader

variable {σ κ : Type} [Source σ κ]

theorem batchLimit_reopenFresh (reader : Reader σ κ) :
    reader.reopenFresh.2.batchLimit = reader.batchLimit := by
  unfold reopenFresh
  split <;> rfl

end Reader

namespace Poller

/-! ## Asking and acting -/

/-- What a source replies to a turn. -/
inductive Reply where
  | freshStart (outcome : Except ReadError (Option Snapshot))
  | read (outcome : Except ReadError Batch)

namespace Reply

/-- The turn failed and may be tried again: a read that may succeed later, or a fresh start unless it
failed for good. -/
def isRetryable : Reply → Bool
  | freshStart (.error (.fatal _)) => false
  | freshStart (.error _) | read (.error (.retryable _)) => true
  | _ => false

/-- The cycle gets on: there is a batch to hand over, or reading has started anew. -/
def isProgress : Reply → Bool
  | freshStart (.ok _) => true
  | read (.ok batch) => !batch.isEmpty
  | _ => false

/-- A fresh start is owed after the reply. -/
def owes : Reply → Bool
  | freshStart (.error _) | read (.error (.resumeRejected _)) => true
  | _ => false

/-- A batch in the reply is within the limit. -/
def Fits (limit : Nat) (reply : Reply) : Prop :=
  ∀ batch, reply = .read (.ok batch) → batch.changes.length ≤ limit

theorem isProgress_of_isRetryable {reply : Reply} (retryable : reply.isRetryable = true) :
    reply.isProgress = false := by
  match reply with
  | .freshStart (.ok _) | .read (.ok _) => cases retryable
  | .freshStart (.error _) | .read (.error _) => rfl

theorem isRetryable_of_isProgress {reply : Reply} (progress : reply.isProgress = true) :
    reply.isRetryable = false := by
  apply Bool.eq_false_iff.mpr
  intro retryable
  rw [isProgress_of_isRetryable retryable] at progress
  cases progress

end Reply

section Acting

variable {σ κ : Type}

/-- What a turn does about a reply, once it is settled whether a fresh start is owed. -/
def act (poller : Poller σ κ) (seq attempts : Nat) : Reply → Turn × Poller σ κ
  | .freshStart (.ok snapshot) =>
    match poller.send (.discontinuity snapshot) with
    | (.serving, poller) => (.again 0, poller)
    | (.stopped, poller) => (.finished .stopped, poller)
  | .freshStart (.error (.fatal reason)) | .read (.error (.fatal reason)) => poller.fail reason
  | .freshStart (.error error) => poller.retry seq attempts error
  | .read (.error (.retryable reason)) => poller.retry seq attempts (.retryable reason)
  | .read (.error (.resumeRejected _)) => (.again attempts, poller)
  | .read (.ok batch) => poller.afterBatch seq batch

variable {poller later : Poller σ κ} {seq attempts : Nat} {reply : Reply} {sent : List Event}

/-- The event as it is sent: nothing is sent without a watcher. -/
def sending (poller : Poller σ κ) (event : Event) : List Event :=
  if poller.watched then [event] else []

/-- What acting leaves of a poller that has sent some events and counted some failures. -/
structure Leaves (poller later : Poller σ κ) (sent : List Event) (counted : Nat) : Prop where
  policy_eq : later.policy = poller.policy
  watched_eq : later.watched = poller.watched
  owed_eq : later.needsFreshStart = poller.needsFreshStart
  source_eq : later.reader.source = poller.reader.source
  batchLimit_eq : later.reader.batchLimit = poller.reader.batchLimit
  outbox_eq : later.outbox = poller.outbox ++ sent
  retries_eq : later.retries = poller.retries + counted

/-- All that acting on a reply can come to. -/
inductive Course (poller : Poller σ κ) (seq attempts : Nat) (reply : Reply) :
    Turn × Poller σ κ → Prop where
  /-- The cycle gets on and tells the watcher. -/
  | advances (later : Poller σ κ) (event : Event) (progress : reply.isProgress = true)
    (watched : poller.watched = true) (interim : event.IsInterim poller.reader.batchLimit)
    (line : later.stopLine = poller.stopLine) (leaves : poller.Leaves later [event] 0) :
    Course poller seq attempts reply (.again 0, later)
  /-- The place is rejected, which counts as no failure. -/
  | rejected (later : Poller σ κ) (position : Position)
    (rejects : reply = .read (.error (.resumeRejected position)))
    (line : later.stopLine = poller.stopLine) (leaves : poller.Leaves later [] 0) :
    Course poller seq attempts reply (.again attempts, later)
  /-- A failure will be tried again. -/
  | waits (later : Poller σ κ) (retryable : reply.isRetryable = true)
    (allowed : poller.policy.allowsRetry attempts = true)
    (undisturbed : poller.stopLine.interrupts.1 = false)
    (line : later.stopLine = poller.stopLine) (leaves : poller.Leaves later [] 1) :
    Course poller seq attempts reply (.again (attempts + 1), later)
  /-- A failure would be tried again, but the poller is told to stop while it waits. -/
  | interrupted (later : Poller σ κ) (retryable : reply.isRetryable = true)
    (allowed : poller.policy.allowsRetry attempts = true)
    (disturbed : poller.stopLine.interrupts.1 = true) (leaves : poller.Leaves later [] 1) :
    Course poller seq attempts reply (.finished .stopped, later)
  /-- A failure is not tried again. -/
  | abandons (flow : Flow) (later : Poller σ κ) (reason : String)
    (retryable : reply.isRetryable = true) (refused : poller.policy.allowsRetry attempts = false)
    (leaves : poller.Leaves later (poller.sending (.cycleAborted seq reason)) 0) :
    Course poller seq attempts reply (.finished flow, later)
  /-- The head of the log is reached, or nothing more can be read. -/
  | concludes (flow : Flow) (later : Poller σ κ) (event : Event)
    (progress : reply.isProgress = false) (retryable : reply.isRetryable = false)
    (concludes : event.Concludes seq) (kept : ∀ reason, event ≠ .cycleAborted seq reason)
    (leaves : poller.Leaves later (poller.sending event) 0) :
    Course poller seq attempts reply (.finished flow, later)
  /-- The cycle gets on and there is nobody to tell. -/
  | unheard (later : Poller σ κ) (progress : reply.isProgress = true)
    (unwatched : poller.watched = false) (leaves : poller.Leaves later [] 0) :
    Course poller seq attempts reply (.finished .stopped, later)

theorem leaves_send (poller : Poller σ κ) (event : Event) :
    poller.Leaves (poller.send event).2 (poller.sending event) 0 := by
  by_cases watched : poller.watched <;>
    constructor <;> simp [send, sending, watched]

theorem course_fail (progress : reply.isProgress = false) (retryable : reply.isRetryable = false)
    (reason : String) : Course poller seq attempts reply (poller.fail reason) :=
  .concludes .stopped _ _ progress retryable (.fatal reason) (fun _ same => by cases same)
    (leaves_send poller _)

theorem course_retry (retryable : reply.isRetryable = true) (error : ReadError) :
    Course poller seq attempts reply (poller.retry seq attempts error) := by
  unfold retry
  cases allowed : poller.policy.allowsRetry attempts with
  | true =>
    cases disturbed : poller.stopLine.interrupts.1 with
    | true =>
      have waited : poller.wait attempts = (.finished .stopped,
          { poller with retries := poller.retries + 1, stopLine := poller.stopLine.interrupts.2 }) := by
        simp only [wait, disturbed, if_true]
      rw [if_pos rfl, waited]
      exact .interrupted _ retryable allowed disturbed
        ⟨rfl, rfl, rfl, rfl, rfl, (List.append_nil _).symm, rfl⟩
    | false =>
      have waited : poller.wait attempts = (.again (attempts + 1),
          { poller with retries := poller.retries + 1, stopLine := poller.stopLine.interrupts.2 }) := by
        simp only [wait, disturbed, Bool.false_eq_true, if_false]
      have line : poller.stopLine.interrupts.2 = poller.stopLine := by
        have silent : poller.stopLine.signalled = false := (Bool.or_eq_false_iff.mp disturbed).1
        rw [StopLine.interrupts, ← silent]
      rw [if_pos rfl, waited]
      exact .waits _ retryable allowed disturbed line
        ⟨rfl, rfl, rfl, rfl, rfl, (List.append_nil _).symm, rfl⟩
  | false =>
    rw [if_neg Bool.false_ne_true]
    obtain ⟨policy_eq, watched_eq, owed_eq, source_eq, batchLimit_eq, outbox_eq, retries_eq⟩ :=
      leaves_send { poller with reader := poller.reader.resetCursor } (.cycleAborted seq error.message)
    exact .abandons _ _ error.message retryable allowed
      ⟨policy_eq, watched_eq, owed_eq, source_eq, batchLimit_eq, outbox_eq, retries_eq⟩

theorem source_commit (reader : Reader σ κ) (position : Position) :
    (reader.commit position).source = reader.source ∧
      (reader.commit position).batchLimit = reader.batchLimit := by
  unfold Reader.commit
  split <;> exact ⟨rfl, rfl⟩

theorem course_handOver {batch : Batch} (filled : batch.changes ≠ [])
    (fits : batch.changes.length ≤ poller.reader.batchLimit) :
    Course poller seq attempts (.read (.ok batch)) (poller.handOver batch) := by
  have progress : (Reply.read (.ok batch)).isProgress = true := by
    simpa [Reply.isProgress, Batch.isEmpty] using filled
  cases watched : poller.watched with
  | true =>
    have interim : (Event.batch batch.changes).IsInterim poller.reader.batchLimit :=
      .batch filled fits
    simp only [handOver, send, watched, if_true]
    cases batch.position with
    | none =>
      exact .advances _ _ progress watched interim rfl ⟨rfl, watched.symm, rfl, rfl, rfl, rfl, rfl⟩
    | some position =>
      obtain ⟨source_eq, batchLimit_eq⟩ := source_commit poller.reader position
      exact .advances _ _ progress watched interim rfl
        ⟨rfl, watched.symm, rfl, source_eq, batchLimit_eq, rfl, rfl⟩
  | false =>
    simp only [handOver, send, watched, Bool.false_eq_true, if_false]
    exact .unheard _ progress watched ⟨rfl, rfl, rfl, rfl, rfl, (List.append_nil _).symm, rfl⟩

theorem course_freshStart (snapshot : Option Snapshot) :
    Course poller seq attempts (.freshStart (.ok snapshot))
      (poller.act seq attempts (.freshStart (.ok snapshot))) := by
  cases watched : poller.watched with
  | true =>
    simp only [act, send, watched, if_true]
    exact .advances _ _ rfl watched (.discontinuity snapshot) rfl
      ⟨rfl, watched.symm, rfl, rfl, rfl, rfl, rfl⟩
  | false =>
    simp only [act, send, watched, Bool.false_eq_true, if_false]
    exact .unheard _ rfl watched ⟨rfl, rfl, rfl, rfl, rfl, (List.append_nil _).symm, rfl⟩

/-- **Acting takes one of the courses**, whatever the reply. -/
theorem course_act (seq attempts : Nat) (fits : reply.Fits poller.reader.batchLimit) :
    Course poller seq attempts reply (poller.act seq attempts reply) := by
  match reply with
  | .freshStart (.ok snapshot) => exact course_freshStart snapshot
  | .freshStart (.error (.fatal reason)) => exact course_fail rfl rfl reason
  | .freshStart (.error (.retryable reason)) => exact course_retry rfl _
  | .freshStart (.error (.resumeRejected position)) => exact course_retry rfl _
  | .read (.error (.fatal reason)) => exact course_fail rfl rfl reason
  | .read (.error (.retryable reason)) => exact course_retry rfl _
  | .read (.error (.resumeRejected position)) =>
    exact .rejected _ position rfl rfl ⟨rfl, rfl, rfl, rfl, rfl, (List.append_nil _).symm, rfl⟩
  | .read (.ok batch) =>
    cases empty : batch.isEmpty with
    | true =>
      have ends : poller.act seq attempts (.read (.ok batch)) =
          (.finished (poller.send (.cycleComplete seq)).1, (poller.send (.cycleComplete seq)).2) := by
        simp only [act, afterBatch, empty, if_true]
      have progress : (Reply.read (.ok batch)).isProgress = false := by
        simp only [Reply.isProgress, empty, Bool.not_true]
      rw [ends]
      exact .concludes _ _ _ progress rfl .complete (fun _ same => by cases same)
        (poller.leaves_send _)
    | false =>
      have hands : poller.act seq attempts (.read (.ok batch)) = poller.handOver batch := by
        simp only [act, afterBatch, empty, Bool.false_eq_true, if_false]
      rw [hands]
      apply course_handOver
      · intro nothing
        simp [Batch.isEmpty, nothing] at empty
      · exact fits batch rfl

end Acting

section Asking

variable {σ κ : Type} [Source σ κ]

/-- What a turn asks its source, and the reader after the reply. -/
def ask (poller : Poller σ κ) : Reply × Reader σ κ :=
  if poller.needsFreshStart then
    (.freshStart poller.reader.reopenFresh.1, poller.reader.reopenFresh.2)
  else (.read poller.reader.next.1, poller.reader.next.2)

/-- What a turn hears. -/
abbrev reply (poller : Poller σ κ) : Reply :=
  poller.ask.1

/-- The poller once it has heard the reply. -/
def heard (poller : Poller σ κ) : Poller σ κ :=
  { poller with reader := poller.ask.2, needsFreshStart := poller.reply.owes }

/-- **A turn asks and then acts on the reply.** -/
theorem turn_eq (poller : Poller σ κ) (seq attempts : Nat) :
    poller.turn seq attempts = poller.heard.act seq attempts poller.reply := by
  cases owed : poller.needsFreshStart with
  | true =>
    rw [turn, if_pos owed, freshStartTurn]
    simp only [heard, reply, ask, owed, if_true]
    generalize poller.reader.reopenFresh = asked
    obtain ⟨outcome, reader⟩ := asked
    cases outcome with
    | ok snapshot => rfl
    | error error => cases error <;> rfl
  | false =>
    rw [turn, if_neg (Bool.eq_false_iff.mp owed), readTurn]
    simp only [heard, reply, ask, owed, Bool.false_eq_true, if_false]
    generalize poller.reader.next = read
    obtain ⟨outcome, reader⟩ := read
    cases outcome with
    | ok batch => rfl
    | error error => cases error <;> rfl

theorem batchLimit_heard (poller : Poller σ κ) :
    poller.heard.reader.batchLimit = poller.reader.batchLimit := by
  simp only [heard, ask]
  split
  · exact poller.reader.batchLimit_reopenFresh
  · exact poller.reader.batchLimit_next

theorem fits_reply (poller : Poller σ κ) : poller.reply.Fits poller.heard.reader.batchLimit := by
  intro batch told
  rw [batchLimit_heard]
  simp only [reply, ask] at told
  split at told
  · cases told
  · exact Reader.length_next_le (Reply.read.inj told)

/-- A turn takes one of the courses from where the reply has left its poller. -/
theorem course_turn (poller : Poller σ κ) (seq attempts : Nat) :
    Course poller.heard seq attempts poller.reply (poller.turn seq attempts) :=
  poller.turn_eq seq attempts ▸ course_act seq attempts poller.fits_reply

end Asking

end Poller

end ChangeFeed
