/-
# A poller between two requests

`Poller.turn` asks its source, sends an event and commits without a pause. A poller shares its log
with writers and its outbox with a watcher, and all of them may come in between any two of its
requests. This module takes a poller's life apart into *stages* with one request, one event or one
wait in each step, so that others can have their say at every stage.

Nothing new is computed. A turn, a cycle and a priming are the stages they pass through when nobody
interferes, which is what `reaches_turn`, `reaches_cycle` and `reaches_prime` say.
-/

import ChangeFeed.Poller
import Mathlib.Logic.Relation

namespace ChangeFeed

/-- Where a poller stands with no batch and no event on its hands. -/
inductive Rest where
  /-- About to ask for the snapshot to start from, after so many failures in a row. -/
  | priming (attempts : Nat)
  /-- Waiting for a poll. -/
  | idle
  /-- About to begin a turn of the cycle `seq`. -/
  | turning (seq attempts : Nat)
  | stopped
  deriving DecidableEq, Repr

/-- Where a poller stands between two requests, events or waits. -/
inductive Stage where
  | resting (rest : Rest)
  /-- Adding entries to the batch of a turn. -/
  | filling (seq attempts : Nat) (batch : Batch)
  /-- About to send a batch, which is committed once it is sent. -/
  | handing (seq : Nat) (batch : Batch)
  /-- About to send an event that is no batch. -/
  | sending (event : Event) (rest : Rest)
  /-- About to wait before another attempt. -/
  | waiting (rest : Rest)
  deriving DecidableEq, Repr

/-- What a turn leaves to do, as a place to rest at. -/
def Turn.rest (seq : Nat) : Turn → Rest
  | .again attempts => .turning seq attempts
  | .finished .serving => .idle
  | .finished .stopped => .stopped

/-- Where a finished cycle or priming leaves its poller. -/
def Flow.rest : Flow → Rest
  | .serving => .idle
  | .stopped => .stopped

/-- What an attempt at priming leaves to do, as a place to rest at. -/
def Turn.primingRest : Turn → Rest
  | .again attempts => .priming attempts
  | .finished flow => flow.rest

/-- An opened cursor is the reader's cursor. -/
theorem Reader.cursor_of_openCursor {σ κ : Type} [Source σ κ] {reader after : Reader σ κ}
    {cursor : κ} (opened : reader.openCursor = (.ok cursor, after)) : after.cursor = some cursor := by
  unfold Reader.openCursor at opened
  split at opened
  · next present =>
    cases opened
    exact present
  · split at opened <;> cases opened
    rfl

namespace Poller

variable {σ κ : Type}

/-- After a retryable error: another attempt as far as the policy allows, or giving up. -/
def retrying (poller : Poller σ κ) (seq attempts : Nat) (error : ReadError) : Stage × Poller σ κ :=
  if poller.policy.allowsRetry attempts then
    (.waiting (.turning seq (attempts + 1)), poller)
  else
    (.sending (.cycleAborted seq error.message) .idle,
      { poller with reader := poller.reader.resetCursor })

/-- After an error while reading. -/
def failing (poller : Poller σ κ) (seq attempts : Nat) : ReadError → Stage × Poller σ κ
  | .resumeRejected _ => (.resting (.turning seq attempts), { poller with needsFreshStart := true })
  | .fatal reason => (.sending (.fatal reason) .stopped, poller)
  | .retryable reason => poller.retrying seq attempts (.retryable reason)

/-- A batch that is as full as it gets: the head of the log if it holds nothing. -/
def closing (seq : Nat) (batch : Batch) : Stage :=
  if batch.isEmpty then .sending (.cycleComplete seq) .idle else .handing seq batch

variable [Source σ κ]

/-- Asks for the snapshot to start from. -/
def primeStep (poller : Poller σ κ) (attempts : Nat) : Stage × Poller σ κ :=
  match poller.reader.prime with
  | (.ok none, reader) => (.resting .idle, { poller with reader })
  | (.ok (some snapshot), reader) => (.sending (.primed snapshot.changes) .idle, { poller with reader })
  | (.error (.fatal reason), reader) => (.sending (.fatal reason) .stopped, { poller with reader })
  | (.error _, reader) =>
    if poller.policy.allowsRetry attempts then
      (.waiting (.priming (attempts + 1)), { poller with reader })
    else (.resting .idle, { poller with reader })

/-- Asks for the snapshot that a fresh start needs. -/
def freshStartStep (poller : Poller σ κ) (seq attempts : Nat) : Stage × Poller σ κ :=
  match poller.reader.reopenFresh with
  | (.ok snapshot, reader) =>
    (.sending (.discontinuity snapshot) (.turning seq 0),
      { poller with reader, needsFreshStart := false })
  | (.error (.fatal reason), reader) => (.sending (.fatal reason) .stopped, { poller with reader })
  | (.error error, reader) => { poller with reader }.retrying seq attempts error

/-- Opens a cursor unless one is open. -/
def openStep (poller : Poller σ κ) (seq attempts : Nat) : Stage × Poller σ κ :=
  match poller.reader.openCursor with
  | (.ok _, reader) => (.filling seq attempts {}, { poller with reader })
  | (.error error, reader) => { poller with reader }.failing seq attempts error

/-- Asks for the next entry unless the batch is full. -/
def fillStep (poller : Poller σ κ) (seq attempts : Nat) (batch : Batch) : Stage × Poller σ κ :=
  if batch.changes.length < poller.reader.batchLimit then
    match poller.reader.cursor with
    | none => (closing seq batch, poller)
    | some cursor =>
      match Source.nextEntry cursor poller.reader.source with
      | (.error fault, _, source) =>
        { poller with reader := { poller.reader with source, cursor := none } }.failing seq attempts
          (.ofFault fault)
      | (.ok none, cursor, source) =>
        (closing seq batch,
          { poller with reader := { poller.reader with source, cursor := some cursor } })
      | (.ok (some entry), cursor, source) =>
        (.filling seq attempts
            (if Reader.isHandedOver poller.reader.committed entry then batch else batch.push entry),
          { poller with reader := { poller.reader with source, cursor := some cursor } })
  else (closing seq batch, poller)

/-- Waits before another attempt; a stop that arrives meanwhile ends the poller. -/
def waitStep (poller : Poller σ κ) (rest : Rest) : Stage × Poller σ κ :=
  let (interrupted, stopLine) := poller.stopLine.interrupts
  (.resting (if interrupted then .stopped else rest),
    { poller with retries := poller.retries + 1, stopLine })

/-- Sends a batch and commits it. -/
def handStep (poller : Poller σ κ) (seq : Nat) (batch : Batch) : Stage × Poller σ κ :=
  let (turn, poller) := poller.handOver batch
  (.resting (turn.rest seq), poller)

/-- Sends an event. -/
def sendStep (poller : Poller σ κ) (event : Event) (rest : Rest) : Stage × Poller σ κ :=
  match poller.send event with
  | (.serving, poller) => (.resting rest, poller)
  | (.stopped, poller) => (.resting .stopped, poller)

/-- One step of a poller: a request, an event or a wait. An idle or stopped poller has none. -/
def step (poller : Poller σ κ) : Stage → Stage × Poller σ κ
  | .resting (.priming attempts) => poller.primeStep attempts
  | .resting (.turning seq attempts) =>
    if poller.needsFreshStart then poller.freshStartStep seq attempts
    else poller.openStep seq attempts
  | .resting rest => (.resting rest, poller)
  | .filling seq attempts batch => poller.fillStep seq attempts batch
  | .handing seq batch => poller.handStep seq batch
  | .sending event rest => poller.sendStep event rest
  | .waiting rest => poller.waitStep rest

/-- One place and the next, when nobody interferes. -/
def Follows (before after : Stage × Poller σ κ) : Prop :=
  after = before.2.step before.1

/-- A poller gets from one place to another when nobody interferes. -/
abbrev Reaches (before after : Stage × Poller σ κ) : Prop :=
  Relation.ReflTransGen Follows before after

/-- What a turn left behind, as a stage. -/
def settled (seq : Nat) (outcome : Turn × Poller σ κ) : Stage × Poller σ κ :=
  (.resting (outcome.1.rest seq), outcome.2)

/-! ## Turns -/

theorem reaches_retry (poller : Poller σ κ) (seq attempts : Nat) (error : ReadError) :
    Reaches (poller.retrying seq attempts error) (settled seq (poller.retry seq attempts error)) := by
  unfold retrying retry
  split
  · apply Relation.ReflTransGen.single
    cases interrupted : poller.stopLine.interrupts.1 <;>
      simp [Follows, step, waitStep, settled, wait, interrupted, Turn.rest]
  · apply Relation.ReflTransGen.single
    by_cases watched : poller.watched <;>
      simp [Follows, step, sendStep, settled, abort, send, watched, Turn.rest]

theorem reaches_fail (poller : Poller σ κ) (seq : Nat) (reason : String) :
    Reaches (.sending (.fatal reason) .stopped, poller) (settled seq (poller.fail reason)) := by
  apply Relation.ReflTransGen.single
  by_cases watched : poller.watched <;>
    simp [Follows, step, sendStep, settled, fail, send, watched, Turn.rest]

/-- A turn that owes a fresh start, stage by stage. -/
theorem reaches_freshStartTurn (poller : Poller σ κ) (seq attempts : Nat) :
    Reaches (poller.freshStartStep seq attempts)
      (settled seq (poller.freshStartTurn seq attempts)) := by
  match reopened : poller.reader.reopenFresh with
  | (.ok snapshot, reader) =>
    apply Relation.ReflTransGen.single
    by_cases watched : poller.watched <;>
      simp [Follows, step, freshStartStep, freshStartTurn, reopened, sendStep, settled, send, watched,
        Turn.rest]
  | (.error (.fatal reason), reader) =>
    simpa only [freshStartStep, freshStartTurn, reopened] using reaches_fail _ seq reason
  | (.error (.retryable reason), reader) =>
    simpa only [freshStartStep, freshStartTurn, reopened] using reaches_retry _ seq attempts _
  | (.error (.resumeRejected position), reader) =>
    simpa only [freshStartStep, freshStartTurn, reopened] using reaches_retry _ seq attempts _

/-- What a reading turn does with an error. -/
def afterError (poller : Poller σ κ) (seq attempts : Nat) : ReadError → Turn × Poller σ κ
  | .resumeRejected _ => (.again attempts, { poller with needsFreshStart := true })
  | .fatal reason => poller.fail reason
  | .retryable reason => poller.retry seq attempts (.retryable reason)

/-- What a reading turn does with a batch. -/
def afterBatch (poller : Poller σ κ) (seq : Nat) (batch : Batch) : Turn × Poller σ κ :=
  if batch.isEmpty then
    let (flow, poller) := poller.send (.cycleComplete seq)
    (.finished flow, poller)
  else poller.handOver batch

theorem readTurn_eq (poller : Poller σ κ) (seq attempts : Nat) :
    poller.readTurn seq attempts =
      match poller.reader.next with
      | (.ok batch, reader) => { poller with reader }.afterBatch seq batch
      | (.error error, reader) => { poller with reader }.afterError seq attempts error := by
  unfold readTurn afterBatch
  split <;> simp_all [afterError]

theorem reaches_afterError (poller : Poller σ κ) (seq attempts : Nat) (error : ReadError) :
    Reaches (poller.failing seq attempts error)
      (settled seq (poller.afterError seq attempts error)) := by
  cases error with
  | resumeRejected position => exact .refl
  | fatal reason => exact reaches_fail poller seq reason
  | retryable reason => exact reaches_retry poller seq attempts _

theorem reaches_afterBatch (poller : Poller σ κ) (seq : Nat) (batch : Batch) :
    Reaches (closing seq batch, poller) (settled seq (poller.afterBatch seq batch)) := by
  unfold closing afterBatch
  apply Relation.ReflTransGen.single
  split
  · by_cases watched : poller.watched <;>
      simp [Follows, step, sendStep, settled, send, watched, Turn.rest]
  · rfl

/-- What filling a batch comes to. -/
def afterFill (poller : Poller σ κ) (seq attempts : Nat) :
    Except Fault Batch × κ × σ → Stage × Poller σ κ
  | (.error fault, _, source) =>
    { poller with reader := { poller.reader with source, cursor := none } }.failing seq attempts
      (.ofFault fault)
  | (.ok batch, cursor, source) =>
    (closing seq batch,
      { poller with reader := { poller.reader with source, cursor := some cursor } })

/-- A batch is filled by one request after the other. -/
theorem reaches_fill (poller : Poller σ κ) (seq attempts : Nat) (batch : Batch) (cursor : κ)
    (source : σ) :
    Reaches
      (.filling seq attempts batch,
        { poller with reader := { poller.reader with source, cursor := some cursor } })
      (poller.afterFill seq attempts
        (Reader.fill poller.reader.committed poller.reader.batchLimit batch cursor source)) := by
  fun_induction Reader.fill poller.reader.committed poller.reader.batchLimit batch cursor source with
  | case1 batch cursor source short fault later after read =>
    exact .single (by simp [Follows, step, fillStep, short, read, afterFill])
  | case2 batch cursor source short later after read =>
    exact .single (by simp [Follows, step, fillStep, short, read, afterFill])
  | case3 batch cursor source short entry later after read fewer handed ih =>
    exact .head (by simp [Follows, step, fillStep, short, read, handed]) ih
  | case4 batch cursor source short entry later after read fewer fresh ih =>
    exact .head (by simp [Follows, step, fillStep, short, read, fresh]) ih
  | case5 batch cursor source full =>
    exact .single (by simp [Follows, step, fillStep, full, afterFill])

/-- **A turn passes through its stages.** -/
theorem reaches_turn (poller : Poller σ κ) (seq attempts : Nat) :
    Reaches (.resting (.turning seq attempts), poller) (settled seq (poller.turn seq attempts)) := by
  by_cases owed : poller.needsFreshStart
  · have first : poller.step (.resting (.turning seq attempts)) =
        poller.freshStartStep seq attempts := by simp [step, owed]
    rw [turn, if_pos owed]
    exact .head first.symm (reaches_freshStartTurn poller seq attempts)
  · have first : poller.step (.resting (.turning seq attempts)) =
        poller.openStep seq attempts := by simp [step, owed]
    rw [turn, if_neg owed, readTurn_eq]
    refine .head first.symm ?_
    match opened : poller.reader.openCursor with
    | (.error error, reader) =>
      simpa only [openStep, Reader.next, opened] using reaches_afterError _ seq attempts error
    | (.ok cursor, reader) =>
      have current : reader.cursor = some cursor := Reader.cursor_of_openCursor opened
      have filled := reaches_fill { poller with reader } seq attempts {} cursor reader.source
      rw [show ({ reader with cursor := some cursor } : Reader σ κ) = reader by rw [← current]] at filled
      simp only [openStep, Reader.next, opened]
      apply filled.trans
      match Reader.fill reader.committed reader.batchLimit {} cursor reader.source with
      | (.error fault, _, source) => exact reaches_afterError _ seq attempts _
      | (.ok batch, cursor, source) => exact reaches_afterBatch _ seq batch

/-! ## Cycles -/

/-- Turns pass through their stages, to the rest of their poller if they end the cycle. -/
theorem reaches_turns (seq fuel attempts : Nat) (poller : Poller σ κ) :
    ∃ rest, Reaches (.resting (.turning seq attempts), poller)
        (.resting rest, (turns seq fuel attempts poller).2) ∧
      ∀ flow, (turns seq fuel attempts poller).1 = some flow → rest = flow.rest := by
  induction fuel generalizing attempts poller with
  | zero => exact ⟨_, .refl, fun _ ended => by cases ended⟩
  | succ fuel ih =>
    have turned := reaches_turn poller seq attempts
    match outcome : poller.turn seq attempts with
    | (.again attempts, later) =>
      obtain ⟨rest, reached, ended⟩ := ih attempts later
      rw [outcome] at turned
      rw [turns, outcome]
      exact ⟨rest, turned.trans reached, ended⟩
    | (.finished flow, later) =>
      rw [outcome] at turned
      rw [turns, outcome]
      refine ⟨flow.rest, ?_, fun _ ended => by cases ended; rfl⟩
      cases flow <;> exact turned

/-- **A cycle passes through its stages**, from its first turn to the rest of its poller. -/
theorem reaches_cycle (poller : Poller σ κ) (seq : Nat) :
    ∃ rest, Reaches (.resting (.turning seq 0), poller) (.resting rest, (poller.cycle seq).2) ∧
      ∀ flow, (poller.cycle seq).1 = some flow → rest = flow.rest :=
  reaches_turns seq poller.turnBound 0 poller

/-! ## Priming -/

theorem reaches_primeTurn (poller : Poller σ κ) (attempts : Nat) :
    Reaches (.resting (.priming attempts), poller)
      (.resting (Turn.primingRest (poller.primeTurn attempts).1), (poller.primeTurn attempts).2) := by
  refine .head rfl ?_
  match asked : poller.reader.prime with
  | (.ok none, reader) => simpa [step, primeStep, primeTurn, asked] using .refl
  | (.ok (some snapshot), reader) =>
    apply Relation.ReflTransGen.single
    by_cases watched : poller.watched <;>
      simp [Follows, step, primeStep, primeTurn, asked, sendStep, send, watched, Turn.primingRest,
        Flow.rest]
  | (.error (.fatal reason), reader) =>
    apply Relation.ReflTransGen.single
    by_cases watched : poller.watched <;>
      simp [Follows, step, primeStep, primeTurn, asked, sendStep, send, watched, fail,
        Turn.primingRest, Flow.rest]
  | (.error (.retryable _), reader) | (.error (.resumeRejected _), reader) =>
    by_cases allowed : poller.policy.allowsRetry attempts
    · apply Relation.ReflTransGen.single
      cases interrupted : poller.stopLine.interrupts.1 <;>
        simp [Follows, step, primeStep, primeTurn, asked, allowed, waitStep, wait, interrupted,
          Turn.primingRest, Flow.rest]
    · simpa [step, primeStep, primeTurn, asked, allowed] using .refl

theorem reaches_primeTurns (fuel attempts : Nat) (poller : Poller σ κ) :
    ∃ rest, Reaches (.resting (.priming attempts), poller)
        (.resting rest, (primeTurns fuel attempts poller).2) ∧
      ∀ flow, (primeTurns fuel attempts poller).1 = some flow → rest = flow.rest := by
  induction fuel generalizing attempts poller with
  | zero => exact ⟨_, .refl, fun _ ended => by cases ended⟩
  | succ fuel ih =>
    have turned := reaches_primeTurn poller attempts
    match outcome : poller.primeTurn attempts with
    | (.again attempts, later) =>
      obtain ⟨rest, reached, ended⟩ := ih attempts later
      rw [outcome] at turned
      rw [primeTurns, outcome]
      exact ⟨rest, turned.trans reached, ended⟩
    | (.finished flow, later) =>
      rw [outcome] at turned
      rw [primeTurns, outcome]
      exact ⟨flow.rest, turned, fun _ ended => by cases ended; rfl⟩

/-- **Priming passes through its stages.** -/
theorem reaches_prime (poller : Poller σ κ) :
    ∃ rest, Reaches (.resting (.priming 0), poller) (.resting rest, poller.prime.2) ∧
      ∀ flow, poller.prime.1 = some flow → rest = flow.rest :=
  reaches_primeTurns poller.turnBound 0 poller

end Poller

end ChangeFeed
