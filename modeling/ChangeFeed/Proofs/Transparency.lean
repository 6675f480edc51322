/-
# Passing faults make no difference to the events

A fault that passes, or a cursor that has become invalid, costs a cycle time and retries. This module
shows that it costs nothing else. What a cycle is going to send is settled when it begins, by the log,
the reader's place and whether a fresh start is owed: `due` writes it down. A turn sends the first of
what is due, or it fails and leaves all of it due. So whoever gets to the end of the cycle has sent
exactly what was due, and a cycle without any trouble gets there.
-/

import ChangeFeed.Proofs.Batches
import ChangeFeed.Proofs.Cycles

namespace ChangeFeed

/-- A fault that another attempt may get past. -/
def Fault.isPassing : Fault → Bool
  | .transient _ | .cursorInvalidated => true
  | .positionExpired _ | .fatal _ => false

theorem ReadError.ofFault_of_isPassing {fault : Fault} (passing : fault.isPassing = true) :
    ∃ reason, ReadError.ofFault fault = .retryable reason := by
  cases fault with
  | transient reason => exact ⟨reason, rfl⟩
  | cursorInvalidated => exact ⟨_, rfl⟩
  | positionExpired _ | fatal _ => cases passing

namespace MemoryLog

/-- The snapshot that the log gives when the request does not fail. -/
def snapshot? (log : MemoryLog) : Option Snapshot :=
  if log.supportsSnapshots then some ⟨log.revisions.toChanges, some log.lastPosition⟩ else none

/-- Where a reader begins after a fresh start. -/
def freshPlace (log : MemoryLog) : Position :=
  if log.supportsSnapshots then log.lastPosition else log.horizon

/-- A request for a snapshot fails, or it is answered. -/
theorem takeSnapshot_answers (log : MemoryLog) :
    (∃ fault after, Source.takeSnapshot log = (.error fault, after) ∧ after.IsLeftOf log ∧
        fault ∈ log.faults) ∨
      Source.takeSnapshot log = (.ok log.snapshot?, log) := by
  rcases log.takeSnapshot_cases with
    ⟨fault, after, failed, isLeft, meets⟩ | ⟨supports, -, asked⟩ | ⟨unsupported, asked⟩
  · exact Or.inl ⟨fault, after, failed, isLeft, meets.mem⟩
  · exact Or.inr (by rw [asked, snapshot?, if_pos supports])
  · apply Or.inr
    rw [asked, snapshot?, if_neg (by rw [unsupported]; exact Bool.false_ne_true)]

theorem Records.horizon_le_freshPlace {log : MemoryLog} {history : List Change}
    (records : log.Records history) : log.horizon ≤ log.freshPlace := by
  unfold freshPlace
  split
  · exact records.lastPosition_eq ▸ records.horizon_le
  · exact Nat.le_refl _

theorem Records.freshPlace_le {log : MemoryLog} {history : List Change}
    (records : log.Records history) : log.freshPlace ≤ history.length := by
  unfold freshPlace
  split
  · exact Nat.le_of_eq records.lastPosition_eq
  · exact records.horizon_le

/-- The position that comes with the snapshot is where the reader begins. -/
theorem getD_snapshot? (log : MemoryLog) :
    (log.snapshot?.bind (·.position)).getD log.horizon = log.freshPlace := by
  unfold snapshot? freshPlace
  split <;> rfl

theorem SameContents.snapshot?_eq {log other : MemoryLog} (same : other.SameContents log) :
    other.snapshot? = log.snapshot? := by
  rw [snapshot?, same.supportsSnapshots_eq, same.revisions_eq, same.lastPosition_eq, snapshot?]

theorem SameContents.freshPlace_eq {log other : MemoryLog} (same : other.SameContents log) :
    other.freshPlace = log.freshPlace := by
  rw [freshPlace, same.supportsSnapshots_eq, same.lastPosition_eq, same.horizon_eq, freshPlace]

end MemoryLog

/-- What a cycle sends from a place that has not expired: the rest of the history in batches, and the
news that it is complete. -/
def readingFrom (history : List Change) (limit seq : Nat) (start : Position) : List Event :=
  if start < history.length ∧ 0 < limit then
    .batch (between history start (batchEnd history limit start)) ::
      readingFrom history limit seq (batchEnd history limit start)
  else [.cycleComplete seq]
termination_by history.length - start
decreasing_by
  unfold batchEnd
  lia

section ReadingFrom

variable {history : List Change} {limit seq : Nat} {start : Position}

theorem readingFrom_of_lt (positive : 0 < limit) (later : start < history.length) :
    readingFrom history limit seq start =
      .batch (between history start (batchEnd history limit start)) ::
        readingFrom history limit seq (batchEnd history limit start) := by
  rw [readingFrom, if_pos ⟨later, positive⟩]

theorem readingFrom_of_le (reached : history.length ≤ start) :
    readingFrom history limit seq start = [.cycleComplete seq] := by
  rw [readingFrom, if_neg fun later => Nat.not_lt_of_le reached later.1]

/-- There are no more batches than changes. -/
theorem length_readingFrom_le (history : List Change) (limit seq : Nat) (start : Position) :
    (readingFrom history limit seq start).length ≤ history.length - start + 1 := by
  fun_induction readingFrom history limit seq start with
  | case1 start later ih =>
    rw [List.length_cons]
    unfold batchEnd at ih ⊢
    lia
  | case2 start done => exact Nat.le_add_left 1 _

end ReadingFrom

namespace Poller

variable {history : List Change} {seq attempts : Nat} {poller later : Poller MemoryLog MemoryLog.Cursor}

/-- The poller's place is not to be had any more. -/
def IsLost (poller : Poller MemoryLog MemoryLog.Cursor) : Prop :=
  poller.needsFreshStart = true ∨ poller.reader.place < poller.reader.source.horizon

instance (poller : Poller MemoryLog MemoryLog.Cursor) : Decidable poller.IsLost := by
  unfold IsLost
  infer_instance

/-- The events that the cycle has still to send if it completes. -/
def due (history : List Change) (seq : Nat) (poller : Poller MemoryLog MemoryLog.Cursor) :
    List Event :=
  if poller.IsLost then
    .discontinuity poller.reader.source.snapshot? ::
      readingFrom history poller.reader.batchLimit seq poller.reader.source.freshPlace
  else readingFrom history poller.reader.batchLimit seq poller.reader.place

/-- The poller is in place for a turn, and no fault that waits will stop it for good. -/
structure IsReady (history : List Change) (poller : Poller MemoryLog MemoryLog.Cursor) : Prop where
  records : poller.reader.source.Records history
  place_le : poller.reader.place ≤ history.length
  aligned : poller.reader.IsAligned
  watched : poller.watched = true
  passing : ∀ fault ∈ poller.reader.source.faults, fault.isPassing = true

/-- Nothing is going to fail. -/
structure IsCalm (poller : Poller MemoryLog MemoryLog.Cursor) : Prop where
  faults_eq : poller.reader.source.faults = []
  current : poller.reader.IsCurrent

/-- A measure of what is left to do. A fresh start that is owed is one turn nearer to its end than one
that has yet to be found out. -/
def work (history : List Change) (seq : Nat) (poller : Poller MemoryLog MemoryLog.Cursor) : Nat :=
  2 * (poller.due history seq).length + if poller.needsFreshStart then 0 else 1

/-- What a turn comes to: it sends some of what is due and leaves the rest, or it sends all of it and
completes the cycle, or it gives the cycle up. Without trouble it never gives up, and some work is
done. -/
inductive Outcome (history : List Change) (seq : Nat) (poller : Poller MemoryLog MemoryLog.Cursor) :
    Turn × Poller MemoryLog MemoryLog.Cursor → Prop where
  | goesOn (attempts : Nat) (later : Poller MemoryLog MemoryLog.Cursor) (sent : List Event)
    (ready : later.IsReady history)
    (calm : poller.IsCalm → later.IsCalm ∧ later.work history seq < poller.work history seq)
    (outbox_eq : later.outbox = poller.outbox ++ sent)
    (due_eq : poller.due history seq = sent ++ later.due history seq)
    (unfinished : .cycleComplete seq ∉ sent) : Outcome history seq poller (.again attempts, later)
  | completes (flow : Flow) (later : Poller MemoryLog MemoryLog.Cursor)
    (outbox_eq : later.outbox = poller.outbox ++ poller.due history seq)
    (committed_eq : later.reader.committed = some history.length) :
    Outcome history seq poller (.finished flow, later)
  | givesUp (flow : Flow) (later : Poller MemoryLog MemoryLog.Cursor) (sent : List Event)
    (troubled : ¬ poller.IsCalm) (outbox_eq : later.outbox = poller.outbox ++ sent)
    (unfinished : .cycleComplete seq ∉ sent) : Outcome history seq poller (.finished flow, later)

/-! ## Turns -/

theorem send_of_watched (watched : poller.watched = true) (event : Event) :
    poller.send event = (.serving, { poller with outbox := poller.outbox ++ [event] }) := by
  rw [send, if_pos watched]

/-- What is due depends on the place of the reader and on the contents of the log. -/
theorem due_congr (same : later.reader.source.SameContents poller.reader.source)
    (place : later.reader.place = poller.reader.place)
    (limit : later.reader.batchLimit = poller.reader.batchLimit)
    (lost : later.IsLost ↔ poller.IsLost) : later.due history seq = poller.due history seq := by
  simp only [due, lost, place, limit, same.snapshot?_eq, same.freshPlace_eq]

/-- A reader that is left of a ready one after a request that failed is ready. -/
theorem IsReady.left (ready : poller.IsReady history)
    (isLeft : later.reader.IsLeftOf poller.reader) (watched : later.watched = poller.watched) :
    later.IsReady history where
  records := isLeft.source.contents.records ready.records
  place_le := isLeft.place_eq ▸ ready.place_le
  aligned := Reader.isAligned_of_closed isLeft.cursor_eq
  watched := watched.trans ready.watched
  passing fault waiting := ready.passing fault (isLeft.source.faults_subset fault waiting)

/-- Only trouble makes a request fail. -/
theorem not_isCalm_of_mem_faults {fault : Fault} (waiting : fault ∈ poller.reader.source.faults) :
    ¬ poller.IsCalm := by
  intro calm
  rw [calm.faults_eq] at waiting
  cases waiting

/-- Trying again sends nothing, and neither does giving up complete a cycle. -/
theorem outcome_retry (troubled : ¬ poller.IsCalm) (ready : later.IsReady history)
    (outbox_eq : later.outbox = poller.outbox)
    (due_eq : later.due history seq = poller.due history seq) (error : ReadError) :
    Outcome history seq poller (later.retry seq attempts error) := by
  unfold retry
  split
  · let waited : Poller MemoryLog MemoryLog.Cursor :=
      { later with retries := later.retries + 1, stopLine := later.stopLine.interrupts.2 }
    have sent : waited.outbox = poller.outbox ++ [] := by rw [List.append_nil]; exact outbox_eq
    cases interrupted : later.stopLine.interrupts.1 with
    | true =>
      have stops : later.wait attempts = (.finished .stopped, waited) := by
        simp only [wait, interrupted, if_true, waited]
      exact stops ▸ .givesUp .stopped waited [] troubled sent List.not_mem_nil
    | false =>
      have waits : later.wait attempts = (.again (attempts + 1), waited) := by
        simp [wait, interrupted, waited]
      exact waits ▸ .goesOn (attempts + 1) waited [] { ready with }
        (fun calm => absurd calm troubled) sent due_eq.symm List.not_mem_nil
  · have watched : ({ later with reader := later.reader.resetCursor } :
        Poller MemoryLog MemoryLog.Cursor).watched = true := ready.watched
    unfold abort
    simp only [send_of_watched watched]
    exact .givesUp .serving _ [.cycleAborted seq error.message] troubled
      (congrArg (· ++ _) outbox_eq) (by simp)

theorem due_of_isLost (lost : poller.IsLost) :
    poller.due history seq = .discontinuity poller.reader.source.snapshot? ::
      readingFrom history poller.reader.batchLimit seq poller.reader.source.freshPlace :=
  if_pos lost

theorem due_of_not_isLost (owed : poller.needsFreshStart = false)
    (held : poller.reader.source.horizon ≤ poller.reader.place) :
    poller.due history seq =
      readingFrom history poller.reader.batchLimit seq poller.reader.place := by
  apply if_neg
  rintro (fresh | expired)
  · rw [owed] at fresh
    cases fresh
  · exact Nat.not_lt_of_le held expired

/-- A fresh start that succeeds sends the discontinuity that is due. -/
theorem outcome_freshStartTurn (ready : poller.IsReady history)
    (owed : poller.needsFreshStart = true) :
    Outcome history seq poller (poller.freshStartTurn seq attempts) := by
  rcases poller.reader.source.takeSnapshot_answers with ⟨fault, source, asked, isLeft, waiting⟩ | asked
  · obtain ⟨reason, retryable⟩ := ReadError.ofFault_of_isPassing (ready.passing fault waiting)
    let left : Reader MemoryLog MemoryLog.Cursor := { poller.reader with source, cursor := none }
    have stays : left.IsLeftOf poller.reader :=
      ⟨isLeft, rfl, Reader.place_eq_of_isLeftOf poller.reader left isLeft (Or.inl rfl), rfl⟩
    let failed : Poller MemoryLog MemoryLog.Cursor := { poller with reader := left }
    have turned : poller.freshStartTurn seq attempts =
        failed.retry seq attempts (.retryable reason) := by
      simp only [freshStartTurn, Reader.reopenFresh, asked, retryable]
      rfl
    have leftReady : failed.IsReady history := ready.left stays rfl
    have leftDue : failed.due history seq = poller.due history seq :=
      due_congr isLeft.contents stays.place_eq rfl (by simp [IsLost, owed, failed])
    rw [turned]
    exact outcome_retry (not_isCalm_of_mem_faults waiting) leftReady rfl leftDue _
  · let log := poller.reader.source
    let fresh : Reader MemoryLog MemoryLog.Cursor :=
      { poller.reader with cursor := none, committed := log.snapshot?.bind (·.position) }
    let started : Poller MemoryLog MemoryLog.Cursor :=
      { poller with
        reader := fresh
        needsFreshStart := false
        outbox := poller.outbox ++ [.discontinuity log.snapshot?] }
    have turned : poller.freshStartTurn seq attempts = (.again 0, started) := by
      simp only [freshStartTurn, Reader.reopenFresh, asked, send, ready.watched, if_true, started,
        fresh, log]
    have place : started.reader.place = log.freshPlace := log.getD_snapshot?
    have due_eq : poller.due history seq =
        [.discontinuity log.snapshot?] ++ started.due history seq := by
      rw [due_of_isLost (Or.inl owed), due_of_not_isLost rfl
        (place ▸ ready.records.horizon_le_freshPlace), place]
      rfl
    rw [turned]
    refine .goesOn 0 started [.discontinuity log.snapshot?] ?_ (fun calm => ⟨?_, ?_⟩) rfl due_eq
      (by simp)
    · exact
        { records := ready.records
          place_le := place ▸ ready.records.freshPlace_le
          aligned := Reader.isAligned_of_closed rfl
          watched := ready.watched
          passing := ready.passing }
    · exact ⟨calm.faults_eq, fun cursor present => by cases present⟩
    · rw [work, work, due_eq, owed, List.length_append, List.length_singleton]
      simp only [started, if_true, Bool.false_eq_true, if_false]
      lia

/-- A read that fails leaves what is due, whether it is tried again or leads to a fresh start. -/
theorem outcome_afterError (ready : poller.IsReady history) (owed : poller.needsFreshStart = false)
    {fault : Fault} {after : Reader MemoryLog MemoryLog.Cursor}
    (isLeft : after.IsLeftOf poller.reader)
    (reason : Reader.IsRefused poller.reader.source (¬ poller.reader.IsCurrent) poller.reader.place
      fault) :
    Outcome history seq poller
      (({ poller with reader := after } : Poller MemoryLog MemoryLog.Cursor).afterError seq attempts
        (.ofFault fault)) := by
  let failed : Poller MemoryLog MemoryLog.Cursor := { poller with reader := after }
  have horizon_eq := isLeft.source.contents.horizon_eq
  have leftReady : failed.IsReady history := ready.left isLeft rfl
  have leftDue : failed.due history seq = poller.due history seq :=
    due_congr isLeft.source.contents isLeft.place_eq isLeft.batchLimit_eq
      (by simp only [IsLost, failed, isLeft.place_eq, horizon_eq])
  have retried : ∀ reason, ReadError.ofFault fault = .retryable reason → ¬ poller.IsCalm →
      Outcome history seq poller (failed.afterError seq attempts (.ofFault fault)) := by
    intro reason retryable troubled
    rw [retryable]
    exact outcome_retry troubled leftReady rfl leftDue _
  rcases reason with waiting | ⟨invalid, rfl⟩ | ⟨expired, position, rfl⟩
  · obtain ⟨reason, retryable⟩ := ReadError.ofFault_of_isPassing (ready.passing fault waiting)
    exact retried reason retryable (not_isCalm_of_mem_faults waiting)
  · exact retried _ rfl fun calm => invalid calm.current
  · let owing : Poller MemoryLog MemoryLog.Cursor := { failed with needsFreshStart := true }
    have due_eq : owing.due history seq = poller.due history seq :=
      due_congr isLeft.source.contents isLeft.place_eq isLeft.batchLimit_eq
        (iff_of_true (Or.inl rfl) (Or.inr expired))
    refine .goesOn attempts owing [] { leftReady with } (fun calm => ⟨⟨?_, ?_⟩, ?_⟩)
      (List.append_nil _).symm due_eq.symm List.not_mem_nil
    · apply List.eq_nil_iff_forall_not_mem.mpr
      intro fault waiting
      have before := isLeft.source.faults_subset fault waiting
      rw [calm.faults_eq] at before
      cases before
    · intro cursor present
      exact absurd present (isLeft.cursor_eq ▸ Option.some_ne_none cursor).symm
    · rw [work, work, due_eq, owed]
      exact Nat.lt_succ_self _

/-- A batch that is read is the first of what is due; without a change in it all that is due is the
news that the cycle is complete. -/
theorem outcome_afterBatch (ready : poller.IsReady history) (owed : poller.needsFreshStart = false)
    (held : poller.reader.source.horizon ≤ poller.reader.place) {cursor : MemoryLog.Cursor}
    (stands : cursor.after = batchEnd history poller.reader.batchLimit poller.reader.place)
    (current : poller.reader.IsCurrent → cursor.generation = poller.reader.source.generation) :
    Outcome history seq poller
      (({ poller with
          reader := { poller.reader with
            cursor := some cursor, committed := some poller.reader.place } } :
        Poller MemoryLog MemoryLog.Cursor).afterBatch seq
          (Batch.spanning history poller.reader.place
            (batchEnd history poller.reader.batchLimit poller.reader.place))) := by
  let start := poller.reader.place
  let stop := batchEnd history poller.reader.batchLimit start
  have positive := poller.reader.batchLimit_pos
  have place_le : start ≤ history.length := ready.place_le
  have stop_le : stop ≤ history.length := Nat.min_le_right _ _
  have start_le : start ≤ stop := Nat.le_min.mpr ⟨Nat.le_add_right _ _, place_le⟩
  have isEmpty_iff := Batch.isEmpty_spanning_iff start_le stop_le
  have due_eq : poller.due history seq =
      readingFrom history poller.reader.batchLimit seq start := due_of_not_isLost owed held
  by_cases done : history.length ≤ start
  · have reached : start = history.length := Nat.le_antisymm place_le done
    have empty : (Batch.spanning history start stop).isEmpty = true :=
      isEmpty_iff.mpr (Nat.le_antisymm start_le (Nat.le_trans stop_le done))
    rw [afterBatch, if_pos empty]
    simp only [send, ready.watched, if_true]
    refine .completes .serving _ ?_ (congrArg some reached)
    rw [due_eq, readingFrom_of_le done]
  · have inside : start < history.length := Nat.lt_of_not_le done
    have moves : start < stop := Nat.lt_min.mpr ⟨Nat.lt_add_of_pos_right positive, inside⟩
    have nonempty : ¬ (Batch.spanning history start stop).isEmpty = true := fun empty =>
      Nat.ne_of_lt moves (isEmpty_iff.mp empty)
    have position : (Batch.spanning history start stop).position = some stop := if_pos moves
    let sent : List Event := [.batch (between history start stop)]
    let committed : Reader MemoryLog MemoryLog.Cursor :=
      { poller.reader with cursor := some cursor, committed := some stop }
    let later : Poller MemoryLog MemoryLog.Cursor :=
      { poller with reader := committed, outbox := poller.outbox ++ sent }
    have turned : ({ poller with
          reader := { poller.reader with cursor := some cursor, committed := some start } } :
        Poller MemoryLog MemoryLog.Cursor).afterBatch seq (Batch.spanning history start stop) =
          (.again 0, later) := by
      rw [afterBatch, if_neg nonempty]
      simp only [handOver, send, ready.watched, if_true, position, Reader.commit,
        Nat.max_eq_right start_le, later, committed]
      rfl
    have laterDue : later.due history seq =
        readingFrom history poller.reader.batchLimit seq stop :=
      due_of_not_isLost owed (Nat.le_trans held start_le)
    have due_split : poller.due history seq = sent ++ later.due history seq := by
      rw [due_eq, laterDue, readingFrom_of_lt positive inside]
      rfl
    rw [turned]
    refine .goesOn 0 later sent ?_ (fun calm => ⟨⟨calm.faults_eq, ?_⟩, ?_⟩) rfl due_split
      (by simp [sent])
    · exact
        { records := ready.records
          place_le := stop_le
          aligned := fun other present => by
            rw [← Option.some.inj present, stands]
          watched := ready.watched
          passing := ready.passing }
    · intro other present
      rw [← Option.some.inj present]
      exact current calm.current
    · rw [work, work, due_split, List.length_append]
      show 2 * _ + (if poller.needsFreshStart then 0 else 1) < 2 * (1 + _) + _
      lia

/-- **A turn sends the first of what is due, or it leaves all of it due.** -/
theorem outcome_turn (seq attempts : Nat) (ready : poller.IsReady history) :
    Outcome history seq poller (poller.turn seq attempts) := by
  unfold turn
  split
  · next owed => exact outcome_freshStartTurn ready owed
  · next owed =>
    have none : poller.needsFreshStart = false := by simpa using owed
    rw [readTurn_eq]
    rcases Reader.next_cases ready.records ready.place_le ready.aligned with
      ⟨fault, after, failed, isLeft, reason⟩ | ⟨held, cursor, read, stands, current⟩
    · simp only [failed]
      exact outcome_afterError ready none isLeft reason
    · simp only [read]
      exact outcome_afterBatch ready none held stands current

/-! ## Cycles -/

/-- **A cycle that completes has sent what was due**, and the reader has caught up. -/
theorem turns_eq_due_of_completed (seq fuel attempts : Nat) (ready : poller.IsReady history) :
    ∃ sent, (turns seq fuel attempts poller).2.outbox = poller.outbox ++ sent ∧
      (.cycleComplete seq ∈ sent → sent = poller.due history seq ∧
        (turns seq fuel attempts poller).2.reader.committed = some history.length) := by
  induction fuel generalizing attempts poller with
  | zero => exact ⟨[], (List.append_nil _).symm, fun member => by cases member⟩
  | succ fuel ih =>
    have outcome := outcome_turn seq attempts ready
    rw [turns]
    generalize poller.turn seq attempts = turned at outcome
    cases outcome with
    | goesOn attempts later first ready _ outbox_eq due_eq unfinished =>
      obtain ⟨rest, sent, completed⟩ := ih attempts ready
      refine ⟨first ++ rest, ?_, fun member => ?_⟩
      · rw [← List.append_assoc, ← outbox_eq]
        exact sent
      · have later := completed ((List.mem_append.mp member).resolve_left unfinished)
        exact ⟨by rw [due_eq, later.1], later.2⟩
    | completes flow later outbox_eq committed_eq =>
      exact ⟨_, outbox_eq, fun _ => ⟨rfl, committed_eq⟩⟩
    | givesUp flow later sent _ outbox_eq unfinished =>
      exact ⟨sent, outbox_eq, fun member => absurd member unfinished⟩

/-- **Without trouble a cycle completes**, if it is given the turns that the work takes. -/
theorem turns_eq_due_of_isCalm (seq fuel attempts : Nat) (ready : poller.IsReady history)
    (calm : poller.IsCalm) (enough : poller.work history seq < fuel) :
    (turns seq fuel attempts poller).2.outbox = poller.outbox ++ poller.due history seq ∧
      (turns seq fuel attempts poller).2.reader.committed = some history.length := by
  induction fuel generalizing attempts poller with
  | zero => exact absurd enough (Nat.not_lt_zero _)
  | succ fuel ih =>
    have outcome := outcome_turn seq attempts ready
    rw [turns]
    generalize poller.turn seq attempts = turned at outcome
    cases outcome with
    | goesOn attempts later first ready lighter outbox_eq due_eq _ =>
      obtain ⟨still, fewer⟩ := lighter calm
      obtain ⟨sent, committed⟩ := ih attempts ready still (by lia)
      refine ⟨?_, committed⟩
      rw [due_eq, ← List.append_assoc, ← outbox_eq]
      exact sent
    | completes flow later outbox_eq committed_eq => exact ⟨outbox_eq, committed_eq⟩
    | givesUp flow later sent troubled => exact absurd calm troubled

/-- A cycle is given turns enough for the work that there is. -/
theorem work_lt_turnBound (seq : Nat) (ready : poller.IsReady history) :
    poller.work history seq < poller.turnBound := by
  let log := poller.reader.source
  have held : log.entries.length = history.length - log.horizon := by
    rw [ready.records.entries_eq, MemoryLog.length_numberedFrom, List.length_drop]
  have backlog : history.length - log.horizon ≤ Source.backlog log := by
    show _ ≤ log.entries.length + _ + _ + _
    lia
  have due_le : (poller.due history seq).length ≤ history.length - log.horizon + 2 := by
    unfold due
    split
    · have reading := length_readingFrom_le history poller.reader.batchLimit seq log.freshPlace
      have beyond := ready.records.horizon_le_freshPlace
      rw [List.length_cons]
      lia
    · next kept =>
      have reading :=
        length_readingFrom_le history poller.reader.batchLimit seq poller.reader.place
      have beyond : log.horizon ≤ poller.reader.place :=
        Nat.le_of_not_lt fun expired => kept (Or.inr expired)
      lia
  have owed_le : (if poller.needsFreshStart then 0 else 1) ≤ 1 := by split <;> decide
  show 2 * _ + _ < 4 * Source.backlog log + 16
  lia

end Poller

/-! ## Two runs of one cycle -/

/-- What is wrong with a log for the time being: the faults that wait, and the generation of the
cursors that can be read. -/
structure MemoryLog.Trouble where
  openFaults : List Fault := []
  readFaults : List Fault := []
  snapshotFaults : List Fault := []
  generation : Nat := 0

/-- Every fault that waits is one that passes. -/
def MemoryLog.Trouble.IsPassing (trouble : MemoryLog.Trouble) : Prop :=
  ∀ fault ∈ trouble.openFaults ++ trouble.readFaults ++ trouble.snapshotFaults,
    fault.isPassing = true

namespace Reading

variable {reading : Reading} {history : List Change} {quiet noisy : MemoryLog.Trouble} {seq : Nat}

/-- The reading with some trouble in its log in place of what was there. -/
def troubled (reading : Reading) (trouble : MemoryLog.Trouble) : Reading :=
  { reading with
    poller.reader.source := { reading.log with
      openFaults := trouble.openFaults
      readFaults := trouble.readFaults
      snapshotFaults := trouble.snapshotFaults
      generation := trouble.generation } }

/-- A sound reading is ready for a turn under any trouble that passes. -/
theorem IsSound.isReady_troubled (sound : reading.IsSound) {trouble : MemoryLog.Trouble}
    (passing : trouble.IsPassing) :
    (reading.troubled trouble).poller.IsReady reading.history where
  records := sound.records.congr rfl rfl rfl rfl
  place_le := by
    show reading.poller.reader.committed.getD reading.log.horizon ≤ _
    cases committed : reading.poller.reader.committed with
    | none => exact sound.records.horizon_le
    | some position => exact sound.committed_le position committed
  aligned := sound.aligned
  watched := sound.watched
  passing := passing

/-- **Passing faults make no difference to the events.** Let a cycle be run twice from one reading
that has been reached, on a log that nobody edits meanwhile: once without trouble, and once with
faults that pass and cursors that may be invalid. If the second run completes the cycle, then both
have sent the same events and have committed the same position. -/
theorem cycle_events_unaffected_by_passing_faults {supportsSnapshots : Bool}
    (reachable : reading.IsReachable supportsSnapshots)
    (calm : (reading.troubled quiet).poller.IsCalm) (passing : noisy.IsPassing)
    (completed : .cycleComplete seq ∈
      ((reading.troubled noisy).move (.cycle seq)).sentSince reading) :
    let smooth := (reading.troubled quiet).move (.cycle seq)
    let rough := (reading.troubled noisy).move (.cycle seq)
    smooth.sentSince reading = rough.sentSince reading ∧
      smooth.poller.reader.committed = rough.poller.reader.committed := by
  intro smooth rough
  obtain ⟨sound, -⟩ := reachable.isSound
  have quietPassing : quiet.IsPassing := by
    intro fault waiting
    rw [show quiet.openFaults ++ quiet.readFaults ++ quiet.snapshotFaults = [] from
      calm.faults_eq] at waiting
    cases waiting
  have quietReady := sound.isReady_troubled quietPassing
  obtain ⟨sent, outbox_eq, ended⟩ := Poller.turns_eq_due_of_completed seq
    (reading.troubled noisy).poller.turnBound 0 (sound.isReady_troubled passing)
  have smoothly := Poller.turns_eq_due_of_isCalm seq _ 0 quietReady calm
    (Poller.work_lt_turnBound seq quietReady)
  have rough_sent : rough.sentSince reading = sent := by
    show rough.poller.outbox.drop _ = sent
    rw [show rough.poller.outbox = reading.poller.outbox ++ sent from outbox_eq, List.drop_left]
  have smooth_sent : smooth.sentSince reading =
      (reading.troubled quiet).poller.due reading.history seq := by
    show smooth.poller.outbox.drop _ = _
    rw [show smooth.poller.outbox = reading.poller.outbox ++ _ from smoothly.1, List.drop_left]
  obtain ⟨all, committed⟩ := ended (rough_sent ▸ completed)
  refine ⟨?_, smoothly.2.trans committed.symm⟩
  rw [smooth_sent, rough_sent, all]
  exact Poller.due_congr ⟨rfl, rfl, rfl, rfl, rfl⟩ rfl rfl Iff.rfl

/-- A fault at each kind of request and an invalid cursor, while an expired position calls for a fresh
start: the discontinuity and the end of the cycle are sent as if nothing had been wrong. -/
theorem fresh_start_unaffected_by_passing_faults :
    let reading := (start {} 8 true).run
      [.cycle 0, .edit (.upsert ⟨"fruit", "apple"⟩), .edit (.truncate 1),
        .edit (.upsert ⟨"fruit", "pear"⟩)]
    let smooth := (reading.troubled {}).move (.cycle 1)
    let rough := (reading.troubled
      { openFaults := [.transient "down"], readFaults := [.cursorInvalidated]
        snapshotFaults := [.transient "down"], generation := 7 }).move (.cycle 1)
    rough.poller.retries = 3 ∧ smooth.sentSince reading = rough.sentSince reading ∧
      smooth.poller.reader.committed = rough.poller.reader.committed := by
  intro reading smooth rough
  have allows : (start {} 8 true).Allows
      [.cycle 0, .edit (.upsert ⟨"fruit", "apple"⟩), .edit (.truncate 1),
        .edit (.upsert ⟨"fruit", "pear"⟩)] := by decide +kernel
  have reachable : reading.IsReachable true := ⟨_, _, _, allows, rfl⟩
  have generation : ∀ cursor ∈ reading.poller.reader.cursor, cursor.generation = 0 := by
    decide +kernel
  have calm : (reading.troubled {}).poller.IsCalm := ⟨rfl, generation⟩
  have passing : ∀ fault ∈ [Fault.transient "down", .cursorInvalidated, .transient "down"],
      fault.isPassing = true := by decide
  have completed : .cycleComplete 1 ∈ rough.sentSince reading := by decide +kernel
  have retried : rough.poller.retries = 3 := by decide +kernel
  exact ⟨retried, cycle_events_unaffected_by_passing_faults reachable calm passing completed⟩

end Reading

end ChangeFeed
