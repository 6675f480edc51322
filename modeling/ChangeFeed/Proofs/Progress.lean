/-
# What a step of a poller does

`Progress` is the list of all effects that a step can have on the queue of events and on the
position that the queue claims. `Stands.step` derives it from the steps once and for all: whatever
is later said about polling goes through the list, and none of it looks at a step again.

Each step is made of a part that leaves queue and claim alone, which `Keeps` describes, and at most
one event that is put on the poller's hands.
-/

import ChangeFeed.Proofs.Standing

namespace ChangeFeed

/-- The event ends a cycle or a poller without having reached the head of the log. -/
def Event.isGivingUp : Event → Bool
  | .cycleAborted _ _ => true
  | .fatal _ => true
  | _ => false

/-- The event brings a snapshot of the log at its present head. -/
def Event.IsSnapshotOf (log : MemoryLog) (event : Event) : Prop :=
  event = .primed log.revisions.toChanges ∨
    event = .discontinuity (some ⟨log.revisions.toChanges, some log.lastPosition⟩)

namespace Poller

/-- What a step does to the queue and to the position claimed by it, on a log with a history and
while a cycle is running. -/
inductive Progress (history : List Change) (log : MemoryLog) (running : Option Nat)
    (queue : List Event) : Option Position → List Event → Option Position → Prop where
  /-- Nothing happens that concerns the watcher. -/
  | quiet (claimed : Option Position) : Progress history log running queue claimed queue claimed
  /-- A reader without a place finds one at the horizon. -/
  | opened : Progress history log running queue none queue (some log.horizon)
  /-- A batch brings everything up to its last change. -/
  | read (start stop : Position) (later : start < stop) (held : stop ≤ history.length) :
    Progress history log running queue (some start) (queue ++ [.batch (between history start stop)])
      (some stop)
  /-- The cycle reaches the head of the log. -/
  | completed (seq : Nat) (position : Position) (current : running = some seq)
      (reached : history.length ≤ position) :
    Progress history log running queue (some position) (queue ++ [.cycleComplete seq])
      (some position)
  /-- The cycle or the poller gives up. -/
  | gaveUp (claimed : Option Position) (event : Event) (isGivingUp : event.isGivingUp = true) :
    Progress history log running queue claimed (queue ++ [event]) claimed
  /-- A snapshot brings everything, and the reader takes its place behind it. -/
  | refreshed (claimed : Option Position) (event : Event) (supports : log.supportsSnapshots = true)
      (brings : event.IsSnapshotOf log) :
    Progress history log running queue claimed (queue ++ [event]) (some history.length)
  /-- The reader gives up its place and has no snapshot to start from. -/
  | restarted (claimed : Option Position) (supports : log.supportsSnapshots = false) :
    Progress history log running queue claimed (queue ++ [.discontinuity none]) none

/-- Faults that wait and the generation of the log have no part in the effects. -/
theorem Progress.congr {history : List Change} {log other : MemoryLog} {running : Option Nat}
    {queue later : List Event} {claimed position : Option Position}
    (progress : Progress history other running queue claimed later position)
    (same : other.SameContents log) :
    Progress history log running queue claimed later position := by
  cases progress with
  | quiet claimed => exact .quiet claimed
  | opened => exact same.horizon_eq ▸ .opened
  | read start stop follows held => exact .read start stop follows held
  | completed seq position current reached => exact .completed seq position current reached
  | gaveUp claimed event isGivingUp => exact .gaveUp claimed event isGivingUp
  | refreshed claimed event supports brings =>
    refine .refreshed claimed event (same.supportsSnapshots_eq ▸ supports) ?_
    rwa [Event.IsSnapshotOf, same.revisions_eq, same.lastPosition_eq] at brings
  | restarted claimed supports => exact .restarted claimed (same.supportsSnapshots_eq ▸ supports)

/-- What a step adds to a queue does not depend on how the queue began. -/
theorem Progress.suffix {history : List Change} {log : MemoryLog} {running : Option Nat}
    {past since later : List Event} {claimed position : Option Position}
    (progress : Progress history log running (past ++ since) claimed later position) :
    ∃ more, later = past ++ (since ++ more) ∧
      Progress history log running since claimed (since ++ more) position := by
  cases progress with
  | quiet claimed => exact ⟨[], by simp, by simpa using .quiet claimed⟩
  | opened => exact ⟨[], by simp, by simpa using .opened⟩
  | read start stop follows held =>
    exact ⟨_, List.append_assoc _ _ _, .read start stop follows held⟩
  | completed seq position current reached =>
    exact ⟨_, List.append_assoc _ _ _, .completed seq position current reached⟩
  | gaveUp claimed event isGivingUp =>
    exact ⟨_, List.append_assoc _ _ _, .gaveUp claimed event isGivingUp⟩
  | refreshed claimed event supports brings =>
    exact ⟨_, List.append_assoc _ _ _, .refreshed claimed event supports brings⟩
  | restarted claimed supports =>
    exact ⟨_, List.append_assoc _ _ _, .restarted claimed supports⟩

/-- A place before a step and a place after it. -/
abbrev Place := Stage × Poller MemoryLog MemoryLog.Cursor

variable {history : List Change} {before after : Place}

/-- What every step leaves in order. -/
structure Frame (history : List Change) (before after : Place) : Prop where
  stands : after.2.Stands history after.1
  contents : after.2.reader.source.SameContents before.2.reader.source
  running : ∀ seq, after.1.running = some seq → before.1.running = some seq
  watched : after.2.watched = before.2.watched

/-- A step that concerns nobody but the poller. -/
structure Keeps (history : List Change) (before after : Place) : Prop
    extends Frame history before after where
  queue_eq : after.2.queue after.1 = before.2.queue before.1
  claimed_eq : after.2.claimed after.1 = before.2.claimed before.1

/-- A step with its effect. A poller that finds no watcher stops, and what it had on its hands is
lost. -/
structure Moves (history : List Change) (before after : Place) : Prop
    extends Frame history before after where
  progress : after = (.resting .stopped, before.2) ∧ before.2.watched = false ∨
    Progress history before.2.reader.source before.1.running (before.2.queue before.1)
      (before.2.claimed before.1) (after.2.queue after.1) (after.2.claimed after.1)

/-! ## Steps that keep the queue -/

theorem Keeps.moves (keeps : Keeps history before after) : Moves history before after where
  toFrame := keeps.toFrame
  progress := Or.inr (keeps.queue_eq ▸ keeps.claimed_eq ▸ .quiet _)

variable {stage : Stage} {poller : Poller MemoryLog MemoryLog.Cursor}

/-- A poller with nothing on its hands claims what its reader has committed. -/
theorem claimed_of_unsent (nothing : stage.unsent = []) :
    poller.claimed stage = poller.reader.committed := by
  cases stage with
  | handing seq batch => cases nothing
  | resting _ | filling _ _ _ | sending _ _ | waiting _ => rfl

theorem queue_of_unsent {stage : Stage} (nothing : stage.unsent = []) :
    poller.queue stage = poller.outbox := by
  rw [queue, nothing, List.append_nil]

theorem isPlaced_of_isAligned (aligned : poller.reader.IsAligned) (rest : Rest) :
    poller.IsPlaced history (.resting rest) := by
  cases rest with
  | stopped => exact fun _ => aligned
  | priming _ | idle | turning _ _ => exact aligned

/-- A poller comes to rest with a reader that has not moved. -/
theorem Stands.settle (stands : poller.Stands history stage) (nothing : stage.unsent = [])
    (reader : Reader MemoryLog MemoryLog.Cursor)
    (contents : reader.source.SameContents poller.reader.source)
    (committed : reader.committed = poller.reader.committed) (aligned : reader.IsAligned)
    (rest : Rest) (running : ∀ seq, rest.running = some seq → stage.running = some seq) :
    Keeps history (stage, poller) (.resting rest, { poller with reader }) where
  stands :=
    { records := contents.records stands.records
      committed_le := fun position held => stands.committed_le position (committed ▸ held)
      placed := isPlaced_of_isAligned aligned rest }
  contents := contents
  running := running
  watched := rfl
  queue_eq := by
    rw [queue_of_unsent nothing]
    exact List.append_nil _
  claimed_eq := by
    rw [claimed_of_unsent nothing]
    exact committed

/-- A poller that rested in one place may as well rest in another, or wait there. -/
theorem Keeps.waiting {rest : Rest} (keeps : Keeps history before (.resting rest, poller))
    (aligned : poller.reader.IsAligned) (later : Rest)
    (running : ∀ seq, later.running = some seq → rest.running = some seq) :
    Keeps history before (.waiting later, poller) where
  stands := { keeps.stands with placed := aligned }
  contents := keeps.contents
  running seq current := keeps.running seq (running seq current)
  watched := keeps.watched
  queue_eq := keeps.queue_eq
  claimed_eq := keeps.claimed_eq

/-- A poller at rest gets an event on its hands that gives something up. -/
theorem Keeps.giveUp {rest : Rest} (keeps : Keeps history before (.resting rest, poller))
    (aligned : poller.reader.IsAligned) {event : Event} (isGivingUp : event.isGivingUp = true)
    (later : Rest) (running : ∀ seq, later.running = some seq → rest.running = some seq) :
    Moves history before (.sending event later, poller) where
  stands := { keeps.stands with placed := aligned }
  contents := keeps.contents
  running seq current := keeps.running seq (running seq current)
  watched := keeps.watched
  progress := by
    have queue_eq : poller.queue (.sending event later) = before.2.queue before.1 ++ [event] := by
      rw [← keeps.queue_eq]
      exact (List.append_assoc _ [] _).symm
    have claimed_eq : poller.claimed (.sending event later) = before.2.claimed before.1 :=
      keeps.claimed_eq
    exact Or.inr (queue_eq ▸ claimed_eq ▸ .gaveUp _ event isGivingUp)

/-! ## Errors -/

/-- After an error the poller waits, gives the cycle up, or ends for good. -/
theorem Keeps.retrying {seq attempts : Nat}
    (keeps : Keeps history before (.resting (.turning seq attempts), poller)) (error : ReadError) :
    Moves history before (poller.retrying seq attempts error) := by
  have aligned : poller.reader.IsAligned := keeps.stands.placed
  unfold Poller.retrying
  split
  · exact (keeps.waiting aligned (.turning seq (attempts + 1)) fun _ current => current).moves
  · have dropped : Keeps history before
        (.resting .idle, { poller with reader := poller.reader.resetCursor }) :=
      { stands :=
          { keeps.stands with placed := Reader.isAligned_of_closed rfl }
        contents := keeps.contents
        running := fun _ current => by cases current
        watched := keeps.watched
        queue_eq := keeps.queue_eq
        claimed_eq := keeps.claimed_eq }
    exact dropped.giveUp (Reader.isAligned_of_closed rfl) rfl .idle fun _ current => current

theorem Keeps.failing {seq attempts : Nat}
    (keeps : Keeps history before (.resting (.turning seq attempts), poller)) (error : ReadError) :
    Moves history before (poller.failing seq attempts error) := by
  cases error with
  | resumeRejected position =>
    exact Keeps.moves
      { stands := { keeps.stands with }
        contents := keeps.contents
        running := keeps.running
        watched := keeps.watched
        queue_eq := keeps.queue_eq
        claimed_eq := keeps.claimed_eq }
  | fatal reason =>
    exact keeps.giveUp keeps.stands.placed rfl .stopped fun _ current => by cases current
  | retryable reason => exact keeps.retrying _

/-! ## Snapshots -/

/-- A snapshot puts the reader behind the whole history. -/
theorem Stands.refresh (stands : poller.Stands history stage) (nothing : stage.unsent = [])
    {event : Event} (supports : poller.reader.source.supportsSnapshots = true)
    (brings : event.IsSnapshotOf poller.reader.source) (owed : Bool) (rest : Rest)
    (running : ∀ seq, rest.running = some seq → stage.running = some seq) :
    Moves history (stage, poller)
      (.sending event rest,
        { poller with
          reader := { poller.reader with
            cursor := none, committed := some poller.reader.source.lastPosition }
          needsFreshStart := owed }) where
  stands :=
    { records := stands.records
      committed_le := fun position held => by
        rw [← Option.some.inj held]
        exact Nat.le_of_eq stands.records.lastPosition_eq
      placed := Reader.isAligned_of_closed rfl }
  contents := .refl _
  running := running
  watched := rfl
  progress := by
    have progress : Progress history poller.reader.source stage.running poller.outbox
        (poller.claimed stage) (poller.outbox ++ [event])
        (some poller.reader.source.lastPosition) :=
      stands.records.lastPosition_eq ▸ .refreshed _ event supports brings
    rw [queue_of_unsent nothing]
    exact Or.inr progress

theorem Stands.primeStep {attempts : Nat}
    (stands : poller.Stands history (.resting (.priming attempts))) :
    Moves history (.resting (.priming attempts), poller) (poller.primeStep attempts) := by
  have aligned : poller.reader.IsAligned := stands.placed
  rcases poller.reader.source.takeSnapshot_cases with
    ⟨fault, source, asked, ⟨contents, -, -⟩, -⟩ | ⟨supports, -, asked⟩ | ⟨-, asked⟩
  · have keeps : ∀ rest : Rest, rest.running = none →
        Keeps history (.resting (.priming attempts), poller)
          (.resting rest, { poller with reader := { poller.reader with source } }) :=
      fun rest none => stands.settle rfl { poller.reader with source } contents rfl aligned
        rest fun seq current => by
          rw [none] at current
          cases current
    have tryAgain := ((keeps .idle rfl).waiting aligned (.priming (attempts + 1))
      fun _ current => by cases current).moves
    cases fault with
    | fatal reason =>
      simpa [Poller.primeStep, Reader.prime, asked, ReadError.ofFault] using
        (keeps .stopped rfl).giveUp aligned rfl .stopped fun _ current => current
    | transient _ | cursorInvalidated | positionExpired _ =>
      simp only [Poller.primeStep, Reader.prime, asked, ReadError.ofFault]
      split
      · exact tryAgain
      · exact (keeps .idle rfl).moves
  · simp only [Poller.primeStep, Reader.prime, asked]
    exact stands.refresh rfl supports (Or.inl rfl) poller.needsFreshStart .idle
      fun _ current => by cases current
  · simp only [Poller.primeStep, Reader.prime, asked]
    exact (stands.settle rfl _ (.refl _) rfl aligned .idle fun _ current => by cases current).moves

theorem Stands.freshStartStep {seq attempts : Nat}
    (stands : poller.Stands history (.resting (.turning seq attempts))) :
    Moves history (.resting (.turning seq attempts), poller)
      (poller.freshStartStep seq attempts) := by
  rcases poller.reader.source.takeSnapshot_cases with
    ⟨fault, source, asked, ⟨contents, -, -⟩, -⟩ | ⟨supports, -, asked⟩ | ⟨unsupported, asked⟩
  · have keeps : Keeps history (.resting (.turning seq attempts), poller)
        (.resting (.turning seq attempts),
          { poller with reader := { poller.reader with source, cursor := none } }) :=
      stands.settle rfl { poller.reader with source, cursor := none } contents rfl
        (Reader.isAligned_of_closed rfl) (.turning seq attempts) fun _ current => current
    cases fault with
    | fatal reason =>
      simpa [Poller.freshStartStep, Reader.reopenFresh, asked, ReadError.ofFault] using
        keeps.giveUp (Reader.isAligned_of_closed rfl) rfl .stopped fun _ current => by cases current
    | transient _ | cursorInvalidated | positionExpired _ =>
      simpa [Poller.freshStartStep, Reader.reopenFresh, asked, ReadError.ofFault] using
        keeps.retrying _
  · simp only [Poller.freshStartStep, Reader.reopenFresh, asked]
    exact stands.refresh rfl supports (Or.inr rfl) false (.turning seq 0) fun _ current => current
  · simp only [Poller.freshStartStep, Reader.reopenFresh, asked]
    exact
      { stands :=
          { records := stands.records
            committed_le := fun _ held => by cases held
            placed := Reader.isAligned_of_closed rfl }
        contents := .refl _
        running := fun _ current => current
        watched := rfl
        progress := by
          rw [queue_of_unsent rfl]
          exact Or.inr (.restarted _ unsupported) }

/-! ## Reading -/

theorem Stands.openStep {seq attempts : Nat}
    (stands : poller.Stands history (.resting (.turning seq attempts))) :
    Moves history (.resting (.turning seq attempts), poller) (poller.openStep seq attempts) := by
  have aligned : poller.reader.IsAligned := stands.placed
  cases present : poller.reader.cursor with
  | some cursor =>
    have committed : poller.reader.committed = some cursor.after := aligned cursor present
    have held : cursor.after ≤ history.length := stands.committed_le _ committed
    simp only [Poller.openStep, Reader.openCursor, present]
    apply Keeps.moves
    exact
      { stands := { stands with placed := ⟨_, _, aligned.isFilling present held⟩ }
        contents := .refl _
        running := fun _ current => current
        watched := rfl
        queue_eq := rfl
        claimed_eq := rfl }
  | none =>
    rcases poller.reader.source.openCursor_cases poller.reader.committed with
      ⟨fault, source, asked, ⟨contents, -, -⟩, -⟩ | ⟨cursor, asked, fresh, start, -, -⟩
    · simp only [Poller.openStep, Reader.openCursor, present, asked]
      exact (stands.settle rfl { poller.reader with source, cursor := none } contents rfl
        (Reader.isAligned_of_closed rfl) (.turning seq attempts) fun _ current => current).failing _
    · have found : poller.reader.committed.getD (Source.resumePoint MemoryLog cursor) =
          cursor.after := by
        show poller.reader.committed.getD cursor.openedAfter = cursor.after
        rw [fresh]
        cases committed : poller.reader.committed with
        | none => rfl
        | some position => rw [start, committed]; rfl
      have inside : cursor.after ≤ history.length := by
        rw [start]
        cases committed : poller.reader.committed with
        | none => exact stands.records.horizon_le
        | some position => exact stands.committed_le position committed
      simp only [Poller.openStep, Reader.openCursor, present, asked, found]
      have opened : ({ poller.reader with
            cursor := some cursor, committed := some cursor.after } :
          Reader MemoryLog MemoryLog.Cursor).IsAligned := by
        intro other current
        rw [← Option.some.inj current]
      exact
        { stands :=
            { records := stands.records
              committed_le := fun position current => by
                rw [← Option.some.inj current]
                exact inside
              placed := ⟨_, _, opened.isFilling rfl inside⟩ }
          contents := .refl _
          running := fun _ current => current
          watched := rfl
          progress := by
            apply Or.inr
            show Progress history _ _ (poller.queue _) poller.reader.committed (poller.queue _)
              (some cursor.after)
            cases committed : poller.reader.committed with
            | none =>
              rw [committed] at start
              exact start ▸ .opened
            | some position =>
              rw [committed] at start
              exact start ▸ .quiet _ }

/-- A batch as full as it gets is handed over; without a change in it the head of the log has been
reached. -/
theorem closing_moves {seq attempts : Nat} {batch : Batch} {start stop : Position}
    (stands : poller.Stands history (.filling seq attempts batch))
    {reader : Reader MemoryLog MemoryLog.Cursor} (same : reader.source = poller.reader.source)
    (filling : reader.IsFilling history batch start stop)
    (committed : reader.committed = poller.reader.committed)
    (full : start = stop → history.length ≤ stop) :
    Moves history (.filling seq attempts batch, poller)
      (closing seq batch, { poller with reader }) := by
  have contents : reader.source.SameContents poller.reader.source := same ▸ .refl _
  have isEmpty_iff := Batch.isEmpty_spanning_iff filling.start_le filling.stop_le
  have records := contents.records stands.records
  have committed_le : ∀ position, reader.committed = some position → position ≤ history.length :=
    fun position held => stands.committed_le position (committed ▸ held)
  have queue_eq : poller.queue (.filling seq attempts batch) = poller.outbox :=
    queue_of_unsent rfl
  have claimed_eq : poller.claimed (.filling seq attempts batch) = some start := by
    rw [claimed_of_unsent rfl, ← committed, filling.committed_eq]
  by_cases nothing : start = stop
  · have empty : batch.isEmpty = true := by rw [filling.batch_eq, isEmpty_iff, nothing]
    rw [closing, if_pos empty]
    refine
      { stands := ⟨records, committed_le, ?_⟩
        contents := contents
        running := fun _ current => by cases current
        watched := rfl
        progress := Or.inr ?_ }
    · intro cursor present
      obtain ⟨open', current, after⟩ := filling.cursor_eq
      rw [current] at present
      cases present
      rw [filling.committed_eq, nothing, after]
    · rw [queue_eq, claimed_eq]
      have later : ({ poller with reader } : Poller MemoryLog MemoryLog.Cursor).claimed
          (.sending (.cycleComplete seq) .idle) = some start := filling.committed_eq
      rw [later]
      exact .completed seq start rfl (nothing ▸ full nothing)
  · have later : start < stop := Nat.lt_of_le_of_ne filling.start_le nothing
    have nonempty : ¬ batch.isEmpty = true := by rw [filling.batch_eq, isEmpty_iff]; exact nothing
    rw [closing, if_neg nonempty]
    refine
      { stands := ⟨records, committed_le, ⟨start, stop, later, filling⟩⟩
        contents := contents
        running := fun _ current => current
        watched := rfl
        progress := Or.inr ?_ }
    rw [queue_eq, claimed_eq, filling.batch_eq]
    have position : (Batch.spanning history start stop).position = some stop := if_pos later
    show Progress history _ _ poller.outbox (some start)
      (poller.outbox ++ [.batch (between history start stop)])
      (Batch.spanning history start stop).position
    rw [position]
    exact .read start stop later filling.stop_le

theorem Stands.fillStep {seq attempts : Nat} {batch : Batch}
    (stands : poller.Stands history (.filling seq attempts batch)) :
    Moves history (.filling seq attempts batch, poller) (poller.fillStep seq attempts batch) := by
  obtain ⟨start, stop, filling⟩ := stands.placed
  obtain ⟨cursor, present, after⟩ := filling.cursor_eq
  unfold Poller.fillStep
  split
  · simp only [present]
    rcases MemoryLog.nextEntry_cases stands.records.entryAfter_eq cursor with
      ⟨fault, source, asked, ⟨contents, -, -⟩, -⟩ | ⟨-, reached, asked⟩ | ⟨change, -, found, asked⟩
    · rw [asked]
      exact (stands.settle rfl { poller.reader with source, cursor := none } contents rfl
        (Reader.isAligned_of_closed rfl) (.turning seq attempts) fun _ current => current).failing _
    · rw [asked]
      have still : ({ poller.reader with cursor := some cursor } :
          Reader MemoryLog MemoryLog.Cursor).IsFilling history batch start stop :=
        { filling with cursor_eq := ⟨cursor, rfl, after⟩ }
      exact closing_moves stands rfl still rfl fun _ => after ▸ reached
    · rw [asked]
      have fresh : Reader.isHandedOver poller.reader.committed ⟨cursor.after + 1, change⟩ = false := by
        have beyond : ¬ cursor.after + 1 ≤ start := by
          have reached := filling.start_le
          lia
        rw [filling.committed_eq]
        exact decide_eq_false beyond
      have inside : cursor.after < history.length := (List.getElem?_eq_some_iff.mp found).1
      have pushed : (batch.push ⟨cursor.after + 1, change⟩) =
          Batch.spanning history start (stop + 1) := by
        rw [filling.batch_eq, after, Batch.spanning_push filling.start_le (after ▸ found)]
      simp only [fresh, Bool.false_eq_true, if_false]
      apply Keeps.moves
      exact
        { stands :=
            { stands with
              placed := ⟨start, stop + 1,
                { committed_eq := filling.committed_eq
                  cursor_eq := ⟨_, rfl, by rw [after]⟩
                  start_le := Nat.le_succ_of_le filling.start_le
                  stop_le := after ▸ inside
                  batch_eq := pushed }⟩ }
          contents := .refl _
          running := fun _ current => current
          watched := rfl
          queue_eq := rfl
          claimed_eq := rfl }
  · next full =>
    apply closing_moves stands rfl filling rfl
    intro nothing
    have limit := poller.reader.batchLimit_pos
    rw [filling.batch_eq, nothing, Batch.spanning_self] at full
    exact absurd limit full

/-! ## Waiting and sending -/

theorem Stands.waitStep {rest : Rest} (stands : poller.Stands history (.waiting rest)) :
    Moves history (.waiting rest, poller) (poller.waitStep rest) := by
  have aligned : poller.reader.IsAligned := stands.placed
  apply Keeps.moves
  exact
    { stands := { stands with placed := isPlaced_of_isAligned aligned _ }
      contents := .refl _
      running := fun seq current => by
        unfold Poller.waitStep at current
        cases interrupted : poller.stopLine.interrupts.1 with
        | false => exact (by simpa [interrupted] using current : (Stage.resting rest).running = some seq)
        | true => simp [interrupted, Stage.running, Rest.running] at current
      watched := rfl
      queue_eq := rfl
      claimed_eq := rfl }

/-- A poller that finds no watcher stops with its hands empty. -/
theorem Stands.lose (stands : poller.Stands history stage) (unwatched : poller.watched = false) :
    Moves history (stage, poller) (.resting .stopped, poller) where
  stands := { stands with placed := fun watched => by rw [unwatched] at watched; cases watched }
  contents := .refl _
  running := fun _ current => by cases current
  watched := rfl
  progress := Or.inl ⟨rfl, unwatched⟩

theorem Stands.sendStep {event : Event} {rest : Rest}
    (stands : poller.Stands history (.sending event rest)) :
    Moves history (.sending event rest, poller) (poller.sendStep event rest) := by
  have aligned : poller.reader.IsAligned := stands.placed
  cases watched : poller.watched with
  | false =>
    simpa [Poller.sendStep, Poller.send, watched] using stands.lose watched
  | true =>
    simp only [Poller.sendStep, Poller.send, watched, if_true]
    have placed : ({ poller with outbox := poller.outbox ++ [event] } :
        Poller MemoryLog MemoryLog.Cursor).IsPlaced history (.resting rest) :=
      isPlaced_of_isAligned aligned rest
    apply Keeps.moves
    exact
      { stands := { stands with placed := by simpa [watched] using placed }
        contents := .refl _
        running := fun _ current => current
        watched := watched.symm
        queue_eq := List.append_nil _
        claimed_eq := rfl }

/-- Handing a batch over commits it, and the cursor is where it was. -/
theorem Stands.handStep {seq : Nat} {batch : Batch}
    (stands : poller.Stands history (.handing seq batch)) :
    Moves history (.handing seq batch, poller) (poller.handStep seq batch) := by
  obtain ⟨start, stop, later, filling⟩ := stands.placed
  cases watched : poller.watched with
  | false =>
    simpa [Poller.handStep, Poller.handOver, Poller.send, watched, Turn.rest] using
      stands.lose watched
  | true =>
    obtain ⟨cursor, present, after⟩ := filling.cursor_eq
    have position : batch.position = some stop := by
      rw [filling.batch_eq]
      exact if_pos later
    have committed : poller.reader.commit stop = { poller.reader with committed := some stop } := by
      rw [Reader.commit, filling.committed_eq]
      simp only [Nat.max_eq_right filling.start_le]
    simp only [Poller.handStep, Poller.handOver, Poller.send, watched, if_true, position, Turn.rest,
      committed]
    apply Keeps.moves
    exact
      { stands :=
          { records := stands.records
            committed_le := fun _ held => by
              rw [← Option.some.inj held]
              exact filling.stop_le
            placed := fun other current => by
              rw [present] at current
              cases current
              rw [after] }
        contents := .refl _
        running := fun _ current => current
        watched := watched.symm
        queue_eq := List.append_nil _
        claimed_eq := position.symm }

/-! ## Any step -/

/-- **Every step makes one of the listed moves**, and leaves the poller in place. -/
theorem Stands.step (stands : poller.Stands history stage) :
    Moves history (stage, poller) (poller.step stage) := by
  match stage, stands with
  | .resting (.priming attempts), stands => exact stands.primeStep
  | .resting (.turning seq attempts), stands =>
    by_cases owed : poller.needsFreshStart
    · simpa only [Poller.step, if_pos owed] using stands.freshStartStep
    · simpa only [Poller.step, if_neg owed] using stands.openStep
  | .resting .idle, stands | .resting .stopped, stands =>
    exact Keeps.moves
      { stands := stands
        contents := .refl _
        running := fun _ current => current
        watched := rfl
        queue_eq := rfl
        claimed_eq := rfl }
  | .filling seq attempts batch, stands => exact stands.fillStep
  | .handing seq batch, stands => exact stands.handStep
  | .sending event rest, stands => exact stands.sendStep
  | .waiting rest, stands => exact stands.waitStep

end Poller

end ChangeFeed
