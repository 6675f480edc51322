/-
# Where a poller stands

A reader's place in the log is spread over its committed position, its cursor and the batch under
way, and a poller adds the event it is about to send. `Stands` ties them together: a cursor at rest
stands at the committed position, and a batch under way is the part of the history between the
committed position and the cursor, whatever has been truncated in the meantime.

The watcher's view of the same place is the *queue*, which is every event sent or about to be sent,
and the position *claimed* by it. `Progress` lists all that a step can do to the two. It is derived
once, in `Stands.step`; what a whole system keeps is proved from the list.
-/

import ChangeFeed.Proofs.Request
import ChangeFeed.Proofs.Stage

namespace ChangeFeed

/-! ## Parts of a history -/

/-- The changes of a history beyond one position and up to another. -/
def between (history : List Change) (start stop : Position) : List Change :=
  (history.take stop).drop start

section Between

variable {history : List Change} {start stop : Position} {change : Change}

theorem mem_between_iff :
    change ∈ between history start stop ↔
      ∃ index, start ≤ index ∧ index < stop ∧ history[index]? = some change := by
  simp only [between, List.mem_iff_getElem?, List.getElem?_drop, List.getElem?_take]
  constructor
  · rintro ⟨offset, found⟩
    split at found
    · next inside => exact ⟨_, Nat.le_add_right start offset, inside, found⟩
    · cases found
  · rintro ⟨index, later, earlier, found⟩
    refine ⟨index - start, ?_⟩
    rw [show start + (index - start) = index by lia, if_pos earlier, found]

theorem between_of_le (reached : stop ≤ start) : between history start stop = [] := by
  apply List.drop_eq_nil_of_le
  rw [List.length_take]
  lia

theorem between_eq_nil_iff (held : stop ≤ history.length) :
    between history start stop = [] ↔ stop ≤ start := by
  rw [between, List.drop_eq_nil_iff, List.length_take]
  lia

theorem between_succ (reached : start ≤ stop) (found : history[stop]? = some change) :
    between history start (stop + 1) = between history start stop ++ [change] := by
  obtain ⟨inside, -⟩ := List.getElem?_eq_some_iff.mp found
  have short : start ≤ (history.take stop).length := by
    rw [List.length_take]
    lia
  rw [between, List.take_add_one, found, Option.toList_some, List.drop_append_of_le_length short,
    between]

/-- What a history holds up to a position does not change when it grows. -/
theorem between_append (held : stop ≤ history.length) (more : List Change) :
    between (history ++ more) start stop = between history start stop := by
  rw [between, List.take_append_of_le_length held, between]

end Between

namespace Batch

/-- The batch of all changes beyond one position and up to another. -/
def spanning (history : List Change) (start stop : Position) : Batch :=
  ⟨between history start stop, if start < stop then some stop else none⟩

variable {history : List Change} {start stop : Position} {change : Change}

theorem spanning_self (history : List Change) (position : Position) :
    spanning history position position = {} := by
  simp [spanning, between_of_le]

theorem spanning_push (reached : start ≤ stop) (found : history[stop]? = some change) :
    (spanning history start stop).push ⟨stop + 1, change⟩ = spanning history start (stop + 1) := by
  have later : start < stop + 1 := by lia
  rw [push, spanning, spanning, between_succ reached found, if_pos later]

theorem isEmpty_spanning_iff (reached : start ≤ stop) (held : stop ≤ history.length) :
    (spanning history start stop).isEmpty = true ↔ start = stop := by
  rw [isEmpty, spanning, List.isEmpty_iff, between_eq_nil_iff held]
  lia

theorem spanning_append (held : stop ≤ history.length) (more : List Change) :
    spanning (history ++ more) start stop = spanning history start stop := by
  rw [spanning, between_append held, spanning]

end Batch

/-! ## Readers and stages in place -/

namespace Reader

/-- An open cursor stands at the committed position. -/
def IsAligned (reader : Reader MemoryLog MemoryLog.Cursor) : Prop :=
  ∀ cursor, reader.cursor = some cursor → reader.committed = some cursor.after

/-- The batch under way is everything between the committed position and the cursor. -/
structure IsFilling (reader : Reader MemoryLog MemoryLog.Cursor) (history : List Change)
    (batch : Batch) (start stop : Position) : Prop where
  committed_eq : reader.committed = some start
  cursor_eq : ∃ cursor, reader.cursor = some cursor ∧ cursor.after = stop
  start_le : start ≤ stop
  stop_le : stop ≤ history.length
  batch_eq : batch = Batch.spanning history start stop

variable {reader : Reader MemoryLog MemoryLog.Cursor} {history : List Change}

/-- Alignment does not look at the log. -/
theorem IsAligned.congr {other : Reader MemoryLog MemoryLog.Cursor} (aligned : reader.IsAligned)
    (cursor_eq : other.cursor = reader.cursor) (committed_eq : other.committed = reader.committed) :
    other.IsAligned := by
  intro cursor present
  rw [committed_eq]
  exact aligned cursor (cursor_eq ▸ present)

/-- Neither does a batch under way, and it stays what it is when the history grows. -/
theorem IsFilling.congr {other : Reader MemoryLog MemoryLog.Cursor} {batch : Batch}
    {start stop : Position} (filling : reader.IsFilling history batch start stop)
    (cursor_eq : other.cursor = reader.cursor) (committed_eq : other.committed = reader.committed)
    (more : List Change) : other.IsFilling (history ++ more) batch start stop where
  committed_eq := committed_eq ▸ filling.committed_eq
  cursor_eq := cursor_eq ▸ filling.cursor_eq
  start_le := filling.start_le
  stop_le := by
    rw [List.length_append]
    exact Nat.le_add_right_of_le filling.stop_le
  batch_eq := by rw [filling.batch_eq, Batch.spanning_append filling.stop_le]

theorem isAligned_of_closed (closed : reader.cursor = none) : reader.IsAligned := by
  intro cursor present
  rw [closed] at present
  cases present

/-- An aligned reader that has a cursor open has an empty batch in hand. -/
theorem IsAligned.isFilling (aligned : reader.IsAligned) {cursor : MemoryLog.Cursor}
    (present : reader.cursor = some cursor) (held : cursor.after ≤ history.length) :
    reader.IsFilling history {} cursor.after cursor.after where
  committed_eq := aligned cursor present
  cursor_eq := ⟨cursor, present, rfl⟩
  start_le := Nat.le_refl _
  stop_le := held
  batch_eq := (Batch.spanning_self history cursor.after).symm

end Reader

namespace Rest

/-- The number of the cycle that is under way. -/
def running : Rest → Option Nat
  | .turning seq _ => some seq
  | _ => none

end Rest

namespace Stage

/-- The number of the cycle that is under way; its end may be on the poller's hands already. -/
def running : Stage → Option Nat
  | .filling seq _ _ => some seq
  | .handing seq _ => some seq
  | .resting rest => rest.running
  | .sending _ rest => rest.running
  | .waiting rest => rest.running

/-- The event that is about to be sent. -/
def unsent : Stage → List Event
  | .handing _ batch => [.batch batch.changes]
  | .sending event _ => [event]
  | _ => []

end Stage

namespace Poller

variable {history : List Change} {stage : Stage} {poller : Poller MemoryLog MemoryLog.Cursor}

/-- The reader is where its stage has it. A poller that stopped for want of a watcher may have a
batch left on its hands. -/
def IsPlaced (history : List Change) (poller : Poller MemoryLog MemoryLog.Cursor) : Stage → Prop
  | .filling _ _ batch => ∃ start stop, poller.reader.IsFilling history batch start stop
  | .handing _ batch =>
    ∃ start stop, start < stop ∧ poller.reader.IsFilling history batch start stop
  | .resting .stopped => poller.watched = true → poller.reader.IsAligned
  | _ => poller.reader.IsAligned

/-- A poller in place on a log with a history. -/
structure Stands (history : List Change) (stage : Stage)
    (poller : Poller MemoryLog MemoryLog.Cursor) : Prop where
  records : poller.reader.source.Records history
  committed_le : ∀ position, poller.reader.committed = some position → position ≤ history.length
  placed : poller.IsPlaced history stage

/-- A poller stays in place whatever happens around its reader. -/
theorem IsPlaced.congr (placed : poller.IsPlaced history stage)
    (other : Poller MemoryLog MemoryLog.Cursor) (cursor_eq : other.reader.cursor = poller.reader.cursor)
    (committed_eq : other.reader.committed = poller.reader.committed)
    (watched : other.watched = true → poller.watched = true) (more : List Change) :
    other.IsPlaced (history ++ more) stage := by
  match stage, placed with
  | .filling _ _ _, ⟨start, stop, filling⟩ =>
    exact ⟨start, stop, filling.congr cursor_eq committed_eq more⟩
  | .handing _ _, ⟨start, stop, later, filling⟩ =>
    exact ⟨start, stop, later, filling.congr cursor_eq committed_eq more⟩
  | .resting .stopped, placed =>
    exact fun present => (placed (watched present)).congr cursor_eq committed_eq
  | .resting (.priming _), aligned | .resting .idle, aligned | .resting (.turning _ _), aligned
  | .sending _ _, aligned | .waiting _, aligned =>
    exact Reader.IsAligned.congr aligned cursor_eq committed_eq

/-- **An edit of the log leaves the poller in place**, within the history that the edit makes. -/
theorem Stands.edit (stands : poller.Stands history stage) {edit : MemoryLog.Edit}
    (within : edit.IsWithin poller.reader.source) :
    ({ poller with reader := { poller.reader with source := poller.reader.source.edit edit } } :
      Poller MemoryLog MemoryLog.Cursor).Stands
        (history ++ (poller.reader.source.committedBy? edit).toList) stage where
  records := stands.records.edit within
  committed_le position held := by
    rw [List.length_append]
    exact Nat.le_add_right_of_le (stands.committed_le position held)
  placed := stands.placed.congr
    { poller with reader := { poller.reader with source := poller.reader.source.edit edit } }
    rfl rfl id _

/-- The log and the reader are all that a poller's standing is about, but for whether it is
watched. -/
theorem Stands.congr {other : Poller MemoryLog MemoryLog.Cursor}
    (stands : poller.Stands history stage) (reader_eq : other.reader = poller.reader)
    (watched : other.watched = true → poller.watched = true) : other.Stands history stage where
  records := reader_eq ▸ stands.records
  committed_le := reader_eq ▸ stands.committed_le
  placed := by
    have placed := stands.placed.congr other (by rw [reader_eq]) (by rw [reader_eq]) watched []
    rwa [List.append_nil] at placed

/-- Every event sent and not yet received, or about to be sent. -/
def queue (stage : Stage) (poller : Poller MemoryLog MemoryLog.Cursor) : List Event :=
  poller.outbox ++ stage.unsent

/-- The position up to which the queue brings the history. -/
def claimed (stage : Stage) (poller : Poller MemoryLog MemoryLog.Cursor) : Option Position :=
  match stage with
  | .handing _ batch => batch.position
  | _ => poller.reader.committed

end Poller

end ChangeFeed
