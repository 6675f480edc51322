/-
# Whole cycles on a log that changes in between

A reading is a poller at rest with every change ever committed to its log. Between two cycles the
log is edited and the lines of the poller are used; a cycle runs undisturbed to its end. This is how
a poller is driven when nothing happens at the same time, and it is a special case of the stages:
what every stage keeps, a cycle keeps.
-/

import ChangeFeed.Proofs.Progress
import ChangeFeed.Proofs.Run

namespace ChangeFeed

namespace Poller

/-- **What every step keeps holds wherever a poller gets** when nobody interferes. -/
theorem Stands.reaches {history : List Change} {before after : Place} (invariant : Place → Prop)
    (keeps : ∀ first second : Place, first.2.Stands history first.1 → Moves history first second →
      invariant first → invariant second)
    (reaches : Reaches before after) (stands : before.2.Stands history before.1)
    (holds : invariant before) : after.2.Stands history after.1 ∧ invariant after := by
  induction reaches with
  | refl => exact ⟨stands, holds⟩
  | tail _ follows ih =>
    obtain ⟨stands, holds⟩ := ih
    have moves := stands.step
    rw [← show _ = _ from follows] at moves
    exact ⟨moves.stands, keeps _ _ stands moves holds⟩

end Poller

/-- A poller at rest, and every change ever committed to its log. -/
structure Reading where
  poller : Poller MemoryLog MemoryLog.Cursor
  history : List Change := []

namespace Reading

/-- What happens to a poller from one rest to the next. -/
inductive Move where
  /-- Somebody edits the log. -/
  | edit (edit : MemoryLog.Edit)
  /-- The poller serves a poll. -/
  | cycle (seq : Nat)
  /-- The poller takes a snapshot to start from. -/
  | prime
  /-- Something happens on the line over which the poller is told to stop. -/
  | signal (line : StopLine)
  deriving DecidableEq, Repr

/-- The log that is read. -/
def log (reading : Reading) : MemoryLog :=
  reading.poller.reader.source

/-- The reading after a move. -/
def move (reading : Reading) : Move → Reading
  | .edit edit =>
    { poller := { reading.poller with reader.source := reading.log.edit edit }
      history := reading.history ++ (reading.log.committedBy? edit).toList }
  | .cycle seq => { reading with poller := (reading.poller.cycle seq).2 }
  | .prime => { reading with poller := reading.poller.prime.2 }
  | .signal line => { reading with poller.stopLine := line }

/-- The reading after moves, in order. -/
def run (reading : Reading) (moves : List Move) : Reading :=
  moves.foldl move reading

/-- The events sent since an earlier moment. -/
def sentSince (reading earlier : Reading) : List Event :=
  reading.poller.outbox.drop earlier.poller.outbox.length

/-- The move truncates nothing beyond the head of the log. -/
def IsWithin (reading : Reading) : Move → Prop
  | .edit edit => edit.IsWithin reading.log
  | _ => True

instance (reading : Reading) (move : Move) : Decidable (reading.IsWithin move) := by
  cases move <;> unfold IsWithin <;> infer_instance

/-- Every move truncates nothing beyond the head of the log. -/
abbrev Allows (reading : Reading) (moves : List Move) : Prop :=
  Run.Allows move IsWithin reading moves

/-- A new poller on an empty log, to resume nowhere. -/
def start (policy : Backoff) (maxBatch : Nat) (supportsSnapshots : Bool) : Reading where
  poller := { reader := .ofSource (.empty supportsSnapshots) none maxBatch, policy }

/-- A run within the head of the log leads from a new poller to this reading. -/
def IsReachable (supportsSnapshots : Bool) (reading : Reading) : Prop :=
  ∃ policy maxBatch moves, (start policy maxBatch supportsSnapshots).Allows moves ∧
    (start policy maxBatch supportsSnapshots).run moves = reading

/-- The poller has a watcher, and its reader is in place for a turn. -/
structure IsSound (reading : Reading) : Prop where
  records : reading.log.Records reading.history
  committed_le : ∀ position, reading.poller.reader.committed = some position →
    position ≤ reading.history.length
  aligned : reading.poller.reader.IsAligned
  watched : reading.poller.watched = true

variable {reading : Reading} {moves : List Move}

theorem run_append (reading : Reading) (first second : List Move) :
    reading.run (first ++ second) = (reading.run first).run second :=
  List.foldl_append

theorem isSound_start (policy : Backoff) (maxBatch : Nat) (supportsSnapshots : Bool) :
    (start policy maxBatch supportsSnapshots).IsSound where
  records := MemoryLog.records_empty supportsSnapshots
  committed_le _ held := by cases held
  aligned := Reader.isAligned_of_closed rfl
  watched := rfl

/-- A sound reading stands wherever its poller rests. -/
theorem IsSound.stands (sound : reading.IsSound) (rest : Rest) :
    reading.poller.Stands reading.history (.resting rest) where
  records := sound.records
  committed_le := sound.committed_le
  placed := Poller.isPlaced_of_isAligned sound.aligned rest

/-- A watched poller that stands at rest makes its reading sound. -/
theorem isSound_of_stands {rest : Rest}
    (stands : reading.poller.Stands reading.history (.resting rest))
    (watched : reading.poller.watched = true) : reading.IsSound where
  records := stands.records
  committed_le := stands.committed_le
  aligned := by
    cases rest with
    | stopped => exact stands.placed watched
    | priming _ | idle | turning _ _ => exact stands.placed
  watched := watched

/-! ## What a move does -/

/-- What steps do to the events sent and to the position that they claim, on a log that nobody
edits. -/
abbrev Course (history : List Change) (log : MemoryLog) :
    List Event × Option Position → List Event × Option Position → Prop :=
  Relation.ReflTransGen fun before after =>
    ∃ running, Poller.Progress history log running before.1 before.2 after.1 after.2

/-- The events sent, and the position that they claim while the poller rests. -/
def account (reading : Reading) : List Event × Option Position :=
  (reading.poller.outbox, reading.poller.reader.committed)

/-- A move by the poller: it asks the log for something, and it follows a course. -/
structure Proceeds (before after : Reading) : Prop where
  isSound : after.IsSound
  history_eq : after.history = before.history
  contents : after.log.SameContents before.log
  course : Course before.history before.log before.account after.account

/-- **A sound poller that gets from one rest to another has proceeded.** -/
theorem IsSound.proceeds (sound : reading.IsSound) {first last : Rest}
    {poller : Poller MemoryLog MemoryLog.Cursor}
    (reaches : Poller.Reaches (.resting first, reading.poller) (.resting last, poller)) :
    reading.Proceeds { reading with poller } := by
  let invariant : Poller.Place → Prop := fun place =>
    place.2.watched = true ∧ place.2.reader.source.SameContents reading.log ∧
      Course reading.history reading.log reading.account
        (place.2.queue place.1, place.2.claimed place.1)
  have keeps : ∀ before after : Poller.Place, before.2.Stands reading.history before.1 →
      Poller.Moves reading.history before after → invariant before → invariant after := by
    rintro before after - moves ⟨watched, contents, course⟩
    refine ⟨moves.watched.trans watched, moves.contents.trans contents, course.tail ?_⟩
    rcases moves.progress with ⟨-, lost⟩ | progress
    · rw [watched] at lost
      cases lost
    · exact ⟨_, progress.congr contents⟩
  have begun : Course reading.history reading.log reading.account
      (reading.poller.queue (.resting first), reading.poller.claimed (.resting first)) := by
    rw [Poller.queue_of_unsent rfl]
    exact .refl
  obtain ⟨stands, watched, contents, course⟩ :=
    Poller.Stands.reaches invariant keeps reaches (sound.stands first)
      ⟨sound.watched, .refl _, begun⟩
  rw [Poller.queue_of_unsent rfl] at course
  exact ⟨isSound_of_stands stands watched, rfl, contents, course⟩

/-- The reading after an edit of its log. -/
theorem IsSound.edit (sound : reading.IsSound) {edit : MemoryLog.Edit}
    (within : edit.IsWithin reading.log) : (reading.move (.edit edit)).IsSound :=
  isSound_of_stands ((sound.stands .idle).edit within) sound.watched

/-- **A move edits the log, or the poller proceeds.** -/
theorem IsSound.move_cases (sound : reading.IsSound) (move : Move) :
    (∃ edit, move = .edit edit) ∨ reading.Proceeds (reading.move move) := by
  cases move with
  | edit edit => exact Or.inl ⟨edit, rfl⟩
  | cycle seq =>
    obtain ⟨rest, reaches, -⟩ := reading.poller.reaches_cycle seq
    exact Or.inr (sound.proceeds reaches)
  | prime =>
    obtain ⟨rest, reaches, -⟩ := reading.poller.reaches_prime
    exact Or.inr (sound.proceeds reaches)
  | signal line =>
    let signalled := reading.move (.signal line)
    have stands : signalled.poller.Stands signalled.history (.resting .idle) :=
      (sound.stands .idle).congr rfl id
    exact Or.inr ⟨isSound_of_stands stands sound.watched, rfl, .refl _, .refl⟩

/-- Every move within the head of the log leaves the reading sound. -/
theorem IsSound.move (sound : reading.IsSound) {move : Move} (within : reading.IsWithin move) :
    (reading.move move).IsSound := by
  rcases sound.move_cases move with ⟨edit, rfl⟩ | proceeds
  · exact sound.edit within
  · exact proceeds.isSound

/-- **A run within the head of the log leaves the reading sound.** -/
theorem IsSound.run (sound : reading.IsSound) (allows : reading.Allows moves) :
    (reading.run moves).IsSound :=
  Run.induction IsSound (fun _ _ within sound => sound.move within) allows sound

/-- A log keeps what it was made with through every move. -/
theorem supportsSnapshots_move (sound : reading.IsSound) (move : Move) :
    (reading.move move).log.supportsSnapshots = reading.log.supportsSnapshots := by
  rcases sound.move_cases move with ⟨edit, rfl⟩ | proceeds
  · exact reading.log.supportsSnapshots_edit edit
  · exact proceeds.contents.supportsSnapshots_eq

theorem supportsSnapshots_run (sound : reading.IsSound) (allows : reading.Allows moves) :
    (reading.run moves).log.supportsSnapshots = reading.log.supportsSnapshots := by
  induction moves generalizing reading with
  | nil => rfl
  | cons move rest ih =>
    exact (ih (sound.move allows.1) allows.2).trans (supportsSnapshots_move sound move)

theorem history_move (sound : reading.IsSound) (move : Move) :
    ∃ more, (reading.move move).history = reading.history ++ more := by
  rcases sound.move_cases move with ⟨edit, rfl⟩ | proceeds
  · exact ⟨_, rfl⟩
  · exact ⟨[], by rw [proceeds.history_eq, List.append_nil]⟩

/-- A run never takes anything out of the history. -/
theorem history_run (sound : reading.IsSound) (allows : reading.Allows moves) :
    ∃ more, (reading.run moves).history = reading.history ++ more := by
  induction moves generalizing reading with
  | nil => exact ⟨[], (List.append_nil _).symm⟩
  | cons move rest ih =>
    obtain ⟨first, grown⟩ := history_move sound move
    obtain ⟨second, later⟩ := ih (sound.move allows.1) allows.2
    exact ⟨first ++ second, by rw [← List.append_assoc, ← grown]; exact later⟩

/-- A reading that has been reached is sound, and its log gives snapshots if it was made so. -/
theorem IsReachable.isSound {supportsSnapshots : Bool}
    (reachable : reading.IsReachable supportsSnapshots) :
    reading.IsSound ∧ reading.log.supportsSnapshots = supportsSnapshots := by
  obtain ⟨policy, maxBatch, moves, allows, rfl⟩ := reachable
  have started := isSound_start policy maxBatch supportsSnapshots
  exact ⟨started.run allows, supportsSnapshots_run started allows⟩

/-! ## What was sent since some moment -/

variable {past : List Event}

/-- What was sent after some moment, and the reader's position, have a property. -/
def Has (reading : Reading) (past : List Event) (property : List Event → Option Position → Prop) :
    Prop :=
  ∃ since, reading.poller.outbox = past ++ since ∧ property since reading.poller.reader.committed

theorem Has.sentSince {earlier : Reading} {property : List Event → Option Position → Prop}
    (has : reading.Has earlier.poller.outbox property) :
    property (reading.sentSince earlier) reading.poller.reader.committed := by
  obtain ⟨since, sent, holds⟩ := has
  rwa [Reading.sentSince, sent, List.drop_left]

/-- **What every effect keeps, a poller that proceeds keeps.** -/
theorem Proceeds.keeps {before after : Reading} (proceeds : before.Proceeds after)
    {property : List Event → Option Position → Prop}
    (keeps : ∀ {running : Option Nat} {since more : List Event} {claimed position : Option Position},
      Poller.Progress before.history before.log running since claimed (since ++ more) position →
      property since claimed → property (since ++ more) position)
    (has : before.Has past property) : after.Has past property := by
  obtain ⟨since, sent, holds⟩ := has
  have course := proceeds.course
  have begun : ∃ since, before.account.1 = past ++ since ∧ property since before.account.2 :=
    ⟨since, sent, holds⟩
  suffices ∃ since, after.account.1 = past ++ since ∧ property since after.account.2 from this
  generalize after.account = account at course ⊢
  induction course with
  | refl => exact begun
  | tail _ step ih =>
    obtain ⟨since, same, holds⟩ := ih
    obtain ⟨running, progress⟩ := step
    rw [same] at progress
    obtain ⟨more, later, progress⟩ := progress.suffix
    exact ⟨since ++ more, later, keeps progress holds⟩

/-- A property that every effect keeps on every log lasts through a run. -/
theorem has_run {property : List Event → Option Position → Prop}
    (keeps : ∀ {history : List Change} {log : MemoryLog} {running : Option Nat}
      {since more : List Event} {claimed position : Option Position},
      Poller.Progress history log running since claimed (since ++ more) position →
      property since claimed → property (since ++ more) position)
    (sound : reading.IsSound) (allows : reading.Allows moves) (has : reading.Has past property) :
    (reading.run moves).Has past property := by
  refine (Run.induction (fun reading => reading.IsSound ∧ reading.Has past property)
    (fun reading move within ⟨sound, has⟩ => ⟨sound.move within, ?_⟩) allows ⟨sound, has⟩).2
  rcases sound.move_cases move with ⟨edit, rfl⟩ | proceeds
  · exact has
  · exact proceeds.keeps keeps has

end Reading

end ChangeFeed
