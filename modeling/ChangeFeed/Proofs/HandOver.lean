/-
# Reading hands the log over once, and in order

Somebody reads batches and commits each one before reading on. In between the log is edited, cursors
are lost and reads fail. Whatever happens, the batches committed so far are the history from the
position at which reading began up to the committed position: no change is left out, none comes twice.

A reader that has been overtaken by truncation reads nothing more. It says that its position was
refused, unless something else is in the way of the read: a fault that waits for it, or a cursor that
has become invalid.
-/

import ChangeFeed.Proofs.Batches
import ChangeFeed.Proofs.Reads
import ChangeFeed.Proofs.Run

namespace ChangeFeed

namespace Reader

variable {reader : Reader MemoryLog MemoryLog.Cursor} {position : Position}

/-- The fault that waits for the first request of the next read. -/
def waitingFault? (reader : Reader MemoryLog MemoryLog.Cursor) : Option Fault :=
  if reader.cursor.isSome then reader.source.readFaults.head? else reader.source.openFaults.head?

/-- **A read at an expired position fails**: with the fault that waits for it, or because its cursor is
invalid, or because the position is refused. -/
theorem next_of_expired (held : reader.committed = some position) (aligned : reader.IsAligned)
    (expired : position < reader.source.horizon) :
    (∀ fault, reader.waitingFault? = some fault → reader.next.1 = .error (.ofFault fault)) ∧
      (reader.waitingFault? = none → ¬ reader.IsCurrent →
        reader.next.1 = .error (.ofFault .cursorInvalidated)) ∧
      (reader.waitingFault? = none → reader.IsCurrent →
        reader.next.1 = .error (.resumeRejected position)) := by
  cases present : reader.cursor with
  | none =>
    have refused := congrArg Prod.fst (MemoryLog.openCursor_of_expired expired)
    rcases asked : Source.openCursor (some position) reader.source with ⟨fault | cursor, after⟩
    · simp only [asked, Except.error.injEq] at refused
      have failed : reader.next.1 = .error (.ofFault fault) := by
        simp only [next, openCursor, present, held, asked]
      have current : reader.IsCurrent := fun cursor open' => by
        rw [present] at open'
        cases open'
      refine ⟨fun waiting found => ?_, fun _ stale => absurd current stale, fun nothing _ => ?_⟩
      · rw [failed, refused]
        simp_all [waitingFault?]
      · rw [failed, refused]
        simp_all [waitingFault?, ReadError.ofFault]
    · simp [asked] at refused
  | some cursor =>
    have start : cursor.after = position :=
      Option.some.inj ((aligned cursor present).symm.trans held)
    have behind : cursor.after < reader.source.horizon := start ▸ expired
    have refused := MemoryLog.nextEntry_of_expired behind
    rcases asked : Source.nextEntry cursor reader.source with ⟨fault | entry, later, after⟩
    · simp only [asked, Except.error.injEq] at refused
      have room : ({} : Batch).changes.length < reader.batchLimit := reader.batchLimit_pos
      have failed : reader.next.1 = .error (.ofFault fault) := by
        simp only [next, openCursor, present, fill_of_error room asked]
      have current : reader.IsCurrent ↔ reader.source.generation = cursor.generation := by
        simp [IsCurrent, present, eq_comm]
      refine ⟨fun waiting found => ?_, fun nothing stale => ?_, fun nothing now => ?_⟩
      · rw [failed, refused]
        simp_all [waitingFault?]
      · rw [failed, refused]
        simp_all [waitingFault?]
      · rw [failed, refused]
        simp_all [waitingFault?, ReadError.ofFault]
    · simp [asked] at refused

end Reader

/-- Somebody who reads batches and commits them, with every change ever committed to the log. -/
structure Consumer where
  reader : Reader MemoryLog MemoryLog.Cursor
  history : List Change
  /-- The batch that was read last, until it is committed. -/
  inHand : Batch := {}
  /-- The changes of all committed batches, in the order in which they were committed. -/
  taken : List Change := []
  /-- Where reading began: at the resume position, or where the first cursor was opened. -/
  origin : Option Position

namespace Consumer

/-- What happens to a consumer and its log. -/
inductive Action where
  /-- Somebody edits the log. -/
  | edit (edit : MemoryLog.Edit)
  /-- The next batch is read. -/
  | read
  /-- The batch in hand is committed. -/
  | commit
  /-- The cursor is dropped. -/
  | reset
  deriving DecidableEq, Repr

/-- The log that is read. -/
def log (consumer : Consumer) : MemoryLog :=
  consumer.reader.source

/-- The consumer after a read that came to this. -/
def afterRead (consumer : Consumer) :
    Except ReadError Batch × Reader MemoryLog MemoryLog.Cursor → Consumer
  | (answer, reader) =>
    { consumer with
      reader
      inHand := answer.toOption.getD consumer.inHand
      origin := consumer.origin <|> reader.committed }

/-- The consumer after an action. -/
def act (consumer : Consumer) : Action → Consumer
  | .edit edit =>
    { consumer with
      reader.source := consumer.log.edit edit
      history := consumer.history ++ (consumer.log.committedBy? edit).toList }
  | .read => consumer.afterRead consumer.reader.next
  | .commit =>
    match consumer.inHand.position with
    | none => consumer
    | some position =>
      { consumer with
        reader := consumer.reader.commit position
        inHand := {}
        taken := consumer.taken ++ consumer.inHand.changes }
  | .reset => { consumer with reader := consumer.reader.resetCursor }

/-- The consumer after actions, in order. -/
def run (consumer : Consumer) (actions : List Action) : Consumer :=
  actions.foldl act consumer

/-- The action truncates nothing beyond the head of the log, and does not read on with a batch in
hand. -/
def IsAllowed (consumer : Consumer) : Action → Prop
  | .edit edit => edit.IsWithin consumer.log
  | .read => consumer.inHand.isEmpty = true
  | .commit | .reset => True

instance (consumer : Consumer) (action : Action) : Decidable (consumer.IsAllowed action) := by
  cases action <;> unfold IsAllowed <;> infer_instance

/-- Every action is allowed at its moment. -/
abbrev Allows (consumer : Consumer) (actions : List Action) : Prop :=
  Run.Allows act IsAllowed consumer actions

/-- Somebody begins to read a log, after a position or from the oldest entry held. -/
def start (log : MemoryLog) (history : List Change) (resume : Option Position) (maxBatch : Nat) :
    Consumer where
  reader := .ofSource log resume maxBatch
  history := history
  origin := resume

/-- Some entry beyond the position has been truncated away. -/
def IsOvertaken (consumer : Consumer) (committed : Position) : Prop :=
  ∃ position, committed < position ∧ position ≤ consumer.history.length ∧
    ∀ entry ∈ consumer.log.entries, entry.position ≠ position

/-! ## What is kept -/

/-- A consumer whose reader has no position yet has got nothing. -/
structure IsUnplaced (consumer : Consumer) : Prop where
  committed_eq : consumer.reader.committed = none
  cursor_eq : consumer.reader.cursor = none
  origin_eq : consumer.origin = none
  inHand_eq : consumer.inHand = {}
  taken_eq : consumer.taken = []

/-- A consumer has taken the history from its origin to the committed position, and has the part that
follows in hand, with the cursor at its end. -/
structure IsPlaced (consumer : Consumer) (origin committed stop : Position) : Prop where
  committed_eq : consumer.reader.committed = some committed
  origin_eq : consumer.origin = some origin
  origin_le : origin ≤ committed
  committed_le : committed ≤ stop
  stop_le : stop ≤ consumer.history.length
  cursor_after : ∀ cursor, consumer.reader.cursor = some cursor → cursor.after = stop
  inHand_eq : consumer.inHand = Batch.spanning consumer.history committed stop
  taken_eq : consumer.taken = between consumer.history origin committed

/-- What holds of a consumer at every moment. -/
structure IsSound (consumer : Consumer) : Prop where
  records : consumer.log.Records consumer.history
  placed : consumer.IsUnplaced ∨ ∃ origin committed stop, consumer.IsPlaced origin committed stop

variable {consumer : Consumer} {origin committed stop : Position}

/-- A consumer with nothing in hand has its cursor at the committed position. -/
theorem IsPlaced.stop_eq (placed : consumer.IsPlaced origin committed stop)
    (nothing : consumer.inHand.isEmpty = true) : committed = stop := by
  rw [placed.inHand_eq] at nothing
  exact (Batch.isEmpty_spanning_iff placed.committed_le placed.stop_le).mp nothing

theorem IsPlaced.isAligned (placed : consumer.IsPlaced origin committed stop)
    (nothing : consumer.inHand.isEmpty = true) : consumer.reader.IsAligned := by
  intro cursor present
  rw [placed.committed_eq, placed.cursor_after cursor present, placed.stop_eq nothing]

/-- What a consumer has got is part of every longer history. -/
theorem IsPlaced.edit (placed : consumer.IsPlaced origin committed stop) (edit : MemoryLog.Edit) :
    (consumer.act (.edit edit)).IsPlaced origin committed stop where
  committed_eq := placed.committed_eq
  origin_eq := placed.origin_eq
  origin_le := placed.origin_le
  committed_le := placed.committed_le
  stop_le := by
    show stop ≤ (consumer.history ++ _).length
    rw [List.length_append]
    exact Nat.le_add_right_of_le placed.stop_le
  cursor_after := placed.cursor_after
  inHand_eq := by
    show consumer.inHand = Batch.spanning (consumer.history ++ _) committed stop
    rw [Batch.spanning_append placed.stop_le, placed.inHand_eq]
  taken_eq := by
    show consumer.taken = between (consumer.history ++ _) origin committed
    rw [between_append (Nat.le_trans placed.committed_le placed.stop_le), placed.taken_eq]

theorem IsPlaced.reset (placed : consumer.IsPlaced origin committed stop) :
    (consumer.act .reset).IsPlaced origin committed stop :=
  { placed with cursor_after := fun _ present => by cases present }

/-- Two neighbouring parts of a history make one. -/
theorem between_append_between {history : List Change} {first second third : Position}
    (early : first ≤ second) (late : second ≤ third) (held : third ≤ history.length) :
    between history first second ++ between history second third = between history first third := by
  have short : first ≤ (history.take second).length := by
    rw [List.length_take]
    lia
  have split : history.take third = history.take second ++ between history second third := by
    refine (List.take_append_drop second (history.take third)).symm.trans ?_
    rw [List.take_take, Nat.min_eq_left late]
    rfl
  show _ ++ _ = (history.take third).drop first
  rw [split, List.drop_append_of_le_length short]
  rfl

/-- A batch that is committed joins what was taken before. -/
theorem IsPlaced.commit (placed : consumer.IsPlaced origin committed stop) :
    (consumer.act .commit).IsPlaced origin stop stop := by
  by_cases later : committed < stop
  · have position : consumer.inHand.position = some stop := by
      rw [placed.inHand_eq]
      exact if_pos later
    have moved : consumer.reader.commit stop =
        { consumer.reader with committed := some stop } := by
      rw [Reader.commit, placed.committed_eq]
      simp only [Nat.max_eq_right placed.committed_le]
    have committed_eq : consumer.act .commit =
        { consumer with
          reader := { consumer.reader with committed := some stop }
          inHand := {}
          taken := consumer.taken ++ consumer.inHand.changes } := by
      simp only [act, position, moved]
    rw [committed_eq]
    exact
      { committed_eq := rfl
        origin_eq := placed.origin_eq
        origin_le := Nat.le_trans placed.origin_le placed.committed_le
        committed_le := Nat.le_refl _
        stop_le := placed.stop_le
        cursor_after := placed.cursor_after
        inHand_eq := (Batch.spanning_self _ _).symm
        taken_eq := by
          show consumer.taken ++ consumer.inHand.changes = _
          rw [placed.taken_eq, placed.inHand_eq]
          exact between_append_between placed.origin_le placed.committed_le placed.stop_le }
  · have same : committed = stop := Nat.le_antisymm placed.committed_le (Nat.le_of_not_lt later)
    subst same
    have nothing : consumer.inHand.position = none := by
      rw [placed.inHand_eq]
      exact if_neg later
    have still : consumer.act .commit = consumer := by
      simp only [act, nothing]
    rw [still]
    exact placed

theorem IsSound.place_le (sound : consumer.IsSound) :
    consumer.reader.place ≤ consumer.history.length := by
  rcases sound.placed with unplaced | ⟨origin, committed, stop, placed⟩
  · rw [Reader.place, unplaced.committed_eq, Option.getD_none]
    exact sound.records.horizon_le
  · rw [Reader.place, placed.committed_eq, Option.getD_some]
    exact Nat.le_trans placed.committed_le placed.stop_le

theorem IsSound.isAligned (sound : consumer.IsSound) (nothing : consumer.inHand.isEmpty = true) :
    consumer.reader.IsAligned := by
  rcases sound.placed with unplaced | ⟨origin, committed, stop, placed⟩
  · exact Reader.isAligned_of_closed unplaced.cursor_eq
  · exact placed.isAligned nothing

/-- A consumer whose reader now stands at its place, with what follows in hand, is placed: reading has
begun there if it had not begun before. -/
theorem IsSound.isPlaced_of_read (sound : consumer.IsSound)
    {reader : Reader MemoryLog MemoryLog.Cursor} {stop : Position}
    (committed : reader.committed = some consumer.reader.place)
    (later : consumer.reader.place ≤ stop) (inside : stop ≤ consumer.history.length)
    (cursor : ∀ cursor, reader.cursor = some cursor → cursor.after = stop) :
    ({ consumer with
        reader
        inHand := Batch.spanning consumer.history consumer.reader.place stop
        origin := consumer.origin <|> reader.committed } : Consumer).IsPlaced
      (consumer.origin.getD consumer.reader.place) consumer.reader.place stop := by
  rcases sound.placed with unplaced | ⟨origin, position, _, placed⟩
  · have origin : consumer.origin.getD consumer.reader.place = consumer.reader.place := by
      rw [unplaced.origin_eq, Option.getD_none]
    rw [origin]
    refine ⟨committed, ?_, Nat.le_refl _, later, inside, cursor, rfl, ?_⟩
    · show (consumer.origin <|> reader.committed) = _
      rw [unplaced.origin_eq, committed]
      rfl
    · show consumer.taken = _
      rw [unplaced.taken_eq, between_of_le (Nat.le_refl _)]
  · have place : consumer.reader.place = position := by
      rw [Reader.place, placed.committed_eq, Option.getD_some]
    rw [place] at committed later ⊢
    rw [placed.origin_eq, Option.getD_some]
    exact ⟨committed, rfl, placed.origin_le, later, inside, cursor, rfl, placed.taken_eq⟩

/-- With nothing in hand, what is in hand is the empty part of the history that begins anywhere. -/
theorem IsSound.inHand_eq (sound : consumer.IsSound) (nothing : consumer.inHand.isEmpty = true)
    (position : Position) : consumer.inHand = Batch.spanning consumer.history position position := by
  rw [Batch.spanning_self]
  rcases sound.placed with unplaced | ⟨origin, committed, stop, placed⟩
  · exact unplaced.inHand_eq
  · rw [placed.inHand_eq, placed.stop_eq nothing, Batch.spanning_self]

/-- **A read leaves the consumer in place**, whether it brings a batch or fails. -/
theorem IsSound.read (sound : consumer.IsSound) (nothing : consumer.inHand.isEmpty = true) :
    (consumer.act .read).IsSound := by
  have records : consumer.reader.source.Records consumer.history := sound.records
  rcases Reader.next_cases records sound.place_le (sound.isAligned nothing) with
    ⟨fault, after, failed, isLeft, -⟩ | ⟨-, cursor, brought, stop, -⟩
  · have read : consumer.act .read =
        { consumer with reader := after, origin := consumer.origin <|> after.committed } := by
      simp only [act, failed]
      rfl
    rw [read]
    refine ⟨isLeft.source.contents.records records, ?_⟩
    cases held : after.committed with
    | some position =>
      have place : consumer.reader.place = position := by
        rw [← isLeft.place_eq, Reader.place, held, Option.getD_some]
      right
      refine ⟨_, _, _, held ▸ sound.inHand_eq nothing consumer.reader.place ▸
        sound.isPlaced_of_read (held.trans (congrArg some place.symm)) (Nat.le_refl _) sound.place_le
          fun cursor present => ?_⟩
      rw [isLeft.cursor_eq] at present
      cases present
    | none =>
      left
      rcases sound.placed with unplaced | ⟨origin, committed, stop, placed⟩
      · refine ⟨held, isLeft.cursor_eq, ?_, unplaced.inHand_eq, unplaced.taken_eq⟩
        show (consumer.origin <|> none) = none
        rw [unplaced.origin_eq]
        rfl
      · have kept := Reader.committed_next placed.committed_eq
        rw [failed] at kept
        cases held.symm.trans kept
  · have read : consumer.act .read =
        { consumer with
          reader := { consumer.reader with
            cursor := some cursor, committed := some consumer.reader.place }
          inHand := Batch.spanning consumer.history consumer.reader.place
            (batchEnd consumer.history consumer.reader.batchLimit consumer.reader.place)
          origin := consumer.origin <|> some consumer.reader.place } := by
      simp only [act, brought]
      rfl
    have later : consumer.reader.place ≤
        batchEnd consumer.history consumer.reader.batchLimit consumer.reader.place :=
      Nat.le_min.mpr ⟨Nat.le_add_right _ _, sound.place_le⟩
    have inside : batchEnd consumer.history consumer.reader.batchLimit consumer.reader.place ≤
        consumer.history.length := Nat.min_le_right _ _
    rw [read]
    refine ⟨records, Or.inr ⟨_, _, _, sound.isPlaced_of_read rfl later inside fun other present => ?_⟩⟩
    cases present
    exact stop

/-- **Every action that is allowed keeps the consumer sound.** -/
theorem IsSound.act (sound : consumer.IsSound) {action : Action} (allowed : consumer.IsAllowed action) :
    (consumer.act action).IsSound := by
  cases action with
  | edit edit =>
    refine ⟨sound.records.edit allowed, sound.placed.imp (fun unplaced => { unplaced with }) ?_⟩
    rintro ⟨origin, committed, stop, placed⟩
    exact ⟨origin, committed, stop, placed.edit edit⟩
  | read => exact sound.read allowed
  | commit =>
    rcases sound.placed with unplaced | ⟨origin, committed, stop, placed⟩
    · have still : consumer.act .commit = consumer := by
        simp only [Consumer.act, unplaced.inHand_eq]
      rwa [still]
    · refine ⟨?_, Or.inr ⟨origin, stop, stop, placed.commit⟩⟩
      have log : (consumer.act .commit).log = consumer.log := by
        simp only [Consumer.act]
        split
        · rfl
        · show (consumer.reader.commit _).source = _
          unfold Reader.commit
          split <;> rfl
      have history : (consumer.act .commit).history = consumer.history := by
        simp only [Consumer.act]
        split <;> rfl
      rw [log, history]
      exact sound.records
  | reset =>
    refine ⟨sound.records, sound.placed.imp (fun unplaced => { unplaced with cursor_eq := rfl }) ?_⟩
    rintro ⟨origin, committed, stop, placed⟩
    exact ⟨origin, committed, stop, placed.reset⟩

/-- A consumer that resumes after a position of the history, or after none, is sound. -/
theorem isSound_start {log : MemoryLog} {history : List Change} (records : log.Records history)
    {resume : Option Position} (within : ∀ position, resume = some position →
      position ≤ history.length) (maxBatch : Nat) :
    (start log history resume maxBatch).IsSound := by
  refine ⟨records, ?_⟩
  cases resume with
  | none => exact Or.inl ⟨rfl, rfl, rfl, rfl, rfl⟩
  | some position =>
    exact Or.inr ⟨position, position, position, rfl, rfl, Nat.le_refl _, Nat.le_refl _,
      within position rfl, nofun, (Batch.spanning_self _ _).symm,
      (between_of_le (Nat.le_refl _)).symm⟩

/-! ## What a consumer gets -/

/-- Of a log that records its history, every entry beyond the horizon is still held. -/
theorem IsOvertaken.lt_horizon (overtaken : consumer.IsOvertaken committed)
    (records : consumer.log.Records consumer.history) : committed < consumer.log.horizon := by
  obtain ⟨position, later, inside, missing⟩ := overtaken
  refine Nat.lt_of_lt_of_le later (Nat.le_of_not_lt fun beyond => ?_)
  -- The entry that follows the position before it would be the missing one.
  have start : position - 1 + 1 = position := by lia
  have found := records.entryAfter_eq (Nat.le_sub_one_of_lt beyond)
  have held : position - 1 < consumer.history.length := by lia
  rw [List.getElem?_eq_getElem held, Option.map_some, start] at found
  exact missing _ (List.mem_of_find?_eq_some found) rfl

/-- **What has been committed is the history since the origin, and a reader that has been overtaken
reads nothing.** Let somebody begin to read a log, after a position or from the oldest entry held, and
let anything allowed happen after that. Then the changes of the committed batches are the history from
the position where reading began up to the committed position, and before reading has begun there
are none. When an entry beyond the committed position has been truncated away, the next read fails:
with the fault that waits for its first request, or because its open cursor has been invalidated, or,
when neither is in the way, because its position is refused. -/
theorem taken_eq_history_since_origin_and_overtaken_read_fails {log : MemoryLog}
    {history : List Change} (arises : log.Arises (fun log edit => edit.IsWithin log) history)
    {resume : Option Position}
    (within : ∀ position, resume = some position → position ≤ log.lastPosition) (maxBatch : Nat)
    {actions : List Action} (allows : (start log history resume maxBatch).Allows actions) :
    let consumer := (start log history resume maxBatch).run actions
    (consumer.reader.committed = none → consumer.taken = []) ∧
      ∀ committed, consumer.reader.committed = some committed →
        (∃ origin, consumer.origin = some origin ∧
          (∀ position, resume = some position → origin = position) ∧
          origin ≤ committed ∧ committed ≤ consumer.history.length ∧
          consumer.taken = between consumer.history origin committed) ∧
        (consumer.inHand.isEmpty = true → consumer.IsOvertaken committed →
          (∀ fault, consumer.reader.waitingFault? = some fault →
            consumer.reader.next.1 = .error (.ofFault fault)) ∧
          (consumer.reader.waitingFault? = none → ¬ consumer.reader.IsCurrent →
            consumer.reader.next.1 = .error (.ofFault .cursorInvalidated)) ∧
          (consumer.reader.waitingFault? = none → consumer.reader.IsCurrent →
            consumer.reader.next.1 = .error (.resumeRejected committed))) := by
  intro consumer
  have records : log.Records history := arises.records fun _ _ permitted => permitted
  have begun : (start log history resume maxBatch).IsSound :=
    isSound_start records (fun position asked => records.lastPosition_eq ▸ within position asked) _
  have sound : consumer.IsSound :=
    Run.induction IsSound (fun _ _ allowed sound => sound.act allowed) allows begun
  -- An origin that is there stays.
  have resumed : ∀ position, resume = some position → consumer.origin = some position := by
    intro position asked
    refine Run.induction (fun consumer => consumer.origin = some position) ?_ allows asked
    intro consumer action _ kept
    cases action with
    | read => exact congrArg (· <|> _) kept
    | commit =>
      simp only [Consumer.act]
      split <;> exact kept
    | edit _ | reset => exact kept
  rcases sound.placed with unplaced | ⟨origin, position, stop, placed⟩
  · refine ⟨fun _ => unplaced.taken_eq, fun committed held => ?_⟩
    rw [unplaced.committed_eq] at held
    cases held
  · have held := placed.committed_eq
    refine ⟨fun none => absurd (none.symm.trans held) nofun, fun committed same => ?_⟩
    obtain rfl : position = committed := Option.some.inj (held.symm.trans same)
    refine ⟨⟨origin, placed.origin_eq, fun asked known => ?_, placed.origin_le,
      Nat.le_trans placed.committed_le placed.stop_le, placed.taken_eq⟩, fun nothing overtaken => ?_⟩
    · exact Option.some.inj (placed.origin_eq.symm.trans (resumed asked known))
    · exact Reader.next_of_expired held (placed.isAligned nothing) (overtaken.lt_horizon sound.records)

/-- Two of three changes are read and committed, across a fault and a dropped cursor; then truncation
passes the third one, and the next read is refused. -/
theorem two_taken_and_third_refused :
    let fruit (name : String) : MemoryLog.Edit := .upsert ⟨"fruit", name⟩
    let consumer := (start (.empty false) [] none 2).run
      [.read, .edit (fruit "apple"), .edit (fruit "pear"), .edit (fruit "plum"),
        .edit (.failNextRead (.transient "down")), .read, .reset, .read, .commit,
        .edit (.truncate 3)]
    consumer.taken = [.update ⟨"fruit", "apple"⟩ 1, .update ⟨"fruit", "pear"⟩ 1] ∧
      consumer.taken = between consumer.history 0 2 ∧
      consumer.reader.next.1 = .error (.resumeRejected 2) := by
  intro fruit consumer
  have allows : (start (.empty false) [] none 2).Allows
      [.read, .edit (fruit "apple"), .edit (fruit "pear"), .edit (fruit "plum"),
        .edit (.failNextRead (.transient "down")), .read, .reset, .read, .commit,
        .edit (.truncate 3)] := by decide +kernel
  have committed : consumer.reader.committed = some 2 := by decide +kernel
  have begun : consumer.origin = some 0 := by decide +kernel
  have overtaken : consumer.IsOvertaken 2 := by
    have nothing : consumer.log.entries = [] := by decide +kernel
    refine ⟨3, by decide, by decide +kernel, fun entry held => ?_⟩
    rw [nothing] at held
    cases held
  have current : consumer.reader.IsCurrent := by
    have generation : ∀ cursor ∈ consumer.reader.cursor,
        cursor.generation = consumer.reader.source.generation := by decide +kernel
    exact generation
  obtain ⟨⟨origin, held, -, -, -, taken⟩, refused⟩ :=
    (taken_eq_history_since_origin_and_overtaken_read_fails (.new false)
      (fun _ asked => by cases asked) 2 allows).2 2 committed
  obtain rfl : origin = 0 := Option.some.inj (held.symm.trans begun)
  have nothing : consumer.inHand.isEmpty = true := by decide +kernel
  have calm : consumer.reader.waitingFault? = none := by decide +kernel
  exact ⟨by decide +kernel, taken, (refused nothing overtaken).2.2 calm current⟩

/-- A cursor is opened and invalidated, and truncation passes the only entry beyond it. No fault waits,
yet the next read does not report the lost position: it fails because the cursor is invalid. -/
theorem overtaken_read_fails_for_invalid_cursor :
    let actions : List Action :=
      [.read, .edit (.upsert ⟨"fruit", "apple"⟩), .edit .invalidateCursors, .edit (.truncate 1)]
    let consumer := (start (.empty false) [] none 8).run actions
    (start (.empty false) [] none 8).Allows actions ∧
      consumer.reader.committed = some 0 ∧ consumer.IsOvertaken 0 ∧
      consumer.inHand.isEmpty = true ∧ consumer.log.faults = [] ∧
      consumer.reader.next.1 = .error (.retryable "cursor invalidated") ∧
      ∀ position, consumer.reader.next.1 ≠ .error (.resumeRejected position) := by
  intro actions consumer
  have nothing : consumer.log.entries = [] := by decide +kernel
  have committed : consumer.reader.committed = some 0 := by decide +kernel
  have present : consumer.reader.cursor = some ⟨0, 0, 0⟩ := by decide +kernel
  have aligned : consumer.reader.IsAligned := fun cursor held => by
    obtain rfl : _ = cursor := Option.some.inj (present.symm.trans held)
    exact committed
  have stale : ¬ consumer.reader.IsCurrent := fun current =>
    absurd (current _ present) (by decide +kernel)
  have failed : consumer.reader.next.1 = .error (.retryable "cursor invalidated") :=
    (Reader.next_of_expired committed aligned (by decide +kernel)).2.1 (by decide +kernel) stale
  refine ⟨by decide +kernel, committed, ⟨1, by decide, by decide +kernel, fun entry held => ?_⟩,
    by decide +kernel, by decide +kernel, failed, fun position => by simp [failed]⟩
  rw [nothing] at held
  cases held

end Consumer

end ChangeFeed
