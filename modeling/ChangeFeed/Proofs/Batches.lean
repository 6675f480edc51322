/-
# What one read comes to

On a log that nobody edits, a read either fails or brings the batch that the reader's place
determines, whether or not an earlier read failed in the middle of it. A failed read leaves the
reader in its place: a reader that had none yet may have fixed it at the horizon, where it would have
started anyway.
-/

import ChangeFeed.Proofs.Standing

namespace ChangeFeed

/-- The position of the last change in a full batch, or of the last change of all. -/
def batchEnd (history : List Change) (limit : Nat) (start : Position) : Position :=
  min (start + limit) history.length

theorem length_between {history : List Change} {start stop : Position}
    (held : stop ≤ history.length) : (between history start stop).length = stop - start := by
  rw [between, List.length_drop, List.length_take, Nat.min_eq_left held]

namespace Reader

/-! ## One entry after the other -/

section Fill

variable {σ κ : Type} [Source σ κ] {committed : Option Position} {limit : Nat} {batch : Batch}
  {cursor later : κ} {source after : σ} {fault : Fault} {entry : Entry}

theorem fill_of_full (full : ¬ batch.changes.length < limit) :
    fill committed limit batch cursor source = (.ok batch, cursor, source) := by
  rw [fill, if_neg full]

theorem fill_of_error (short : batch.changes.length < limit)
    (read : Source.nextEntry cursor source = (.error fault, later, after)) :
    fill committed limit batch cursor source = (.error fault, later, after) := by
  rw [fill, if_pos short]
  split <;> simp_all

theorem fill_of_none (short : batch.changes.length < limit)
    (read : Source.nextEntry cursor source = (.ok none, later, after)) :
    fill committed limit batch cursor source = (.ok batch, later, after) := by
  rw [fill, if_pos short]
  split <;> simp_all

theorem fill_of_entry (short : batch.changes.length < limit)
    (read : Source.nextEntry cursor source = (.ok (some entry), later, after))
    (fresh : isHandedOver committed entry = false) :
    fill committed limit batch cursor source =
      fill committed limit (batch.push entry) later after := by
  rw [fill, if_pos short]
  split <;> simp_all

theorem fill_of_handedOver (short : batch.changes.length < limit)
    (read : Source.nextEntry cursor source = (.ok (some entry), later, after))
    (handed : isHandedOver committed entry = true) :
    fill committed limit batch cursor source = fill committed limit batch later after := by
  rw [fill, if_pos short]
  split <;> simp_all

end Fill

/-! ## Batches of a log in memory -/

variable {history : List Change} {log : MemoryLog}

/-- Why a read can fail: a fault was waiting, the cursor has become invalid, or the place has
expired. -/
def IsRefused (log : MemoryLog) (invalid : Prop) (place : Position) (fault : Fault) : Prop :=
  fault ∈ log.faults ∨ (invalid ∧ fault = .cursorInvalidated) ∨
    (place < log.horizon ∧ ∃ position, fault = .positionExpired position)

/-- **A batch is filled up to its end, or the read fails.** The induction is on what is missing of the
batch; the horizon is looked at before the first change is read, and stays. -/
theorem fill_cases (records : log.Records history) {limit : Nat} (positive : 0 < limit)
    {start : Position} {cursor : MemoryLog.Cursor} (reached : start ≤ cursor.after)
    (within : cursor.after ≤ batchEnd history limit start)
    (fresh : cursor.after = start ∨ log.horizon ≤ start) :
    (∃ fault later after,
        fill (some start) limit (Batch.spanning history start cursor.after) cursor log =
          (.error fault, later, after) ∧
        after.IsLeftOf log ∧ IsRefused log (log.generation ≠ cursor.generation) start fault) ∨
      (log.horizon ≤ start ∧
        fill (some start) limit (Batch.spanning history start cursor.after) cursor log =
          (.ok (Batch.spanning history start (batchEnd history limit start)),
            { cursor with after := batchEnd history limit start }, log)) := by
  induction missing : batchEnd history limit start - cursor.after using Nat.strongRecOn
    generalizing cursor with
  | _ rest ih =>
    have bound : batchEnd history limit start ≤ history.length := Nat.min_le_right _ _
    have size : (Batch.spanning history start cursor.after).changes.length = cursor.after - start :=
      length_between (Nat.le_trans within bound)
    have known : log.horizon ≤ cursor.after → log.horizon ≤ start := by
      rcases fresh with same | held
      · exact same ▸ id
      · exact fun _ => held
    by_cases short : (Batch.spanning history start cursor.after).changes.length < limit
    · rcases MemoryLog.nextEntry_cases records.entryAfter_eq cursor with
        ⟨fault, after, read, isLeft, reason⟩ | ⟨held, caughtUp, read⟩ | ⟨change, held, found, read⟩
      · refine Or.inl ⟨fault, cursor, after, fill_of_error short read, isLeft, ?_⟩
        refine reason.imp_right (Or.imp_right ?_)
        rintro ⟨expired, rfl⟩
        exact ⟨Nat.lt_of_le_of_lt reached expired, _, rfl⟩
      · have same : cursor.after = batchEnd history limit start :=
          Nat.le_antisymm within (Nat.le_trans bound caughtUp)
        refine Or.inr ⟨known held, ?_⟩
        rw [fill_of_none short read, ← same]
      · have inside : cursor.after < history.length := (List.getElem?_eq_some_iff.mp found).1
        have unread : isHandedOver (some start) ⟨cursor.after + 1, change⟩ = false :=
          decide_eq_false (Nat.not_le_of_lt (Nat.lt_succ_of_le reached))
        let moved : MemoryLog.Cursor := { cursor with after := cursor.after + 1 }
        have reachedNext : start ≤ moved.after := Nat.le_succ_of_le reached
        have room : moved.after ≤ batchEnd history limit start := by
          rw [size] at short
          exact Nat.le_min.mpr ⟨by lia, inside⟩
        rw [fill_of_entry short read unread, Batch.spanning_push reached found]
        have fewer : batchEnd history limit start - moved.after < rest := by lia
        exact ih _ fewer reachedNext room (Or.inr (known held)) rfl
    · have same : cursor.after = batchEnd history limit start := by
        rw [size] at short
        apply Nat.le_antisymm within
        exact Nat.le_trans (Nat.min_le_left _ _) (by lia)
      have held : log.horizon ≤ start := by
        apply fresh.resolve_left
        intro none
        rw [size, none, Nat.sub_self] at short
        exact short positive
      refine Or.inr ⟨held, ?_⟩
      rw [fill_of_full short, ← same]

/-! ## Whole batches -/

variable {reader : Reader MemoryLog MemoryLog.Cursor} {cursor : MemoryLog.Cursor}

/-- The position after which the reader reads on. -/
def place (reader : Reader MemoryLog MemoryLog.Cursor) : Position :=
  reader.committed.getD reader.source.horizon

/-- A cursor that is open belongs to the present generation of the log. -/
def IsCurrent (reader : Reader MemoryLog MemoryLog.Cursor) : Prop :=
  ∀ cursor, reader.cursor = some cursor → cursor.generation = reader.source.generation

/-- What a failed request leaves of a reader: its place, and no cursor. -/
structure IsLeftOf (after reader : Reader MemoryLog MemoryLog.Cursor) : Prop where
  source : after.source.IsLeftOf reader.source
  cursor_eq : after.cursor = none
  place_eq : after.place = reader.place
  batchLimit_eq : after.batchLimit = reader.batchLimit

/-- A reader that keeps its committed position on what is left of the log keeps its place. -/
theorem place_eq_of_isLeftOf (reader after : Reader MemoryLog MemoryLog.Cursor)
    (isLeft : after.source.IsLeftOf reader.source)
    (committed : after.committed = reader.committed ∨ after.committed = some reader.place) :
    after.place = reader.place := by
  rcases committed with same | fixed
  · rw [place, same, isLeft.contents.horizon_eq, place]
  · rw [place, fixed, Option.getD_some]

/-- A reader whose cursor is in place reads the batch after it, or fails. -/
theorem next_cases_of_openCursor (records : reader.source.Records history)
    (opens : reader.openCursor =
      (.ok cursor, { reader with cursor := some cursor, committed := some reader.place }))
    (held : cursor.after ≤ history.length) (start : cursor.after = reader.place) :
    (∃ fault after, reader.next = (.error (.ofFault fault), after) ∧ after.IsLeftOf reader ∧
        IsRefused reader.source (reader.source.generation ≠ cursor.generation) reader.place fault) ∨
      (reader.source.horizon ≤ reader.place ∧
        reader.next = (.ok (Batch.spanning history reader.place
            (batchEnd history reader.batchLimit reader.place)),
          { reader with
            cursor := some { cursor with
              after := batchEnd history reader.batchLimit reader.place }
            committed := some reader.place })) := by
  have nothing : Batch.spanning history reader.place cursor.after = {} := by
    rw [start, Batch.spanning_self]
  have within : cursor.after ≤ batchEnd history reader.batchLimit reader.place :=
    Nat.le_min.mpr ⟨by lia, held⟩
  rcases fill_cases records reader.batchLimit_pos (Nat.le_of_eq start.symm) within (Or.inl start)
    with ⟨fault, later, after, filled, isLeft, reason⟩ | ⟨unexpired, filled⟩
  · rw [nothing] at filled
    let failed : Reader MemoryLog MemoryLog.Cursor :=
      { reader with source := after, cursor := none, committed := some reader.place }
    refine Or.inl ⟨fault, failed, ?_, ⟨isLeft, rfl, ?_, rfl⟩, reason⟩
    · rw [next, opens]
      simp only [filled]
      rfl
    · exact place_eq_of_isLeftOf reader failed isLeft (Or.inr rfl)
  · rw [nothing] at filled
    refine Or.inr ⟨unexpired, ?_⟩
    rw [next, opens]
    simp only [filled]

/-- **A read brings the batch at the reader's place, or it fails and leaves the reader there.** -/
theorem next_cases (records : reader.source.Records history)
    (place_le : reader.place ≤ history.length) (aligned : reader.IsAligned) :
    (∃ fault after, reader.next = (.error (.ofFault fault), after) ∧ after.IsLeftOf reader ∧
        IsRefused reader.source (¬ reader.IsCurrent) reader.place fault) ∨
      (reader.source.horizon ≤ reader.place ∧ ∃ cursor : MemoryLog.Cursor,
        reader.next = (.ok (Batch.spanning history reader.place
            (batchEnd history reader.batchLimit reader.place)),
          { reader with cursor := some cursor, committed := some reader.place }) ∧
        cursor.after = batchEnd history reader.batchLimit reader.place ∧
        (reader.IsCurrent → cursor.generation = reader.source.generation)) := by
  cases present : reader.cursor with
  | some cursor =>
    have committed : reader.committed = some cursor.after := aligned cursor present
    have start : cursor.after = reader.place := by rw [place, committed, Option.getD_some]
    have opens : reader.openCursor =
        (.ok cursor, { reader with cursor := some cursor, committed := some reader.place }) := by
      have same : reader =
          { reader with cursor := some cursor, committed := some reader.place } := by
        rw [← start, ← committed, ← present]
      simp only [openCursor, present]
      exact congrArg (Prod.mk _) same
    rcases next_cases_of_openCursor records opens (start ▸ place_le) start with
      ⟨fault, after, failed, isLeft, reason⟩ | ⟨unexpired, read⟩
    · refine Or.inl ⟨fault, after, failed, isLeft, reason.imp_right (Or.imp_left ?_)⟩
      exact And.imp_left fun invalid current => invalid (current cursor present).symm
    · exact Or.inr ⟨unexpired, _, read, rfl, fun current => current cursor present⟩
  | none =>
    rcases reader.source.openCursor_cases reader.committed with
      ⟨fault, source, asked, isLeft, reason⟩ | ⟨cursor, asked, fresh, start, unexpired, generation⟩
    · let failed : Reader MemoryLog MemoryLog.Cursor := { reader with source, cursor := none }
      refine Or.inl ⟨fault, failed, ?_, ⟨isLeft, rfl, ?_, rfl⟩, reason.imp MemoryLog.Meets.mem fun expired => ?_⟩
      · simp only [next, openCursor, present, asked]
        rfl
      · exact place_eq_of_isLeftOf reader failed isLeft (Or.inl rfl)
      · obtain ⟨position, held, expired, rfl, -, -⟩ := expired
        refine Or.inr ⟨?_, position, rfl⟩
        rwa [place, held, Option.getD_some]
    · have fixed : reader.committed.getD (Source.resumePoint MemoryLog cursor) = reader.place := by
        show reader.committed.getD cursor.openedAfter = reader.place
        rw [fresh, start, place]
        cases reader.committed <;> rfl
      have opens : reader.openCursor =
          (.ok cursor, { reader with cursor := some cursor, committed := some reader.place }) := by
        simp only [openCursor, present, asked, fixed]
      rcases next_cases_of_openCursor records opens (start ▸ place_le) start with
        ⟨fault, after, failed, isLeft, reason⟩ | ⟨unexpired, read⟩
      · refine Or.inl ⟨fault, after, failed, isLeft, reason.imp_right (Or.imp_left ?_)⟩
        exact fun invalid => absurd generation.symm invalid.1
      · exact Or.inr ⟨unexpired, _, read, rfl, fun _ => generation⟩

end Reader

end ChangeFeed
