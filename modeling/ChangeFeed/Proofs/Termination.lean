/-
# Poll cycles that end

A turn of a poll cycle that is not the last uses something up: a fault that waits, entries that have
not been read, or one of the few turns in which a lost place is found out and made good. `strain`
adds these up, and a cycle that uses up strain with every turn ends within the turns allowed to it.

One turn may leave all its strain. A log that has been truncated beyond its newest entry gives a
snapshot and refuses to open a cursor at the position that came with it: it *disowns* its snapshot.
A fresh start from such a snapshot is lost at once, and another one is owed. A poller that owes a
fresh start to such a log is *stranded*, and each of its fresh starts tells the watcher of another
discontinuity. A cycle ends exactly if its poller is stranded at none of its turns.
-/

import ChangeFeed.Proofs.Transparency

namespace ChangeFeed

namespace MemoryLog

variable {log other : MemoryLog} {cursor : Cursor}

instance (log : MemoryLog) (cursor : Cursor) : Decidable (log.Admits cursor) :=
  decidable_of_iff
    (log.readFaults = [] ∧ log.generation = cursor.generation ∧ log.horizon ≤ cursor.after)
    ⟨fun ⟨unfaulted, current, unexpired⟩ => ⟨unfaulted, current, unexpired⟩,
      fun ⟨unfaulted, current, unexpired⟩ => ⟨unfaulted, current, unexpired⟩⟩

theorem unread_le_length (cursor : Cursor) (log : MemoryLog) :
    unread cursor log ≤ log.entries.length :=
  List.countP_le_length

/-- The log gives a snapshot, and refuses to open a cursor at the position that comes with it. -/
structure Disowns (log : MemoryLog) : Prop where
  supports : log.supportsSnapshots = true
  ahead : log.lastPosition < log.horizon
  gives : log.snapshotFaults = []
  refuses : log.openFaults = []

instance (log : MemoryLog) : Decidable log.Disowns :=
  decidable_of_iff (log.supportsSnapshots = true ∧ log.lastPosition < log.horizon ∧
      log.snapshotFaults = [] ∧ log.openFaults = [])
    ⟨fun ⟨supports, ahead, gives, refuses⟩ => ⟨supports, ahead, gives, refuses⟩,
      fun ⟨supports, ahead, gives, refuses⟩ => ⟨supports, ahead, gives, refuses⟩⟩

theorem Disowns.openCursor (disowns : log.Disowns) :
    Source.openCursor (some log.lastPosition) log =
      (.error (.positionExpired log.lastPosition), log) := by
  have same : { log with openFaults := log.openFaults.tail } = log := by
    rw [disowns.refuses, List.tail_nil, ← disowns.refuses]
  rw [openCursor_of_expired disowns.ahead, disowns.refuses, List.head?_nil, Option.getD_none,
    ← disowns.refuses, same]

end MemoryLog

namespace Reader

variable {reader opened after : Reader MemoryLog MemoryLog.Cursor} {log : MemoryLog}
  {cursor : MemoryLog.Cursor} {fault : Fault}

/-! ## Batches -/

/-- A cursor that is admitted fills a batch without fail and is admitted afterwards. If the batch has
grown, there is less to read. -/
theorem fill_of_admits (committed : Option Position) (limit : Nat) (batch : Batch)
    (admits : log.Admits cursor) :
    ∃ filled later, fill committed limit batch cursor log = (.ok filled, later, log) ∧
      log.Admits later ∧ MemoryLog.unread later log ≤ MemoryLog.unread cursor log ∧
      (filled = batch ∨ MemoryLog.unread later log < MemoryLog.unread cursor log) := by
  induction left : MemoryLog.unread cursor log using Nat.strongRecOn generalizing batch cursor with
  | _ count ih =>
    subst left
    by_cases short : batch.changes.length < limit
    · rcases log.nextEntry_answers cursor with ⟨-, read⟩ | ⟨refused, -⟩
      · cases found : log.entryAfter cursor.after with
        | none =>
          rw [found] at read
          exact ⟨batch, cursor, fill_of_none short read, admits, Nat.le_refl _, Or.inl rfl⟩
        | some entry =>
          rw [found] at read
          let moved : MemoryLog.Cursor := { cursor with after := entry.position }
          have fewer : MemoryLog.unread moved log < MemoryLog.unread cursor log :=
            MemoryLog.unread_lt read
          have beyond : cursor.after < entry.position := by
            simpa using List.find?_some found
          have still : log.Admits moved :=
            ⟨admits.unfaulted, admits.current, Nat.le_trans admits.unexpired (Nat.le_of_lt beyond)⟩
          cases handed : isHandedOver committed entry with
          | true =>
            obtain ⟨filled, later, fills, stays, most, -⟩ := ih _ fewer batch still rfl
            have less := Nat.lt_of_le_of_lt most fewer
            exact ⟨filled, later, (fill_of_handedOver short read handed).trans fills, stays,
              Nat.le_of_lt less, Or.inr less⟩
          | false =>
            obtain ⟨filled, later, fills, stays, most, -⟩ := ih _ fewer (batch.push entry) still rfl
            have less := Nat.lt_of_le_of_lt most fewer
            exact ⟨filled, later, (fill_of_entry short read handed).trans fills, stays,
              Nat.le_of_lt less, Or.inr less⟩
      · exact absurd admits refused
    · exact ⟨batch, cursor, fill_of_full short, admits, Nat.le_refl _, Or.inl rfl⟩

/-- Once a cursor is open, a read brings a batch if the cursor is admitted, and fails otherwise. -/
theorem next_of_openCursor (opens : reader.openCursor = (.ok cursor, opened)) :
    (opened.source.Admits cursor ∧ ∃ batch later,
        reader.next = (.ok batch, { opened with cursor := some later }) ∧
        opened.source.Admits later ∧
        (batch = {} ∨
          MemoryLog.unread later opened.source < MemoryLog.unread cursor opened.source)) ∨
      ¬ opened.source.Admits cursor ∧ ∃ fault source,
        reader.next = (.error (.ofFault fault), { opened with source, cursor := none }) ∧
        source.IsLeftOf opened.source ∧
        (opened.source.Meets source fault ∨
          (opened.source.generation ≠ cursor.generation ∧ fault = .cursorInvalidated ∧
            source = opened.source) ∨
          (opened.source.generation = cursor.generation ∧ cursor.after < opened.source.horizon ∧
            fault = .positionExpired cursor.after ∧ source = opened.source)) := by
  rcases opened.source.nextEntry_answers cursor with ⟨admits, -⟩ | ⟨refused, fault, source, read, why⟩
  · obtain ⟨batch, later, fills, stays, -, grown⟩ :=
      fill_of_admits opened.committed opened.batchLimit {} admits
    refine Or.inl ⟨admits, batch, later, ?_, stays, grown⟩
    simp only [next, opens, fills]
  · have room : ({} : Batch).changes.length < opened.batchLimit := opened.batchLimit_pos
    refine Or.inr ⟨refused, fault, source, ?_, why⟩
    simp only [next, opens, fill_of_error room read]

/-! ## What there is to use up -/

/-- At most how many turns are ahead if no fault strikes. A fresh start that is owed takes one, a place
that has expired one more in which that is found out, and a cursor that has become invalid yet another,
since the place that it leaves may have expired. -/
def turnsAhead (owed : Bool) (reader : Reader MemoryLog MemoryLog.Cursor) : Nat :=
  let held := reader.source.entries.length
  if owed then held + 3
  else
    match reader.cursor with
    | some cursor =>
      if reader.source.Admits cursor then MemoryLog.unread cursor reader.source + 1
      else if reader.source.generation ≠ cursor.generation then held + 5
      else if cursor.after < reader.source.horizon then held + 4
      else held + 2
    | none =>
      if reader.source.openFaults = [] ∧ reader.place < reader.source.horizon then held + 4
      else held + 2

/-- A fault that waits can cost the cursor, and with it as many turns as it takes to find out that the
place is lost. -/
def strain (owed : Bool) (reader : Reader MemoryLog MemoryLog.Cursor) : Nat :=
  4 * reader.source.faults.length + reader.turnsAhead owed

theorem turnsAhead_of_admits (present : reader.cursor = some cursor)
    (admits : reader.source.Admits cursor) :
    reader.turnsAhead false = MemoryLog.unread cursor reader.source + 1 := by
  simp only [turnsAhead, present, if_pos admits, Bool.false_eq_true, if_false]

theorem le_turnsAhead_of_not_admits (present : reader.cursor = some cursor)
    (refused : ¬ reader.source.Admits cursor) :
    reader.source.entries.length + 2 ≤ reader.turnsAhead false := by
  simp only [turnsAhead, present, if_neg refused, Bool.false_eq_true, if_false]
  split
  · lia
  · split <;> lia

theorem turnsAhead_of_closed (closed : reader.cursor = none) :
    reader.source.entries.length + 2 ≤ reader.turnsAhead false ∧
      ∀ owed, reader.turnsAhead owed ≤ reader.source.entries.length + 4 := by
  simp only [turnsAhead, closed]
  refine ⟨?_, fun owed => ?_⟩
  · simp only [Bool.false_eq_true, if_false]
    split <;> lia
  · split
    · lia
    · split <;> lia

theorem turnsAhead_le (owed : Bool) (reader : Reader MemoryLog MemoryLog.Cursor) :
    reader.turnsAhead owed ≤ reader.source.entries.length + 5 := by
  have unread := fun cursor => MemoryLog.unread_le_length cursor reader.source
  simp only [turnsAhead]
  split
  · lia
  · split
    · next cursor present =>
      have most := unread cursor
      repeat' split
      all_goals lia
    · split <;> lia

/-- A fault that has struck makes up for the cursor that it costs. -/
theorem strain_lt_of_meets (meets : reader.source.Meets after.source fault)
    (contents : after.source.SameContents reader.source) (closed : after.cursor = none)
    {owed later : Bool} (ahead : reader.source.entries.length < reader.turnsAhead owed) :
    after.strain later < reader.strain owed := by
  have faults := meets.length_eq
  have most := (turnsAhead_of_closed closed).2 later
  rw [contents.entries_eq] at most
  rw [strain, strain]
  lia

/-! ## Requests -/

/-- What a read comes to. If it fails, some strain is used up once a rejected place has been put down
as a fresh start that is owed; a batch uses some up unless it is empty. -/
inductive Answer (reader : Reader MemoryLog MemoryLog.Cursor) :
    Except ReadError Batch × Reader MemoryLog MemoryLog.Cursor → Prop where
  | failed (fault : Fault) (after : Reader MemoryLog MemoryLog.Cursor)
    (contents : after.source.SameContents reader.source)
    (rejected : after.strain true < reader.strain false)
    (retried : (∃ position, fault = .positionExpired position) ∨
      after.strain false < reader.strain false)
    (troubled : fault ∈ reader.source.faults ∨
      reader.source.entries.length + 2 < reader.turnsAhead false) :
    Answer reader (.error (.ofFault fault), after)
  | read (batch : Batch) (after : Reader MemoryLog MemoryLog.Cursor) (cursor : MemoryLog.Cursor)
    (source_eq : after.source = reader.source) (present : after.cursor = some cursor)
    (admits : after.source.Admits cursor)
    (lighter : batch = {} ∨ after.strain false < reader.strain false) :
    Answer reader (.ok batch, after)

theorem answer_of_meets (meets : reader.source.Meets after.source fault)
    (contents : after.source.SameContents reader.source) (closed : after.cursor = none)
    (ahead : reader.source.entries.length < reader.turnsAhead false) :
    Answer reader (.error (.ofFault fault), after) :=
  .failed fault after contents (strain_lt_of_meets meets contents closed ahead)
    (Or.inr (strain_lt_of_meets meets contents closed ahead)) (Or.inl meets.mem)

/-- An open cursor answers a read. -/
theorem answer_of_present (present : reader.cursor = some cursor) : Answer reader reader.next := by
  have opens : reader.openCursor = (.ok cursor, reader) := by
    simp only [openCursor, present]
  rcases next_of_openCursor opens with
    ⟨admits, batch, later, read, stays, grown⟩ | ⟨refused, fault, source, failed, isLeft, why⟩
  · rw [read]
    let moved : Reader MemoryLog MemoryLog.Cursor := { reader with cursor := some later }
    have ahead : moved.turnsAhead false = MemoryLog.unread later reader.source + 1 :=
      turnsAhead_of_admits rfl stays
    refine .read batch moved later rfl rfl stays (grown.imp_right fun fewer => ?_)
    rw [strain, strain, ahead, turnsAhead_of_admits present admits]
    exact Nat.add_lt_add_left (Nat.add_lt_add_right fewer 1) _
  · rw [failed]
    rcases why with meets | ⟨stale, rfl, rfl⟩ | ⟨current, expired, rfl, rfl⟩
    · have ahead := le_turnsAhead_of_not_admits present refused
      exact answer_of_meets meets isLeft.contents rfl
        (Nat.lt_of_lt_of_le (Nat.lt_add_of_pos_right Nat.two_pos) ahead)
    · let dropped : Reader MemoryLog MemoryLog.Cursor := { reader with cursor := none }
      have ahead : reader.turnsAhead false = reader.source.entries.length + 5 := by
        simp only [turnsAhead, present, if_neg refused, if_pos stale, Bool.false_eq_true, if_false]
      have lighter (owed : Bool) : dropped.strain owed < reader.strain false := by
        have most : dropped.turnsAhead owed ≤ reader.source.entries.length + 4 :=
          (turnsAhead_of_closed rfl).2 owed
        exact Nat.add_lt_add_left (by rw [ahead]; exact Nat.lt_succ_of_le most) _
      exact .failed _ dropped isLeft.contents (lighter true) (Or.inr (lighter false))
        (Or.inr (by lia))
    · let dropped : Reader MemoryLog MemoryLog.Cursor := { reader with cursor := none }
      have ahead : reader.turnsAhead false = reader.source.entries.length + 4 := by
        simp only [turnsAhead, present, if_neg refused, current, expired, ne_eq, not_true_eq_false,
          if_false, if_true, Bool.false_eq_true]
      have rejected : dropped.strain true < reader.strain false :=
        Nat.add_lt_add_left (by rw [ahead]; exact Nat.lt_succ_self _) _
      exact .failed _ dropped isLeft.contents rejected (Or.inl ⟨_, rfl⟩) (Or.inr (by lia))

/-- Without a cursor a read opens one first. -/
theorem answer_of_closed (closed : reader.cursor = none) : Answer reader reader.next := by
  have least := (turnsAhead_of_closed closed).1
  have ahead : reader.source.entries.length < reader.turnsAhead false :=
    Nat.lt_of_lt_of_le (Nat.lt_add_of_pos_right Nat.two_pos) least
  rcases reader.source.openCursor_cases reader.committed with
    ⟨fault, source, asked, isLeft, why⟩ | ⟨cursor, asked, -, -, unexpired, current⟩
  · let failed : Reader MemoryLog MemoryLog.Cursor := { reader with source }
    have fails : reader.next = (.error (.ofFault fault), failed) := by
      simp only [next, openCursor, closed, asked, failed]
    rw [fails]
    rcases why with meets | ⟨position, held, expired, rfl, unfaulted, rfl⟩
    · exact answer_of_meets meets isLeft.contents closed ahead
    · have lost : reader.place < reader.source.horizon := by
        rwa [place, held, Option.getD_some]
      have barred : reader.turnsAhead false = reader.source.entries.length + 4 := by
        simp only [turnsAhead, closed, unfaulted, lost, and_self, if_true, Bool.false_eq_true,
          if_false]
      have rejected : failed.strain true < reader.strain false :=
        Nat.add_lt_add_left (by rw [barred]; exact Nat.lt_succ_self _) _
      exact .failed _ failed isLeft.contents rejected (Or.inl ⟨position, rfl⟩) (Or.inr (by lia))
  · let start := reader.committed.getD (Source.resumePoint MemoryLog cursor)
    let opened : Reader MemoryLog MemoryLog.Cursor :=
      { reader with cursor := some cursor, committed := some start }
    have opens : reader.openCursor = (.ok cursor, opened) := by
      simp only [openCursor, closed, asked, opened, start]
    rcases next_of_openCursor opens with
      ⟨admits, batch, later, read, stays, grown⟩ | ⟨-, fault, source, failed, isLeft, why⟩
    · rw [read]
      let moved : Reader MemoryLog MemoryLog.Cursor := { opened with cursor := some later }
      have ahead : moved.turnsAhead false = MemoryLog.unread later reader.source + 1 :=
        turnsAhead_of_admits rfl stays
      have most := MemoryLog.unread_le_length later reader.source
      have lighter : moved.strain false < reader.strain false :=
        Nat.add_lt_add_left (by lia) _
      exact .read batch moved later rfl rfl stays (Or.inr lighter)
    · rw [failed]
      -- the cursor has just been opened, so that only a fault can keep it from being read
      have meets : reader.source.Meets source fault := by
        rcases why with meets | ⟨stale, -⟩ | ⟨-, expired, -⟩
        · exact meets
        · exact absurd current.symm stale
        · exact absurd expired (Nat.not_lt_of_le unexpired)
      exact answer_of_meets meets isLeft.contents rfl ahead

/-- **Every read uses up strain**, unless it comes to an empty batch. -/
theorem answer_next (reader : Reader MemoryLog MemoryLog.Cursor) : Answer reader reader.next := by
  cases present : reader.cursor with
  | some cursor => exact answer_of_present present
  | none => exact answer_of_closed present

/-- Without faults and without a detour ahead, a read brings a batch, and no detour is ahead then. -/
theorem next_of_untroubled (unfaulted : reader.source.faults = [])
    (straight : reader.turnsAhead false ≤ reader.source.entries.length + 2) :
    ∃ batch after cursor, reader.next = (.ok batch, after) ∧ after.source = reader.source ∧
      after.cursor = some cursor ∧ after.source.Admits cursor := by
  have answer := reader.answer_next
  generalize reader.next = answered at answer ⊢
  cases answer with
  | failed fault after _ _ _ troubled =>
    rcases troubled with waiting | detour
    · rw [unfaulted] at waiting
      cases waiting
    · exact absurd straight (Nat.not_le_of_lt detour)
  | read batch after cursor source_eq present admits _ =>
    exact ⟨batch, after, cursor, rfl, source_eq, present, admits⟩

/-- Without faults a place that has expired is rejected. -/
theorem next_of_lost (unfaulted : reader.source.faults = []) (current : reader.IsCurrent)
    (aligned : reader.IsAligned) (lost : reader.place < reader.source.horizon) :
    ∃ position after, reader.next = (.error (.resumeRejected position), after) ∧
      after.source = reader.source := by
  have calm {fault : Fault} : ¬ fault ∈ reader.source.faults := by
    rw [unfaulted]
    exact List.not_mem_nil
  cases present : reader.cursor with
  | some cursor =>
    have opens : reader.openCursor = (.ok cursor, reader) := by
      simp only [openCursor, present]
    have start : reader.place = cursor.after := by
      rw [place, aligned cursor present, Option.getD_some]
    rcases next_of_openCursor opens with ⟨admits, -⟩ | ⟨-, fault, source, failed, -, why⟩
    · exact absurd (start ▸ lost) (Nat.not_lt_of_le admits.unexpired)
    · rcases why with meets | ⟨stale, -⟩ | ⟨-, -, rfl, rfl⟩
      · exact absurd meets.mem calm
      · exact absurd (current cursor present).symm stale
      · exact ⟨cursor.after, _, failed, rfl⟩
  | none =>
    rcases reader.source.openCursor_cases reader.committed with
      ⟨fault, source, asked, -, why⟩ | ⟨cursor, -, -, start, unexpired, -⟩
    · rcases why with meets | ⟨position, -, -, rfl, -, rfl⟩
      · exact absurd meets.mem calm
      · have rejected : reader.next =
            (.error (.resumeRejected position), { reader with cursor := none }) := by
          simp only [next, openCursor, present, asked, ReadError.ofFault]
        exact ⟨position, _, rejected, rfl⟩
    · exact absurd (start ▸ lost) (Nat.not_lt_of_le unexpired)

/-- **A fresh start uses up strain**, unless the log disowns its snapshot. -/
theorem reopenFresh_answers (reader : Reader MemoryLog MemoryLog.Cursor) :
    (∃ fault after, reader.reopenFresh = (.error (.ofFault fault), after) ∧
        after.source.SameContents reader.source ∧ after.strain true < reader.strain true) ∨
      ∃ snapshot after, reader.reopenFresh = (.ok snapshot, after) ∧ after.source = reader.source ∧
        (after.strain false < reader.strain true ∨ reader.source.Disowns) := by
  rcases reader.source.takeSnapshot_cases with
    ⟨fault, source, asked, isLeft, meets⟩ | ⟨supports, gives, asked⟩ | ⟨-, asked⟩
  · have ahead : reader.source.entries.length < reader.turnsAhead true :=
      Nat.lt_add_of_pos_right (by decide)
    let left : Reader MemoryLog MemoryLog.Cursor := { reader with source, cursor := none }
    have failed : reader.reopenFresh = (.error (.ofFault fault), left) := by
      simp only [reopenFresh, asked, left]
    have lighter : left.strain true < reader.strain true :=
      strain_lt_of_meets meets isLeft.contents rfl ahead
    exact Or.inl ⟨fault, left, failed, isLeft.contents, lighter⟩
  · let fresh : Reader MemoryLog MemoryLog.Cursor :=
      { reader with cursor := none, committed := some reader.source.lastPosition }
    have reopened : reader.reopenFresh =
        (.ok (some ⟨reader.source.revisions.toChanges, some reader.source.lastPosition⟩), fresh) := by
      simp only [reopenFresh, asked, Option.bind_some, fresh]
    refine Or.inr ⟨_, fresh, reopened, rfl, ?_⟩
    by_cases lost : reader.source.openFaults = [] ∧ reader.source.lastPosition < reader.source.horizon
    · exact Or.inr ⟨supports, lost.2, gives, lost.1⟩
    · have ahead : fresh.turnsAhead false = reader.source.entries.length + 2 := by
        simp only [turnsAhead, fresh, place, Option.getD_some, Bool.false_eq_true, if_false]
        exact if_neg lost
      exact Or.inl (Nat.add_lt_add_left (by rw [ahead]; exact Nat.lt_succ_self _) _)
  · let fresh : Reader MemoryLog MemoryLog.Cursor := { reader with cursor := none, committed := none }
    have reopened : reader.reopenFresh = (.ok none, fresh) := by
      simp only [reopenFresh, asked, Option.bind_none, fresh]
    refine Or.inr ⟨none, fresh, reopened, rfl, ?_⟩
    have ahead : fresh.turnsAhead false = reader.source.entries.length + 2 := by
      simp only [turnsAhead, fresh, place, Option.getD_none, Nat.lt_irrefl, and_false,
        Bool.false_eq_true, if_false]
    exact Or.inl (Nat.add_lt_add_left (by rw [ahead]; exact Nat.lt_succ_self _) _)

end Reader

namespace Poller

variable {poller middle later : Poller MemoryLog MemoryLog.Cursor}
  {outcome : Turn × Poller MemoryLog MemoryLog.Cursor} {cursor : MemoryLog.Cursor}
  {seq fuel attempts : Nat}

/-- What the turns of a cycle have to use up. -/
def strain (poller : Poller MemoryLog MemoryLog.Cursor) : Nat :=
  poller.reader.strain poller.needsFreshStart

/-- A fresh start is owed that will be lost at once. -/
structure IsStranded (poller : Poller MemoryLog MemoryLog.Cursor) : Prop where
  owed : poller.needsFreshStart = true
  watched : poller.watched = true
  disowns : poller.reader.source.Disowns

instance (poller : Poller MemoryLog MemoryLog.Cursor) : Decidable poller.IsStranded :=
  decidable_of_iff
    (poller.needsFreshStart = true ∧ poller.watched = true ∧ poller.reader.source.Disowns)
    ⟨fun ⟨owed, watched, disowns⟩ => ⟨owed, watched, disowns⟩,
      fun ⟨owed, watched, disowns⟩ => ⟨owed, watched, disowns⟩⟩

/-- A cycle is given more turns than there is strain. -/
theorem strain_lt_turnBound (poller : Poller MemoryLog MemoryLog.Cursor) :
    poller.strain < poller.turnBound := by
  have ahead := poller.reader.turnsAhead_le poller.needsFreshStart
  have backlog : Source.backlog poller.reader.source =
      poller.reader.source.entries.length + poller.reader.source.faults.length := by
    show MemoryLog.backlog poller.reader.source = _
    simp only [MemoryLog.backlog, MemoryLog.faults, List.length_append, Nat.add_assoc]
  rw [strain, Reader.strain, turnBound, backlog]
  lia

/-! ## Turns -/

/-- What a poller does after a request costs at most one event and no strain. -/
structure Settles (poller : Poller MemoryLog MemoryLog.Cursor)
    (outcome : Turn × Poller MemoryLog MemoryLog.Cursor) : Prop where
  source_eq : outcome.2.reader.source = poller.reader.source
  watched_eq : outcome.2.watched = poller.watched
  owed_eq : outcome.2.needsFreshStart = poller.needsFreshStart
  sent : outcome.2.outbox.length ≤ poller.outbox.length + 1
  ahead_eq : ∀ again, outcome.1 = .again again →
    outcome.2.reader.turnsAhead false = poller.reader.turnsAhead false

theorem Settles.strain_eq (settles : Settles poller outcome) {again : Nat}
    (goesOn : outcome.1 = .again again) : outcome.2.strain = poller.strain := by
  rw [strain, strain, settles.owed_eq, Reader.strain, Reader.strain, settles.source_eq]
  cases poller.needsFreshStart with
  | true => simp only [Reader.turnsAhead, settles.source_eq, if_true]
  | false => rw [settles.ahead_eq again goesOn]

/-- A cycle that ends with an event has nothing to go on with. -/
theorem settles_send (poller : Poller MemoryLog MemoryLog.Cursor) (event : Event) (flow : Flow) :
    Settles poller (.finished flow, (poller.send event).2) := by
  unfold send
  split
  · exact ⟨rfl, rfl, rfl, Nat.le_of_eq List.length_append, fun _ goesOn => by cases goesOn⟩
  · exact ⟨rfl, rfl, rfl, Nat.le_succ _, fun _ goesOn => by cases goesOn⟩

theorem settles_retry (poller : Poller MemoryLog MemoryLog.Cursor) (seq attempts : Nat)
    (error : ReadError) : Settles poller (poller.retry seq attempts error) := by
  unfold retry
  split
  · unfold wait
    cases interrupted : poller.stopLine.interrupts.1 with
    | true =>
      simp only [interrupted, if_true]
      exact ⟨rfl, rfl, rfl, Nat.le_succ _, fun _ _ => rfl⟩
    | false =>
      simp only [interrupted, Bool.false_eq_true, if_false]
      exact ⟨rfl, rfl, rfl, Nat.le_succ _, fun _ _ => rfl⟩
  · let given : Poller MemoryLog MemoryLog.Cursor :=
      { poller with reader := poller.reader.resetCursor }
    have settles := settles_send given (.cycleAborted seq error.message)
      (given.send (.cycleAborted seq error.message)).1
    exact ⟨settles.source_eq, settles.watched_eq, settles.owed_eq, settles.sent,
      fun _ goesOn => by cases goesOn⟩

/-- Committing a position leaves the cursor where it is. -/
theorem settles_afterBatch (seq : Nat) (batch : Batch) (present : poller.reader.cursor = some cursor) :
    Settles poller (poller.afterBatch seq batch) := by
  unfold afterBatch
  split
  · exact settles_send poller (.cycleComplete seq) _
  · unfold handOver
    by_cases watched : poller.watched = true
    · rw [send_of_watched watched]
      cases batch.position with
      | none => exact ⟨rfl, rfl, rfl, Nat.le_of_eq List.length_append, fun _ _ => rfl⟩
      | some position =>
        have source_eq : (poller.reader.commit position).source = poller.reader.source := by
          unfold Reader.commit
          split <;> rfl
        have cursor_eq : (poller.reader.commit position).cursor = poller.reader.cursor := by
          unfold Reader.commit
          split <;> rfl
        refine ⟨source_eq, rfl, rfl, Nat.le_of_eq List.length_append, fun _ _ => ?_⟩
        simp only [Reader.turnsAhead, source_eq, cursor_eq, present]
    · rw [send, if_neg watched]
      exact ⟨rfl, rfl, rfl, Nat.le_succ _, fun _ goesOn => by cases goesOn⟩

/-- What a turn comes to: the log stays as it is but for faults that have struck, at most one event is
sent, and if the cycle goes on then some strain has been used up, or the poller was stranded. -/
structure Passes (poller : Poller MemoryLog MemoryLog.Cursor)
    (outcome : Turn × Poller MemoryLog MemoryLog.Cursor) : Prop where
  contents : outcome.2.reader.source.SameContents poller.reader.source
  watched_eq : outcome.2.watched = poller.watched
  sent : outcome.2.outbox.length ≤ poller.outbox.length + 1
  lighter : ∀ again, outcome.1 = .again again →
    outcome.2.strain < poller.strain ∨ poller.IsStranded

/-- A request that uses up strain is followed by what costs none. -/
theorem Settles.passes (settles : Settles middle outcome)
    (contents : middle.reader.source.SameContents poller.reader.source)
    (watched_eq : middle.watched = poller.watched) (outbox_eq : middle.outbox = poller.outbox)
    (lighter : ∀ again, outcome.1 = .again again → middle.strain < poller.strain) :
    Passes poller outcome where
  contents := settles.source_eq ▸ contents
  watched_eq := settles.watched_eq.trans watched_eq
  sent := outbox_eq ▸ settles.sent
  lighter again goesOn := Or.inl (settles.strain_eq goesOn ▸ lighter again goesOn)

/-- An error of which no rejected place is the reason is retried or ends the cycle. -/
theorem settles_afterError (poller : Poller MemoryLog MemoryLog.Cursor) (seq attempts : Nat)
    {error : ReadError} (accepted : ∀ position, error ≠ .resumeRejected position) :
    Settles poller (poller.afterError seq attempts error) := by
  cases error with
  | resumeRejected position => exact absurd rfl (accepted position)
  | fatal reason => exact settles_send poller (.fatal reason) .stopped
  | retryable reason => exact settles_retry poller seq attempts _

theorem passes_freshStartTurn (owed : poller.needsFreshStart = true) :
    Passes poller (poller.freshStartTurn seq attempts) := by
  rcases poller.reader.reopenFresh_answers with
    ⟨fault, after, failed, contents, lighter⟩ | ⟨snapshot, after, reopened, source_eq, lighter⟩
  · let left : Poller MemoryLog MemoryLog.Cursor := { poller with reader := after }
    have less : left.strain < poller.strain := by
      rw [strain, strain, owed]
      exact lighter
    cases fault with
    | fatal reason =>
      have turned : poller.freshStartTurn seq attempts = left.fail reason := by
        simp only [freshStartTurn, failed, ReadError.ofFault, left]
      rw [turned]
      exact (settles_send left (.fatal reason) .stopped).passes contents rfl rfl fun _ _ => less
    | transient _ | cursorInvalidated | positionExpired _ =>
      simp only [freshStartTurn, failed, ReadError.ofFault]
      exact (settles_retry left seq attempts _).passes contents rfl rfl fun _ _ => less
  · let started : Poller MemoryLog MemoryLog.Cursor :=
      { poller with reader := after, needsFreshStart := false }
    have contents : after.source.SameContents poller.reader.source := source_eq ▸ .refl _
    by_cases watched : poller.watched = true
    · have turned : poller.freshStartTurn seq attempts =
          (.again 0, { started with outbox := poller.outbox ++ [.discontinuity snapshot] }) := by
        simp only [freshStartTurn, reopened, send, watched, if_true, started]
      rw [turned]
      refine ⟨contents, rfl, Nat.le_of_eq List.length_append, fun _ _ => ?_⟩
      rcases lighter with less | disowns
      · apply Or.inl
        rw [strain, strain, owed]
        exact less
      · exact Or.inr ⟨owed, watched, disowns⟩
    · have turned : poller.freshStartTurn seq attempts = (.finished .stopped, started) := by
        simp only [freshStartTurn, reopened, send, watched, if_false, Bool.false_eq_true, started]
      rw [turned]
      exact ⟨contents, rfl, Nat.le_succ _, fun _ goesOn => by cases goesOn⟩

theorem passes_readTurn (owed : poller.needsFreshStart = false) :
    Passes poller (poller.readTurn seq attempts) := by
  have answer := poller.reader.answer_next
  rw [readTurn_eq]
  generalize poller.reader.next = answered at answer
  cases answer with
  | failed fault after contents rejected retried _ =>
    by_cases lost : ∃ position, fault = .positionExpired position
    · obtain ⟨position, rfl⟩ := lost
      refine ⟨contents, rfl, Nat.le_succ _, fun _ _ => Or.inl ?_⟩
      rw [strain, strain, owed]
      exact rejected
    · have accepted : ∀ position, ReadError.ofFault fault ≠ .resumeRejected position := by
        cases fault with
        | positionExpired position => exact absurd ⟨position, rfl⟩ lost
        | transient _ | cursorInvalidated | fatal _ => exact fun _ rejection => by cases rejection
      let left : Poller MemoryLog MemoryLog.Cursor := { poller with reader := after }
      refine (settles_afterError left seq attempts accepted).passes contents rfl rfl fun _ _ => ?_
      rw [strain, strain, owed]
      exact owed ▸ retried.resolve_left lost
  | read batch after cursor source_eq present _ lighter =>
    let filled : Poller MemoryLog MemoryLog.Cursor := { poller with reader := after }
    have settles : Settles filled (filled.afterBatch seq batch) := settles_afterBatch seq batch present
    refine settles.passes (source_eq ▸ .refl _) rfl rfl fun again goesOn => ?_
    rw [strain, strain, owed]
    refine lighter.resolve_left ?_
    rintro rfl
    cases goesOn

/-- **A turn after which the cycle goes on uses up strain**, unless the poller is stranded. -/
theorem passes_turn (seq attempts : Nat) (poller : Poller MemoryLog MemoryLog.Cursor) :
    Passes poller (poller.turn seq attempts) := by
  unfold turn
  split
  · next owed => exact passes_freshStartTurn owed
  · next owed => exact passes_readTurn (by simpa using owed)

/-! ## Cycles -/

/-- A cycle that goes on after some turns goes on from where they left it. -/
theorem exists_turns_add (unfinished : (turns seq fuel attempts poller).1 = none) :
    ∃ later, ∀ more, turns seq (fuel + more) attempts poller =
      turns seq more later (turns seq fuel attempts poller).2 := by
  induction fuel generalizing attempts poller with
  | zero => exact ⟨attempts, fun more => by rw [Nat.zero_add]; rfl⟩
  | succ fuel ih =>
    match turned : poller.turn seq attempts with
    | (.again again, next) =>
      simp only [turns, turned] at unfinished ⊢
      obtain ⟨later, goesOn⟩ := ih unfinished
      refine ⟨later, fun more => ?_⟩
      rw [Nat.succ_add, turns, turned]
      exact goesOn more
    | (.finished flow, next) =>
      simp only [turns, turned] at unfinished
      cases unfinished

/-- A cycle that has ended is not changed by more turns. -/
theorem turns_add_of_isSome (ended : (turns seq fuel attempts poller).1.isSome = true) (more : Nat) :
    turns seq (fuel + more) attempts poller = turns seq fuel attempts poller := by
  induction fuel generalizing attempts poller with
  | zero => cases ended
  | succ fuel ih =>
    rw [Nat.succ_add]
    match turned : poller.turn seq attempts with
    | (.again again, next) =>
      simp only [turns, turned] at ended ⊢
      exact ih ended
    | (.finished flow, next) => simp only [turns, turned]

theorem isSome_turns_mono {most : Nat} (within : fuel ≤ most)
    (ended : (turns seq fuel attempts poller).1.isSome = true) :
    (turns seq most attempts poller).1.isSome = true := by
  obtain ⟨more, rfl⟩ := Nat.exists_eq_add_of_le within
  rwa [turns_add_of_isSome ended]

/-- Turns send at most one event each, and leave the log as it is but for faults that have struck. -/
theorem turns_frame (seq fuel attempts : Nat) (poller : Poller MemoryLog MemoryLog.Cursor) :
    (turns seq fuel attempts poller).2.outbox.length ≤ poller.outbox.length + fuel ∧
      (turns seq fuel attempts poller).2.watched = poller.watched ∧
      (turns seq fuel attempts poller).2.reader.source.SameContents poller.reader.source := by
  induction fuel generalizing attempts poller with
  | zero => exact ⟨Nat.le_refl _, rfl, .refl _⟩
  | succ fuel ih =>
    have passes := passes_turn seq attempts poller
    rw [turns]
    generalize poller.turn seq attempts = turned at passes ⊢
    rcases turned with ⟨again | flow, next⟩
    · obtain ⟨sent, watched, contents⟩ := ih again next
      have first : next.outbox.length ≤ poller.outbox.length + 1 := passes.sent
      exact ⟨by lia, watched.trans passes.watched_eq, contents.trans passes.contents⟩
    · have first : next.outbox.length ≤ poller.outbox.length + 1 := passes.sent
      exact ⟨Nat.le_trans first (by lia), passes.watched_eq, passes.contents⟩

/-- **A cycle whose poller is never stranded ends** before it has used up its strain. -/
theorem isSome_turns_of_not_isStranded
    (clear : ∀ count, (turns seq count attempts poller).1 = none →
      ¬ (turns seq count attempts poller).2.IsStranded) (enough : poller.strain < fuel) :
    (turns seq fuel attempts poller).1.isSome = true := by
  induction fuel generalizing attempts poller with
  | zero => exact absurd enough (Nat.not_lt_zero _)
  | succ fuel ih =>
    have passes := passes_turn seq attempts poller
    match turned : poller.turn seq attempts with
    | (.again again, next) =>
      rw [turned] at passes
      have lighter : next.strain < poller.strain :=
        (passes.lighter again rfl).resolve_right (clear 0 rfl)
      have clearLater : ∀ count, (turns seq count again next).1 = none →
          ¬ (turns seq count again next).2.IsStranded := by
        intro count
        have stillClear := clear (count + 1)
        simp only [turns, turned] at stillClear
        exact stillClear
      simp only [turns, turned]
      exact ih clearLater (by lia)
    | (.finished flow, next) => simp only [turns, turned, Option.isSome_some]

/-- The fresh start of a stranded poller takes two turns and an event, and leaves it stranded. -/
theorem IsStranded.exists_turns (stranded : poller.IsStranded) (seq attempts : Nat) :
    ∃ later : Poller MemoryLog MemoryLog.Cursor, later.IsStranded ∧
      later.outbox.length = poller.outbox.length + 1 ∧
      ∀ fuel, turns seq (fuel + 2) attempts poller = turns seq fuel 0 later := by
  let log := poller.reader.source
  let shown : Snapshot := ⟨log.revisions.toChanges, some log.lastPosition⟩
  let started : Poller MemoryLog MemoryLog.Cursor :=
    { poller with
      reader := { poller.reader with cursor := none, committed := some log.lastPosition }
      needsFreshStart := false
      outbox := poller.outbox ++ [.discontinuity (some shown)] }
  let owing : Poller MemoryLog MemoryLog.Cursor := { started with needsFreshStart := true }
  have starts : poller.turn seq attempts = (.again 0, started) := by
    have asked := MemoryLog.takeSnapshot_of_supports stranded.disowns.supports stranded.disowns.gives
    simp only [turn, stranded.owed, if_true, freshStartTurn, Reader.reopenFresh, asked, send,
      stranded.watched, Option.bind_some, started, shown, log]
  have loses : started.turn seq 0 = (.again 0, owing) := by
    have refused := stranded.disowns.openCursor
    simp only [turn, readTurn, Reader.next, Reader.openCursor, refused, ReadError.ofFault,
      Bool.false_eq_true, if_false, owing, started, log]
  refine ⟨owing, ⟨rfl, stranded.watched, stranded.disowns⟩, List.length_append, fun fuel => ?_⟩
  rw [turns, starts]
  simp only
  rw [turns, loses]

/-- **A stranded poller sends a discontinuity every two turns** and does not get any further. -/
theorem IsStranded.turns (stranded : poller.IsStranded) (seq attempts count : Nat) :
    (turns seq (2 * count) attempts poller).1 = none ∧
      (turns seq (2 * count) attempts poller).2.outbox.length = poller.outbox.length + count := by
  induction count generalizing attempts poller with
  | zero => exact ⟨rfl, rfl⟩
  | succ count ih =>
    obtain ⟨later, still, sent, goesOn⟩ := stranded.exists_turns seq attempts
    obtain ⟨unfinished, more⟩ := ih still 0
    rw [Nat.mul_succ, goesOn]
    exact ⟨unfinished, by lia⟩

theorem IsStranded.turns_eq_none (stranded : poller.IsStranded) (seq attempts fuel : Nat) :
    (Poller.turns seq fuel attempts poller).1 = none := by
  have unfinished := (stranded.turns seq attempts fuel).1
  cases ended : (Poller.turns seq fuel attempts poller).1 with
  | none => rfl
  | some flow =>
    have within : fuel ≤ 2 * fuel := Nat.le_mul_of_pos_left fuel Nat.two_pos
    have later := isSome_turns_mono within (by rw [ended]; rfl)
    rw [unfinished] at later
    cases later

/-- The cycle ends after some number of turns. -/
def Ends (seq : Nat) (poller : Poller MemoryLog MemoryLog.Cursor) : Prop :=
  ∃ fuel, (turns seq fuel 0 poller).1.isSome = true

/-- Once a poller is stranded its cycle does not end, and there is no bound on the events. -/
theorem not_ends_of_isStranded (unfinished : (turns seq fuel 0 poller).1 = none)
    (stranded : (turns seq fuel 0 poller).2.IsStranded) :
    ¬ poller.Ends seq ∧ ∀ count, ∃ most, count ≤ (turns seq most 0 poller).2.outbox.length := by
  obtain ⟨attempts, goesOn⟩ := exists_turns_add unfinished
  constructor
  · rintro ⟨enough, ended⟩
    have later := isSome_turns_mono (Nat.le_add_left enough fuel) ended
    rw [goesOn, stranded.turns_eq_none] at later
    cases later
  · intro count
    refine ⟨fuel + 2 * count, ?_⟩
    rw [goesOn, (stranded.turns seq attempts count).2]
    exact Nat.le_add_left count _

theorem ends_iff : poller.Ends seq ↔
    ∀ count, (turns seq count 0 poller).1 = none → ¬ (turns seq count 0 poller).2.IsStranded := by
  constructor
  · intro ends count unfinished stranded
    exact (not_ends_of_isStranded unfinished stranded).1 ends
  · intro clear
    exact ⟨_, isSome_turns_of_not_isStranded clear (Nat.lt_succ_self _)⟩

/-! ## Cycles without trouble -/

/-- Nothing is wrong, and the reader's place has not expired. -/
structure IsStraight (poller : Poller MemoryLog MemoryLog.Cursor) : Prop where
  unfaulted : poller.reader.source.faults = []
  owed : poller.needsFreshStart = false
  ahead : poller.reader.turnsAhead false ≤ poller.reader.source.entries.length + 2

theorem IsCalm.isStraight (calm : poller.IsCalm) (aligned : poller.reader.IsAligned)
    (kept : ¬ poller.IsLost) : poller.IsStraight where
  unfaulted := calm.faults_eq
  owed := Bool.eq_false_iff.mpr fun owed => kept (Or.inl owed)
  ahead := by
    have held : ¬ poller.reader.place < poller.reader.source.horizon := fun lost =>
      kept (Or.inr lost)
    have unfaulted : poller.reader.source.readFaults = [] := by
      have none := calm.faults_eq
      simp only [MemoryLog.faults, List.append_eq_nil_iff] at none
      exact none.1.2
    cases present : poller.reader.cursor with
    | some cursor =>
      have start : poller.reader.place = cursor.after := by
        rw [Reader.place, aligned cursor present, Option.getD_some]
      have admits : poller.reader.source.Admits cursor :=
        ⟨unfaulted, (calm.current cursor present).symm, start ▸ Nat.le_of_not_lt held⟩
      have most := MemoryLog.unread_le_length cursor poller.reader.source
      rw [Reader.turnsAhead_of_admits present admits]
      lia
    | none =>
      simp only [Reader.turnsAhead, present, held, and_false, Bool.false_eq_true, if_false, Nat.le_refl]

/-- Reading from a place that has not expired goes straight on. -/
theorem IsStraight.turn (straight : poller.IsStraight) {again : Nat}
    (turned : poller.turn seq attempts = (.again again, later)) : later.IsStraight := by
  obtain ⟨batch, after, cursor, read, source_eq, present, admits⟩ :=
    Reader.next_of_untroubled straight.unfaulted straight.ahead
  let filled : Poller MemoryLog MemoryLog.Cursor := { poller with reader := after }
  have reads : poller.turn seq attempts = filled.afterBatch seq batch := by
    have unowed : ¬ poller.needsFreshStart = true := Bool.eq_false_iff.mp straight.owed
    rw [Poller.turn, if_neg unowed, readTurn_eq, read]
  have settles : Settles filled (.again again, later) :=
    turned ▸ reads ▸ settles_afterBatch seq batch present
  have same : later.reader.source = poller.reader.source := settles.source_eq.trans source_eq
  have ahead : later.reader.turnsAhead false = MemoryLog.unread cursor after.source + 1 :=
    (settles.ahead_eq again rfl).trans (Reader.turnsAhead_of_admits present admits)
  have most := MemoryLog.unread_le_length cursor after.source
  exact
    { unfaulted := same ▸ straight.unfaulted
      owed := settles.owed_eq.trans straight.owed
      ahead := by
        rw [ahead, same, ← source_eq]
        lia }

theorem IsStraight.turns (straight : poller.IsStraight)
    (unfinished : (turns seq fuel attempts poller).1 = none) :
    (turns seq fuel attempts poller).2.IsStraight := by
  induction fuel generalizing attempts poller with
  | zero => exact straight
  | succ fuel ih =>
    match turned : poller.turn seq attempts with
    | (.again again, next) =>
      simp only [Poller.turns, turned] at unfinished ⊢
      exact ih (straight.turn turned) unfinished
    | (.finished flow, next) =>
      simp only [Poller.turns, turned] at unfinished
      cases unfinished

/-! ## Which cycles end -/

/-- A log that honours the position of its own snapshot never strands a poller, and neither does one
that gives no snapshots. -/
theorem ends_of_honoured (honoured : ¬ (poller.watched = true ∧
    poller.reader.source.supportsSnapshots = true ∧
    poller.reader.source.lastPosition < poller.reader.source.horizon)) : poller.Ends seq := by
  rw [ends_iff]
  intro count _ stranded
  obtain ⟨-, watched, contents⟩ := turns_frame seq count 0 poller
  apply honoured
  refine ⟨watched ▸ stranded.watched, ?_, ?_⟩
  · exact contents.supportsSnapshots_eq ▸ stranded.disowns.supports
  · have ahead := stranded.disowns.ahead
    rwa [contents.lastPosition_eq, contents.horizon_eq] at ahead

theorem IsStraight.ends (straight : poller.IsStraight) : poller.Ends seq := by
  rw [ends_iff]
  intro count unfinished stranded
  have owed := (straight.turns unfinished).owed
  rw [stranded.owed] at owed
  cases owed

/-- Without trouble a lost place leaves the poller stranded, now or after the next turn. -/
theorem IsCalm.not_ends (calm : poller.IsCalm) (aligned : poller.reader.IsAligned)
    (lost : poller.IsLost) (watched : poller.watched = true)
    (supports : poller.reader.source.supportsSnapshots = true)
    (ahead : poller.reader.source.lastPosition < poller.reader.source.horizon) :
    ¬ poller.Ends seq := by
  have unfaulted := calm.faults_eq
  simp only [MemoryLog.faults, List.append_eq_nil_iff] at unfaulted
  have disowns : poller.reader.source.Disowns := ⟨supports, ahead, unfaulted.2, unfaulted.1.1⟩
  cases owed : poller.needsFreshStart with
  | true =>
    have stranded : (turns seq 0 0 poller).2.IsStranded := ⟨owed, watched, disowns⟩
    exact (not_ends_of_isStranded rfl stranded).1
  | false =>
    have expired : poller.reader.place < poller.reader.source.horizon :=
      lost.resolve_left (Bool.eq_false_iff.mp owed)
    obtain ⟨position, after, rejected, source_eq⟩ :=
      Reader.next_of_lost calm.faults_eq calm.current aligned expired
    let owing : Poller MemoryLog MemoryLog.Cursor :=
      { poller with reader := after, needsFreshStart := true }
    have turned : turns seq 1 0 poller = (none, owing) := by
      have unowed : ¬ poller.needsFreshStart = true := Bool.eq_false_iff.mp owed
      rw [turns, turn, if_neg unowed, readTurn_eq, rejected]
      rfl
    have stranded : owing.IsStranded := ⟨rfl, watched, source_eq ▸ disowns⟩
    exact (not_ends_of_isStranded (by rw [turned]) (by rw [turned]; exact stranded)).1

/-- **A cycle ends exactly if its poller is stranded at none of its turns.** The turns allowed to a
cycle suffice then, and each sends one event at most; otherwise the watcher is told of more and more
discontinuities. Nothing but a log with snapshots that is truncated beyond its newest entry strands a
poller, and if no fault waits and the cursor is valid it does so exactly if the place is lost. -/
theorem cycle_ends_iff_never_stranded (poller : Poller MemoryLog MemoryLog.Cursor) (seq : Nat) :
    (poller.Ends seq ↔ ∀ count, (turns seq count 0 poller).1 = none →
        ¬ (turns seq count 0 poller).2.IsStranded) ∧
      (poller.Ends seq → (poller.cycle seq).1.isSome = true ∧
        (poller.cycle seq).2.outbox.length ≤ poller.outbox.length + poller.turnBound) ∧
      (¬ poller.Ends seq → ∀ count, ∃ fuel, count ≤ (turns seq fuel 0 poller).2.outbox.length) ∧
      (poller.reader.source.supportsSnapshots = false ∨
        poller.reader.source.horizon ≤ poller.reader.source.lastPosition → poller.Ends seq) ∧
      (poller.IsCalm → poller.reader.IsAligned →
        (poller.Ends seq ↔ ¬ (poller.IsLost ∧ poller.watched = true ∧
          poller.reader.source.supportsSnapshots = true ∧
          poller.reader.source.lastPosition < poller.reader.source.horizon))) := by
  refine ⟨ends_iff, fun ends => ⟨?_, ?_⟩, fun endless => ?_, fun honoured => ?_, fun calm aligned => ?_⟩
  · exact isSome_turns_of_not_isStranded (ends_iff.mp ends) poller.strain_lt_turnBound
  · exact (turns_frame seq poller.turnBound 0 poller).1
  · rw [ends_iff] at endless
    obtain ⟨fuel, strands⟩ := Classical.not_forall.mp endless
    obtain ⟨unfinished, stranded⟩ := Classical.not_imp.mp strands
    exact (not_ends_of_isStranded unfinished (Classical.not_not.mp stranded)).2
  · apply ends_of_honoured
    rintro ⟨-, supports, ahead⟩
    rcases honoured with unsupported | held
    · rw [unsupported] at supports
      cases supports
    · exact Nat.not_lt_of_le held ahead
  · constructor
    · rintro ends ⟨lost, watched, supports, ahead⟩
      exact calm.not_ends aligned lost watched supports ahead ends
    · intro harmless
      by_cases lost : poller.IsLost
      · exact ends_of_honoured fun beyond => harmless ⟨lost, beyond⟩
      · exact (calm.isStraight aligned lost).ends

/-- After its place has been truncated away a poller ends its cycle if the log still has its newest
position, and never ends it if that has gone as well. -/
theorem cycle_ends_at_head_and_not_beyond :
    let overtaken := ((Reading.start {} 8 true).run
      [.cycle 0, .edit (.upsert ⟨"fruit", "apple"⟩), .edit (.truncate 1)]).poller
    let beyond := ((Reading.start {} 8 true).run
      [.cycle 0, .edit (.upsert ⟨"fruit", "apple"⟩), .edit (.truncate 5)]).poller
    overtaken.IsLost ∧ overtaken.Ends 1 ∧ (overtaken.cycle 1).1.isSome = true ∧
      ¬ beyond.Ends 1 ∧ ∀ count, ∃ fuel, count ≤ (turns 1 fuel 0 beyond).2.outbox.length := by
  intro overtaken beyond
  have lost : overtaken.IsLost ∧ beyond.IsLost := by decide +kernel
  have held : overtaken.reader.source.horizon ≤ overtaken.reader.source.lastPosition := by
    decide +kernel
  have stranding : beyond.watched = true ∧ beyond.reader.source.supportsSnapshots = true ∧
      beyond.reader.source.lastPosition < beyond.reader.source.horizon := by decide +kernel
  have current : ∀ cursor ∈ beyond.reader.cursor,
      cursor.generation = beyond.reader.source.generation := by decide +kernel
  have aligned : ∀ cursor ∈ beyond.reader.cursor, beyond.reader.committed = some cursor.after := by
    decide +kernel
  have unfaulted : beyond.reader.source.faults = [] := by decide +kernel
  have calm : beyond.IsCalm := ⟨unfaulted, current⟩
  obtain ⟨-, ended, -, honoured, -⟩ := cycle_ends_iff_never_stranded overtaken 1
  obtain ⟨-, -, endless, -, troubled⟩ := cycle_ends_iff_never_stranded beyond 1
  have ends : overtaken.Ends 1 := honoured (Or.inr held)
  have goesOn : ¬ beyond.Ends 1 := fun ends =>
    (troubled calm aligned).mp ends ⟨lost.2, stranding⟩
  exact ⟨lost.1, ends, (ended ends).1, goesOn, endless goesOn⟩

/-- An idle poller on an empty log that is truncated beyond its head: its next cycle does not end. -/
theorem cycle_beyond_head_never_ends :
    let poller := ((Reading.start {} 8 true).run [.cycle 0, .edit (.truncate 5)]).poller
    (∀ fuel, (turns 1 fuel 0 poller).1 = none) ∧
      ∀ count, ∃ fuel, count ≤ (turns 1 fuel 0 poller).2.outbox.length := by
  intro poller
  have unfinished : (turns 1 1 0 poller).1 = none := by decide +kernel
  have stranded : (turns 1 1 0 poller).2.IsStranded := by decide +kernel
  obtain ⟨endless, unbounded⟩ := not_ends_of_isStranded unfinished stranded
  refine ⟨fun fuel => ?_, unbounded⟩
  exact Option.not_isSome_iff_eq_none.mp fun ended => endless ⟨fuel, ended⟩

end Poller

end ChangeFeed
