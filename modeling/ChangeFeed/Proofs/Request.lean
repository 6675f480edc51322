/-
# What a log in memory answers

Each request of a reader has one lemma here, which says all that can come back: a fault that leaves
the contents of the log alone, with the reason for it, or an answer read off the log's history. The
queue of faults, the generations and the search for an entry are opened in this module only.
-/

import ChangeFeed.Proofs.History

namespace ChangeFeed

namespace MemoryLog

/-- Two logs that differ at most in the faults that wait and in the generation of their cursors. -/
structure SameContents (log other : MemoryLog) : Prop where
  entries_eq : log.entries = other.entries
  lastPosition_eq : log.lastPosition = other.lastPosition
  cut_eq : log.cut = other.cut
  revisions_eq : log.revisions = other.revisions
  supportsSnapshots_eq : log.supportsSnapshots = other.supportsSnapshots

variable {log other : MemoryLog} {history : List Change}

theorem SameContents.refl (log : MemoryLog) : log.SameContents log :=
  ⟨rfl, rfl, rfl, rfl, rfl⟩

theorem SameContents.trans {third : MemoryLog} (first : third.SameContents other)
    (second : other.SameContents log) : third.SameContents log where
  entries_eq := first.entries_eq.trans second.entries_eq
  lastPosition_eq := first.lastPosition_eq.trans second.lastPosition_eq
  cut_eq := first.cut_eq.trans second.cut_eq
  revisions_eq := first.revisions_eq.trans second.revisions_eq
  supportsSnapshots_eq := first.supportsSnapshots_eq.trans second.supportsSnapshots_eq

theorem SameContents.records (same : other.SameContents log) (records : log.Records history) :
    other.Records history :=
  records.congr same.lastPosition_eq same.cut_eq same.entries_eq same.revisions_eq

theorem SameContents.horizon_eq (same : other.SameContents log) : other.horizon = log.horizon := by
  rw [horizon, same.cut_eq, horizon]

/-- The faults that wait for the next requests. -/
def faults (log : MemoryLog) : List Fault :=
  log.openFaults ++ log.readFaults ++ log.snapshotFaults

/-- What a failed request leaves of a log: all its contents, and no fault that did not wait before. -/
structure IsLeftOf (after log : MemoryLog) : Prop where
  contents : after.SameContents log
  generation_eq : after.generation = log.generation
  faults_subset : ∀ fault ∈ after.faults, fault ∈ log.faults

theorem IsLeftOf.refl (log : MemoryLog) : log.IsLeftOf log :=
  ⟨.refl log, rfl, fun _ waiting => waiting⟩

/-- A fault that waited has struck, and the others wait on. -/
def Meets (log after : MemoryLog) (fault : Fault) : Prop :=
  log.faults.Perm (fault :: after.faults)

section Meets

variable {after : MemoryLog} {fault : Fault}

theorem Meets.mem (meets : log.Meets after fault) : fault ∈ log.faults :=
  meets.mem_iff.mpr List.mem_cons_self

theorem Meets.length_eq (meets : log.Meets after fault) :
    log.faults.length = after.faults.length + 1 :=
  List.Perm.length_eq meets

theorem Meets.isLeftOf (meets : log.Meets after fault) (contents : after.SameContents log)
    (generation_eq : after.generation = log.generation) : after.IsLeftOf log :=
  ⟨contents, generation_eq, fun _ waiting => meets.mem_iff.mpr (List.mem_cons_of_mem _ waiting)⟩

end Meets

/-- A cursor is opened after the position asked for, which has not expired, or at the horizon. -/
theorem openCursor_cases (log : MemoryLog) (asked : Option Position) :
    (∃ fault after, Source.openCursor asked log = (.error fault, after) ∧ after.IsLeftOf log ∧
        (log.Meets after fault ∨ ∃ position, asked = some position ∧ position < log.horizon ∧
          fault = .positionExpired position ∧ log.openFaults = [] ∧ after = log)) ∨
      ∃ cursor : Cursor, Source.openCursor asked log = (.ok cursor, log) ∧
        cursor.openedAfter = cursor.after ∧ cursor.after = asked.getD log.horizon ∧
        log.horizon ≤ cursor.after ∧ cursor.generation = log.generation := by
  show (∃ fault after, openCursor asked log = _ ∧ _) ∨ ∃ cursor, openCursor asked log = _ ∧ _
  unfold openCursor
  split
  · next fault rest waits =>
    have meets : log.Meets { log with openFaults := rest } fault := by
      simp only [Meets, faults, waits, List.cons_append, List.Perm.refl]
    exact Or.inl ⟨_, _, rfl, meets.isLeftOf ⟨rfl, rfl, rfl, rfl, rfl⟩ rfl, Or.inl meets⟩
  · next unfaulted =>
    cases asked with
    | none => exact Or.inr ⟨_, rfl, rfl, rfl, Nat.le_refl _, rfl⟩
    | some position =>
      by_cases expired : log.isExpired position
      · exact Or.inl ⟨_, log, if_pos expired, .refl log,
          Or.inr ⟨position, rfl, isExpired_iff.mp expired, rfl, unfaulted, rfl⟩⟩
      · have held : log.horizon ≤ position := isExpired_eq_false_iff.mp (by simpa using expired)
        exact Or.inr ⟨_, if_neg expired, rfl, rfl, held, rfl⟩

/-- Nothing keeps a cursor from being read. -/
structure Admits (log : MemoryLog) (cursor : Cursor) : Prop where
  unfaulted : log.readFaults = []
  current : log.generation = cursor.generation
  unexpired : log.horizon ≤ cursor.after

/-- A cursor that is admitted comes to the first entry beyond it; one that is not fails, and the log
stays as it is but for a fault that was waiting. -/
theorem nextEntry_answers (log : MemoryLog) (cursor : Cursor) :
    (log.Admits cursor ∧ Source.nextEntry cursor log =
        match log.entryAfter cursor.after with
        | none => (.ok none, cursor, log)
        | some entry => (.ok (some entry), { cursor with after := entry.position }, log)) ∨
      ¬ log.Admits cursor ∧ ∃ fault after, Source.nextEntry cursor log = (.error fault, cursor, after) ∧
        after.IsLeftOf log ∧
        (log.Meets after fault ∨
          (log.generation ≠ cursor.generation ∧ fault = .cursorInvalidated ∧ after = log) ∨
          (log.generation = cursor.generation ∧ cursor.after < log.horizon ∧
            fault = .positionExpired cursor.after ∧ after = log)) := by
  show (_ ∧ nextEntry cursor log = _) ∨ _ ∧ ∃ fault after, nextEntry cursor log = _ ∧ _
  unfold nextEntry
  split
  · next fault rest waits =>
    have meets : log.Meets { log with readFaults := rest } fault := by
      simp only [Meets, faults, waits, List.append_assoc, List.cons_append]
      exact List.perm_middle
    refine Or.inr ⟨fun admits => ?_, _, _, rfl, meets.isLeftOf ⟨rfl, rfl, rfl, rfl, rfl⟩ rfl,
      Or.inl meets⟩
    rw [admits.unfaulted] at waits
    cases waits
  · next unfaulted =>
    by_cases current : log.generation = cursor.generation
    · rw [if_neg (not_not_intro current)]
      by_cases expired : log.isExpired cursor.after
      · have before : cursor.after < log.horizon := isExpired_iff.mp expired
        exact Or.inr ⟨fun admits => Nat.not_lt_of_le admits.unexpired before, _, log, if_pos expired,
          .refl log, Or.inr (Or.inr ⟨current, before, rfl, rfl⟩)⟩
      · have held : log.horizon ≤ cursor.after := isExpired_eq_false_iff.mp (by simpa using expired)
        rw [if_neg expired]
        exact Or.inl ⟨⟨unfaulted, current, held⟩, rfl⟩
    · exact Or.inr ⟨fun admits => current admits.current, _, log, if_pos current, .refl log,
        Or.inr (Or.inl ⟨current, rfl, rfl⟩)⟩

/-- A cursor that can be read is caught up with the history, or moves over the next change. All that
this asks of the log is that beyond a position which has not expired comes the change that follows. -/
theorem nextEntry_cases
    (follows : ∀ {position}, log.horizon ≤ position → log.entryAfter position =
      history[position]?.map fun change => ⟨position + 1, change⟩) (cursor : Cursor) :
    (∃ fault after, Source.nextEntry cursor log = (.error fault, cursor, after) ∧
        after.IsLeftOf log ∧
        (fault ∈ log.faults ∨ (log.generation ≠ cursor.generation ∧ fault = .cursorInvalidated) ∨
          (cursor.after < log.horizon ∧ fault = .positionExpired cursor.after))) ∨
      (log.horizon ≤ cursor.after ∧ history.length ≤ cursor.after ∧
        Source.nextEntry cursor log = (.ok none, cursor, log)) ∨
      ∃ change, log.horizon ≤ cursor.after ∧ history[cursor.after]? = some change ∧
        Source.nextEntry cursor log =
          (.ok (some ⟨cursor.after + 1, change⟩), { cursor with after := cursor.after + 1 }, log) := by
  rcases log.nextEntry_answers cursor with ⟨⟨-, -, held⟩, read⟩ | ⟨-, fault, after, failed, isLeft, why⟩
  · rw [read, follows held]
    cases found : history[cursor.after]? with
    | none => exact Or.inr (Or.inl ⟨held, List.getElem?_eq_none_iff.mp found, rfl⟩)
    | some change => exact Or.inr (Or.inr ⟨change, held, rfl, rfl⟩)
  · refine Or.inl ⟨fault, after, failed, isLeft, ?_⟩
    rcases why with meets | ⟨invalid, struck, -⟩ | ⟨-, expired, struck, -⟩
    · exact Or.inl meets.mem
    · exact Or.inr (Or.inl ⟨invalid, struck⟩)
    · exact Or.inr (Or.inr ⟨expired, struck⟩)

/-- After an expired position no cursor is opened: a fault that waits comes first, and without one the
position is refused. -/
theorem openCursor_of_expired {position : Position} (expired : position < log.horizon) :
    Source.openCursor (some position) log =
      (.error (log.openFaults.head?.getD (.positionExpired position)),
        { log with openFaults := log.openFaults.tail }) := by
  show openCursor (some position) log = _
  unfold openCursor
  cases waits : log.openFaults with
  | cons fault rest => rfl
  | nil =>
    have same : { log with openFaults := [] } = log := by rw [← waits]
    simp only [isExpired_iff.mpr expired, if_true, List.head?_nil, Option.getD_none, List.tail_nil, same]

/-- A cursor that has expired reads nothing: a fault that waits comes first, then the cursor's own
invalidity, and without either the position is refused. -/
theorem nextEntry_of_expired {cursor : Cursor} (expired : cursor.after < log.horizon) :
    (Source.nextEntry cursor log).1 =
      .error (log.readFaults.head?.getD (if log.generation = cursor.generation then
        .positionExpired cursor.after else .cursorInvalidated)) := by
  show (nextEntry cursor log).1 = _
  unfold nextEntry
  cases waits : log.readFaults with
  | cons fault rest => rfl
  | nil =>
    by_cases current : log.generation = cursor.generation
    · simp [current, isExpired_iff.mpr expired]
    · simp [current]

/-- A snapshot shows the whole revision table at the head of the log, if the log gives any. -/
theorem takeSnapshot_cases (log : MemoryLog) :
    (∃ fault after, Source.takeSnapshot log = (.error fault, after) ∧ after.IsLeftOf log ∧
        log.Meets after fault) ∨
      (log.supportsSnapshots = true ∧ log.snapshotFaults = [] ∧ Source.takeSnapshot log =
        (.ok (some ⟨log.revisions.toChanges, some log.lastPosition⟩), log)) ∨
      (log.supportsSnapshots = false ∧ Source.takeSnapshot log = (.ok none, log)) := by
  show (∃ fault after, takeSnapshot log = _ ∧ _) ∨ (_ ∧ _ ∧ takeSnapshot log = _) ∨
    (_ ∧ takeSnapshot log = _)
  unfold takeSnapshot
  split
  · next fault rest waits =>
    have meets : log.Meets { log with snapshotFaults := rest } fault := by
      simp only [Meets, faults, waits]
      exact List.perm_middle
    exact Or.inl ⟨_, _, rfl, meets.isLeftOf ⟨rfl, rfl, rfl, rfl, rfl⟩ rfl, meets⟩
  · next unfaulted =>
    cases supports : log.supportsSnapshots with
    | true => exact Or.inr (Or.inl ⟨rfl, unfaulted, rfl⟩)
    | false => exact Or.inr (Or.inr ⟨rfl, rfl⟩)

/-- A log that gives snapshots gives one when no fault waits for the request. -/
theorem takeSnapshot_of_supports (supports : log.supportsSnapshots = true)
    (unfaulted : log.snapshotFaults = []) :
    Source.takeSnapshot log = (.ok (some ⟨log.revisions.toChanges, some log.lastPosition⟩), log) := by
  show takeSnapshot log = _
  simp only [takeSnapshot, unfaulted, supports, if_true]

/-- A snapshot teaches the whole history. -/
theorem Records.knows_of_snapshot (records : log.Records history) {change : Change}
    (member : change ∈ history) (known : Revisions) :
    (known.observeAll log.revisions.toChanges).Knows change :=
  (records.knows_of_mem change member).observeAll_toChanges known

/-- A snapshot shows nothing that the history does not hold. -/
theorem Records.exists_of_mem_snapshot (records : log.Records history) {change : Change}
    (member : change ∈ log.revisions.toChanges) :
    ∃ earlier ∈ history, earlier.document = change.document ∧ change.revno ≤ earlier.revno := by
  refine records.exists_of_knows change (Revisions.knows_iff.mpr ?_)
  exact ⟨change.revision, Revisions.mem_toChanges_iff.mp member, Int64.le_refl _⟩

end MemoryLog

end ChangeFeed
