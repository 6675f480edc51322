/-
# A log and its history

A log forgets: truncation drops old entries for good. What a reader owes its watcher is said about
every change ever committed, so a log is compared here with its *history*, the list of all those
changes in commit order. A position is a prefix of the history, named by its length.

`Edit` is whatever others may do to a log while somebody reads it, and `Records` is the invariant
that all edits keep: the entries still held are the part of the history beyond the horizon, numbered
by position, and the revision table knows the history and nothing else. Truncation beyond the head
is the one edit that breaks it, which is why `Edit.IsWithin` is asked for.
-/

import ChangeFeed.MemoryLog
import ChangeFeed.Proofs.Replay

namespace ChangeFeed

namespace Revno

theorem lt_add_one {revno : Revno} (below : revno ≠ Int64.maxValue) : revno < revno + 1 := by
  have strict : revno.toInt ≠ Int64.maxValue.toInt := fun same => below (Int64.toInt_inj.mp same)
  have upper := revno.toInt_le
  have lower := revno.minValue_le_toInt
  have one : (1 : Int64).toInt = 1 := rfl
  have top : Int64.maxValue.toInt = 9223372036854775807 := rfl
  have bottom : Int64.minValue.toInt = -9223372036854775808 := rfl
  rw [Int64.lt_iff_toInt_lt, Int64.toInt_add, one, Int.bmod_eq_of_le] <;> omega

theorem lt_of_next? {revno next : Revno} (found : revno.next? = some next) : revno < next := by
  unfold next? at found
  split at found
  · cases found
  · next below =>
    cases found
    exact lt_add_one below

theorem le_afterRemoval (revno : Revno) : revno ≤ revno.afterRemoval := by
  unfold afterRemoval
  cases found : revno.next? with
  | none => exact Int64.le_refl revno
  | some next => exact Int64.le_of_lt (lt_of_next? found)

end Revno

namespace MemoryLog

/-! ## Numbered changes -/

/-- Changes as entries at the positions that follow `start`. -/
def numberedFrom (start : Position) : List Change → List Entry
  | [] => []
  | change :: rest => ⟨start + 1, change⟩ :: numberedFrom (start + 1) rest

theorem numberedFrom_append (start : Position) (first second : List Change) :
    numberedFrom start (first ++ second) =
      numberedFrom start first ++ numberedFrom (start + first.length) second := by
  induction first generalizing start with
  | nil => rfl
  | cons change rest ih =>
    simp only [List.cons_append, numberedFrom, ih (start + 1), List.length_cons]
    rw [show start + 1 + rest.length = start + (rest.length + 1) by lia]

theorem length_numberedFrom (start : Position) (changes : List Change) :
    (numberedFrom start changes).length = changes.length := by
  induction changes generalizing start with
  | nil => rfl
  | cons change rest ih => simp only [numberedFrom, List.length_cons, ih]

/-- Truncation cuts numbered changes at a prefix. -/
theorem dropWhile_numberedFrom (start through : Position) (changes : List Change) :
    (numberedFrom start changes).dropWhile (fun entry => decide (entry.position ≤ through)) =
      numberedFrom (max start through) (changes.drop (through - start)) := by
  induction changes generalizing start with
  | nil => simp [numberedFrom]
  | cons change rest ih =>
    by_cases reached : start + 1 ≤ through
    · have distance : through - start = through - (start + 1) + 1 := by lia
      have later : max start through = max (start + 1) through := by lia
      rw [numberedFrom, List.dropWhile_cons_of_pos (by simpa using reached), ih, distance,
        List.drop_succ_cons, later]
    · have none : through - start = 0 := by lia
      have same : max start through = start := by lia
      rw [numberedFrom, List.dropWhile_cons_of_neg (by simpa using reached), none, same,
        List.drop_zero, numberedFrom]

/-- The first entry beyond a position is the one that follows it. -/
theorem find?_numberedFrom {start position : Position} (reached : start ≤ position)
    (changes : List Change) :
    (numberedFrom start changes).find? (fun entry => decide (position < entry.position)) =
      changes[position - start]?.map fun change => ⟨position + 1, change⟩ := by
  induction changes generalizing start with
  | nil => simp [numberedFrom]
  | cons change rest ih =>
    by_cases here : start = position
    · subst here
      rw [numberedFrom, List.find?_cons_of_pos (by simp), Nat.sub_self]
      rfl
    · have distance : position - start = position - (start + 1) + 1 := by lia
      rw [numberedFrom, List.find?_cons_of_neg (by simp; lia), ih (by lia), distance,
        List.getElem?_cons_succ]

/-! ## Edits -/

/-- What others may do to a log between two requests of its reader. -/
inductive Edit where
  | upsert (document : Document)
  | remove (document : Document)
  | append (change : Change)
  | truncate (through : Position)
  | invalidateCursors
  | failNextOpen (fault : Fault)
  | failNextRead (fault : Fault)
  | failNextSnapshot (fault : Fault)
  deriving DecidableEq, Repr

/-- The log after an edit. An update that fails leaves it as it was. -/
def edit (log : MemoryLog) : Edit → MemoryLog
  | .upsert document => ((log.upsert? document).map (·.2)).getD log
  | .remove document => (log.remove document).2
  | .append change => log.append change
  | .truncate through => log.truncate through
  | .invalidateCursors => log.invalidateCursors
  | .failNextOpen fault => log.failNextOpen fault
  | .failNextRead fault => log.failNextRead fault
  | .failNextSnapshot fault => log.failNextSnapshot fault

/-- The change that an edit commits to the log, if it commits one. -/
def committedBy? (log : MemoryLog) : Edit → Option Change
  | .upsert document => (log.updateRevno? document).map (Change.update document)
  | .remove document =>
    match log.revisions[document]? with
    | some ⟨revno, false⟩ => some (Change.removal document revno)
    | _ => none
  | .append change => some change
  | _ => none

/-- The edit truncates nothing beyond the head of the log. -/
def Edit.IsWithin (log : MemoryLog) : Edit → Prop
  | .truncate through => through ≤ log.lastPosition
  | _ => True

instance (log : MemoryLog) (edit : Edit) : Decidable (edit.IsWithin log) := by
  cases edit <;> unfold Edit.IsWithin <;> infer_instance

/-- The position that truncation has reached. The positions before it are expired. -/
def horizon (log : MemoryLog) : Position :=
  log.cut.getD Position.origin

theorem isExpired_iff {log : MemoryLog} {position : Position} :
    log.isExpired position = true ↔ position < log.horizon := by
  unfold isExpired horizon Position.origin
  cases log.cut <;> simp

theorem isExpired_eq_false_iff {log : MemoryLog} {position : Position} :
    log.isExpired position = false ↔ log.horizon ≤ position := by
  rw [← Bool.not_eq_true, isExpired_iff, Nat.not_lt]

variable {log : MemoryLog}

/-- Whether a log gives snapshots is settled when it is made. -/
theorem supportsSnapshots_edit (log : MemoryLog) (edit : Edit) :
    (log.edit edit).supportsSnapshots = log.supportsSnapshots := by
  cases edit with
  | upsert document =>
    simp only [MemoryLog.edit, upsert?]
    cases log.updateRevno? document <;> rfl
  | remove document =>
    simp only [MemoryLog.edit, MemoryLog.remove]
    split <;> rfl
  | append _ | truncate _ | invalidateCursors | failNextOpen _ | failNextRead _
  | failNextSnapshot _ => rfl

/-- Only truncation cuts a log. -/
theorem cut_edit {edit : Edit} (kept : ∀ through, edit ≠ .truncate through) :
    (log.edit edit).cut = log.cut := by
  cases edit with
  | upsert document =>
    simp only [MemoryLog.edit, upsert?]
    cases log.updateRevno? document <;> rfl
  | remove document =>
    simp only [MemoryLog.edit, MemoryLog.remove]
    split <;> rfl
  | truncate through => exact absurd rfl (kept through)
  | append _ | invalidateCursors | failNextOpen _ | failNextRead _ | failNextSnapshot _ => rfl

/-- The horizon never moves back. -/
theorem horizon_le_edit (log : MemoryLog) (edit : Edit) : log.horizon ≤ (log.edit edit).horizon := by
  by_cases truncates : ∃ through, edit = .truncate through
  · obtain ⟨through, rfl⟩ := truncates
    exact Nat.le_max_right _ _
  · have kept : (log.edit edit).cut = log.cut :=
      cut_edit fun through same => truncates ⟨through, same⟩
    exact Nat.le_of_eq (by rw [horizon, horizon, kept])

/-- **What an edit puts into the revision table.** The table learns what the edit commits, and forgets
nothing. -/
theorem knows_edit_iff (log : MemoryLog) (edit : Edit) (other : Change) :
    (log.edit edit).revisions.Knows other ↔ log.revisions.Knows other ∨
      ∃ change, log.committedBy? edit = some change ∧ change.document = other.document ∧
        other.revno ≤ change.revno := by
  cases edit with
  | upsert document =>
    simp only [MemoryLog.edit, upsert?, committedBy?]
    cases found : log.updateRevno? document with
    | none => simp
    | some revno =>
      have forward : ∀ revision, log.revisions[document]? = some revision → revision.revno ≤ revno := by
        intro revision current
        have next : revision.revno.next? = some revno := by
          simpa [updateRevno?, current] using found
        exact Int64.le_of_lt (Revno.lt_of_next? next)
      simp only [Option.map_some, Option.some.injEq, exists_eq_left']
      exact Revisions.knows_insert_iff (.update document revno) forward
  | remove document =>
    simp only [MemoryLog.edit, MemoryLog.remove, committedBy?]
    rcases found : log.revisions[document]? with _ | ⟨revno, _ | _⟩
    · simp
    · have forward : ∀ revision, log.revisions[document]? = some revision →
          revision.revno ≤ revno.afterRemoval := by
        intro revision current
        have same : (⟨revno, false⟩ : Revision) = revision := Option.some.inj (found.symm.trans current)
        rw [← same]
        exact Revno.le_afterRemoval revno
      simp only [Option.some.injEq, exists_eq_left']
      exact Revisions.knows_insert_iff (.removal document revno) forward
    · simp
  | append change =>
    simp only [committedBy?, Option.some.injEq, exists_eq_left']
    exact Revisions.knows_observe_iff
  | truncate _ | invalidateCursors | failNextOpen _ | failNextRead _ | failNextSnapshot _ =>
    simp [MemoryLog.edit, committedBy?, truncate, MemoryLog.invalidateCursors, MemoryLog.failNextOpen,
      MemoryLog.failNextRead, MemoryLog.failNextSnapshot]

/-! ## Histories -/

/-- The log holds what truncation has left of the history, and its revision table knows exactly what
the history teaches. -/
structure Records (log : MemoryLog) (history : List Change) : Prop where
  lastPosition_eq : log.lastPosition = history.length
  horizon_le : log.horizon ≤ history.length
  entries_eq : log.entries = numberedFrom log.horizon (history.drop log.horizon)
  knows_of_mem : ∀ change ∈ history, log.revisions.Knows change
  exists_of_knows : ∀ change, log.revisions.Knows change →
    ∃ earlier ∈ history, earlier.document = change.document ∧ change.revno ≤ earlier.revno

/-- A new log records the empty history. -/
theorem records_empty (supportsSnapshots : Bool) : (empty supportsSnapshots).Records [] where
  lastPosition_eq := rfl
  horizon_le := Nat.le_refl _
  entries_eq := rfl
  knows_of_mem _ member := by cases member
  exists_of_knows change knows :=
    absurd knows (Revisions.not_knows_iff.mpr (Revisions.isNews_empty change))

variable {other : MemoryLog} {history : List Change}

/-- Faults and generations are no part of what is recorded. -/
theorem Records.congr (records : log.Records history)
    (lastPosition : other.lastPosition = log.lastPosition) (cut : other.cut = log.cut)
    (entries : other.entries = log.entries) (revisions : other.revisions = log.revisions) :
    other.Records history := by
  have horizon : other.horizon = log.horizon := by rw [MemoryLog.horizon, cut, MemoryLog.horizon]
  exact ⟨lastPosition ▸ records.lastPosition_eq, horizon ▸ records.horizon_le,
    horizon ▸ entries ▸ records.entries_eq, revisions ▸ records.knows_of_mem,
    revisions ▸ records.exists_of_knows⟩

/-- What a reader learns of a log's contents: beyond a position that is not expired comes the change
that follows it in the history. -/
theorem Records.entryAfter_eq (records : log.Records history) {position : Position}
    (held : log.horizon ≤ position) :
    log.entryAfter position =
      history[position]?.map fun change => ⟨position + 1, change⟩ := by
  rw [entryAfter, records.entries_eq, find?_numberedFrom held, List.getElem?_drop]
  rw [show log.horizon + (position - log.horizon) = position by lia]

/-- A change can be committed under a revision table that learns from it and from nothing else. -/
theorem Records.push (records : log.Records history) (change : Change) {revisions : Revisions}
    (learns : ∀ other, revisions.Knows other ↔ log.revisions.Knows other ∨
      change.document = other.document ∧ other.revno ≤ change.revno) :
    ({ log with revisions }.push change).Records (history ++ [change]) where
  lastPosition_eq := by simp [MemoryLog.push, records.lastPosition_eq]
  horizon_le := by
    have held := records.horizon_le
    simp only [MemoryLog.push, horizon, List.length_append, List.length_singleton] at held ⊢
    lia
  entries_eq := by
    have held : log.horizon ≤ history.length := records.horizon_le
    have start : log.horizon + (history.length - log.horizon) = history.length := by lia
    show log.entries ++ [⟨log.lastPosition + 1, change⟩] =
      numberedFrom log.horizon ((history ++ [change]).drop log.horizon)
    rw [List.drop_append_of_le_length held, numberedFrom_append, List.length_drop, start,
      records.entries_eq, records.lastPosition_eq]
    rfl
  knows_of_mem other member := by
    rcases List.mem_append.mp member with earlier | new
    · exact (learns other).mpr (Or.inl (records.knows_of_mem other earlier))
    · rw [List.mem_singleton.mp new]
      exact (learns change).mpr (Or.inr ⟨rfl, Int64.le_refl _⟩)
  exists_of_knows other knows := by
    rcases (learns other).mp knows with before | taught
    · obtain ⟨earlier, member, teaches⟩ := records.exists_of_knows other before
      exact ⟨earlier, List.mem_append_left _ member, teaches⟩
    · exact ⟨change, by simp, taught⟩

/-- **Every edit within the head is recorded.** The history grows by what the edit commits. -/
theorem Records.edit (records : log.Records history) {edit : Edit} (within : edit.IsWithin log) :
    (log.edit edit).Records (history ++ (log.committedBy? edit).toList) := by
  have learns := log.knows_edit_iff edit
  cases edit with
  | upsert document =>
    simp only [MemoryLog.edit, upsert?, committedBy?] at learns ⊢
    cases found : log.updateRevno? document with
    | none => simpa using records
    | some revno =>
      simp only [found, Option.map_some, Option.some.injEq, exists_eq_left'] at learns
      exact records.push (.update document revno) learns
  | remove document =>
    simp only [MemoryLog.edit, MemoryLog.remove, committedBy?] at learns ⊢
    rcases found : log.revisions[document]? with _ | ⟨revno, _ | _⟩
    · simpa using records
    · simp only [found, Option.some.injEq, exists_eq_left'] at learns
      exact records.push (.removal document revno) learns
    · simpa using records
  | append change =>
    simp only [committedBy?, Option.some.injEq, exists_eq_left'] at learns
    exact records.push change learns
  | truncate through =>
    have inside : through ≤ history.length := records.lastPosition_eq ▸ within
    have held := records.horizon_le
    have moved : (log.truncate through).horizon = max log.horizon through := Nat.max_comm _ _
    suffices kept : (log.truncate through).Records history by
      simpa [committedBy?, MemoryLog.edit] using kept
    refine ⟨records.lastPosition_eq, ?_, ?_, records.knows_of_mem, records.exists_of_knows⟩
    · rw [moved]
      lia
    · have whole : log.horizon + (through - log.horizon) = max log.horizon through := by lia
      rw [moved]
      simp only [truncate, records.entries_eq]
      rw [dropWhile_numberedFrom, List.drop_drop, whole]
  | invalidateCursors | failNextOpen _ | failNextRead _ | failNextSnapshot _ =>
    simp only [committedBy?, Option.toList_none, List.append_nil]
    exact records.congr rfl rfl rfl rfl

/-- Allowed edits lead from a new log to this one, and this is what they committed. -/
inductive Arises (allowed : MemoryLog → Edit → Prop) : MemoryLog → List Change → Prop where
  | new (supportsSnapshots : Bool) : Arises allowed (empty supportsSnapshots) []
  | edit {log : MemoryLog} {history : List Change} {edit : Edit} (arises : Arises allowed log history)
    (permitted : allowed log edit) :
    Arises allowed (log.edit edit) (history ++ (log.committedBy? edit).toList)

/-- A log that arises from edits within the head has a history. -/
theorem Arises.records {allowed : MemoryLog → Edit → Prop} (arises : log.Arises allowed history)
    (within : ∀ log edit, allowed log edit → edit.IsWithin log) : log.Records history := by
  induction arises with
  | new supportsSnapshots => exact records_empty supportsSnapshots
  | edit _ permitted ih => exact ih.edit (within _ _ permitted)

end MemoryLog

end ChangeFeed
