/-
# What truncation leaves

Truncation moves the cut of a log to any position, beyond its head as well. The entries still held
are consecutive up to the head all the same, and a cursor goes through them in order. What the cut
decides is where they begin and where a new cursor starts, and the two agree as long as the cut is not
beyond the head when a change is committed.

`edit_cases` lists what an edit does to the positions of a log, and `Retains` is what every edit keeps,
without any condition on truncation. `Tail` is a cursor that is read while others edit the log.
-/

import Mathlib.Data.List.Induction
import ChangeFeed.Proofs.Standing

namespace ChangeFeed

namespace MemoryLog

variable {log : MemoryLog} {history : List Change} {entry : Entry}

/-! ## Runs of edits -/

/-- The log after edits, in order. -/
def editAll (log : MemoryLog) (edits : List Edit) : MemoryLog :=
  edits.foldl edit log

/-- The changes that edits commit, in order. -/
def committedBy (log : MemoryLog) : List Edit → List Change
  | [] => []
  | edit :: rest => (log.committedBy? edit).toList ++ (log.edit edit).committedBy rest

theorem editAll_append (log : MemoryLog) (first second : List Edit) :
    log.editAll (first ++ second) = (log.editAll first).editAll second :=
  List.foldl_append

theorem committedBy_append (log : MemoryLog) (first second : List Edit) :
    log.committedBy (first ++ second) =
      log.committedBy first ++ (log.editAll first).committedBy second := by
  induction first generalizing log with
  | nil => rfl
  | cons edit rest ih => exact (congrArg (_ ++ ·) (ih _)).trans (List.append_assoc _ _ _).symm

/-- **What an edit does to the positions of a log.** It commits a change beyond the head, or truncates,
or leaves entries, head and cut alone. -/
theorem edit_cases (log : MemoryLog) (edit : Edit) :
    (∃ change, log.committedBy? edit = some change ∧
        (log.edit edit).entries = log.entries ++ [⟨log.lastPosition + 1, change⟩] ∧
        (log.edit edit).lastPosition = log.lastPosition + 1 ∧
        (log.edit edit).horizon = log.horizon) ∨
      log.committedBy? edit = none ∧ (log.edit edit).lastPosition = log.lastPosition ∧
        ((∃ through, edit = .truncate through ∧
            (log.edit edit).entries = log.entries.dropWhile (fun entry => entry.position ≤ through) ∧
            (log.edit edit).horizon = max through log.horizon) ∨
          (log.edit edit).entries = log.entries ∧ (log.edit edit).horizon = log.horizon) := by
  cases edit with
  | upsert document =>
    simp only [MemoryLog.edit, upsert?, committedBy?]
    cases log.updateRevno? document with
    | none => exact Or.inr ⟨rfl, rfl, Or.inr ⟨rfl, rfl⟩⟩
    | some revno => exact Or.inl ⟨_, rfl, rfl, rfl, rfl⟩
  | remove document =>
    simp only [MemoryLog.edit, MemoryLog.remove, committedBy?]
    rcases log.revisions[document]? with _ | ⟨revno, _ | _⟩
    · exact Or.inr ⟨rfl, rfl, Or.inr ⟨rfl, rfl⟩⟩
    · exact Or.inl ⟨_, rfl, rfl, rfl, rfl⟩
    · exact Or.inr ⟨rfl, rfl, Or.inr ⟨rfl, rfl⟩⟩
  | append change => exact Or.inl ⟨_, rfl, rfl, rfl, rfl⟩
  | truncate through => exact Or.inr ⟨rfl, rfl, Or.inl ⟨through, rfl, rfl, rfl⟩⟩
  | invalidateCursors | failNextOpen _ | failNextRead _ | failNextSnapshot _ =>
    exact Or.inr ⟨rfl, rfl, Or.inr ⟨rfl, rfl⟩⟩

/-! ## What is held -/

theorem lt_of_mem_numberedFrom {start : Position} {changes : List Change}
    (member : entry ∈ numberedFrom start changes) : start < entry.position := by
  induction changes generalizing start with
  | nil => cases member
  | cons change rest ih =>
    rcases List.mem_cons.mp member with rfl | later
    · exact Nat.lt_succ_self start
    · exact Nat.lt_of_succ_lt (ih later)

theorem positions_numberedFrom (start : Position) (changes : List Change) :
    (numberedFrom start changes).map (·.position) = List.range' (start + 1) changes.length := by
  induction changes generalizing start with
  | nil => rfl
  | cons change rest ih =>
    rw [numberedFrom, List.map_cons, ih, List.length_cons, List.range'_succ]

/-- The position before the oldest entry still held. -/
def base (log : MemoryLog) : Position :=
  log.lastPosition - log.entries.length

/-- The log holds the end of the history, from the cut on or from before it. -/
structure Retains (log : MemoryLog) (history : List Change) : Prop where
  lastPosition_eq : log.lastPosition = history.length
  base_le : log.base ≤ log.horizon
  entries_eq : log.entries = numberedFrom log.base (history.drop log.base)

/-- Entries that are numbered from some position on tell what the base is. -/
theorem Retains.of_entries {start : Position} (lastPosition : log.lastPosition = history.length)
    (cut : start ≤ log.horizon) (held : start ≤ history.length)
    (entries : log.entries = numberedFrom start (history.drop start)) : log.Retains history := by
  have same : log.base = start := by
    rw [base, entries, length_numberedFrom, List.length_drop, lastPosition]
    lia
  exact ⟨lastPosition, same ▸ cut, by rw [same, entries]⟩

theorem retains_empty (supportsSnapshots : Bool) : (empty supportsSnapshots).Retains [] :=
  .of_entries rfl (Nat.zero_le _) (Nat.zero_le _) rfl

theorem Retains.base_le_length (retains : log.Retains history) : log.base ≤ history.length := by
  rw [← retains.lastPosition_eq]
  exact Nat.sub_le _ _

/-- **Every edit leaves the end of the history**, wherever it truncates. -/
theorem Retains.edit (retains : log.Retains history) (edit : Edit) :
    (log.edit edit).Retains (history ++ (log.committedBy? edit).toList) := by
  have held := retains.base_le_length
  rcases log.edit_cases edit with
    ⟨change, commits, entries, lastPosition, horizon⟩ | ⟨commits, lastPosition, truncates | kept⟩
  · rw [commits, Option.toList_some]
    apply Retains.of_entries _ (horizon ▸ retains.base_le)
    · exact Nat.le_trans held (by simp)
    · have next : log.lastPosition = log.base + (history.drop log.base).length := by
        rw [List.length_drop, retains.lastPosition_eq]
        lia
      rw [entries, List.drop_append_of_le_length held, numberedFrom_append, ← next]
      exact congrArg (· ++ _) retains.entries_eq
    · rw [lastPosition, retains.lastPosition_eq, List.length_append, List.length_singleton]
  · obtain ⟨through, rfl, entries, horizon⟩ := truncates
    rw [commits, Option.toList_none, List.append_nil]
    -- What lies beyond the head is not cut off a second time when it is committed.
    let start := max log.base (min through history.length)
    apply Retains.of_entries (lastPosition.trans retains.lastPosition_eq)
    · show start ≤ _
      rw [horizon]
      exact Nat.max_le.mpr ⟨Nat.le_trans retains.base_le (Nat.le_max_right _ _), by lia⟩
    · exact Nat.max_le.mpr ⟨held, Nat.min_le_right _ _⟩
    · rw [entries, retains.entries_eq, dropWhile_numberedFrom, List.drop_drop]
      by_cases within : through ≤ history.length
      · have same : start = max log.base through := by lia
        rw [same, show log.base + (through - log.base) = max log.base through by lia]
      · -- Nothing is left, whatever the positions.
        have beyond : history.length ≤ log.base + (through - log.base) := by lia
        have all : history.length ≤ start := by lia
        rw [List.drop_eq_nil_of_le beyond, List.drop_eq_nil_of_le all, numberedFrom, numberedFrom]
  · rw [commits, Option.toList_none, List.append_nil]
    apply Retains.of_entries (lastPosition.trans retains.lastPosition_eq)
      (kept.2 ▸ retains.base_le) held
    exact kept.1.trans retains.entries_eq

theorem Retains.editAll (retains : log.Retains history) (edits : List Edit) :
    (log.editAll edits).Retains (history ++ log.committedBy edits) := by
  induction edits generalizing log history with
  | nil =>
    rw [committedBy, List.append_nil]
    exact retains
  | cons edit rest ih =>
    have later := ih (retains.edit edit)
    rwa [List.append_assoc] at later

/-- The positions held are consecutive, and end at the head. -/
theorem Retains.positions (retains : log.Retains history) :
    log.entries.map (·.position) = List.range' (log.base + 1) (log.lastPosition - log.base) := by
  rw [retains.entries_eq, positions_numberedFrom, List.length_drop, retains.lastPosition_eq]

/-- They begin at the cut exactly when nothing is held from before it. -/
theorem Retains.positions_iff (retains : log.Retains history) :
    log.entries.map (·.position) = List.range' (log.horizon + 1) (log.lastPosition - log.horizon) ↔
      ∀ entry ∈ log.entries, log.horizon < entry.position := by
  constructor
  · intro same entry member
    have listed : entry.position ∈ log.entries.map (·.position) := List.mem_map_of_mem member
    rw [same, List.mem_range'_1] at listed
    exact listed.1
  · intro beyond
    have cut := retains.base_le
    rw [retains.positions]
    by_cases empty : log.lastPosition ≤ log.base
    · rw [Nat.sub_eq_zero_of_le empty, Nat.sub_eq_zero_of_le (Nat.le_trans empty cut)]
      rfl
    · -- The oldest entry is there to tell where the cut is.
      have oldest : log.base + 1 ∈ log.entries.map (·.position) := by
        rw [retains.positions, List.mem_range'_1]
        lia
      obtain ⟨entry, member, position⟩ := List.mem_map.mp oldest
      have later := beyond entry member
      rw [show log.horizon = log.base by lia]

/-- Beyond a position that has not expired comes the change that follows it in the history. -/
theorem Retains.entryAfter_eq (retains : log.Retains history) {position : Position}
    (held : log.horizon ≤ position) :
    log.entryAfter position = history[position]?.map fun change => ⟨position + 1, change⟩ := by
  have reached := Nat.le_trans retains.base_le held
  rw [entryAfter, retains.entries_eq, find?_numberedFrom reached, List.getElem?_drop,
    show log.base + (position - log.base) = position by lia]

theorem SameContents.retains {other : MemoryLog} (same : other.SameContents log)
    (retains : log.Retains history) : other.Retains history := by
  have base : other.base = log.base := by rw [MemoryLog.base, same.entries_eq, same.lastPosition_eq, MemoryLog.base]
  refine ⟨same.lastPosition_eq.trans retains.lastPosition_eq, ?_, ?_⟩
  · rw [base, same.horizon_eq]
    exact retains.base_le
  · rw [base, same.entries_eq]
    exact retains.entries_eq

/-! ## What is committed below the cut -/

/-- Among the edits of a log is one that commits the entry while the cut is beyond the head. -/
def CommitsBelowCut (log : MemoryLog) (edits : List Edit) (entry : Entry) : Prop :=
  ∃ first edit second, edits = first ++ edit :: second ∧
    (log.editAll first).committedBy? edit = some entry.change ∧
    entry.position = (log.editAll first).lastPosition + 1 ∧
    (log.editAll first).lastPosition < (log.editAll first).horizon

theorem horizon_le_editAll (log : MemoryLog) (edits : List Edit) :
    log.horizon ≤ (log.editAll edits).horizon := by
  induction edits generalizing log with
  | nil => exact Nat.le_refl _
  | cons edit rest ih => exact Nat.le_trans (log.horizon_le_edit edit) (ih (log.edit edit))

/-- **Held from before the cut is what was committed below it.** What a later truncation finds below
the cut it drops. -/
theorem le_horizon_iff {supportsSnapshots : Bool} {edits : List Edit}
    (held : entry ∈ ((empty supportsSnapshots).editAll edits).entries) :
    entry.position ≤ ((empty supportsSnapshots).editAll edits).horizon ↔
      (empty supportsSnapshots).CommitsBelowCut edits entry := by
  constructor
  · intro below
    induction edits using List.reverseRecOn with
    | nil => cases held
    | append_singleton edits edit ih =>
      have earlier : ∀ {entry}, (empty supportsSnapshots).CommitsBelowCut edits entry →
          (empty supportsSnapshots).CommitsBelowCut (edits ++ [edit]) entry := by
        rintro entry ⟨first, given, second, rfl, commits⟩
        exact ⟨first, given, second ++ [edit], by simp, commits⟩
      have retains := (retains_empty supportsSnapshots).editAll edits
      rw [editAll_append] at held below
      generalize reached : (empty supportsSnapshots).editAll edits = log at *
      change entry ∈ (log.edit edit).entries at held
      change entry.position ≤ (log.edit edit).horizon at below
      rcases log.edit_cases edit with
        ⟨change, commits, entries, -, horizon⟩ | ⟨-, -, ⟨through, rfl, entries, horizon⟩ | ⟨entries, horizon⟩⟩
      · rw [entries] at held
        rw [horizon] at below
        rcases List.mem_append.mp held with old | new
        · exact earlier (ih old below)
        · cases List.mem_singleton.mp new
          exact ⟨edits, edit, [], rfl, reached ▸ commits, by rw [reached], by rw [reached]; exact below⟩
      · have old : entry ∈ log.entries := (List.dropWhile_sublist _).subset (entries ▸ held)
        rw [entries, retains.entries_eq, dropWhile_numberedFrom] at held
        have beyond := lt_of_mem_numberedFrom held
        exact earlier (ih old (by lia))
      · exact earlier (ih (entries ▸ held) (horizon ▸ below))
  · rintro ⟨first, edit, second, rfl, -, position, below⟩
    rw [editAll_append]
    have grown := ((empty supportsSnapshots).editAll first).horizon_le_editAll (edit :: second)
    lia

/-! ## Reading along -/

/-- A cursor that is read while others edit the log, with every change ever committed. -/
structure Tail where
  log : MemoryLog
  cursor : Cursor
  history : List Change
  /-- What the cursor has read, in order. -/
  taken : List Entry := []

namespace Tail

/-- What can happen while a cursor is open. -/
inductive Move where
  | edit (edit : Edit)
  | read
  deriving DecidableEq, Repr

/-- The answer to the next read. -/
def answer (tail : Tail) : Except Fault (Option Entry) :=
  (nextEntry tail.cursor tail.log).1

/-- The tail after a move. -/
def move (tail : Tail) : Move → Tail
  | .edit edit =>
    { tail with
      log := tail.log.edit edit
      history := tail.history ++ (tail.log.committedBy? edit).toList }
  | .read =>
    let (answer, cursor, log) := nextEntry tail.cursor tail.log
    let new :=
      match answer with
      | .ok (some entry) => [entry]
      | .ok none | .error _ => []
    { tail with log, cursor, taken := tail.taken ++ new }

/-- The tail after moves, in order. -/
def run (tail : Tail) (moves : List Move) : Tail :=
  moves.foldl move tail

variable {tail : Tail} {start : Position}

/-- The cursor has read everything beyond its start and up to its place, each entry once. -/
structure IsInOrder (start : Position) (tail : Tail) : Prop where
  retains : tail.log.Retains tail.history
  reached : start ≤ tail.cursor.after
  /-- A cursor that started beyond the head has not moved. -/
  within : tail.cursor.after = start ∨ tail.cursor.after ≤ tail.history.length
  taken_eq : tail.taken = numberedFrom start (between tail.history start tail.cursor.after)

/-- **A read fails, or finds nothing more, or brings the next change.** -/
theorem IsInOrder.read (inOrder : tail.IsInOrder start) :
    (tail.move .read).IsInOrder start ∧
      ((∃ fault, tail.answer = .error fault) ∨
        (tail.answer = .ok none ∧ tail.history.length ≤ tail.cursor.after) ∨
        ∃ change, tail.history[tail.cursor.after]? = some change ∧
          tail.answer = .ok (some ⟨tail.cursor.after + 1, change⟩)) := by
  rcases nextEntry_cases inOrder.retains.entryAfter_eq tail.cursor with
    ⟨fault, after, read, isLeft, -⟩ | ⟨-, caughtUp, read⟩ | ⟨change, -, found, read⟩ <;>
      change nextEntry tail.cursor tail.log = _ at read
  · refine ⟨?_, Or.inl ⟨fault, by rw [answer, read]⟩⟩
    have moved : tail.move .read = { tail with log := after } := by
      simp only [Tail.move, read, List.append_nil]
    rw [moved]
    exact { inOrder with retains := isLeft.contents.retains inOrder.retains }
  · refine ⟨?_, Or.inr (Or.inl ⟨by rw [answer, read], caughtUp⟩)⟩
    have still : tail.move .read = tail := by
      simp only [Tail.move, read, List.append_nil]
    rw [still]
    exact inOrder
  · refine ⟨?_, Or.inr (Or.inr ⟨change, found, by rw [answer, read]⟩)⟩
    obtain ⟨inside, -⟩ := List.getElem?_eq_some_iff.mp found
    have size : (between tail.history start tail.cursor.after).length =
        tail.cursor.after - start := by
      rw [between, List.length_drop, List.length_take, Nat.min_eq_left (Nat.le_of_lt inside)]
    have next : start + (tail.cursor.after - start) = tail.cursor.after :=
      Nat.add_sub_cancel' inOrder.reached
    have moved : tail.move .read =
        { tail with
          cursor := { tail.cursor with after := tail.cursor.after + 1 }
          taken := tail.taken ++ [⟨tail.cursor.after + 1, change⟩] } := by
      simp only [Tail.move, read]
    rw [moved]
    refine ⟨inOrder.retains, Nat.le_succ_of_le inOrder.reached, Or.inr inside, ?_⟩
    show tail.taken ++ _ = numberedFrom start (between tail.history start (tail.cursor.after + 1))
    rw [between_succ inOrder.reached found, numberedFrom_append, size, next, inOrder.taken_eq]
    rfl

theorem IsInOrder.edit (inOrder : tail.IsInOrder start) (edit : Edit) :
    (tail.move (.edit edit)).IsInOrder start where
  retains := inOrder.retains.edit edit
  reached := inOrder.reached
  within := inOrder.within.imp_right fun held => Nat.le_trans held (by simp [Tail.move])
  taken_eq := by
    show tail.taken = numberedFrom start
      (between (tail.history ++ (tail.log.committedBy? edit).toList) start tail.cursor.after)
    rw [inOrder.taken_eq]
    rcases inOrder.within with same | held
    · rw [between_of_le (Nat.le_of_eq same), between_of_le (Nat.le_of_eq same)]
    · rw [between_append held]

/-- **Whatever others do to the log, a cursor reads on where it stopped.** -/
theorem IsInOrder.run (inOrder : tail.IsInOrder start) (moves : List Move) :
    (tail.run moves).IsInOrder start :=
  List.foldlRecOn (motive := IsInOrder start) moves move inOrder fun _ inOrder given _ =>
    match given with
    | .edit edit => inOrder.edit edit
    | .read => inOrder.read.1

/-- A cursor that is opened without a position starts at the cut. -/
theorem isInOrder_open {log : MemoryLog} {history : List Change} {cursor : Cursor}
    (retains : log.Retains history) (opened : openCursor none log = (.ok cursor, log)) :
    Tail.IsInOrder log.horizon ⟨log, cursor, history, []⟩ := by
  have place : cursor.after = log.horizon := by
    unfold openCursor at opened
    split at opened
    · cases opened
    · cases opened
      rfl
  refine ⟨retains, Nat.le_of_eq place.symm, Or.inl place, ?_⟩
  rw [between_of_le (Nat.le_of_eq place), numberedFrom]

/-- Read to the end, a cursor has read what lies beyond its start. -/
theorem IsInOrder.mem_positions_iff (inOrder : tail.IsInOrder start)
    (caughtUp : tail.history.length ≤ tail.cursor.after) {position : Position}
    (committed : position ≤ tail.log.lastPosition) :
    position ∈ tail.taken.map (·.position) ↔ start < position := by
  have head := inOrder.retains.lastPosition_eq
  rw [inOrder.taken_eq, positions_numberedFrom, between, List.take_of_length_le caughtUp,
    List.length_drop, List.mem_range'_1]
  lia

end Tail

/-- **What is committed below the cut is held and never read.** Whatever is done to a log, the
positions it holds are consecutive and end at its head. They begin beyond the cut exactly if none of
them was committed below it. A cursor that is opened without a position starts at the cut, and reads
one entry after the other while others edit the log: a read fails, or brings the next entry, or finds
that the cursor has caught up. It has then read, of the entries committed since it was opened, exactly
those beyond where the cut was. -/
theorem hidden_iff_committed_below_cut (supportsSnapshots : Bool) (edits : List Edit) :
    let new := empty supportsSnapshots
    let log := new.editAll edits
    let positions := log.entries.map (·.position)
    (∃ start ≤ log.horizon, positions = List.range' (start + 1) (log.lastPosition - start)) ∧
      (positions = List.range' (log.horizon + 1) (log.lastPosition - log.horizon) ↔
        ∀ entry ∈ log.entries, ¬ new.CommitsBelowCut edits entry) ∧
      ∀ cursor, openCursor none log = (.ok cursor, log) → ∀ moves : List Tail.Move,
        let tail := Tail.run ⟨log, cursor, new.committedBy edits, []⟩ moves
        tail.taken =
            numberedFrom log.horizon (between tail.history log.horizon tail.cursor.after) ∧
          ((∃ fault, tail.answer = .error fault) ∨
            (∃ change, tail.history[tail.cursor.after]? = some change ∧
              tail.answer = .ok (some ⟨tail.cursor.after + 1, change⟩)) ∨
            (tail.answer = .ok none ∧ ∀ position, log.lastPosition < position →
              position ≤ tail.log.lastPosition →
                (position ∈ tail.taken.map (·.position) ↔ log.horizon < position))) := by
  intro new log positions
  have retains : log.Retains (new.committedBy edits) := (retains_empty supportsSnapshots).editAll edits
  refine ⟨⟨log.base, retains.base_le, retains.positions⟩, ?_, ?_⟩
  · apply retains.positions_iff.trans
    apply forall₂_congr
    intro entry held
    rw [← le_horizon_iff held, Nat.not_le]
  · intro cursor opened moves tail
    have inOrder : tail.IsInOrder log.horizon := (Tail.isInOrder_open retains opened).run moves
    refine ⟨inOrder.taken_eq, ?_⟩
    rcases inOrder.read.2 with failed | ⟨nothing, caughtUp⟩ | next
    · exact Or.inl failed
    · refine Or.inr (Or.inr ⟨nothing, ?_⟩)
      intro position _ committed
      exact inOrder.mem_positions_iff caughtUp committed
    · exact Or.inr (Or.inl next)

/-- Behind a cut at the head, what is committed later is read. -/
theorem pear_read_beyond_cut :
    let new := empty false
    let edits : List Edit := [.upsert ⟨"fruit", "apple"⟩, .upsert ⟨"fruit", "apple"⟩, .truncate 2]
    let moves : List Tail.Move :=
      [.read, .edit (.upsert ⟨"fruit", "pear"⟩), .edit (.truncate 1), .read, .read]
    let log := new.editAll edits
    openCursor none log = (.ok ⟨2, 2, 0⟩, log) ∧
      let tail := Tail.run ⟨log, ⟨2, 2, 0⟩, new.committedBy edits, []⟩ moves
      tail.taken = [⟨3, .update ⟨"fruit", "pear"⟩ 1⟩] := by
  intro new edits moves log
  have opened : openCursor none log = (.ok ⟨2, 2, 0⟩, log) := rfl
  have read := (hidden_iff_committed_below_cut false edits).2.2 ⟨2, 2, 0⟩ opened moves
  exact ⟨opened, read.1.trans (by decide +kernel)⟩

/-- A cut beyond the head hides an apple that is committed after it: the log holds the apple's entry
below the cut, and a cursor that was opened in between has caught up and has not read it. -/
theorem apple_hidden_below_cut :
    let new := empty false
    let log := new.editAll [.truncate 5]
    openCursor none log = (.ok ⟨5, 5, 0⟩, log) ∧
      let tail := Tail.run ⟨log, ⟨5, 5, 0⟩, [], []⟩ [.edit (.upsert ⟨"fruit", "apple"⟩), .read]
      tail.log.entries.map (·.position) = [1] ∧ tail.log.horizon = 5 ∧ tail.log.lastPosition = 1 ∧
        tail.taken = [] ∧ tail.answer = .ok none :=
  ⟨rfl, rfl, rfl, rfl, rfl, rfl⟩

end MemoryLog

end ChangeFeed
