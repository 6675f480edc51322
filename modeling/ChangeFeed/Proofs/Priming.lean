/-
# Starting from a snapshot

A log keeps a revision table beside its entries, and by other rules than a watcher: an update or a
removal overwrites what the table has, where a watcher would first ask whether it is news. The two
come to the same as long as revision numbers move forward, and they do, except where a document is
removed that has none left. So a snapshot says what the whole history would have said, truncated
entries included.

A watcher that starts from a snapshot and one that reads everything then know the same. An unused
subscription from before the first event shows both: pending are the documents under its key that are
known.
-/

import ChangeFeed.Proofs.Independence
import ChangeFeed.Proofs.Retention

namespace ChangeFeed

theorem Revno.lt_afterRemoval {revno : Revno} (below : revno ≠ Int64.maxValue) :
    revno < revno.afterRemoval := by
  have next : revno.next? = some (revno + 1) := if_neg below
  rw [afterRemoval, next]
  exact lt_of_next? next

/-! ## Tables as lists of changes -/

namespace Revisions

variable {known table : Revisions} {change : Change} {changes : List Change} {document : Document}

/-- The table has the same of every document that is known. -/
def IsPartOf (known table : Revisions) : Prop :=
  ∀ document ∈ known, known[document]? = table[document]?

theorem IsPartOf.observe (part : known.IsPartOf table) (listed : change ∈ table.toChanges) :
    (known.observe change).IsPartOf table := by
  intro document member
  by_cases replaced : change.document = document ∧ known.isNews change = true
  · rw [getElem?_observe, if_pos replaced, ← replaced.1]
    exact (mem_toChanges_iff.mp listed).symm
  · rw [Std.ExtTreeMap.mem_iff_isSome_getElem?, getElem?_observe, if_neg replaced,
      ← Std.ExtTreeMap.mem_iff_isSome_getElem?] at member
    rw [getElem?_observe, if_neg replaced]
    exact part document member

theorem IsPartOf.observeAll (part : known.IsPartOf table)
    (listed : ∀ change ∈ changes, change ∈ table.toChanges) :
    (known.observeAll changes).IsPartOf table := by
  induction changes generalizing known with
  | nil => exact part
  | cons change rest ih =>
    obtain ⟨now, later⟩ := List.forall_mem_cons.mp listed
    exact ih (part.observe now) later

/-- **A table that is written out and read again is the same table.** -/
theorem observeAll_toChanges (table : Revisions) : observeAll ∅ table.toChanges = table := by
  have nothing : IsPartOf ∅ table := fun document member => absurd member Std.ExtTreeMap.not_mem_empty
  have part := nothing.observeAll fun change (listed : change ∈ table.toChanges) => listed
  apply Std.ExtTreeMap.ext_getElem?
  intro document
  by_cases member : document ∈ observeAll ∅ table.toChanges
  · exact part document member
  · cases held : table[document]? with
    | none =>
      rw [Std.ExtTreeMap.mem_iff_isSome_getElem?] at member
      simpa using member
    | some revision =>
      have listed : (⟨document, revision.revno, revision.removed⟩ : Change) ∈ table.toChanges :=
        mem_toChanges_iff.mpr held
      exact absurd (knows_observeAll_of_mem ∅ listed).mem member

theorem documents_toChanges (table : Revisions) :
    table.toChanges.map (·.document) = table.documents := by
  rw [toChanges, List.map_map, documents, ← Std.ExtTreeMap.map_fst_toList_eq_keys]
  rfl

/-- What is known after changes is what was known before and what they brought news of. -/
theorem mem_observeAll_iff :
    document ∈ known.observeAll changes ↔ document ∈ known ∨ document ∈ known.newsIn changes := by
  constructor
  · intro member
    by_cases before : document ∈ known
    · exact Or.inl before
    · have unknown := mt mem_iff_knows.mpr before
      exact Or.inr (mem_newsIn_of_learned unknown (mem_iff_knows.mp member))
  · rintro (before | news)
    · exact mem_observeAll before changes
    · exact mem_of_mem_newsIn news

end Revisions

/-! ## What a log tells of its history -/

namespace MemoryLog

variable {log : MemoryLog} {history : List Change}

/-- The edit does not fail the next snapshot, and removes no document that has used up its revision
numbers. -/
def Edit.IsRegular (log : MemoryLog) : Edit → Prop
  | .remove document => log.revisions[document]? ≠ some ⟨Int64.maxValue, false⟩
  | .failNextSnapshot _ => False
  | .upsert _ | .append _ | .truncate _ | .invalidateCursors | .failNextOpen _ | .failNextRead _ => True

instance (log : MemoryLog) (edit : Edit) : Decidable (edit.IsRegular log) :=
  match edit with
  | .remove _ => instDecidableNot
  | .failNextSnapshot _ => instDecidableFalse
  | .upsert _ | .append _ | .truncate _ | .invalidateCursors | .failNextOpen _ | .failNextRead _ =>
    instDecidableTrue

/-- Every edit is regular at its moment. -/
abbrev AllowsRegular (log : MemoryLog) (edits : List Edit) : Prop :=
  Run.Allows MemoryLog.edit (fun log edit => edit.IsRegular log) log edits

/-- What an edit puts into the revision table is news to it. -/
theorem revisions_edit {edit : Edit} (regular : edit.IsRegular log) :
    (log.edit edit).revisions = log.revisions.observeAll (log.committedBy? edit).toList := by
  cases edit with
  | upsert document =>
    simp only [MemoryLog.edit, upsert?, committedBy?]
    cases found : log.updateRevno? document with
    | none => rfl
    | some revno =>
      have news : log.revisions.isNews (.update document revno) = true := by
        unfold updateRevno? at found
        unfold Revisions.isNews Change.update
        cases held : log.revisions[document]? with
        | none => rfl
        | some revision =>
          rw [held] at found
          exact decide_eq_true (Revno.lt_of_next? found)
      exact (Revisions.observe_of_isNews news).symm
  | remove document =>
    simp only [MemoryLog.edit, MemoryLog.remove, committedBy?]
    rcases held : log.revisions[document]? with _ | ⟨revno, _ | _⟩
    · rfl
    · have below : revno ≠ Int64.maxValue := by
        rintro rfl
        exact regular held
      have news : log.revisions.isNews (.removal document revno) = true := by
        unfold Revisions.isNews Change.removal
        rw [held]
        exact decide_eq_true (Revno.lt_afterRemoval below)
      exact (Revisions.observe_of_isNews news).symm
    · rfl
  | append _ | truncate _ | invalidateCursors | failNextOpen _ | failNextRead _ => rfl
  | failNextSnapshot _ => exact regular.elim

theorem snapshotFaults_edit {edit : Edit} (regular : edit.IsRegular log) :
    (log.edit edit).snapshotFaults = log.snapshotFaults := by
  cases edit with
  | upsert document =>
    simp only [MemoryLog.edit, upsert?]
    cases log.updateRevno? document <;> rfl
  | remove document =>
    simp only [MemoryLog.edit, MemoryLog.remove]
    split <;> rfl
  | append _ | truncate _ | invalidateCursors | failNextOpen _ | failNextRead _ => rfl
  | failNextSnapshot _ => exact regular.elim

/-- The log gives snapshots, and its revision table is what the history has taught. -/
structure Accounts (log : MemoryLog) (history : List Change) : Prop where
  revisions_eq : log.revisions = Revisions.observeAll ∅ history
  supportsSnapshots : log.supportsSnapshots = true
  snapshotFaults : log.snapshotFaults = []

theorem accounts_empty : (empty true).Accounts [] :=
  ⟨rfl, rfl, rfl⟩

theorem Accounts.edit (accounts : log.Accounts history) {edit : Edit} (regular : edit.IsRegular log) :
    (log.edit edit).Accounts (history ++ (log.committedBy? edit).toList) where
  revisions_eq := by
    rw [revisions_edit regular, accounts.revisions_eq, Revisions.observeAll_append]
  supportsSnapshots := (log.supportsSnapshots_edit edit).trans accounts.supportsSnapshots
  snapshotFaults := (snapshotFaults_edit regular).trans accounts.snapshotFaults

/-- **The revision table keeps account of the history** through all regular edits. -/
theorem Accounts.editAll {edits : List Edit} (accounts : log.Accounts history)
    (regular : log.AllowsRegular edits) : (log.editAll edits).Accounts (history ++ log.committedBy edits) := by
  induction edits generalizing log history with
  | nil =>
    rw [committedBy, List.append_nil]
    exact accounts
  | cons edit rest ih =>
    have later := ih (accounts.edit regular.1) regular.2
    rwa [List.append_assoc] at later

theorem Accounts.takeSnapshot (accounts : log.Accounts history) :
    log.takeSnapshot = (.ok (some ⟨log.revisions.toChanges, some log.lastPosition⟩), log) :=
  takeSnapshot_of_supports accounts.supportsSnapshots accounts.snapshotFaults

/-! ## What lies beyond a position -/

theorem changes_numberedFrom (start : Position) (changes : List Change) :
    (numberedFrom start changes).map (·.change) = changes := by
  induction changes generalizing start with
  | nil => rfl
  | cons change rest ih => rw [numberedFrom, List.map_cons, ih]

/-- A log that nobody truncates holds its whole history. -/
theorem entries_of_untruncated {supportsSnapshots : Bool} {edits : List Edit}
    (whole : ∀ edit ∈ edits, ∀ through, edit ≠ .truncate through) :
    ((empty supportsSnapshots).editAll edits).entries =
      numberedFrom 0 ((empty supportsSnapshots).committedBy edits) := by
  have cut : ∀ log : MemoryLog, (log.editAll edits).cut = log.cut := by
    induction edits with
    | nil => exact fun _ => rfl
    | cons edit rest ih =>
      obtain ⟨now, later⟩ := List.forall_mem_cons.mp whole
      exact fun log => (ih later (log.edit edit)).trans (cut_edit now)
  have retains := (retains_empty supportsSnapshots).editAll edits
  have horizon : ((empty supportsSnapshots).editAll edits).horizon = 0 := by
    rw [MemoryLog.horizon, cut]
    rfl
  have base : ((empty supportsSnapshots).editAll edits).base = 0 :=
    Nat.le_zero.mp (horizon ▸ retains.base_le)
  rw [retains.entries_eq, base]
  rfl

/-- Of numbered changes, those beyond the first ones are the others. -/
theorem filter_numberedFrom_append (first second : List Change) :
    (numberedFrom 0 (first ++ second)).filter (fun entry => decide (first.length < entry.position)) =
      numberedFrom first.length second := by
  rw [numberedFrom_append, List.filter_append, Nat.zero_add]
  have early : (numberedFrom 0 first).filter (fun entry => decide (first.length < entry.position)) = [] := by
    apply List.filter_eq_nil_iff.mpr
    intro entry member later
    have listed := List.mem_map_of_mem (f := (·.position)) member
    rw [positions_numberedFrom, List.mem_range'_1] at listed
    have later := of_decide_eq_true later
    lia
  have late : (numberedFrom first.length second).filter
      (fun entry => decide (first.length < entry.position)) = numberedFrom first.length second := by
    apply List.filter_eq_self.mpr
    intro entry member
    exact decide_eq_true (lt_of_mem_numberedFrom member)
  rw [early, late, List.nil_append]

end MemoryLog

/-! ## Subscriptions that nobody uses -/

namespace Solo

variable {solo : Solo} {key : WatchKey} {taught : List Change} {event : Event}

/-- The solo knows what it was taught, and all of it that lies under the key is pending. -/
structure Gathers (key : WatchKey) (taught : List Change) (solo : Solo) : Prop where
  key_eq : solo.subscription.key = key
  knownState_eq : solo.knownState = KnownState.observeAll {} taught
  running : solo.hasEnded = false
  isOpen : solo.subscription.mailbox.closed = none
  pending : ∀ text, text ∈ solo.subscription.mailbox.pending ↔
    ∃ document, key.covers document = true ∧ document.id = text ∧ document ∈ solo.known

/-- Where nothing is known nothing is due. -/
theorem gathers_start (strategy : Strategy) (key : WatchKey) (since : Option Revno) :
    (start strategy {} key since).Gathers key [] where
  key_eq := rfl
  knownState_eq := rfl
  running := rfl
  isOpen := Mailbox.closed_markAll _ _
  pending text := by
    have nothing : ∀ listed, listed ∉ KnownState.catchUp {} key since := by
      intro listed due
      obtain ⟨document, revision, held, -⟩ := KnownState.mem_catchUp_iff.mp due
      simp [KnownState.revisions_empty] at held
    have unknown : (start strategy {} key since).known = ∅ := KnownState.revisions_empty
    rw [unknown]
    refine (Mailbox.mem_pending_markAll rfl).trans ?_
    simp [nothing]

/-- An ordinary event is gathered. -/
theorem Gathers.told (gathers : solo.Gathers key taught) (ordinary : event.isOrdinary = true) :
    (solo.see (.told event)).Gathers key (taught ++ event.changes) := by
  have goesOn : solo.see (.told event) = solo.receive event := if_neg (by simp [gathers.running])
  rw [goesOn]
  by_cases isAboutLog : event.isAboutLog = true
  · have marks : ∀ text, text ∈ solo.marksOf event ↔ ∃ document, key.covers document = true ∧
        document.id = text ∧ document ∈ solo.known.newsIn event.changes := by
      intro text
      cases event with
      | primed _ | batch _ => exact gathers.key_eq ▸ mem_newsUnder_iff
      | discontinuity _ | fatal _ => cases ordinary
      | cycleComplete _ | cycleAborted _ _ => cases isAboutLog
    have learned := solo.receive_known isAboutLog
    rw [receive_eq isAboutLog] at learned ⊢
    refine ⟨gathers.key_eq, ?_, gathers.running, ?_, ?_⟩
    · rw [KnownState.observeAll_append, ← gathers.knownState_eq]
      rfl
    · exact (Mailbox.closed_markAll _ _).trans gathers.isOpen
    · intro text
      apply (Mailbox.mem_pending_markAll gathers.isOpen).trans
      rw [marks, gathers.pending, ← exists_or]
      apply exists_congr
      intro document
      rw [learned, Revisions.mem_observeAll_iff, ← and_or_left, ← and_or_left, or_comm]
  · -- The end of a cycle teaches nothing.
    cases event with
    | primed _ | batch _ | discontinuity _ => exact absurd rfl isAboutLog
    | fatal _ => cases ordinary
    | cycleComplete _ | cycleAborted _ _ =>
      rw [Event.changes, List.append_nil]
      exact gathers

/-- **An unused subscription gathers whatever it is told of.** -/
theorem Gathers.run {events : List Event} (gathers : solo.Gathers key taught)
    (ordinary : ∀ event ∈ events, event.isOrdinary = true) :
    (solo.run (events.map .told)).Gathers key (taught ++ Event.told events) := by
  induction events generalizing solo taught with
  | nil =>
    rw [Event.told, List.flatMap_nil, List.append_nil]
    exact gathers
  | cons event rest ih =>
    obtain ⟨now, later⟩ := List.forall_mem_cons.mp ordinary
    have gathered := ih (gathers.told now) later
    rwa [List.append_assoc, ← Event.told_cons] at gathered

end Solo

namespace Watcher

variable {watcher : Watcher} {id : SubscriptionId} {key : WatchKey} {events : List Event}

/-- The watcher has a subscription to the key that was opened before the first event. Since then nobody
has used it, and these are the events that it has seen, whatever others have done. -/
def HasBeenTold (watcher : Watcher) (id : SubscriptionId) (key : WatchKey) (events : List Event) : Prop :=
  ∃ strategy before since after,
    before.filterMap (·.event?) = [] ∧
      (((start strategy).run before).watch key since).1 = .ok id ∧
      after.filterMap (·.seenBy id) = events.map .told ∧
      (((start strategy).run before).watch key since).2.run after = watcher

/-- **What is known is what was told, and what is pending is what is known under the key.** -/
theorem HasBeenTold.gathers (told : watcher.HasBeenTold id key events)
    (ordinary : ∀ event ∈ events, event.isOrdinary = true) :
    watcher.knownState = KnownState.observeAll {} (Event.told events) ∧
      ∀ text, text ∈ (watcher.changes id).1 ↔
        ∃ document, key.covers document = true ∧ document.id = text ∧ document ∈ watcher.known := by
  obtain ⟨strategy, before, since, after, silent, opened, seen, rfl⟩ := told
  have mirrors := mirrors_watch ((isTidy_start strategy).run before) opened
  rw [knownState_of_opened opened, silent, strategy_run] at mirrors
  have later := mirrors.run after
  have gathers := (Solo.gathers_start strategy key since).run ordinary
  rw [seen] at later
  have taken : ∀ watcher : Watcher, ∀ subscription, watcher.subscriptions[id]? = some subscription →
      (watcher.changes id).1 = subscription.mailbox.pending := by
    intro watcher subscription present
    simp only [changes, present]
    rfl
  refine ⟨later.knownState.symm.trans gathers.knownState_eq, fun text => ?_⟩
  rw [taken _ _ later.present, ← later.known]
  exact gathers.pending text

end Watcher

/-- **Priming agrees with replay.** On a log with snapshots let no document be removed that has used up
its revision numbers. A snapshot then shows each document ever committed once. To observe it is to
observe the whole history, truncated or not, and it stands for the head of the log. So on a log that
nobody truncates a watcher may be primed at any moment: told of the snapshot and then of the entries
beyond it, it knows what it would know if it had been told of all entries, and for a subscription from
before the first event, as long as it is not used, the same is pending. -/
theorem MemoryLog.priming_agrees_with_replay (edits : List Edit)
    (regular : (empty true).AllowsRegular edits) :
    let log := (empty true).editAll edits
    let history := (empty true).committedBy edits
    ∃ snapshot, log.takeSnapshot = (.ok (some snapshot), log) ∧
      (snapshot.changes.map (·.document)).Nodup ∧
      (∀ document, document ∈ snapshot.changes.map (·.document) ↔
        document ∈ history.map (·.document)) ∧
      KnownState.observeAll {} snapshot.changes = KnownState.observeAll {} history ∧
      snapshot.position = some log.lastPosition ∧ log.lastPosition = history.length ∧
      ∀ later : List Edit, (∀ edit ∈ edits ++ later, ∀ through, edit ≠ .truncate through) →
        let entries := (log.editAll later).entries
        let newer := entries.filter fun entry => log.lastPosition < entry.position
        ∀ (key : WatchKey) (primed replayed : Watcher) (id otherId : SubscriptionId)
            (batches otherBatches : List Event),
          (∀ event ∈ batches ++ otherBatches, event.isOrdinary = true) →
          Event.told batches = newer.map (·.change) →
          Event.told otherBatches = entries.map (·.change) →
          primed.HasBeenTold id key (.primed snapshot.changes :: batches) →
          replayed.HasBeenTold otherId key otherBatches →
          primed.knownState = replayed.knownState ∧
            (primed.changes id).1 = (replayed.changes otherId).1 := by
  intro log history
  have accounts : log.Accounts history := accounts_empty.editAll regular
  have retains : log.Retains history := (retains_empty true).editAll edits
  have same : KnownState.observeAll {} log.revisions.toChanges = KnownState.observeAll {} history :=
    KnownState.observeAll_empty_congr
      ((Revisions.observeAll_toChanges _).trans accounts.revisions_eq)
  refine ⟨_, accounts.takeSnapshot, ?_, ?_, same, rfl, retains.lastPosition_eq, ?_⟩
  · rw [Revisions.documents_toChanges]
    exact Std.ExtTreeMap.nodup_keys
  · intro document
    rw [Revisions.documents_toChanges, Revisions.documents, Std.ExtTreeMap.mem_keys,
      accounts.revisions_eq, List.mem_map]
    constructor
    · intro member
      exact (Revisions.exists_of_mem_observeAll member).resolve_left Std.ExtTreeMap.not_mem_empty
    · rintro ⟨change, listed, rfl⟩
      exact (Revisions.knows_observeAll_of_mem ∅ listed).mem
  · intro later whole entries newer key primed replayed id otherId batches otherBatches ordinary
      newerTold allTold primedTold replayedTold
    have held : entries = numberedFrom 0 (history ++ log.committedBy later) := by
      have held : ((empty true).editAll (edits ++ later)).entries = _ := entries_of_untruncated whole
      rwa [editAll_append, committedBy_append] at held
    have newerHeld : newer = numberedFrom history.length (log.committedBy later) := by
      simp only [newer, held, retains.lastPosition_eq]
      exact filter_numberedFrom_append history _
    obtain ⟨ordinaryBatches, ordinaryOthers⟩ := List.forall_mem_append.mp ordinary
    obtain ⟨primedKnown, primedPending⟩ :=
      primedTold.gathers (List.forall_mem_cons.mpr ⟨rfl, ordinaryBatches⟩)
    obtain ⟨replayedKnown, replayedPending⟩ := replayedTold.gathers ordinaryOthers
    have sameKnown : primed.knownState = replayed.knownState := by
      rw [primedKnown, replayedKnown, Event.told_cons, newerTold, allTold, newerHeld, held,
        changes_numberedFrom, changes_numberedFrom, KnownState.observeAll_append,
        KnownState.observeAll_append]
      exact congrArg (fun known : KnownState => known.observeAll (log.committedBy later)) same
    refine ⟨sameKnown, Std.ExtTreeSet.ext_mem fun text => ?_⟩
    rw [primedPending, replayedPending, Watcher.known, sameKnown]
    rfl

/-- A removed pear and a replayed apple make no difference. -/
theorem MemoryLog.fruit_primed_as_replayed :
    let apple : Document := ⟨"fruit", "apple"⟩
    let pear : Document := ⟨"fruit", "pear"⟩
    let edits : List Edit := [.upsert apple, .upsert pear, .remove pear]
    let later : List Edit := [.append ⟨apple, 1, true⟩, .upsert pear]
    let log := (empty true).editAll edits
    let opened := ((Watcher.start .snapshot).watch (.collection "fruit") none).2
    let replayed := opened.run
      [.handled (.batch ((log.editAll later).entries.map (·.change))), .asked (.watch (.entity apple) none)]
    (empty true).AllowsRegular edits ∧
      ∃ snapshot, log.takeSnapshot = (.ok (some snapshot), log) ∧
        let primed := opened.run [.handled (.primed snapshot.changes),
          .handled (.batch [⟨apple, 1, true⟩]), .handled (.batch [.update pear 3])]
        primed.knownState = replayed.knownState ∧
          (primed.changes 1).1 = (replayed.changes 1).1 := by
  intro apple pear edits later log opened replayed
  have regular : (empty true).AllowsRegular edits := by decide
  obtain ⟨snapshot, taken, -, -, -, -, -, agrees⟩ := priming_agrees_with_replay edits regular
  refine ⟨regular, snapshot, taken, ?_⟩
  have whole : ∀ edit ∈ edits ++ later, ∀ through, edit ≠ .truncate through := by
    simp [edits, later]
  apply agrees later whole (.collection "fruit") _ _ 1 1
    [.batch [⟨apple, 1, true⟩], .batch [.update pear 3]]
    [.batch ((log.editAll later).entries.map (·.change))]
  · decide
  · decide
  · decide
  · exact ⟨.snapshot, [], none, _, rfl, rfl, rfl, rfl⟩
  · exact ⟨.snapshot, [], none, _, rfl, rfl, rfl, rfl⟩

end ChangeFeed
