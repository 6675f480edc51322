/-
# No change is missed

On a log with snapshots, a change that is committed while the reader has a place is marked for every
subscription to it before the watcher comes to the end of any cycle that was begun since. It does not
matter which way the change takes: it may come in a batch, again in a second batch, in a snapshot
after a truncation, or not at all because something newer was heard of first. Whichever event gives
the watcher its first knowledge of the change is the event that marks it, and by the end of the cycle
the watcher knows it.

The change has to be news to the log, for a replay is not marked again.
-/

import ChangeFeed.Proofs.Coverage

namespace ChangeFeed

namespace System

/-- A run within the head leads from a new system to this one. -/
def IsReachable (supportsSnapshots : Bool) (system : System) : Prop :=
  ∃ settings strategy actions, Allows IsWithin (start settings strategy supportsSnapshots) actions ∧
    (start settings strategy supportsSnapshots).run actions = system

/-- The next event that the watcher handles marks the document for the subscription, and the mark is
pending afterwards. -/
def Marks (system : System) (id : SubscriptionId) (document : String) : Prop :=
  system.watcher.hasEnded = false ∧
    (∃ event rest, system.poller.outbox = event :: rest ∧
      (id, document) ∈ system.watcher.marksOf event) ∧
    ∃ subscription, (system.act .receive).watcher.subscriptions[id]? = some subscription ∧
      document ∈ subscription.mailbox.pending

/-- The poller is about to begin the cycle with this number. -/
def Begins (system : System) (seq : Nat) : Prop :=
  system.stage = .resting .idle ∧ system.watcher.polls.waiting = some seq

/-- A system that has been reached is sound, and its log gives snapshots if it was made so. -/
theorem IsReachable.isSound {supportsSnapshots : Bool} {system : System}
    (reachable : system.IsReachable supportsSnapshots) :
    system.IsSound ∧ system.log.supportsSnapshots = supportsSnapshots := by
  obtain ⟨settings, strategy, actions, within, rfl⟩ := reachable
  refine Run.induction
    (fun system => system.IsSound ∧ system.log.supportsSnapshots = supportsSnapshots) ?_ within
    ⟨isSound_start _ _ _, rfl⟩
  rintro system action within ⟨sound, same⟩
  exact ⟨sound.act within, (supportsSnapshots_act sound action).trans same⟩

variable {system : System} {action : Action} {actions : List Action} {change : Change}
  {id : SubscriptionId} {key : WatchKey}

/-! ## Subscriptions along a run -/

theorem running_of_run (running : (system.run actions).watcher.hasEnded = false) :
    system.watcher.hasEnded = false := by
  induction actions generalizing system with
  | nil => exact running
  | cons action rest ih => exact running_of_act (ih running)

/-- Whatever happens, a watcher that still runs has kept what it owes its subscribers. -/
theorem IsSound.continues (sound : system.IsSound) (action : Action)
    (running : (system.act action).watcher.hasEnded = false) :
    Watcher.Continues system.watcher (system.act action).watcher := by
  have orderly := sound.orderly (running_of_act running)
  rcases act_watcher_cases system action with same | same | ⟨event, _, _, _, same⟩ | ⟨input, -, same⟩
  · rw [same]
    exact orderly.continues rfl rfl rfl rfl
  · rw [same]
    exact orderly.continues rfl rfl rfl rfl
  · rw [same] at running ⊢
    exact orderly.receive event running
  · rw [same] at running ⊢
    exact orderly.take input running

theorem hasStopped_run (sound : system.IsSound) (within : Allows IsWithin system actions)
    (running : (system.run actions).watcher.hasEnded = false) (stopped : system.watcher.HasStopped id) :
    (system.run actions).watcher.HasStopped id := by
  induction actions generalizing system with
  | nil => exact stopped
  | cons action rest ih =>
    have continues := sound.continues action (running_of_run running)
    exact ih (sound.act within.1) within.2 running (continues.stopped id stopped)

/-- Whoever is registered remains so until the subscription is stopped. -/
theorem registered_run (sound : system.IsSound) (within : Allows IsWithin system actions)
    (running : (system.run actions).watcher.hasEnded = false)
    (registered : system.watcher.registry.keys[id]? = some key) :
    (system.run actions).watcher.registry.keys[id]? = some key ∨
      (system.run actions).watcher.HasStopped id := by
  induction actions generalizing system with
  | nil => exact Or.inl registered
  | cons action rest ih =>
    have continues := sound.continues action (running_of_run running)
    rcases continues.registered id key registered with still | stopped
    · exact ih (sound.act within.1) within.2 running still
    · have still : ((system.act action).run rest).watcher.HasStopped id :=
        hasStopped_run (sound.act within.1) within.2 running stopped
      exact Or.inr still

/-! ## First knowledge -/

/-- Only an event can teach the watcher something. -/
theorem eq_receive_of_learned (unknown : ¬ system.watcher.known.Knows change)
    (learned : (system.act action).watcher.known.Knows change) : action = .receive := by
  rcases act_watcher_cases system action with same | same | ⟨_, _, received, _, _⟩ | ⟨input, -, same⟩
  · exact absurd (same ▸ learned) unknown
  · rw [same] at learned
    exact absurd learned unknown
  · exact received
  · rw [same, system.watcher.known_take input] at learned
    exact absurd learned unknown

/-- What becomes known in a run becomes known by one event. -/
theorem exists_receive_of_learned (unknown : ¬ system.watcher.known.Knows change)
    (learned : (system.run actions).watcher.known.Knows change) :
    ∃ earlier later, actions = earlier ++ .receive :: later ∧
      ¬ (system.run earlier).watcher.known.Knows change ∧
      ((system.run earlier).act .receive).watcher.known.Knows change := by
  induction actions generalizing system with
  | nil => exact absurd learned unknown
  | cons action rest ih =>
    by_cases soon : (system.act action).watcher.known.Knows change
    · have received := eq_receive_of_learned unknown soon
      subst received
      exact ⟨[], rest, rfl, unknown, soon⟩
    · obtain ⟨earlier, later, rfl, before, after⟩ := ih soon learned
      exact ⟨action :: earlier, later, rfl, before, after⟩

/-- An event that marks a document for a registered subscription leaves the mark pending, if the
subscription has not been stopped. -/
theorem marks_of_mem_marksOf (sound : system.IsSound) (running : system.watcher.hasEnded = false)
    (registered : system.watcher.registry.keys[id]? = some key)
    (serving : ¬ system.watcher.HasStopped id) {event : Event} {rest : List Event} {text : String}
    (sent : system.poller.outbox = event :: rest) (marked : (id, text) ∈ system.watcher.marksOf event) :
    system.Marks id text := by
  have received : (system.act .receive).watcher = system.watcher.receive event := by
    simp [act, sent]
  have orderly := sound.orderly running
  obtain ⟨subscription, present⟩ := Option.isSome_iff_exists.mp (orderly.present id key registered)
  have live : subscription.stopped = false := by
    cases stopped : subscription.stopped with
    | false => rfl
    | true => exact absurd ⟨subscription, present, stopped⟩ serving
  have isOpen := orderly.isOpen id subscription present live
  have isAboutLog : event.isAboutLog = true := by
    cases event with
    | primed _ | batch _ | discontinuity _ => rfl
    | cycleComplete _ | cycleAborted _ _ | fatal _ => cases marked
  obtain ⟨metrics, taken⟩ := Watcher.receive_eq running event isAboutLog
  refine ⟨running, ⟨event, rest, sent, marked⟩, ?_⟩
  have listed := Subscriptions.mem_marksIn_iff.mpr marked
  have after := Subscriptions.getElem?_markEach system.watcher.subscriptions
    (system.watcher.marksOf event) id
  rw [present, Option.map_some] at after
  rw [received, taken]
  exact ⟨_, after, (Mailbox.mem_pending_markAll isOpen).mpr (Or.inl listed)⟩

/-- **The event that gives the first knowledge of a change marks it** for every registered
subscription to it that has not been stopped. -/
theorem marks_of_learned (sound : system.IsSound) (running : system.watcher.hasEnded = false)
    (registered : system.watcher.registry.keys[id]? = some key)
    (serving : ¬ system.watcher.HasStopped id) (covers : key.covers change.document = true)
    (unknown : ¬ system.watcher.known.Knows change)
    (learned : (system.act .receive).watcher.known.Knows change) :
    system.Marks id change.document.id := by
  rcases act_receive_cases system with ⟨-, same⟩ | ⟨event, rest, sent, -, received⟩
  · rw [same] at learned
    exact absurd learned unknown
  · have orderly := sound.orderly running
    rw [received] at learned
    have taught : (system.watcher.known.observeAll event.changes).Knows change :=
      Watcher.receive_known running event ▸ learned
    have marked : (id, change.document.id) ∈ system.watcher.marksOf event :=
      Watcher.mem_marksOf_of_learned unknown taught (orderly.indexed.mem_matching registered covers)
    exact marks_of_mem_marksOf sound running registered serving sent marked

/-! ## Committed news -/

/-- A change that is news to the log is news to the watcher. -/
theorem IsSound.not_knows (sound : system.IsSound)
    (newest : ∀ earlier ∈ system.history, earlier.document = change.document →
      earlier.revno < change.revno) : ¬ system.watcher.known.Knows change := by
  intro knows
  obtain ⟨earlier, member, same, reached⟩ := sound.known change knows
  exact Int64.not_lt.mpr reached (newest earlier member same)

/-- A change that is committed while the reader has a place is guarded from then on. -/
theorem guarded_edit (sound : system.IsSound) (holds : system.HoldsPlace) {edit : MemoryLog.Edit}
    (within : edit.IsWithin system.log) (commits : system.log.committedBy? edit = some change) :
    let base := system.history.length
    let after := system.act (.edit edit)
    after.IsGuarded base 0 [] ∧ after.HoldsPlace ∧
      change ∈ between after.history base after.history.length := by
  intro base after
  have grown : after.history = system.history ++ [change] := by
    show system.history ++ (system.log.committedBy? edit).toList = _
    rw [commits]
    rfl
  refine ⟨⟨sound.edit within, ?_, ?_, ?_⟩, holds.act sound _, ?_⟩
  · -- The reader has claimed nothing beyond the end of the old history.
    intro _ other member
    obtain ⟨index, beyond, inside, -⟩ := mem_between_iff.mp member
    obtain ⟨position, claimed⟩ := Option.isSome_iff_exists.mp
      (sound.claimed_isSome.trans holds.2)
    have reached := sound.claimed_le claimed
    change index < (system.claimed.getD Position.origin) at inside
    rw [claimed] at inside
    exact absurd inside (Nat.not_lt_of_le (Nat.le_trans reached beyond))
  · intro _ _ _ _ _ _ other member
    cases member
  · intro other member
    cases member
  · rw [grown]
    refine mem_between_iff.mpr ⟨base, Nat.le_refl _, ?_, List.getElem?_concat_length⟩
    rw [List.length_append]
    exact Nat.lt_succ_self _

/-- A cycle that is begun now has what was committed before in front of its end. -/
theorem guarded_beginCycle {base : Position} (guarded : system.IsGuarded base 0 [])
    (holds : system.HoldsPlace) (committed : change ∈ between system.history base system.history.length)
    {seq : Nat} (begins : system.Begins seq) :
    (system.act .beginCycle).IsGuarded base seq [change] := by
  have later : (system.act .beginCycle).IsGuarded base 0 [] := guarded.act trivial (Or.inr holds)
  refine ⟨later.sound, later.covers, ?_, ?_⟩
  · -- Whatever is in the queue now was issued before the poll that is taken.
    intro _ earlier other rest split enough
    have member : Event.cycleComplete other ∈ system.queue := by
      have same : (system.act .beginCycle).queue = system.queue := by
        rcases act_beginCycle_cases system with same | ⟨_, idle, _, begun⟩
        · rw [same]
        · rw [begun, queue, queue, idle]
          rfl
      rw [← same, split]
      exact List.mem_append_right _ List.mem_cons_self
    have older := (guarded.sound.inOrder.waiting seq begins.2).2 other (Or.inl member)
    exact absurd older (Nat.not_lt_of_le enough)
  · intro other member
    rw [List.mem_singleton.mp member]
    exact mem_beyond_act committed .beginCycle

/-- **No committed news is missed.** On a log with snapshots let a change be committed that is newer
than every earlier one of its document, at a moment when the reader has a committed position and a
subscription to the document is registered. When the watcher comes to the end of a cycle that was
begun since, and the subscription has not been stopped, one of the events handled since has marked
the document for it. -/
theorem committed_news_is_marked {edit : MemoryLog.Edit} {wait after : List Action} {seq : Nat}
    {rest : List Event} (reachable : system.IsReachable true)
    (within : Allows IsWithin system (.edit edit :: (wait ++ .beginCycle :: after)))
    (hasPlace : system.poller.reader.committed.isSome = true)
    (commits : system.log.committedBy? edit = some change)
    (newest : ∀ earlier ∈ system.history, earlier.document = change.document →
      earlier.revno < change.revno)
    (registered : system.watcher.registry.keys[id]? = some key)
    (covers : key.covers change.document = true)
    (begins : ((system.act (.edit edit)).run wait).Begins seq)
    (ends : (system.run (.edit edit :: (wait ++ .beginCycle :: after))).poller.outbox =
      .cycleComplete seq :: rest)
    (running : (system.run (.edit edit :: (wait ++ .beginCycle :: after))).watcher.hasEnded = false)
    (serving : ¬ (system.run (.edit edit :: (wait ++ .beginCycle :: after))).watcher.HasStopped id) :
    ∃ earlier later, wait ++ .beginCycle :: after = earlier ++ .receive :: later ∧
      ((system.act (.edit edit)).run earlier).Marks id change.document.id := by
  obtain ⟨sound, supports⟩ := reachable.isSound
  obtain ⟨withinEdit, withinLater⟩ := within
  obtain ⟨withinWait, -, withinAfter⟩ := Run.allows_append_iff.mp withinLater
  obtain ⟨guarded, holds, committed⟩ :=
    guarded_edit sound ⟨supports, hasPlace⟩ withinEdit commits
  let base := system.history.length
  -- Until the cycle begins the change is kept beyond the base.
  have waited := Run.induction
    (fun later => later.IsGuarded base 0 [] ∧ later.HoldsPlace ∧
      change ∈ between later.history base later.history.length)
    (fun _ action within ⟨guarded, holds, committed⟩ =>
      ⟨guarded.act within (Or.inr holds), holds.act guarded.sound action,
        mem_beyond_act committed action⟩)
    withinWait ⟨guarded, holds, committed⟩
  -- From then on it is in front of the end of the cycle.
  have awaited := Run.induction
    (fun later => later.IsGuarded base seq [change] ∧ later.HoldsPlace)
    (fun _ action within ⟨guarded, holds⟩ =>
      ⟨guarded.act within (Or.inr holds), holds.act guarded.sound action⟩)
    withinAfter
    ⟨guarded_beginCycle waited.1 waited.2.1 waited.2.2 begins,
      waited.2.1.act waited.1.sound .beginCycle⟩
  have run_eq : system.run (.edit edit :: (wait ++ .beginCycle :: after)) =
      ((((system.act (.edit edit)).run wait).act .beginCycle).run after) := by
    rw [run_cons, run_append, run_cons]
  rw [run_eq] at ends running serving
  have learned : ((system.act (.edit edit)).run
      (wait ++ .beginCycle :: after)).watcher.known.Knows change := by
    rw [run_append, run_cons]
    exact awaited.1.knows running ends (Nat.le_refl seq) (List.mem_singleton.mpr rfl)
  have unknown : ¬ (system.act (.edit edit)).watcher.known.Knows change := sound.not_knows newest
  obtain ⟨earlier, later, split, before, soon⟩ := exists_receive_of_learned unknown learned
  refine ⟨earlier, later, split, ?_⟩
  rw [← run_cons, ← run_append, split, run_append, run_cons] at running serving
  obtain ⟨withinEarlier, -, withinRest⟩ := Run.allows_append_iff.mp (split ▸ withinLater)
  have soundEarlier : ((system.act (.edit edit)).run earlier).IsSound :=
    (sound.edit withinEdit).run withinEarlier
  have runningEarlier := running_of_act (running_of_run running)
  have stays : ¬ ((system.act (.edit edit)).run earlier).watcher.HasStopped id := by
    intro stopped
    have continues := soundEarlier.continues .receive (running_of_run running)
    exact serving (hasStopped_run (soundEarlier.act trivial) withinRest running
      (continues.stopped id stopped))
  have continues := registered_run (sound.edit withinEdit) withinEarlier runningEarlier registered
  exact marks_of_learned soundEarlier runningEarlier (continues.resolve_right stays) stays covers
    before soon

/-- A change that is truncated before it is read is marked all the same. -/
theorem committed_news_is_marked_across_truncation :
    let apple : Document := ⟨"fruit", "apple"⟩
    let system := (start {} .snapshot true).run
      [.input .tick, .advance, .advance, .receive, .input (.watch (.entity apple) none)]
    let wait : List Action := [.edit (.upsert ⟨"fruit", "pear"⟩), .edit (.truncate 2)]
    let after : List Action := List.replicate 6 .advance ++ [.receive]
    Allows IsWithin system (.edit (.upsert apple) :: (wait ++ .beginCycle :: after)) ∧
      ∃ earlier later, wait ++ .beginCycle :: after = earlier ++ .receive :: later ∧
        ((system.act (.edit (.upsert apple))).run earlier).Marks 1 "apple" := by
  intro apple system wait after
  have start : Allows IsWithin (start {} .snapshot true)
      [.input .tick, .advance, .advance, .receive, .input (.watch (.entity apple) none)] := by decide
  have within : Allows IsWithin system (.edit (.upsert apple) :: (wait ++ .beginCycle :: after)) := by
    decide
  have hasPlace : system.poller.reader.committed.isSome = true := by decide
  have commits : system.log.committedBy? (.upsert apple) = some (.update apple 1) := by decide
  have newest : ∀ earlier ∈ system.history, earlier.document = apple →
      earlier.revno < (Change.update apple 1).revno := by decide
  have registered : system.watcher.registry.keys[1]? = some (.entity apple) := by decide
  have begins : ((system.act (.edit (.upsert apple))).run wait).Begins 0 := ⟨by decide, by decide⟩
  have ends : (system.run (.edit (.upsert apple) :: (wait ++ .beginCycle :: after))).poller.outbox =
      [.cycleComplete 0] := by decide
  have running : (system.run
      (.edit (.upsert apple) :: (wait ++ .beginCycle :: after))).watcher.hasEnded = false := by decide
  have serving : ¬ (system.run
      (.edit (.upsert apple) :: (wait ++ .beginCycle :: after))).watcher.HasStopped 1 := by decide
  have reachable : system.IsReachable true := ⟨{}, .snapshot, _, start, rfl⟩
  have covers : (WatchKey.entity apple).covers (Change.update apple 1).document = true := by decide
  have marked := committed_news_is_marked reachable within hasPlace commits newest registered covers
    begins ends running serving
  exact ⟨within, marked⟩

end System

end ChangeFeed
