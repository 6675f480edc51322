/-
# What the queue brings

The position claimed by a poller is a promise: when the watcher has handled the queue, it will know
the history up to there. `Covers` states the promise for the part of the history beyond some base,
which is the whole history for one who asks for everything, and what is yet to come for one who asks
about the next change. The promise holds as long as the reader cannot be put back behind a
truncation without a snapshot to make up for it, which is what `IsAnchored` says.

A cycle that reaches the head turns the promise into a fact. `Guards` keeps the fact with the event
until it is handled, whatever is still in front of it in the queue.
-/

import ChangeFeed.Proofs.System

namespace ChangeFeed

/-- The changes that events bring, in order. -/
def Event.told (events : List Event) : List Change :=
  events.flatMap Event.changes

namespace Event

theorem told_append (first second : List Event) : told (first ++ second) = told first ++ told second :=
  List.flatMap_append

theorem told_cons (event : Event) (rest : List Event) : told (event :: rest) = event.changes ++ told rest :=
  List.flatMap_cons

theorem told_singleton (event : Event) : told [event] = event.changes := by
  rw [told_cons]
  exact List.append_nil _

end Event

namespace System

/-- Neither poller nor watcher has come to its end. -/
def IsLive (system : System) : Prop :=
  system.watcher.hasEnded = false ∧ system.stage ≠ .resting .stopped

/-- What the watcher will know when it has handled these events. -/
def knownAfter (system : System) (events : List Event) : Revisions :=
  system.watcher.known.observeAll (Event.told events)

/-- Everything beyond the base and up to the claimed position is known or in the queue. -/
def Covers (base : Position) (system : System) : Prop :=
  system.IsLive → ∀ change ∈ between system.history base (system.claimed.getD Position.origin),
    (system.knownAfter system.queue).Knows change

/-- A reader with a place on a log with snapshots. -/
def HoldsPlace (system : System) : Prop :=
  system.log.supportsSnapshots = true ∧ system.poller.reader.committed.isSome = true

/-- The reader can be put back behind a truncation only as far as the base. -/
def IsAnchored (base : Position) (system : System) : Prop :=
  system.log.horizon ≤ base ∨ system.HoldsPlace

/-- As long as the reader has no place, nothing beyond the base has been truncated. -/
def IsMoored (base : Position) (system : System) : Prop :=
  system.poller.reader.committed = none → system.log.horizon ≤ base

/-- Where the end of a cycle numbered `first` or above stands in the queue, the events in front of it
make the targets known. -/
def Guards (first : Nat) (targets : List Change) (system : System) : Prop :=
  system.watcher.hasEnded = false → ∀ earlier seq later,
    system.queue = earlier ++ .cycleComplete seq :: later → first ≤ seq →
      ∀ change ∈ targets, (system.knownAfter earlier).Knows change

variable {system : System} {base : Position} {first : Nat} {targets : List Change}
  {change : Change}

/-! ## Claims -/

theorem IsSound.claimed_le (sound : system.IsSound) {position : Position}
    (claimed : system.claimed = some position) : position ≤ system.history.length := by
  unfold System.claimed Poller.claimed at claimed
  split at claimed
  · next seq batch stage =>
    obtain ⟨start, stop, later, filling⟩ := (stage ▸ sound.stands.placed :)
    rw [filling.batch_eq, Batch.spanning, if_pos later] at claimed
    cases claimed
    exact filling.stop_le
  · exact sound.stands.committed_le position claimed

/-- A place is claimed when a place is committed. -/
theorem IsSound.claimed_isSome (sound : system.IsSound) :
    system.claimed.isSome = system.poller.reader.committed.isSome := by
  unfold System.claimed Poller.claimed
  split
  · next seq batch stage =>
    obtain ⟨start, stop, later, filling⟩ := (stage ▸ sound.stands.placed :)
    rw [filling.batch_eq, Batch.spanning, if_pos later, filling.committed_eq]
    rfl
  · rfl

/-- Nothing is forgotten. -/
theorem knows_act (knows : system.watcher.known.Knows change) (action : Action) :
    (system.act action).watcher.known.Knows change := by
  rcases act_watcher_cases system action with same | same | ⟨event, _, _, _, same⟩ | ⟨input, -, same⟩
  · rw [same]
    exact knows
  · rw [same]
    exact knows
  · rw [same]
    cases ended : system.watcher.hasEnded with
    | true =>
      have still : system.watcher.receive event = system.watcher := if_pos ended
      rw [still]
      exact knows
    | false =>
      rw [Watcher.receive_known ended event]
      exact knows.observeAll _
  · rw [same, system.watcher.known_take input]
    exact knows

theorem knows_run (knows : system.watcher.known.Knows change) (actions : List Action) :
    (system.run actions).watcher.known.Knows change :=
  List.foldlRecOn (motive := fun later : System => later.watcher.known.Knows change) actions act knows
    fun _ knows action _ => knows_act knows action

theorem knownAfter_append (system : System) (first second : List Event) :
    system.knownAfter (first ++ second) =
      (system.knownAfter first).observeAll (Event.told second) := by
  rw [knownAfter, Event.told_append, Revisions.observeAll_append, knownAfter]

/-- More events make nothing unknown. -/
theorem knows_append {first : List Event} (knows : (system.knownAfter first).Knows change)
    (second : List Event) : (system.knownAfter (first ++ second)).Knows change :=
  knownAfter_append system first second ▸ knows.observeAll _

theorem knows_of_mem_changes {first : List Event} {event : Event} (member : change ∈ event.changes) :
    (system.knownAfter (first ++ [event])).Knows change := by
  rw [knownAfter_append, Event.told_singleton]
  exact Revisions.knows_observeAll_of_mem _ member

/-! ## Covering -/

/-- The watcher's knowledge and the queue in front of it are all that covering is about. -/
theorem Covers.congr (covers : system.Covers base) {after : System} (live : after.IsLive → system.IsLive)
    (known : after.watcher.known = system.watcher.known) (queue : after.queue = system.queue)
    (claimed : after.claimed = system.claimed) (history : after.history = system.history) :
    after.Covers base := by
  intro alive change member
  rw [history, claimed] at member
  rw [knownAfter, known, queue]
  exact covers (live alive) change member

theorem Covers.edit (covers : system.Covers base) (sound : system.IsSound) (edit : MemoryLog.Edit) :
    (system.act (.edit edit)).Covers base := by
  intro alive change member
  have held : system.claimed.getD Position.origin ≤ system.history.length := by
    cases claimed : system.claimed with
    | none => exact Nat.zero_le _
    | some position => exact sound.claimed_le claimed
  apply covers alive change
  rw [← between_append held (system.log.committedBy? edit).toList]
  exact member

theorem Covers.advance (covers : system.Covers base) (sound : system.IsSound)
    (moored : system.IsMoored base) : (system.act .advance).Covers base := by
  intro alive change member
  have live : system.IsLive := by
    refine ⟨alive.1, fun stopped => alive.2 ?_⟩
    show (system.poller.step system.stage).1 = _
    rw [stopped]
    rfl
  have before := covers live
  rcases sound.progress with stopped | progress
  · rw [stopped] at alive
    exact absurd rfl alive.2
  · show (system.knownAfter (system.act .advance).queue).Knows change
    have anchor : system.claimed = none → system.log.horizon ≤ base := fun noPlace => by
      have same := sound.claimed_isSome
      rw [noPlace] at same
      exact moored (Option.not_isSome_iff_eq_none.mp (by rw [← same]; nofun))
    change change ∈ between system.history base _ at member
    generalize (system.act .advance).queue = later at progress
    generalize (system.act .advance).claimed = claimedLater at progress member
    generalize claimed : system.claimed = earlier at progress
    rw [claimed] at before
    cases progress with
    | quiet => exact before change member
    | opened =>
      rw [Option.getD_some, between_of_le (anchor claimed)] at member
      cases member
    | read start stop _ held =>
      obtain ⟨index, beyond, inside, found⟩ := mem_between_iff.mp member
      by_cases earlier : index < start
      · exact knows_append (before change (mem_between_iff.mpr ⟨index, beyond, earlier, found⟩)) _
      · have told : change ∈ (Event.batch (between system.history start stop)).changes :=
          mem_between_iff.mpr ⟨index, Nat.le_of_not_lt earlier, inside, found⟩
        exact knows_of_mem_changes told
    | completed => exact knows_append (before change member) _
    | gaveUp => exact knows_append (before change member) _
    | refreshed _ event supports brings =>
      obtain ⟨index, -, -, found⟩ := mem_between_iff.mp member
      have committed : change ∈ system.history := List.mem_of_getElem? found
      have told : event.changes = system.log.revisions.toChanges := by
        rcases brings with rfl | rfl <;> rfl
      rw [knownAfter_append, Event.told_singleton, told]
      exact sound.stands.records.knows_of_snapshot committed _
    | restarted =>
      rw [Option.getD_none, between_of_le (show Position.origin ≤ base from Nat.zero_le _)] at member
      cases member

theorem Covers.receive (covers : system.Covers base) : (system.act .receive).Covers base := by
  rcases act_receive_cases system with ⟨-, same⟩ | ⟨event, rest, sent, queue, received⟩
  · rw [same]
    exact covers
  · rw [received]
    intro alive change member
    have running := Watcher.running_of_receive alive.1
    have before := covers ⟨running, alive.2⟩ change member
    show ((system.watcher.receive event).known.observeAll (Event.told _)).Knows change
    rw [knownAfter, queue, Event.told_cons, Revisions.observeAll_append] at before
    rw [Watcher.receive_known running]
    exact before

theorem Covers.act (covers : system.Covers base) (sound : system.IsSound)
    (moored : system.IsMoored base) (action : Action) : (system.act action).Covers base := by
  cases action with
  | edit edit => exact covers.edit sound edit
  | advance => exact covers.advance sound moored
  | beginCycle =>
    rcases act_beginCycle_cases system with same | ⟨seq, idle, -, begun⟩
    · rw [same]
      exact covers
    · rw [begun]
      refine covers.congr (fun alive => ⟨alive.1, by rw [idle]; nofun⟩) rfl ?_ ?_ rfl
      · rw [queue, queue, idle]
        rfl
      · rw [claimed, claimed, idle]
        rfl
  | retire =>
    by_cases idle : system.stage = .resting .idle
    · have retired : system.act .retire = { system with stage := .resting .stopped } := if_pos idle
      rw [retired]
      exact fun alive => absurd rfl alive.2
    · have same : system.act .retire = system := if_neg idle
      rw [same]
      exact covers
  | signal _ | leave => exact covers.congr (fun alive => alive) rfl rfl rfl rfl
  | receive => exact covers.receive
  | input input =>
    refine covers.congr (fun alive => ⟨Watcher.running_of_take alive.1, alive.2⟩) ?_ rfl rfl rfl
    exact system.watcher.known_take input

/-! ## Anchors -/

/-- Whether a log gives snapshots is settled when it is made. -/
theorem supportsSnapshots_act (sound : system.IsSound) (action : Action) :
    (system.act action).log.supportsSnapshots = system.log.supportsSnapshots := by
  by_cases edits : ∃ edit, action = .edit edit
  · obtain ⟨edit, rfl⟩ := edits
    exact system.log.supportsSnapshots_edit edit
  · exact (sound.contents_act fun edit same => edits ⟨edit, same⟩).supportsSnapshots_eq

/-- A log with snapshots never costs its reader the place it has. -/
theorem HoldsPlace.act (holds : system.HoldsPlace) (sound : system.IsSound) (action : Action) :
    (system.act action).HoldsPlace := by
  refine ⟨(supportsSnapshots_act sound action).trans holds.1, ?_⟩
  cases action with
  | edit _ | signal _ | leave | input _ => exact holds.2
  | advance =>
    rcases sound.progress with stopped | progress
    · rw [stopped]
      exact holds.2
    · rw [← sound.advance.claimed_isSome]
      have place := holds.2
      rw [← sound.claimed_isSome] at place
      generalize (system.act .advance).queue = later at progress
      generalize (system.act .advance).claimed = claimedLater at progress ⊢
      generalize system.claimed = claimed at progress place
      cases progress with
      | quiet | gaveUp => exact place
      | opened | read | completed | refreshed => rfl
      | restarted _ unsupported =>
        rw [holds.1] at unsupported
        cases unsupported
  | beginCycle =>
    rcases act_beginCycle_cases system with same | ⟨seq, idle, -, begun⟩
    · rw [same]
      exact holds.2
    · rw [begun]
      exact holds.2
  | retire =>
    simp only [System.act]
    split <;> exact holds.2
  | receive =>
    rcases act_receive_cases system with ⟨-, same⟩ | ⟨event, rest, -, -, received⟩
    · rw [same]
      exact holds.2
    · rw [received]
      exact holds.2

/-! ## Guarding -/

/-- What follows in a queue guards nothing. -/
theorem Guards.congr (guards : system.Guards first targets) {after : System}
    (running : after.watcher.hasEnded = false → system.watcher.hasEnded = false)
    (known : after.watcher.known = system.watcher.known) (rest : List Event)
    (queue : system.queue = after.queue ++ rest) : after.Guards first targets := by
  intro still earlier seq later split
  rw [knownAfter, known]
  apply guards (running still) earlier seq (later ++ rest)
  rw [queue, split, List.append_assoc, List.cons_append]

/-- An end of a cycle that is put behind the queue has the whole claim in front of it. -/
theorem Guards.advance (guards : system.Guards first targets) (sound : system.IsSound)
    (covers : system.Covers base)
    (beyond : ∀ change ∈ targets, change ∈ between system.history base system.history.length) :
    (system.act .advance).Guards first targets := by
  rcases sound.progress with stopped | progress
  · rw [stopped]
    refine guards.congr (fun running => running) rfl system.stage.unsent ?_
    rw [queue, queue, Poller.queue, Poller.queue]
    exact congrArg (· ++ system.stage.unsent) (List.append_nil _).symm
  · have extended : ∀ event, (system.act .advance).queue = system.queue ++ [event] →
        (∀ seq, event = .cycleComplete seq → system.watcher.hasEnded = false →
          ∀ change ∈ targets, (system.knownAfter system.queue).Knows change) →
        (system.act .advance).Guards first targets := by
      intro event grown fulfilled running earlier seq later split enough
      rw [grown] at split
      rcases List.eq_nil_or_concat later with rfl | ⟨between, last, rfl⟩
      · obtain ⟨rfl, same⟩ := List.append_inj' split rfl
        exact fulfilled seq (List.cons.inj same).1 running
      · rw [List.concat_eq_append, ← List.cons_append, ← List.append_assoc] at split
        obtain ⟨inner, -⟩ := List.append_inj' split rfl
        exact guards running earlier seq between inner enough
    generalize grown : (system.act .advance).queue = later at progress
    generalize (system.act .advance).claimed = claimedLater at progress
    generalize claimed : system.claimed = earlier at progress
    rw [grown] at extended
    cases progress with
    | quiet | opened =>
      exact guards.congr (fun running => running) rfl [] (by rw [grown, List.append_nil])
    | completed seq position current reached =>
      apply extended _ rfl
      intro _ _ running change member
      have live : system.IsLive := by
        refine ⟨running, fun stopped => ?_⟩
        rw [stopped] at current
        cases current
      obtain ⟨index, later, inside, found⟩ := mem_between_iff.mp (beyond change member)
      refine covers live change (mem_between_iff.mpr ⟨index, later, ?_, found⟩)
      rw [claimed]
      exact Nat.lt_of_lt_of_le inside reached
    | gaveUp _ event isGivingUp =>
      apply extended event rfl
      intro seq same
      rw [same] at isGivingUp
      cases isGivingUp
    | refreshed _ event _ brings =>
      apply extended event rfl
      intro seq same
      rcases brings with rfl | rfl <;> cases same
    | read | restarted => exact extended _ rfl fun _ same => by cases same

theorem Guards.receive (guards : system.Guards first targets) :
    (system.act .receive).Guards first targets := by
  rcases act_receive_cases system with ⟨-, same⟩ | ⟨event, rest, -, queue, received⟩
  · rw [same]
    exact guards
  · rw [received]
    intro still earlier seq later split enough change member
    have running := Watcher.running_of_receive still
    change rest ++ system.stage.unsent = _ at split
    rw [split, ← List.cons_append] at queue
    have before := guards running (event :: earlier) seq later queue enough change member
    rw [knownAfter, Event.told_cons, Revisions.observeAll_append] at before
    rw [knownAfter, Watcher.receive_known running]
    exact before

theorem Guards.act (guards : system.Guards first targets) (sound : system.IsSound)
    (covers : system.Covers base)
    (beyond : ∀ change ∈ targets, change ∈ between system.history base system.history.length)
    (action : Action) : (system.act action).Guards first targets := by
  have nothing : ∀ queue : List Event, queue = queue ++ [] := fun queue => (List.append_nil queue).symm
  cases action with
  | edit _ | signal _ | leave => exact guards.congr (fun running => running) rfl [] (nothing _)
  | advance => exact guards.advance sound covers beyond
  | beginCycle =>
    rcases act_beginCycle_cases system with same | ⟨seq, idle, -, begun⟩
    · rw [same]
      exact guards
    · rw [begun]
      refine guards.congr (fun running => running) rfl [] ?_
      rw [queue, queue, idle, List.append_nil]
      rfl
  | retire =>
    by_cases idle : system.stage = .resting .idle
    · have retired : system.act .retire = { system with stage := .resting .stopped } := if_pos idle
      rw [retired]
      refine guards.congr (fun running => running) rfl [] ?_
      rw [queue, queue, idle, List.append_nil]
      rfl
    · have same : system.act .retire = system := if_neg idle
      rw [same]
      exact guards
  | receive => exact guards.receive
  | input input =>
    refine guards.congr Watcher.running_of_take ?_ [] (nothing _)
    exact system.watcher.known_take input

/-! ## Both together -/

/-- Targets beyond the base are on their way to the watcher, and arrive before the end of any cycle
that is new enough. -/
structure IsGuarded (base : Position) (first : Nat) (targets : List Change) (system : System) :
    Prop where
  sound : system.IsSound
  covers : system.Covers base
  guards : system.Guards first targets
  beyond : ∀ change ∈ targets, change ∈ between system.history base system.history.length

/-- A history only grows. -/
theorem history_act (system : System) (action : Action) :
    ∃ more, (system.act action).history = system.history ++ more := by
  by_cases edits : ∃ edit, action = .edit edit
  · obtain ⟨edit, rfl⟩ := edits
    exact ⟨_, rfl⟩
  · refine ⟨[], ?_⟩
    rw [history_act_of_ne_edit fun edit same => edits ⟨edit, same⟩, List.append_nil]

/-- What lies beyond a base stays there. -/
theorem mem_beyond_act (member : change ∈ between system.history base system.history.length)
    (action : Action) : change ∈ between (system.act action).history base
      (system.act action).history.length := by
  obtain ⟨more, grown⟩ := history_act system action
  obtain ⟨index, later, inside, found⟩ := mem_between_iff.mp member
  rw [grown]
  refine mem_between_iff.mpr ⟨index, later, ?_, ?_⟩
  · rw [List.length_append]
    exact Nat.lt_add_right _ inside
  · rw [List.getElem?_append_left inside, found]

/-- **Targets stay guarded** as long as no truncation passes the base while the reader has no place. -/
theorem IsGuarded.act_of_isMoored (guarded : system.IsGuarded base first targets) {action : Action}
    (within : system.IsWithin action) (moored : system.IsMoored base) :
    (system.act action).IsGuarded base first targets where
  sound := guarded.sound.act within
  covers := guarded.covers.act guarded.sound moored action
  guards := guarded.guards.act guarded.sound guarded.covers guarded.beyond action
  beyond change member := mem_beyond_act (guarded.beyond change member) action

/-- An anchored reader that has no place finds everything beyond the base still held. -/
theorem IsAnchored.isMoored (anchored : system.IsAnchored base) : system.IsMoored base := by
  refine fun none => anchored.resolve_right fun holds => ?_
  have place := holds.2
  rw [none] at place
  cases place

/-- So they stay guarded as long as the reader stays anchored. -/
theorem IsGuarded.act (guarded : system.IsGuarded base first targets) {action : Action}
    (within : system.IsWithin action) (anchored : system.IsAnchored base) :
    (system.act action).IsGuarded base first targets :=
  guarded.act_of_isMoored within anchored.isMoored

/-- When the watcher comes to the end of a cycle that is new enough, it knows the targets. -/
theorem IsGuarded.knows (guarded : system.IsGuarded base first targets)
    (running : system.watcher.hasEnded = false) {seq : Nat} {rest : List Event}
    (sent : system.poller.outbox = .cycleComplete seq :: rest) (enough : first ≤ seq)
    (member : change ∈ targets) : system.watcher.known.Knows change := by
  refine guarded.guards running [] seq (rest ++ system.stage.unsent) ?_ enough change member
  rw [queue, Poller.queue, sent]
  rfl

end System

end ChangeFeed
