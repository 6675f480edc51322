/-
# What a gap leaves unreported

A reader that has been overtaken by truncation on a log without snapshots starts anew from what is
left, and tells the watcher no more than that something is missing. What has been truncated unread
cannot be named. The watcher reports every document it knows and every document that is watched
singly, and the rest comes with what the reader reads afterwards.

So a subscription to a collection hears of a document exactly when the watcher knows the document by
the end of the cycle. It never hears of one that was created and truncated before it was read.
-/

import ChangeFeed.Proofs.Delivery
import ChangeFeed.Proofs.Interest
import ChangeFeed.Proofs.OnePoll

namespace ChangeFeed

namespace System

variable {system : System} {action : Action} {actions : List Action} {supportsSnapshots : Bool}
  {seq : Nat} {document : Document}

/-! ## Polls of a system -/

/-- The system as a poller and a watcher with polls between them. -/
def toLoop (system : System) (serving : Option Nat) (issued : List Nat) :
    PollLoop MemoryLog MemoryLog.Cursor where
  poller := system.poller
  stage := system.stage
  watcher := system.watcher
  serving := serving
  issued := issued

/-- What an action is to the polls. -/
def inLoop (system : System) : Action → PollLoop.Action MemoryLog
  | .edit edit => .change (system.log.edit edit)
  | .advance => .advance
  | .beginCycle => .beginCycle
  | .retire => .retire
  | .signal line => .signal line
  | .leave => .leave
  | .receive => .receive
  | .input input => .input input

/-- A system does with its polls what a poller and a watcher do with them. -/
theorem exists_toLoop_act (system : System) (serving : Option Nat) (issued : List Nat)
    (action : Action) :
    ∃ servingAfter issuedAfter, (system.toLoop serving issued).act (system.inLoop action) =
      (system.act action).toLoop servingAfter issuedAfter := by
  cases action with
  | edit _ | advance | signal _ | leave | input _ => exact ⟨_, _, rfl⟩
  | beginCycle =>
    refine ⟨((system.toLoop serving issued).act .beginCycle).serving,
      ((system.toLoop serving issued).act .beginCycle).issued, ?_⟩
    simp only [inLoop, PollLoop.act, act, toLoop]
    split <;> simp_all
  | retire =>
    refine ⟨serving, issued, ?_⟩
    by_cases idle : system.stage = .resting .idle <;>
      simp [inLoop, PollLoop.act, act, toLoop, idle]
  | receive =>
    refine ⟨serving, ((system.toLoop serving issued).act .receive).issued, ?_⟩
    simp only [inLoop, PollLoop.act, act, toLoop]
    split <;> simp_all

/-- The polls of a system that has been reached are in order. -/
theorem IsReachable.exists_loop (reachable : system.IsReachable supportsSnapshots) :
    ∃ serving issued, (system.toLoop serving issued).IsSound := by
  obtain ⟨settings, strategy, actions, within, rfl⟩ := reachable
  refine Run.induction (fun system => ∃ serving issued, (system.toLoop serving issued).IsSound) ?_
    within ?_
  · rintro system action - ⟨serving, issued, sound⟩
    obtain ⟨servingAfter, issuedAfter, same⟩ := system.exists_toLoop_act serving issued action
    exact ⟨servingAfter, issuedAfter, same ▸ sound.act (system.inLoop action)⟩
  · exact ⟨none, [], PollLoop.isSound_start (Node.newPoller settings (.empty supportsSnapshots)).reader
      settings.retry.logReader settings.watcher.primeFromSnapshot strategy⟩

end System

/-- A stage in a cycle serves that cycle. -/
theorem Stage.IsServing.eq_of_running {serving : Option Nat} {stage : Stage} {seq : Nat}
    (serves : stage.IsServing serving) (current : stage.running = some seq) :
    serving = some seq ∧ ∀ other, .cycleComplete other ∉ stage.unsent := by
  have resting : ∀ {rest : Rest}, rest.IsServing serving → rest.running = some seq →
      serving = some seq := by
    rintro rest (rfl | same) current
    · cases current
    · exact same.trans current
  cases stage with
  | resting rest => exact ⟨resting serves current, nofun⟩
  | waiting rest => exact ⟨resting serves current, nofun⟩
  | filling other attempts batch => exact ⟨serves.trans current, nofun⟩
  | handing other batch => exact ⟨serves.trans current, by simp [Stage.unsent]⟩
  | sending event rest =>
    have given : event.ended? = none := by
      cases ends : event.ended? with
      | none => rfl
      | some other =>
        simp only [Stage.IsServing, ends] at serves
        obtain ⟨-, rfl⟩ := serves
        cases current
    simp only [Stage.IsServing, given] at serves
    refine ⟨resting serves current, fun other member => ?_⟩
    obtain rfl := List.mem_singleton.mp member
    cases given

namespace System

variable {system : System} {action : Action} {actions : List Action} {supportsSnapshots : Bool}
  {seq : Nat} {document : Document}

/-- While a cycle is running, only ends of earlier cycles are in the queue. -/
theorem IsReachable.lt_of_mem_queue (reachable : system.IsReachable supportsSnapshots)
    (current : system.stage.running = some seq) {other : Nat}
    (member : .cycleComplete other ∈ system.queue) : other < seq := by
  obtain ⟨serving, issued, sound⟩ := reachable.exists_loop
  obtain ⟨rfl, unsent⟩ := Stage.IsServing.eq_of_running sound.serves current
  have sent : .cycleComplete other ∈ system.poller.outbox :=
    (List.mem_append.mp member).resolve_right (unsent other)
  have ends : other ∈ Event.endsIn system.poller.outbox := List.mem_filterMap.mpr ⟨_, sent, rfl⟩
  have ordered : (Event.endsIn system.poller.outbox ++ [seq]).Pairwise (· < ·) :=
    sound.numbered.ordered.sublist (List.sublist_append_left _ _)
  exact (List.pairwise_append.mp ordered).2.2 other ends seq List.mem_cons_self

/-! ## Systems that have been reached -/

theorem IsReachable.run (reachable : system.IsReachable supportsSnapshots)
    (within : Allows IsWithin system actions) : (system.run actions).IsReachable supportsSnapshots := by
  obtain ⟨settings, strategy, before, allows, rfl⟩ := reachable
  refine ⟨settings, strategy, before ++ actions, Run.allows_append_iff.mpr ⟨allows, within⟩, ?_⟩
  rw [run_append]

/-- The registry of a system that has been reached is exact. -/
theorem IsReachable.isExact (reachable : system.IsReachable supportsSnapshots) :
    system.watcher.registry.IsExact := by
  obtain ⟨settings, strategy, actions, within, rfl⟩ := reachable
  have fresh : (start settings strategy supportsSnapshots).watcher.registry.IsExact :=
    Registry.isExact_empty
  exact (Run.induction (fun system => system.IsSound ∧ system.watcher.registry.IsExact)
    (fun _ action within both => ⟨both.1.act within, isExact_act both.2 both.1 action⟩) within
    ⟨isSound_start _ _ _, fresh⟩).2

/-- No document is forgotten. -/
theorem mem_known_run (member : document ∈ system.watcher.known) (actions : List Action) :
    document ∈ (system.run actions).watcher.known :=
  Revisions.mem_iff_knows.mpr (knows_run (Revisions.mem_iff_knows.mp member) actions)

/-! ## The way of a discontinuity -/

/-- The next event that the watcher handles tells of a lost place, and there is no snapshot. -/
def IsAtGap (system : System) : Prop :=
  ∃ rest, system.poller.outbox = .discontinuity none :: rest

/-- A discontinuity without a snapshot is in the queue and comes before the end of the cycle, or the
poller has stopped before it could send either. -/
def IsAheadOf (seq : Nat) (system : System) : Prop :=
  (∃ front back, system.queue = front ++ .discontinuity none :: back ∧ .cycleComplete seq ∉ front) ∨
    .cycleComplete seq ∉ system.queue ∧ system.stage = .resting .stopped

theorem IsAheadOf.congr (ahead : system.IsAheadOf seq) {after : System}
    (queue : after.queue = system.queue)
    (stage : system.stage = .resting .stopped → after.stage = .resting .stopped) :
    after.IsAheadOf seq := by
  unfold IsAheadOf
  rw [queue]
  exact ahead.imp_right (And.imp_right stage)

/-- A poller that has stopped takes no more steps. -/
theorem advance_of_stopped (stopped : system.stage = .resting .stopped) :
    system.act .advance = system := by
  show ({ system with
    stage := (system.poller.step system.stage).1
    poller := (system.poller.step system.stage).2 } : System) = system
  rw [stopped]
  exact congrArg (fun stage => ({ system with stage } : System)) stopped.symm

theorem IsAheadOf.advance (ahead : system.IsAheadOf seq) (sound : system.IsSound) :
    (system.act .advance).IsAheadOf seq := by
  rcases ahead with ⟨front, back, split, later⟩ | ⟨never, stopped⟩
  · rcases sound.progress with stops | progress
    · -- What has not been sent yet is lost.
      have sent : (system.act .advance).queue = system.poller.outbox := by
        rw [stops]
        exact List.append_nil _
      rw [queue, Poller.queue] at split
      rcases List.append_eq_append_iff.mp split with ⟨middle, same, -⟩ | ⟨middle, same, tail⟩
      · refine Or.inr ⟨fun member => later ?_, by rw [stops]⟩
        rw [same]
        exact List.mem_append_left _ (sent ▸ member)
      · cases middle with
        | nil =>
          refine Or.inr ⟨fun member => later ?_, by rw [stops]⟩
          rw [sent, same, List.append_nil] at member
          exact member
        | cons event rest =>
          obtain ⟨rfl, -⟩ := List.cons.inj tail
          exact Or.inl ⟨front, rest, sent.trans same, later⟩
    · have grown : ∃ more, (system.act .advance).queue = system.queue ++ more := by
        generalize (system.act .advance).queue = after at progress
        generalize (system.act .advance).claimed = claimed at progress
        generalize system.claimed = earlier at progress
        cases progress with
        | quiet | opened => exact ⟨[], (List.append_nil _).symm⟩
        | read | completed | gaveUp | refreshed | restarted => exact ⟨_, rfl⟩
      obtain ⟨more, grown⟩ := grown
      refine Or.inl ⟨front, back ++ more, ?_, later⟩
      rw [grown, split, List.append_assoc, List.cons_append]
  · rw [advance_of_stopped stopped]
    exact Or.inr ⟨never, stopped⟩

/-- A discontinuity stays ahead of the end of its cycle until it is handled. -/
theorem IsAheadOf.act (ahead : system.IsAheadOf seq) (sound : system.IsSound)
    (unhandled : action = .receive → ¬ system.IsAtGap) : (system.act action).IsAheadOf seq := by
  cases action with
  | edit _ | signal _ | leave | input _ => exact ahead.congr rfl id
  | advance => exact ahead.advance sound
  | beginCycle =>
    rcases act_beginCycle_cases system with same | ⟨_, idle, _, begun⟩
    · rwa [same]
    · rw [begun]
      refine ahead.congr ?_ fun stopped => ?_
      · rw [queue, queue, idle]
        rfl
      · rw [idle] at stopped
        cases stopped
  | retire =>
    by_cases idle : system.stage = .resting .idle
    · have retired : system.act .retire = { system with stage := .resting .stopped } := if_pos idle
      rw [retired]
      refine ahead.congr ?_ fun _ => rfl
      rw [queue, queue, idle]
      rfl
    · have same : system.act .retire = system := if_neg idle
      rwa [same]
  | receive =>
    rcases act_receive_cases system with ⟨-, same⟩ | ⟨event, rest, sent, whole, received⟩
    · rwa [same]
    · have shorter : (system.act .receive).queue = rest ++ system.stage.unsent := by
        rw [received]
        rfl
      have stage : (system.act .receive).stage = system.stage := by rw [received]
      unfold IsAheadOf
      rw [shorter, stage]
      rw [IsAheadOf, whole] at ahead
      rcases ahead with ⟨front, back, split, later⟩ | ⟨never, stopped⟩
      · cases front with
        | nil =>
          obtain ⟨rfl, -⟩ := List.cons.inj split
          exact absurd ⟨rest, sent⟩ (unhandled rfl)
        | cons first front =>
          obtain ⟨-, split⟩ := List.cons.inj split
          exact Or.inl ⟨front, back, split, fun member => later (List.mem_cons_of_mem _ member)⟩
      · exact Or.inr ⟨fun member => never (List.mem_cons_of_mem _ member), stopped⟩

/-- **Before the end of the cycle the discontinuity is handled.** -/
theorem exists_isAtGap (ahead : system.IsAheadOf seq) (sound : system.IsSound)
    (within : Allows IsWithin system actions) {rest : List Event}
    (ends : (system.run actions).poller.outbox = .cycleComplete seq :: rest) :
    ∃ before later, actions = before ++ .receive :: later ∧ (system.run before).IsAtGap := by
  induction actions generalizing system with
  | nil =>
    change system.poller.outbox = _ at ends
    have first : system.queue = .cycleComplete seq :: (rest ++ system.stage.unsent) := by
      rw [queue, Poller.queue, ends, List.cons_append]
    rw [IsAheadOf, first] at ahead
    rcases ahead with ⟨front, back, split, later⟩ | ⟨never, -⟩
    · cases front with
      | nil => cases (List.cons.inj split).1
      | cons event front =>
        obtain ⟨rfl, -⟩ := List.cons.inj split
        exact absurd List.mem_cons_self later
    · exact absurd List.mem_cons_self never
  | cons action others ih =>
    by_cases handled : action = .receive ∧ system.IsAtGap
    · obtain ⟨rfl, gap⟩ := handled
      exact ⟨[], others, rfl, gap⟩
    · have later := ahead.act sound fun same gap => handled ⟨same, gap⟩
      obtain ⟨before, after, rfl, gap⟩ := ih later (sound.act within.1) within.2 ends
      exact ⟨action :: before, after, rfl, gap⟩

/-! ## What is marked -/

variable {id : SubscriptionId} {key : WatchKey} {name : String}

/-- A subscription that is registered and not stopped by the end of a run is so at every moment. -/
theorem registered_during (earlier later : List Action) (sound : system.IsSound)
    (within : Allows IsWithin system (earlier ++ later))
    (running : (system.run (earlier ++ later)).watcher.hasEnded = false)
    (serving : ¬ (system.run (earlier ++ later)).watcher.HasStopped id)
    (registered : system.watcher.registry.keys[id]? = some key) :
    (system.run earlier).watcher.hasEnded = false ∧
      ¬ (system.run earlier).watcher.HasStopped id ∧
      (system.run earlier).watcher.registry.keys[id]? = some key := by
  obtain ⟨withinEarlier, withinLater⟩ := Run.allows_append_iff.mp within
  rw [run_append] at running serving
  have runs := running_of_run running
  have stays : ¬ (system.run earlier).watcher.HasStopped id := fun stopped =>
    serving (hasStopped_run (sound.run withinEarlier) withinLater running stopped)
  exact ⟨runs, stays, (registered_run sound withinEarlier runs registered).resolve_right stays⟩

/-- Whatever is marked for a subscription to a collection is known from then on. -/
theorem mem_known_of_marks {earlier later : List Action}
    (reachable : system.IsReachable supportsSnapshots)
    (within : Allows IsWithin system (earlier ++ .receive :: later))
    (running : (system.run (earlier ++ .receive :: later)).watcher.hasEnded = false)
    (serving : ¬ (system.run (earlier ++ .receive :: later)).watcher.HasStopped id)
    (registered : system.watcher.registry.keys[id]? = some (.collection document.collection))
    (marks : (system.run earlier).Marks id document.id) :
    document ∈ (system.run (earlier ++ .receive :: later)).watcher.known := by
  obtain ⟨runs, -, still⟩ :=
    registered_during earlier _ reachable.isSound.1 within running serving registered
  have reached := reachable.run (Run.allows_append_iff.mp within).1
  obtain ⟨-, ⟨event, rest, sent, marked⟩, -⟩ := marks
  have covers : (WatchKey.collection document.collection).covers document = true := by
    simp [WatchKey.covers]
  have reports := (Watcher.mem_marksOf_iff reached.isExact still covers).mp marked
  have received : ((system.run earlier).act .receive).watcher =
      (system.run earlier).watcher.receive event := by
    simp [act, sent]
  have known : document ∈ ((system.run earlier).act .receive).watcher.known := by
    rw [received, Watcher.receive_known runs]
    exact Watcher.mem_of_reports reports
  rw [run_append, run_cons]
  exact mem_known_run known later

/-- **Since a gap a document is marked exactly if it is watched singly or known in the end.** -/
theorem exists_marks_iff {later : List Action} (reachable : system.IsReachable supportsSnapshots)
    (gap : system.IsAtGap) (within : Allows IsWithin system (.receive :: later))
    (running : (system.run (.receive :: later)).watcher.hasEnded = false)
    (serving : ¬ (system.run (.receive :: later)).watcher.HasStopped id)
    (registered : system.watcher.registry.keys[id]? = some key)
    (covers : key.covers document = true) :
    (∃ earlier others, .receive :: later = earlier ++ .receive :: others ∧
        (system.run earlier).Marks id document.id) ↔
      key = .entity document ∨ document ∈ (system.run (.receive :: later)).watcher.known := by
  obtain ⟨sound, -⟩ := reachable.isSound
  constructor
  · rintro ⟨earlier, others, split, marks⟩
    cases key with
    | entity watched =>
      have same : document = watched := by simpa [WatchKey.covers] using covers
      exact Or.inl (congrArg WatchKey.entity same.symm)
    | collection name =>
      have same : document.collection = name := by simpa [WatchKey.covers] using covers
      subst same
      rw [split] at within running serving ⊢
      exact Or.inr (mem_known_of_marks reachable within running serving registered marks)
  · intro held
    by_cases now : key = .entity document ∨ document ∈ system.watcher.known
    · -- The discontinuity itself reports the document.
      obtain ⟨rest, sent⟩ := gap
      obtain ⟨runs, serves, -⟩ := registered_during [] _ sound within running serving registered
      have marked := (Watcher.mem_marksOf_iff reachable.isExact registered covers).mpr
        (Watcher.reports_discontinuity_none now)
      exact ⟨[], later, rfl, marks_of_mem_marksOf sound runs registered serves sent marked⟩
    · -- It becomes known after the discontinuity, and whatever event teaches it marks it.
      obtain ⟨single, unknown⟩ := not_or.mp now
      have learned := Revisions.mem_iff_knows.mp (held.resolve_left single)
      have before := fun knows => unknown (Revisions.mem_iff_knows.mpr knows)
      obtain ⟨earlier, others, split, stillUnknown, soon⟩ := exists_receive_of_learned before learned
      rw [split] at within running serving
      obtain ⟨runs, serves, still⟩ :=
        registered_during earlier _ sound within running serving registered
      have soundThen := sound.run (Run.allows_append_iff.mp within).1
      exact ⟨earlier, others, split,
        marks_of_learned soundThen runs still serves covers stillUnknown soon⟩

/-! ## What is known in the end -/

/-- A poller that reports a gap has given up its place, on a log without snapshots. -/
theorem IsSound.restarted (sound : system.IsSound)
    (reports : (system.act .advance).queue = system.queue ++ [.discontinuity none]) :
    (system.act .advance).claimed = none ∧ system.log.supportsSnapshots = false := by
  rcases sound.progress with stopped | progress
  · have shorter : (system.act .advance).queue.length ≤ system.queue.length := by
      rw [stopped, queue, queue, Poller.queue, Poller.queue]
      simp [Stage.unsent]
    rw [reports, List.length_append] at shorter
    exact absurd shorter (by simp)
  · generalize (system.act .advance).queue = later at progress reports
    generalize (system.act .advance).claimed = claimed at progress
    generalize system.claimed = earlier at progress
    cases progress with
    | restarted _ unsupported => exact ⟨rfl, unsupported⟩
    | quiet | opened => simp at reports
    | read | completed => simp at reports
    | gaveUp _ event isGivingUp =>
      obtain rfl : event = .discontinuity none := by simpa using reports
      cases isGivingUp
    | refreshed _ event _ brings =>
      obtain rfl : event = .discontinuity none := by simpa using reports
      rcases brings with same | same <;> cases same

/-- Targets stay guarded through a run at every moment of which the reader is moored. -/
theorem IsGuarded.run_of_isMoored {base : Position} {first : Nat} {targets : List Change}
    (guarded : system.IsGuarded base first targets) (within : Allows IsWithin system actions)
    (moored : ∀ earlier later, actions = earlier ++ later → (system.run earlier).IsMoored base) :
    (system.run actions).IsGuarded base first targets := by
  induction actions generalizing system with
  | nil => exact guarded
  | cons action rest ih =>
    refine ih (guarded.act_of_isMoored within.1 (moored [] _ rfl)) within.2 ?_
    rintro earlier later rfl
    exact moored (action :: earlier) later rfl

/-- **What is still held when the reader begins anew is read before the cycle ends.** -/
theorem mem_known_of_retained {after : List Action} {rest : List Event} {index : Position}
    {change : Change} (reachable : system.IsReachable supportsSnapshots)
    (within : Allows IsWithin system (.advance :: after))
    (current : system.stage.running = some seq)
    (reports : (system.act .advance).queue = system.queue ++ [.discontinuity none])
    (ends : (system.run (.advance :: after)).poller.outbox = .cycleComplete seq :: rest)
    (running : (system.run (.advance :: after)).watcher.hasEnded = false)
    (found : system.history[index]? = some change)
    (moored : ∀ earlier later, after = earlier ++ later →
      ((system.act .advance).run earlier).IsMoored index) :
    change.document ∈ (system.run (.advance :: after)).watcher.known := by
  obtain ⟨sound, -⟩ := reachable.isSound
  obtain ⟨nothing, -⟩ := sound.restarted reports
  have history : (system.act .advance).history = system.history := rfl
  have guarded : (system.act .advance).IsGuarded index seq [change] := by
    refine ⟨sound.advance, fun _ other member => ?_, fun _ earlier other later split enough => ?_, ?_⟩
    · rw [nothing, Option.getD_none, between_of_le (show Position.origin ≤ index from Nat.zero_le _)]
        at member
      cases member
    · -- Only ends of earlier cycles are in the queue yet.
      have member : .cycleComplete other ∈ (system.act .advance).queue := by
        rw [split]
        exact List.mem_append_right _ List.mem_cons_self
      rw [reports] at member
      have old := (List.mem_append.mp member).resolve_right (by simp)
      exact absurd (reachable.lt_of_mem_queue current old) (Nat.not_lt_of_le enough)
    · intro other same
      rw [List.mem_singleton.mp same, history]
      exact mem_between_iff.mpr
        ⟨index, Nat.le_refl _, (List.getElem?_eq_some_iff.mp found).1, found⟩
  have last := guarded.run_of_isMoored within.2 moored
  exact (last.knows running ends (Nat.le_refl _) (List.mem_singleton.mpr rfl)).mem

/-- Nothing of the document is known or under way, and the reader is past the start. -/
structure HasLost (document : Document) (start : Position) (system : System) : Prop where
  beyond : system.stage ≠ .resting .stopped →
    ∀ position, system.claimed = some position → start ≤ position
  unknown : document ∉ system.watcher.known
  untold : ∀ event ∈ system.queue, ∀ change ∈ event.changes, change.document ≠ document

/-- There are no snapshots, and no change of the document is to be read from the start on. -/
structure IsDevoidOf (document : Document) (start : Position) (system : System) : Prop where
  unsupported : system.log.supportsSnapshots = false
  expired : start ≤ system.log.horizon
  gone : ∀ (position : Position) (change : Change), start ≤ position →
    system.history[position]? = some change → change.document ≠ document

theorem history_run (system : System) (actions : List Action) :
    ∃ more, (system.run actions).history = system.history ++ more := by
  induction actions generalizing system with
  | nil => exact ⟨[], (List.append_nil _).symm⟩
  | cons action rest ih =>
    obtain ⟨first, grown⟩ := history_act system action
    obtain ⟨more, later⟩ := ih (system.act action)
    refine ⟨first ++ more, ?_⟩
    rw [run_cons, later, grown, List.append_assoc]

theorem horizon_le_act (sound : system.IsSound) (action : Action) :
    system.log.horizon ≤ (system.act action).log.horizon := by
  by_cases edits : ∃ edit, action = .edit edit
  · obtain ⟨edit, rfl⟩ := edits
    exact system.log.horizon_le_edit edit
  · exact Nat.le_of_eq (sound.contents_act fun edit same => edits ⟨edit, same⟩).horizon_eq.symm

/-- A poller that begins beyond all changes of the document reads none of them. -/
theorem HasLost.advance {start : Position} (lost : system.HasLost document start)
    (sound : system.IsSound) (devoid : system.IsDevoidOf document start) :
    (system.act .advance).HasLost document start := by
  by_cases halted : system.stage = .resting .stopped
  · rwa [advance_of_stopped halted]
  rcases sound.progress with stopped | progress
  · rw [stopped]
    refine ⟨absurd rfl, lost.unknown, fun event member => lost.untold event ?_⟩
    exact List.mem_append_left _ (by simpa [queue, Poller.queue, Stage.unsent] using member)
  · have untold := lost.untold
    have beyond := lost.beyond halted
    have silent : ∀ {event : Event}, event.changes = [] →
        ∀ other ∈ system.queue ++ [event], ∀ change ∈ other.changes, change.document ≠ document := by
      intro event nothing other member change listed
      rcases List.mem_append.mp member with old | new
      · exact untold other old change listed
      · rw [List.mem_singleton.mp new, nothing] at listed
        cases listed
    have both : (∀ position, (system.act .advance).claimed = some position → start ≤ position) ∧
        ∀ event ∈ (system.act .advance).queue, ∀ change ∈ event.changes,
          change.document ≠ document := by
      generalize (system.act .advance).queue = later at progress ⊢
      generalize (system.act .advance).claimed = claimed at progress ⊢
      generalize system.claimed = before at progress beyond
      cases progress with
      | quiet => exact ⟨beyond, untold⟩
      | opened => exact ⟨fun _ same => Option.some.inj same ▸ devoid.expired, untold⟩
      | read first stop follows held =>
        have later : start ≤ first := beyond first rfl
        refine ⟨fun _ same => ?_, fun event member change listed => ?_⟩
        · exact Option.some.inj same ▸ Nat.le_trans later (Nat.le_of_lt follows)
        · rcases List.mem_append.mp member with old | new
          · exact untold event old change listed
          · rw [List.mem_singleton.mp new] at listed
            obtain ⟨index, reached, -, found⟩ := mem_between_iff.mp listed
            exact devoid.gone index change (Nat.le_trans later reached) found
      | completed => exact ⟨beyond, silent rfl⟩
      | gaveUp _ event isGivingUp =>
        refine ⟨beyond, silent ?_⟩
        cases event with
        | cycleAborted _ _ | fatal _ => rfl
        | primed _ | batch _ | discontinuity _ | cycleComplete _ => cases isGivingUp
      | refreshed _ _ supports =>
        rw [devoid.unsupported] at supports
        cases supports
      | restarted =>
        refine ⟨fun position found => ?_, silent rfl⟩
        cases found
    exact ⟨fun _ => both.1, lost.unknown, both.2⟩

theorem HasLost.congr {start : Position} (lost : system.HasLost document start) {after : System}
    (stage : after.stage ≠ .resting .stopped →
      system.stage ≠ .resting .stopped ∧ after.claimed = system.claimed)
    (known : after.watcher.known = system.watcher.known) (queue : after.queue = system.queue) :
    after.HasLost document start where
  beyond runs := (stage runs).2 ▸ lost.beyond (stage runs).1
  unknown := known ▸ lost.unknown
  untold := queue ▸ lost.untold

/-- A document that has been lost stays lost, as long as nothing new of it is committed. -/
theorem HasLost.act {start : Position} (lost : system.HasLost document start)
    (sound : system.IsSound) (devoid : system.IsDevoidOf document start) (action : Action) :
    (system.act action).HasLost document start := by
  cases action with
  | edit _ | signal _ | leave => exact lost.congr (fun runs => ⟨runs, rfl⟩) rfl rfl
  | input input =>
    exact lost.congr (fun runs => ⟨runs, rfl⟩) (system.watcher.known_take input) rfl
  | advance => exact lost.advance sound devoid
  | beginCycle =>
    rcases act_beginCycle_cases system with same | ⟨seq, idle, -, begun⟩
    · rwa [same]
    · rw [begun]
      refine lost.congr (fun _ => ⟨by rw [idle]; nofun, ?_⟩) rfl ?_
      · rw [claimed, claimed, idle]
        rfl
      · rw [queue, queue, idle]
        rfl
  | retire =>
    by_cases idle : system.stage = .resting .idle
    · have retired : system.act .retire = { system with stage := .resting .stopped } := if_pos idle
      rw [retired]
      refine lost.congr (absurd rfl) rfl ?_
      rw [queue, queue, idle]
      rfl
    · have same : system.act .retire = system := if_neg idle
      rwa [same]
  | receive =>
    rcases act_receive_cases system with ⟨-, same⟩ | ⟨event, rest, -, whole, received⟩
    · rwa [same]
    · have untold := lost.untold
      rw [whole] at untold
      rw [received]
      refine ⟨lost.beyond, ?_, fun other member => untold other (List.mem_cons_of_mem _ member)⟩
      show document ∉ (system.watcher.receive event).known
      cases ended : system.watcher.hasEnded with
      | true =>
        have still : system.watcher.receive event = system.watcher := if_pos ended
        rw [still]
        exact lost.unknown
      | false =>
        rw [Watcher.receive_known ended event]
        intro member
        rcases Revisions.exists_of_mem_observeAll member with before | ⟨change, listed, same⟩
        · exact lost.unknown before
        · exact untold event List.mem_cons_self change listed same

/-- A log that is devoid of a document in the end has been so before. -/
theorem isDevoidOf_of_run {start : Position} (unsupported : system.log.supportsSnapshots = false)
    (expired : start ≤ system.log.horizon)
    (gone : ∀ (position : Position) (change : Change), start ≤ position →
      (system.run actions).history[position]? = some change → change.document ≠ document) :
    system.IsDevoidOf document start := by
  refine ⟨unsupported, expired, fun position change reached found => ?_⟩
  obtain ⟨more, grown⟩ := history_run system actions
  refine gone position change reached ?_
  rw [grown, List.getElem?_append_left (List.getElem?_eq_some_iff.mp found).1, found]

/-- **A document that has been lost is not learned of**, unless it is committed to anew. -/
theorem HasLost.run {start : Position} (lost : system.HasLost document start)
    (sound : system.IsSound) (within : Allows IsWithin system actions)
    (unsupported : system.log.supportsSnapshots = false) (expired : start ≤ system.log.horizon)
    (gone : ∀ (position : Position) (change : Change), start ≤ position →
      (system.run actions).history[position]? = some change → change.document ≠ document) :
    (system.run actions).HasLost document start := by
  induction actions generalizing system with
  | nil => exact lost
  | cons action rest ih =>
    have devoid := isDevoidOf_of_run unsupported expired gone
    exact ih (lost.act sound devoid action) (sound.act within.1) within.2
      ((supportsSnapshots_act sound action).trans unsupported)
      (Nat.le_trans expired (horizon_le_act sound action)) gone

/-- **What was truncated before it was read is not known when the cycle ends.** -/
theorem not_mem_known_of_truncated {after : List Action} (sound : system.IsSound)
    (within : Allows IsWithin system (.advance :: after))
    (reports : (system.act .advance).queue = system.queue ++ [.discontinuity none])
    (unknown : document ∉ system.knownAfter system.queue)
    (gone : ∀ (position : Position) (change : Change), system.log.horizon ≤ position →
      (system.run (.advance :: after)).history[position]? = some change →
        change.document ≠ document) :
    document ∉ (system.run (.advance :: after)).watcher.known := by
  obtain ⟨nothing, unsupported⟩ := sound.restarted reports
  have horizon := horizon_le_act sound .advance
  have lost : (system.act .advance).HasLost document system.log.horizon := by
    refine ⟨fun _ position claimed => ?_, fun member => unknown ?_, fun event member change listed => ?_⟩
    · rw [nothing] at claimed
      cases claimed
    · exact Revisions.mem_observeAll member _
    · rintro rfl
      rw [reports] at member
      rcases List.mem_append.mp member with old | new
      · exact unknown
          (Revisions.knows_observeAll_of_mem _ (List.mem_flatMap.mpr ⟨event, old, listed⟩)).mem
      · rw [List.mem_singleton.mp new] at listed
        cases listed
  exact (lost.run sound.advance within.2 ((supportsSnapshots_act sound _).trans unsupported) horizon
    gone).unknown

/-! ## The law of the gap -/

/-- A gap that is reported is ahead of the end of its cycle. -/
theorem IsReachable.isAheadOf (reachable : system.IsReachable supportsSnapshots)
    (current : system.stage.running = some seq)
    (reports : (system.act .advance).queue = system.queue ++ [.discontinuity none]) :
    (system.act .advance).IsAheadOf seq :=
  Or.inl ⟨system.queue, [], reports,
    fun member => Nat.lt_irrefl seq (reachable.lt_of_mem_queue current member)⟩

/-- **What a gap leaves unreported.** On a log without snapshots let a cycle report that the place of
its reader is lost, and let the watcher come to the end of that cycle. Then it has handled the
discontinuity, and since then a document has been marked for a subscription exactly if the
subscription watches it alone or the watcher knows the document in the end. A change is known in the
end if it was still held whenever the reader had no place. It is unknown if neither the watcher nor
the queue had any change of the document and all of them had been truncated. -/
theorem gap_is_marked_iff_known {after : List Action} {rest : List Event}
    (reachable : system.IsReachable false) (within : Allows IsWithin system (.advance :: after))
    (current : system.stage.running = some seq)
    (reports : (system.act .advance).queue = system.queue ++ [.discontinuity none])
    (ends : (system.run (.advance :: after)).poller.outbox = .cycleComplete seq :: rest)
    (running : (system.run (.advance :: after)).watcher.hasEnded = false) :
    let reported := system.act .advance
    let last := system.run (.advance :: after)
    (∃ before later, after = before ++ .receive :: later ∧ (reported.run before).IsAtGap) ∧
    (∀ before later, after = before ++ .receive :: later → (reported.run before).IsAtGap →
      ∀ id key document, (reported.run before).watcher.registry.keys[id]? = some key →
        ¬ last.watcher.HasStopped id → key.covers document = true →
        ((∃ earlier others, .receive :: later = earlier ++ .receive :: others ∧
            ((reported.run before).run earlier).Marks id document.id) ↔
          key = .entity document ∨ document ∈ last.watcher.known)) ∧
    ∀ (index : Position) (change : Change), system.history[index]? = some change →
      ((∀ earlier later, after = earlier ++ later → (reported.run earlier).IsMoored index) →
        change.document ∈ last.watcher.known) ∧
      (change.document ∉ system.knownAfter system.queue →
        (∀ (position : Position) (other : Change), system.log.horizon ≤ position →
          last.history[position]? = some other → other.document ≠ change.document) →
        change.document ∉ last.watcher.known) := by
  intro reported last
  obtain ⟨sound, -⟩ := reachable.isSound
  have first : Allows IsWithin system [.advance] := ⟨trivial, trivial⟩
  have reachableThen : reported.IsReachable false := reachable.run first
  refine ⟨?_, ?_, fun index change found => ⟨fun moored => ?_, fun unknown gone => ?_⟩⟩
  · exact exists_isAtGap (reachable.isAheadOf current reports) sound.advance within.2 ends
  · rintro before later rfl gap id key document registered serving covers
    obtain ⟨withinBefore, withinLater⟩ := Run.allows_append_iff.mp within.2
    have split : last = (reported.run before).run (.receive :: later) := by
      show reported.run (before ++ .receive :: later) = _
      rw [run_append]
    have runs : last.watcher.hasEnded = false := running
    rw [split] at serving runs ⊢
    exact exists_marks_iff (reachableThen.run withinBefore) gap withinLater runs serving registered
      covers
  · exact mem_known_of_retained reachable within current reports ends running found moored
  · exact not_mem_known_of_truncated sound within reports unknown gone

/-- A cycle is under way on a log without snapshots. Since the reader committed its place, an apple
has been truncated unread and a pear is still held; fruit is being watched. -/
def overtaken : System :=
  (start {} .snapshot false).run
    ([.input .tick, .advance, .beginCycle] ++ List.replicate 3 .advance ++
      [.receive, .input (.watch (.collection "fruit") none), .edit (.upsert ⟨"fruit", "apple"⟩),
        .edit (.truncate 1), .edit (.upsert ⟨"fruit", "pear"⟩), .input .requestSync, .beginCycle,
        .advance, .advance])

/-- What is left of the cycle, up to the moment at which the watcher comes to its end. -/
def restOfCycle : List Action :=
  List.replicate 8 .advance ++ [.receive, .receive]

theorem isReachable_overtaken : overtaken.IsReachable false :=
  ⟨{}, .snapshot, _, by decide, rfl⟩

/-- The pear is read after the gap, and marked for the subscription to fruit. -/
theorem retained_pear_is_marked :
    restOfCycle = List.replicate 8 .advance ++ .receive :: [.receive] ∧
      ((overtaken.act .advance).run (List.replicate 8 .advance)).IsAtGap ∧
      ∃ earlier others, .receive :: [.receive] = earlier ++ .receive :: others ∧
        (((overtaken.act .advance).run (List.replicate 8 .advance)).run earlier).Marks 1 "pear" := by
  have within : Allows IsWithin overtaken (.advance :: restOfCycle) := by decide
  have current : overtaken.stage.running = some 1 := by decide
  have reports : (overtaken.act .advance).queue = overtaken.queue ++ [.discontinuity none] := by decide
  have ends : (overtaken.run (.advance :: restOfCycle)).poller.outbox = [.cycleComplete 1] := by decide
  have running : (overtaken.run (.advance :: restOfCycle)).watcher.hasEnded = false := by decide
  have found : overtaken.history[1]? = some (.update ⟨"fruit", "pear"⟩ 1) := by decide
  have gap : ((overtaken.act .advance).run (List.replicate 8 .advance)).IsAtGap :=
    ⟨[.batch [.update ⟨"fruit", "pear"⟩ 1], .cycleComplete 1], by decide⟩
  have registered : ((overtaken.act .advance).run
      (List.replicate 8 .advance)).watcher.registry.keys[1]? = some (.collection "fruit") := by decide
  have serving : ¬ (overtaken.run (.advance :: restOfCycle)).watcher.HasStopped 1 := by decide
  have moored : ∀ earlier later, restOfCycle = earlier ++ later →
      ((overtaken.act .advance).run earlier).IsMoored 1 := by
    intro earlier later split
    have always : ∀ count ≤ restOfCycle.length,
        ((overtaken.act .advance).run (restOfCycle.take count)).IsMoored 1 := by
      unfold IsMoored
      decide
    have short : earlier.length ≤ restOfCycle.length := by
      rw [split, List.length_append]
      exact Nat.le_add_right _ _
    have prefixes := always earlier.length short
    rwa [split, List.take_left] at prefixes
  obtain ⟨-, marks, ends⟩ :=
    gap_is_marked_iff_known isReachable_overtaken within current reports ends running
  refine ⟨rfl, gap, (marks _ _ rfl gap 1 _ ⟨"fruit", "pear"⟩ registered serving (by decide)).mpr ?_⟩
  exact Or.inr ((ends 1 _ found).1 moored)

/-- The apple was committed behind the place of the reader, and is the first of its kind. The
subscription to fruit is never told of it. -/
theorem truncated_apple_is_unmarked :
    overtaken.IsReachable false ∧ Allows IsWithin overtaken (.advance :: restOfCycle) ∧
      overtaken.stage.running = some 1 ∧
      (overtaken.act .advance).queue = overtaken.queue ++ [.discontinuity none] ∧
      (overtaken.run (.advance :: restOfCycle)).poller.outbox = [.cycleComplete 1] ∧
      (overtaken.run (.advance :: restOfCycle)).watcher.hasEnded = false ∧
      overtaken.poller.reader.committed = some 0 ∧
      overtaken.history[0]? = some (.update ⟨"fruit", "apple"⟩ 1) ∧
      overtaken.watcher.registry.keys[1]? = some (.collection "fruit") ∧
      ¬ (overtaken.run (.advance :: restOfCycle)).watcher.HasStopped 1 ∧
      ∀ earlier later, .advance :: restOfCycle = earlier ++ .receive :: later →
        ¬ (overtaken.run earlier).Marks 1 "apple" := by
  have within : Allows IsWithin overtaken (.advance :: restOfCycle) := by decide
  have running : (overtaken.run (.advance :: restOfCycle)).watcher.hasEnded = false := by decide
  have registered : overtaken.watcher.registry.keys[1]? = some (.collection "fruit") := by decide
  have serving : ¬ (overtaken.run (.advance :: restOfCycle)).watcher.HasStopped 1 := by decide
  refine ⟨isReachable_overtaken, within, by decide, by decide, by decide, running, by decide,
    by decide, registered, serving, ?_⟩
  intro earlier later split marks
  have unknown : (⟨"fruit", "apple"⟩ : Document) ∉
      (overtaken.run (.advance :: restOfCycle)).watcher.known := by decide
  rw [split] at within running serving unknown
  have fruit : overtaken.watcher.registry.keys[1]? =
      some (.collection (⟨"fruit", "apple"⟩ : Document).collection) := registered
  exact unknown (mem_known_of_marks isReachable_overtaken within running serving fruit marks)

end System

end ChangeFeed
