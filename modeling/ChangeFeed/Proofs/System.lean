/-
# The whole system, one action at a time

A system is a log with its poller and a watcher behind it. Writers edit the log, the poller makes
one request, sends one event or waits once, and the watcher handles one event or one request, in any
order whatever: a run is a list of such actions. Events are received in the order in which they were
sent. The history of the log is carried along for the sake of what is said about it; no action reads
it.

`IsSound` is what holds at every moment of every run that truncates nothing beyond the head. What
else a run keeps depends on when one begins to look, and is left to the modules that look.
-/

import ChangeFeed.Node
import ChangeFeed.Proofs.Desk
import ChangeFeed.Proofs.Progress
import ChangeFeed.Proofs.Run

namespace ChangeFeed

structure System where
  poller : Poller MemoryLog MemoryLog.Cursor
  stage : Stage
  watcher : Watcher
  /-- Every change ever committed to the log. -/
  history : List Change := []

namespace System

/-- What can happen next in a system. -/
inductive Action where
  /-- Somebody edits the log. -/
  | edit (edit : MemoryLog.Edit)
  /-- The poller takes a step. -/
  | advance
  /-- The poller, if it is idle, takes the poll that waits for it. -/
  | beginCycle
  /-- The poller, if it is idle, is told to stop. -/
  | retire
  /-- Something happens on the line over which the poller is told to stop. -/
  | signal (line : StopLine)
  /-- The poller loses its watcher. -/
  | leave
  /-- The watcher handles the oldest event. -/
  | receive
  /-- The watcher is asked something. -/
  | input (input : Watcher.Input)
  deriving DecidableEq, Repr

/-- The log that is read. -/
def log (system : System) : MemoryLog :=
  system.poller.reader.source

/-- Every event that the watcher has still to handle. -/
def queue (system : System) : List Event :=
  system.poller.queue system.stage

/-- The position up to which the queue brings the history. -/
def claimed (system : System) : Option Position :=
  system.poller.claimed system.stage

/-- The system after an action. -/
def act (system : System) : Action → System
  | .edit edit =>
    { system with
      poller.reader.source := system.log.edit edit
      history := system.history ++ (system.log.committedBy? edit).toList }
  | .advance =>
    let (stage, poller) := system.poller.step system.stage
    { system with stage, poller }
  | .beginCycle =>
    match system.stage, system.watcher.takePoll with
    | .resting .idle, (some seq, watcher) =>
      { system with stage := .resting (.turning seq 0), watcher }
    | _, _ => system
  | .retire => if system.stage = .resting .idle then { system with stage := .resting .stopped } else system
  | .signal line => { system with poller.stopLine := line }
  | .leave => { system with poller.watched := false }
  | .receive =>
    match system.poller.outbox with
    | [] => system
    | event :: rest =>
      { system with poller.outbox := rest, watcher := system.watcher.receive event }
  | .input input => { system with watcher := system.watcher.take input }

/-- The system after actions, in order. -/
def run (system : System) (actions : List Action) : System :=
  actions.foldl act system

/-- Every action is allowed at its moment. -/
abbrev Allows (allowed : System → Action → Prop) (system : System) (actions : List Action) : Prop :=
  Run.Allows act allowed system actions

/-- The action truncates nothing beyond the head of the log. -/
def IsWithin (system : System) : Action → Prop
  | .edit edit => edit.IsWithin system.log
  | _ => True

instance (system : System) (action : Action) : Decidable (system.IsWithin action) := by
  cases action <;> unfold IsWithin <;> infer_instance

/-- A new system on an empty log, as it is set: its poller takes a snapshot first if it is to, and
the poll clock has not ticked yet. -/
def start (settings : Settings) (strategy : Strategy) (supportsSnapshots : Bool) : System where
  poller := Node.newPoller settings (MemoryLog.empty supportsSnapshots)
  stage := .resting (if settings.watcher.primeFromSnapshot then .priming 0 else .idle)
  watcher := Watcher.start strategy

theorem run_append (system : System) (first second : List Action) :
    system.run (first ++ second) = (system.run first).run second :=
  List.foldl_append

theorem run_cons (system : System) (action : Action) (rest : List Action) :
    system.run (action :: rest) = (system.act action).run rest :=
  rfl

/-! ## What always holds -/

/-- The cycle has been begun, and its end may still be under way to the watcher. -/
def IsUnderWay (system : System) (seq : Nat) : Prop :=
  .cycleComplete seq ∈ system.queue ∨ system.stage.running = some seq

/-- Polls are numbered upwards: what has been begun was issued before what waits to be taken, and
that before what will be issued. -/
structure InOrder (system : System) : Prop where
  issued : ∀ seq, system.IsUnderWay seq → seq < system.watcher.nextSeq
  waiting : ∀ poll, system.watcher.polls.waiting = some poll →
    poll < system.watcher.nextSeq ∧ ∀ seq, system.IsUnderWay seq → seq < poll

/-- Somebody committed news of the document at this revision or beyond. -/
def IsCommitted (system : System) (change : Change) : Prop :=
  ∃ earlier ∈ system.history, earlier.document = change.document ∧ change.revno ≤ earlier.revno

/-- What holds at every moment. -/
structure IsSound (system : System) : Prop where
  stands : system.poller.Stands system.history system.stage
  /-- The watcher knows nothing that was not committed. -/
  known : ∀ change, system.watcher.known.Knows change → system.IsCommitted change
  /-- Neither does it hear of anything else. -/
  queued : ∀ event ∈ system.queue, ∀ change ∈ event.changes, system.IsCommitted change
  inOrder : system.InOrder
  ticketed : system.watcher.desk.IsTicketed
  orderly : system.watcher.hasEnded = false → system.watcher.Orderly

variable {system : System}

theorem act_beginCycle_cases (system : System) :
    system.act .beginCycle = system ∨
      ∃ seq, system.stage = .resting .idle ∧ system.watcher.polls.waiting = some seq ∧
        system.act .beginCycle =
          { system with
            stage := .resting (.turning seq 0)
            watcher := { system.watcher with polls := { system.watcher.polls with waiting := none } } } := by
  cases idle : decide (system.stage = .resting .idle) with
  | false =>
    apply Or.inl
    simp only [act]
    split
    · next stage _ => exact absurd stage (of_decide_eq_false idle)
    · rfl
  | true =>
    have stage := of_decide_eq_true idle
    cases waiting : system.watcher.polls.waiting with
    | none =>
      apply Or.inl
      simp [act, stage, Watcher.takePoll, PollSlot.take, waiting]
    | some seq =>
      refine Or.inr ⟨seq, stage, rfl, ?_⟩
      simp [act, stage, Watcher.takePoll, PollSlot.take, waiting]

theorem act_receive_cases (system : System) :
    system.poller.outbox = [] ∧ system.act .receive = system ∨
      ∃ event rest, system.poller.outbox = event :: rest ∧
        system.queue = event :: (rest ++ system.stage.unsent) ∧
        system.act .receive =
          { system with
            poller := { system.poller with outbox := rest }
            watcher := system.watcher.receive event } := by
  cases sent : system.poller.outbox with
  | nil => exact Or.inl ⟨rfl, by simp [act, sent]⟩
  | cons event rest =>
    refine Or.inr ⟨event, rest, rfl, ?_, by simp [act, sent]⟩
    rw [queue, Poller.queue, sent, List.cons_append]

/-- An action concerns the watcher when it takes its poll, handles an event or is asked something. -/
theorem act_watcher_cases (system : System) (action : Action) :
    (system.act action).watcher = system.watcher ∨
      (system.act action).watcher =
        { system.watcher with polls := { system.watcher.polls with waiting := none } } ∨
      (∃ event rest, action = .receive ∧ system.poller.outbox = event :: rest ∧
        (system.act action).watcher = system.watcher.receive event) ∨
      ∃ input, action = .input input ∧ (system.act action).watcher = system.watcher.take input := by
  cases action with
  | edit _ | advance | signal _ | leave => exact Or.inl rfl
  | beginCycle =>
    rcases act_beginCycle_cases system with same | ⟨_, _, _, begun⟩
    · exact Or.inl (by rw [same])
    · exact Or.inr (Or.inl (by rw [begun]))
  | retire =>
    simp only [act]
    split <;> exact Or.inl rfl
  | receive =>
    rcases act_receive_cases system with ⟨-, same⟩ | ⟨event, rest, sent, _, received⟩
    · exact Or.inl (by rw [same])
    · exact Or.inr (Or.inr (Or.inl ⟨event, rest, rfl, sent, by rw [received]⟩))
  | input input => exact Or.inr (Or.inr (Or.inr ⟨input, rfl, rfl⟩))

/-- Only an edit adds to the history. -/
theorem history_act_of_ne_edit {action : Action} (others : ∀ edit, action ≠ .edit edit) :
    (system.act action).history = system.history := by
  cases action with
  | edit edit => exact absurd rfl (others edit)
  | advance | signal _ | leave | input _ => rfl
  | beginCycle =>
    rcases act_beginCycle_cases system with same | ⟨_, _, _, begun⟩
    · rw [same]
    · rw [begun]
  | retire =>
    simp only [act]
    split <;> rfl
  | receive =>
    rcases act_receive_cases system with ⟨-, same⟩ | ⟨_, _, _, _, received⟩
    · rw [same]
    · rw [received]

/-- A watcher that still runs has run before. -/
theorem running_of_act {action : Action} (running : (system.act action).watcher.hasEnded = false) :
    system.watcher.hasEnded = false := by
  rcases act_watcher_cases system action with same | same | ⟨_, _, _, _, same⟩ | ⟨_, -, same⟩
  · exact same ▸ running
  · rw [same] at running
    exact running
  · exact Watcher.running_of_receive (same ▸ running)
  · exact Watcher.running_of_take (same ▸ running)

theorem IsCommitted.append {change : Change} (committed : system.IsCommitted change)
    {after : System} {more : List Change} (grown : after.history = system.history ++ more) :
    after.IsCommitted change := by
  obtain ⟨earlier, member, taught⟩ := committed
  exact ⟨earlier, grown ▸ List.mem_append_left more member, taught⟩

/-- The step of the poller. -/
theorem IsSound.moves (sound : system.IsSound) :
    Poller.Moves system.history (system.stage, system.poller) (system.poller.step system.stage) :=
  sound.stands.step

/-- Nothing but an edit changes the contents of the log. -/
theorem IsSound.contents_act (sound : system.IsSound) {action : Action}
    (kept : ∀ edit, action ≠ .edit edit) : (system.act action).log.SameContents system.log := by
  cases action with
  | edit edit => exact absurd rfl (kept edit)
  | advance => exact sound.moves.contents
  | beginCycle =>
    rcases act_beginCycle_cases system with same | ⟨_, _, _, begun⟩
    · rw [same]
      exact .refl _
    · rw [begun]
      exact .refl _
  | retire =>
    simp only [act]
    split <;> exact .refl _
  | signal _ | leave | input _ => exact .refl _
  | receive =>
    rcases act_receive_cases system with ⟨-, same⟩ | ⟨_, _, _, _, received⟩
    · rw [same]
      exact .refl _
    · rw [received]
      exact .refl _

/-- What the step of the poller does to queue and claim. -/
theorem IsSound.progress (sound : system.IsSound) :
    system.act .advance = { system with stage := .resting .stopped } ∨
      Poller.Progress system.history system.log system.stage.running system.queue system.claimed
        (system.act .advance).queue (system.act .advance).claimed := by
  rcases sound.moves.progress with ⟨stopped, -⟩ | progress
  · apply Or.inl
    simp only [act, stopped]
  · exact Or.inr progress

/-- What a step puts into the queue was committed, and completes the cycle under way if any. -/
theorem IsSound.mem_queue_advance (sound : system.IsSound) {event : Event}
    (member : event ∈ (system.act .advance).queue) :
    event ∈ system.queue ∨
      (∀ change ∈ event.changes, system.IsCommitted change) ∧
        ∀ seq, event = .cycleComplete seq → system.stage.running = some seq := by
  rcases sound.progress with stopped | progress
  · rw [stopped] at member
    exact Or.inl (List.mem_append_left _ (by simpa [queue, Poller.queue, Stage.unsent] using member))
  · generalize (system.act .advance).queue = later at progress member
    generalize (system.act .advance).claimed = claimedLater at progress
    generalize system.claimed = claimed at progress
    have snapshot : ∀ change ∈ system.log.revisions.toChanges, system.IsCommitted change :=
      fun change listed => sound.stands.records.exists_of_mem_snapshot listed
    cases progress with
    | quiet | opened => exact Or.inl member
    | read start stop later held =>
      apply (List.mem_append.mp member).imp_right
      intro new
      rw [List.mem_singleton.mp new]
      refine ⟨fun change listed => ?_, fun _ same => by cases same⟩
      obtain ⟨index, -, -, found⟩ := mem_between_iff.mp listed
      exact ⟨change, List.mem_of_getElem? found, rfl, Int64.le_refl _⟩
    | completed seq position current reached =>
      apply (List.mem_append.mp member).imp_right
      intro new
      rw [List.mem_singleton.mp new]
      refine ⟨fun change listed => (by cases listed), fun other same => ?_⟩
      cases same
      exact current
    | gaveUp _ given isGivingUp =>
      apply (List.mem_append.mp member).imp_right
      intro new
      rw [List.mem_singleton.mp new]
      cases given with
      | cycleAborted _ _ | fatal _ =>
        exact ⟨fun change listed => (by cases listed), fun _ same => by cases same⟩
      | primed _ | batch _ | discontinuity _ | cycleComplete _ => cases isGivingUp
    | refreshed _ given supports brings =>
      apply (List.mem_append.mp member).imp_right
      intro new
      rw [List.mem_singleton.mp new]
      rcases brings with rfl | rfl
      · exact ⟨snapshot, fun _ same => by cases same⟩
      · exact ⟨snapshot, fun _ same => by cases same⟩
    | restarted _ supports =>
      apply (List.mem_append.mp member).imp_right
      intro new
      rw [List.mem_singleton.mp new]
      exact ⟨fun change listed => (by cases listed), fun _ same => by cases same⟩

/-- A step begins no cycle. -/
theorem IsSound.isUnderWay_advance (sound : system.IsSound) {seq : Nat}
    (underWay : (system.act .advance).IsUnderWay seq) : system.IsUnderWay seq := by
  rcases underWay with member | running
  · exact (sound.mem_queue_advance member).imp_right fun new => new.2 seq rfl
  · exact Or.inr (sound.moves.running seq running)

/-- Order is kept when nothing is begun and the watcher advances. -/
theorem InOrder.advance (inOrder : system.InOrder) {completed : Option Nat} {after : System}
    (begun : ∀ seq, after.IsUnderWay seq → system.IsUnderWay seq)
    (advances : Watcher.Advances completed system.watcher after.watcher) : after.InOrder where
  issued seq underWay := Nat.lt_of_lt_of_le (inOrder.issued seq (begun seq underWay)) advances.issued
  waiting poll held := by
    rcases advances.waiting poll held with old | new
    · obtain ⟨below, later⟩ := inOrder.waiting poll old
      exact ⟨Nat.lt_of_lt_of_le below advances.issued, fun seq underWay => later seq (begun seq underWay)⟩
    · refine ⟨new.2, fun seq underWay => ?_⟩
      exact Nat.lt_of_lt_of_le (inOrder.issued seq (begun seq underWay)) new.1

theorem IsSound.edit (sound : system.IsSound) {edit : MemoryLog.Edit}
    (within : edit.IsWithin system.log) : (system.act (.edit edit)).IsSound where
  stands := sound.stands.edit within
  known change knows := (sound.known change knows).append rfl
  queued event member change listed := (sound.queued event member change listed).append rfl
  inOrder := ⟨sound.inOrder.issued, sound.inOrder.waiting⟩
  ticketed := sound.ticketed
  orderly := sound.orderly

theorem IsSound.advance (sound : system.IsSound) : (system.act .advance).IsSound where
  stands := sound.moves.stands
  known := sound.known
  queued event member change listed :=
    (sound.mem_queue_advance member).elim (fun old => sound.queued event old change listed)
      fun new => new.1 change listed
  inOrder := sound.inOrder.advance (fun _ underWay => sound.isUnderWay_advance underWay)
    (Watcher.advances_refl none _)
  ticketed := sound.ticketed
  orderly := sound.orderly

theorem IsSound.beginCycle (sound : system.IsSound) : (system.act .beginCycle).IsSound := by
  rcases act_beginCycle_cases system with same | ⟨seq, idle, waiting, begun⟩
  · rw [same]
    exact sound
  · obtain ⟨below, later⟩ := sound.inOrder.waiting seq waiting
    have stands : system.poller.Stands system.history (.resting (.turning seq 0)) :=
      { sound.stands with placed := (idle ▸ sound.stands.placed :) }
    have queue : (system.act .beginCycle).queue = system.queue := by
      rw [begun, System.queue, System.queue, idle]
      rfl
    rw [begun] at queue ⊢
    refine ⟨stands, sound.known, ?_, ⟨?_, ?_⟩, sound.ticketed, ?_⟩
    · intro event member
      exact sound.queued event (queue ▸ member)
    · rintro other (member | running)
      · exact sound.inOrder.issued other (Or.inl (queue ▸ member))
      · cases running
        exact below
    · intro poll held
      cases held
    · exact fun running => { sound.orderly running with }

theorem IsSound.retire (sound : system.IsSound) : (system.act .retire).IsSound := by
  by_cases idle : system.stage = .resting .idle
  · have retired : system.act .retire = { system with stage := .resting .stopped } := if_pos idle
    have aligned : system.poller.reader.IsAligned := (idle ▸ sound.stands.placed :)
    have begun : ∀ seq, (system.act .retire).IsUnderWay seq → system.IsUnderWay seq := by
      rintro seq (member | running)
      · apply Or.inl
        rw [retired] at member
        rw [queue, idle]
        exact member
      · rw [retired] at running
        cases running
    rw [retired] at begun ⊢
    exact
      { stands := { sound.stands with placed := fun _ => aligned }
        known := sound.known
        queued := fun event member change listed => by
          refine sound.queued event ?_ change listed
          rw [queue, idle]
          exact member
        inOrder := sound.inOrder.advance begun (Watcher.advances_refl none _)
        ticketed := sound.ticketed
        orderly := sound.orderly }
  · have same : system.act .retire = system := if_neg idle
    rw [same]
    exact sound

theorem IsSound.receive (sound : system.IsSound) : (system.act .receive).IsSound := by
  rcases act_receive_cases system with ⟨-, same⟩ | ⟨event, rest, sent, queue, received⟩
  · rw [same]
    exact sound
  · have shorter : ∀ other, other ∈ (system.act .receive).queue → other ∈ system.queue := by
      intro other member
      rw [received] at member
      rw [queue]
      exact List.mem_cons_of_mem event member
    have begun : ∀ seq, (system.act .receive).IsUnderWay seq → system.IsUnderWay seq := by
      rintro seq (member | running)
      · exact Or.inl (shorter _ member)
      · rw [received] at running
        exact Or.inr running
    have advances := system.watcher.advances_receive event
    rw [received] at shorter begun ⊢
    refine ⟨sound.stands.congr rfl fun watched => watched, ?_, ?_,
      sound.inOrder.advance begun advances, advances.serves.isTicketed sound.ticketed, ?_⟩
    · intro change knows
      cases ended : system.watcher.hasEnded with
      | true =>
        have still : system.watcher.receive event = system.watcher := if_pos ended
        exact sound.known change (still ▸ knows)
      | false =>
        have learned : (system.watcher.known.observeAll event.changes).Knows change :=
          Watcher.receive_known ended event ▸ knows
        rcases learned.of_observeAll with before | ⟨other, listed, same, reached⟩
        · exact sound.known change before
        · obtain ⟨earlier, member, document, later⟩ :=
            sound.queued event (queue ▸ List.mem_cons_self) other listed
          exact ⟨earlier, member, document.trans same, Int64.le_trans reached later⟩
    · intro other member
      exact sound.queued other (shorter other member)
    · intro running
      exact ((sound.orderly (Watcher.running_of_receive running)).receive event running).orderly

theorem IsSound.input (sound : system.IsSound) (input : Watcher.Input) :
    (system.act (.input input)).IsSound where
  stands := sound.stands
  known change knows :=
    sound.known change (system.watcher.known_take input ▸ knows)
  queued := sound.queued
  inOrder := sound.inOrder.advance (fun _ underWay => underWay) (system.watcher.advances_take input)
  ticketed := (system.watcher.advances_take input).serves.isTicketed sound.ticketed
  orderly running :=
    ((sound.orderly (Watcher.running_of_take running)).take input running).orderly

/-- **Soundness survives every action** that truncates nothing beyond the head. -/
theorem IsSound.act (sound : system.IsSound) {action : Action} (within : system.IsWithin action) :
    (system.act action).IsSound := by
  cases action with
  | edit edit => exact sound.edit within
  | advance => exact sound.advance
  | beginCycle => exact sound.beginCycle
  | retire => exact sound.retire
  | signal line =>
    exact
      { sound with
        stands := sound.stands.congr rfl fun watched => watched
        inOrder := ⟨sound.inOrder.issued, sound.inOrder.waiting⟩ }
  | leave =>
    exact
      { sound with
        stands := sound.stands.congr rfl fun watched => by cases watched
        inOrder := ⟨sound.inOrder.issued, sound.inOrder.waiting⟩ }
  | receive => exact sound.receive
  | input input => exact sound.input input

/-- A new system is sound. -/
theorem isSound_start (settings : Settings) (strategy : Strategy) (supportsSnapshots : Bool) :
    (start settings strategy supportsSnapshots).IsSound := by
  have aligned : (Node.newPoller settings (.empty supportsSnapshots)).reader.IsAligned :=
    Reader.isAligned_of_closed rfl
  have queue : (start settings strategy supportsSnapshots).queue = [] := rfl
  have running : (start settings strategy supportsSnapshots).stage.running = none := by
    unfold start
    split <;> rfl
  have nothing : ∀ seq, ¬ (start settings strategy supportsSnapshots).IsUnderWay seq := by
    rintro seq (member | current)
    · cases queue ▸ member
    · rw [running] at current
      cases current
  refine ⟨⟨MemoryLog.records_empty supportsSnapshots, ?_, ?_⟩, ?_, ?_, ⟨?_, ?_⟩, ?_, ?_⟩
  · intro position held
    cases held
  · exact Poller.isPlaced_of_isAligned aligned _
  · intro change knows
    obtain ⟨revision, held, -⟩ := Revisions.knows_iff.mp knows
    have none : (start settings strategy supportsSnapshots).watcher.known = ∅ :=
      KnownState.revisions_empty
    rw [none] at held
    simp at held
  · intro event member
    cases queue ▸ member
  · exact fun seq underWay => absurd underWay (nothing seq)
  · intro poll held
    cases held
  · intro waiter member
    cases member
  · exact fun _ => Watcher.orderly_start strategy

/-- **A run within the head leaves a sound system sound.** -/
theorem IsSound.run {actions : List Action} (sound : system.IsSound)
    (within : Allows IsWithin system actions) : (system.run actions).IsSound :=
  Run.induction IsSound (fun _ _ within sound => sound.act within) within sound

end System

end ChangeFeed
