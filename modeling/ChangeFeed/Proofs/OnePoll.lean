/-
# One poll at a time

A poll is issued by the desk, waits in the slot between watcher and poller, is served by the poller,
and comes back as the end of its cycle, which waits among the other events until the watcher handles
it. This module follows polls around that loop, whatever the source does meanwhile: the poll that the
desk takes to be outstanding is in exactly one of these places, and no other poll is in any of them.

The source is any source at all, and may change between any two requests. Events wait in an outbox
without a limit; a poller that has to wait for room in an outbox with one only takes its next step
later.
-/

import ChangeFeed.Proofs.Desk
import ChangeFeed.Proofs.Standing

namespace ChangeFeed

/-- The cycle of which the event is the end, whether it reached the head of the log or gave up. -/
def Event.ended? : Event → Option Nat
  | .cycleComplete seq | .cycleAborted seq _ => some seq
  | _ => none

/-- The cycles whose ends are among the events. -/
def Event.endsIn (events : List Event) : List Nat :=
  events.filterMap Event.ended?

/-! ## The poller's part -/

/-- A poller that rests here, if it has not stopped, serves this poll or none. -/
def Rest.IsServing (serving : Option Nat) (rest : Rest) : Prop :=
  rest = .stopped ∨ serving = rest.running

/-- A poller at this stage serves this poll or none; the end of its cycle may still be unsent. -/
def Stage.IsServing (serving : Option Nat) : Stage → Prop
  | .resting rest | .waiting rest => rest.IsServing serving
  | .filling seq _ _ | .handing seq _ => serving = some seq
  | .sending event rest =>
    match event.ended? with
    | some seq => serving = some seq ∧ rest = .idle
    | none => rest.IsServing serving

/-- A poller that has come back from its cycle, or has stopped. -/
def Stage.hasReturned (stage : Stage) : Bool :=
  stage == .resting .idle || stage == .resting .stopped

namespace Poller

variable {σ κ : Type} {poller : Poller σ κ} {serving : Option Nat}

/-- A step that sends nothing, and leaves the poller serving what it served. -/
structure StillServes (serving : Option Nat) (poller : Poller σ κ) (outcome : Stage × Poller σ κ) :
    Prop where
  outbox_eq : outcome.2.outbox = poller.outbox
  serves : outcome.1.IsServing serving

theorem stillServes_retrying (poller : Poller σ κ) (seq attempts : Nat) (error : ReadError) :
    StillServes (some seq) poller (poller.retrying seq attempts error) := by
  unfold retrying
  split
  · exact ⟨rfl, Or.inr rfl⟩
  · exact ⟨rfl, rfl, rfl⟩

theorem stillServes_failing (poller : Poller σ κ) (seq attempts : Nat) (error : ReadError) :
    StillServes (some seq) poller (poller.failing seq attempts error) := by
  cases error with
  | resumeRejected position => exact ⟨rfl, Or.inr rfl⟩
  | fatal reason => exact ⟨rfl, Or.inl rfl⟩
  | retryable reason => exact stillServes_retrying poller seq attempts _

theorem isServing_closing (seq : Nat) (batch : Batch) : (closing seq batch).IsServing (some seq) := by
  unfold closing
  split
  · exact ⟨rfl, rfl⟩
  · rfl

theorem stillServes_waitStep (poller : Poller σ κ) {rest : Rest} (serves : rest.IsServing serving) :
    StillServes serving poller (poller.waitStep rest) := by
  refine ⟨rfl, ?_⟩
  show Rest.IsServing serving (if poller.stopLine.interrupts.1 then .stopped else rest)
  split
  · exact Or.inl rfl
  · exact serves

section Requests

variable [Source σ κ]

theorem stillServes_primeStep (poller : Poller σ κ) (attempts : Nat) :
    StillServes none poller (poller.primeStep attempts) := by
  unfold primeStep
  split
  · exact ⟨rfl, Or.inr rfl⟩
  · exact ⟨rfl, Or.inr rfl⟩
  · exact ⟨rfl, Or.inl rfl⟩
  · split <;> exact ⟨rfl, Or.inr rfl⟩

theorem stillServes_freshStartStep (poller : Poller σ κ) (seq attempts : Nat) :
    StillServes (some seq) poller (poller.freshStartStep seq attempts) := by
  unfold freshStartStep
  split
  · exact ⟨rfl, Or.inr rfl⟩
  · exact ⟨rfl, Or.inl rfl⟩
  · next error reader _ _ =>
    obtain ⟨outbox_eq, serves⟩ := stillServes_retrying { poller with reader } seq attempts error
    exact ⟨outbox_eq, serves⟩

theorem stillServes_openStep (poller : Poller σ κ) (seq attempts : Nat) :
    StillServes (some seq) poller (poller.openStep seq attempts) := by
  unfold openStep
  split
  · exact ⟨rfl, rfl⟩
  · next error reader _ =>
    obtain ⟨outbox_eq, serves⟩ := stillServes_failing { poller with reader } seq attempts error
    exact ⟨outbox_eq, serves⟩

theorem stillServes_fillStep (poller : Poller σ κ) (seq attempts : Nat) (batch : Batch) :
    StillServes (some seq) poller (poller.fillStep seq attempts batch) := by
  unfold fillStep
  split
  · split
    · exact ⟨rfl, isServing_closing seq batch⟩
    · split
      · next fault _ source _ =>
        obtain ⟨outbox_eq, serves⟩ := stillServes_failing
          { poller with reader := { poller.reader with source, cursor := none } } seq attempts
          (.ofFault fault)
        exact ⟨outbox_eq, serves⟩
      · exact ⟨rfl, isServing_closing seq batch⟩
      · exact ⟨rfl, rfl⟩
  · exact ⟨rfl, isServing_closing seq batch⟩

end Requests

/-- What the poller serves after a step to this stage. -/
def servingAfter (serving : Option Nat) (stage : Stage) : Option Nat :=
  if stage.hasReturned then none else serving

/-- A poller that has come back without a word served nothing, unless it has stopped. -/
theorem servingAfter_of_isServing {stage : Stage} (serves : stage.IsServing serving) :
    stage = .resting .stopped ∨ servingAfter serving stage = serving := by
  unfold servingAfter
  split
  · next returned =>
    simp only [Stage.hasReturned, Bool.or_eq_true, beq_iff_eq] at returned
    rcases returned with rfl | stopped
    · exact Or.inr (serves.resolve_left nofun).symm
    · exact Or.inl stopped
  · exact Or.inr rfl

/-- A step neither makes a poll nor loses one: what the poller served it goes on serving, or it has put
the end of that cycle behind the other events. Only a poller that stops may let a cycle go without an
end. -/
structure Conserves (serving : Option Nat) (poller : Poller σ κ) (outcome : Stage × Poller σ κ) :
    Prop where
  serves : outcome.1.IsServing (servingAfter serving outcome.1)
  ends : Event.endsIn outcome.2.outbox ++ (servingAfter serving outcome.1).toList =
      Event.endsIn poller.outbox ++ serving.toList ∨
    outcome.1 = .resting .stopped ∧ Event.endsIn outcome.2.outbox = Event.endsIn poller.outbox

/-- A poller that sends no end of a cycle goes on serving or stops. -/
theorem conserves_of_isServing {outcome : Stage × Poller σ κ} (serves : outcome.1.IsServing serving)
    (ends : Event.endsIn outcome.2.outbox = Event.endsIn poller.outbox) :
    Conserves serving poller outcome := by
  rcases servingAfter_of_isServing serves with stopped | same
  · refine ⟨?_, Or.inr ⟨stopped, ends⟩⟩
    rw [stopped]
    exact Or.inl rfl
  · refine ⟨?_, Or.inl ?_⟩
    · rw [same]
      exact serves
    · rw [same, ends]

theorem StillServes.conserves {outcome : Stage × Poller σ κ}
    (still : StillServes serving poller outcome) : Conserves serving poller outcome :=
  conserves_of_isServing still.serves (congrArg Event.endsIn still.outbox_eq)

theorem conserves_handStep (poller : Poller σ κ) (seq : Nat) (batch : Batch) :
    Conserves (some seq) poller (poller.handStep seq batch) := by
  by_cases watched : poller.watched
  · have sent : ∃ reader, poller.handStep seq batch =
        (.resting (.turning seq 0),
          { poller with reader, outbox := poller.outbox ++ [.batch batch.changes] }) := by
      cases position : batch.position with
      | none => exact ⟨poller.reader, by simp [handStep, handOver, send, watched, position, Turn.rest]⟩
      | some stop =>
        exact ⟨poller.reader.commit stop,
          by simp [handStep, handOver, send, watched, position, Turn.rest]⟩
    obtain ⟨reader, sent⟩ := sent
    rw [sent]
    exact conserves_of_isServing (Or.inr rfl) (by simp [Event.endsIn, Event.ended?])
  · have stopped : poller.handStep seq batch = (.resting .stopped, poller) := by
      simp [handStep, handOver, send, watched, Turn.rest]
    rw [stopped]
    exact conserves_of_isServing (Or.inl rfl) rfl

theorem conserves_sendStep (poller : Poller σ κ) {event : Event} {rest : Rest}
    (serves : (Stage.sending event rest).IsServing serving) :
    Conserves serving poller (poller.sendStep event rest) := by
  by_cases watched : poller.watched
  · have sent : poller.sendStep event rest =
        (.resting rest, { poller with outbox := poller.outbox ++ [event] }) := by
      simp [sendStep, send, watched]
    rw [sent]
    simp only [Stage.IsServing] at serves
    cases ends : event.ended? with
    | some seq =>
      simp only [ends] at serves
      obtain ⟨rfl, rfl⟩ := serves
      exact ⟨Or.inr rfl, Or.inl (by simp [Event.endsIn, ends, servingAfter, Stage.hasReturned])⟩
    | none =>
      simp only [ends] at serves
      exact conserves_of_isServing serves (by simp [Event.endsIn, ends])
  · have stopped : poller.sendStep event rest = (.resting .stopped, poller) := by
      simp [sendStep, send, watched]
    rw [stopped]
    exact conserves_of_isServing (Or.inl rfl) rfl

/-- **A step of the poller neither makes a poll nor loses one.** -/
theorem conserves_step [Source σ κ] (poller : Poller σ κ) {stage : Stage}
    (serves : stage.IsServing serving) : Conserves serving poller (poller.step stage) := by
  cases stage with
  | resting rest =>
    cases rest with
    | priming attempts =>
      obtain rfl : serving = none := serves.resolve_left nofun
      exact (stillServes_primeStep poller attempts).conserves
    | turning seq attempts =>
      obtain rfl : serving = some seq := serves.resolve_left nofun
      simp only [step]
      split
      · exact (stillServes_freshStartStep poller seq attempts).conserves
      · exact (stillServes_openStep poller seq attempts).conserves
    | idle | stopped => exact conserves_of_isServing serves rfl
  | filling seq attempts batch =>
    obtain rfl : serving = some seq := serves
    exact (stillServes_fillStep poller seq attempts batch).conserves
  | handing seq batch =>
    obtain rfl : serving = some seq := serves
    exact conserves_handStep poller seq batch
  | sending event rest => exact conserves_sendStep poller serves
  | waiting rest => exact (stillServes_waitStep poller serves).conserves

end Poller

/-! ## The watcher's part -/

namespace PollSlot

theorem abandoned_offer (slot : PollSlot) (seq : Nat) :
    (slot.offer seq).2.abandoned = slot.abandoned := by
  unfold offer
  split <;> rfl

/-- An empty slot takes every poll as long as somebody is left to serve it. -/
theorem offer_of_empty {slot : PollSlot} (serving : slot.abandoned = false)
    (empty : slot.waiting = none) (seq : Nat) : slot.offer seq = (true, ⟨some seq, false⟩) := by
  simp [offer, serving, empty]

end PollSlot

/-- The end of a cycle releases its poll, and the next one is issued unless nobody waits. -/
theorem SyncController.complete_eq (controller : SyncController) (seq : Nat) :
    ∃ waiters,
      (controller.complete seq).2 = (none, { controller.release seq with waiters }) ∨
        (controller.complete seq).2 = { controller.release seq with waiters }.issueIfIdle := by
  simp only [complete, List.partition_eq_filter_filter]
  split
  · exact ⟨_, Or.inl rfl⟩
  · exact ⟨_, Or.inr rfl⟩

namespace Watcher

/-- The poll that the desk takes to be under way. -/
def outstanding (watcher : Watcher) : Option Nat :=
  watcher.desk.controller.outstanding

/-- The poll that the desk issues when the watcher is asked something. -/
def pollFor? (watcher : Watcher) : Input → Option Nat
  | .tick => if watcher.hasEnded then none else watcher.desk.tick.1
  | .requestSync => if watcher.hasEnded then none else watcher.desk.request.1
  | _ => none

/-- The poll that the desk issues when the watcher handles an event. -/
def pollAfter? (watcher : Watcher) : Event → Option Nat
  | .cycleComplete seq => if watcher.hasEnded then none else (watcher.desk.complete seq).1
  | _ => none

/-- Polls in the order of their numbers, all of them issued. -/
structure Numbered (watcher : Watcher) (seqs : List Nat) : Prop where
  ordered : seqs.Pairwise (· < ·)
  below : ∀ seq ∈ seqs, seq < watcher.nextSeq

/-- One state of a watcher's polls and the next, with the poll that the desk issues in between. What
was outstanding before, less what has come back, is `left`. -/
inductive Polls (left : Option Nat) (before after : Watcher) : Option Nat → Prop where
  | still (nextSeq_eq : after.nextSeq = before.nextSeq) (outstanding_eq : after.outstanding = left)
      (polls : after.polls = before.polls ∨ after.polls = before.polls.abandon) :
    Polls left before after none
  | issues (nextSeq_eq : after.nextSeq = before.nextSeq + 1) (nothing : left = none)
      (polls_eq : after.polls = (before.polls.offer before.nextSeq).2)
      (accepted : (before.polls.offer before.nextSeq).1 = true →
        after.outstanding = some before.nextSeq) : Polls left before after (some before.nextSeq)

variable {watcher before after : Watcher} {left asked : Option Nat}

/-- What touches neither numbers nor slot issues nothing. -/
theorem polls_refl (nextSeq : after.nextSeq = watcher.nextSeq)
    (outstanding : after.outstanding = watcher.outstanding) (polls : after.polls = watcher.polls) :
    Polls watcher.outstanding watcher after none :=
  .still nextSeq outstanding (Or.inl polls)

/-- A desk that issues a poll if none is outstanding hands it to the slot. -/
theorem polls_issue (watcher : Watcher) (desk : SyncDesk) (controller : SyncController)
    (numbered : controller.nextSeq = watcher.nextSeq)
    (issued : desk.controller = controller.issueIfIdle.2) :
    Polls controller.outstanding watcher ({ watcher with desk }.issue controller.issueIfIdle.1)
      controller.issueIfIdle.1 := by
  unfold SyncController.issueIfIdle at issued ⊢
  cases outstanding : controller.outstanding with
  | some seq =>
    simp only [outstanding] at issued ⊢
    refine .still ?_ ?_ (Or.inl rfl)
    · exact (congrArg (·.nextSeq) issued).trans numbered
    · exact (congrArg (·.outstanding) issued).trans outstanding
  | none =>
    simp only [outstanding] at issued
    show Polls none watcher ({ watcher with desk }.issue (some controller.nextSeq)) (some controller.nextSeq)
    have next : desk.controller.nextSeq = watcher.nextSeq + 1 := by
      rw [issued, ← numbered]
      rfl
    rw [numbered]
    match offered : watcher.polls.offer watcher.nextSeq with
    | (true, polls) =>
      simp only [Watcher.issue, offered]
      refine .issues next rfl (congrArg (·.2) offered).symm fun _ => ?_
      show desk.controller.outstanding = _
      rw [issued, ← numbered]
      rfl
    | (false, polls) =>
      have same : watcher.polls = polls := by
        unfold PollSlot.offer at offered
        split at offered <;> cases offered
        rfl
      simp only [Watcher.issue, offered]
      refine .issues ?_ rfl (same.trans (congrArg (·.2) offered).symm) fun accepted => ?_
      · exact (SyncController.nextSeq_release _ _).trans next
      · rw [offered] at accepted
        cases accepted

/-- **Every input issues a poll at most when none is outstanding.** -/
theorem polls_take (watcher : Watcher) (input : Input) :
    Polls watcher.outstanding watcher (watcher.take input) (watcher.pollFor? input) := by
  cases input with
  | tick =>
    simp only [take, tick, pollFor?]
    split
    · exact polls_refl rfl rfl rfl
    · exact polls_issue watcher watcher.desk.tick.2 watcher.desk.controller rfl rfl
  | requestSync =>
    simp only [take, requestSync, pollFor?]
    split
    · exact polls_refl rfl rfl rfl
    · exact polls_issue watcher watcher.desk.request.2
        { watcher.desk.controller with
          waiters := watcher.desk.controller.waiters ++
            [⟨watcher.desk.requests.length, watcher.desk.controller.nextSeq⟩] } rfl rfl
  | abandonPolls => exact .still rfl rfl (Or.inr rfl)
  | giveUp ticket => exact polls_refl rfl rfl rfl
  | watch key since =>
    simp only [take, watch, pollFor?]
    split
    · exact polls_refl rfl rfl rfl
    · split <;> exact polls_refl rfl rfl rfl
  | unregisterNext =>
    simp only [take, unregisterNext, pollFor?]
    split
    · exact polls_refl rfl rfl rfl
    · unfold Watcher.unregister
      split <;> exact polls_refl rfl rfl rfl
  | stop id | drop id | changes id | next id | streamNext id =>
    simp only [take, stop, drop, changes, next, streamNext, pollFor?]
    split <;> exact polls_refl rfl rfl rfl
  | shutDown | readerLost =>
    simp only [take, shutDown, readerLost, pollFor?]
    split <;> exact polls_refl rfl rfl rfl

/-- What is left outstanding when an event has come. -/
def leftBy (watcher : Watcher) (event : Event) : Option Nat :=
  match event.ended? with
  | some seq => (watcher.desk.controller.release seq).outstanding
  | none => watcher.outstanding

/-- The end of a cycle that reached the head lets the next poll be issued if somebody waits for it. -/
theorem polls_complete (watcher : Watcher) (seq : Nat) :
    Polls (watcher.desk.controller.release seq).outstanding watcher
      ({ watcher with desk := (watcher.desk.complete seq).2 }.issue (watcher.desk.complete seq).1)
      (watcher.desk.complete seq).1 := by
  have released : (watcher.desk.controller.release seq).nextSeq = watcher.nextSeq :=
    SyncController.nextSeq_release _ _
  obtain ⟨waiters, completed⟩ := watcher.desk.controller.complete_eq seq
  have poll : (watcher.desk.complete seq).1 = (watcher.desk.controller.complete seq).2.1 := rfl
  have controller : (watcher.desk.complete seq).2.controller =
      (watcher.desk.controller.complete seq).2.2 := rfl
  rw [poll]
  rcases completed with nobody | somebody
  · rw [nobody] at controller ⊢
    exact .still ((congrArg (·.nextSeq) controller).trans released)
      (congrArg (·.outstanding) controller) (Or.inl rfl)
  · rw [somebody] at controller ⊢
    exact polls_issue watcher (watcher.desk.complete seq).2
      { watcher.desk.controller.release seq with waiters } released controller

/-- Whatever comes back is what was outstanding, when that is all there is. -/
theorem outstanding_of_ended {event : Event} {rest : List Event} {others : List Nat}
    (whole : Event.endsIn (event :: rest) ++ others = watcher.outstanding.toList) {seq : Nat}
    (ended : event.ended? = some seq) :
    watcher.outstanding = some seq ∧ Event.endsIn rest ++ others = [] := by
  have first : Event.endsIn (event :: rest) = seq :: Event.endsIn rest := List.filterMap_cons_some ended
  rw [first] at whole
  cases outstanding : watcher.outstanding with
  | none =>
    rw [outstanding] at whole
    cases whole
  | some other =>
    rw [outstanding] at whole
    obtain ⟨rfl, nothing⟩ := List.cons.inj whole
    exact ⟨rfl, nothing⟩

/-- What an event leaves outstanding is all there is besides it. -/
theorem whole_leftBy {event : Event} {rest : List Event} {others : List Nat}
    (whole : Event.endsIn (event :: rest) ++ others = watcher.outstanding.toList) :
    Event.endsIn rest ++ others = (watcher.leftBy event).toList := by
  unfold leftBy
  cases ended : event.ended? with
  | some seq =>
    obtain ⟨outstanding, nothing⟩ := outstanding_of_ended whole ended
    have released : (watcher.desk.controller.release seq).outstanding = none := by
      have held : watcher.desk.controller.outstanding = some seq := outstanding
      rw [SyncController.release, if_pos held]
    simp only [released, nothing, Option.toList_none]
  | none =>
    have first : Event.endsIn (event :: rest) = Event.endsIn rest := List.filterMap_cons_none ended
    rwa [first] at whole

/-- **An event brings its poll back**, and the desk issues another one at most when none is
outstanding. -/
theorem polls_receive (running : watcher.hasEnded = false) (event : Event) :
    Polls (watcher.leftBy event) watcher (watcher.receive event) (watcher.pollAfter? event) := by
  by_cases isAboutLog : event.isAboutLog = true
  · obtain ⟨metrics, received⟩ := receive_eq running event isAboutLog
    cases event with
    | primed _ | batch _ | discontinuity _ =>
      rw [received]
      exact polls_refl rfl rfl rfl
    | cycleComplete _ | cycleAborted _ _ | fatal _ => cases isAboutLog
  · cases event with
    | primed _ | batch _ | discontinuity _ => exact absurd rfl isAboutLog
    | cycleAborted seq reason =>
      simp only [receive, running, Bool.false_eq_true, if_false]
      exact .still (SyncController.nextSeq_release _ _) rfl (Or.inl rfl)
    | fatal reason =>
      simp only [receive, running, Bool.false_eq_true, if_false]
      exact polls_refl rfl rfl rfl
    | cycleComplete seq =>
      simp only [receive, pollAfter?, running, Bool.false_eq_true, if_false]
      exact polls_complete watcher seq

/-- Whoever is left to take polls has been there before. -/
theorem Polls.serving (polls : Polls left before after asked)
    (serving : after.polls.abandoned = false) : before.polls.abandoned = false := by
  cases polls with
  | still _ _ kept =>
    rcases kept with same | abandoned
    · exact same ▸ serving
    · rw [abandoned] at serving
      cases serving
  | issues _ _ polls_eq _ =>
    rw [polls_eq, PollSlot.abandoned_offer] at serving
    exact serving

/-- The polls that have been issued are numbered upwards without a gap. -/
theorem Polls.issued_eq (polls : Polls left before after asked) {issued : List Nat}
    (numbered : issued = List.range before.nextSeq) :
    issued ++ asked.toList = List.range after.nextSeq := by
  cases polls with
  | still nextSeq_eq =>
    rw [nextSeq_eq, numbered]
    exact List.append_nil _
  | issues nextSeq_eq => rw [nextSeq_eq, numbered, List.range_succ, Option.toList_some]

theorem Numbered.sublist {seqs fewer : List Nat} (numbered : watcher.Numbered seqs)
    (sublist : fewer.Sublist seqs) : watcher.Numbered fewer :=
  ⟨numbered.ordered.sublist sublist, fun seq member => numbered.below seq (sublist.subset member)⟩

/-- Polls that are under way in order stay so, and the next one comes after them. -/
theorem Polls.numbered (polls : Polls left before after asked) {others : List Nat}
    (numbered : before.Numbered (others ++ before.polls.waiting.toList)) :
    after.Numbered (others ++ after.polls.waiting.toList) := by
  have first : before.Numbered others := numbered.sublist (List.sublist_append_left _ _)
  cases polls with
  | still nextSeq_eq _ kept =>
    have later : ∀ {seqs : List Nat}, before.Numbered seqs → after.Numbered seqs :=
      fun kept => ⟨kept.ordered, nextSeq_eq ▸ kept.below⟩
    rcases kept with same | abandoned
    · rw [same]
      exact later numbered
    · have nothing : after.polls.waiting.toList = [] := by
        rw [abandoned]
        rfl
      rw [nothing, List.append_nil]
      exact later first
  | issues nextSeq_eq _ polls_eq =>
    cases refused : (before.polls.abandoned || before.polls.waiting.isSome) with
    | true =>
      have same : after.polls = before.polls := by
        rw [polls_eq]
        simp [PollSlot.offer, refused]
      rw [same]
      refine ⟨numbered.ordered, fun seq member => ?_⟩
      rw [nextSeq_eq]
      exact Nat.lt_succ_of_lt (numbered.below seq member)
    | false =>
      have issued : after.polls.waiting = some before.nextSeq := by
        rw [polls_eq]
        simp [PollSlot.offer, refused]
      rw [issued, Option.toList_some]
      refine ⟨List.pairwise_append.mpr ⟨first.ordered, List.pairwise_singleton _ _, ?_⟩, ?_⟩
      · intro seq member next same
        rw [List.mem_singleton.mp same]
        exact first.below seq member
      · intro seq member
        rw [nextSeq_eq]
        rcases List.mem_append.mp member with old | new
        · exact Nat.lt_succ_of_lt (first.below seq old)
        · rw [List.mem_singleton.mp new]
          exact Nat.lt_succ_self _

/-- A poll that is issued finds the slot empty, when what is left outstanding is all there is. -/
theorem Polls.accepted (polls : Polls left before after asked)
    (serving : before.polls.abandoned = false) {elsewhere : List Nat}
    (whole : elsewhere ++ before.polls.waiting.toList = left.toList) {seq : Nat}
    (issued : asked = some seq) : before.polls.offer seq = (true, ⟨some seq, false⟩) := by
  cases polls with
  | still => cases issued
  | issues _ nothing =>
    rw [nothing] at whole
    have empty : before.polls.waiting = none := by
      simpa using (List.append_eq_nil_iff.mp whole).2
    exact PollSlot.offer_of_empty serving empty seq

/-- What is outstanding is all there is, before and after. -/
theorem Polls.whole (polls : Polls left before after asked) (serving : after.polls.abandoned = false)
    {elsewhere : List Nat} (whole : elsewhere ++ before.polls.waiting.toList = left.toList) :
    elsewhere ++ after.polls.waiting.toList = after.outstanding.toList := by
  have accepted : ∀ seq, asked = some seq → before.polls.offer seq = (true, ⟨some seq, false⟩) :=
    fun _ issued => polls.accepted (polls.serving serving) whole issued
  cases polls with
  | still _ outstanding_eq kept =>
    rcases kept with same | abandoned
    · rw [outstanding_eq, same]
      exact whole
    · rw [abandoned] at serving
      cases serving
  | issues _ nothing polls_eq outstanding =>
    have offered := accepted _ rfl
    rw [nothing] at whole
    rw [polls_eq, outstanding (congrArg (·.1) offered), offered,
      (List.append_eq_nil_iff.mp whole).1]
    rfl

end Watcher

/-! ## Both together -/

/-- A poller on a source of any kind, with its watcher. -/
structure PollLoop (σ κ : Type) where
  poller : Poller σ κ
  stage : Stage
  watcher : Watcher
  /-- The poll that the poller serves. -/
  serving : Option Nat := none
  /-- The polls that the desk has issued so far, in order. -/
  issued : List Nat := []

namespace PollLoop

variable {σ κ : Type}

/-- What can happen next. -/
inductive Action (σ : Type) where
  /-- The source becomes another one. -/
  | change (source : σ)
  /-- The poller takes a step. -/
  | advance
  /-- The poller, if it is idle, takes the poll that waits for it. -/
  | beginCycle
  /-- The poller, if it is idle, is told to stop. -/
  | retire
  /-- Something happens on the line over which the poller is told to stop. -/
  | signal (line : StopLine)
  /-- The poller loses its watcher. -/
  | leave
  /-- The watcher handles the oldest event. -/
  | receive
  /-- The watcher is asked something. -/
  | input (input : Watcher.Input)

/-- The loop after an action. -/
def act [Source σ κ] (loop : PollLoop σ κ) : Action σ → PollLoop σ κ
  | .change source => { loop with poller.reader.source := source }
  | .advance =>
    let (stage, poller) := loop.poller.step loop.stage
    { loop with stage, poller, serving := Poller.servingAfter loop.serving stage }
  | .beginCycle =>
    match loop.stage, loop.watcher.takePoll with
    | .resting .idle, (some seq, watcher) =>
      { loop with stage := .resting (.turning seq 0), watcher, serving := some seq }
    | _, _ => loop
  | .retire => if loop.stage = .resting .idle then { loop with stage := .resting .stopped } else loop
  | .signal line => { loop with poller.stopLine := line }
  | .leave => { loop with poller.watched := false }
  | .receive =>
    match loop.poller.outbox with
    | [] => loop
    | event :: rest =>
      { loop with
        poller.outbox := rest
        watcher := loop.watcher.receive event
        issued := loop.issued ++ (loop.watcher.pollAfter? event).toList }
  | .input input =>
    { loop with
      watcher := loop.watcher.take input
      issued := loop.issued ++ (loop.watcher.pollFor? input).toList }

/-- The loop after actions, in order. -/
def run [Source σ κ] (loop : PollLoop σ κ) (actions : List (Action σ)) : PollLoop σ κ :=
  actions.foldl act loop

/-- A poller that has done nothing yet, and a watcher whose poll clock has not ticked yet. -/
def start (reader : Reader σ κ) (policy : Backoff) (primes : Bool) (strategy : Strategy) :
    PollLoop σ κ where
  poller := { reader, policy }
  stage := .resting (if primes then .priming 0 else .idle)
  watcher := .start strategy

/-- Neither side has come to its end. -/
structure IsLive (loop : PollLoop σ κ) : Prop where
  running : loop.watcher.hasEnded = false
  attended : loop.watcher.polls.abandoned = false
  active : loop.stage ≠ .resting .stopped

/-- Every poll there is: on its way back, in the poller's hands, or in the slot. -/
def underWay (loop : PollLoop σ κ) : List Nat :=
  Event.endsIn loop.poller.outbox ++ loop.serving.toList ++ loop.watcher.polls.waiting.toList

/-- The poller serves what it is said to serve, polls are under way in the order in which they were
issued, and while the loop lives the one poll there is is the outstanding one. -/
structure IsSound (loop : PollLoop σ κ) : Prop where
  issued_eq : loop.issued = List.range loop.watcher.nextSeq
  serves : loop.stage.IsServing loop.serving
  numbered : loop.watcher.Numbered loop.underWay
  whole : loop.IsLive → loop.underWay = loop.watcher.outstanding.toList

theorem isSound_start (reader : Reader σ κ) (policy : Backoff) (primes : Bool) (strategy : Strategy) :
    (start reader policy primes strategy).IsSound where
  issued_eq := rfl
  serves := by cases primes <;> exact Or.inr rfl
  numbered := ⟨List.Pairwise.nil, nofun⟩
  whole _ := rfl

variable [Source σ κ] {loop : PollLoop σ κ}

theorem IsSound.advance (sound : loop.IsSound) : (loop.act .advance).IsSound := by
  obtain ⟨serves, ends⟩ := loop.poller.conserves_step sound.serves
  refine ⟨sound.issued_eq, serves, ?_, fun live => ?_⟩
  · rcases ends with conserved | ⟨stopped, kept⟩
    · have numbered := sound.numbered
      rw [underWay, ← conserved] at numbered
      exact numbered
    · refine sound.numbered.sublist (List.Sublist.append_right ?_ _)
      show (Event.endsIn (loop.poller.step loop.stage).2.outbox ++
        (Poller.servingAfter loop.serving (loop.poller.step loop.stage).1).toList).Sublist _
      rw [kept, stopped]
      exact List.Sublist.append_left (List.nil_sublist _) _
  · have conserved := ends.resolve_right fun stops => live.active stops.1
    have before : loop.IsLive := by
      refine ⟨live.running, live.attended, fun stopped => live.active ?_⟩
      show (loop.poller.step loop.stage).1 = _
      rw [stopped]
      rfl
    have whole := sound.whole before
    rw [underWay, ← conserved] at whole
    exact whole

theorem IsSound.beginCycle (sound : loop.IsSound) : (loop.act .beginCycle).IsSound := by
  simp only [PollLoop.act]
  split
  · next seq watcher idle taken =>
    have waiting : loop.watcher.polls.waiting = some seq := congrArg (·.1) taken
    obtain rfl : { loop.watcher with polls := { loop.watcher.polls with waiting := none } } = watcher :=
      congrArg (·.2) taken
    have serves := sound.serves
    rw [idle] at serves
    have nothing : loop.serving = none := serves.resolve_left nofun
    have same : loop.underWay = Event.endsIn loop.poller.outbox ++ [seq] := by
      simp [underWay, nothing, waiting]
    refine ⟨sound.issued_eq, Or.inr rfl, ?_, fun live => ?_⟩
    · have numbered := sound.numbered
      rw [same, ← List.append_nil (_ ++ _)] at numbered
      exact ⟨numbered.ordered, numbered.below⟩
    · have whole := sound.whole ⟨live.running, live.attended, by rw [idle]; nofun⟩
      rw [same] at whole
      simpa [underWay, Watcher.outstanding] using whole
  · exact sound

theorem IsSound.receive (sound : loop.IsSound) : (loop.act .receive).IsSound := by
  simp only [PollLoop.act]
  split
  · exact sound
  · next event rest sent =>
    have fewer : (Event.endsIn rest).Sublist (Event.endsIn loop.poller.outbox) := by
      rw [sent]
      exact (List.sublist_cons_self event rest).filterMap _
    have numbered := sound.numbered.sublist ((fewer.append_right _).append_right _)
    cases ended : loop.watcher.hasEnded with
    | true =>
      have still : loop.watcher.receive event = loop.watcher := if_pos ended
      have nothing : loop.watcher.pollAfter? event = none := by
        cases event <;> simp [Watcher.pollAfter?, ended]
      rw [still, nothing]
      refine ⟨(List.append_nil _).trans sound.issued_eq, sound.serves, numbered, fun live => ?_⟩
      exact absurd (ended.symm.trans live.running) nofun
    | false =>
      have polls := Watcher.polls_receive ended event
      refine ⟨polls.issued_eq sound.issued_eq, sound.serves, polls.numbered numbered, fun live => ?_⟩
      have whole := sound.whole ⟨ended, polls.serving live.attended, live.active⟩
      rw [underWay, sent, List.append_assoc] at whole
      have left := Watcher.whole_leftBy whole
      rw [← List.append_assoc] at left
      exact polls.whole live.attended left

theorem IsSound.input (sound : loop.IsSound) (input : Watcher.Input) :
    (loop.act (.input input)).IsSound := by
  have polls := loop.watcher.polls_take input
  refine ⟨polls.issued_eq sound.issued_eq, sound.serves, polls.numbered sound.numbered,
    fun live => ?_⟩
  have whole := sound.whole
    ⟨Watcher.running_of_take live.running, polls.serving live.attended, live.active⟩
  exact polls.whole live.attended whole

/-- **Every action keeps the loop sound.** -/
theorem IsSound.act (sound : loop.IsSound) (action : Action σ) : (loop.act action).IsSound := by
  cases action with
  | change _ | signal _ | leave =>
    exact { sound with whole := fun live => sound.whole ⟨live.running, live.attended, live.active⟩ }
  | advance => exact sound.advance
  | beginCycle => exact sound.beginCycle
  | retire =>
    simp only [PollLoop.act]
    split
    · exact { sound with serves := Or.inl rfl, whole := fun live => absurd rfl live.active }
    · exact sound
  | receive => exact sound.receive
  | input input => exact sound.input input

/-- **The outstanding poll is in exactly one place, and there is no other poll.** Whatever has happened
so far, the polls issued are 0, 1, 2, … without a gap or a repetition. As long as neither poller nor
watcher has come to its end, the polls in the slot, in the poller's hands and on their way back are
together the one that is outstanding, or none. So a poll that is issued finds the slot empty, and a
cycle that comes back is the outstanding one. -/
theorem outstanding_poll_is_in_one_place (reader : Reader σ κ) (policy : Backoff) (primes : Bool)
    (strategy : Strategy) (actions : List (Action σ)) :
    let loop := (start reader policy primes strategy).run actions
    loop.issued = List.range loop.watcher.nextSeq ∧
      (loop.IsLive →
        loop.underWay = loop.watcher.outstanding.toList ∧
          (∀ input seq, loop.watcher.pollFor? input = some seq →
            (loop.watcher.polls.offer seq).1 = true) ∧
          ∀ event rest, loop.poller.outbox = event :: rest →
            (∀ seq, event.ended? = some seq → loop.watcher.outstanding = some seq) ∧
              ∀ seq, loop.watcher.pollAfter? event = some seq →
                (loop.watcher.polls.offer seq).1 = true) := by
  intro loop
  have sound : loop.IsSound :=
    List.foldlRecOn actions PollLoop.act (isSound_start reader policy primes strategy)
      fun _ sound action _ => sound.act action
  refine ⟨sound.issued_eq, fun live => ?_⟩
  have whole := sound.whole live
  refine ⟨whole, fun input seq issued => ?_, fun event rest sent => ?_⟩
  · have accepted := (loop.watcher.polls_take input).accepted live.attended whole issued
    rw [accepted]
  · rw [underWay, sent, List.append_assoc] at whole
    refine ⟨fun seq ended => (Watcher.outstanding_of_ended whole ended).1, fun seq issued => ?_⟩
    have left := Watcher.whole_leftBy whole
    rw [← List.append_assoc] at left
    have accepted := (Watcher.polls_receive live.running event).accepted live.attended left issued
    rw [accepted]

/-- A sync is requested while the first cycle is under way. The end of that cycle comes back as the
outstanding poll, and lets the next poll be issued into an empty slot. -/
theorem second_poll_is_in_slot :
    let loop := (start (Reader.ofSource (MemoryLog.empty false) none 8) {} false .snapshot).run
      [.input .tick, .beginCycle, .advance, .input .requestSync, .advance, .advance, .receive]
    loop.issued = [0, 1] ∧ loop.watcher.outstanding = some 1 ∧ loop.underWay = [1] := by
  intro loop
  have live : loop.IsLive := ⟨by decide, by decide, by decide⟩
  have outstanding : loop.watcher.outstanding = some 1 := by decide
  obtain ⟨issued, whole⟩ := outstanding_poll_is_in_one_place
    (Reader.ofSource (MemoryLog.empty false) none 8) {} false .snapshot
    [.input .tick, .beginCycle, .advance, .input .requestSync, .advance, .advance, .receive]
  exact ⟨issued, outstanding, (whole live).1.trans (congrArg Option.toList outstanding)⟩

end PollLoop

end ChangeFeed
