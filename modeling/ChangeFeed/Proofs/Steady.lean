/-
# A place that is never lost

A log that nobody truncates, and whose faults all pass, gives its reader no reason to start anew. Its
poller owes no fresh start, and whatever it sends is an ordinary event: changes, or the end of a
cycle. So the watcher behind it hears of no discontinuity and of no failure, and runs on.

Other modules allow for truncations and lost places; here they are left out from the start.
-/

import ChangeFeed.Proofs.Barrier
import ChangeFeed.Proofs.Transparency

namespace ChangeFeed

/-- The event neither tells of a lost place nor of a failure. -/
def Event.isOrdinary : Event → Bool
  | .discontinuity _ | .fatal _ => false
  | .primed _ | .batch _ | .cycleComplete _ | .cycleAborted _ _ => true

namespace MemoryLog

/-- The edit truncates nothing, and a fault that it makes passes. -/
def Edit.IsCalm : Edit → Prop
  | .truncate _ => False
  | .failNextOpen fault | .failNextRead fault | .failNextSnapshot fault => fault.isPassing = true
  | .upsert _ | .remove _ | .append _ | .invalidateCursors => True

instance : ∀ edit : Edit, Decidable edit.IsCalm
  | .truncate _ => instDecidableFalse
  | .failNextOpen fault | .failNextRead fault | .failNextSnapshot fault =>
    inferInstanceAs (Decidable (fault.isPassing = true))
  | .upsert _ | .remove _ | .append _ | .invalidateCursors => instDecidableTrue

/-- Nothing has been truncated, and every fault that waits will pass. -/
structure IsWhole (log : MemoryLog) : Prop where
  untouched : log.cut = none
  passing : ∀ fault ∈ log.faults, fault.isPassing = true

variable {log other : MemoryLog}

theorem IsWhole.not_lt_horizon (whole : log.IsWhole) (position : Position) :
    ¬ position < log.horizon := by
  rw [horizon, whole.untouched]
  exact Nat.not_lt_zero position

/-- A request leaves a whole log whole. -/
theorem IsWhole.left (whole : log.IsWhole) (left : other.IsLeftOf log) : other.IsWhole where
  untouched := left.contents.cut_eq.trans whole.untouched
  passing fault waiting := whole.passing fault (left.faults_subset fault waiting)

theorem faults_edit {edit : Edit} (calm : edit.IsCalm) {fault : Fault}
    (waiting : fault ∈ (log.edit edit).faults) : fault ∈ log.faults ∨ fault.isPassing = true := by
  cases edit with
  | upsert document =>
    left
    simp only [MemoryLog.edit, upsert?] at waiting
    cases found : log.updateRevno? document with
    | none => simpa [found] using waiting
    | some revno =>
      rw [found] at waiting
      exact waiting
  | remove document =>
    left
    simp only [MemoryLog.edit, MemoryLog.remove] at waiting
    split at waiting <;> exact waiting
  | append _ | invalidateCursors => exact Or.inl waiting
  | truncate _ => exact calm.elim
  | failNextOpen given | failNextRead given | failNextSnapshot given =>
    by_cases new : fault = given
    · exact Or.inr (new ▸ calm)
    · left
      simpa [MemoryLog.edit, failNextOpen, failNextRead, failNextSnapshot, faults, new] using waiting

/-- Neither does a calm edit break it. -/
theorem IsWhole.edit (whole : log.IsWhole) {edit : Edit} (calm : edit.IsCalm) :
    (log.edit edit).IsWhole where
  untouched := by
    refine (cut_edit ?_).trans whole.untouched
    rintro through rfl
    exact calm
  passing fault waiting := (faults_edit calm waiting).elim (whole.passing fault) id

end MemoryLog

namespace Poller

variable {history : List Change} {stage : Stage} {poller : Poller MemoryLog MemoryLog.Cursor}
  {seq attempts : Nat}

/-- The poller has kept its place, and tells of nothing else. -/
structure IsSteady (poller : Poller MemoryLog MemoryLog.Cursor) (stage : Stage) : Prop where
  whole : poller.reader.source.IsWhole
  keepsPlace : poller.needsFreshStart = false
  ordinary : ∀ event ∈ poller.queue stage, event.isOrdinary = true

/-- A step that asks for no fresh start, and leaves an ordinary event to be sent if any, keeps the
poller steady. -/
theorem IsSteady.moved (steady : poller.IsSteady stage) (later : Poller MemoryLog MemoryLog.Cursor)
    (next : Stage) (left : later.reader.source.IsLeftOf poller.reader.source)
    (keepsPlace : later.needsFreshStart = poller.needsFreshStart)
    (sent : ∀ event ∈ later.outbox, event ∈ poller.queue stage)
    (ordinary : ∀ event ∈ next.unsent, event.isOrdinary = true) : later.IsSteady next where
  whole := steady.whole.left left
  keepsPlace := keepsPlace.trans steady.keepsPlace
  ordinary event member := (List.mem_append.mp member).elim
    (fun old => steady.ordinary event (sent event old)) (ordinary event)

/-- A step that leaves nothing to be sent keeps it so all the more. -/
theorem IsSteady.silent (steady : poller.IsSteady stage) (later : Poller MemoryLog MemoryLog.Cursor)
    (next : Stage) (left : later.reader.source.IsLeftOf poller.reader.source)
    (keepsPlace : later.needsFreshStart = poller.needsFreshStart)
    (sent : ∀ event ∈ later.outbox, event ∈ poller.queue stage) (nothing : next.unsent = []) :
    later.IsSteady next :=
  steady.moved later next left keepsPlace sent (nothing ▸ List.forall_mem_nil _)

theorem mem_queue_of_mem_outbox {event : Event} (member : event ∈ poller.outbox) :
    event ∈ poller.queue stage :=
  List.mem_append_left _ member

/-- A request that failed is tried again, or the cycle is given up. -/
theorem IsSteady.retrying (steady : poller.IsSteady stage)
    (later : Poller MemoryLog MemoryLog.Cursor)
    (left : later.reader.source.IsLeftOf poller.reader.source)
    (keepsPlace : later.needsFreshStart = poller.needsFreshStart)
    (outbox : later.outbox = poller.outbox) (error : ReadError) :
    (later.retrying seq attempts error).2.IsSteady (later.retrying seq attempts error).1 := by
  have sent : ∀ event ∈ later.outbox, event ∈ poller.queue stage := fun event member =>
    mem_queue_of_mem_outbox (outbox ▸ member)
  unfold Poller.retrying
  split
  · exact steady.silent _ _ left keepsPlace sent rfl
  · refine steady.moved _ _ left keepsPlace sent fun event member => ?_
    rw [List.mem_singleton.mp member]
    rfl

theorem IsSteady.primeStep (steady : poller.IsSteady (.resting (.priming attempts))) :
    (poller.primeStep attempts).2.IsSteady (poller.primeStep attempts).1 := by
  have sent : ∀ event ∈ poller.outbox, event ∈ poller.queue (.resting (.priming attempts)) :=
    fun event member => mem_queue_of_mem_outbox member
  rcases poller.reader.source.takeSnapshot_cases with
    ⟨fault, source, asked, left, meets⟩ | ⟨-, -, asked⟩ | ⟨-, asked⟩
  · obtain ⟨reason, retryable⟩ := ReadError.ofFault_of_isPassing (steady.whole.passing fault meets.mem)
    simp only [Poller.primeStep, Reader.prime, asked, retryable]
    split <;> exact steady.silent _ _ left rfl sent rfl
  · simp only [Poller.primeStep, Reader.prime, asked]
    refine steady.moved _ _ (.refl _) rfl sent fun event member => ?_
    rw [List.mem_singleton.mp member]
    rfl
  · simp only [Poller.primeStep, Reader.prime, asked]
    exact steady.silent _ _ (.refl _) rfl sent rfl

theorem IsSteady.openStep (steady : poller.IsSteady (.resting (.turning seq attempts))) :
    (poller.openStep seq attempts).2.IsSteady (poller.openStep seq attempts).1 := by
  have sent : ∀ event ∈ poller.outbox, event ∈ poller.queue (.resting (.turning seq attempts)) :=
    fun event member => mem_queue_of_mem_outbox member
  cases present : poller.reader.cursor with
  | some cursor =>
    simp only [Poller.openStep, Reader.openCursor, present]
    exact steady.silent _ _ (.refl _) rfl sent rfl
  | none =>
    rcases poller.reader.source.openCursor_cases poller.reader.committed with
      ⟨fault, source, asked, left, why⟩ | ⟨cursor, asked, -⟩
    · have waiting : fault ∈ poller.reader.source.faults := by
        refine (why.resolve_right ?_).mem
        rintro ⟨position, -, expired, -⟩
        exact steady.whole.not_lt_horizon position expired
      obtain ⟨reason, retryable⟩ :=
        ReadError.ofFault_of_isPassing (steady.whole.passing fault waiting)
      simp only [Poller.openStep, Reader.openCursor, present, asked, retryable, Poller.failing]
      exact steady.retrying { poller with reader := { poller.reader with source, cursor := none } }
        left rfl rfl _
    · simp only [Poller.openStep, Reader.openCursor, present, asked]
      exact steady.silent _ _ (.refl _) rfl sent rfl

/-- A batch that is as full as it gets is ordinary news, and so is the head of the log. -/
theorem IsSteady.closing (steady : poller.IsSteady stage) (batch : Batch)
    (later : Poller MemoryLog MemoryLog.Cursor)
    (left : later.reader.source.IsLeftOf poller.reader.source)
    (keepsPlace : later.needsFreshStart = poller.needsFreshStart)
    (outbox : later.outbox = poller.outbox) : later.IsSteady (Poller.closing seq batch) := by
  have sent : ∀ event ∈ later.outbox, event ∈ poller.queue stage := fun event member =>
    mem_queue_of_mem_outbox (outbox ▸ member)
  refine steady.moved later _ left keepsPlace sent fun event member => ?_
  unfold Poller.closing at member
  split at member <;>
    · rw [List.mem_singleton.mp member]
      rfl

theorem IsSteady.fillStep {batch : Batch} (steady : poller.IsSteady (.filling seq attempts batch))
    (records : poller.reader.source.Records history) :
    (poller.fillStep seq attempts batch).2.IsSteady (poller.fillStep seq attempts batch).1 := by
  unfold Poller.fillStep
  split
  · split
    · exact steady.closing batch _ (.refl _) rfl rfl
    · next cursor present =>
      rcases MemoryLog.nextEntry_cases records.entryAfter_eq cursor with
        ⟨fault, source, asked, left, why⟩ | ⟨-, -, asked⟩ | ⟨change, -, -, asked⟩
      · have passing : fault.isPassing = true := by
          rcases why with waiting | ⟨-, rfl⟩ | ⟨expired, -⟩
          · exact steady.whole.passing fault waiting
          · rfl
          · exact absurd expired (steady.whole.not_lt_horizon _)
        obtain ⟨reason, retryable⟩ := ReadError.ofFault_of_isPassing passing
        simp only [asked, retryable, Poller.failing]
        exact steady.retrying { poller with reader := { poller.reader with source, cursor := none } }
          left rfl rfl _
      · simp only [asked]
        exact steady.closing batch _ (.refl _) rfl rfl
      · simp only [asked]
        exact steady.silent _ _ (.refl _) rfl (fun event member => mem_queue_of_mem_outbox member) rfl
  · exact steady.closing batch _ (.refl _) rfl rfl

/-- Sending what is on the poller's hands, or losing it for want of a watcher. -/
theorem IsSteady.sendStep {event : Event} {rest : Rest}
    (steady : poller.IsSteady (.sending event rest)) :
    (poller.sendStep event rest).2.IsSteady (poller.sendStep event rest).1 := by
  cases watched : poller.watched with
  | false =>
    simp only [Poller.sendStep, Poller.send, watched, Bool.false_eq_true, if_false]
    exact steady.silent _ _ (.refl _) rfl (fun other member => mem_queue_of_mem_outbox member) rfl
  | true =>
    simp only [Poller.sendStep, Poller.send, watched, if_true]
    exact steady.silent _ _ (.refl _) rfl (fun other member => member) rfl

theorem IsSteady.handStep {batch : Batch} (steady : poller.IsSteady (.handing seq batch)) :
    (poller.handStep seq batch).2.IsSteady (poller.handStep seq batch).1 := by
  cases watched : poller.watched with
  | false =>
    simp only [Poller.handStep, Poller.handOver, Poller.send, watched, Bool.false_eq_true, if_false]
    exact steady.silent _ _ (.refl _) rfl (fun other member => mem_queue_of_mem_outbox member) rfl
  | true =>
    simp only [Poller.handStep, Poller.handOver, Poller.send, watched, if_true]
    cases batch.position with
    | none => exact steady.silent _ _ (.refl _) rfl (fun other member => member) rfl
    | some position =>
      refine steady.silent _ _ ?_ rfl (fun other member => member) rfl
      have kept : (poller.reader.commit position).source = poller.reader.source := by
        unfold Reader.commit
        split <;> rfl
      rw [kept]
      exact .refl _

/-- **A steady poller stays steady.** -/
theorem IsSteady.step (steady : poller.IsSteady stage) (stands : poller.Stands history stage) :
    (poller.step stage).2.IsSteady (poller.step stage).1 := by
  cases stage with
  | resting rest =>
    cases rest with
    | priming attempts => exact steady.primeStep
    | turning seq attempts =>
      have opens : poller.step (.resting (.turning seq attempts)) = poller.openStep seq attempts := by
        simp [Poller.step, steady.keepsPlace]
      rw [opens]
      exact steady.openStep
    | idle | stopped => exact steady
  | filling seq attempts batch => exact steady.fillStep stands.records
  | handing seq batch => exact steady.handStep
  | sending event rest => exact steady.sendStep
  | waiting rest =>
    exact steady.silent _ _ (.refl _) rfl (fun event member => mem_queue_of_mem_outbox member)
      rfl

end Poller

namespace Watcher

variable {watcher : Watcher}

/-- Only its reader and a shutdown end a watcher. -/
def Input.endsWatcher : Input → Bool
  | .shutDown | .readerLost => true
  | .tick | .requestSync | .giveUp _ | .watch _ _ | .unregisterNext | .stop _ | .drop _ | .changes _
  | .next _ | .streamNext _ | .abandonPolls => false

theorem outcome_take {input : Input} (goesOn : input.endsWatcher = false) :
    (watcher.take input).outcome = watcher.outcome := by
  cases idle : input.isIdle with
  | true =>
    obtain ⟨_, _, _, _, _, same⟩ := watcher.take_of_isIdle idle
    rw [same]
  | false =>
    cases input with
    | tick | requestSync | giveUp _ | unregisterNext | abandonPolls => cases idle
    | watch key since =>
      simp only [take, watch]
      split
      · rfl
      · split <;> rfl
    | stop id | drop id | changes id | next id | streamNext id =>
      simp only [take, stop, drop, changes, next, streamNext]
      split <;> rfl
    | shutDown | readerLost => cases goesOn

/-- No ordinary event ends a watcher. -/
theorem running_receive {event : Event} (ordinary : event.isOrdinary = true)
    (running : watcher.hasEnded = false) : (watcher.receive event).hasEnded = false := by
  cases event with
  | primed changes =>
    obtain ⟨metrics, received⟩ := receive_eq running (.primed changes) rfl
    rw [received]
    exact running
  | batch changes =>
    obtain ⟨metrics, received⟩ := receive_eq running (.batch changes) rfl
    rw [received]
    exact running
  | cycleComplete seq =>
    have kept := (issue_frame { watcher with desk := (watcher.desk.complete seq).2 }
      (watcher.desk.complete seq).1).2.2
    simp only [receive, running, Bool.false_eq_true, if_false]
    rw [hasEnded, kept]
    exact running
  | cycleAborted seq reason =>
    simp only [receive, running, Bool.false_eq_true, if_false]
    exact running
  | discontinuity _ | fatal _ => cases ordinary

end Watcher

namespace System

variable {system : System} {action : Action}

/-- The action truncates nothing, causes passing faults only, and does not end the watcher. -/
def Action.IsCalm : Action → Prop
  | .edit given => given.IsCalm
  | .input given => given.endsWatcher = false
  | .advance | .beginCycle | .retire | .signal _ | .leave | .receive => True

instance : ∀ action : Action, Decidable action.IsCalm
  | .edit given => inferInstanceAs (Decidable given.IsCalm)
  | .input given => inferInstanceAs (Decidable (given.endsWatcher = false))
  | .advance | .beginCycle | .retire | .signal _ | .leave | .receive => instDecidableTrue

theorem Action.IsCalm.isFair (calm : action.IsCalm) (system : System) : system.IsFair action := by
  cases action with
  | edit edit =>
    cases edit with
    | truncate _ => exact calm.elim
    | upsert _ | remove _ | append _ | invalidateCursors | failNextOpen _ | failNextRead _
    | failNextSnapshot _ => trivial
  | advance | beginCycle | retire | signal _ | leave | receive | input _ => trivial

/-- The poller has kept its place. -/
def IsSteady (system : System) : Prop :=
  system.poller.IsSteady system.stage

theorem isSteady_start (settings : Settings) (strategy : Strategy) (supportsSnapshots : Bool) :
    (start settings strategy supportsSnapshots).IsSteady where
  whole := ⟨rfl, nofun⟩
  keepsPlace := rfl
  ordinary := nofun

/-- **A system stays steady in calm.** -/
theorem IsSteady.act (steady : system.IsSteady) (sound : system.IsSound) (calm : action.IsCalm) :
    (system.act action).IsSteady := by
  cases action with
  | edit edit => exact ⟨steady.whole.edit calm, steady.keepsPlace, steady.ordinary⟩
  | advance => exact Poller.IsSteady.step steady sound.stands
  | signal _ | leave => exact ⟨steady.whole, steady.keepsPlace, steady.ordinary⟩
  | input _ => exact steady
  | beginCycle =>
    rcases act_beginCycle_cases system with same | ⟨seq, idle, -, begun⟩
    · rwa [same]
    · rw [begun]
      exact Poller.IsSteady.silent steady _ _ (.refl _) rfl
        (fun event member => Poller.mem_queue_of_mem_outbox member) rfl
  | retire =>
    simp only [System.act]
    split
    · exact Poller.IsSteady.silent steady _ _ (.refl _) rfl
        (fun event member => Poller.mem_queue_of_mem_outbox member) rfl
    · exact steady
  | receive =>
    rcases act_receive_cases system with ⟨-, same⟩ | ⟨event, rest, sent, whole, received⟩
    · rwa [same]
    · rw [received]
      refine ⟨steady.whole, steady.keepsPlace, fun other member => steady.ordinary other ?_⟩
      show other ∈ system.queue
      rw [whole]
      exact List.mem_cons_of_mem event member

/-- **Nor does its watcher end.** -/
theorem IsSteady.running_act (steady : system.IsSteady) (calm : action.IsCalm)
    (running : system.watcher.hasEnded = false) : (system.act action).watcher.hasEnded = false := by
  rcases act_watcher_cases system action with
    same | same | ⟨event, rest, -, sent, received⟩ | ⟨input, rfl, taken⟩
  · rwa [same]
  · rw [same]
    exact running
  · have ordinary := steady.ordinary event (Poller.mem_queue_of_mem_outbox (by simp [sent]))
    rw [received]
    exact Watcher.running_receive ordinary running
  · rw [taken, Watcher.hasEnded, Watcher.outcome_take calm]
    exact running

end System

end ChangeFeed
