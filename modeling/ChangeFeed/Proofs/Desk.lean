/-
# Polls and tickets

Two things are kept in order at the desk where sync requests are filed. Polls are numbered upwards,
and only polls that have been issued wait to be taken. A ticket is answered by a cycle that is no
older than its request, and by nothing else: `Files` says that the ticket still needs such a cycle,
and every input and every event keeps it so.
-/

import ChangeFeed.Proofs.Subscribers

namespace ChangeFeed

namespace SyncController

variable {controller : SyncController}

theorem waiters_issueIfIdle (controller : SyncController) :
    controller.issueIfIdle.2.waiters = controller.waiters := by
  unfold issueIfIdle
  split <;> rfl

theorem waiters_release (controller : SyncController) (seq : Nat) :
    (controller.release seq).waiters = controller.waiters := by
  unfold release
  split <;> rfl

theorem nextSeq_release (controller : SyncController) (seq : Nat) :
    (controller.release seq).nextSeq = controller.nextSeq := by
  unfold release
  split <;> rfl

/-- A poll that is issued takes the next number. -/
theorem issueIfIdle_cases (controller : SyncController) :
    controller.issueIfIdle.1 = none ∧ controller.issueIfIdle.2.nextSeq = controller.nextSeq ∨
      controller.issueIfIdle.1 = some controller.nextSeq ∧
        controller.issueIfIdle.2.nextSeq = controller.nextSeq + 1 := by
  unfold issueIfIdle
  split
  · exact Or.inl ⟨rfl, rfl⟩
  · exact Or.inr ⟨rfl, rfl⟩

/-- What the end of a cycle leaves waiting. -/
theorem waiters_complete (controller : SyncController) (seq : Nat) :
    (controller.complete seq).2.2.waiters =
      controller.waiters.filter fun waiter => !decide (waiter.needs ≤ seq) := by
  simp only [complete, List.partition_eq_filter_filter, waiters_release]
  split
  · rfl
  · rw [waiters_issueIfIdle]
    rfl

/-- Whom the end of a cycle answers. -/
theorem answered_complete (controller : SyncController) (seq : Nat) :
    (controller.complete seq).1 =
      (controller.waiters.filter fun waiter => decide (waiter.needs ≤ seq)).map (·.ticket) := by
  simp only [complete, List.partition_eq_filter_filter, waiters_release]

theorem complete_cases (controller : SyncController) (seq : Nat) :
    (controller.complete seq).2.1 = none ∧
        (controller.complete seq).2.2.nextSeq = controller.nextSeq ∨
      (controller.complete seq).2.1 = some controller.nextSeq ∧
        (controller.complete seq).2.2.nextSeq = controller.nextSeq + 1 := by
  simp only [complete]
  split
  · exact Or.inl ⟨rfl, nextSeq_release controller seq⟩
  · rw [← nextSeq_release controller seq]
    exact issueIfIdle_cases _

end SyncController

namespace SyncDesk

variable {desk : SyncDesk} {ticket : Nat}

/-- Of the requests those of the given tickets are settled. -/
theorem getElem?_foldl_settle (requests : List RequestState) (tickets : List Nat) (ticket : Nat) :
    (tickets.foldl (fun states ticket => states.modify ticket (settle .done)) requests)[ticket]? =
      if ticket ∈ tickets then requests[ticket]?.map (settle .done) else requests[ticket]? := by
  induction tickets generalizing requests with
  | nil => simp
  | cons first rest ih =>
    rw [List.foldl_cons, ih, List.getElem?_modify]
    have twice : ∀ state, settle .done (settle .done state) = settle .done state := by
      intro state
      cases state <;> rfl
    by_cases same : first = ticket
    · subst same
      by_cases later : first ∈ rest <;> cases requests[first]? <;> simp [later, twice]
    · by_cases later : ticket ∈ rest <;> simp [later, same, Ne.symm same]

/-- One state of the desk and the next. Waiters are either old or hold a new ticket, and a ticket is
answered only when a cycle has been completed that its waiter does not think too old. -/
structure Serves (completed : Option Nat) (before after : SyncDesk) : Prop where
  length_le : before.requests.length ≤ after.requests.length
  waiters : ∀ waiter ∈ after.controller.waiters, waiter ∈ before.controller.waiters ∨
    before.requests.length ≤ waiter.ticket ∧ waiter.ticket < after.requests.length
  answered : ∀ ticket : Nat, after.requests[ticket]? = some .done →
    before.requests[ticket]? = some .done ∨
      ∃ seq, completed = some seq ∧ ∃ waiter ∈ before.controller.waiters,
        waiter.ticket = ticket ∧ waiter.needs ≤ seq

variable {completed : Option Nat} {before after : SyncDesk}

/-- What changes the controller only, and adds no waiter, keeps the desk in service. -/
theorem serves_of_waiters (waiters : after.controller.waiters = before.controller.waiters)
    (requests : after.requests = before.requests) : Serves completed before after where
  length_le := Nat.le_of_eq (congrArg List.length requests.symm)
  waiters _ member := Or.inl (waiters ▸ member)
  answered _ done := Or.inl (requests ▸ done)

theorem serves_refl (desk : SyncDesk) : Serves completed desk desk :=
  serves_of_waiters rfl rfl

theorem serves_tick (desk : SyncDesk) : Serves none desk desk.tick.2 :=
  serves_of_waiters (SyncController.waiters_issueIfIdle desk.controller) rfl

theorem serves_release (completed : Option Nat) (desk : SyncDesk) (seq : Nat) :
    Serves completed desk (desk.release seq) :=
  serves_of_waiters (SyncController.waiters_release desk.controller seq) rfl

/-- A request is added in a state of its own, and no other changes. -/
theorem getElem?_of_append {requests : List RequestState} {added state : RequestState}
    (different : added ≠ state) {ticket : Nat} (found : (requests ++ [added])[ticket]? = some state) :
    requests[ticket]? = some state := by
  rw [List.getElem?_append] at found
  split at found
  · exact found
  · have last := List.mem_of_getElem? found
    exact absurd (List.mem_singleton.mp last).symm different

/-- Who leaves changes nothing for the others. -/
theorem getElem?_of_giveUp {desk : SyncDesk} {left ticket : Nat} {state : RequestState}
    (different : state ≠ .gaveUp) (found : (desk.giveUp left).requests[ticket]? = some state) :
    desk.requests[ticket]? = some state := by
  simp only [giveUp, List.getElem?_set] at found
  split at found
  · split at found
    · exact absurd (Option.some.inj found).symm different
    · cases found
  · exact found

/-- Whoever is not closed when all who wait are has not waited. -/
theorem getElem?_of_failAll {desk : SyncDesk} {ticket : Nat} {state : RequestState}
    (different : state ≠ .closed) (found : desk.failAll.requests[ticket]? = some state) :
    state ≠ .waiting ∧ desk.requests[ticket]? = some state := by
  simp only [failAll, List.getElem?_map, Option.map_eq_some_iff] at found
  obtain ⟨held, same, settled⟩ := found
  unfold settle at settled
  split at settled
  · exact absurd settled.symm different
  · next other => exact ⟨settled ▸ other, settled ▸ same⟩

theorem waiters_request (desk : SyncDesk) :
    desk.request.2.controller.waiters =
      desk.controller.waiters ++ [⟨desk.requests.length, desk.controller.nextSeq⟩] :=
  SyncController.waiters_issueIfIdle _

theorem serves_request (desk : SyncDesk) : Serves none desk desk.request.2 where
  length_le := by simp [request]
  waiters waiter member := by
    rw [waiters_request] at member
    rcases List.mem_append.mp member with old | new
    · exact Or.inl old
    · rw [List.mem_singleton.mp new]
      exact Or.inr ⟨Nat.le_refl _, by simp [request]⟩
  answered ticket done := Or.inl (getElem?_of_append (by decide) done)

theorem serves_refuse (desk : SyncDesk) : Serves none desk desk.refuse where
  length_le := by simp [refuse]
  waiters waiter member := Or.inl member
  answered ticket done := Or.inl (getElem?_of_append (by decide) done)

theorem serves_giveUp (desk : SyncDesk) (ticket : Nat) : Serves none desk (desk.giveUp ticket) where
  length_le := by simp [giveUp]
  waiters waiter member := Or.inl member
  answered other done := Or.inl (getElem?_of_giveUp (by decide) done)

theorem serves_failAll (desk : SyncDesk) : Serves none desk desk.failAll where
  length_le := by simp [failAll]
  waiters waiter member := by cases member
  answered ticket done := Or.inl (getElem?_of_failAll (by decide) done).2

/-- The tickets that the end of a cycle answers. -/
theorem mem_answered_iff (desk : SyncDesk) (seq ticket : Nat) :
    ticket ∈ (desk.controller.complete seq).1 ↔
      ∃ waiter ∈ desk.controller.waiters, waiter.ticket = ticket ∧ waiter.needs ≤ seq := by
  rw [SyncController.answered_complete]
  simp only [List.mem_map, List.mem_filter, decide_eq_true_eq]
  constructor
  · rintro ⟨waiter, ⟨member, enough⟩, same⟩
    exact ⟨waiter, member, same, enough⟩
  · rintro ⟨waiter, member, same, enough⟩
    exact ⟨waiter, ⟨member, enough⟩, same⟩

theorem getElem?_requests_complete (desk : SyncDesk) (seq ticket : Nat) :
    (desk.complete seq).2.requests[ticket]? =
      if ticket ∈ (desk.controller.complete seq).1 then desk.requests[ticket]?.map (settle .done)
      else desk.requests[ticket]? :=
  getElem?_foldl_settle _ _ _

/-- The end of a cycle files nothing. -/
theorem length_requests_complete (desk : SyncDesk) (seq : Nat) :
    (desk.complete seq).2.requests.length = desk.requests.length := by
  have same : ∀ (tickets : List Nat) (requests : List RequestState),
      (tickets.foldl (fun states ticket => states.modify ticket (settle .done)) requests).length =
        requests.length := by
    intro tickets
    induction tickets with
    | nil => exact fun _ => rfl
    | cons ticket rest ih => exact fun requests => (ih _).trans (List.length_modify _ _ _)
  exact same _ _

theorem serves_complete (desk : SyncDesk) (seq : Nat) :
    Serves (some seq) desk (desk.complete seq).2 where
  length_le := Nat.le_of_eq (desk.length_requests_complete seq).symm
  waiters waiter member := by
    have kept : (desk.complete seq).2.controller.waiters =
        desk.controller.waiters.filter fun waiter => !decide (waiter.needs ≤ seq) :=
      SyncController.waiters_complete desk.controller seq
    rw [kept] at member
    exact Or.inl (List.mem_filter.mp member).1
  answered ticket done := by
    rw [getElem?_requests_complete] at done
    split at done
    · next answered => exact Or.inr ⟨seq, rfl, (desk.mem_answered_iff seq ticket).mp answered⟩
    · exact Or.inl done

/-- The ticket has been filed, and who waits with it needs a cycle numbered `first` or above. -/
structure Files (desk : SyncDesk) (ticket first : Nat) : Prop where
  filed : ticket < desk.requests.length
  needs : ∀ waiter ∈ desk.controller.waiters, waiter.ticket = ticket → first ≤ waiter.needs

/-- Nobody waits with a ticket that has not been given out. -/
def IsTicketed (desk : SyncDesk) : Prop :=
  ∀ waiter ∈ desk.controller.waiters, waiter.ticket < desk.requests.length

theorem Serves.isTicketed (serves : Serves completed before after) (ticketed : before.IsTicketed) :
    after.IsTicketed := by
  intro waiter member
  rcases serves.waiters waiter member with old | new
  · exact Nat.lt_of_lt_of_le (ticketed waiter old) serves.length_le
  · exact new.2

theorem Serves.files {first : Nat} (serves : Serves completed before after)
    (files : before.Files ticket first) : after.Files ticket first where
  filed := Nat.lt_of_lt_of_le files.filed serves.length_le
  needs waiter member same := by
    rcases serves.waiters waiter member with old | new
    · exact files.needs waiter old same
    · have filed := files.filed
      omega

/-- A request is filed under the next ticket, and needs a cycle that is still to be issued. -/
theorem files_request (ticketed : desk.IsTicketed) :
    desk.request.2.Files desk.requests.length desk.controller.nextSeq where
  filed := by simp [request]
  needs waiter member same := by
    rw [waiters_request] at member
    rcases List.mem_append.mp member with old | new
    · have below := ticketed waiter old
      omega
    · obtain rfl := List.mem_singleton.mp new
      exact Nat.le_refl _

/-- A cycle that is older than a request does nothing for its ticket. -/
theorem Files.getElem?_requests_complete {first seq : Nat} (files : desk.Files ticket first)
    (older : seq < first) : (desk.complete seq).2.requests[ticket]? = desk.requests[ticket]? := by
  rw [SyncDesk.getElem?_requests_complete, if_neg]
  rw [mem_answered_iff]
  rintro ⟨waiter, member, same, enough⟩
  have needs := files.needs waiter member same
  omega

end SyncDesk

/-- The cycle of which the event tells that it has reached the head of the log. -/
def Event.completed? : Event → Option Nat
  | .cycleComplete seq => some seq
  | _ => none

namespace Watcher

/-- The number of the next poll. -/
def nextSeq (watcher : Watcher) : Nat :=
  watcher.desk.controller.nextSeq

/-- One state of a watcher's desk and polls and the next. -/
structure Advances (completed : Option Nat) (before after : Watcher) : Prop where
  serves : SyncDesk.Serves completed before.desk after.desk
  issued : before.nextSeq ≤ after.nextSeq
  waiting : ∀ poll, after.polls.waiting = some poll → before.polls.waiting = some poll ∨
    before.nextSeq ≤ poll ∧ poll < after.nextSeq

variable {completed : Option Nat} {watcher after : Watcher}

/-- Whatever happens away from the poll slot and the numbering. -/
theorem advances_of_polls (serves : SyncDesk.Serves completed watcher.desk after.desk)
    (issued : after.nextSeq = watcher.nextSeq) (polls : after.polls = watcher.polls) :
    Advances completed watcher after where
  serves := serves
  issued := Nat.le_of_eq issued.symm
  waiting _ held := Or.inl (polls ▸ held)

theorem advances_refl (completed : Option Nat) (watcher : Watcher) :
    Advances completed watcher watcher :=
  advances_of_polls (SyncDesk.serves_refl _) rfl rfl

/-- A poll that the desk issues waits to be taken, or is forgotten. -/
theorem advances_issue {desk : SyncDesk} {poll : Option Nat}
    (serves : SyncDesk.Serves completed watcher.desk desk)
    (numbered : poll = none ∧ desk.controller.nextSeq = watcher.nextSeq ∨
      poll = some watcher.nextSeq ∧ desk.controller.nextSeq = watcher.nextSeq + 1) :
    Advances completed watcher ({ watcher with desk }.issue poll) := by
  rcases numbered with ⟨rfl, same⟩ | ⟨rfl, next⟩
  · exact advances_of_polls serves same rfl
  · cases refused : (watcher.polls.abandoned || watcher.polls.waiting.isSome) with
    | false =>
      simp only [Watcher.issue, PollSlot.offer, refused, Bool.false_eq_true, if_false]
      refine ⟨serves, Nat.le_of_lt (Nat.lt_of_lt_of_eq (Nat.lt_succ_self _) next.symm), ?_⟩
      intro poll held
      cases held
      exact Or.inr ⟨Nat.le_refl _, Nat.lt_of_lt_of_eq (Nat.lt_succ_self _) next.symm⟩
    | true =>
      simp only [Watcher.issue, PollSlot.offer, refused, if_true]
      have released : (desk.release watcher.nextSeq).controller.nextSeq = watcher.nextSeq + 1 :=
        (SyncController.nextSeq_release _ _).trans next
      have kept : SyncDesk.Serves completed watcher.desk (desk.release watcher.nextSeq) :=
        { length_le := serves.length_le
          waiters := fun waiter member =>
            serves.waiters waiter (SyncController.waiters_release desk.controller _ ▸ member)
          answered := serves.answered }
      refine ⟨kept, Nat.le_of_lt (Nat.lt_of_lt_of_eq (Nat.lt_succ_self _) released.symm), ?_⟩
      exact fun _ held => Or.inl held

/-- What the desk has in hand is the same whether its poll waits or is forgotten. -/
theorem desk_issue (watcher : Watcher) (poll : Option Nat) :
    (watcher.issue poll).desk = watcher.desk ∨
      ∃ seq, (watcher.issue poll).desk = watcher.desk.release seq := by
  cases poll with
  | none => exact Or.inl rfl
  | some seq =>
    simp only [Watcher.issue]
    split
    · exact Or.inl rfl
    · exact Or.inr ⟨seq, rfl⟩

theorem length_requests_issue (watcher : Watcher) (poll : Option Nat) :
    (watcher.issue poll).desk.requests.length = watcher.desk.requests.length := by
  rcases watcher.desk_issue poll with same | ⟨_, released⟩
  · rw [same]
  · rw [released]
    rfl

/-- An idle tick files nothing. -/
theorem length_requests_tick (watcher : Watcher) :
    watcher.tick.desk.requests.length = watcher.desk.requests.length := by
  unfold tick
  split
  · rfl
  · exact length_requests_issue _ _

theorem length_requests_unregisterNext (watcher : Watcher) :
    watcher.unregisterNext.desk.requests.length = watcher.desk.requests.length := by
  unfold unregisterNext
  split
  · rfl
  · unfold unregister
    split <;> rfl

/-- A request is filed, whether it will be answered or not. -/
theorem length_requests_requestSync (watcher : Watcher) :
    watcher.requestSync.desk.requests.length = watcher.desk.requests.length + 1 := by
  unfold requestSync
  split
  · simp [SyncDesk.refuse]
  · rw [length_requests_issue]
    simp [SyncDesk.request]

/-- Events file nothing. -/
theorem length_requests_receive (watcher : Watcher) (event : Event) :
    (watcher.receive event).desk.requests.length = watcher.desk.requests.length := by
  cases ended : watcher.hasEnded with
  | true =>
    have still : watcher.receive event = watcher := if_pos ended
    rw [still]
  | false =>
    by_cases isAboutLog : event.isAboutLog = true
    · obtain ⟨metrics, received⟩ := receive_eq ended event isAboutLog
      rw [received]
    · cases event with
      | primed _ | batch _ | discontinuity _ => exact absurd rfl isAboutLog
      | cycleComplete seq =>
        simp only [receive, ended, Bool.false_eq_true, if_false]
        rw [length_requests_issue]
        exact watcher.desk.length_requests_complete seq
      | cycleAborted seq reason =>
        simp only [receive, ended, Bool.false_eq_true, if_false]
        rfl
      | fatal reason =>
        simp only [receive, ended, Bool.false_eq_true, if_false]
        exact List.length_map _

/-- **A request takes the next ticket**, needs a poll that is still to be issued, and is not answered
at once. -/
theorem files_requestSync (ticketed : watcher.desk.IsTicketed) :
    watcher.requestSync.desk.Files watcher.desk.requests.length watcher.nextSeq ∧
      watcher.requestSync.desk.requests[watcher.desk.requests.length]? ≠ some .done := by
  unfold requestSync
  split
  · refine ⟨⟨by simp [SyncDesk.refuse], fun waiter member same => ?_⟩, by simp [SyncDesk.refuse]⟩
    have below := ticketed waiter member
    omega
  · have files := SyncDesk.files_request ticketed
    have unanswered : watcher.desk.request.2.requests[watcher.desk.requests.length]? ≠ some .done := by
      simp [SyncDesk.request]
    rcases desk_issue { watcher with desk := watcher.desk.request.2 } watcher.desk.request.1 with
      same | ⟨seq, released⟩
    · rw [same]
      exact ⟨files, unanswered⟩
    · rw [released]
      exact ⟨(SyncDesk.serves_release none _ seq).files files, unanswered⟩

/-- **Every input advances the desk**, and answers nobody. -/
theorem advances_take (watcher : Watcher) (input : Input) :
    Advances none watcher (watcher.take input) := by
  cases input with
  | tick =>
    simp only [take, tick]
    split
    · exact advances_refl _ watcher
    · exact advances_issue (SyncDesk.serves_tick _) (SyncController.issueIfIdle_cases _)
  | requestSync =>
    simp only [take, requestSync]
    split
    · exact advances_of_polls (SyncDesk.serves_refuse _) rfl rfl
    · exact advances_issue (SyncDesk.serves_request _) (SyncController.issueIfIdle_cases _)
  | giveUp ticket => exact advances_of_polls (SyncDesk.serves_giveUp _ _) rfl rfl
  | abandonPolls =>
    exact ⟨SyncDesk.serves_refl _, Nat.le_refl _, fun _ held => by cases held⟩
  | watch key since =>
    simp only [take, watch]
    split
    · exact advances_refl _ watcher
    · split <;> exact advances_of_polls (SyncDesk.serves_refl _) rfl rfl
  | unregisterNext =>
    simp only [take, unregisterNext]
    split
    · exact advances_refl _ watcher
    · unfold Watcher.unregister
      split <;> exact advances_of_polls (SyncDesk.serves_refl _) rfl rfl
  | stop id | drop id | changes id | next id | streamNext id =>
    simp only [take, stop, drop, changes, next, streamNext]
    split <;> exact advances_of_polls (SyncDesk.serves_refl _) rfl rfl
  | shutDown | readerLost =>
    simp only [take, shutDown, readerLost]
    split
    · exact advances_refl _ watcher
    · exact advances_of_polls (SyncDesk.serves_failAll _) rfl rfl

/-- **Every event advances the desk**, and answers nobody but those whom the cycle that it completes
is new enough for. -/
theorem advances_receive (watcher : Watcher) (event : Event) :
    Advances event.completed? watcher (watcher.receive event) := by
  cases ended : watcher.hasEnded with
  | true =>
    have still : watcher.receive event = watcher := if_pos ended
    rw [still]
    exact advances_refl _ watcher
  | false =>
    by_cases isAboutLog : event.isAboutLog = true
    · obtain ⟨metrics, received⟩ := receive_eq ended event isAboutLog
      rw [received]
      exact advances_of_polls (SyncDesk.serves_refl _) rfl rfl
    · cases event with
      | primed _ | batch _ | discontinuity _ => exact absurd rfl isAboutLog
      | cycleComplete seq =>
        simp only [receive, ended, Bool.false_eq_true, if_false]
        exact advances_issue (SyncDesk.serves_complete _ _) (SyncController.complete_cases _ _)
      | cycleAborted seq reason =>
        simp only [receive, ended, Bool.false_eq_true, if_false]
        exact advances_of_polls (SyncDesk.serves_release _ _ _) (SyncController.nextSeq_release _ _) rfl
      | fatal reason =>
        simp only [receive, ended, Bool.false_eq_true, if_false]
        exact advances_of_polls (SyncDesk.serves_failAll _) rfl rfl

/-- The end of a cycle that is older than a request does nothing for its ticket. -/
theorem getElem?_requests_receive {ticket first seq : Nat} (files : watcher.desk.Files ticket first)
    (older : seq < first) :
    (watcher.receive (.cycleComplete seq)).desk.requests[ticket]? =
      watcher.desk.requests[ticket]? := by
  unfold receive
  split
  · rfl
  · have unchanged := files.getElem?_requests_complete older
    rcases desk_issue { watcher with desk := (watcher.desk.complete seq).2 }
        (watcher.desk.complete seq).1 with same | ⟨_, released⟩
    · exact (congrArg (·.requests[ticket]?) same).trans unchanged
    · exact (congrArg (·.requests[ticket]?) released).trans unchanged

end Watcher

end ChangeFeed
