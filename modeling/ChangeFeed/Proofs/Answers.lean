/-
# Which poll answers a request

A sync request may be answered only by a poll that did not start before it. The desk sees to this by
numbers: it notes with each request the number of the next poll to be issued. Here the rule is stated
without them. A request is answered by the first poll to complete of those that were issued by it or
after it, and by no other; until then, or until all requests are forgotten, it waits.

Polls come back in one of three ways, and may be issued by three different calls. `Accounts` keeps the
books on them: of the polls issued so far all have come back, except for the outstanding one.
-/

import ChangeFeed.Proofs.OnePoll
import ChangeFeed.Proofs.Run

namespace ChangeFeed

namespace SyncDesk

/-! ## What is done at the desk -/

inductive Call where
  /-- An idle tick. -/
  | tick
  /-- A sync is requested. -/
  | request
  /-- A poll reached the head of the log. -/
  | complete (seq : Nat)
  /-- A poll was given up. -/
  | abort (seq : Nat)
  /-- A poll did not reach the reader. -/
  | cancel (seq : Nat)
  /-- All requests are forgotten. -/
  | failAll
  deriving DecidableEq, Repr

/-- The poll that comes back, in whatever way. -/
def Call.returned? : Call → Option Nat
  | .complete seq | .abort seq | .cancel seq => some seq
  | .tick | .request | .failAll => none

/-- The poll that comes back from the head of the log. -/
def Call.completed? : Call → Option Nat
  | .complete seq => some seq
  | .tick | .request | .abort _ | .cancel _ | .failAll => none

theorem Call.eq_complete_of_completed? {call : Call} {seq : Nat} (completed : call.completed? = some seq) :
    call = .complete seq := by
  cases call <;> cases completed
  rfl

/-- The desk after a call. -/
def take (desk : SyncDesk) : Call → SyncDesk
  | .tick => desk.tick.2
  | .request => desk.request.2
  | .complete seq => (desk.complete seq).2
  | .abort seq | .cancel seq => desk.release seq
  | .failAll => desk.failAll

/-- The poll that a call issues. -/
def issued? (desk : SyncDesk) : Call → Option Nat
  | .tick => desk.tick.1
  | .request => desk.request.1
  | .complete seq => (desk.complete seq).1
  | .abort _ | .cancel _ | .failAll => none

/-- The tickets that a call answers, each with the poll that answers it. -/
def answers (desk : SyncDesk) : Call → List (Nat × Nat)
  | .complete seq => (desk.controller.complete seq).1.map (·, seq)
  | .tick | .request | .abort _ | .cancel _ | .failAll => []

/-- What comes back is the outstanding poll. -/
def Expects (desk : SyncDesk) (call : Call) : Prop :=
  ∀ seq ∈ call.returned?, desk.controller.outstanding = some seq

instance (desk : SyncDesk) (call : Call) : Decidable (desk.Expects call) :=
  inferInstanceAs (Decidable (∀ seq ∈ call.returned?, desk.controller.outstanding = some seq))

/-- The desk after calls, in order. -/
def run (desk : SyncDesk) (calls : List Call) : SyncDesk :=
  calls.foldl take desk

/-- The polls issued in the course of calls. -/
def issuedIn : SyncDesk → List Call → List Nat
  | _, [] => []
  | desk, call :: rest => (desk.issued? call).toList ++ issuedIn (desk.take call) rest

/-- The tickets answered in the course of calls, each with the poll that answers it. -/
def answersIn : SyncDesk → List Call → List (Nat × Nat)
  | _, [] => []
  | desk, call :: rest => desk.answers call ++ answersIn (desk.take call) rest

/-- The polls that come back in the course of calls. -/
def returnedIn (calls : List Call) : List Nat :=
  calls.filterMap Call.returned?

/-- The polls that reach the head of the log before all requests are forgotten. -/
def completedIn (calls : List Call) : List Nat :=
  (calls.takeWhile (· ≠ .failAll)).filterMap Call.completed?

/-- Somebody waits with the ticket. -/
def Awaits (desk : SyncDesk) (ticket : Nat) : Prop :=
  ticket ∈ desk.controller.waiters.map (·.ticket)

variable {desk : SyncDesk} {call : Call} {calls : List Call} {issued returned : List Nat}
  {ticket first : Nat}

theorem run_append (desk : SyncDesk) (first second : List Call) :
    desk.run (first ++ second) = (desk.run first).run second :=
  List.foldl_append

theorem answersIn_append (desk : SyncDesk) (first second : List Call) :
    desk.answersIn (first ++ second) = desk.answersIn first ++ (desk.run first).answersIn second := by
  induction first generalizing desk with
  | nil => rfl
  | cons call rest ih =>
    rw [List.cons_append, answersIn, ih, answersIn, List.append_assoc]
    rfl

/-! ## The books on polls -/

/-- What is outstanding once the call has brought its poll back. -/
def leftBy (desk : SyncDesk) (call : Call) : Option Nat :=
  if call.returned?.isSome then none else desk.controller.outstanding

/-- A call issues the next poll or none, and one only if none is left outstanding. -/
inductive Books (desk : SyncDesk) (call : Call) : Prop where
  | still (issued : desk.issued? call = none)
      (nextSeq_eq : (desk.take call).controller.nextSeq = desk.controller.nextSeq)
      (outstanding : (desk.take call).controller.outstanding = desk.leftBy call)
  | issues (issued : desk.issued? call = some desk.controller.nextSeq)
      (nextSeq_eq : (desk.take call).controller.nextSeq = desk.controller.nextSeq + 1)
      (outstanding : (desk.take call).controller.outstanding = some desk.controller.nextSeq)
      (nothing : desk.leftBy call = none)

/-- A desk that issues a poll if none is outstanding. -/
theorem books_of_issueIfIdle (controller : SyncController)
    (numbered : controller.nextSeq = desk.controller.nextSeq)
    (left : controller.outstanding = desk.leftBy call)
    (issued : desk.issued? call = controller.issueIfIdle.1)
    (taken : (desk.take call).controller = controller.issueIfIdle.2) : desk.Books call := by
  unfold SyncController.issueIfIdle at issued taken
  cases outstanding : controller.outstanding with
  | some seq =>
    simp only [outstanding] at issued taken
    refine .still issued ?_ ?_
    · rw [taken, numbered]
    · rw [taken, left]
  | none =>
    simp only [outstanding] at issued taken
    refine .issues ?_ ?_ ?_ (left.symm.trans outstanding)
    · rw [issued, ← numbered]
      rfl
    · rw [taken, ← numbered]
      rfl
    · rw [taken, ← numbered]
      rfl

theorem outstanding_release {controller : SyncController} {seq : Nat}
    (outstanding : controller.outstanding = some seq) :
    (controller.release seq).outstanding = none := by
  rw [SyncController.release, if_pos outstanding]

theorem books_complete {seq : Nat} (outstanding : desk.controller.outstanding = some seq) :
    desk.Books (.complete seq) := by
  have left : (desk.controller.release seq).outstanding = desk.leftBy (.complete seq) :=
    outstanding_release outstanding
  have numbered := SyncController.nextSeq_release desk.controller seq
  have issued : desk.issued? (.complete seq) = (desk.controller.complete seq).2.1 := rfl
  have taken : (desk.take (.complete seq)).controller = (desk.controller.complete seq).2.2 := rfl
  obtain ⟨waiters, nobody | somebody⟩ := desk.controller.complete_eq seq
  · rw [nobody] at issued taken
    refine .still issued ?_ ?_
    · rw [taken]
      exact numbered
    · rw [taken]
      exact left
  · rw [somebody] at issued taken
    exact books_of_issueIfIdle { desk.controller.release seq with waiters } numbered left issued taken

theorem books_take (expects : desk.Expects call) : desk.Books call := by
  cases call with
  | tick => exact books_of_issueIfIdle desk.controller rfl rfl rfl rfl
  | request =>
    exact books_of_issueIfIdle
      { desk.controller with
        waiters := desk.controller.waiters ++ [⟨desk.requests.length, desk.controller.nextSeq⟩] }
      rfl rfl rfl rfl
  | complete seq => exact books_complete (expects seq rfl)
  | abort seq | cancel seq =>
    exact .still rfl (SyncController.nextSeq_release _ _) (outstanding_release (expects seq rfl))
  | failAll => exact .still rfl rfl rfl

/-- As many polls have been issued as the next number says. -/
def IsCounted (controller : SyncController) : Prop :=
  controller.pollsIssued = controller.nextSeq

theorem IsCounted.issueIfIdle {controller : SyncController} (counted : IsCounted controller) :
    IsCounted controller.issueIfIdle.2 := by
  unfold SyncController.issueIfIdle
  split
  · exact counted
  · exact congrArg (· + 1) counted

theorem IsCounted.release {controller : SyncController} (counted : IsCounted controller) (seq : Nat) :
    IsCounted (controller.release seq) := by
  unfold SyncController.release
  split <;> exact counted

theorem IsCounted.take (counted : IsCounted desk.controller) (call : Call) :
    IsCounted (desk.take call).controller := by
  cases call with
  | tick | request => exact IsCounted.issueIfIdle counted
  | complete seq =>
    have released := counted.release seq
    have taken : (desk.take (.complete seq)).controller = (desk.controller.complete seq).2.2 := rfl
    obtain ⟨waiters, nobody | somebody⟩ := desk.controller.complete_eq seq
    · rw [taken, nobody]
      exact released
    · rw [taken, somebody]
      exact IsCounted.issueIfIdle released
  | abort seq | cancel seq => exact counted.release seq
  | failAll => exact counted

/-- **The count of polls is right, whatever is called.** -/
theorem pollsIssued_run (calls : List Call) :
    (({} : SyncDesk).run calls).controller.pollsIssued = (({} : SyncDesk).run calls).controller.nextSeq :=
  List.foldlRecOn (motive := fun desk : SyncDesk => IsCounted desk.controller) calls take rfl
    fun _ counted call _ => counted.take call

/-- Of the polls issued so far the outstanding one, and only that, has not come back. -/
structure Accounts (desk : SyncDesk) (issued returned : List Nat) : Prop where
  issued_eq : issued = List.range desk.controller.nextSeq
  returned_issued : ∀ seq ∈ returned, seq ∈ issued
  outstanding_iff : ∀ seq, desk.controller.outstanding = some seq ↔ seq ∈ issued ∧ seq ∉ returned

theorem accounts_new : ({} : SyncDesk).Accounts [] [] where
  issued_eq := rfl
  returned_issued _ listed := by cases listed
  outstanding_iff seq := ⟨nofun, fun issued => by cases issued.1⟩

theorem Accounts.mem_issued_iff (accounts : desk.Accounts issued returned) {seq : Nat} :
    seq ∈ issued ↔ seq < desk.controller.nextSeq := by
  rw [accounts.issued_eq, List.mem_range]

/-- When a call has brought its poll back, the books speak of what is left. -/
theorem Accounts.leftBy_iff (accounts : desk.Accounts issued returned) (expects : desk.Expects call)
    (seq : Nat) :
    desk.leftBy call = some seq ↔ seq ∈ issued ∧ seq ∉ returned ++ call.returned?.toList := by
  unfold leftBy
  cases back : call.returned? with
  | none => simp [accounts.outstanding_iff]
  | some other =>
    have outstanding := expects other back
    refine iff_of_false nofun ?_
    rintro ⟨issued, absent⟩
    rw [List.mem_append, not_or] at absent
    have same := (accounts.outstanding_iff seq).mpr ⟨issued, absent.1⟩
    rw [outstanding] at same
    cases same
    exact absent.2 (List.mem_singleton_self _)

/-- **Every call keeps the books.** -/
theorem Accounts.take (accounts : desk.Accounts issued returned) (expects : desk.Expects call) :
    (desk.take call).Accounts (issued ++ (desk.issued? call).toList)
      (returned ++ call.returned?.toList) := by
  have back : ∀ seq ∈ returned ++ call.returned?.toList, seq ∈ issued := by
    intro seq listed
    rcases List.mem_append.mp listed with earlier | now
    · exact accounts.returned_issued seq earlier
    · exact ((accounts.outstanding_iff seq).mp (expects seq (Option.mem_toList.mp now))).1
  have left := accounts.leftBy_iff expects
  cases books_take expects with
  | still nothing nextSeq_eq outstanding =>
    rw [nothing, Option.toList_none, List.append_nil]
    refine ⟨accounts.issued_eq.trans (by rw [nextSeq_eq]), back, fun seq => ?_⟩
    rw [outstanding, left]
  | issues poll nextSeq_eq outstanding nothing =>
    rw [poll, Option.toList_some]
    refine ⟨?_, fun seq listed => List.mem_append_left _ (back seq listed), fun seq => ?_⟩
    · rw [nextSeq_eq, List.range_succ, ← accounts.issued_eq]
    · have new : desk.controller.nextSeq ∉ returned ++ call.returned?.toList := fun listed =>
        Nat.lt_irrefl _ (accounts.mem_issued_iff.mp (back _ listed))
      have none_left : ¬ (seq ∈ issued ∧ seq ∉ returned ++ call.returned?.toList) := by
        rw [← left, nothing]
        nofun
      rw [outstanding, List.mem_append, List.mem_singleton, Option.some_inj]
      constructor
      · rintro rfl
        exact ⟨Or.inr rfl, new⟩
      · rintro ⟨older | rfl, absent⟩
        · exact absurd ⟨older, absent⟩ none_left
        · rfl

theorem Accounts.run (accounts : desk.Accounts issued returned)
    (expected : Run.Allows SyncDesk.take Expects desk calls) :
    (desk.run calls).Accounts (issued ++ desk.issuedIn calls) (returned ++ returnedIn calls) := by
  induction calls generalizing desk issued returned with
  | nil =>
    rw [issuedIn, returnedIn, List.filterMap_nil, List.append_nil, List.append_nil]
    exact accounts
  | cons call rest ih =>
    have later := ih (accounts.take expected.1) expected.2
    have back : returnedIn (call :: rest) = call.returned?.toList ++ returnedIn rest := by
      unfold returnedIn
      cases came : call.returned? with
      | none => rw [List.filterMap_cons_none came]; rfl
      | some seq => rw [List.filterMap_cons_some came]; rfl
    rwa [List.append_assoc, List.append_assoc, ← back] at later

/-- At most one poll is outstanding: it alone has been issued and has not come back. -/
theorem Accounts.outstanding_eq (accounts : desk.Accounts issued returned) :
    issued.filter (· ∉ returned) = desk.controller.outstanding.toList := by
  have member : ∀ seq, seq ∈ issued.filter (· ∉ returned) ↔
      desk.controller.outstanding = some seq := by
    intro seq
    rw [List.mem_filter, decide_eq_true_eq, accounts.outstanding_iff]
  have distinct : (issued.filter (· ∉ returned)).Nodup := by
    rw [accounts.issued_eq]
    exact List.nodup_range.filter _
  cases outstanding : desk.controller.outstanding with
  | none =>
    refine List.eq_nil_iff_forall_not_mem.mpr fun seq listed => ?_
    rw [member, outstanding] at listed
    cases listed
  | some seq =>
    refine List.perm_singleton.mp
      ((List.perm_ext_iff_of_nodup distinct (List.pairwise_singleton _ seq)).mpr fun other => ?_)
    rw [member, outstanding, List.mem_singleton, Option.some_inj, eq_comm]

/-- Of what comes back, the polls issued meanwhile are those that are not older. -/
theorem Accounts.mem_issuedIn_iff (accounts : desk.Accounts issued returned)
    (expected : Run.Allows SyncDesk.take Expects desk calls) {seq : Nat} (back : seq ∈ returnedIn calls) :
    seq ∈ desk.issuedIn calls ↔ desk.controller.nextSeq ≤ seq := by
  have after := accounts.run expected
  have listed : seq ∈ issued ++ desk.issuedIn calls :=
    after.returned_issued seq (List.mem_append_right _ back)
  constructor
  · intro new
    have distinct : (issued ++ desk.issuedIn calls).Nodup := by
      rw [after.issued_eq]
      exact List.nodup_range
    refine Nat.le_of_not_lt fun older => ?_
    exact (List.nodup_append.mp distinct).2.2 seq (accounts.mem_issued_iff.mpr older) seq new rfl
  · intro newer
    refine (List.mem_append.mp listed).resolve_left fun old => ?_
    exact Nat.not_lt.mpr newer (accounts.mem_issued_iff.mp old)

theorem mem_returnedIn_of_mem_completedIn {seq : Nat} (completed : seq ∈ completedIn calls) :
    seq ∈ returnedIn calls := by
  obtain ⟨call, listed, same⟩ := List.mem_filterMap.mp completed
  obtain rfl := Call.eq_complete_of_completed? same
  exact List.mem_filterMap.mpr ⟨_, (List.takeWhile_sublist _).subset listed, rfl⟩

/-! ## One ticket -/

/-- What the desk has of a ticket: those who wait with it, and what became of its request. -/
structure Holds (desk : SyncDesk) (ticket : Nat) (waiters : List Waiter) (state : RequestState) :
    Prop where
  waiters_eq : desk.controller.waiters.filter (·.ticket = ticket) = waiters
  state_eq : desk.requests[ticket]? = some state

variable {waiters : List Waiter} {state : RequestState}

theorem Holds.lt_length (holds : desk.Holds ticket waiters state) : ticket < desk.requests.length :=
  (List.getElem?_eq_some_iff.mp holds.state_eq).1

theorem Holds.awaits_iff (holds : desk.Holds ticket waiters state) :
    desk.Awaits ticket ↔ waiters ≠ [] := by
  rw [← holds.waiters_eq, Ne, List.filter_eq_nil_iff]
  simp [Awaits]

/-- What neither adds a waiter nor settles a request changes nothing. -/
theorem Holds.congr {after : SyncDesk} (holds : desk.Holds ticket waiters state)
    (sameWaiters : after.controller.waiters = desk.controller.waiters)
    (sameRequests : after.requests = desk.requests) : after.Holds ticket waiters state :=
  ⟨by rw [sameWaiters, holds.waiters_eq], by rw [sameRequests, holds.state_eq]⟩

/-- A new request has a ticket of its own. -/
theorem Holds.request (holds : desk.Holds ticket waiters state) :
    desk.request.2.Holds ticket waiters state where
  waiters_eq := by
    have other : desk.requests.length ≠ ticket := Nat.ne_of_gt holds.lt_length
    rw [waiters_request, List.filter_append, holds.waiters_eq]
    simp [other]
  state_eq := by
    show (desk.requests ++ [.waiting])[ticket]? = _
    rw [List.getElem?_append_left holds.lt_length, holds.state_eq]

/-- The end of a cycle answers those who wait with the ticket and do not need a later one. -/
theorem Holds.complete (holds : desk.Holds ticket waiters state) (seq : Nat) :
    (desk.answers (.complete seq)).filter (·.1 = ticket) =
        (waiters.filter (·.needs ≤ seq)).map (·.ticket, seq) ∧
      (desk.complete seq).2.Holds ticket (waiters.filter fun waiter => !decide (waiter.needs ≤ seq))
        (if waiters.any (·.needs ≤ seq) then settle .done state else state) := by
  have answered : desk.answers (.complete seq) =
      (desk.controller.waiters.filter (·.needs ≤ seq)).map (·.ticket, seq) := by
    simp only [answers, SyncController.answered_complete, List.map_map, Function.comp_def]
  refine ⟨?_, ?_, ?_⟩
  · rw [answered, List.filter_map, ← holds.waiters_eq, List.filter_filter, List.filter_filter]
    simp only [Function.comp_def, Bool.and_comm]
  · have kept : (desk.complete seq).2.controller.waiters = _ :=
      SyncController.waiters_complete desk.controller seq
    rw [kept, ← holds.waiters_eq, List.filter_filter, List.filter_filter]
    simp only [Bool.and_comm]
  · have concerned : ticket ∈ (desk.controller.complete seq).1 ↔
        waiters.any (·.needs ≤ seq) = true := by
      rw [mem_answered_iff, ← holds.waiters_eq]
      simp
    simp only [getElem?_requests_complete, holds.state_eq, concerned]
    split <;> rfl

/-- Whoever waits with the ticket is forgotten. -/
theorem Holds.failAll (holds : desk.Holds ticket waiters state) :
    desk.failAll.Holds ticket [] (settle .closed state) where
  waiters_eq := rfl
  state_eq := by
    show (desk.requests.map (settle .closed))[ticket]? = _
    rw [List.getElem?_map, holds.state_eq, Option.map_some]

/-- Nothing but the end of a cycle and the end of all waiting concerns a ticket. -/
theorem Holds.take (holds : desk.Holds ticket waiters state) (unanswered : call.completed? = none)
    (kept : call ≠ .failAll) : desk.answers call = [] ∧ (desk.take call).Holds ticket waiters state := by
  cases call with
  | tick =>
    exact ⟨rfl, holds.congr (SyncController.waiters_issueIfIdle desk.controller) rfl⟩
  | request => exact ⟨rfl, holds.request⟩
  | complete seq => cases unanswered
  | abort seq | cancel seq =>
    exact ⟨rfl, holds.congr (SyncController.waiters_release desk.controller seq) rfl⟩
  | failAll => exact absurd rfl kept

/-- Nothing more happens to a request that has been settled. -/
theorem Holds.run_of_settled (holds : desk.Holds ticket [] state) (settled : state ≠ .waiting)
    (calls : List Call) :
    (desk.answersIn calls).filter (·.1 = ticket) = [] ∧ (desk.run calls).Holds ticket [] state := by
  induction calls generalizing desk with
  | nil => exact ⟨rfl, holds⟩
  | cons call rest ih =>
    have now : (desk.answers call).filter (·.1 = ticket) = [] ∧
        (desk.take call).Holds ticket [] state := by
      cases completed : call.completed? with
      | some seq =>
        obtain rfl := Call.eq_complete_of_completed? completed
        exact holds.complete seq
      | none =>
        by_cases forgets : call = .failAll
        · have still : settle .closed state = state := if_neg settled
          rw [forgets]
          exact ⟨rfl, still ▸ holds.failAll⟩
        · obtain ⟨nobody, kept⟩ := holds.take completed forgets
          exact ⟨by rw [nobody]; rfl, kept⟩
    obtain ⟨later, kept⟩ := ih now.2
    refine ⟨?_, kept⟩
    rw [answersIn, List.filter_append, now.1, later, List.append_nil]

theorem completedIn_cons (kept : call ≠ .failAll) :
    completedIn (call :: calls) = call.completed?.toList ++ completedIn calls := by
  unfold completedIn
  rw [List.takeWhile_cons, if_pos (decide_eq_true kept)]
  cases completed : call.completed? with
  | none => rw [List.filterMap_cons_none completed]; rfl
  | some seq => rw [List.filterMap_cons_some completed]; rfl

/-- The end of a cycle that is new enough answers the ticket. -/
theorem Holds.complete_of_le (holds : desk.Holds ticket [⟨ticket, first⟩] .waiting) {seq : Nat}
    (enough : first ≤ seq) :
    (desk.answers (.complete seq)).filter (·.1 = ticket) = [(ticket, seq)] ∧
      (desk.complete seq).2.Holds ticket [] .done := by
  simpa [enough, settle] using holds.complete seq

/-- The end of an older cycle does nothing for it. -/
theorem Holds.complete_of_lt (holds : desk.Holds ticket [⟨ticket, first⟩] .waiting) {seq : Nat}
    (older : seq < first) :
    (desk.answers (.complete seq)).filter (·.1 = ticket) = [] ∧
      (desk.complete seq).2.Holds ticket [⟨ticket, first⟩] .waiting := by
  simpa [Nat.not_le.mpr older] using holds.complete seq

/-- **A ticket is answered by the first cycle that its waiter does not think too old**, unless all
requests are forgotten before. -/
theorem Holds.run (holds : desk.Holds ticket [⟨ticket, first⟩] .waiting) (calls : List Call) :
    let answer := ((completedIn calls).filter (first ≤ ·)).head?
    (desk.answersIn calls).filter (·.1 = ticket) = answer.toList.map (ticket, ·) ∧
      (desk.run calls).Holds ticket
        (if answer = none ∧ .failAll ∉ calls then [⟨ticket, first⟩] else [])
        (if answer.isSome then .done else if .failAll ∈ calls then .closed else .waiting) := by
  induction calls generalizing desk with
  | nil => exact ⟨rfl, holds⟩
  | cons call rest ih =>
    by_cases forgets : call = .failAll
    · subst forgets
      have nothing : completedIn (.failAll :: rest) = [] := rfl
      obtain ⟨later, kept⟩ := holds.failAll.run_of_settled nofun rest
      have after : desk.run (.failAll :: rest) = desk.failAll.run rest := rfl
      rw [nothing, after]
      exact ⟨later, by simpa [settle] using kept⟩
    · have listed : .failAll ∈ call :: rest ↔ .failAll ∈ rest := by
        rw [List.mem_cons, or_iff_right (Ne.symm forgets)]
      cases completed : call.completed? with
      | none =>
        rw [completedIn_cons forgets, completed]
        obtain ⟨nobody, kept⟩ := holds.take completed forgets
        obtain ⟨later, kept⟩ := ih kept
        simp only [listed, answersIn, nobody]
        exact ⟨later, kept⟩
      | some seq =>
        obtain rfl := Call.eq_complete_of_completed? completed
        have here : completedIn (.complete seq :: rest) = seq :: completedIn rest :=
          completedIn_cons forgets
        rw [here, answersIn, List.filter_append]
        by_cases enough : first ≤ seq
        · obtain ⟨now, kept⟩ := holds.complete_of_le enough
          obtain ⟨later, kept⟩ := kept.run_of_settled nofun rest
          have picked : (seq :: completedIn rest).filter (first ≤ ·) =
              seq :: (completedIn rest).filter (first ≤ ·) :=
            List.filter_cons_of_pos (by simpa using enough)
          rw [now, picked]
          exact ⟨congrArg ((ticket, seq) :: ·) later, kept⟩
        · obtain ⟨now, kept⟩ := holds.complete_of_lt (Nat.lt_of_not_le enough)
          obtain ⟨later, kept⟩ := ih kept
          have passed : (seq :: completedIn rest).filter (first ≤ ·) =
              (completedIn rest).filter (first ≤ ·) :=
            List.filter_cons_of_neg (by simpa using enough)
          rw [now, passed]
          simp only [listed]
          exact ⟨later, kept⟩

/-! ## Who waits -/

/-- Whoever waits after a call has waited before it, or is the one that it files. -/
theorem mem_waiters_take {waiter : Waiter} (member : waiter ∈ (desk.take call).controller.waiters) :
    waiter ∈ desk.controller.waiters ∨
      call = .request ∧ waiter = ⟨desk.requests.length, desk.controller.nextSeq⟩ := by
  cases call with
  | tick =>
    have kept : desk.tick.2.controller.waiters = _ :=
      SyncController.waiters_issueIfIdle desk.controller
    exact Or.inl (kept ▸ member)
  | request =>
    have grown : (desk.take .request).controller.waiters = _ := desk.waiters_request
    rw [grown] at member
    exact (List.mem_append.mp member).imp_right fun new => ⟨rfl, List.mem_singleton.mp new⟩
  | complete seq =>
    have kept : (desk.take (.complete seq)).controller.waiters = _ :=
      SyncController.waiters_complete desk.controller seq
    rw [kept] at member
    exact Or.inl (List.mem_filter.mp member).1
  | abort seq | cancel seq =>
    have kept : (desk.release seq).controller.waiters = _ :=
      SyncController.waiters_release desk.controller seq
    exact Or.inl (kept ▸ member)
  | failAll => cases member

/-- No call takes a ticket back. -/
theorem length_requests_take (desk : SyncDesk) (call : Call) :
    (desk.take call).requests.length =
      desk.requests.length + if call = .request then 1 else 0 := by
  cases call with
  | tick | abort _ | cancel _ => rfl
  | request => exact List.length_append
  | complete seq => exact desk.length_requests_complete seq
  | failAll => exact List.length_map _

/-- Waiters hold tickets that have been given out, and need no poll beyond the next one. -/
structure IsInOrder (desk : SyncDesk) : Prop where
  ticketed : desk.IsTicketed
  needs_le : ∀ waiter ∈ desk.controller.waiters, waiter.needs ≤ desk.controller.nextSeq

theorem isInOrder_new : ({} : SyncDesk).IsInOrder where
  ticketed _ member := by cases member
  needs_le _ member := by cases member

theorem Books.nextSeq_le (books : desk.Books call) :
    desk.controller.nextSeq ≤ (desk.take call).controller.nextSeq := by
  cases books with
  | still _ nextSeq_eq => exact Nat.le_of_eq nextSeq_eq.symm
  | issues _ nextSeq_eq => exact nextSeq_eq ▸ Nat.le_succ _

theorem IsInOrder.take (inOrder : desk.IsInOrder) (expects : desk.Expects call) :
    (desk.take call).IsInOrder where
  ticketed waiter member := by
    rw [length_requests_take]
    rcases mem_waiters_take member with old | ⟨rfl, rfl⟩
    · exact Nat.lt_of_lt_of_le (inOrder.ticketed waiter old) (Nat.le_add_right _ _)
    · exact Nat.lt_succ_self _
  needs_le waiter member := by
    have later := (books_take expects).nextSeq_le
    rcases mem_waiters_take member with old | ⟨rfl, rfl⟩
    · exact Nat.le_trans (inOrder.needs_le waiter old) later
    · exact later

theorem IsInOrder.run (inOrder : desk.IsInOrder)
    (expected : Run.Allows SyncDesk.take Expects desk calls) : (desk.run calls).IsInOrder :=
  Run.induction IsInOrder (fun _ _ expects inOrder => inOrder.take expects) expected inOrder

theorem length_requests_run (desk : SyncDesk) (calls : List Call) :
    desk.requests.length ≤ (desk.run calls).requests.length := by
  induction calls generalizing desk with
  | nil => exact Nat.le_refl _
  | cons call rest ih =>
    have now := desk.length_requests_take call
    exact Nat.le_trans (by omega) (ih (desk.take call))

/-- Only tickets that have been given out are answered. -/
theorem IsInOrder.lt_of_mem_answersIn (inOrder : desk.IsInOrder)
    (expected : Run.Allows SyncDesk.take Expects desk calls) {seq : Nat}
    (answered : (ticket, seq) ∈ desk.answersIn calls) :
    ticket < (desk.run calls).requests.length := by
  induction calls generalizing desk with
  | nil => cases answered
  | cons call rest ih =>
    rcases List.mem_append.mp answered with now | later
    · refine Nat.lt_of_lt_of_le ?_ (desk.length_requests_run (call :: rest))
      cases call with
      | complete other =>
        obtain ⟨found, listed, same⟩ := List.mem_map.mp now
        cases same
        obtain ⟨waiter, member, rfl, -⟩ := (desk.mem_answered_iff _ _).mp listed
        exact inOrder.ticketed waiter member
      | tick | request | abort _ | cancel _ | failAll => cases now
    · exact ih (inOrder.take expected.1) expected.2 later

/-- A request waits with the ticket that it takes, and for a poll that it issues or a later one. -/
theorem IsInOrder.holds_request (inOrder : desk.IsInOrder) :
    desk.request.2.Holds desk.requests.length [⟨desk.requests.length, desk.controller.nextSeq⟩]
      .waiting where
  waiters_eq := by
    have nobody : desk.controller.waiters.filter (·.ticket = desk.requests.length) = [] := by
      refine List.filter_eq_nil_iff.mpr fun waiter member same => ?_
      have below := inOrder.ticketed waiter member
      rw [of_decide_eq_true same] at below
      exact Nat.lt_irrefl _ below
    rw [waiters_request, List.filter_append, nobody]
    simp
  state_eq := by simp [SyncDesk.request]

/-! ## The poll that follows -/

/-- A poll that has not come back at the end has been outstanding all the time. -/
theorem returned?_eq_none_of_outstanding {poll : Nat}
    (outstanding : desk.controller.outstanding = some poll)
    (expected : Run.Allows SyncDesk.take Expects desk calls) (absent : poll ∉ returnedIn calls) :
    ∀ call ∈ calls, call.returned? = none := by
  induction calls generalizing desk with
  | nil => nofun
  | cons call rest ih =>
    have silent : call.returned? = none := by
      cases back : call.returned? with
      | none => rfl
      | some seq =>
        have same := expected.1 seq back
        rw [outstanding] at same
        cases same
        exact absurd (List.mem_filterMap.mpr ⟨call, List.mem_cons_self, back⟩) absent
    have left : desk.leftBy call = some poll := by
      unfold leftBy
      rw [silent]
      exact outstanding
    have still : (desk.take call).controller.outstanding = some poll := by
      cases books_take expected.1 with
      | still _ _ kept => exact kept.trans left
      | issues _ _ _ nothing =>
        rw [left] at nothing
        cases nothing
    have later : poll ∉ returnedIn rest := fun listed =>
      absent ((List.sublist_cons_self call rest).filterMap _ |>.subset listed)
    exact List.forall_mem_cons.mpr ⟨silent, ih still expected.2 later⟩

/-- Whoever waits waits on, as long as no poll comes back and nobody is forgotten. -/
theorem mem_waiters_run {waiter : Waiter} (silent : ∀ call ∈ calls, call.returned? = none)
    (kept : .failAll ∉ calls) (member : waiter ∈ desk.controller.waiters) :
    waiter ∈ (desk.run calls).controller.waiters := by
  induction calls generalizing desk with
  | nil => exact member
  | cons call rest ih =>
    obtain ⟨now, later⟩ := List.forall_mem_cons.mp silent
    obtain ⟨goesOn, keptLater⟩ := not_or.mp (mt List.mem_cons.mpr kept)
    refine ih later keptLater ?_
    cases call with
    | tick =>
      have same : (desk.take .tick).controller.waiters = _ :=
        SyncController.waiters_issueIfIdle desk.controller
      exact same ▸ member
    | request =>
      have grown : (desk.take .request).controller.waiters = _ := desk.waiters_request
      exact grown ▸ List.mem_append_left _ member
    | complete _ | abort _ | cancel _ => cases now
    | failAll => exact absurd rfl goesOn

/-- If somebody still waits when a cycle has reached the head, the next poll is issued. -/
theorem issued?_complete {seq : Nat} (outstanding : desk.controller.outstanding = some seq)
    (waits : (desk.complete seq).2.controller.waiters ≠ []) :
    desk.issued? (.complete seq) = some desk.controller.nextSeq ∧
      (desk.complete seq).2.controller.outstanding = some desk.controller.nextSeq := by
  have waiting : (desk.complete seq).2.controller.waiters =
      desk.controller.waiters.filter fun waiter => !decide (waiter.needs ≤ seq) :=
    SyncController.waiters_complete desk.controller seq
  rw [waiting] at waits
  simp only [issued?, complete, SyncController.complete, SyncController.release, outstanding, if_true,
    List.partition_eq_filter_filter]
  rw [if_neg (by rwa [List.isEmpty_iff])]
  exact ⟨rfl, rfl⟩

/-- **The poll that follows answers everybody who waits for it.** -/
theorem IsInOrder.mem_answers_complete (inOrder : desk.IsInOrder) {seq : Nat}
    (outstanding : desk.controller.outstanding = some seq)
    (waits : (desk.complete seq).2.Awaits ticket)
    (expected : Run.Allows SyncDesk.take Expects (desk.complete seq).2 calls)
    (absent : desk.controller.nextSeq ∉ returnedIn calls) (kept : .failAll ∉ calls) :
    (ticket, desk.controller.nextSeq) ∈
      ((desk.complete seq).2.run calls).answers (.complete desk.controller.nextSeq) := by
  obtain ⟨waiter, member, rfl⟩ := List.mem_map.mp waits
  have followUp := (issued?_complete outstanding (List.ne_nil_of_mem member)).2
  have silent := returned?_eq_none_of_outstanding followUp expected absent
  have waitsOn := mem_waiters_run silent kept member
  have left : waiter ∈ (desk.take (.complete seq)).controller.waiters := member
  have waited := (mem_waiters_take left).resolve_right nofun
  have enough := inOrder.needs_le waiter waited
  exact List.mem_map.mpr
    ⟨waiter.ticket, (mem_answered_iff _ _ _).mpr ⟨waiter, waitsOn, rfl, enough⟩, rfl⟩

/-- **A request is answered by the first poll to complete of those issued by it or after it.** Whatever is
done at the desk, let polls come back only while they are outstanding. Then at most one poll is
outstanding at any moment: of all that have been issued it alone has not come back. A request is
answered once at most, namely by the first poll to reach the head of the log that was not issued before
the request; and it waits until then, unless all requests are forgotten, whatever polls are given up or
lost. If somebody still waits when a poll has reached the head, a new poll is issued at once, and when
that one reaches the head it answers all of them. -/
theorem answered_by_first_poll_since (calls : List Call)
    (expected : Run.Allows SyncDesk.take Expects {} calls) :
    (issuedIn {} calls).filter (· ∉ returnedIn calls) = (run {} calls).controller.outstanding.toList ∧
      (∀ before after, calls = before ++ .request :: after →
        let desk := run {} before
        let ticket := desk.requests.length
        let since := desk.issuedIn (.request :: after)
        let answer := ((completedIn after).filter (· ∈ since)).head?
        (answersIn {} calls).filter (·.1 = ticket) = answer.toList.map (ticket, ·) ∧
          ((run {} calls).Awaits ticket ↔ answer = none ∧ .failAll ∉ after) ∧
          (run {} calls).requests[ticket]? = some
            (if answer.isSome then .done else if .failAll ∈ after then .closed else .waiting)) ∧
      ∀ before seq after, calls = before ++ .complete seq :: after →
        let desk := run {} before
        let next := desk.take (.complete seq)
        next.controller.waiters ≠ [] →
          ∃ poll, desk.issued? (.complete seq) = some poll ∧ poll ∉ issuedIn {} before ∧
            ∀ later rest, after = later ++ .complete poll :: rest → .failAll ∉ later →
              ∀ ticket, next.Awaits ticket →
                (ticket, poll) ∈ (next.run later).answers (.complete poll) := by
  refine ⟨(accounts_new.run expected).outstanding_eq, ?_, ?_⟩
  · rintro before after rfl desk ticket since answer
    obtain ⟨expectedBefore, expectedSince⟩ := Run.allows_append_iff.mp expected
    have inOrder : desk.IsInOrder := isInOrder_new.run expectedBefore
    have accounts : desk.Accounts _ _ := accounts_new.run expectedBefore
    obtain ⟨answered, holds⟩ := inOrder.holds_request.run after
    have same : (completedIn after).filter (desk.controller.nextSeq ≤ ·) =
        (completedIn after).filter (· ∈ since) := by
      refine List.filter_congr fun seq completed => decide_eq_decide.mpr ?_
      have back : seq ∈ returnedIn (.request :: after) := mem_returnedIn_of_mem_completedIn completed
      exact (accounts.mem_issuedIn_iff expectedSince back).symm
    rw [same] at answered holds
    have after' : run {} (before ++ .request :: after) = desk.request.2.run after :=
      run_append _ _ _
    have early : (answersIn {} before).filter (·.1 = ticket) = [] := by
      refine List.filter_eq_nil_iff.mpr fun pair listed same => ?_
      have below := isInOrder_new.lt_of_mem_answersIn expectedBefore listed
      rw [of_decide_eq_true same] at below
      exact Nat.lt_irrefl _ below
    refine ⟨?_, ?_, ?_⟩
    · rw [answersIn_append, List.filter_append, early, List.nil_append]
      exact answered
    · rw [after', holds.awaits_iff]
      simp [answer]
    · rw [after']
      exact holds.state_eq
  · rintro before seq after rfl desk next waits
    obtain ⟨expectedBefore, expectedNow, expectedAfter⟩ := Run.allows_append_iff.mp expected
    have inOrder : desk.IsInOrder := isInOrder_new.run expectedBefore
    have accounts : desk.Accounts _ _ := accounts_new.run expectedBefore
    have outstanding : desk.controller.outstanding = some seq := expectedNow seq rfl
    refine ⟨desk.controller.nextSeq, (issued?_complete outstanding waits).1, ?_, ?_⟩
    · exact fun listed => Nat.lt_irrefl _ (accounts.mem_issued_iff.mp listed)
    · rintro later rest rfl kept ticket awaits
      obtain ⟨expectedLater, expectedThen, -⟩ := Run.allows_append_iff.mp expectedAfter
      have accountsLater := (accounts.take expectedNow).run expectedLater
      have absent := ((accountsLater.outstanding_iff _).mp (expectedThen _ rfl)).2
      exact inOrder.mem_answers_complete outstanding awaits expectedLater
        (fun listed => absent (List.mem_append_right _ listed)) kept

/-- A sync is requested behind the first poll and another one behind the second, which is then given up.
The third poll is the first to complete for both. -/
theorem both_answered_by_third_poll :
    let calls : List Call :=
      [.tick, .request, .complete 0, .request, .abort 1, .tick, .complete 2]
    Run.Allows SyncDesk.take Expects {} calls ∧
      (answersIn {} calls).filter (·.1 = 0) = [(0, 2)] ∧
      (answersIn {} calls).filter (·.1 = 1) = [(1, 2)] ∧
      ¬ (run {} calls).Awaits 0 ∧ ¬ (run {} calls).Awaits 1 := by
  intro calls
  have expected : Run.Allows SyncDesk.take Expects {} calls := by decide
  obtain ⟨-, requests, -⟩ := answered_by_first_poll_since calls expected
  obtain ⟨first, firstWaits, -⟩ := requests [.tick] _ rfl
  obtain ⟨second, secondWaits, -⟩ := requests [.tick, .request, .complete 0] _ rfl
  refine ⟨expected, first, second, ?_, ?_⟩
  · exact fun waits => nomatch (firstWaits.mp waits).1
  · exact fun waits => nomatch (secondWaits.mp waits).1

end SyncDesk

end ChangeFeed
