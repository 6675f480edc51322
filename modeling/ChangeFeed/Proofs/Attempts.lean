/-
# Retries

A cycle tries again what fails for a while, and its policy bounds how often it does so in a row. Of any
cycle that ends the replies to its turns tell which events it sends, when it gives up and how many
retries it counts: this is its `Account`, assembled turn by turn. A cycle on a scripted source does
end, since every turn but the last leaves fewer turns ahead.
-/

import ChangeFeed.Proofs.Courses
import ChangeFeed.Script

namespace ChangeFeed

theorem Backoff.allowsRetry_iff {policy : Backoff} {attempts : Nat} :
    policy.allowsRetry attempts = true ↔ policy.maxRetries = 0 ∨ attempts < policy.maxRetries := by
  simp [allowsRetry]

namespace Script

variable {ε α : Type} {outcome : Except ε α} {script after : Script} {cursor later : Cursor}
  {batch : Batch}

/-- A request leaves a script no more answers than before, and fewer if it fails. -/
structure Spends (script : Script) (outcome : Except ε α) (after : Script) : Prop where
  most : after.backlog ≤ script.backlog
  failed : ∀ error, outcome = .error error → after.backlog < script.backlog

theorem spends_of_lt (fewer : after.backlog < script.backlog) : Spends script outcome after where
  most := Nat.le_of_lt fewer
  failed _ _ := fewer

theorem spends_ok (value : α) (most : after.backlog ≤ script.backlog) :
    Spends script (.ok value : Except ε α) after where
  most := most
  failed _ failed := by cases failed

theorem spends_openCursor (start : Option Position) (script : Script) :
    Spends script (Source.openCursor start script).1 (Source.openCursor start script).2 := by
  show Spends script (openCursor start script).1 (openCursor start script).2
  unfold openCursor
  split
  · exact spends_ok _ (Nat.le_refl _)
  · next answer rest opens =>
    have used : ({ script with opens := rest } : Script).backlog < script.backlog := by
      simp only [backlog, opens, List.length_cons]
      lia
    cases answer <;> exact spends_of_lt used

theorem spends_takeSnapshot (script : Script) :
    Spends script (Source.takeSnapshot script).1 (Source.takeSnapshot script).2 := by
  show Spends script (takeSnapshot script).1 (takeSnapshot script).2
  unfold takeSnapshot
  split
  · exact spends_ok _ (Nat.le_refl _)
  · next answer rest snapshots =>
    have used : ({ script with snapshots := rest } : Script).backlog < script.backlog := by
      simp only [backlog, snapshots, List.length_cons]
      lia
    cases answer <;> exact spends_of_lt used

/-- A read leaves no more answers, and uses one up unless it has caught up. -/
theorem backlog_nextEntry (cursor : Cursor) (script : Script) :
    (Source.nextEntry cursor script).2.2.backlog ≤ script.backlog ∧
      ((Source.nextEntry cursor script).1 = .ok none ∨
        (Source.nextEntry cursor script).2.2.backlog < script.backlog) := by
  show (nextEntry cursor script).2.2.backlog ≤ script.backlog ∧
    ((nextEntry cursor script).1 = .ok none ∨ (nextEntry cursor script).2.2.backlog < script.backlog)
  unfold nextEntry
  split
  · exact ⟨Nat.le_refl _, Or.inl rfl⟩
  · next answer rest reads =>
    have used : ({ script with reads := rest } : Script).backlog < script.backlog := by
      simp only [backlog, reads, List.length_cons]
      lia
    cases answer with
    | fault _ | entry _ | caughtUp => exact ⟨Nat.le_of_lt used, Or.inr used⟩

/-- Filling a batch uses up an answer, unless nothing comes of it. -/
theorem backlog_fill (committed : Option Position) (limit : Nat) (batch : Batch) (cursor : Cursor)
    (script : Script) :
    (Reader.fill committed limit batch cursor script).2.2.backlog ≤ script.backlog ∧
      ((Reader.fill committed limit batch cursor script).1 = .ok batch ∨
        (Reader.fill committed limit batch cursor script).2.2.backlog < script.backlog) := by
  fun_induction Reader.fill committed limit batch cursor script with
  | case1 batch cursor script short fault later after read =>
    obtain ⟨-, used⟩ := read ▸ backlog_nextEntry cursor script
    have fewer := used.resolve_left (fun caughtUp => by cases caughtUp)
    exact ⟨Nat.le_of_lt fewer, Or.inr fewer⟩
  | case2 batch cursor script short later after read =>
    obtain ⟨most, -⟩ := read ▸ backlog_nextEntry cursor script
    exact ⟨most, Or.inl rfl⟩
  | case3 batch cursor script short entry later after read fewer handed ih
  | case4 batch cursor script short entry later after read fewer fresh ih =>
    obtain ⟨-, used⟩ := read ▸ backlog_nextEntry cursor script
    have fewer := used.resolve_left (fun caughtUp => by cases caughtUp)
    have less := Nat.lt_of_le_of_lt ih.1 fewer
    exact ⟨Nat.le_of_lt less, Or.inr less⟩
  | case5 batch cursor script full => exact ⟨Nat.le_refl _, Or.inl rfl⟩

end Script

namespace Reader

theorem spends_openCursor (reader : Reader Script Script.Cursor) :
    reader.source.Spends reader.openCursor.1 reader.openCursor.2.source := by
  unfold openCursor
  split
  · exact Script.spends_ok _ (Nat.le_refl _)
  · have spends := Script.spends_openCursor reader.committed reader.source
    split
    · next asked =>
      rw [asked] at spends
      exact Script.spends_of_lt (spends.failed _ rfl)
    · next asked =>
      rw [asked] at spends
      exact Script.spends_ok _ spends.most

theorem spends_reopenFresh (reader : Reader Script Script.Cursor) :
    reader.source.Spends reader.reopenFresh.1 reader.reopenFresh.2.source := by
  have spends := Script.spends_takeSnapshot reader.source
  unfold reopenFresh
  split
  · next asked =>
    rw [asked] at spends
    exact Script.spends_of_lt (spends.failed _ rfl)
  · next asked =>
    rw [asked] at spends
    exact Script.spends_ok _ spends.most

/-- A read from a script uses up an answer, unless it brings nothing. -/
theorem backlog_next (reader : Reader Script Script.Cursor) :
    reader.next.1 = .ok {} ∨ reader.next.2.source.backlog < reader.source.backlog := by
  have spends := reader.spends_openCursor
  unfold next
  split
  · next opened =>
    rw [opened] at spends
    exact Or.inr (spends.failed _ rfl)
  · next cursor after opened =>
    rw [opened] at spends
    obtain ⟨-, used⟩ := Script.backlog_fill after.committed after.batchLimit {} cursor after.source
    split
    · next filled =>
      rw [filled] at used
      have fewer := used.resolve_left (fun nothing => by cases nothing)
      exact Or.inr (Nat.lt_of_lt_of_le fewer spends.most)
    · next filled =>
      rw [filled] at used
      exact used.imp (congrArg _ ∘ Except.ok.inj) fun fewer => Nat.lt_of_lt_of_le fewer spends.most

end Reader

namespace Poller

/-! ## The account of a cycle -/

section Replies

variable {σ κ : Type} [Source σ κ]

/-- What the turns of a cycle hear, one reply after the other. -/
def replies (seq : Nat) : Nat → Nat → Poller σ κ → List Reply
  | 0, _, _ => []
  | fuel + 1, attempts, poller =>
    match poller.turn seq attempts with
    | (.again attempts, later) => poller.reply :: replies seq fuel attempts later
    | (.finished _, _) => [poller.reply]

/-- What a cycle hears. -/
def cycleReplies (poller : Poller σ κ) (seq : Nat) : List Reply :=
  replies seq poller.turnBound 0 poller

end Replies

section Account

variable {σ κ : Type} {poller later final : Poller σ κ} {seq attempts : Nat} {reply : Reply}
  {rest : List Reply} {interim ending : List Event} {flow : Flow} {budget earlier : Nat}

/-- There are more failures than the budget with no progress in between. A budget of 0 is unlimited. -/
def Exhausts (budget : Nat) (replies : List Reply) : Prop :=
  0 < budget ∧ ∃ streak : List Reply, streak <:+: replies ∧
    (∀ reply ∈ streak, reply.isProgress = false) ∧ budget < streak.countP Reply.isRetryable

/-- The same of replies that go on from some earlier failures. -/
def Overruns (budget earlier : Nat) (replies : List Reply) : Prop :=
  0 < budget ∧ ∃ streak : List Reply, (∀ reply ∈ streak, reply.isProgress = false) ∧
    (streak <+: replies ∧ budget < earlier + streak.countP Reply.isRetryable ∨
      streak <:+: replies ∧ budget < streak.countP Reply.isRetryable)

theorem overruns_zero {replies : List Reply} :
    Overruns budget 0 replies ↔ Exhausts budget replies := by
  constructor
  · rintro ⟨positive, streak, quiet, ⟨leads, more⟩ | ⟨inside, more⟩⟩
    · rw [Nat.zero_add] at more
      exact ⟨positive, streak, leads.isInfix, quiet, more⟩
    · exact ⟨positive, streak, inside, quiet, more⟩
  · rintro ⟨positive, streak, inside, quiet, more⟩
    exact ⟨positive, streak, quiet, Or.inr ⟨inside, more⟩⟩

theorem overruns_nil : Overruns budget earlier [] ↔ 0 < budget ∧ budget < earlier := by
  constructor
  · rintro ⟨positive, streak, -, ⟨leads, more⟩ | ⟨inside, more⟩⟩
    · rw [List.prefix_nil.mp leads] at more
      exact ⟨positive, more⟩
    · rw [List.infix_nil.mp inside] at more
      exact absurd more (Nat.not_lt_zero budget)
  · rintro ⟨positive, more⟩
    exact ⟨positive, [], fun _ => by simp, Or.inl ⟨List.prefix_refl [], more⟩⟩

theorem overruns_cons_of_progress (progress : reply.isProgress = true) (within : earlier ≤ budget) :
    Overruns budget earlier (reply :: rest) ↔ Overruns budget 0 rest := by
  -- no streak starts with progress, so what has failed before is forgotten
  have outside {streak : List Reply} (quiet : ∀ reply ∈ streak, reply.isProgress = false)
      (leads : streak <+: reply :: rest) : streak = [] := by
    rcases List.prefix_cons_iff.mp leads with none | ⟨_, rfl, _⟩
    · exact none
    · rw [quiet reply List.mem_cons_self] at progress
      cases progress
  constructor
  · rintro ⟨positive, streak, quiet, ⟨leads, more⟩ | ⟨inside, more⟩⟩
    · rw [outside quiet leads] at more
      exact absurd more (Nat.not_lt_of_le within)
    · rcases List.infix_cons_iff.mp inside with leads | inside
      · rw [outside quiet leads] at more
        exact absurd more (Nat.not_lt_zero budget)
      · exact ⟨positive, streak, quiet, Or.inr ⟨inside, more⟩⟩
  · rintro ⟨positive, streak, quiet, ⟨leads, more⟩ | ⟨inside, more⟩⟩
    · rw [Nat.zero_add] at more
      exact ⟨positive, streak, quiet, Or.inr ⟨leads.isInfix.trans (List.suffix_cons ..).isInfix, more⟩⟩
    · exact ⟨positive, streak, quiet, Or.inr ⟨inside.trans (List.suffix_cons ..).isInfix, more⟩⟩

theorem overruns_cons_of_quiet (quiet : reply.isProgress = false) :
    Overruns budget earlier (reply :: rest) ↔
      Overruns budget (earlier + if reply.isRetryable then 1 else 0) rest := by
  have grown (streak : List Reply) : (reply :: streak).countP Reply.isRetryable =
      streak.countP Reply.isRetryable + if reply.isRetryable then 1 else 0 := List.countP_cons
  constructor
  · rintro ⟨positive, streak, silent, reaches⟩
    have leading (leads : streak <+: reply :: rest)
        (more : budget < earlier + streak.countP Reply.isRetryable) :
        Overruns budget (earlier + if reply.isRetryable then 1 else 0) rest := by
      rcases List.prefix_cons_iff.mp leads with rfl | ⟨fewer, rfl, follows⟩
      · have none : ∀ told ∈ ([] : List Reply), told.isProgress = false := fun _ member => by cases member
        have most : budget < earlier + (if reply.isRetryable then 1 else 0) + 0 :=
          Nat.lt_of_lt_of_le more (Nat.le_add_right _ _)
        exact ⟨positive, [], none, Or.inl ⟨List.nil_prefix, most⟩⟩
      · rw [grown] at more
        have silent : ∀ reply ∈ fewer, reply.isProgress = false := fun reply member =>
          silent reply (List.mem_cons_of_mem _ member)
        exact ⟨positive, fewer, silent, Or.inl ⟨follows, by lia⟩⟩
    rcases reaches with ⟨leads, more⟩ | ⟨inside, more⟩
    · exact leading leads more
    · rcases List.infix_cons_iff.mp inside with leads | inside
      · exact leading leads (Nat.lt_of_lt_of_le more (Nat.le_add_left _ _))
      · exact ⟨positive, streak, silent, Or.inr ⟨inside, more⟩⟩
  · rintro ⟨positive, streak, silent, ⟨leads, more⟩ | ⟨inside, more⟩⟩
    · have silent : ∀ told ∈ reply :: streak, told.isProgress = false := by
        intro told member
        rcases List.mem_cons.mp member with rfl | member
        · exact quiet
        · exact silent told member
      refine ⟨positive, reply :: streak, silent, Or.inl ⟨?_, ?_⟩⟩
      · exact (List.prefix_cons_inj reply).mpr leads
      · rw [grown]
        lia
    · exact ⟨positive, streak, silent, Or.inr ⟨inside.trans (List.suffix_cons ..).isInfix, more⟩⟩

/-- Nobody watches the cycle, or it is told to stop while it waits to try again. -/
def IsCutShort (poller : Poller σ κ) (replies : List Reply) : Prop :=
  poller.watched = false ∨
    poller.stopLine.interrupts.1 = true ∧ ∃ reply ∈ replies, reply.isRetryable = true

theorem isCutShort_cons (watched_eq : later.watched = poller.watched)
    (line : later.stopLine = poller.stopLine)
    (harmless : reply.isRetryable = false ∨ poller.stopLine.interrupts.1 = false) :
    poller.IsCutShort (reply :: rest) ↔ later.IsCutShort rest := by
  simp only [IsCutShort, watched_eq, line, List.mem_cons, exists_eq_or_imp]
  rcases harmless with final | undisturbed
  · simp only [final, Bool.false_eq_true, false_or]
  · simp only [undisturbed, Bool.false_eq_true, false_and]

/-- What the replies to a cycle that goes on after some failures say of its events and its retries. -/
structure Account (poller : Poller σ κ) (seq attempts : Nat) (replies : List Reply)
    (final : Poller σ κ) (interim ending : List Event) : Prop where
  outbox_eq : final.outbox = poller.outbox ++ (interim ++ ending)
  isInterim : ∀ event ∈ interim, event.IsInterim poller.reader.batchLimit
  ends : poller.IsCutShort replies ∧ ending = [] ∨
    ¬ poller.IsCutShort replies ∧ ∃ event, ending = [event] ∧ event.Concludes seq
  aborts_iff : (∃ reason, .cycleAborted seq reason ∈ ending) ↔
    poller.watched = true ∧ Overruns poller.policy.maxRetries attempts replies
  aborted : Overruns poller.policy.maxRetries attempts replies →
    final.retries + 1 = poller.retries + replies.countP Reply.isRetryable
  kept : ¬ Overruns poller.policy.maxRetries attempts replies →
    final.retries = poller.retries + replies.countP Reply.isRetryable

/-- Failures are counted within the budget, and a poller that is told to stop has counted none. -/
structure IsWithin (poller : Poller σ κ) (attempts : Nat) : Prop where
  budget : 0 < poller.policy.maxRetries → attempts ≤ poller.policy.maxRetries
  undisturbed : poller.stopLine.interrupts.1 = true → attempts = 0

theorem IsWithin.not_overruns (within : poller.IsWithin attempts) :
    ¬ Overruns poller.policy.maxRetries attempts [] := by
  rw [overruns_nil]
  rintro ⟨positive, more⟩
  exact Nat.not_lt_of_le (within.budget positive) more

/-- A failure within the budget does not overrun it. -/
theorem not_overruns_of_allowed (retryable : reply.isRetryable = true)
    (allowed : poller.policy.allowsRetry attempts = true) :
    ¬ Overruns poller.policy.maxRetries attempts [reply] := by
  rw [overruns_cons_of_quiet (Reply.isProgress_of_isRetryable retryable), overruns_nil,
    if_pos retryable]
  rintro ⟨positive, more⟩
  have room := (Backoff.allowsRetry_iff.mp allowed).resolve_left (Nat.ne_of_gt positive)
  exact Nat.not_lt_of_le room more

/-- A failure that is not tried again overruns the budget. -/
theorem overruns_of_refused (retryable : reply.isRetryable = true)
    (refused : poller.policy.allowsRetry attempts = false) :
    Overruns poller.policy.maxRetries attempts [reply] := by
  have spent : ¬ (poller.policy.maxRetries = 0 ∨ attempts < poller.policy.maxRetries) := fun room =>
    Bool.eq_false_iff.mp refused (Backoff.allowsRetry_iff.mpr room)
  rw [overruns_cons_of_quiet (Reply.isProgress_of_isRetryable retryable), overruns_nil,
    if_pos retryable]
  lia

/-- The events of a last turn that sends one, if anybody watches. -/
theorem ends_sending {event : Event} (concludes : event.Concludes seq)
    (harmless : reply.isRetryable = false ∨ poller.stopLine.interrupts.1 = false) :
    poller.IsCutShort [reply] ∧ poller.sending event = [] ∨
      ¬ poller.IsCutShort [reply] ∧ ∃ last, poller.sending event = [last] ∧ last.Concludes seq := by
  cases watched : poller.watched with
  | false => exact Or.inl ⟨Or.inl watched, by simp [sending, watched]⟩
  | true =>
    refine Or.inr ⟨?_, event, by simp [sending, watched], concludes⟩
    rw [isCutShort_cons rfl rfl harmless]
    rintro (unwatched | ⟨-, told, member, -⟩)
    · rw [watched] at unwatched
      cases unwatched
    · cases member

/-- A last turn is accounted for. -/
theorem Course.account_of_finished (course : Course poller seq attempts reply (.finished flow, final))
    (within : poller.IsWithin attempts) :
    ∃ ending, Account poller seq attempts [reply] final [] ending := by
  cases course with
  | interrupted _ retryable allowed disturbed leaves =>
    have held := not_overruns_of_allowed retryable allowed
    have cut : poller.IsCutShort [reply] :=
      Or.inr ⟨disturbed, reply, List.mem_singleton_self _, retryable⟩
    exact ⟨[],
      { outbox_eq := leaves.outbox_eq
        isInterim := fun _ member => by cases member
        ends := Or.inl ⟨cut, rfl⟩
        aborts_iff := by simp [held]
        aborted := fun overrun => absurd overrun held
        kept := fun _ => by simp [leaves.retries_eq, retryable] }⟩
  | abandons _ _ reason retryable refused leaves =>
    have overrun := overruns_of_refused retryable refused
    have undisturbed : poller.stopLine.interrupts.1 = false := by
      -- a poller that is told to stop has counted no failure, and the first is always tried again
      apply Bool.eq_false_iff.mpr
      intro disturbed
      apply Bool.eq_false_iff.mp refused
      rw [Backoff.allowsRetry_iff, within.undisturbed disturbed]
      exact Nat.eq_zero_or_pos _
    exact ⟨poller.sending (.cycleAborted seq reason),
      { outbox_eq := leaves.outbox_eq
        isInterim := fun _ member => by cases member
        ends := ends_sending (.aborted reason) (Or.inr undisturbed)
        aborts_iff := by
          simp only [overrun, and_true, sending]
          cases poller.watched <;> simp
        aborted := fun _ => by simp [leaves.retries_eq, retryable]
        kept := fun held => absurd overrun held }⟩
  | concludes _ _ event progress retryable concludes kept leaves =>
    have held : ¬ Overruns poller.policy.maxRetries attempts [reply] := by
      rw [overruns_cons_of_quiet progress, if_neg (Bool.eq_false_iff.mp retryable)]
      exact within.not_overruns
    exact ⟨poller.sending event,
      { outbox_eq := leaves.outbox_eq
        isInterim := fun _ member => by cases member
        ends := ends_sending concludes (Or.inl retryable)
        aborts_iff := by
          simp only [held, and_false, iff_false, sending]
          rintro ⟨reason, sent⟩
          split at sent
          · exact kept reason (List.mem_singleton.mp sent).symm
          · cases sent
        aborted := fun overrun => absurd overrun held
        kept := fun _ => by simp [leaves.retries_eq, retryable] }⟩
  | unheard _ progress unwatched leaves =>
    have retryable := Reply.isRetryable_of_isProgress progress
    have held : ¬ Overruns poller.policy.maxRetries attempts [reply] := by
      rintro ⟨positive, overrun⟩
      have first := (overruns_cons_of_progress progress (within.budget positive)).mp ⟨positive, overrun⟩
      exact Nat.not_lt_zero _ (overruns_nil.mp first).2
    exact ⟨[],
      { outbox_eq := leaves.outbox_eq
        isInterim := fun _ member => by cases member
        ends := Or.inl ⟨Or.inl unwatched, rfl⟩
        aborts_iff := by simp [held]
        aborted := fun overrun => absurd overrun held
        kept := fun _ => by simp [leaves.retries_eq, retryable] }⟩

/-- The account of a cycle, from that of its later turns. -/
theorem Account.cons {again counted : Nat} {sent : List Event}
    (account : Account later seq again rest final interim ending)
    (leaves : poller.Leaves later sent counted)
    (isInterim : ∀ event ∈ sent, event.IsInterim poller.reader.batchLimit)
    (cutShort : poller.IsCutShort (reply :: rest) ↔ later.IsCutShort rest)
    (overruns : Overruns poller.policy.maxRetries attempts (reply :: rest) ↔
      Overruns poller.policy.maxRetries again rest)
    (counts : counted = if reply.isRetryable then 1 else 0) :
    Account poller seq attempts (reply :: rest) final (sent ++ interim) ending := by
  have failures : poller.retries + (reply :: rest).countP Reply.isRetryable =
      later.retries + rest.countP Reply.isRetryable := by
    rw [List.countP_cons, leaves.retries_eq, counts]
    lia
  exact
    { outbox_eq := by
        rw [account.outbox_eq, leaves.outbox_eq, List.append_assoc, List.append_assoc]
      isInterim := by
        intro event member
        rcases List.mem_append.mp member with first | later
        · exact isInterim event first
        · exact leaves.batchLimit_eq ▸ account.isInterim event later
      ends := by
        rw [cutShort]
        exact account.ends
      aborts_iff := by
        rw [overruns, ← leaves.watched_eq, ← leaves.policy_eq]
        exact account.aborts_iff
      aborted := by
        rw [overruns, ← leaves.policy_eq, failures]
        exact account.aborted
      kept := by
        rw [overruns, ← leaves.policy_eq, failures]
        exact account.kept }

/-- A turn that is not the last adds to the account of the turns after it. -/
theorem Course.account_of_again {again : Nat}
    (course : Course poller seq attempts reply (.again again, later))
    (within : poller.IsWithin attempts) :
    later.IsWithin again ∧ ∃ sent, ∀ {rest final interim ending},
      Account later seq again rest final interim ending →
        Account poller seq attempts (reply :: rest) final (sent ++ interim) ending := by
  cases course with
  | advances _ event progress watched isInterim line leaves =>
    have retryable := Reply.isRetryable_of_isProgress progress
    have still : later.IsWithin 0 := ⟨fun _ => Nat.zero_le _, fun _ => rfl⟩
    have overruns {rest : List Reply} : Overruns poller.policy.maxRetries attempts (reply :: rest) ↔
        Overruns poller.policy.maxRetries 0 rest := by
      by_cases positive : 0 < poller.policy.maxRetries
      · exact overruns_cons_of_progress progress (within.budget positive)
      · exact iff_of_false (fun overrun => positive overrun.1) (fun overrun => positive overrun.1)
    apply And.intro still
    exists [event]
    intro rest final interim ending account
    apply account.cons leaves
    · simpa only [List.mem_singleton, forall_eq] using isInterim
    · exact isCutShort_cons leaves.watched_eq line (Or.inl retryable)
    · exact overruns
    · simp only [retryable, Bool.false_eq_true, if_false]
  | rejected _ position rejects line leaves =>
    -- neither progress nor a failure: the streak goes on and nothing is counted
    subst rejects
    have still : later.IsWithin attempts :=
      { budget := leaves.policy_eq ▸ within.budget
        undisturbed := line ▸ within.undisturbed }
    apply And.intro still
    exists []
    intro rest final interim ending account
    apply account.cons leaves
    · exact fun _ member => by cases member
    · exact isCutShort_cons leaves.watched_eq line (Or.inl rfl)
    · exact overruns_cons_of_quiet rfl
    · rfl
  | waits _ retryable allowed undisturbed line leaves =>
    have quiet := Reply.isProgress_of_isRetryable retryable
    have counts : (1 : Nat) = if reply.isRetryable then 1 else 0 := (if_pos retryable).symm
    have still : later.IsWithin (attempts + 1) :=
      { budget := by
          rw [leaves.policy_eq]
          intro positive
          exact (Backoff.allowsRetry_iff.mp allowed).resolve_left (Nat.ne_of_gt positive)
        undisturbed := by
          rw [line, undisturbed]
          exact fun disturbed => by cases disturbed }
    apply And.intro still
    exists []
    intro rest final interim ending account
    apply account.cons leaves
    · exact fun _ member => by cases member
    · exact isCutShort_cons leaves.watched_eq line (Or.inr undisturbed)
    · rw [overruns_cons_of_quiet quiet, ← counts]
    · exact counts

end Account

section Cycle

variable {σ κ : Type} [Source σ κ] {poller final : Poller σ κ} {seq attempts fuel : Nat}
  {told : List Reply} {interim ending : List Event} {flow : Flow}

/-- What is accounted for from where a reply has left the poller is accounted for from before it. -/
theorem Account.of_heard (account : Account poller.heard seq attempts told final interim ending) :
    Account poller seq attempts told final interim ending :=
  { account with isInterim := poller.batchLimit_heard ▸ account.isInterim }

/-- **Every cycle that ends is accounted for.** The induction is on the turns, with the failures that
have been counted so far. -/
theorem exists_account (within : poller.IsWithin attempts)
    (ended : (turns seq fuel attempts poller).1 = some flow) :
    ∃ interim ending, Account poller seq attempts (replies seq fuel attempts poller)
      (turns seq fuel attempts poller).2 interim ending := by
  induction fuel generalizing attempts poller with
  | zero => cases ended
  | succ fuel ih =>
    have course := poller.course_turn seq attempts
    have heard : poller.heard.IsWithin attempts := ⟨within.budget, within.undisturbed⟩
    match turned : poller.turn seq attempts with
    | (.finished flow, later) =>
      rw [turned] at course
      simp only [turns, replies, turned]
      obtain ⟨ending, account⟩ := course.account_of_finished heard
      exact ⟨[], ending, account.of_heard⟩
    | (.again again, later) =>
      rw [turned] at course
      simp only [turns, replies, turned] at ended ⊢
      obtain ⟨still, sent, cons⟩ := course.account_of_again heard
      obtain ⟨interim, ending, account⟩ := ih still ended
      exact ⟨sent ++ interim, ending, (cons account).of_heard⟩

end Cycle

/-! ## Scripted sources -/

section Scripted

variable {poller : Poller Script Script.Cursor} {seq attempts fuel : Nat}

/-- A bound on the turns ahead: each but the last uses up an answer or a fresh start that is owed, and
an answer may leave a fresh start owing. -/
def ahead (poller : Poller Script Script.Cursor) : Nat :=
  2 * poller.reader.source.backlog + poller.needsFreshStart.toNat

/-- Asking a script leaves fewer turns ahead, unless it has nothing more to say. -/
theorem ahead_heard_lt (poller : Poller Script Script.Cursor) :
    poller.reply = .read (.ok {}) ∨ poller.heard.ahead < poller.ahead := by
  have owes : poller.reply.owes.toNat ≤ 1 := Bool.toNat_le _
  cases owed : poller.needsFreshStart with
  | true =>
    obtain ⟨most, failing⟩ := poller.reader.spends_reopenFresh
    right
    simp only [ahead, heard, reply, ask, owed, if_true, Bool.toNat_true]
    cases outcome : poller.reader.reopenFresh.1 with
    | ok snapshot =>
      simp only [Reply.owes, Bool.toNat_false]
      lia
    | error error =>
      -- the fresh start stays owed, but the failure has used up an answer
      have fewer := failing error outcome
      simp only [Reply.owes, Bool.toNat_true]
      lia
  | false =>
    simp only [ahead, heard, reply, ask, owed, Bool.false_eq_true, if_false] at owes ⊢
    rcases poller.reader.backlog_next with nothing | fewer
    · exact Or.inl (congrArg Reply.read nothing)
    · exact Or.inr (by lia)

/-- A turn that is not the last leaves fewer turns ahead. -/
theorem ahead_turn_lt {later : Poller Script Script.Cursor} {again : Nat}
    (turned : poller.turn seq attempts = (.again again, later)) : later.ahead < poller.ahead := by
  have course := turned ▸ poller.course_turn seq attempts
  have keeps {sent : List Event} {counted : Nat} (leaves : poller.heard.Leaves later sent counted) :
      later.ahead = poller.heard.ahead := by
    simp only [ahead, leaves.source_eq, leaves.owed_eq]
  rcases poller.ahead_heard_lt with nothing | fewer
  · rw [nothing] at course
    cases course with
    | advances _ _ progress => cases progress
    | rejected _ _ rejects => cases rejects
    | waits _ retryable => cases retryable
  · cases course with
    | advances _ _ _ _ _ _ leaves => exact keeps leaves ▸ fewer
    | rejected _ _ _ _ leaves => exact keeps leaves ▸ fewer
    | waits _ _ _ _ _ leaves => exact keeps leaves ▸ fewer

/-- A cycle on a script ends within the turns ahead of it. -/
theorem exists_flow_of_ahead_lt (enough : poller.ahead < fuel) :
    ∃ flow, (turns seq fuel attempts poller).1 = some flow := by
  induction fuel generalizing attempts poller with
  | zero => cases enough
  | succ fuel ih =>
    match turned : poller.turn seq attempts with
    | (.finished flow, later) =>
      simp only [turns, turned]
      exact ⟨flow, rfl⟩
    | (.again again, later) =>
      simp only [turns, turned]
      exact ih (Nat.lt_of_lt_of_le (ahead_turn_lt turned) (Nat.le_of_lt_succ enough))

theorem ahead_lt_turnBound (poller : Poller Script Script.Cursor) :
    poller.ahead < poller.turnBound := by
  have owed : poller.needsFreshStart.toNat ≤ 1 := Bool.toNat_le _
  show 2 * poller.reader.source.backlog + poller.needsFreshStart.toNat <
    4 * poller.reader.source.backlog + 16
  lia

/-- **A cycle on a script ends**, with exactly one last event unless it is cut short, and with batches
and discontinuities before it. It gives up exactly if more retryable failures come in a row than the
policy allows, and it counts every retryable failure but the one at which it gives up. -/
theorem cycle_ends_and_aborts_iff_exhausted (poller : Poller Script Script.Cursor) (seq : Nat) :
    ∃ flow final interim ending,
      poller.cycle seq = (some flow, final) ∧
      final.outbox = poller.outbox ++ (interim ++ ending) ∧
      (∀ event ∈ interim, event.IsInterim poller.reader.batchLimit) ∧
      (poller.IsCutShort (poller.cycleReplies seq) ∧ ending = [] ∨
        ¬ poller.IsCutShort (poller.cycleReplies seq) ∧
          ∃ event, ending = [event] ∧ event.Concludes seq) ∧
      ((∃ reason, .cycleAborted seq reason ∈ interim ++ ending) ↔
        poller.watched = true ∧
          Exhausts poller.policy.maxRetries (poller.cycleReplies seq)) ∧
      (Exhausts poller.policy.maxRetries (poller.cycleReplies seq) →
        final.retries + 1 =
          poller.retries + (poller.cycleReplies seq).countP Reply.isRetryable) ∧
      (¬ Exhausts poller.policy.maxRetries (poller.cycleReplies seq) →
        final.retries = poller.retries + (poller.cycleReplies seq).countP Reply.isRetryable) := by
  obtain ⟨flow, ended⟩ : ∃ flow, (poller.cycle seq).1 = some flow :=
    exists_flow_of_ahead_lt poller.ahead_lt_turnBound
  have within : poller.IsWithin 0 := ⟨fun _ => Nat.zero_le _, fun _ => rfl⟩
  obtain ⟨interim, ending, account⟩ := exists_account within ended
  obtain ⟨outbox_eq, isInterim, ends, aborts_iff, aborted, kept⟩ := account
  rw [overruns_zero] at aborts_iff aborted kept
  have last : (∃ reason, Event.cycleAborted seq reason ∈ interim ++ ending) ↔
      ∃ reason, Event.cycleAborted seq reason ∈ ending := by
    have never (reason : String) : Event.cycleAborted seq reason ∉ interim := fun member => by
      cases isInterim _ member
    simp only [List.mem_append, never, false_or]
  exact ⟨flow, (poller.cycle seq).2, interim, ending, Prod.ext ended rfl, outbox_eq, isInterim, ends,
    last.trans aborts_iff, aborted, kept⟩

/-- Two failures in a row are one too many for a policy with one retry. -/
example :
    let script : Script := { reads := [.fault (.transient "busy"), .fault (.transient "busy")] }
    let poller : Poller Script Script.Cursor :=
      { reader := .ofSource script none 8, policy := { maxRetries := 1 } }
    (poller.cycle 0).2.outbox = [.cycleAborted 0 "Retryable read failure: busy"] ∧
      (poller.cycle 0).2.retries = 1 := by
  decide +kernel

end Scripted

end Poller

end ChangeFeed
