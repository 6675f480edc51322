/-
# A sync is a barrier

Whoever asked for a sync and got an answer may rely on the watcher knowing all that the log held when
it was asked. Three things come together for that. The ticket needs a cycle that was still to be
issued; every such cycle has the history of that moment in front of its end; and the watcher handles
its events in order.

Without snapshots a truncation may take what the reader has not read, and before the reader has a
place even a snapshot does not help, since nothing tells it that it came too late. `IsFair` leaves
these truncations out and allows everything else.
-/

import ChangeFeed.Proofs.Coverage

namespace ChangeFeed

namespace System

/-- The action truncates nothing beyond the head, nothing at all without snapshots, and nothing for
the first time before the reader has a place. -/
def IsFair (system : System) : Action → Prop
  | .edit (.truncate through) =>
    through ≤ system.log.lastPosition ∧ system.log.supportsSnapshots = true ∧
      (system.log.cut = none → system.poller.reader.committed.isSome = true)
  | _ => True

instance (system : System) (action : Action) : Decidable (system.IsFair action) := by
  unfold IsFair
  split <;> infer_instance

/-- Nothing has been truncated yet, or the reader has a place and snapshots to keep it. -/
def IsUnhurt (system : System) : Prop :=
  system.log.cut = none ∨ system.HoldsPlace

variable {system : System} {action : Action} {ticket first : Nat} {targets : List Change}

theorem IsFair.isWithin (fair : system.IsFair action) : system.IsWithin action := by
  cases action with
  | edit edit =>
    cases edit with
    | truncate through => exact fair.1
    | upsert _ | remove _ | append _ | invalidateCursors | failNextOpen _ | failNextRead _
    | failNextSnapshot _ => trivial
  | advance | beginCycle | retire | signal _ | leave | receive | input _ => trivial

theorem IsUnhurt.isAnchored (unhurt : system.IsUnhurt) : system.IsAnchored Position.origin := by
  apply unhurt.imp_left
  intro untouched
  rw [MemoryLog.horizon, untouched]
  exact Nat.le_refl _

/-- Only truncation cuts the log of a system. -/
theorem cut_act (sound : system.IsSound) (kept : ∀ through, action ≠ .edit (.truncate through)) :
    (system.act action).log.cut = system.log.cut := by
  by_cases edits : ∃ edit, action = .edit edit
  · obtain ⟨edit, rfl⟩ := edits
    exact MemoryLog.cut_edit fun through same => kept through (congrArg Action.edit same)
  · exact (sound.contents_act fun edit same => edits ⟨edit, same⟩).cut_eq

theorem IsUnhurt.act (unhurt : system.IsUnhurt) (sound : system.IsSound) (fair : system.IsFair action) :
    (system.act action).IsUnhurt := by
  by_cases truncates : ∃ through, action = .edit (.truncate through)
  · obtain ⟨through, rfl⟩ := truncates
    have holds : system.HoldsPlace := unhurt.elim (fun untouched => ⟨fair.2.1, fair.2.2 untouched⟩) id
    exact Or.inr (holds.act sound _)
  · refine unhurt.imp (fun untouched => ?_) fun holds => holds.act sound action
    exact (cut_act sound fun through same => truncates ⟨through, same⟩).trans untouched

/-! ## Tickets -/

/-- The cycle that the next event completes. -/
def completing? (system : System) : Option Nat :=
  system.poller.outbox.head?.bind Event.completed?

/-- An action serves the desk, and completes a cycle only by handling its end. -/
theorem serves_act (system : System) (action : Action) :
    SyncDesk.Serves none system.watcher.desk (system.act action).watcher.desk ∨
      system.watcher.hasEnded = false ∧
        SyncDesk.Serves system.completing? system.watcher.desk
          (system.act action).watcher.desk := by
  rcases act_watcher_cases system action with
    same | same | ⟨event, rest, -, sent, same⟩ | ⟨input, -, same⟩
  · rw [same]
    exact Or.inl (SyncDesk.serves_refl _)
  · rw [same]
    exact Or.inl (SyncDesk.serves_refl _)
  · rw [same]
    cases ended : system.watcher.hasEnded with
    | true =>
      have still : system.watcher.receive event = system.watcher := if_pos ended
      rw [still]
      exact Or.inl (SyncDesk.serves_refl _)
    | false =>
      rw [completing?, sent]
      exact Or.inr ⟨rfl, (system.watcher.advances_receive event).serves⟩
  · rw [same]
    exact Or.inl (system.watcher.advances_take input).serves

/-- A ticket that has been filed, with the targets of its request on their way. -/
structure Awaits (ticket first : Nat) (targets : List Change) (system : System) : Prop where
  guarded : system.IsGuarded Position.origin first targets
  unhurt : system.IsUnhurt
  files : system.watcher.desk.Files ticket first
  answered : system.watcher.desk.requests[ticket]? = some .done →
    ∀ change ∈ targets, system.watcher.known.Knows change

/-- **A ticket is answered only when the targets are known.** -/
theorem Awaits.act (awaits : system.Awaits ticket first targets) (fair : system.IsFair action) :
    (system.act action).Awaits ticket first targets := by
  have anchored := awaits.unhurt.isAnchored
  refine ⟨awaits.guarded.act fair.isWithin anchored, awaits.unhurt.act awaits.guarded.sound fair, ?_, ?_⟩
  · rcases system.serves_act action with serves | ⟨-, serves⟩ <;> exact serves.files awaits.files
  · intro done change member
    refine knows_act ?_ action
    rcases system.serves_act action with serves | ⟨running, serves⟩
    · rcases serves.answered ticket done with before | ⟨seq, completed, -⟩
      · exact awaits.answered before change member
      · cases completed
    · rcases serves.answered ticket done with before | ⟨seq, completed, waiter, waits, same, enough⟩
      · exact awaits.answered before change member
      · obtain ⟨event, head, isEnd⟩ := Option.bind_eq_some_iff.mp completed
        obtain ⟨rest, sent⟩ := List.head?_eq_some_iff.mp head
        cases event with
        | cycleComplete _ =>
          cases isEnd
          have needs := awaits.files.needs waiter waits same
          exact awaits.guarded.knows running sent (Nat.le_trans needs enough) member
        | primed _ | batch _ | discontinuity _ | cycleAborted _ _ | fatal _ => cases isEnd

/-- Before anybody asks, everything is on its way. -/
theorem guarded_run {settings : Settings} {strategy : Strategy} {supportsSnapshots : Bool}
    {actions : List Action}
    (fair : Allows IsFair (start settings strategy supportsSnapshots) actions) :
    let system := (start settings strategy supportsSnapshots).run actions
    system.IsGuarded Position.origin 0 [] ∧ system.IsUnhurt := by
  refine Run.induction (fun system => system.IsGuarded Position.origin 0 [] ∧ system.IsUnhurt) ?_
    fair ?_
  · rintro system action fair ⟨guarded, unhurt⟩
    exact ⟨guarded.act fair.isWithin unhurt.isAnchored, unhurt.act guarded.sound fair⟩
  · refine ⟨⟨isSound_start _ _ _, ?_, ?_, ?_⟩, Or.inl rfl⟩
    · intro _ change member
      obtain ⟨index, -, -, found⟩ := mem_between_iff.mp member
      cases found
    · intro _ _ _ _ _ _ change member
      cases member
    · intro change member
      cases member

/-- A request waits with the next ticket for the whole history of its log. -/
theorem awaits_requestSync (guarded : system.IsGuarded Position.origin 0 [])
    (unhurt : system.IsUnhurt) :
    (system.act (.input .requestSync)).Awaits system.watcher.desk.requests.length
      system.watcher.nextSeq system.history := by
  have later : (system.act (.input .requestSync)).IsGuarded Position.origin 0 [] :=
    guarded.act trivial unhurt.isAnchored
  have filed := Watcher.files_requestSync guarded.sound.ticketed
  refine ⟨⟨later.sound, later.covers, ?_, ?_⟩, unhurt.act guarded.sound trivial, filed.1, ?_⟩
  · -- Whatever is in the queue now was issued before the request.
    intro _ earlier seq rest split enough
    have member : Event.cycleComplete seq ∈ system.queue := by
      show _ ∈ (system.act (.input .requestSync)).queue
      rw [split]
      exact List.mem_append_right _ List.mem_cons_self
    have old := guarded.sound.inOrder.issued seq (Or.inl member)
    exact absurd old (Nat.not_lt_of_le enough)
  · intro change member
    obtain ⟨index, found⟩ := List.mem_iff_getElem?.mp member
    have inside : index < system.history.length := (List.getElem?_eq_some_iff.mp found).1
    exact mem_between_iff.mpr ⟨index, Nat.zero_le _, inside, found⟩
  · exact fun done => absurd done filed.2

/-- **An answered sync is a barrier.** In a fair run, whatever revision the log held when the sync
was requested, the watcher has it or a later one once the request is answered; the request may come
before the poll clock has ticked. A cycle that was under way at the time of the request never answers
it. -/
theorem answered_sync_is_barrier {settings : Settings} {strategy : Strategy}
    {supportsSnapshots : Bool} {before after : List Action}
    (fair : Allows IsFair (start settings strategy supportsSnapshots)
      (before ++ .input .requestSync :: after)) :
    let asked := (start settings strategy supportsSnapshots).run before
    let ticket := asked.watcher.desk.requests.length
    let system := (start settings strategy supportsSnapshots).run
      (before ++ .input .requestSync :: after)
    (system.watcher.desk.requests[ticket]? = some .done →
      ∀ document revno, asked.log.revno? document = some revno →
        ∃ revision, system.watcher.known[document]? = some revision ∧ revno ≤ revision.revno) ∧
    ∀ seq, asked.IsUnderWay seq → system.poller.outbox.head? = some (.cycleComplete seq) →
      (system.act .receive).watcher.desk.requests[ticket]? =
        system.watcher.desk.requests[ticket]? := by
  intro asked ticket system
  obtain ⟨fairBefore, -, fairAfter⟩ := Run.allows_append_iff.mp fair
  obtain ⟨guarded, unhurt⟩ := guarded_run fairBefore
  have awaits : system.Awaits ticket asked.watcher.nextSeq asked.history := by
    show ((start settings strategy supportsSnapshots).run _).Awaits _ _ _
    rw [run_append, run_cons]
    exact Run.induction (Awaits ticket asked.watcher.nextSeq asked.history)
      (fun _ _ fair awaits => awaits.act fair) fairAfter (awaits_requestSync guarded unhurt)
  refine ⟨fun done document revno held => ?_, fun seq underWay head => ?_⟩
  · obtain ⟨revision, latest, rfl⟩ := Option.map_eq_some_iff.mp held
    have shown : asked.log.revisions.Knows ⟨document, revision.revno, false⟩ :=
      Revisions.knows_iff.mpr ⟨revision, latest, Int64.le_refl _⟩
    obtain ⟨earlier, member, same, reached⟩ :=
      guarded.sound.stands.records.exists_of_knows _ shown
    have known := (awaits.answered done earlier member).of_le same.symm reached
    exact Revisions.knows_iff.mp known
  · have older : seq < asked.watcher.nextSeq := guarded.sound.inOrder.issued seq underWay
    obtain ⟨rest, sent⟩ := List.head?_eq_some_iff.mp head
    rcases act_receive_cases system with ⟨empty, -⟩ | ⟨event, others, holds, -, received⟩
    · rw [sent] at empty
      cases empty
    · rw [sent] at holds
      cases holds
      rw [received]
      exact Watcher.getElem?_requests_receive awaits.files older

/-- A sync that is requested while a cycle is under way is answered by the next one. -/
theorem answered_sync_is_barrier_behind_running_cycle :
    let before : List Action := [.input .tick, .advance, .advance, .edit (.upsert ⟨"fruit", "apple"⟩),
      .beginCycle]
    let after : List Action := List.replicate 6 .advance ++ [.edit (.truncate 1), .advance, .receive,
      .receive, .receive, .beginCycle] ++ List.replicate 3 .advance ++ [.receive]
    Allows IsFair (start {} .snapshot true) (before ++ .input .requestSync :: after) ∧
      ∃ revision, ((start {} .snapshot true).run
          (before ++ .input .requestSync :: after)).watcher.known[(⟨"fruit", "apple"⟩ : Document)]? =
        some revision ∧ 1 ≤ revision.revno := by
  intro before after
  have fair : Allows IsFair (start {} .snapshot true) (before ++ .input .requestSync :: after) := by
    decide
  exact ⟨fair, (answered_sync_is_barrier fair).1 rfl ⟨"fruit", "apple"⟩ 1 rfl⟩

/-- A sync that is requested before the poll clock has ticked is answered by the very first cycle. -/
example :
    let system := (start {} .snapshot true).run
      ([.input .requestSync, .input .tick, .advance, .advance, .beginCycle] ++
        List.replicate 3 .advance ++ List.replicate 2 .receive)
    system.watcher.desk.requests = [.done] ∧ system.watcher.nextSeq = 1 := by
  decide

end System

end ChangeFeed
