/-
# Exactly what has changed

While nothing is lost, a watcher learns of changes in batches and from the first snapshot alone, and
it marks a document when what it knows of the document advances. So what is pending for a subscriber
who has taken everything at some moment is, at every later moment, the documents about which the
watcher has come to know more since then: `Gathers` is this account, and every action keeps it.

What the watcher knows at an answered sync is what the log has ever held. Between two moments of that
kind the account speaks of the log itself: pending are the documents whose largest revision number
has risen, each of them and no other.
-/

import ChangeFeed.Proofs.Delivery
import ChangeFeed.Proofs.Interest
import ChangeFeed.Proofs.Steady

namespace ChangeFeed

/-- The largest revision number of the document has risen from one history to the other. -/
def HasRisen (before after : List Change) (document : Document) : Prop :=
  ∃ change ∈ after, change.document = document ∧
    ∀ earlier ∈ before, earlier.document = document → earlier.revno < change.revno

instance (before after : List Change) (document : Document) :
    Decidable (HasRisen before after document) := by
  unfold HasRisen
  infer_instance

/-- Nothing rises by what is committed again. -/
theorem not_hasRisen_of_replays {before more : List Change} {document : Document}
    (replays : ∀ change ∈ more, change.document = document →
      ∃ earlier ∈ before, earlier.document = document ∧ change.revno ≤ earlier.revno) :
    ¬ HasRisen before (before ++ more) document := by
  rintro ⟨change, member, same, newest⟩
  rcases List.mem_append.mp member with old | new
  · exact Int64.lt_irrefl (newest change old same)
  · obtain ⟨earlier, listed, sameEarlier, reached⟩ := replays change new same
    exact Int64.not_lt.mpr reached (newest earlier listed sameEarlier)

namespace Revisions

variable {since known : Revisions} {changes : List Change} {document : Document}

/-- More is known of the document than before. -/
def HasAdvanced (since known : Revisions) (document : Document) : Prop :=
  ∃ change : Change, change.document = document ∧ ¬ since.Knows change ∧ known.Knows change

theorem not_hasAdvanced_self (known : Revisions) (document : Document) :
    ¬ HasAdvanced known known document := by
  rintro ⟨change, -, unknown, knows⟩
  exact unknown knows

/-- **The news among changes are what advances when they are taken in.** -/
theorem hasAdvanced_observeAll_iff (kept : ∀ change, since.Knows change → known.Knows change) :
    HasAdvanced since (known.observeAll changes) document ↔
      HasAdvanced since known document ∨ document ∈ known.newsIn changes := by
  constructor
  · rintro ⟨change, same, unknown, learned⟩
    by_cases before : known.Knows change
    · exact Or.inl ⟨change, same, unknown, before⟩
    · exact Or.inr (same ▸ mem_newsIn_of_learned before learned)
  · rintro (⟨change, same, unknown, knows⟩ | news)
    · exact ⟨change, same, unknown, knows.observeAll changes⟩
    · obtain ⟨change, listed, same, unknown⟩ := mem_newsIn_iff.mp news
      exact ⟨change, same, fun knew => unknown (kept change knew),
        knows_observeAll_of_mem known listed⟩

end Revisions

namespace Watcher

variable {watcher : Watcher} {id : SubscriptionId} {key : WatchKey} {event : Event} {input : Input}

/-- The subscriber uses this subscription. -/
def Input.uses (id : SubscriptionId) : Input → Bool
  | .stop other | .drop other | .changes other | .next other | .streamNext other => other == id
  | .tick | .requestSync | .giveUp _ | .watch _ _ | .unregisterNext | .shutDown | .readerLost
  | .abandonPolls => false

theorem subscriptions_issue (watcher : Watcher) (poll : Option Nat) :
    (watcher.issue poll).subscriptions = watcher.subscriptions := by
  obtain ⟨desk, polls, same⟩ := issue_eq watcher poll
  rw [same]

/-- Whoever uses another subscription, or none, leaves this one as it is. -/
theorem getElem?_subscriptions_take (goesOn : input.endsWatcher = false)
    (unused : input.uses id = false) (older : watcher.hasEnded = false → id < watcher.nextId) :
    (watcher.take input).subscriptions[id]? = watcher.subscriptions[id]? := by
  have updated : ∀ (other : SubscriptionId) (subscription : Subscription) (unregister : Bool),
      (other == id) = false →
        (watcher.update other subscription unregister).subscriptions[id]? =
          watcher.subscriptions[id]? := by
    intro other subscription unregister different
    simp only [beq_eq_false_iff_ne] at different
    simp [update, Std.ExtTreeMap.getElem?_insert, different]
  cases idle : input.isIdle with
  | true =>
    obtain ⟨_, _, _, _, _, same⟩ := watcher.take_of_isIdle idle
    rw [same]
  | false =>
    cases input with
    | tick | requestSync | giveUp _ | unregisterNext | abandonPolls => cases idle
    | watch key since =>
      simp only [take, watch]
      split
      · rfl
      · next running =>
        split
        · rfl
        · have different : watcher.nextId ≠ id := Nat.ne_of_gt (older (by simpa using running))
          simp [Std.ExtTreeMap.getElem?_insert, different]
    | stop other | drop other | changes other | next other | streamNext other =>
      simp only [take, stop, drop, changes, next, streamNext]
      split
      · rfl
      · exact updated _ _ _ unused
    | shutDown | readerLost => cases goesOn

/-- **An ordinary event marks, of the documents that a key covers, those it brings news of.** -/
theorem mem_marksOf_iff_of_isOrdinary (exact : watcher.registry.IsExact)
    (registered : watcher.registry.keys[id]? = some key) (ordinary : event.isOrdinary = true)
    {text : String} :
    (id, text) ∈ watcher.marksOf event ↔ ∃ document, key.covers document = true ∧
      document.id = text ∧ document ∈ watcher.known.newsIn event.changes := by
  rw [mem_marksOf_iff_exists exact registered]
  cases event with
  | primed _ | batch _ => rfl
  | cycleComplete _ | cycleAborted _ _ => simp [Reports, Event.changes, Revisions.newsIn]
  | discontinuity _ | fatal _ => cases ordinary

/-- **What an ordinary event brings news of is pending after it**, together with what was before. -/
theorem exists_pending_receive (running : watcher.hasEnded = false) (orderly : watcher.Orderly)
    (exact : watcher.registry.IsExact) (registered : watcher.registry.keys[id]? = some key)
    (ordinary : event.isOrdinary = true) {subscription : Subscription}
    (present : watcher.subscriptions[id]? = some subscription)
    (serving : subscription.stopped = false) :
    ∃ later, (watcher.receive event).subscriptions[id]? = some later ∧ later.stopped = false ∧
      ∀ text, text ∈ later.mailbox.pending ↔
        text ∈ subscription.mailbox.pending ∨ ∃ document, key.covers document = true ∧
          document.id = text ∧ document ∈ watcher.known.newsIn event.changes := by
  by_cases isAboutLog : event.isAboutLog = true
  · obtain ⟨metrics, received⟩ := receive_eq running event isAboutLog
    have after := Subscriptions.getElem?_markEach watcher.subscriptions (watcher.marksOf event) id
    rw [present, Option.map_some] at after
    rw [received]
    refine ⟨_, after, serving, fun text => ?_⟩
    have isOpen := orderly.isOpen id subscription present serving
    rw [Mailbox.mem_pending_markAll isOpen, Subscriptions.mem_marksIn_iff,
      mem_marksOf_iff_of_isOrdinary exact registered ordinary]
    exact or_comm
  · -- The end of a cycle is for the desk only.
    have kept : (watcher.receive event).subscriptions = watcher.subscriptions := by
      cases event with
      | cycleComplete seq =>
        simp only [receive, running, Bool.false_eq_true, if_false, subscriptions_issue]
      | cycleAborted seq reason => simp only [receive, running, Bool.false_eq_true, if_false]
      | primed _ | batch _ | discontinuity _ => exact absurd rfl isAboutLog
      | fatal _ => cases ordinary
    have nothing : event.changes = [] := by
      cases event with
      | primed _ | batch _ | discontinuity _ => exact absurd rfl isAboutLog
      | cycleComplete _ | cycleAborted _ _ | fatal _ => rfl
    rw [kept]
    refine ⟨subscription, present, serving, fun text => ?_⟩
    simp [nothing, Revisions.newsIn]

end Watcher

namespace System

variable {system : System} {action : Action} {actions : List Action} {id : SubscriptionId}
  {key : WatchKey} {since : Revisions} {document : Document}

/-! ## What is pending -/

/-- Since the watcher knew so much, nothing has been taken out of the mailbox of the subscription. -/
structure Gathers (id : SubscriptionId) (key : WatchKey) (since : Revisions) (system : System) :
    Prop where
  registered : system.watcher.registry.keys[id]? = some key
  kept : ∀ change, since.Knows change → system.watcher.known.Knows change
  pending : ∃ subscription, system.watcher.subscriptions[id]? = some subscription ∧
    subscription.stopped = false ∧
    ∀ text, text ∈ subscription.mailbox.pending ↔ ∃ document, key.covers document = true ∧
      document.id = text ∧ Revisions.HasAdvanced since system.watcher.known document

/-- Nobody uses the subscription. -/
def Action.Spares (id : SubscriptionId) : Action → Prop
  | .input given => given.uses id = false
  | .edit _ | .advance | .beginCycle | .retire | .signal _ | .leave | .receive => True

instance (id : SubscriptionId) : ∀ action : Action, Decidable (action.Spares id)
  | .input given => inferInstanceAs (Decidable (given.uses id = false))
  | .edit _ | .advance | .beginCycle | .retire | .signal _ | .leave | .receive => instDecidableTrue

/-- The account is about the registration, the mailbox and what the watcher knows. -/
theorem Gathers.congr (gathers : system.Gathers id key since) {after : System}
    (registered : after.watcher.registry.keys[id]? = some key)
    (known : after.watcher.known = system.watcher.known)
    (subscription : after.watcher.subscriptions[id]? = system.watcher.subscriptions[id]?) :
    after.Gathers id key since where
  registered := registered
  kept := known ▸ gathers.kept
  pending := by
    rw [known, subscription]
    exact gathers.pending

/-- An event puts into the mailbox what it brings news of, and nothing else. -/
theorem Gathers.receive (gathers : system.Gathers id key since)
    (running : system.watcher.hasEnded = false) (exact : system.watcher.registry.IsExact)
    (orderly : system.watcher.Orderly) (steady : system.IsSteady)
    (registered : (system.act .receive).watcher.registry.keys[id]? = some key) :
    (system.act .receive).Gathers id key since := by
  rcases act_receive_cases system with ⟨-, same⟩ | ⟨event, rest, -, whole, received⟩
  · rwa [same]
  · have ordinary : event.isOrdinary = true := steady.ordinary event (by
      show event ∈ system.queue
      rw [whole]
      exact List.mem_cons_self)
    obtain ⟨subscription, present, serving, pending⟩ := gathers.pending
    obtain ⟨later, presentLater, servingLater, pendingLater⟩ := Watcher.exists_pending_receive running
      orderly exact gathers.registered ordinary present serving
    have known : (system.act .receive).watcher.known =
        system.watcher.known.observeAll event.changes := by
      rw [received]
      exact Watcher.receive_known running event
    have subscriptions : (system.act .receive).watcher.subscriptions =
        (system.watcher.receive event).subscriptions := by rw [received]
    refine ⟨registered, fun change knew => ?_, ?_⟩
    · rw [known]
      exact (gathers.kept change knew).observeAll _
    · rw [known, subscriptions]
      refine ⟨later, presentLater, servingLater, fun text => ?_⟩
      rw [pendingLater, pending]
      simp only [Revisions.hasAdvanced_observeAll_iff gathers.kept, and_or_left, exists_or]

/-- **Every action keeps the account**, as long as nobody uses the subscription. -/
theorem Gathers.act (gathers : system.Gathers id key since) (sound : system.IsSound)
    (exact : system.watcher.registry.IsExact) (steady : system.IsSteady) (calm : action.IsCalm)
    (spares : action.Spares id) (running : (system.act action).watcher.hasEnded = false)
    (serving : ¬ (system.act action).watcher.HasStopped id) :
    (system.act action).Gathers id key since := by
  have before := running_of_act running
  have orderly := sound.orderly before
  have registered : (system.act action).watcher.registry.keys[id]? = some key :=
    ((sound.continues action running).registered id key gathers.registered).resolve_right serving
  rcases act_watcher_cases system action with same | same | ⟨_, _, rfl, _, _⟩ | ⟨input, rfl, same⟩
  · exact gathers.congr registered (by rw [same]) (by rw [same])
  · exact gathers.congr registered (by rw [same]; rfl) (by rw [same])
  · exact gathers.receive before exact orderly steady registered
  · refine gathers.congr registered (system.watcher.known_take input) ?_
    exact Watcher.getElem?_subscriptions_take calm spares
      fun _ => orderly.lt_nextId gathers.registered

/-! ## Systems in calm -/

/-- What holds of a system that has known nothing but calm. -/
structure IsPeaceful (system : System) : Prop where
  guarded : system.IsGuarded Position.origin 0 []
  steady : system.IsSteady
  exact : system.watcher.registry.IsExact

theorem IsPeaceful.unhurt (peaceful : system.IsPeaceful) : system.IsUnhurt :=
  Or.inl peaceful.steady.whole.untouched

theorem isPeaceful_start (settings : Settings) (strategy : Strategy) (supportsSnapshots : Bool) :
    (start settings strategy supportsSnapshots).IsPeaceful := by
  have fair : Allows IsFair (start settings strategy supportsSnapshots) [] := trivial
  exact ⟨(guarded_run fair).1, isSteady_start settings strategy supportsSnapshots,
    Registry.isExact_empty⟩

theorem IsPeaceful.act (peaceful : system.IsPeaceful) (calm : action.IsCalm) :
    (system.act action).IsPeaceful where
  guarded := peaceful.guarded.act (calm.isFair system).isWithin peaceful.unhurt.isAnchored
  steady := peaceful.steady.act peaceful.guarded.sound calm
  exact := isExact_act peaceful.exact peaceful.guarded.sound action

theorem IsPeaceful.run (peaceful : system.IsPeaceful) (calm : ∀ action ∈ actions, action.IsCalm) :
    (system.run actions).IsPeaceful := by
  induction actions generalizing system with
  | nil => exact peaceful
  | cons action rest ih =>
    obtain ⟨first, later⟩ := List.forall_mem_cons.mp calm
    exact ih (peaceful.act first) later

/-- In calm a watcher runs on. -/
theorem IsPeaceful.running_run (peaceful : system.IsPeaceful)
    (calm : ∀ action ∈ actions, action.IsCalm) (running : system.watcher.hasEnded = false) :
    (system.run actions).watcher.hasEnded = false := by
  induction actions generalizing system with
  | nil => exact running
  | cons action rest ih =>
    obtain ⟨first, later⟩ := List.forall_mem_cons.mp calm
    exact ih (peaceful.act first) later (peaceful.steady.running_act first running)

/-- **The account is kept through a calm run** that spares a subscription which is not stopped. -/
theorem Gathers.run (gathers : system.Gathers id key since) (peaceful : system.IsPeaceful)
    (calm : ∀ action ∈ actions, action.IsCalm) (spares : ∀ action ∈ actions, action.Spares id)
    (running : (system.run actions).watcher.hasEnded = false)
    (serving : ¬ (system.run actions).watcher.HasStopped id) :
    (system.run actions).Gathers id key since := by
  induction actions generalizing system with
  | nil => exact gathers
  | cons action rest ih =>
    obtain ⟨calmNow, calmLater⟩ := List.forall_mem_cons.mp calm
    obtain ⟨sparesNow, sparesLater⟩ := List.forall_mem_cons.mp spares
    have sound := peaceful.guarded.sound
    have peacefulThen := peaceful.act calmNow
    have within : Allows IsWithin (system.act action) rest :=
      Run.allows_of_forall fun other member state => ((calmLater other member).isFair state).isWithin
    have runsOn : ((system.act action).run rest).watcher.hasEnded = false := running
    have serves : ¬ ((system.act action).run rest).watcher.HasStopped id := serving
    have stays : ¬ (system.act action).watcher.HasStopped id := fun stopped =>
      serves (hasStopped_run peacefulThen.guarded.sound within runsOn stopped)
    exact ih (gathers.act sound peaceful.exact peaceful.steady calmNow sparesNow (running_of_run runsOn)
      stays) peacefulThen calmLater sparesLater running serving

/-! ## Answered syncs -/

/-- The watcher knows all that was ever committed. -/
def IsCaughtUp (system : System) : Prop :=
  ∀ change ∈ system.history, system.watcher.known.Knows change

/-- Nobody edits the log. -/
def Action.IsQuiet : Action → Prop
  | .edit _ => False
  | .advance | .beginCycle | .retire | .signal _ | .leave | .receive | .input _ => True

instance : ∀ action : Action, Decidable action.IsQuiet
  | .edit _ => instDecidableFalse
  | .advance | .beginCycle | .retire | .signal _ | .leave | .receive | .input _ => instDecidableTrue

theorem history_act_of_isQuiet (quiet : action.IsQuiet) :
    (system.act action).history = system.history :=
  history_act_of_ne_edit fun edit same => by
    subst same
    exact quiet.elim

theorem history_run_of_isQuiet (quiet : ∀ action ∈ actions, action.IsQuiet) :
    (system.run actions).history = system.history := by
  induction actions generalizing system with
  | nil => rfl
  | cons action rest ih =>
    obtain ⟨now, later⟩ := List.forall_mem_cons.mp quiet
    exact (ih later).trans (history_act_of_isQuiet now)

/-- It stays so until something new is committed. -/
theorem IsCaughtUp.run (caughtUp : system.IsCaughtUp) (quiet : ∀ action ∈ actions, action.IsQuiet) :
    (system.run actions).IsCaughtUp := by
  intro change member
  rw [history_run_of_isQuiet quiet] at member
  exact knows_run (caughtUp change member) actions

/-- **When a sync is answered**, and nothing has been committed since it was requested, the watcher has
caught up. -/
theorem IsPeaceful.isCaughtUp_of_answered (peaceful : system.IsPeaceful) (actions : List Action)
    (calm : ∀ action ∈ actions, action.IsCalm) (quiet : ∀ action ∈ actions, action.IsQuiet)
    (done : ((system.act (.input .requestSync)).run actions).watcher.desk.requests[
      system.watcher.desk.requests.length]? = some .done) :
    ((system.act (.input .requestSync)).run actions).IsCaughtUp := by
  have awaits : ((system.act (.input .requestSync)).run actions).Awaits
      system.watcher.desk.requests.length system.watcher.nextSeq system.history :=
    Run.induction (Awaits system.watcher.desk.requests.length system.watcher.nextSeq system.history)
      (fun _ _ fair awaits => awaits.act fair)
      (Run.allows_of_forall fun action member state => (calm action member).isFair state)
      (awaits_requestSync peaceful.guarded peaceful.unhurt)
  intro change member
  rw [history_run_of_isQuiet quiet] at member
  exact awaits.answered done change member

/-! ## Exact delivery -/

/-- **Between two moments at which the watcher has caught up, it has come to know more of exactly the
documents that have risen.** -/
theorem hasAdvanced_iff_hasRisen {later : System} (sound : system.IsSound) (soundLater : later.IsSound)
    (caughtUp : system.IsCaughtUp) (caughtUpLater : later.IsCaughtUp) :
    Revisions.HasAdvanced system.watcher.known later.watcher.known document ↔
      HasRisen system.history later.history document := by
  constructor
  · rintro ⟨change, rfl, unknown, knows⟩
    obtain ⟨risen, member, same, reached⟩ := soundLater.known change knows
    refine ⟨risen, member, same, fun earlier old sameOld => Int64.not_le.mp fun beyond => unknown ?_⟩
    exact (caughtUp earlier old).of_le sameOld.symm (Int64.le_trans reached beyond)
  · rintro ⟨change, member, same, newest⟩
    refine ⟨change, same, fun knew => ?_, caughtUpLater change member⟩
    obtain ⟨earlier, old, sameOld, reached⟩ := sound.known change knew
    exact Int64.not_lt.mpr reached (newest earlier old (sameOld.trans same))

/-- Whoever has just taken everything has nothing pending. -/
theorem gathers_changes (sound : system.IsSound) (running : system.watcher.hasEnded = false)
    (registered : system.watcher.registry.keys[id]? = some key)
    (serving : ¬ (system.act (.input (.changes id))).watcher.HasStopped id) :
    (system.act (.input (.changes id))).Gathers id key system.watcher.known := by
  have orderly := sound.orderly running
  obtain ⟨subscription, present⟩ := Option.isSome_iff_exists.mp (orderly.present id key registered)
  have taken : (system.act (.input (.changes id))).watcher =
      system.watcher.update id subscription.changes.2 false := by
    show (system.watcher.changes id).2 = _
    simp only [Watcher.changes, present]
  have held : (system.act (.input (.changes id))).watcher.subscriptions[id]? =
      some subscription.changes.2 := by
    rw [taken]
    simp [Watcher.update]
  have live : subscription.stopped = false := by
    cases stopped : subscription.stopped with
    | false => rfl
    | true => exact absurd ⟨_, held, stopped⟩ serving
  have known : (system.act (.input (.changes id))).watcher.known = system.watcher.known := by
    rw [taken]
    rfl
  refine ⟨?_, fun change knew => known ▸ knew, ⟨_, held, live, fun text => ?_⟩⟩
  · rw [taken]
    exact registered
  · rw [known]
    have nothing : ¬ text ∈ subscription.changes.2.mailbox.pending := Std.ExtTreeSet.not_mem_empty
    refine iff_of_false nothing ?_
    rintro ⟨document, -, -, advanced⟩
    exact Revisions.not_hasAdvanced_self _ _ advanced

/-- **Exact delivery.** Let a subscriber take everything at a moment at which the watcher has caught up,
and again, after anything that may happen in calm, at another such moment, with nobody using the
subscription in between and nobody having stopped it. The second time it gets exactly the ids of the
documents under its key that have risen since. -/
theorem mem_changes_iff_hasRisen (peaceful : system.IsPeaceful) (actions : List Action)
    (caughtUp : system.IsCaughtUp)
    (running : system.watcher.hasEnded = false)
    (registered : system.watcher.registry.keys[id]? = some key)
    (calm : ∀ action ∈ actions, action.IsCalm) (spares : ∀ action ∈ actions, action.Spares id)
    (caughtUpLater : ((system.act (.input (.changes id))).run actions).IsCaughtUp)
    (serving : ¬ ((system.act (.input (.changes id))).run actions).watcher.HasStopped id)
    (text : String) :
    let last := (system.act (.input (.changes id))).run actions
    text ∈ (last.watcher.changes id).1 ↔ ∃ document, key.covers document = true ∧
      document.id = text ∧ HasRisen system.history last.history document := by
  intro last
  have calmFirst : Action.IsCalm (.input (.changes id)) := rfl
  have peacefulThen := peaceful.act calmFirst
  have runningThen := peaceful.steady.running_act calmFirst running
  have runningLast : last.watcher.hasEnded = false := peacefulThen.running_run calm runningThen
  have within : Allows IsWithin (system.act (.input (.changes id))) actions :=
    Run.allows_of_forall fun action member state => ((calm action member).isFair state).isWithin
  have serves : ¬ (system.act (.input (.changes id))).watcher.HasStopped id := fun stopped =>
    serving (hasStopped_run peacefulThen.guarded.sound within runningLast stopped)
  have gathers : last.Gathers id key system.watcher.known :=
    (gathers_changes peaceful.guarded.sound running registered serves).run peacefulThen calm spares
      runningLast serving
  obtain ⟨subscription, present, -, pending⟩ := gathers.pending
  have taken : (last.watcher.changes id).1 = subscription.mailbox.pending := by
    simp only [Watcher.changes, present]
    rfl
  have soundLast := (peacefulThen.run calm).guarded.sound
  rw [taken, pending]
  exact exists_congr fun document => and_congr_right' <| and_congr_right' <|
    hasAdvanced_iff_hasRisen peaceful.guarded.sound soundLast caughtUp caughtUpLater

end System

end ChangeFeed
