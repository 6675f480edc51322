/-
# A node, one request after the other

A node does what is asked of it and comes to rest before the next request. In between it runs on its
own: its poller takes its steps, its watcher handles what has been sent, and time passes. Each of
these is an action of a system, and `Unfolds` says that nothing else goes on. A node is therefore a
system under one particular order of actions, and what holds in every run of a system holds of it.

Subscribers see the consequence: from one answered sync to the next, they are told of exactly the
documents whose largest revision number has risen.
-/

import ChangeFeed.Proofs.Exactness

namespace ChangeFeed

namespace Watcher

variable {watcher : Watcher}

theorem unregistering_unregister (watcher : Watcher) (id : SubscriptionId) :
    (watcher.unregister id).unregistering = watcher.unregistering := by
  unfold unregister
  split <;> rfl

/-- To unregister one subscription after the other is to unregister them all. -/
theorem settle_unregisterNext (watcher : Watcher) : watcher.unregisterNext.settle = watcher.settle := by
  unfold unregisterNext
  split
  · rfl
  · next id rest waiting =>
    have apart : ({ ({ watcher with unregistering := rest }.unregister id) with unregistering := [] } :
        Watcher) = { watcher with unregistering := [] }.unregister id := by
      unfold unregister
      simp only
      cases watcher.registry.remove? id <;> rfl
    simp only [settle, unregistering_unregister, waiting, List.foldl_cons, apart]

theorem settle_of_nil (nothing : watcher.unregistering = []) : watcher.settle = watcher := by
  rw [settle, nothing]
  exact congrArg (fun unregistering => ({ watcher with unregistering } : Watcher)) nothing.symm

end Watcher

namespace System

variable {system : System} {stage : Stage} {poller : Poller MemoryLog MemoryLog.Cursor}

/-! ## Several actions of one kind -/

/-- A poller that nobody interferes with advances from stage to stage. -/
theorem exists_run_advance (reaches : Poller.Reaches (system.stage, system.poller) (stage, poller)) :
    ∃ count, system.run (List.replicate count .advance) = { system with stage, poller } := by
  generalize start : (system.stage, system.poller) = before at reaches
  induction reaches using Relation.ReflTransGen.head_induction_on generalizing system with
  | refl =>
    cases start
    exact ⟨0, rfl⟩
  | head follows _ ih =>
    subst start
    have place : ((system.act .advance).stage, (system.act .advance).poller) = _ := follows.symm
    obtain ⟨count, ran⟩ := ih place
    exact ⟨count + 1, ran⟩

/-- A watcher that goes on handling events handles all that have been sent. -/
theorem exists_run_receive (system : System) :
    ∃ count, system.run (List.replicate count .receive) =
      { system with
        poller := { system.poller with outbox := [] }
        watcher := system.watcher.receiveAll system.poller.outbox } := by
  generalize sent : system.poller.outbox = events
  induction events generalizing system with
  | nil =>
    exact ⟨0, congrArg (fun outbox => ({ system with poller.outbox := outbox } : System)) sent⟩
  | cons event rest ih =>
    have received : system.act .receive =
        { system with
          poller := { system.poller with outbox := rest }
          watcher := system.watcher.receive event } := by
      simp only [act, sent]
    obtain ⟨count, ran⟩ := ih (system.act .receive) (by rw [received])
    refine ⟨count + 1, ran.trans ?_⟩
    rw [received]
    rfl

/-- A watcher that goes on unregistering unregisters all that have been stopped. -/
theorem exists_run_unregisterNext (system : System) :
    ∃ count, system.run (List.replicate count (.input .unregisterNext)) =
      { system with watcher := system.watcher.settle } := by
  generalize waiting : system.watcher.unregistering = ids
  induction ids generalizing system with
  | nil => exact ⟨0, by rw [Watcher.settle_of_nil waiting]; rfl⟩
  | cons id rest ih =>
    have shorter : (system.act (.input .unregisterNext)).watcher.unregistering = rest := by
      show system.watcher.unregisterNext.unregistering = rest
      rw [Watcher.unregisterNext, waiting]
      exact Watcher.unregistering_unregister _ _
    obtain ⟨count, ran⟩ := ih (system.act (.input .unregisterNext)) shorter
    refine ⟨count + 1, ran.trans ?_⟩
    show { system with watcher := system.watcher.unregisterNext.settle } = _
    rw [Watcher.settle_unregisterNext]

/-- What goes on in a node between two requests. -/
def Action.IsInternal : Action → Prop
  | .advance | .beginCycle | .receive | .input .tick | .input .unregisterNext => True
  | _ => False

variable {action : Action}

theorem Action.IsInternal.isCalm (internal : action.IsInternal) : action.IsCalm := by
  unfold IsInternal at internal
  split at internal <;> trivial

theorem Action.IsInternal.isQuiet (internal : action.IsInternal) : action.IsQuiet := by
  unfold IsInternal at internal
  split at internal <;> trivial

theorem Action.IsInternal.spares (internal : action.IsInternal) (id : SubscriptionId) :
    action.Spares id := by
  unfold IsInternal at internal
  split at internal <;> trivial

/-- Nothing internal files a request. -/
theorem length_requests_act (internal : action.IsInternal) :
    (system.act action).watcher.desk.requests.length = system.watcher.desk.requests.length := by
  rcases act_watcher_cases system action with
    same | same | ⟨event, _, -, -, received⟩ | ⟨input, rfl, taken⟩
  · rw [same]
  · rw [same]
  · rw [received]
    exact system.watcher.length_requests_receive event
  · rw [taken]
    cases input with
    | tick => exact system.watcher.length_requests_tick
    | unregisterNext => exact system.watcher.length_requests_unregisterNext
    | requestSync | giveUp _ | watch _ _ | stop _ | drop _ | changes _ | next _ | streamNext _
    | shutDown | readerLost | abandonPolls => exact internal.elim

theorem length_requests_run {actions : List Action} (internal : ∀ action ∈ actions, action.IsInternal) :
    (system.run actions).watcher.desk.requests.length = system.watcher.desk.requests.length := by
  induction actions generalizing system with
  | nil => rfl
  | cons action rest ih =>
    obtain ⟨now, later⟩ := List.forall_mem_cons.mp internal
    exact (ih later).trans (length_requests_act now)

/-! ## Runs within a node -/

/-- A run of the system to a later one, of internal actions only. -/
def Unfolds (system later : System) : Prop :=
  ∃ actions, (∀ action ∈ actions, action.IsInternal) ∧ system.run actions = later

theorem Unfolds.refl (system : System) : system.Unfolds system :=
  ⟨[], nofun, rfl⟩

theorem Unfolds.trans {later last : System} (first : system.Unfolds later)
    (second : later.Unfolds last) : system.Unfolds last := by
  obtain ⟨actions, internal, rfl⟩ := first
  obtain ⟨others, alsoInternal, rfl⟩ := second
  refine ⟨actions ++ others, fun action member => ?_, run_append _ _ _⟩
  exact (List.mem_append.mp member).elim (internal action) (alsoInternal action)

theorem unfolds_of_replicate {later : System} (internal : action.IsInternal)
    (ran : ∃ count, system.run (List.replicate count action) = later) : system.Unfolds later := by
  obtain ⟨count, ran⟩ := ran
  refine ⟨_, fun other member => ?_, ran⟩
  rw [List.eq_of_mem_replicate member]
  exact internal

theorem unfolds_act (system : System) (internal : action.IsInternal) :
    system.Unfolds (system.act action) :=
  unfolds_of_replicate internal ⟨1, rfl⟩

end System

/-! ## Nodes as systems -/

namespace Node

variable {node : Node} {stage : Stage} {history : List Change}

/-- The node as a system, with its poller at a stage and the history of its log. -/
def toSystem (node : Node) (stage : Stage) (history : List Change) : System where
  poller := node.poller
  stage := stage
  watcher := node.watcher
  history := history

/-- Between two requests a poller that still serves polls is idle. -/
def IsAt (node : Node) (stage : Stage) : Prop :=
  node.polling = true → stage = .resting .idle

theorem unfolds_settle (node : Node) (stage : Stage) (history : List Change) :
    (node.toSystem stage history).Unfolds
      ({ node with watcher := node.watcher.settle }.toSystem stage history) := by
  have internal : System.Action.IsInternal (.input .unregisterNext) := trivial
  exact System.unfolds_of_replicate internal (System.exists_run_unregisterNext _)

/-- What the poller has sent is handled, and whoever has been stopped is unregistered. -/
theorem unfolds_deliver (node : Node) (stage : Stage) (history : List Change) :
    (node.toSystem stage history).Unfolds (node.deliver.toSystem stage history) := by
  have internal : System.Action.IsInternal .receive := trivial
  have received : (node.toSystem stage history).Unfolds
      ({ node with
        poller := { node.poller with outbox := [] }
        watcher := node.watcher.receiveAll node.poller.outbox }.toSystem stage history) :=
    System.unfolds_of_replicate internal (System.exists_run_receive _)
  exact received.trans (unfolds_settle _ stage history)

/-- A poller runs until it rests again, and what it has sent is handled. -/
theorem exists_unfolds_rest (node : Node) {poller : Poller MemoryLog MemoryLog.Cursor} {rest : Rest}
    {flow : Option Flow} (reached : Poller.Reaches (stage, node.poller) (.resting rest, poller))
    (ended : ∀ given, flow = some given → rest = given.rest) (history : List Change) :
    let after : Node := { node with poller, polling := flow == some .serving }
    ∃ later, after.deliver.IsAt later ∧
      (node.toSystem stage history).Unfolds (after.deliver.toSystem later history) := by
  intro after
  have internal : System.Action.IsInternal .advance := trivial
  have advanced : (node.toSystem stage history).Unfolds (after.toSystem (.resting rest) history) :=
    System.unfolds_of_replicate internal (System.exists_run_advance reached)
  refine ⟨.resting rest, fun serving => ?_, advanced.trans (after.unfolds_deliver _ history)⟩
  have serves : (flow == some .serving) = true := serving
  rw [ended .serving (by simpa using serves)]
  rfl

/-- A poll that waits is served from its first stage to the rest of the poller. -/
theorem exists_unfolds_servePoll (isAt : node.IsAt stage) (history : List Change) :
    ∃ later, node.servePoll.IsAt later ∧
      (node.toSystem stage history).Unfolds (node.servePoll.toSystem later history) := by
  unfold servePoll
  split
  · next seq watcher serving taken =>
    obtain rfl := isAt serving
    obtain ⟨rest, reached, ended⟩ := node.poller.reaches_cycle seq
    have begun : (node.toSystem (.resting .idle) history).act .beginCycle =
        { node with watcher }.toSystem (.resting (.turning seq 0)) history := by
      simp only [System.act, toSystem, taken]
    have internal : System.Action.IsInternal .beginCycle := trivial
    have begins := System.unfolds_act (node.toSystem (.resting .idle) history) internal
    rw [begun] at begins
    obtain ⟨later, isAtLater, unfolds⟩ :=
      exists_unfolds_rest { node with watcher } reached ended history
    exact ⟨later, isAtLater, begins.trans unfolds⟩
  · exact ⟨stage, isAt, .refl _⟩

theorem exists_unfolds_runUntilAnswered (node : Node) (fuel : Nat) (isAt : node.IsAt stage)
    (history : List Change) :
    ∃ later, (node.runUntilAnswered fuel).IsAt later ∧
      (node.toSystem stage history).Unfolds ((node.runUntilAnswered fuel).toSystem later history) := by
  induction fuel generalizing node stage with
  | zero => exact ⟨stage, isAt, .refl _⟩
  | succ fuel ih =>
    unfold runUntilAnswered
    split
    · obtain ⟨rested, isAtRest, served⟩ := exists_unfolds_servePoll isAt history
      simp only
      split
      · -- Time passes until the next idle poll.
        have internal : System.Action.IsInternal (.input .tick) := trivial
        have ticks := System.unfolds_act (node.servePoll.toSystem rested history) internal
        obtain ⟨later, isAtLater, unfolds⟩ :=
          ih { node.servePoll with watcher := node.servePoll.watcher.tick } isAtRest
        exact ⟨later, isAtLater, served.trans (System.Unfolds.trans ticks unfolds)⟩
      · obtain ⟨later, isAtLater, unfolds⟩ := ih node.servePoll isAtRest
        exact ⟨later, isAtLater, served.trans unfolds⟩
    · exact ⟨stage, isAt, .refl _⟩

/-! ## Requests -/

/-- What is asked of a node from outside. -/
inductive Request where
  /-- Somebody edits the log. -/
  | edit (edit : MemoryLog.Edit)
  /-- Somebody asks for a sync and waits for it. -/
  | sync
  /-- The watcher is asked something. -/
  | ask (input : Watcher.Input)
  deriving DecidableEq, Repr

/-- The action with which a system begins to do what is asked. -/
def Request.toAction : Request → System.Action
  | .edit given => .edit given
  | .sync => .input .requestSync
  | .ask input => .input input

/-- The request truncates nothing, causes passing faults only, and does not end the watcher. -/
def Request.IsCalm (request : Request) : Prop :=
  request.toAction.IsCalm

/-- The request does not edit the log. -/
def Request.IsQuiet (request : Request) : Prop :=
  request.toAction.IsQuiet

/-- The request does not use the subscription. -/
def Request.Spares (id : SubscriptionId) (request : Request) : Prop :=
  request.toAction.Spares id

instance (request : Request) : Decidable request.IsCalm :=
  inferInstanceAs (Decidable request.toAction.IsCalm)

instance (request : Request) : Decidable request.IsQuiet :=
  inferInstanceAs (Decidable request.toAction.IsQuiet)

instance (id : SubscriptionId) (request : Request) : Decidable (request.Spares id) :=
  inferInstanceAs (Decidable (request.toAction.Spares id))

theorem sync_snd (node : Node) :
    let asked : Node := { node with watcher := node.watcher.requestSync }
    node.sync.2 = asked.runUntilAnswered asked.pollBound := by
  simp only [sync]
  split <;> rfl

/-- A sync succeeds when the request that it files, the last one, is answered. -/
theorem sync_eq_ok_iff (node : Node) :
    node.sync.1 = .ok () ↔ node.sync.2.watcher.desk.requests.getLast? = some .done := by
  rw [sync_snd]
  simp only [sync]
  split
  · next done => exact iff_of_true rfl done
  · next notDone => exact iff_of_false nofun notDone

instance (node : Node) : Decidable (node.sync.1 = .ok ()) :=
  decidable_of_iff _ node.sync_eq_ok_iff.symm

end Node

/-- A node together with the history of its log. -/
structure Feed where
  node : Node
  history : List Change

namespace Feed

variable {feed : Feed} {stage : Stage} {requests : List Node.Request}

/-- The feed after a request. -/
def act (feed : Feed) : Node.Request → Feed
  | .edit edit =>
    { node := feed.node.setLog (feed.node.log.edit edit)
      history := feed.history ++ (feed.node.log.committedBy? edit).toList }
  | .sync => { feed with node := feed.node.sync.2 }
  | .ask input => { feed with node := feed.node.withWatcher (feed.node.watcher.take input) }

/-- The feed after requests, in order. -/
def run (feed : Feed) (requests : List Node.Request) : Feed :=
  requests.foldl act feed

theorem run_append (feed : Feed) (first later : List Node.Request) :
    feed.run (first ++ later) = (feed.run first).run later :=
  List.foldl_append

def toSystem (feed : Feed) (stage : Stage) : System :=
  feed.node.toSystem stage feed.history

/-- **A node does what a system does** that is asked the same, and then goes on by itself. -/
theorem exists_unfolds_act (isAt : feed.node.IsAt stage) (request : Node.Request) :
    ∃ later, (feed.act request).node.IsAt later ∧
      ((feed.toSystem stage).act request.toAction).Unfolds ((feed.act request).toSystem later) := by
  cases request with
  | edit edit => exact ⟨stage, isAt, .refl _⟩
  | ask input => exact ⟨stage, isAt, Node.unfolds_settle
    { feed.node with watcher := feed.node.watcher.take input } stage feed.history⟩
  | sync =>
    let asked : Node := { feed.node with watcher := feed.node.watcher.requestSync }
    have answered := asked.exists_unfolds_runUntilAnswered asked.pollBound isAt feed.history
    rw [← Node.sync_snd] at answered
    exact answered

/-- A poller that is taken to be idle is so if it still serves polls. -/
theorem isAt_idle (feed : Feed) : feed.node.IsAt (.resting .idle) :=
  fun _ => rfl

/-- So a run of a node is a run of a system. -/
theorem exists_run (isAt : feed.node.IsAt stage) (requests : List Node.Request) :
    ∃ later actions, (feed.run requests).node.IsAt later ∧
      (feed.toSystem stage).run actions = (feed.run requests).toSystem later ∧
      ∀ action ∈ actions, action.IsInternal ∨ ∃ request ∈ requests, request.toAction = action := by
  induction requests generalizing feed stage with
  | nil => exact ⟨stage, [], isAt, rfl, nofun⟩
  | cons request rest ih =>
    obtain ⟨next, isAtNext, internals, internal, ran⟩ := exists_unfolds_act isAt request
    obtain ⟨later, actions, isAtLater, ranLater, origin⟩ := ih isAtNext
    refine ⟨later, request.toAction :: (internals ++ actions), isAtLater, ?_, ?_⟩
    · rw [System.run_cons, System.run_append, ran]
      exact ranLater
    · intro action member
      rcases List.mem_cons.mp member with rfl | member
      · exact Or.inr ⟨request, List.mem_cons_self, rfl⟩
      · rcases List.mem_append.mp member with own | other
        · exact Or.inl (internal action own)
        · refine (origin action other).imp_right ?_
          rintro ⟨asked, listed, same⟩
          exact ⟨asked, List.mem_cons_of_mem _ listed, same⟩

/-- What holds of everything that is asked, and of everything internal, holds of the whole run. -/
theorem forall_of_origin {holds : System.Action → Prop} {actions : List System.Action}
    (origin : ∀ action ∈ actions, action.IsInternal ∨ ∃ request ∈ requests, request.toAction = action)
    (internal : ∀ action : System.Action, action.IsInternal → holds action)
    (asked : ∀ request ∈ requests, holds request.toAction) : ∀ action ∈ actions, holds action := by
  intro action member
  rcases origin action member with own | ⟨request, listed, rfl⟩
  · exact internal action own
  · exact asked request listed

/-! ## Feeds in calm -/

/-- The node has known nothing but calm. -/
def IsPeaceful (feed : Feed) : Prop :=
  feed.node.watcher.hasEnded = false ∧
    ∃ stage, feed.node.IsAt stage ∧ (feed.toSystem stage).IsPeaceful

/-- The watcher knows all that was ever committed. -/
def IsCaughtUp (feed : Feed) : Prop :=
  ∀ change ∈ feed.history, feed.node.watcher.known.Knows change

theorem IsPeaceful.run (peaceful : feed.IsPeaceful) (calm : ∀ request ∈ requests, request.IsCalm) :
    (feed.run requests).IsPeaceful := by
  obtain ⟨running, stage, isAt, peaceful⟩ := peaceful
  obtain ⟨later, actions, isAtLater, ran, origin⟩ := exists_run isAt requests
  have calmly := forall_of_origin origin (fun _ internal => internal.isCalm) calm
  have runs := peaceful.running_run calmly running
  have still := peaceful.run calmly
  rw [ran] at runs still
  exact ⟨runs, later, isAtLater, still⟩

theorem IsPeaceful.act {request : Node.Request} (peaceful : feed.IsPeaceful)
    (calm : request.IsCalm) : (feed.act request).IsPeaceful :=
  peaceful.run (List.forall_mem_singleton.mpr calm)

/-- The watcher stays up to the log while nobody edits it. -/
theorem IsCaughtUp.run (caughtUp : feed.IsCaughtUp) (quiet : ∀ request ∈ requests, request.IsQuiet) :
    (feed.run requests).IsCaughtUp := by
  obtain ⟨later, actions, -, ran, origin⟩ :=
    exists_run feed.isAt_idle requests
  have before : (feed.toSystem (.resting .idle)).IsCaughtUp := caughtUp
  have still := before.run (forall_of_origin origin (fun _ internal => internal.isQuiet) quiet)
  rw [ran] at still
  exact still

/-- **A sync that succeeds brings the watcher up to the log.** -/
theorem IsPeaceful.isCaughtUp_sync (peaceful : feed.IsPeaceful) (resolved : feed.node.sync.1 = .ok ()) :
    (feed.act .sync).IsCaughtUp := by
  obtain ⟨-, stage, isAt, peaceful⟩ := peaceful
  obtain ⟨later, -, actions, internal, ran⟩ := exists_unfolds_act isAt .sync
  have filed : ((feed.act .sync).toSystem later).watcher.desk.requests.length =
      feed.node.watcher.desk.requests.length + 1 := by
    rw [← ran, System.length_requests_run internal]
    exact feed.node.watcher.length_requests_requestSync
  have done : ((feed.act .sync).toSystem later).watcher.desk.requests[
      feed.node.watcher.desk.requests.length]? = some .done := by
    have last := feed.node.sync_eq_ok_iff.mp resolved
    rw [List.getLast?_eq_getElem?] at last
    have position : feed.node.sync.2.watcher.desk.requests.length - 1 =
        feed.node.watcher.desk.requests.length := Nat.sub_eq_of_eq_add filed
    rw [position] at last
    exact last
  have caughtUp := peaceful.isCaughtUp_of_answered actions
    (fun action member => (internal action member).isCalm)
    (fun action member => (internal action member).isQuiet)
  have reached : ((feed.toSystem stage).act (.input .requestSync)).run actions =
      (feed.act .sync).toSystem later := ran
  rw [reached] at caughtUp
  exact caughtUp done

/-- What has been committed stays committed. -/
theorem history_prefix_run (feed : Feed) (requests : List Node.Request) :
    feed.history <+: (feed.run requests).history := by
  induction requests generalizing feed with
  | nil => exact List.prefix_rfl
  | cons request rest ih =>
    refine List.IsPrefix.trans ?_ (ih (feed.act request))
    cases request with
    | edit edit => exact List.prefix_append _ _
    | sync | ask _ => exact List.prefix_rfl

/-- A log that arises in calm is a log that a new system comes to before its poller does anything. -/
theorem exists_run_edits {log : MemoryLog} {history : List Change} (settings : Settings)
    (strategy : Strategy) (arises : log.Arises (fun _ edit => edit.IsCalm) history) :
    ∃ supportsSnapshots actions, (∀ action ∈ actions, action.IsCalm) ∧
      (System.start settings strategy supportsSnapshots).run actions =
        { System.start settings strategy supportsSnapshots with
          poller := Node.newPoller settings log
          history := history } := by
  induction arises with
  | new supportsSnapshots => exact ⟨supportsSnapshots, [], nofun, rfl⟩
  | @edit log history edit _ calm ih =>
    obtain ⟨supportsSnapshots, actions, calmBefore, ran⟩ := ih
    refine ⟨supportsSnapshots, actions ++ [.edit edit], fun action member => ?_, ?_⟩
    · rcases List.mem_append.mp member with old | new
      · exact calmBefore action old
      · rw [List.mem_singleton.mp new]
        exact calm
    · rw [System.run_append, ran]
      rfl

/-- A node starts with its poller in place, a snapshot taken first if there is to be one, and a
watcher that has just been started. -/
theorem eq_deliver_of_start {settings : Settings} {strategy : Option Strategy} {log : MemoryLog}
    {node : Node} (started : Node.start settings strategy log = .ok node) :
    node = if settings.watcher.primeFromSnapshot then
      { poller := (Node.newPoller settings log).prime.2
        watcher := Watcher.start (strategy.getD settings.watcher.reconcile)
        polling := (Node.newPoller settings log).prime.1 == some .serving : Node }.deliver
    else
      { poller := Node.newPoller settings log
        watcher := Watcher.start (strategy.getD settings.watcher.reconcile) : Node }.deliver := by
  unfold Node.start at started
  split at started
  · cases started
  · next sound =>
    have positive : settings.watcher.pollInterval ≠ 0 := by
      intro zero
      simp [Settings.defect?, WatcherSettings.defect?, zero] at sound
    cases made : Watcher.ofSettings settings.watcher (strategy.getD settings.watcher.reconcile) with
    | error defect =>
      rw [made] at started
      cases started
    | ok watcher =>
      have fresh : watcher = Watcher.start (strategy.getD settings.watcher.reconcile) := by
        unfold Watcher.ofSettings at made
        split at made
        · cases made
        · rw [if_neg positive] at made
          cases made
          rfl
      rw [made, fresh] at started
      cases started
      split <;> rfl

/-- What goes on inside a node is calm. -/
theorem isPeaceful_of_unfolds {first last : Node} {history : List Change} {stage later : Stage}
    (peaceful : (first.toSystem stage history).IsPeaceful)
    (running : first.watcher.hasEnded = false) (isAt : last.IsAt later)
    (unfolds : (first.toSystem stage history).Unfolds (last.toSystem later history)) :
    (Feed.mk last history).IsPeaceful := by
  obtain ⟨actions, internal, ran⟩ := unfolds
  have calm := fun action member => (internal action member).isCalm
  have runs := peaceful.running_run calm running
  have still := peaceful.run calm
  rw [ran] at runs still
  exact ⟨runs, later, isAt, still⟩

/-- **A node that starts on such a log has known nothing but calm.** -/
theorem isPeaceful_start {settings : Settings} {strategy : Option Strategy} {log : MemoryLog}
    {node : Node} {history : List Change} (arises : log.Arises (fun _ edit => edit.IsCalm) history)
    (started : Node.start settings strategy log = .ok node) : (Feed.mk node history).IsPeaceful := by
  let poller := Node.newPoller settings log
  let watcher := Watcher.start (strategy.getD settings.watcher.reconcile)
  let first : Node := { poller, watcher }
  have running : watcher.hasEnded = false := rfl
  obtain ⟨supportsSnapshots, actions, calm, ran⟩ :=
    exists_run_edits settings (strategy.getD settings.watcher.reconcile) arises
  have peaceful := (System.isPeaceful_start settings (strategy.getD settings.watcher.reconcile)
    supportsSnapshots).run calm
  rw [ran] at peaceful
  have same := eq_deliver_of_start started
  cases primes : settings.watcher.primeFromSnapshot with
  | true =>
    rw [primes, if_pos rfl] at same
    have placed : (first.toSystem (.resting (.priming 0)) history).IsPeaceful := by
      simp only [System.start, primes, if_true] at peaceful
      exact peaceful
    obtain ⟨rest, reached, ended⟩ := poller.reaches_prime
    obtain ⟨later, isAt, unfolds⟩ := Node.exists_unfolds_rest first reached ended history
    rw [same]
    exact isPeaceful_of_unfolds placed running isAt unfolds
  | false =>
    rw [primes, if_neg Bool.false_ne_true] at same
    have placed : (first.toSystem (.resting .idle) history).IsPeaceful := by
      simp only [System.start, primes, Bool.false_eq_true, if_false] at peaceful
      exact peaceful
    rw [same]
    exact isPeaceful_of_unfolds placed running (fun _ => rfl) (first.unfolds_deliver _ history)

/-! ## Exact delivery -/

variable {id : SubscriptionId} {key : WatchKey}

/-- Drained twice when the watcher was up to the log, a subscription has been given what has risen. -/
theorem IsPeaceful.mem_changes_iff (peaceful : feed.IsPeaceful) (caughtUp : feed.IsCaughtUp)
    (registered : feed.node.watcher.registry.keys[id]? = some key)
    (calm : ∀ request ∈ requests, request.IsCalm) (spares : ∀ request ∈ requests, request.Spares id)
    (caughtUpLater : ((feed.act (.ask (.changes id))).run requests).IsCaughtUp)
    (serving : ¬ ((feed.act (.ask (.changes id))).run requests).node.watcher.HasStopped id)
    (text : String) :
    let last := (feed.act (.ask (.changes id))).run requests
    text ∈ (last.node.watcher.changes id).1 ↔ ∃ document, key.covers document = true ∧
      document.id = text ∧ HasRisen feed.history last.history document := by
  intro last
  obtain ⟨running, stage, isAt, peaceful⟩ := peaceful
  obtain ⟨next, isAtNext, internals, internal, ran⟩ := exists_unfolds_act isAt (.ask (.changes id))
  obtain ⟨later, actions, -, ranLater, origin⟩ := exists_run isAtNext requests
  have whole : ((feed.toSystem stage).act (.input (.changes id))).run (internals ++ actions) =
      last.toSystem later := by
    rw [System.run_append]
    exact (congrArg (fun system => system.run actions) ran).trans ranLater
  have both : ∀ {holds : System.Action → Prop},
      (∀ action : System.Action, action.IsInternal → holds action) →
      (∀ request ∈ requests, holds request.toAction) →
      ∀ action ∈ internals ++ actions, holds action := by
    intro holds always asked action member
    rcases List.mem_append.mp member with own | other
    · exact always action (internal action own)
    · exact forall_of_origin origin always asked action other
  have delivered := System.mem_changes_iff_hasRisen peaceful (internals ++ actions) caughtUp running
    registered (both (fun _ own => own.isCalm) calm)
    (both (fun _ own => own.spares id) spares)
  rw [whole] at delivered
  exact delivered caughtUpLater serving text

/-- **Exact delivery, end to end.** Let a node be started on a log that nobody truncates and whose
faults all pass, and let it be asked anything in such calm. Let a subscription be drained after a sync
that succeeded, and again after a later one, with no edit between either sync and its drain, nobody
using the subscription between the two drains and nobody having stopped it. The second drain gives
exactly the ids of the documents under its key whose largest revision number has risen from the one
sync to the other; it is empty if nothing but replays was committed under the key. -/
theorem second_drain_is_what_has_risen {settings : Settings} {strategy : Option Strategy}
    {log : MemoryLog} {node : Node} {history : List Change}
    {before pause between later : List Node.Request}
    (arises : log.Arises (fun _ edit => edit.IsCalm) history)
    (started : Node.start settings strategy log = .ok node)
    (calm : ∀ request ∈ before ++ pause ++ between ++ later, request.IsCalm)
    (quiet : ∀ request ∈ pause ++ later, request.IsQuiet)
    (spares : ∀ request ∈ between ++ later, request.Spares id) :
    let first := (Feed.mk node history).run before
    let drained := (first.act .sync).run pause
    let second := (drained.act (.ask (.changes id))).run between
    let last := (second.act .sync).run later
    first.node.sync.1 = .ok () → second.node.sync.1 = .ok () →
    drained.node.watcher.registry.keys[id]? = some key → ¬ last.node.watcher.HasStopped id →
    (∀ text, text ∈ (last.node.watcher.changes id).1 ↔ ∃ document, key.covers document = true ∧
      document.id = text ∧ HasRisen drained.history last.history document) ∧
    ∃ more, last.history = drained.history ++ more ∧
      ((∀ change ∈ more, key.covers change.document = true →
        ∃ earlier ∈ drained.history, earlier.document = change.document ∧
          change.revno ≤ earlier.revno) →
      (last.node.watcher.changes id).1 = ∅) := by
  intro first drained second last resolved resolvedAgain registered serving
  simp only [List.forall_mem_append] at calm quiet spares
  obtain ⟨⟨⟨calmBefore, calmPause⟩, calmBetween⟩, calmLater⟩ := calm
  obtain ⟨quietPause, quietLater⟩ := quiet
  obtain ⟨sparesBetween, sparesLater⟩ := spares
  have calmSync : Node.Request.sync.IsCalm := rfl
  have calmDrain : (Node.Request.ask (.changes id)).IsCalm := rfl
  -- The watcher is up to the log at both drains.
  have peacefulFirst : first.IsPeaceful := (isPeaceful_start arises started).run calmBefore
  have peaceful : drained.IsPeaceful := (peacefulFirst.act calmSync).run calmPause
  have caughtUp : drained.IsCaughtUp := (peacefulFirst.isCaughtUp_sync resolved).run quietPause
  have peacefulSecond : second.IsPeaceful := (peaceful.act calmDrain).run calmBetween
  have caughtUpLast : last.IsCaughtUp :=
    (peacefulSecond.isCaughtUp_sync resolvedAgain).run quietLater
  -- From the one drain to the other is one run that spares the subscription.
  have whole : last = (drained.act (.ask (.changes id))).run (between ++ .sync :: later) :=
    (run_append _ between (.sync :: later)).symm
  have calmWhole : ∀ request ∈ between ++ .sync :: later, request.IsCalm :=
    List.forall_mem_append.mpr ⟨calmBetween, List.forall_mem_cons.mpr ⟨calmSync, calmLater⟩⟩
  have sparesWhole : ∀ request ∈ between ++ .sync :: later, request.Spares id :=
    List.forall_mem_append.mpr ⟨sparesBetween, List.forall_mem_cons.mpr ⟨rfl, sparesLater⟩⟩
  rw [whole] at caughtUpLast serving ⊢
  have delivered := peaceful.mem_changes_iff caughtUp registered calmWhole sparesWhole caughtUpLast
    serving
  refine ⟨delivered, ?_⟩
  obtain ⟨more, grown⟩ := (drained.act (.ask (.changes id))).history_prefix_run
    (between ++ .sync :: later)
  refine ⟨more, grown.symm, fun replays => ?_⟩
  refine Std.ExtTreeSet.eq_empty_iff_forall_not_mem.mpr fun text taken => ?_
  obtain ⟨document, covers, -, risen⟩ := (delivered text).mp taken
  rw [← grown] at risen
  refine not_hasRisen_of_replays (fun change new same => ?_) risen
  subst same
  exact replays change new covers

/-- A node over an empty log that reads one change at a time. -/
def readingSingly : Feed where
  node := { poller := Node.newPoller { watcher := { maxBatch := 1, primeFromSnapshot := false } }
              (.empty false)
            watcher := .start .snapshot : Node }.deliver
  history := []

/-- A subscriber of fruit is told of an apple. Then a pear is committed, and the apple again under the
number that it had. The second drain gives the pear only, although a read fails on the way. -/
theorem pear_is_all_that_has_risen :
    let before : List Node.Request :=
      [.ask (.watch (.collection "fruit") none), .edit (.upsert ⟨"fruit", "apple"⟩)]
    let between : List Node.Request := [.edit (.upsert ⟨"fruit", "pear"⟩),
      .edit (.append (.update ⟨"fruit", "apple"⟩ 1)), .edit (.failNextRead (.transient "down"))]
    let drained := (readingSingly.run before).act .sync
    let last := ((drained.act (.ask (.changes 1))).run between).act .sync
    "pear" ∈ (last.node.watcher.changes 1).1 ∧ "apple" ∉ (last.node.watcher.changes 1).1 := by
  intro before between drained last
  have started : Node.start { watcher := { maxBatch := 1, primeFromSnapshot := false } } none
      (.empty false) = .ok readingSingly.node := rfl
  have calm : ∀ request ∈ before ++ [] ++ between ++ [], request.IsCalm := by decide
  have quiet : ∀ request ∈ ([] ++ [] : List Node.Request), request.IsQuiet := nofun
  have spares : ∀ request ∈ between ++ [], request.Spares 1 := by decide
  have resolved : (readingSingly.run before).node.sync.1 = .ok () := by decide +kernel
  have resolvedAgain : ((drained.act (.ask (.changes 1))).run between).node.sync.1 = .ok () := by
    decide +kernel
  have registered : drained.node.watcher.registry.keys[1]? = some (.collection "fruit") := by
    decide +kernel
  have serving : ¬ last.node.watcher.HasStopped 1 := by decide +kernel
  have firstHistory : drained.history = [.update ⟨"fruit", "apple"⟩ 1] := by decide +kernel
  have lastHistory : last.history = [.update ⟨"fruit", "apple"⟩ 1, .update ⟨"fruit", "pear"⟩ 1,
      .update ⟨"fruit", "apple"⟩ 1] := by decide +kernel
  have delivered : ∀ text, text ∈ (last.node.watcher.changes 1).1 ↔ ∃ document,
      (WatchKey.collection "fruit").covers document = true ∧ document.id = text ∧
        HasRisen drained.history last.history document :=
    (second_drain_is_what_has_risen (.new false) started calm quiet spares resolved resolvedAgain
      registered serving).1
  rw [firstHistory, lastHistory] at delivered
  constructor
  · exact (delivered "pear").mpr ⟨⟨"fruit", "pear"⟩, by decide, rfl, by decide⟩
  · intro taken
    obtain ⟨⟨collection, _⟩, covers, rfl, risen⟩ := (delivered "apple").mp taken
    obtain rfl : collection = "fruit" := by simpa [WatchKey.covers] using covers
    exact absurd risen (by decide)

end Feed

end ChangeFeed
