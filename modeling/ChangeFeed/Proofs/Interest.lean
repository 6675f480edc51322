/-
# Who is interested in what

The registry answers from two indexes, and the indexes have to say exactly what the registered keys
say: `IsExact` is both directions of that, and every registration and removal keeps it. From it comes
what an event marks, in both directions as well. A subscription hears of a document when its key
covers the document and the event *reports* it, and of nothing else.
-/

import ChangeFeed.Proofs.System

namespace ChangeFeed

namespace SubscriptionIndex

variable {α : Type} [Ord α] [Std.TransOrd α] [Std.LawfulEqOrd α] {index : SubscriptionIndex α}
  {key other : α} {id added removed : SubscriptionId}

theorem mem_idsOf_add_iff :
    id ∈ (index.add other added).idsOf key ↔
      (other = key ∧ added = id) ∨ id ∈ index.idsOf key := by
  rw [mem_idsOf_iff, mem_idsOf_iff]
  unfold add
  rw [Std.ExtTreeMap.getD_insert]
  split
  · next same =>
    obtain rfl := Std.compare_eq_iff_eq.mp same
    rw [Std.ExtTreeSet.mem_insert, Std.compare_eq_iff_eq]
    simp
  · next different =>
    rw [Std.compare_eq_iff_eq] at different
    simp [different]

theorem mem_idsOf_remove_iff :
    id ∈ (index.remove other removed).idsOf key ↔
      id ∈ index.idsOf key ∧ ¬ (other = key ∧ removed = id) := by
  rw [mem_idsOf_iff, mem_idsOf_iff]
  unfold remove
  cases found : index[other]? with
  | none =>
    have absent : other = key → ¬ id ∈ index.getD key ∅ := by
      rintro rfl
      rw [Std.ExtTreeMap.getD_eq_getD_getElem?, found]
      exact Std.ExtTreeSet.not_mem_empty
    exact ⟨fun member => ⟨member, fun same => absent same.1 member⟩, And.left⟩
  | some ids =>
    have here : index.getD other ∅ = ids := by
      rw [Std.ExtTreeMap.getD_eq_getD_getElem?, found, Option.getD_some]
    have erased : id ∈ ids.erase removed ↔ id ∈ ids ∧ ¬ removed = id := by
      rw [Std.ExtTreeSet.mem_erase, and_comm]
      simp
    by_cases same : other = key
    · subst same
      rw [here]
      by_cases empty : (ids.erase removed).isEmpty
      · have gone : id ∉ ids.erase removed := by
          rw [Std.ExtTreeSet.isEmpty_iff.mp empty]
          exact Std.ExtTreeSet.not_mem_empty
        simp only [empty, if_true]
        rw [Std.ExtTreeMap.getD_erase, if_pos Std.ReflCmp.compare_self]
        simpa [Std.ExtTreeSet.not_mem_empty] using mt erased.mpr gone
      · simp only [empty, if_false, Bool.false_eq_true]
        rw [Std.ExtTreeMap.getD_insert, if_pos Std.ReflCmp.compare_self, erased]
        simp
    · have elsewhere : ¬ compare other key = .eq := fun equal => same (Std.compare_eq_iff_eq.mp equal)
      by_cases empty : (ids.erase removed).isEmpty
      · simp only [empty, if_true]
        rw [Std.ExtTreeMap.getD_erase, if_neg elsewhere]
        simp [same]
      · simp only [empty, if_false, Bool.false_eq_true]
        rw [Std.ExtTreeMap.getD_insert, if_neg elsewhere]
        simp [same]

/-- An index lists under its keys whom it holds there. -/
theorem exists_mem_toList_iff :
    (∃ ids, (key, ids) ∈ index.toList ∧ id ∈ ids) ↔ id ∈ index.idsOf key := by
  rw [mem_idsOf_iff, Std.ExtTreeMap.getD_eq_getD_getElem?]
  simp only [Std.ExtTreeMap.mem_toList_iff_getElem?_eq_some]
  cases index[key]? with
  | none => simp
  | some ids => simp

end SubscriptionIndex

namespace Registry

variable {registry after : Registry} {id : SubscriptionId} {key : WatchKey}

/-- The indexes say what the keys say. -/
structure IsExact (registry : Registry) : Prop where
  byKey : ∀ id key, id ∈ SubscriptionIndex.idsOf registry.byKey key ↔ registry.keys[id]? = some key
  entities : ∀ id name, id ∈ SubscriptionIndex.idsOf registry.entitiesByCollection name ↔
    ∃ document, registry.keys[id]? = some (.entity document) ∧ document.collection = name

theorem isExact_empty : ({} : Registry).IsExact where
  byKey id key := by simp [SubscriptionIndex.mem_idsOf_iff]
  entities id name := by simp [SubscriptionIndex.mem_idsOf_iff]

/-- A new subscription is registered under its key, and nobody else's registration changes. -/
theorem IsExact.insert (exact : registry.IsExact) (unused : registry.keys[id]? = none)
    (key : WatchKey) : (registry.insert id key).IsExact where
  byKey other watched := by
    simp only [Registry.insert]
    rw [SubscriptionIndex.mem_idsOf_add_iff, Std.ExtTreeMap.getElem?_insert, exact.byKey]
    by_cases same : id = other
    · subst same
      simp [unused]
    · simp [same]
  entities other name := by
    simp only [Registry.insert, Std.ExtTreeMap.getElem?_insert, Std.compare_eq_iff_eq]
    cases key with
    | collection watched =>
      rw [exact.entities]
      by_cases same : id = other
      · subst same
        simp [unused]
      · simp [same]
    | entity watched =>
      rw [SubscriptionIndex.mem_idsOf_add_iff, exact.entities]
      by_cases same : id = other
      · subst same
        simp [unused]
      · simp [same]

/-- A removal takes one subscription out of every index, and nobody else. -/
theorem IsExact.remove (exact : registry.IsExact) (removed : registry.remove? id = some after) :
    after.IsExact := by
  obtain ⟨key, registered, rfl⟩ := Option.map_eq_some_iff.mp removed
  refine ⟨fun other watched => ?_, fun other name => ?_⟩
  · simp only [Std.ExtTreeMap.getElem?_erase, Std.compare_eq_iff_eq]
    rw [SubscriptionIndex.mem_idsOf_remove_iff, exact.byKey]
    by_cases same : id = other
    · subst same
      simp [registered]
    · simp [same]
  · simp only [Std.ExtTreeMap.getElem?_erase, Std.compare_eq_iff_eq]
    cases key with
    | collection watched =>
      rw [exact.entities]
      by_cases same : id = other
      · subst same
        simp [registered]
      · simp [same]
    | entity watched =>
      rw [SubscriptionIndex.mem_idsOf_remove_iff, exact.entities]
      by_cases same : id = other
      · subst same
        simp [registered]
      · simp [same]

/-- **Interested in a document are those whose key covers it.** -/
theorem IsExact.mem_matching_iff (exact : registry.IsExact) {document : Document} :
    id ∈ registry.matching document ↔
      ∃ key, registry.keys[id]? = some key ∧ key.covers document = true := by
  rw [matching, List.mem_filter, List.mem_append, exact.byKey, exact.byKey,
    Std.ExtTreeMap.contains_eq_isSome_getElem?]
  constructor
  · rintro ⟨listed | listed, -⟩
    · exact ⟨_, listed, by simp [WatchKey.covers]⟩
    · exact ⟨_, listed, by simp [WatchKey.covers]⟩
  · rintro ⟨key, registered, covers⟩
    rw [registered]
    cases key with
    | collection name =>
      have same : document.collection = name := by simpa [WatchKey.covers] using covers
      simp [same]
    | entity watched =>
      have same : document = watched := by simpa [WatchKey.covers] using covers
      simp [same]

/-- Watching single documents are those whose key is a document. -/
theorem IsExact.mem_entities_iff (exact : registry.IsExact) {watched : String} :
    (id, watched) ∈ registry.entities ↔
      ∃ document, registry.keys[id]? = some (.entity document) ∧ document.id = watched := by
  have looked : registry.watchedId? id = some watched ↔
      ∃ document, registry.keys[id]? = some (.entity document) ∧ document.id = watched := by
    unfold watchedId?
    split
    · next document registered => simp [registered]
    · next other =>
      refine ⟨nofun, ?_⟩
      rintro ⟨document, registered, -⟩
      exact absurd registered (other document)
  constructor
  · intro listed
    obtain ⟨⟨name, ids⟩, -, inside⟩ := List.mem_flatMap.mp listed
    obtain ⟨found, -, pair⟩ := List.mem_filterMap.mp inside
    obtain ⟨text, held, same⟩ := Option.map_eq_some_iff.mp pair
    cases same
    exact looked.mp held
  · rintro ⟨document, registered, same⟩
    have indexed := (exact.entities id document.collection).mpr ⟨document, registered, rfl⟩
    obtain ⟨ids, listed, member⟩ := SubscriptionIndex.exists_mem_toList_iff.mpr indexed
    refine List.mem_flatMap.mpr ⟨(document.collection, ids), listed, ?_⟩
    refine List.mem_filterMap.mpr ⟨id, Std.ExtTreeSet.mem_toList.mpr member, ?_⟩
    rw [looked.mpr ⟨document, registered, same⟩]
    rfl

end Registry

/-- A key and an id determine the document. -/
theorem WatchKey.eq_of_covers {key : WatchKey} {first second : Document}
    (one : key.covers first = true) (other : key.covers second = true) (same : first.id = second.id) :
    first = second := by
  cases key with
  | entity watched =>
    have one : first = watched := by simpa [covers] using one
    have other : second = watched := by simpa [covers] using other
    rw [one, other]
  | collection name =>
    have one : first.collection = name := by simpa [covers] using one
    have other : second.collection = name := by simpa [covers] using other
    cases first
    cases second
    simp_all

/-! ## What is reported -/

namespace Watcher

variable {watcher : Watcher} {event : Event} {id : SubscriptionId} {key : WatchKey}
  {document : Document}

/-- An event reports a document to a subscription under a key that covers it. -/
def Reports (watcher : Watcher) (event : Event) (key : WatchKey) (document : Document) : Prop :=
  match event with
  | .primed changes | .batch changes => document ∈ watcher.known.newsIn changes
  | .discontinuity snapshot =>
    let plan := (watcher.knownState.reconcile watcher.strategy snapshot).1
    document ∈ plan.suspects ∨ plan.allWatchedEntities = true ∧ key = .entity document
  | .cycleComplete _ | .cycleAborted _ _ | .fatal _ => False

theorem mem_marksOfNews_iff {registry : Registry} {known : Revisions} {changes : List Change}
    {text : String} :
    (id, text) ∈ marksOfNews registry known changes ↔
      ∃ document ∈ known.newsIn changes, id ∈ registry.matching document ∧ document.id = text := by
  constructor
  · intro marked
    induction changes generalizing known with
    | nil => cases marked
    | cons change rest ih =>
      have later : (id, text) ∈ marksOfNews registry (known.observe change) rest →
          ∃ document ∈ known.newsIn (change :: rest),
            id ∈ registry.matching document ∧ document.id = text := by
        intro marked
        obtain ⟨document, news, matching, same⟩ := ih marked
        refine ⟨document, ?_, matching, same⟩
        by_cases isNews : known.isNews change = true <;> simp [Revisions.newsIn, isNews, news]
      rcases List.mem_append.mp marked with first | rest
      · by_cases isNews : known.isNews change = true
        · rw [if_pos isNews] at first
          obtain ⟨found, matching, same⟩ := List.mem_map.mp first
          cases same
          exact ⟨change.document, by simp [Revisions.newsIn, isNews], matching, rfl⟩
        · rw [if_neg isNews] at first
          cases first
      · exact later rest
  · rintro ⟨document, news, matching, rfl⟩
    exact mem_marksOfNews news matching

/-- **A subscription hears of what the event reports, under its key, and of nothing else.** -/
theorem mem_marksOf_iff_exists (exact : watcher.registry.IsExact)
    (registered : watcher.registry.keys[id]? = some key) {text : String} :
    (id, text) ∈ watcher.marksOf event ↔ ∃ document, key.covers document = true ∧
      document.id = text ∧ watcher.Reports event key document := by
  have matching : ∀ document : Document,
      id ∈ watcher.registry.matching document ↔ key.covers document = true := by
    intro document
    simp only [exact.mem_matching_iff, registered, Option.some.injEq, exists_eq_left']
  have news : ∀ changes, (id, text) ∈ marksOfNews watcher.registry watcher.known changes ↔
      ∃ document, key.covers document = true ∧ document.id = text ∧
        document ∈ watcher.known.newsIn changes := by
    intro changes
    simp only [mem_marksOfNews_iff, matching]
    exact exists_congr fun document =>
      ⟨fun ⟨news, covers, same⟩ => ⟨covers, same, news⟩, fun ⟨covers, same, news⟩ => ⟨news, covers, same⟩⟩
  cases event with
  | primed changes | batch changes => exact news changes
  | discontinuity snapshot =>
    have entities : (id, text) ∈ watcher.registry.entities ↔
        ∃ document, key.covers document = true ∧ document.id = text ∧ key = .entity document := by
      rw [exact.mem_entities_iff, registered]
      constructor
      · rintro ⟨document, held, same⟩
        cases held
        exact ⟨document, by simp [WatchKey.covers], same, rfl⟩
      · rintro ⟨document, -, same, rfl⟩
        exact ⟨document, rfl, same⟩
    have suspected : ∀ suspects : DocumentSet,
        (id, text) ∈ suspects.toList.flatMap (marksFor watcher.registry) ↔
          ∃ document, key.covers document = true ∧ document.id = text ∧ document ∈ suspects := by
      intro suspects
      constructor
      · intro marked
        obtain ⟨document, listed, pair⟩ := List.mem_flatMap.mp marked
        obtain ⟨found, interested, same⟩ := List.mem_map.mp pair
        obtain ⟨rfl, sameId⟩ := Prod.mk.inj same
        exact ⟨document, (matching document).mp interested, sameId, Std.ExtTreeSet.mem_toList.mp listed⟩
      · rintro ⟨document, covers, rfl, member⟩
        apply List.mem_flatMap.mpr ⟨document, Std.ExtTreeSet.mem_toList.mpr member, _⟩
        exact List.mem_map.mpr ⟨id, (matching document).mpr covers, rfl⟩
    simp only [marksOf, Reports, List.mem_append, suspected]
    split
    · next all => simp only [entities, all, true_and, and_or_left, exists_or]
    · next few => simp [few]
  | cycleComplete _ | cycleAborted _ _ | fatal _ => simp [marksOf, Reports]

/-- A subscription hears of a document that its key covers exactly when the event reports it. -/
theorem mem_marksOf_iff (exact : watcher.registry.IsExact)
    (registered : watcher.registry.keys[id]? = some key) (covers : key.covers document = true) :
    (id, document.id) ∈ watcher.marksOf event ↔ watcher.Reports event key document := by
  rw [mem_marksOf_iff_exists exact registered]
  constructor
  · rintro ⟨other, covered, same, reports⟩
    rwa [key.eq_of_covers covers covered same.symm]
  · intro reports
    exact ⟨document, covers, rfl, reports⟩

/-- What is reported to subscriptions of a collection is known afterwards. -/
theorem mem_of_reports {name : String} (reports : watcher.Reports event (.collection name) document) :
    document ∈ watcher.known.observeAll event.changes := by
  cases event with
  | primed changes | batch changes => exact Revisions.mem_of_mem_newsIn reports
  | discontinuity snapshot =>
    exact KnownState.mem_of_mem_suspects (reports.resolve_right fun single => nomatch single.2)
  | cycleComplete _ | cycleAborted _ _ | fatal _ => cases reports

/-- Without a snapshot every known document is reported, and every document that is watched singly. -/
theorem reports_discontinuity_none
    (held : key = .entity document ∨ document ∈ watcher.known) :
    watcher.Reports (.discontinuity none) key document := by
  rcases held with single | member
  · refine Or.inr ⟨?_, single⟩
    cases watcher.strategy <;> rfl
  · exact Or.inl (KnownState.mem_suspects_of_mem member watcher.strategy)

/-! ## Exact registries -/

/-- Whoever is registered has an id that has been given out. -/
theorem Orderly.lt_nextId (orderly : watcher.Orderly)
    (registered : watcher.registry.keys[id]? = some key) : id < watcher.nextId :=
  orderly.fresh id (orderly.present id key registered)

theorem registry_issue (watcher : Watcher) (poll : Option Nat) :
    (watcher.issue poll).registry = watcher.registry := by
  cases poll with
  | none => rfl
  | some seq =>
    simp only [Watcher.issue]
    split <;> rfl

/-- **Every input keeps the registry exact.** -/
theorem isExact_take (exact : watcher.registry.IsExact)
    (orderly : watcher.hasEnded = false → watcher.Orderly) (input : Input) :
    (watcher.take input).registry.IsExact := by
  cases input with
  | tick =>
    simp only [take, tick]
    split
    · exact exact
    · rw [registry_issue]
      exact exact
  | requestSync =>
    simp only [take, requestSync]
    split
    · exact exact
    · rw [registry_issue]
      exact exact
  | giveUp _ | abandonPolls => exact exact
  | watch key since =>
    simp only [take, watch]
    split
    · exact exact
    · next running =>
      split
      · exact exact
      · refine exact.insert ?_ key
        cases used : watcher.registry.keys[watcher.nextId]? with
        | none => rfl
        | some other =>
          have older := (orderly (by simpa using running)).lt_nextId used
          exact absurd older (Nat.lt_irrefl _)
  | unregisterNext =>
    simp only [take, unregisterNext]
    split
    · exact exact
    · unfold Watcher.unregister
      split
      · exact exact
      · next removed => exact exact.remove removed
  | stop id | drop id | changes id | next id | streamNext id =>
    simp only [take, stop, drop, changes, next, streamNext]
    split <;> exact exact
  | shutDown | readerLost =>
    simp only [take, shutDown, readerLost]
    split
    · exact exact
    · exact Registry.isExact_empty

/-- **Neither does an event make it inexact.** -/
theorem isExact_receive (exact : watcher.registry.IsExact) (event : Event) :
    (watcher.receive event).registry.IsExact := by
  cases ended : watcher.hasEnded with
  | true =>
    have still : watcher.receive event = watcher := if_pos ended
    rwa [still]
  | false =>
    by_cases isAboutLog : event.isAboutLog = true
    · obtain ⟨metrics, received⟩ := receive_eq ended event isAboutLog
      rw [received]
      exact exact
    · cases event with
      | primed _ | batch _ | discontinuity _ => exact absurd rfl isAboutLog
      | cycleComplete seq =>
        simp only [receive, ended, Bool.false_eq_true, if_false]
        rw [registry_issue]
        exact exact
      | cycleAborted seq reason =>
        simp only [receive, ended, Bool.false_eq_true, if_false]
        exact exact
      | fatal reason =>
        simp only [receive, ended, Bool.false_eq_true, if_false]
        exact Registry.isExact_empty

end Watcher

namespace System

/-- **The registry of a system stays exact.** -/
theorem isExact_act {system : System} (exact : system.watcher.registry.IsExact) (sound : system.IsSound)
    (action : Action) : (system.act action).watcher.registry.IsExact := by
  rcases act_watcher_cases system action with same | same | ⟨event, _, _, _, same⟩ | ⟨input, -, same⟩
  · rw [same]
    exact exact
  · rw [same]
    exact exact
  · rw [same]
    exact Watcher.isExact_receive exact event
  · rw [same]
    exact Watcher.isExact_take exact sound.orderly input

end System

end ChangeFeed
