/-
# The table of known revisions

A watcher keeps known revisions collection by collection, and counts the documents beside them. What is
known can be read as one table of revisions, and every operation does to that table what the table's own
operation does: a change is news to the one exactly if it is news to the other, and both take it in. So
what is said of tables holds of known revisions.

The count agrees with the collections as long as changes have come in one by one (`IsSound`), and then
known revisions are determined by their table.

The central fact about reconciliation is the last one. Whatever the strategy, a document about which
something is learned is one that the strategy suspects, so no advance goes unreported.
-/

import ChangeFeed.Proofs.Replay

namespace ChangeFeed

namespace KnownState

variable {known other : KnownState} {change : Change} {changes : List Change} {document : Document}
  {revision : Revision}

/-- What is known as one table of documents. -/
def revisions (known : KnownState) : Revisions :=
  Std.ExtTreeMap.ofList known.docs

/-! ## Documents -/

theorem mem_docs_iff : (document, revision) ∈ known.docs ↔ known.get? document = some revision := by
  obtain ⟨collection, id⟩ := document
  simp only [docs, get?, List.mem_flatMap, List.mem_map, Prod.exists, Prod.mk.injEq, Document.mk.injEq,
    Option.bind_eq_some_iff, Std.ExtTreeMap.mem_toList_iff_getElem?_eq_some]
  constructor
  · rintro ⟨_, documents, there, _, _, held, ⟨rfl, rfl⟩, rfl⟩
    exact ⟨documents, there, held⟩
  · rintro ⟨documents, there, held⟩
    exact ⟨collection, documents, there, id, revision, held, ⟨rfl, rfl⟩, rfl⟩

/-- **Every document is listed once.** -/
theorem nodup_docs (known : KnownState) : known.docs.Pairwise fun first second => first.1 ≠ second.1 := by
  refine List.pairwise_flatMap.mpr ⟨fun ⟨collection, documents⟩ _ => ?_, ?_⟩
  · refine List.pairwise_map.mpr (Std.ExtTreeMap.distinct_keys_toList.imp fun apart same => apart ?_)
    exact Std.compare_eq_iff_eq.mpr (congrArg Document.id same)
  · refine Std.ExtTreeMap.distinct_keys_toList.imp fun apart => ?_
    intro first inFirst second inSecond same
    obtain ⟨_, -, rfl⟩ := List.mem_map.mp inFirst
    obtain ⟨_, -, rfl⟩ := List.mem_map.mp inSecond
    exact apart (Std.compare_eq_iff_eq.mpr (congrArg Document.collection same))

/-- **The table holds what is known.** -/
theorem getElem?_revisions (known : KnownState) (document : Document) :
    known.revisions[document]? = known.get? document := by
  have distinct : known.docs.Pairwise fun first second => ¬ compare first.1 second.1 = .eq :=
    known.nodup_docs.imp fun apart same => apart (Std.compare_eq_iff_eq.mp same)
  cases held : known.get? document with
  | some revision =>
    exact Std.ExtTreeMap.getElem?_ofList_of_mem Std.ReflCmp.compare_self distinct (mem_docs_iff.mpr held)
  | none =>
    apply Std.ExtTreeMap.getElem?_ofList_of_contains_eq_false
    rw [List.contains_eq_mem, decide_eq_false_iff_not, List.mem_map]
    rintro ⟨⟨_, revision⟩, listed, rfl⟩
    exact Option.some_ne_none revision ((mem_docs_iff.mp listed).symm.trans held)

/-- The documents of the list, each of which stands there once. -/
theorem mem_documents_iff : document ∈ known.documents ↔ (known.get? document).isSome = true := by
  rw [documents, List.mem_map, Option.isSome_iff_exists]
  constructor
  · rintro ⟨⟨_, revision⟩, listed, rfl⟩
    exact ⟨revision, mem_docs_iff.mp listed⟩
  · rintro ⟨revision, held⟩
    exact ⟨(document, revision), mem_docs_iff.mpr held, rfl⟩

theorem mem_documents_iff_mem : document ∈ known.documents ↔ document ∈ known.revisions := by
  rw [mem_documents_iff, Std.ExtTreeMap.mem_iff_isSome_getElem?, getElem?_revisions]

theorem nodup_documents (known : KnownState) : known.documents.Nodup :=
  List.pairwise_map.mpr known.nodup_docs

theorem get?_empty (document : Document) : get? {} document = none := by
  rw [get?, Std.ExtTreeMap.getElem?_empty, Option.bind_none]

theorem revisions_empty : revisions {} = ∅ := by
  apply Std.ExtTreeMap.ext_getElem?
  intro document
  rw [getElem?_revisions, get?_empty, Std.ExtTreeMap.getElem?_empty]

/-! ## Changes -/

theorem getD_collections (known : KnownState) (collection id : String) :
    (known.collections.getD collection ∅)[id]? = known.get? ⟨collection, id⟩ := by
  rw [get?, Std.ExtTreeMap.getD_eq_getD_getElem?]
  cases known.collections[collection]? with
  | none => exact Std.ExtTreeMap.getElem?_empty
  | some documents => rfl

/-- What is put in is found, and nothing else changes. -/
theorem get?_put (known : KnownState) (change : Change) (document : Document) :
    (known.put change).get? document =
      if change.document = document then some change.revision else known.get? document := by
  obtain ⟨⟨collection, id⟩, revno, removed⟩ := change
  obtain ⟨otherCollection, otherId⟩ := document
  simp only [get?, put, Std.ExtTreeMap.getElem?_insert, Std.compare_eq_iff_eq, Document.mk.injEq]
  by_cases sameCollection : collection = otherCollection
  · subst sameCollection
    simp only [if_true, true_and, Option.bind_some, Std.ExtTreeMap.getElem?_insert,
      Std.compare_eq_iff_eq, getD_collections]
    rfl
  · simp only [sameCollection, if_false, false_and]

theorem observe_of_unknown (unknown : known.get? change.document = none) :
    known.observe change = (true, { known.put change with size := known.size + 1 }) := by
  simp only [observe, unknown]

/-- A replay changes nothing. -/
theorem observe_of_le (held : known.get? change.document = some revision)
    (replayed : change.revno ≤ revision.revno) : known.observe change = (false, known) := by
  simp only [observe, held, if_pos replayed]

/-- A later revision takes the place of the one before. -/
theorem observe_of_lt (held : known.get? change.document = some revision)
    (later : revision.revno < change.revno) : known.observe change = (true, known.put change) := by
  simp only [observe, held, if_neg (Int64.not_le.mpr later)]

/-- **A change is news exactly if it is news to the table.** -/
theorem isNews_revisions (known : KnownState) (change : Change) :
    known.revisions.isNews change = (known.observe change).1 := by
  rw [Revisions.isNews, getElem?_revisions]
  cases held : known.get? change.document with
  | none => rw [observe_of_unknown held]
  | some revision =>
    by_cases later : revision.revno < change.revno
    · rw [observe_of_lt held later]
      exact decide_eq_true later
    · rw [observe_of_le held (Int64.not_lt.mp later)]
      exact decide_eq_false later

/-- What the table knows changes nothing. -/
theorem observe_of_knows (knows : known.revisions.Knows change) : known.observe change = (false, known) := by
  obtain ⟨revision, held, replayed⟩ := Revisions.knows_iff.mp knows
  exact observe_of_le (getElem?_revisions known _ ▸ held) replayed

/-- **The table takes a change in as the collections do.** -/
theorem revisions_observe (known : KnownState) (change : Change) :
    (known.observe change).2.revisions = known.revisions.observe change := by
  apply Std.ExtTreeMap.ext_getElem?
  intro document
  rw [getElem?_revisions, Revisions.getElem?_observe, isNews_revisions, getElem?_revisions]
  cases held : known.get? change.document with
  | none =>
    rw [observe_of_unknown held]
    simp only [and_true]
    exact get?_put known change document
  | some revision =>
    by_cases later : revision.revno < change.revno
    · rw [observe_of_lt held later]
      simpa using get?_put known change document
    · rw [observe_of_le held (Int64.not_lt.mp later)]
      simp

theorem observeAll_append (known : KnownState) (first second : List Change) :
    known.observeAll (first ++ second) = (known.observeAll first).observeAll second :=
  List.foldl_append

theorem revisions_observeAll (known : KnownState) (changes : List Change) :
    (known.observeAll changes).revisions = known.revisions.observeAll changes := by
  induction changes generalizing known with
  | nil => rfl
  | cons change rest ih =>
    show ((known.observe change).2.observeAll rest).revisions =
      (known.revisions.observe change).observeAll rest
    rw [ih, revisions_observe]

/-- What has been seen is no news again, and changes nothing. -/
theorem observeAll_of_knows (knows : ∀ change ∈ changes, known.revisions.Knows change) :
    known.observeAll changes = known := by
  induction changes with
  | nil => rfl
  | cons change rest ih =>
    obtain ⟨now, later⟩ := List.forall_mem_cons.mp knows
    show (known.observe change).2.observeAll rest = known
    rw [observe_of_knows now]
    exact ih later

theorem observeEach_eq (known : KnownState) (changes : List Change) :
    known.observeEach changes = (known.revisions.newsIn changes, known.observeAll changes) := by
  induction changes generalizing known with
  | nil => rfl
  | cons change rest ih =>
    show (if (known.observe change).1 then ((known.observe change).2.observeEach rest).1.insert _
      else ((known.observe change).2.observeEach rest).1,
      ((known.observe change).2.observeEach rest).2) = _
    rw [ih, Revisions.newsIn_cons, isNews_revisions, revisions_observe]
    rfl

/-! ## The count -/

/-- The documents are counted, and no collection is empty. -/
structure IsSound (known : KnownState) : Prop where
  counted : known.size = known.documents.length
  filled : ∀ (collection : String), known.collections[collection]? ≠ some ∅

theorem isSound_empty : IsSound {} where
  counted := by
    have none : documents {} = [] := by
      apply List.eq_nil_iff_forall_not_mem.mpr
      intro document listed
      rw [mem_documents_iff, get?_empty] at listed
      exact Bool.false_ne_true listed
    rw [none]
    rfl
  filled collection := by
    rw [Std.ExtTreeMap.getElem?_empty]
    exact (Option.some_ne_none ∅).symm

/-- What is put in counts as one document if there was none. -/
theorem perm_documents_put (known : KnownState) (change : Change) :
    (known.put change).documents.Perm
      (if (known.get? change.document).isSome then known.documents
      else change.document :: known.documents) := by
  have member : ∀ document, document ∈ (known.put change).documents ↔
      document = change.document ∨ document ∈ known.documents := by
    intro document
    rw [mem_documents_iff, mem_documents_iff, get?_put]
    by_cases same : change.document = document
    · simp [same]
    · simp [same, Ne.symm same]
  split
  case isTrue held =>
    refine (List.perm_ext_iff_of_nodup (nodup_documents _) (nodup_documents _)).mpr fun document => ?_
    rw [member]
    exact or_iff_right_of_imp fun same => mem_documents_iff.mpr (same ▸ held)
  case isFalse unknown =>
    have fresh : change.document ∉ known.documents := mt mem_documents_iff.mp unknown
    refine (List.perm_ext_iff_of_nodup (nodup_documents _)
      (List.nodup_cons.mpr ⟨fresh, nodup_documents _⟩)).mpr fun document => ?_
    rw [member, List.mem_cons]

theorem filled_put (filled : ∀ (collection : String), known.collections[collection]? ≠ some ∅)
    (change : Change) (collection : String) : (known.put change).collections[collection]? ≠ some ∅ := by
  simp only [put, Std.ExtTreeMap.getElem?_insert]
  split
  · exact fun none => Std.ExtTreeMap.insert_ne_empty (Option.some.inj none)
  · exact filled collection

/-- **The count stays right, whatever comes in.** -/
theorem IsSound.observe (sound : known.IsSound) (change : Change) :
    (known.observe change).2.IsSound := by
  have documents := known.perm_documents_put change
  cases held : known.get? change.document with
  | none =>
    rw [observe_of_unknown held]
    refine ⟨?_, filled_put sound.filled change⟩
    show known.size + 1 = (known.put change).documents.length
    rw [documents.length_eq, held, sound.counted]
    rfl
  | some revision =>
    by_cases later : revision.revno < change.revno
    · rw [observe_of_lt held later]
      refine ⟨?_, filled_put sound.filled change⟩
      show known.size = (known.put change).documents.length
      rw [documents.length_eq, held, sound.counted]
      rfl
    · rwa [observe_of_le held (Int64.not_lt.mp later)]

theorem IsSound.observeAll (sound : known.IsSound) (changes : List Change) :
    (known.observeAll changes).IsSound := by
  induction changes generalizing known with
  | nil => exact sound
  | cons change rest ih => exact ih (sound.observe change)

/-- **Known revisions are determined by their table.** -/
theorem IsSound.ext (sound : known.IsSound) (otherSound : other.IsSound)
    (same : known.revisions = other.revisions) : known = other := by
  have held : ∀ document, known.get? document = other.get? document := by
    intro document
    rw [← getElem?_revisions, ← getElem?_revisions, same]
  have size : known.size = other.size := by
    rw [sound.counted, otherSound.counted]
    refine List.Perm.length_eq
      ((List.perm_ext_iff_of_nodup (nodup_documents _) (nodup_documents _)).mpr fun document => ?_)
    rw [mem_documents_iff, mem_documents_iff, held]
  have inside : ∀ (collection id : String),
      (known.collections.getD collection ∅)[id]? = (other.collections.getD collection ∅)[id]? := by
    intro collection id
    rw [getD_collections, getD_collections, held]
  have collections : known.collections = other.collections := by
    apply Std.ExtTreeMap.ext_getElem?
    intro collection
    have documents := Std.ExtTreeMap.ext_getElem? (inside collection)
    rw [Std.ExtTreeMap.getD_eq_getD_getElem?, Std.ExtTreeMap.getD_eq_getD_getElem?] at documents
    have here := sound.filled collection
    have there := otherSound.filled collection
    cases first : known.collections[collection]? <;> cases second : other.collections[collection]? <;>
      simp_all
  show KnownState.mk known.collections known.size = _
  rw [collections, size]

/-- Changes that make the same table make the same known revisions. -/
theorem observeAll_empty_congr {first second : List Change}
    (same : Revisions.observeAll ∅ first = Revisions.observeAll ∅ second) :
    observeAll {} first = observeAll {} second := by
  apply (isSound_empty.observeAll first).ext (isSound_empty.observeAll second)
  rw [revisions_observeAll, revisions_observeAll, revisions_empty, same]

/-! ## Reconciliation -/

/-- Either strategy takes in exactly the snapshot. -/
theorem reconcile_known (known : KnownState) (strategy : Strategy) (snapshot : Option Snapshot) :
    (known.reconcile strategy snapshot).2 = known.observeAll (Revisions.broughtBy snapshot) := by
  have precise : ∀ snapshot : Snapshot,
      (known.reconcilePrecise snapshot).2 = known.observeAll snapshot.changes := by
    intro snapshot
    rw [reconcilePrecise, observeEach_eq]
  cases strategy <;> cases snapshot <;> first | rfl | exact precise _

theorem get?_reconcile (known : KnownState) (strategy : Strategy) (snapshot : Option Snapshot)
    (document : Document) : (known.reconcile strategy snapshot).2.get? document =
      (known.revisions.observeAll (Revisions.broughtBy snapshot))[document]? := by
  rw [reconcile_known, ← getElem?_revisions, revisions_observeAll]

theorem mem_liveOutside_iff {present : DocumentSet} :
    document ∈ known.liveOutside present ↔
      ∃ revision, known.get? document = some revision ∧ revision.removed = false ∧
        document ∉ present := by
  simp only [liveOutside, List.mem_map, List.mem_filter, Bool.and_eq_true, Bool.not_eq_true', Prod.exists,
    mem_docs_iff, Std.ExtTreeSet.mem_iff_contains, Bool.not_eq_true]
  constructor
  · rintro ⟨_, revision, ⟨held, live, outside⟩, rfl⟩
    exact ⟨revision, held, live, outside⟩
  · rintro ⟨revision, held, live, outside⟩
    exact ⟨document, revision, ⟨held, live, outside⟩, rfl⟩

/-- The blanket strategy suspects everything that is known afterwards. -/
theorem mem_suspects_reconcileBlanket_iff {snapshot : Option Snapshot} :
    document ∈ (known.reconcileBlanket snapshot).1.suspects ↔
      document ∈ known.revisions.observeAll (Revisions.broughtBy snapshot) := by
  rw [← revisions_observeAll, ← mem_documents_iff_mem]
  cases snapshot <;> simp [reconcileBlanket, Revisions.broughtBy, observeAll]

/-- The precise strategy suspects what the snapshot has news of and what it lacks. -/
theorem mem_suspects_reconcilePrecise_iff {snapshot : Snapshot} :
    document ∈ (known.reconcilePrecise snapshot).1.suspects ↔
      document ∈ known.revisions.newsIn snapshot.changes ∨
        document ∈ (known.observeAll snapshot.changes).liveOutside (documentsOf snapshot.changes) := by
  rw [reconcilePrecise, observeEach_eq]
  simp [Std.ExtTreeSet.mem_insertMany_list]

/-- **No advance goes unreported.** Whichever strategy reconciles, a document about which something
is learned is suspected. -/
theorem mem_suspects_of_learned {strategy : Strategy} {snapshot : Option Snapshot}
    (unknown : ¬ known.revisions.Knows change)
    (learned : (known.revisions.observeAll (Revisions.broughtBy snapshot)).Knows change) :
    change.document ∈ (known.reconcile strategy snapshot).1.suspects := by
  have blanket : change.document ∈ (known.reconcileBlanket snapshot).1.suspects :=
    mem_suspects_reconcileBlanket_iff.mpr learned.mem
  match strategy, snapshot with
  | .snapshot, none => exact blanket
  | .assumeChanged, _ => exact blanket
  | .snapshot, some snapshot =>
    exact mem_suspects_reconcilePrecise_iff.mpr (Or.inl (Revisions.mem_newsIn_of_learned unknown learned))

/-- News that comes with a discontinuity is suspected, whatever the strategy. -/
theorem mem_suspects_of_mem_newsIn {snapshot : Option Snapshot} (strategy : Strategy)
    (news : document ∈ known.revisions.newsIn (Revisions.broughtBy snapshot)) :
    document ∈ (known.reconcile strategy snapshot).1.suspects := by
  obtain ⟨change, listed, rfl, unknown⟩ := Revisions.mem_newsIn_iff.mp news
  exact mem_suspects_of_learned unknown (Revisions.knows_observeAll_of_mem _ listed)

/-- A document that is suspected is known once the reconciliation is done. -/
theorem mem_of_mem_suspects {strategy : Strategy} {snapshot : Option Snapshot}
    (suspected : document ∈ (known.reconcile strategy snapshot).1.suspects) :
    document ∈ known.revisions.observeAll (Revisions.broughtBy snapshot) := by
  match strategy, snapshot with
  | .snapshot, none => exact mem_suspects_reconcileBlanket_iff.mp suspected
  | .assumeChanged, _ => exact mem_suspects_reconcileBlanket_iff.mp suspected
  | .snapshot, some snapshot =>
    rcases mem_suspects_reconcilePrecise_iff.mp suspected with news | purged
    · exact Revisions.mem_of_mem_newsIn news
    · obtain ⟨revision, held, -⟩ := mem_liveOutside_iff.mp purged
      rw [← getElem?_revisions, revisions_observeAll] at held
      exact Std.ExtTreeMap.mem_iff_isSome_getElem?.mpr (Option.isSome_of_eq_some held)

/-- Without a snapshot every known document is suspected, whatever the strategy. -/
theorem mem_suspects_of_mem (member : document ∈ known.revisions) (strategy : Strategy) :
    document ∈ (known.reconcile strategy none).1.suspects := by
  have nothing : known.revisions.observeAll (Revisions.broughtBy none) = known.revisions := rfl
  have blanket : document ∈ (known.reconcileBlanket none).1.suspects :=
    mem_suspects_reconcileBlanket_iff.mpr (nothing.symm ▸ member)
  cases strategy <;> exact blanket

/-! ## Catching up -/

/-- A new subscriber hears of the documents under its key that are due. -/
theorem mem_catchUp_iff {key : WatchKey} {since : Option Revno} {text : String} :
    text ∈ known.catchUp key since ↔ ∃ document revision, known.revisions[document]? = some revision ∧
      key.covers document = true ∧ revision.isDue since = true ∧ document.id = text := by
  simp only [getElem?_revisions]
  cases key with
  | collection name =>
    simp only [catchUp, List.mem_map, List.mem_filter, Prod.exists,
      Std.ExtTreeMap.mem_toList_iff_getElem?_eq_some, getD_collections, WatchKey.covers, beq_iff_eq]
    constructor
    · rintro ⟨_, revision, ⟨held, due⟩, rfl⟩
      exact ⟨⟨name, _⟩, revision, held, rfl, due, rfl⟩
    · rintro ⟨document, revision, held, rfl, due, rfl⟩
      exact ⟨document.id, revision, ⟨held, due⟩, rfl⟩
  | entity watched =>
    simp only [catchUp, WatchKey.covers, beq_iff_eq]
    constructor
    · intro listed
      cases held : known.get? watched with
      | none => simp [held] at listed
      | some revision =>
        cases due : revision.isDue since with
        | false => simp [held, due] at listed
        | true =>
          have same : text = watched.id := by simpa [held, due] using listed
          exact ⟨watched, revision, held, rfl, due, same.symm⟩
    · rintro ⟨document, revision, held, rfl, due, rfl⟩
      simp [held, due]

end KnownState

end ChangeFeed
