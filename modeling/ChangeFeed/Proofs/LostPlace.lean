/-
# What a reader without snapshots can miss

A log without snapshots has nothing to offer a reader whose position has expired. The reader says so
in a discontinuity and gives its position up, and it has no position again until it next opens a
cursor. If the cycle gives up in between, whatever is truncated before the next one is passed over
without a word: the reader then starts at the horizon, wherever that has got to.

This module shows that there is no other way to lose a change. A reader that holds a position when
the change is committed delivers it or announces a discontinuity, and so does one without a position
unless the horizon moves beyond the change first.
-/

import ChangeFeed.Proofs.Cycles

namespace ChangeFeed

namespace Reading

/-- The events tell of a lost place. -/
def Announces (events : List Event) : Prop :=
  ∃ snapshot, .discontinuity snapshot ∈ events

/-- The events bring a change in a batch. -/
def Delivers (events : List Event) (change : Change) : Prop :=
  ∃ changes, .batch changes ∈ events ∧ change ∈ changes

/-- The reader has no position, and the horizon lies beyond a base. -/
def IsOvertaken (reading : Reading) (base : Position) : Prop :=
  reading.poller.reader.committed = none ∧ base < reading.log.horizon

/-- The reader is overtaken between two of the moves, before the first or after the last. -/
def GetsOvertaken (reading : Reading) (base : Position) (moves : List Move) : Prop :=
  ∃ early late, moves = early ++ late ∧ (reading.run early).IsOvertaken base

/-! ## Invariants of what was sent and what is claimed -/

/-- Everything beyond the base has been delivered as far as the claim reaches, or there was an
announcement. A reader without a position has not been overtaken. -/
def KeepsUp (history : List Change) (horizon base : Position) (since : List Event)
    (claimed : Option Position) : Prop :=
  Announces since ∨ (claimed = none ∧ horizon ≤ base) ∨
    ∃ position, claimed = some position ∧
      ∀ change ∈ between history base position, Delivers since change

/-- The change after the base has been passed over, or there was an announcement. -/
def PassesOver (change : Change) (horizon base : Position) (since : List Event)
    (claimed : Option Position) : Prop :=
  Announces since ∨ ¬ Delivers since change ∧
    ((claimed = none ∧ base < horizon) ∨ ∃ position, claimed = some position ∧ base < position)

/-- A reader without a position has announced that it lost one, or it never had one and has not
delivered anything. -/
def LosesOpenly (unplaced : Prop) (since : List Event) (claimed : Option Position) : Prop :=
  claimed = none → Announces since ∨ unplaced ∧ ∀ change, ¬ Delivers since change

variable {since more : List Event} {event : Event} {change : Change}

theorem Announces.append (announces : Announces since) (more : List Event) :
    Announces (since ++ more) := by
  obtain ⟨snapshot, member⟩ := announces
  exact ⟨snapshot, List.mem_append_left _ member⟩

theorem announces_restarted (since : List Event) : Announces (since ++ [.discontinuity none]) :=
  ⟨none, List.mem_append_right _ (List.mem_singleton.mpr rfl)⟩

theorem Delivers.append (delivers : Delivers since change) (more : List Event) :
    Delivers (since ++ more) change := by
  obtain ⟨changes, member, brings⟩ := delivers
  exact ⟨changes, List.mem_append_left _ member, brings⟩

theorem delivers_batch (since : List Event) {changes : List Change} (member : change ∈ changes) :
    Delivers (since ++ [.batch changes]) change :=
  ⟨changes, List.mem_append_right _ (List.mem_singleton.mpr rfl), member⟩

/-- An event delivers nothing but the changes of its batch. -/
theorem Delivers.of_concat (delivers : Delivers (since ++ [event]) change)
    (nothing : ∀ changes, event = .batch changes → change ∉ changes) : Delivers since change := by
  obtain ⟨changes, member, brings⟩ := delivers
  rcases List.mem_append.mp member with earlier | last
  · exact ⟨changes, earlier, brings⟩
  · exact absurd brings (nothing changes (List.mem_singleton.mp last).symm)

theorem not_isBatch_of_isGivingUp (isGivingUp : event.isGivingUp = true) (changes : List Change) :
    event ≠ .batch changes := by
  rintro rfl
  cases isGivingUp

section Progress

variable {history : List Change} {log : MemoryLog} {running : Option Nat} {base : Position}
  {after : List Event} {claimed position : Option Position}

/-- An announcement is not taken back. -/
theorem Announces.step (announces : Announces since)
    (progress : Poller.Progress history log running since claimed after position) :
    Announces after := by
  cases progress with
  | quiet | opened => exact announces
  | read | completed | gaveUp | refreshed | restarted => exact announces.append _

/-- What is delivered beyond a base up to a position, and from there on, is delivered beyond the
base. -/
theorem delivers_read {start stop : Position}
    (delivered : ∀ change ∈ between history base start, Delivers since change)
    (member : change ∈ between history base stop) :
    Delivers (since ++ [.batch (between history start stop)]) change := by
  obtain ⟨index, beyond, inside, found⟩ := mem_between_iff.mp member
  by_cases before : index < start
  · exact (delivered change (mem_between_iff.mpr ⟨index, beyond, before, found⟩)).append _
  · exact delivers_batch since
      (mem_between_iff.mpr ⟨index, Nat.le_of_not_lt before, inside, found⟩)

theorem KeepsUp.step (keepsUp : KeepsUp history log.horizon base since claimed)
    (unsupported : log.supportsSnapshots = false)
    (progress : Poller.Progress history log running since claimed after position) :
    KeepsUp history log.horizon base after position := by
  rcases keepsUp with announced | ⟨rfl, held⟩ | ⟨start, rfl, delivered⟩
  · exact Or.inl (announced.step progress)
  · cases progress with
    | quiet | gaveUp => exact Or.inr (Or.inl ⟨rfl, held⟩)
    | opened =>
      -- The reader finds its place before the base, and has nothing to deliver yet.
      refine Or.inr (Or.inr ⟨log.horizon, rfl, fun change member => ?_⟩)
      rw [between_of_le held] at member
      cases member
    | refreshed _ _ supports =>
      rw [unsupported] at supports
      cases supports
    | restarted => exact Or.inl (announces_restarted since)
  · cases progress with
    | quiet => exact Or.inr (Or.inr ⟨start, rfl, delivered⟩)
    | completed | gaveUp =>
      exact Or.inr (Or.inr ⟨start, rfl, fun change member => (delivered change member).append _⟩)
    | read _ stop => exact Or.inr (Or.inr ⟨stop, rfl, fun change => delivers_read delivered⟩)
    | refreshed _ _ supports =>
      rw [unsupported] at supports
      cases supports
    | restarted => exact Or.inl (announces_restarted since)

/-- A reader that completes a cycle has kept up to the head of the log. -/
theorem KeepsUp.completed {start : Position} (keepsUp : KeepsUp history log.horizon base since (some start))
    (reached : history.length ≤ start) :
    Announces since ∨ ∀ change ∈ between history base history.length, Delivers since change := by
  rcases keepsUp with announced | ⟨unplaced, -⟩ | ⟨position, same, delivered⟩
  · exact Or.inl announced
  · cases unplaced
  · cases same
    refine Or.inr fun change member => delivered change ?_
    obtain ⟨index, beyond, inside, found⟩ := mem_between_iff.mp member
    exact mem_between_iff.mpr ⟨index, beyond, Nat.lt_of_lt_of_le inside reached, found⟩

/-- Only a step that reaches the head of the log completes a cycle. -/
theorem reached_of_completed {seq : Nat}
    (progress : Poller.Progress history log running since claimed (since ++ more) position)
    (member : .cycleComplete seq ∈ more) :
    ∃ start, claimed = some start ∧ history.length ≤ start := by
  generalize later : since ++ more = after at progress
  cases progress with
  | quiet | opened =>
    rw [List.append_right_eq_self.mp later] at member
    cases member
  | completed _ start _ reached => exact ⟨start, rfl, reached⟩
  | read | restarted =>
    rw [List.append_cancel_left later] at member
    cases List.mem_singleton.mp member
  | gaveUp _ event isGivingUp =>
    rw [List.append_cancel_left later] at member
    rw [← List.mem_singleton.mp member] at isGivingUp
    cases isGivingUp
  | refreshed _ event _ brings =>
    rw [List.append_cancel_left later] at member
    rw [← List.mem_singleton.mp member] at brings
    rcases brings with same | same <;> cases same

theorem PassesOver.step (passesOver : PassesOver change log.horizon base since claimed)
    (unsupported : log.supportsSnapshots = false)
    (once : ∀ index : Nat, history[index]? = some change → index = base)
    (progress : Poller.Progress history log running since claimed after position) :
    PassesOver change log.horizon base after position := by
  rcases passesOver with announced | ⟨undelivered, place⟩
  · exact Or.inl (announced.step progress)
  · cases progress with
    | quiet => exact Or.inr ⟨undelivered, place⟩
    | opened =>
      obtain ⟨-, beyond⟩ | ⟨_, same, -⟩ := place
      · exact Or.inr ⟨undelivered, Or.inr ⟨_, rfl, beyond⟩⟩
      · cases same
    | read start stop later held =>
      obtain ⟨none, -⟩ | ⟨_, same, beyond⟩ := place
      · cases none
      · cases same
        refine Or.inr ⟨fun delivers => undelivered (delivers.of_concat ?_),
          Or.inr ⟨stop, rfl, Nat.lt_trans beyond later⟩⟩
        rintro _ ⟨⟩ member
        obtain ⟨index, reached, -, found⟩ := mem_between_iff.mp member
        rw [once index found] at reached
        exact Nat.not_le_of_lt beyond reached
    | completed =>
      refine Or.inr ⟨fun delivers => undelivered (delivers.of_concat ?_), place⟩
      intro _ same
      cases same
    | gaveUp _ event isGivingUp =>
      refine Or.inr ⟨fun delivers => undelivered (delivers.of_concat ?_), place⟩
      exact fun changes same => absurd same (not_isBatch_of_isGivingUp isGivingUp changes)
    | refreshed _ _ supports =>
      rw [unsupported] at supports
      cases supports
    | restarted => exact Or.inl (announces_restarted since)

theorem LosesOpenly.step {unplaced : Prop} (openly : LosesOpenly unplaced since claimed)
    (progress : Poller.Progress history log running since claimed after position) :
    LosesOpenly unplaced after position := by
  intro none
  subst none
  cases progress with
  | quiet => exact openly rfl
  | gaveUp _ event isGivingUp =>
    refine (openly rfl).imp (fun announced => announced.append _) (And.imp_right fun nothing => ?_)
    exact fun change delivers => nothing change
      (delivers.of_concat fun changes same => absurd same (not_isBatch_of_isGivingUp isGivingUp changes))
  | restarted => exact Or.inl (announces_restarted since)

end Progress

/-! ## Along a run -/

variable {reading : Reading} {past : List Event} {base : Position} {moves : List Move}

/-- A reader that has kept up does so after the next move, unless that move has it overtaken. -/
theorem keepsUp_move (sound : reading.IsSound) (unsupported : reading.log.supportsSnapshots = false)
    (has : reading.Has past (KeepsUp reading.history reading.log.horizon base)) (move : Move)
    (ahead : ¬ (reading.move move).IsOvertaken base) :
    (reading.move move).Has past
      (KeepsUp (reading.move move).history (reading.move move).log.horizon base) := by
  rcases sound.move_cases move with ⟨edit, rfl⟩ | proceeds
  · obtain ⟨since, sent, announced | ⟨none, -⟩ | ⟨position, held, delivered⟩⟩ := has
    · exact ⟨since, sent, Or.inl announced⟩
    · have reached : (reading.move (.edit edit)).log.horizon ≤ base :=
        Nat.le_of_not_lt fun beyond => ahead ⟨none, beyond⟩
      exact ⟨since, sent, Or.inr (Or.inl ⟨none, reached⟩)⟩
    · refine ⟨since, sent, Or.inr (Or.inr ⟨position, held, ?_⟩)⟩
      show ∀ change ∈ between (reading.history ++ _) base position, _
      rwa [between_append (sound.committed_le position held)]
  · rw [proceeds.history_eq, proceeds.contents.horizon_eq]
    exact proceeds.keeps (fun progress keepsUp => keepsUp.step unsupported progress) has

theorem keepsUp_run (sound : reading.IsSound) (allows : reading.Allows moves)
    (unsupported : reading.log.supportsSnapshots = false)
    (has : reading.Has past (KeepsUp reading.history reading.log.horizon base)) :
    (reading.run moves).Has past
        (KeepsUp (reading.run moves).history (reading.run moves).log.horizon base) ∨
      reading.GetsOvertaken base moves := by
  induction moves generalizing reading with
  | nil => exact Or.inl has
  | cons move rest ih =>
    by_cases overtaken : (reading.move move).IsOvertaken base
    · exact Or.inr ⟨[move], rest, rfl, overtaken⟩
    · have next := keepsUp_move sound unsupported has move overtaken
      rcases ih (sound.move allows.1) allows.2
        ((supportsSnapshots_move sound move).trans unsupported) next with kept | overtaken
      · exact Or.inl kept
      · obtain ⟨early, late, rfl, overtaken⟩ := overtaken
        exact Or.inr ⟨move :: early, late, rfl, overtaken⟩

/-- **A cycle that completes has delivered all there was when it began**, or there was an
announcement. -/
theorem settled_of_completed {after : Reading} {seq : Nat} (proceeds : reading.Proceeds after)
    (unsupported : reading.log.supportsSnapshots = false)
    (has : reading.Has past (KeepsUp reading.history reading.log.horizon base))
    (completed : .cycleComplete seq ∈ after.sentSince reading) :
    after.Has past fun since _ => Announces since ∨
      ∀ change ∈ between reading.history base reading.history.length, Delivers since change := by
  obtain ⟨waited, sent, keepsUp⟩ := has
  -- The cycle adds its own events to those that were sent before it.
  let property : List Event → Option Position → Prop := fun since claimed =>
    KeepsUp reading.history reading.log.horizon base since claimed ∧
      ∃ own, since = waited ++ own ∧ (.cycleComplete seq ∈ own → Announces since ∨
        ∀ change ∈ between reading.history base reading.history.length, Delivers since change)
  have begun : reading.Has past property :=
    ⟨waited, sent, keepsUp, [], (List.append_nil _).symm, fun member => by cases member⟩
  have ended : after.Has past property := by
    refine proceeds.keeps (fun {running since more claimed position} progress holds => ?_) begun
    obtain ⟨keepsUp, own, rfl, settled⟩ := holds
    refine ⟨keepsUp.step unsupported progress, own ++ more, List.append_assoc _ _ _,
      fun member => ?_⟩
    have soon : Announces (waited ++ own) ∨
        ∀ change ∈ between reading.history base reading.history.length,
          Delivers (waited ++ own) change := by
      rcases List.mem_append.mp member with earlier | now
      · exact settled earlier
      · obtain ⟨start, rfl, reached⟩ := reached_of_completed progress now
        exact keepsUp.completed reached
    exact soon.imp (fun announced => announced.append more)
      fun delivered change member => (delivered change member).append more
  obtain ⟨since, later, -, own, rfl, settled⟩ := ended
  refine ⟨_, later, settled ?_⟩
  rwa [sentSince, later, sent, ← List.append_assoc, List.drop_left] at completed

theorem passesOver_run (sound : reading.IsSound) (allows : reading.Allows moves)
    (unsupported : reading.log.supportsSnapshots = false)
    (once : ∀ index : Nat, (reading.run moves).history[index]? = some change → index = base)
    (has : reading.Has past (PassesOver change reading.log.horizon base)) :
    (reading.run moves).Has past (PassesOver change (reading.run moves).log.horizon base) := by
  induction moves generalizing reading with
  | nil => exact has
  | cons move rest ih =>
    refine ih (sound.move allows.1) allows.2
      ((supportsSnapshots_move sound move).trans unsupported) once ?_
    rcases sound.move_cases move with ⟨edit, rfl⟩ | proceeds
    · refine has.imp fun since => And.imp_right ?_
      refine Or.imp_right (And.imp_right (Or.imp_left (And.imp_right fun beyond => ?_)))
      exact Nat.lt_of_lt_of_le beyond (reading.log.horizon_le_edit edit)
    · rw [proceeds.contents.horizon_eq]
      refine proceeds.keeps (fun progress passesOver => ?_) has
      refine passesOver.step unsupported (fun index found => once index ?_) progress
      obtain ⟨more, grown⟩ : ∃ more, (reading.run (move :: rest)).history =
          reading.history ++ more := history_run sound allows
      rw [grown, List.getElem?_append_left (List.getElem?_eq_some_iff.mp found).1]
      exact found

/-! ## What becomes of a change -/

section Committed

variable {earlier : Reading} {edit : MemoryLog.Edit} {after : List Move} {seq : Nat}

/-- What is committed at the end of the history lies beyond all that the reader claims. -/
theorem keepsUp_edit (sound : earlier.IsSound)
    (commits : earlier.log.committedBy? edit = some change) :
    let committed := earlier.move (.edit edit)
    committed.Has earlier.poller.outbox
      (KeepsUp committed.history committed.log.horizon earlier.history.length) := by
  refine ⟨[], (List.append_nil _).symm, Or.inr ?_⟩
  cases held : earlier.poller.reader.committed with
  | none =>
    have kept : (earlier.log.edit edit).cut = earlier.log.cut := by
      apply MemoryLog.cut_edit
      intro through same
      rw [same] at commits
      cases commits
    refine Or.inl ⟨held, ?_⟩
    show (earlier.log.edit edit).horizon ≤ _
    rw [MemoryLog.horizon, kept]
    exact sound.records.horizon_le
  | some position =>
    refine Or.inr ⟨position, held, fun other member => ?_⟩
    rw [between_of_le (sound.committed_le position held)] at member
    cases member

/-- A change that is not overtaken is delivered, or a discontinuity is announced. -/
theorem reported_of_not_overtaken (sound : earlier.IsSound)
    (unsupported : earlier.log.supportsSnapshots = false)
    (allows : earlier.Allows (.edit edit :: after))
    (commits : earlier.log.committedBy? edit = some change)
    (completed : .cycleComplete seq ∈
      (earlier.run (.edit edit :: after ++ [.cycle seq])).sentSince
        (earlier.run (.edit edit :: after)))
    (ahead : ¬ (earlier.move (.edit edit)).GetsOvertaken earlier.history.length after) :
    let since := (earlier.run (.edit edit :: after ++ [.cycle seq])).sentSince earlier
    Delivers since change ∨ Announces since := by
  have begun : (earlier.run (.edit edit :: after)).IsSound := sound.run allows
  have ended : earlier.run (.edit edit :: after ++ [.cycle seq]) =
      (earlier.run (.edit edit :: after)).move (.cycle seq) := run_append _ _ [.cycle seq]
  have proceeds := (begun.move_cases (.cycle seq)).resolve_left (by rintro ⟨_, same⟩; cases same)
  have keepsUp := (keepsUp_run (sound.edit allows.1) allows.2
    ((supportsSnapshots_move sound _).trans unsupported)
    (keepsUp_edit sound commits)).resolve_right ahead
  have settled := (settled_of_completed proceeds ((supportsSnapshots_run sound allows).trans unsupported) keepsUp
    (ended ▸ completed)).sentSince
  rw [ended]
  refine settled.symm.imp_left fun delivered => delivered change ?_
  -- The change stands after the base in every later history.
  obtain ⟨more, grown⟩ := history_run (sound.edit allows.1) allows.2
  have committed : (earlier.move (.edit edit)).history = earlier.history ++ [change] := by
    show earlier.history ++ (earlier.log.committedBy? edit).toList = _
    rw [commits]
    rfl
  have whole : (earlier.run (.edit edit :: after)).history = earlier.history ++ change :: more := by
    rw [List.append_cons, ← committed]
    exact grown
  refine mem_between_iff.mpr ⟨earlier.history.length, Nat.le_refl _, ?_, ?_⟩
  · rw [whole, List.length_append, List.length_cons]
    lia
  · rw [whole, List.getElem?_append_right (Nat.le_refl _), Nat.sub_self]
    rfl

/-- A reader without a position has announced that it lost its place, if it had one; and otherwise it
has delivered nothing. -/
theorem has_of_unplaced (sound : earlier.IsSound) (allows : earlier.Allows moves)
    (unplaced : (earlier.run moves).poller.reader.committed = none) :
    (earlier.run moves).Has earlier.poller.outbox fun since _ =>
      Announces since ∨ earlier.poller.reader.committed = none ∧ ∀ change, ¬ Delivers since change := by
  have begun : earlier.Has earlier.poller.outbox
      (LosesOpenly (earlier.poller.reader.committed = none)) := by
    refine ⟨[], (List.append_nil _).symm, fun none => Or.inr ⟨none, ?_⟩⟩
    rintro change ⟨changes, member, -⟩
    cases member
  obtain ⟨since, sent, openly⟩ :=
    has_run (fun progress openly => openly.step progress) sound allows begun
  exact ⟨since, sent, openly unplaced⟩

/-- **When a committed change is lost.** On a log without snapshots let a change be committed, and let
a cycle that begins later come to its end.

If the reader holds a position when the change is committed, then by the end of the cycle the change
has been delivered or a discontinuity has been announced. The same holds if the reader is not
overtaken in the meantime, which takes that it has no position while the horizon is beyond the
change. If it is overtaken and nothing is announced, then the change is not delivered, unless it is
committed more than once. -/
theorem committed_change_lost_iff_overtaken (reachable : earlier.IsReachable false)
    (allows : earlier.Allows (.edit edit :: after))
    (commits : earlier.log.committedBy? edit = some change)
    (completed : .cycleComplete seq ∈
      (earlier.run (.edit edit :: after ++ [.cycle seq])).sentSince
        (earlier.run (.edit edit :: after))) :
    let committed := earlier.move (.edit edit)
    let later := earlier.run (.edit edit :: after ++ [.cycle seq])
    let since := later.sentSince earlier
    let base := earlier.history.length
    (earlier.poller.reader.committed.isSome = true → Delivers since change ∨ Announces since) ∧
      (¬ committed.GetsOvertaken base after → Delivers since change ∨ Announces since) ∧
      ((∀ index : Nat, later.history[index]? = some change → index = base) →
        committed.GetsOvertaken base after → Delivers since change → Announces since) := by
  intro committed later since base
  obtain ⟨sound, unsupported⟩ := reachable.isSound
  have ahead := reported_of_not_overtaken sound unsupported allows commits completed
  by_cases overtaken : committed.GetsOvertaken base after
  · obtain ⟨early, late, rfl, unplaced, beyond⟩ := overtaken
    let moment := earlier.run (.edit edit :: early)
    have split : Move.edit edit :: (early ++ late) ++ [.cycle seq] =
        (.edit edit :: early) ++ (late ++ [.cycle seq]) := by simp
    have later_eq : later = moment.run (late ++ [.cycle seq]) := by
      rw [← run_append, ← split]
    obtain ⟨allowsEarly, allowsLate⟩ := Run.allows_append_iff.mp
      (show earlier.Allows ((.edit edit :: early) ++ late) from allows)
    have soundMoment : moment.IsSound := sound.run allowsEarly
    have allowsRest : moment.Allows (late ++ [.cycle seq]) :=
      Run.allows_append_iff.mpr ⟨allowsLate, trivial, trivial⟩
    have lost := has_of_unplaced sound allowsEarly unplaced
    refine ⟨fun placed => Or.inr ?_, ahead, fun once _ delivers => ?_⟩
    · -- The reader had a place, so it has announced that it lost it.
      have announced : moment.Has earlier.poller.outbox fun since _ => Announces since :=
        lost.imp fun since => And.imp_right fun either => either.resolve_right fun nothing => by
          rw [nothing.1] at placed
          cases placed
      have later := has_run (fun progress announced => announced.step progress) soundMoment
        allowsRest announced
      rw [← later_eq] at later
      exact later.sentSince
    · have passedOver : moment.Has earlier.poller.outbox
          (PassesOver change moment.log.horizon base) :=
        lost.imp fun since => And.imp_right fun either =>
          either.imp_right fun nothing => ⟨nothing.2 change, Or.inl ⟨unplaced, beyond⟩⟩
      have later := passesOver_run soundMoment allowsRest
        ((supportsSnapshots_run sound allowsEarly).trans unsupported) (later_eq ▸ once) passedOver
      rw [← later_eq] at later
      exact later.sentSince.resolve_right fun missed => missed.1 delivers
  · exact ⟨fun _ => ahead overtaken, ahead, fun _ now => absurd now overtaken⟩

/-- A pear that is truncated before it is read does not go unreported, since the reader held a
position when it was committed. -/
theorem truncated_pear_reported :
    let pear : Document := ⟨"fruit", "pear"⟩
    let earlier := (start {} 8 false).run [.cycle 0]
    let later := earlier.run [.edit (.upsert pear), .edit (.truncate 1), .cycle 1]
    Delivers (later.sentSince earlier) (.update pear 1) ∨ Announces (later.sentSince earlier) := by
  intro pear earlier later
  have allowsBefore : (start {} 8 false).Allows [.cycle 0] := ⟨trivial, trivial⟩
  have reachable : earlier.IsReachable false := ⟨_, _, _, allowsBefore, rfl⟩
  have allows : earlier.Allows [.edit (.upsert pear), .edit (.truncate 1)] := by decide +kernel
  have commits : earlier.log.committedBy? (.upsert pear) = some (.update pear 1) := by
    decide +kernel
  have completed : .cycleComplete 1 ∈
      later.sentSince (earlier.run [.edit (.upsert pear), .edit (.truncate 1)]) := by decide +kernel
  have placed : earlier.poller.reader.committed.isSome = true := by decide +kernel
  exact (committed_change_lost_iff_overtaken reachable allows commits completed).1 placed

/-- A cycle completes, so a cursor has been opened. The reader loses its place, says so, and gives the
next cycle up before it can open another cursor. A pear that is committed now and truncated is never
heard of, and the last cycle completes as if nothing had happened. -/
theorem pear_lost_after_abandoned_cycle :
    let pear : Document := ⟨"fruit", "pear"⟩
    let earlier := (start { maxRetries := 1 } 8 false).run
      [.cycle 0, .edit (.upsert ⟨"fruit", "apple"⟩), .edit (.truncate 1),
        .edit (.failNextOpen (.transient "down")), .edit (.failNextOpen (.transient "down")),
        .cycle 1]
    let moves : List Move := [.edit (.upsert pear), .edit (.truncate 2), .cycle 2]
    let later := earlier.run moves
    .cycleComplete 0 ∈ earlier.poller.outbox ∧ earlier.Allows moves ∧
      earlier.log.committedBy? (.upsert pear) = some (.update pear 1) ∧
      .cycleComplete 2 ∈ later.sentSince earlier ∧
      ¬ Delivers (later.sentSince earlier) (.update pear 1) ∧
      ¬ Announces (later.sentSince earlier) := by
  intro pear earlier moves later
  have begun : .cycleComplete 0 ∈ earlier.poller.outbox := by decide +kernel
  have allows : earlier.Allows moves := by decide +kernel
  have commits : earlier.log.committedBy? (.upsert pear) = some (.update pear 1) := by
    decide +kernel
  have sent : later.sentSince earlier = [.cycleComplete 2] := by decide +kernel
  refine ⟨begun, allows, commits, by simp [sent], ?_, ?_⟩
  · rintro ⟨changes, member, -⟩
    rw [sent] at member
    cases List.mem_singleton.mp member
  · rintro ⟨snapshot, member⟩
    rw [sent] at member
    cases List.mem_singleton.mp member

end Committed

end Reading

end ChangeFeed
