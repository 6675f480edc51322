/-
# What becomes of the ids that are marked

A watcher fills a mailbox, a subscriber empties it, and either may close it. Whatever they do, in whatever
order, ids are neither lost nor made up. `Turnover` says what one deed can do to a mailbox: it takes marks
in, hands everything over, or closes. Two accounts are kept from it. One follows a single id and says
which ids are handed over, the other counts them.

Only a subscriber who stops an open mailbox throws ids away. A mailbox that its watcher closes keeps them.
-/

import ChangeFeed.Proofs.Receipts

namespace ChangeFeed

namespace Mailbox

/-- What can be done to a mailbox, on the watcher's side or by the subscriber. -/
inductive Deed where
  | mark (id : String)
  | markAll (ids : List String)
  | drain
  | close (reason : CloseReason)
  | use (use : Use)
  deriving DecidableEq, Repr

/-- The ids that a deed marks, if the mailbox is open. -/
def Deed.marks : Deed → List String
  | .mark id => [id]
  | .markAll ids => ids
  | .drain | .close _ | .use _ => []

variable {before after : Mailbox} {marks : List String} {accepted : Nat} {handed : Option IdSet}
  {reason : CloseReason} {text : String}

theorem size_pending_markAll (mailbox : Mailbox) (ids : List String) :
    (mailbox.markAll ids).2.pending.size = mailbox.pending.size + (mailbox.markAll ids).1 := by
  induction ids generalizing mailbox with
  | nil => rfl
  | cons id rest ih =>
    have first : (mailbox.mark id).2.pending.size =
        mailbox.pending.size + (mailbox.mark id).1.toNat := by
      unfold mark
      split
      · rfl
      · next new =>
        have absent : mailbox.pending.contains id = false := by
          simp only [Bool.or_eq_true, not_or, Bool.not_eq_true] at new
          exact new.2
        simp [Std.ExtTreeSet.size_insert, absent]
    have later := ih (mailbox.mark id).2
    rw [first] at later
    show ((mailbox.mark id).2.markAll rest).2.pending.size =
      mailbox.pending.size + (((mailbox.mark id).2.markAll rest).1 + (mailbox.mark id).1.toNat)
    lia

theorem markAll_fst_of_closed (closed : before.closed = some reason) (ids : List String) :
    (before.markAll ids).1 = 0 := by
  have size := before.size_pending_markAll ids
  rw [markAll_of_closed closed] at size
  lia

/-! ## One deed -/

/-- What a deed can do to a mailbox: how many of its marks are new, and what it hands over. -/
inductive Turnover (before after : Mailbox) (marks : List String) (accepted : Nat)
    (handed : Option IdSet) : Prop where
  | fills (after_eq : after = (before.markAll marks).2) (accepted_eq : accepted = (before.markAll marks).1)
      (handed_eq : handed = none)
  | empties (after_eq : after = { before with pending := ∅ }) (marks_eq : marks = [])
      (accepted_eq : accepted = 0) (handed_eq : handed = some before.pending)
  | closes (reason : CloseReason) (after_eq : after = before.close reason) (marks_eq : marks = [])
      (accepted_eq : accepted = 0) (handed_eq : handed = none)

/-- A mailbox that was open is closed because its subscriber stopped. -/
def StopsOpen (before after : Mailbox) : Prop :=
  before.closed = none ∧ after.closed = some .stopped

instance (before after : Mailbox) : Decidable (before.StopsOpen after) :=
  inferInstanceAs (Decidable (_ ∧ _))

/-- An open mailbox that is stopped is empty from then on. -/
theorem close_stopped (isOpen : before.closed = none) : before.close .stopped = ⟨∅, some .stopped⟩ := by
  simp [close, isOpen]

/-- An open mailbox that is closed otherwise keeps what is pending. -/
theorem close_of_ne_stopped (isOpen : before.closed = none) (kept : reason ≠ .stopped) :
    before.close reason = { before with closed := some reason } := by
  cases reason with
  | stopped => exact absurd rfl kept
  | shutdown | fatal => simp [close, isOpen]

/-- **Nothing comes into a closed mailbox, and it stays closed.** -/
theorem Turnover.of_closed (turnover : Turnover before after marks accepted handed)
    (closed : before.closed = some reason) :
    accepted = 0 ∧ (after = before ∨ after = { before with pending := ∅ }) := by
  cases turnover with
  | fills after_eq accepted_eq _ =>
    rw [markAll_fst_of_closed closed] at accepted_eq
    rw [markAll_of_closed closed] at after_eq
    exact ⟨accepted_eq, Or.inl after_eq⟩
  | empties after_eq _ accepted_eq _ => exact ⟨accepted_eq, Or.inr after_eq⟩
  | closes reason after_eq _ accepted_eq _ =>
    rw [close_of_closed closed] at after_eq
    exact ⟨accepted_eq, Or.inl after_eq⟩

theorem Turnover.closed_eq (turnover : Turnover before after marks accepted handed)
    (closed : before.closed = some reason) : after.closed = some reason := by
  rcases (turnover.of_closed closed).2 with same | emptied
  · rw [same, closed]
  · rw [emptied, closed]

/-- **One id.** It is pending afterwards if it is marked while the mailbox is open, or if it was pending
and is neither handed over nor thrown away. -/
theorem Turnover.mem_pending_iff (turnover : Turnover before after marks accepted handed) :
    text ∈ after.pending ↔ (before.closed = none ∧ text ∈ marks) ∨
      (text ∈ before.pending ∧ handed = none ∧ ¬ before.StopsOpen after) := by
  cases turnover with
  | fills after_eq _ handed_eq =>
    subst after_eq handed_eq
    cases closed : before.closed with
    | some reason => simp [markAll_of_closed closed, StopsOpen, closed]
    | none => simp [mem_pending_markAll closed, StopsOpen, closed_markAll, closed]
  | empties after_eq marks_eq _ handed_eq =>
    subst after_eq marks_eq handed_eq
    simp [Std.ExtTreeSet.not_mem_empty]
  | closes reason after_eq marks_eq _ handed_eq =>
    subst after_eq marks_eq handed_eq
    cases closed : before.closed with
    | some first => simp [close_of_closed closed, StopsOpen, closed]
    | none =>
      by_cases stops : reason = .stopped
      · subst stops
        simp [close_stopped closed, StopsOpen, closed, Std.ExtTreeSet.not_mem_empty]
      · simp [close_of_ne_stopped closed stops, StopsOpen, stops]

/-- **All ids.** What was pending and what is new is handed over, is pending, or is thrown away. -/
theorem Turnover.size_eq (turnover : Turnover before after marks accepted handed) :
    before.pending.size + accepted = (handed.map (·.size)).getD 0 + after.pending.size +
      if before.StopsOpen after then before.pending.size else 0 := by
  cases turnover with
  | fills after_eq accepted_eq handed_eq =>
    subst after_eq accepted_eq handed_eq
    have kept : ¬ before.StopsOpen (before.markAll marks).2 := by
      rintro ⟨isOpen, stopped⟩
      rw [closed_markAll, isOpen] at stopped
      cases stopped
    simp [kept, size_pending_markAll]
  | empties after_eq marks_eq accepted_eq handed_eq =>
    subst after_eq accepted_eq handed_eq
    have kept : ¬ before.StopsOpen { before with pending := ∅ } := by
      rintro ⟨isOpen, stopped⟩
      rw [show before.closed = some .stopped from stopped] at isOpen
      cases isOpen
    simp [kept]
  | closes reason after_eq marks_eq accepted_eq handed_eq =>
    subst after_eq accepted_eq handed_eq
    cases closed : before.closed with
    | some first => simp [close_of_closed closed, StopsOpen, closed]
    | none =>
      by_cases stops : reason = .stopped
      · subst stops
        simp [close_stopped closed, StopsOpen, closed]
      · simp [close_of_ne_stopped closed stops, StopsOpen, stops]

end Mailbox

/-- The ids that are handed over, if it is a set that comes. -/
def Receipt.set? : Receipt → Option IdSet
  | .taken ids | .answer (.changes ids) => some ids
  | .answer .pending | .answer .ended => none

namespace Subscription

open Mailbox (Deed Turnover)

/-- The subscription after a deed. -/
def undergo (subscription : Subscription) : Deed → Subscription
  | .mark id => { subscription with mailbox := (subscription.mailbox.mark id).2 }
  | .markAll ids => { subscription with mailbox := (subscription.mailbox.markAll ids).2 }
  | .drain => { subscription with mailbox := subscription.mailbox.drain.2 }
  | .close reason => { subscription with mailbox := subscription.mailbox.close reason }
  | .use use => subscription.use use

/-- The subscription after deeds, in order. -/
def run (subscription : Subscription) (deeds : List Deed) : Subscription :=
  deeds.foldl undergo subscription

/-- How many marks are reported as new. -/
def accepted (subscription : Subscription) : Deed → Nat
  | .mark id => (subscription.mailbox.mark id).1.toNat
  | .markAll ids => (subscription.mailbox.markAll ids).1
  | .drain | .close _ | .use _ => 0

/-- The set that is handed over, if one is. -/
def handed? (subscription : Subscription) : Deed → Option IdSet
  | .drain => some subscription.mailbox.drain.1
  | .use use => (subscription.receipt? use).bind Receipt.set?
  | .mark _ | .markAll _ | .close _ => none

/-- How many ids are handed over. -/
def handed (subscription : Subscription) (deed : Deed) : Nat :=
  ((subscription.handed? deed).map (·.size)).getD 0

/-- How many ids are thrown away. -/
def discarded (subscription : Subscription) (deed : Deed) : Nat :=
  if subscription.mailbox.StopsOpen (subscription.undergo deed).mailbox then
    subscription.mailbox.pending.size
  else 0

/-- What is counted in single deeds, summed up in the course of many. -/
def total (count : Subscription → Deed → Nat) : Subscription → List Deed → Nat
  | _, [] => 0
  | subscription, deed :: rest =>
    count subscription deed + total count (subscription.undergo deed) rest

/-- In the course of deeds nothing is handed over and nothing thrown away. -/
def Spares : Subscription → List Deed → Prop
  | _, [] => True
  | subscription, deed :: rest =>
    (subscription.handed? deed = none ∧
        ¬ subscription.mailbox.StopsOpen (subscription.undergo deed).mailbox) ∧
      (subscription.undergo deed).Spares rest

/-- An id was marked while the mailbox was open, and since then nothing was handed over and nothing
thrown away. -/
def IsDue (subscription : Subscription) (deeds : List Deed) (text : String) : Prop :=
  ∃ before deed later, deeds = before ++ deed :: later ∧
    (subscription.run before).mailbox.closed = none ∧ text ∈ deed.marks ∧
    (subscription.run (before ++ [deed])).Spares later

variable {subscription : Subscription} {deed : Deed} {deeds : List Deed} {reason : CloseReason}
  {text : String} {use : Use}

/-! ## Every deed is a turnover -/

theorem turnover_stop (subscription : Subscription) :
    Turnover subscription.mailbox subscription.stop.2.mailbox [] 0 none := by
  unfold stop
  split
  · exact .fills rfl rfl rfl
  · exact .closes .stopped rfl rfl rfl rfl

theorem turnover_use (subscription : Subscription) (use : Use) :
    Turnover subscription.mailbox (subscription.use use).mailbox [] 0
      ((subscription.receipt? use).bind Receipt.set?) := by
  cases use with
  | stop | drop => exact subscription.turnover_stop
  | changes => exact .empties rfl rfl rfl rfl
  | next =>
    show Turnover _ subscription.next.2.mailbox [] 0 (Receipt.answer subscription.next.1).set?
    cases empty : subscription.mailbox.pending.isEmpty with
    | true =>
      rw [next_of_isEmpty empty]
      refine .fills rfl rfl ?_
      split <;> rfl
    | false =>
      rw [next_of_not_isEmpty empty]
      exact .empties rfl rfl rfl rfl
  | streamNext =>
    show Turnover _ subscription.streamNext.2.2.mailbox [] 0
      (Receipt.answer subscription.streamNext.1).set?
    rcases subscription.streamNext_cases with ⟨-, gone⟩ | ⟨-, ⟨-, ends⟩ | waits | hands⟩
    · rw [gone]
      exact .fills rfl rfl rfl
    · rw [ends]
      exact subscription.turnover_stop
    · rw [waits]
      exact .fills rfl rfl rfl
    · rw [hands]
      exact .empties rfl rfl rfl rfl

/-- **Every deed takes marks in, hands everything over, or closes.** -/
theorem turnover (subscription : Subscription) (deed : Deed) :
    Turnover subscription.mailbox (subscription.undergo deed).mailbox deed.marks
      (subscription.accepted deed) (subscription.handed? deed) := by
  cases deed with
  | mark id =>
    refine .fills rfl ?_ rfl
    show (subscription.mailbox.mark id).1.toNat = 0 + (subscription.mailbox.mark id).1.toNat
    rw [Nat.zero_add]
  | markAll ids => exact .fills rfl rfl rfl
  | drain => exact .empties rfl rfl rfl rfl
  | close reason => exact .closes reason rfl rfl rfl rfl
  | use use => exact subscription.turnover_use use

/-! ## Many deeds -/

theorem isDue_cons_iff :
    subscription.IsDue (deed :: deeds) text ↔
      (subscription.mailbox.closed = none ∧ text ∈ deed.marks ∧
          (subscription.undergo deed).Spares deeds) ∨
        (subscription.undergo deed).IsDue deeds text := by
  constructor
  · rintro ⟨before, marking, later, split, isOpen, marked, spared⟩
    cases before with
    | nil =>
      cases split
      exact Or.inl ⟨isOpen, marked, spared⟩
    | cons first before =>
      cases split
      exact Or.inr ⟨before, marking, later, rfl, isOpen, marked, spared⟩
  · rintro (⟨isOpen, marked, spared⟩ | ⟨before, marking, later, rfl, isOpen, marked, spared⟩)
    · exact ⟨[], deed, deeds, rfl, isOpen, marked, spared⟩
    · exact ⟨deed :: before, marking, later, rfl, isOpen, marked, spared⟩

/-- **What is pending was pending before or has been marked, and was spared since.** -/
theorem mem_pending_run_iff :
    text ∈ (subscription.run deeds).mailbox.pending ↔
      (text ∈ subscription.mailbox.pending ∧ subscription.Spares deeds) ∨
        subscription.IsDue deeds text := by
  induction deeds generalizing subscription with
  | nil => simp [run, Spares, IsDue]
  | cons deed rest ih =>
    have later : text ∈ (subscription.run (deed :: rest)).mailbox.pending ↔
        (text ∈ (subscription.undergo deed).mailbox.pending ∧
            (subscription.undergo deed).Spares rest) ∨
          (subscription.undergo deed).IsDue rest text := ih
    rw [later, (subscription.turnover deed).mem_pending_iff, isDue_cons_iff]
    simp only [Spares, or_and_right, and_assoc, or_assoc]
    exact or_left_comm

/-- **The numbers add up**: what was pending and what has been accepted is handed over, pending or thrown
away. -/
theorem size_pending_add_total (subscription : Subscription) (deeds : List Deed) :
    subscription.mailbox.pending.size + total accepted subscription deeds =
      total handed subscription deeds + (subscription.run deeds).mailbox.pending.size +
        total discarded subscription deeds := by
  induction deeds generalizing subscription with
  | nil => simp [total, run]
  | cons deed rest ih =>
    have now : subscription.mailbox.pending.size + subscription.accepted deed =
        subscription.handed deed + (subscription.undergo deed).mailbox.pending.size +
          subscription.discarded deed := (subscription.turnover deed).size_eq
    have later := ih (subscription.undergo deed)
    have final : subscription.run (deed :: rest) = (subscription.undergo deed).run rest := rfl
    simp only [total, final]
    lia

/-- **A closed mailbox keeps its reason and accepts nothing.** -/
theorem closed_run (closed : subscription.mailbox.closed = some reason) (deeds : List Deed) :
    (subscription.run deeds).mailbox.closed = some reason ∧ total accepted subscription deeds = 0 := by
  induction deeds generalizing subscription with
  | nil => exact ⟨closed, rfl⟩
  | cons deed rest ih =>
    have turnover := subscription.turnover deed
    obtain ⟨later, nothing⟩ := ih (turnover.closed_eq closed)
    refine ⟨later, ?_⟩
    rw [total, nothing, (turnover.of_closed closed).1]

/-- **Whoever is handed ids is handed all that is pending.** -/
theorem handed?_eq_some {ids : IdSet} (given : subscription.handed? deed = some ids) :
    ids = subscription.mailbox.pending := by
  cases subscription.turnover deed with
  | empties _ _ _ handed_eq => exact Option.some.inj (given.symm.trans handed_eq)
  | fills _ _ handed_eq | closes _ _ _ _ handed_eq =>
    rw [given] at handed_eq
    cases handed_eq

/-- A watcher that closes the mailbox leaves what is pending. -/
theorem close_spares (subscription : Subscription) (unstopped : reason ≠ .stopped) :
    (subscription.undergo (.close reason)).mailbox.pending = subscription.mailbox.pending ∧
      subscription.discarded (.close reason) = 0 := by
  have same : (subscription.undergo (.close reason)).mailbox.pending = subscription.mailbox.pending := by
    show (subscription.mailbox.close reason).pending = _
    cases closed : subscription.mailbox.closed with
    | some first => rw [Mailbox.close_of_closed closed]
    | none => rw [Mailbox.close_of_ne_stopped closed unstopped]
  refine ⟨same, ?_⟩
  have balance : subscription.mailbox.pending.size + 0 =
      0 + (subscription.undergo (.close reason)).mailbox.pending.size +
        subscription.discarded (.close reason) := (subscription.turnover (.close reason)).size_eq
  rw [same] at balance
  lia

/-! ## What a subscriber is told -/

end Subscription

/-- The answer tells the truth about a mailbox: it brings what is pending, which is something, or says that
nothing is pending and whether anything can still come. -/
def Delivery.Fits (mailbox : Mailbox) : Delivery → Prop
  | .changes ids => ids = mailbox.pending ∧ mailbox.pending ≠ ∅
  | .pending => mailbox.closed = none ∧ mailbox.pending = ∅
  | .ended => mailbox.closed ≠ none ∧ mailbox.pending = ∅

namespace Subscription

open Mailbox (Deed)

variable {subscription : Subscription} {deed : Deed} {deeds : List Deed} {use : Use}

/-- Who has stopped has closed the mailbox, and a stream that has ended has left nothing. -/
structure IsCoherent (subscription : Subscription) : Prop where
  stopped : subscription.stopped = true → subscription.mailbox.closed ≠ none
  exhausted : subscription.handle = .exhausted →
    subscription.mailbox.closed ≠ none ∧ subscription.mailbox.pending = ∅

theorem fits_of_isEmpty (empty : subscription.mailbox.pending.isEmpty = true) :
    (if subscription.mailbox.closed.isSome then Delivery.ended else .pending).Fits
      subscription.mailbox := by
  have nothing : subscription.mailbox.pending = ∅ := Std.ExtTreeSet.isEmpty_iff.mp empty
  split
  · next closed => exact ⟨Option.isSome_iff_ne_none.mp closed, nothing⟩
  · next isOpen => exact ⟨by simpa using isOpen, nothing⟩

theorem fits_of_not_isEmpty (full : subscription.mailbox.pending.isEmpty = false) :
    (Delivery.changes subscription.mailbox.pending).Fits subscription.mailbox := by
  refine ⟨rfl, fun nothing => ?_⟩
  rw [Std.ExtTreeSet.isEmpty_iff.mpr nothing] at full
  cases full

theorem fits_next (subscription : Subscription) : subscription.next.1.Fits subscription.mailbox := by
  cases empty : subscription.mailbox.pending.isEmpty with
  | true =>
    rw [next_of_isEmpty empty]
    exact fits_of_isEmpty empty
  | false =>
    rw [next_of_not_isEmpty empty]
    exact fits_of_not_isEmpty empty

theorem IsCoherent.fits_streamNext (coherent : subscription.IsCoherent)
    (kept : subscription.handle ≠ .dropped) : subscription.streamNext.1.Fits subscription.mailbox := by
  cases held : subscription.isHeld with
  | false =>
    have exhausted : subscription.handle = .exhausted := by
      unfold isHeld at held
      split at held <;> simp_all
    rw [streamNext_of_not_isHeld held]
    exact coherent.exhausted exhausted
  | true =>
    cases empty : subscription.mailbox.pending.isEmpty with
    | true =>
      have fits := fits_of_isEmpty empty
      rw [streamNext_of_isEmpty held empty]
      split at fits
      · next closed => rwa [if_pos closed]
      · next isOpen => rwa [if_neg isOpen]
    | false =>
      rw [streamNext_of_not_isEmpty held empty]
      exact fits_of_not_isEmpty empty

/-- Only a stream that ends becomes exhausted, and it ends when the mailbox is closed and empty. -/
theorem exhausted_undergo (exhausted : (subscription.undergo deed).handle = .exhausted) :
    subscription.handle = .exhausted ∨
      subscription.mailbox.closed ≠ none ∧ subscription.mailbox.pending = ∅ := by
  have stop : subscription.stop.2.handle = subscription.handle := by
    unfold stop
    split <;> rfl
  cases deed with
  | mark _ | markAll _ | drain | close _ => exact Or.inl exhausted
  | use use =>
    cases use with
    | stop => exact Or.inl (stop.symm.trans exhausted)
    | drop => cases exhausted
    | changes | next => exact Or.inl exhausted
    | streamNext =>
      change subscription.streamNext.2.2.handle = .exhausted at exhausted
      cases held : subscription.isHeld with
      | false =>
        rw [streamNext_of_not_isHeld held] at exhausted
        exact Or.inl exhausted
      | true =>
        cases empty : subscription.mailbox.pending.isEmpty with
        | false =>
          rw [streamNext_of_not_isEmpty held empty] at exhausted
          cases exhausted
        | true =>
          rw [streamNext_of_isEmpty held empty] at exhausted
          split at exhausted
          · next closed =>
            exact Or.inr ⟨Option.isSome_iff_ne_none.mp closed, Std.ExtTreeSet.isEmpty_iff.mp empty⟩
          · cases exhausted

theorem IsCoherent.undergo (coherent : subscription.IsCoherent) (deed : Deed) :
    (subscription.undergo deed).IsCoherent := by
  have stays : subscription.mailbox.closed ≠ none → (subscription.undergo deed).mailbox.closed ≠ none := by
    intro closed
    obtain ⟨reason, closed⟩ := Option.ne_none_iff_exists'.mp closed
    rw [(subscription.turnover deed).closed_eq closed]
    exact Option.some_ne_none reason
  constructor
  · intro stopped
    cases deed with
    | mark _ | markAll _ | drain | close _ => exact stays (coherent.stopped stopped)
    | use use =>
      cases subscription.effect_use use with
      | keeps _ same | takes _ same => exact stays (coherent.stopped (same.symm.trans stopped))
      | stops mailbox =>
        show (subscription.use use).mailbox.closed ≠ none
        rw [mailbox]
        exact Option.isSome_iff_ne_none.mp (Mailbox.isSome_closed_close _ _)
  · intro exhausted
    have spent : subscription.mailbox.closed ≠ none ∧ subscription.mailbox.pending = ∅ :=
      (exhausted_undergo exhausted).elim coherent.exhausted id
    refine ⟨stays spent.1, ?_⟩
    obtain ⟨reason, closed⟩ := Option.ne_none_iff_exists'.mp spent.1
    rcases ((subscription.turnover deed).of_closed closed).2 with same | emptied
    · rw [same, spent.2]
    · rw [emptied]

theorem IsCoherent.run (coherent : subscription.IsCoherent) (deeds : List Deed) :
    (subscription.run deeds).IsCoherent := by
  induction deeds generalizing subscription with
  | nil => exact coherent
  | cons deed rest ih => exact ih (coherent.undergo deed)

theorem isCoherent_new (key : WatchKey) : ({ key } : Subscription).IsCoherent where
  stopped := nofun
  exhausted := nofun

/-- An open mailbox takes the reason of whoever closes it. -/
theorem IsCoherent.closed_undergo (coherent : subscription.IsCoherent)
    (isOpen : subscription.mailbox.closed = none) (reason : CloseReason) :
    (subscription.undergo (.close reason)).mailbox.closed = some reason ∧
      (subscription.undergo (.use .stop)).mailbox.closed = some .stopped := by
  have serving : subscription.stopped = false :=
    Bool.eq_false_iff.mpr fun stopped => coherent.stopped stopped isOpen
  constructor
  · cases reason <;> simp [Subscription.undergo, Mailbox.close, isOpen]
  · simp [Subscription.undergo, use, stop, serving, Mailbox.close, isOpen]

/-- **A subscriber who asks is told the truth.** -/
theorem IsCoherent.fits (coherent : subscription.IsCoherent) {delivery : Delivery}
    (told : subscription.receipt? use = some (.answer delivery)) (kept : subscription.handle ≠ .dropped) :
    delivery.Fits subscription.mailbox := by
  cases use with
  | stop | drop | changes => cases told
  | next =>
    cases told
    exact subscription.fits_next
  | streamNext =>
    cases told
    exact coherent.fits_streamNext kept

/-! ## The accounts of a mailbox -/

/-- **A mailbox neither loses nor makes up ids.** Every set that is handed over consists of the ids that
were marked, while the mailbox was open, since a set was last handed over, unless they were thrown away.
The marks accepted so far are as many as the ids handed over, those pending and those thrown away. An open
mailbox takes the reason of whoever closes it. It keeps that reason, and from then on accepts nothing. Only
a subscriber's stop throws ids away. Who asks for the next changes, and has not given the subscription up,
is told the truth about the mailbox. -/
theorem marked_ids_conserved (key : WatchKey) (deeds : List Deed) :
    let new : Subscription := { key }
    let now := new.run deeds
    (∀ deed ids, now.handed? deed = some ids → ∀ text, text ∈ ids ↔ new.IsDue deeds text) ∧
      total accepted new deeds =
        total handed new deeds + now.mailbox.pending.size + total discarded new deeds ∧
      (now.mailbox.closed = none → ∀ reason,
        (now.undergo (.close reason)).mailbox.closed = some reason ∧
          (now.undergo (.use .stop)).mailbox.closed = some .stopped) ∧
      (∀ reason, now.mailbox.closed = some reason → ∀ later,
        (now.run later).mailbox.closed = some reason ∧ total accepted now later = 0) ∧
      (∀ reason, reason ≠ .stopped →
        (now.undergo (.close reason)).mailbox.pending = now.mailbox.pending ∧
          now.discarded (.close reason) = 0) ∧
      ∀ use delivery, now.receipt? use = some (.answer delivery) → now.handle ≠ .dropped →
        delivery.Fits now.mailbox := by
  intro new now
  have coherent : now.IsCoherent := (isCoherent_new key).run deeds
  have nothing : new.mailbox.pending = ∅ := rfl
  refine ⟨fun deed ids given text => ?_, ?_, fun isOpen reason => coherent.closed_undergo isOpen reason,
    fun reason closed later => closed_run closed later, fun reason unstopped => now.close_spares unstopped,
    fun use delivery told kept => coherent.fits told kept⟩
  · rw [handed?_eq_some given, mem_pending_run_iff, nothing]
    simp [Std.ExtTreeSet.not_mem_empty]
  · have sums := new.size_pending_add_total deeds
    rw [nothing, Std.ExtTreeSet.size_empty, Nat.zero_add] at sums
    exact sums

/-- A burst of marks is one id, and a subscriber who stops after the watcher has closed loses nothing. -/
example :
    let new : Subscription := { key := .collection "fruit" }
    let deeds : List Deed :=
      [.mark "apple", .mark "apple", .use .next, .markAll ["apple", "pear", "apple"], .close .shutdown,
        .mark "plum", .use .stop]
    total accepted new deeds = 3 ∧
      ((new.run deeds).handed? .drain).map (·.toList) = some ["apple", "pear"] ∧
      total discarded new deeds = 0 := by
  decide

end Subscription

end ChangeFeed
