/-
# What a use brings

A subscriber uses a subscription in five ways, and to the mailbox each of them is one of three things:
it is left alone, or emptied, or closed by the subscriber. What the subscriber gets is what was pending
when the mailbox is emptied, and no ids at all otherwise. The watcher is to be told of it when the
mailbox is closed, and only then.
-/

import ChangeFeed.Proofs.Solo

namespace ChangeFeed

/-- The ids that a subscriber gets. -/
def Receipt.ids : Receipt → IdSet
  | .taken ids | .answer (.changes ids) => ids
  | .answer .pending | .answer .ended => ∅

/-- A mailbox that somebody closes is closed afterwards. -/
theorem Mailbox.isSome_closed_close (mailbox : Mailbox) (reason : CloseReason) :
    (mailbox.close reason).closed.isSome = true := by
  cases closed : mailbox.closed <;> cases reason <;> simp [close, closed]

namespace Subscription

variable {subscription before after : Subscription} {asks : Bool} {receipt : Option Receipt}

/-- What a use, with what it brings, comes to. -/
inductive Effect (before after : Subscription) (asks : Bool) (receipt : Option Receipt) : Prop where
  | keeps (mailbox : after.mailbox = before.mailbox) (stopped : after.stopped = before.stopped)
      (unasked : asks = false) (nothing : ∀ got ∈ receipt, got.ids = ∅)
  | takes (mailbox : after.mailbox = { before.mailbox with pending := ∅ })
      (stopped : after.stopped = before.stopped) (unasked : asks = false)
      (all : ∃ got ∈ receipt, got.ids = before.mailbox.pending)
  | stops (mailbox : after.mailbox = before.mailbox.close .stopped) (serving : before.stopped = false)
      (stopped : after.stopped = true) (asked : asks = true)
      (nothing : ∀ got ∈ receipt, got.ids = ∅)

/-- How a subscription is held makes no difference. -/
theorem Effect.of_handle (effect : Effect before after asks receipt) (handle : Handle) :
    Effect before { after with handle } asks receipt := by
  cases effect with
  | keeps mailbox stopped unasked nothing => exact .keeps mailbox stopped unasked nothing
  | takes mailbox stopped unasked all => exact .takes mailbox stopped unasked all
  | stops mailbox serving stopped asked nothing => exact .stops mailbox serving stopped asked nothing

theorem effect_stop (subscription : Subscription) (nothing : ∀ got ∈ receipt, got.ids = ∅) :
    Effect subscription subscription.stop.2 subscription.stop.1 receipt := by
  unfold stop
  cases stopped : subscription.stopped with
  | true => exact .keeps rfl rfl rfl nothing
  | false => exact .stops rfl stopped rfl rfl nothing

/-- Asked when nothing is pending, a subscription stays as it is. -/
theorem next_of_isEmpty (empty : subscription.mailbox.pending.isEmpty = true) :
    subscription.next =
      (if subscription.mailbox.closed.isSome then .ended else .pending, subscription) := by
  simp [next, Mailbox.next, empty]

/-- Asked when something is pending, it hands all of it over. -/
theorem next_of_not_isEmpty (full : subscription.mailbox.pending.isEmpty = false) :
    subscription.next = (.changes subscription.mailbox.pending, subscription.changes.2) := by
  simp [next, Mailbox.next, full, Mailbox.drain, changes]

theorem effect_next (subscription : Subscription) :
    Effect subscription subscription.next.2 false (some (.answer subscription.next.1)) := by
  cases empty : subscription.mailbox.pending.isEmpty with
  | true =>
    rw [next_of_isEmpty empty]
    refine .keeps rfl rfl rfl fun got given => ?_
    cases given
    split <;> rfl
  | false =>
    rw [next_of_not_isEmpty empty]
    exact .takes rfl rfl rfl ⟨_, rfl, rfl⟩

/-! ## Streams -/

/-- The subscriber still has the subscription, as a handle or as a stream. -/
def isHeld (subscription : Subscription) : Bool :=
  match subscription.handle with
  | .held | .streaming => true
  | .exhausted | .dropped => false

/-- A stream that has ended, or was given up, has ended for good. -/
theorem streamNext_of_not_isHeld (gone : subscription.isHeld = false) :
    subscription.streamNext = (.ended, false, subscription) := by
  unfold isHeld at gone
  unfold streamNext
  split <;> simp_all

/-- A stream asked when nothing is pending ends if the mailbox is closed, and waits if it is open. -/
theorem streamNext_of_isEmpty (held : subscription.isHeld = true)
    (empty : subscription.mailbox.pending.isEmpty = true) :
    subscription.streamNext =
      if subscription.mailbox.closed.isSome then
        (.ended, subscription.stop.1, { subscription.stop.2 with handle := .exhausted })
      else (.pending, false, { subscription with handle := .streaming }) := by
  unfold isHeld at held
  unfold streamNext
  rw [next_of_isEmpty empty]
  split <;> cases closed : subscription.mailbox.closed <;> simp_all

/-- A stream asked when something is pending hands all of it over. -/
theorem streamNext_of_not_isEmpty (held : subscription.isHeld = true)
    (full : subscription.mailbox.pending.isEmpty = false) :
    subscription.streamNext =
      (.changes subscription.mailbox.pending, false,
        { subscription.changes.2 with handle := .streaming }) := by
  unfold isHeld at held
  unfold streamNext
  rw [next_of_not_isEmpty full]
  split <;> simp_all

/-- A stream has ended before, ends, waits or hands over what is pending. -/
theorem streamNext_cases (subscription : Subscription) :
    (subscription.isHeld = false ∧ subscription.streamNext = (.ended, false, subscription)) ∨
      subscription.isHeld = true ∧
        (subscription.mailbox.closed.isSome = true ∧ subscription.streamNext =
            (.ended, subscription.stop.1, { subscription.stop.2 with handle := .exhausted }) ∨
          subscription.streamNext = (.pending, false, { subscription with handle := .streaming }) ∨
          subscription.streamNext = (.changes subscription.mailbox.pending, false,
            { subscription.changes.2 with handle := .streaming })) := by
  cases held : subscription.isHeld with
  | false => exact Or.inl ⟨rfl, streamNext_of_not_isHeld held⟩
  | true =>
    refine Or.inr ⟨rfl, ?_⟩
    cases empty : subscription.mailbox.pending.isEmpty with
    | true =>
      rw [streamNext_of_isEmpty held empty]
      split
      · next closed => exact Or.inl ⟨closed, rfl⟩
      · exact Or.inr (Or.inl rfl)
    | false => exact Or.inr (Or.inr (streamNext_of_not_isEmpty held empty))

theorem effect_streamNext (subscription : Subscription) :
    Effect subscription subscription.streamNext.2.2 subscription.streamNext.2.1
      (some (.answer subscription.streamNext.1)) := by
  have ended : ∀ got ∈ some (Receipt.answer .ended), got.ids = ∅ := by
    rintro got ⟨⟩
    rfl
  rcases subscription.streamNext_cases with ⟨-, gone⟩ | ⟨-, ⟨-, ends⟩ | waits | hands⟩
  · rw [gone]
    exact .keeps rfl rfl rfl ended
  · rw [ends]
    exact (subscription.effect_stop ended).of_handle .exhausted
  · rw [waits]
    refine .keeps rfl rfl rfl ?_
    rintro got ⟨⟩
    rfl
  · rw [hands]
    exact .takes rfl rfl rfl ⟨_, rfl, rfl⟩

/-! ## Uses -/

/-- Whether the watcher is to be told of a use. -/
def unregisters (subscription : Subscription) : Use → Bool
  | .stop => subscription.stop.1
  | .drop => subscription.drop.1
  | .streamNext => subscription.streamNext.2.1
  | .changes | .next => false

/-- **Every use leaves the mailbox alone, empties it or closes it.** -/
theorem effect_use (subscription : Subscription) (use : Use) :
    Effect subscription (subscription.use use) (subscription.unregisters use)
      (subscription.receipt? use) := by
  have nothing : ∀ got ∈ (none : Option Receipt), got.ids = ∅ := nofun
  cases use with
  | stop => exact subscription.effect_stop nothing
  | drop => exact (subscription.effect_stop nothing).of_handle .dropped
  | changes => exact .takes rfl rfl rfl ⟨_, rfl, rfl⟩
  | next => exact subscription.effect_next
  | streamNext => exact subscription.effect_streamNext

theorem key_stop (subscription : Subscription) : subscription.stop.2.key = subscription.key := by
  unfold stop
  split <;> rfl

/-- No use changes the key. -/
theorem key_use (subscription : Subscription) (use : Use) :
    (subscription.use use).key = subscription.key := by
  cases use with
  | stop | drop => exact subscription.key_stop
  | changes | next => rfl
  | streamNext =>
    show subscription.streamNext.2.2.key = subscription.key
    rcases subscription.streamNext_cases with ⟨-, gone⟩ | ⟨-, ⟨-, ends⟩ | waits | hands⟩
    · rw [gone]
    · rw [ends]
      exact subscription.key_stop
    · rw [waits]
    · rw [hands]
      rfl

/-- Who does not stop a subscription goes on holding it. -/
theorem isHeld_use {use : Use} (serving : (subscription.use use).stopped = false) :
    (subscription.use use).isHeld = subscription.isHeld := by
  cases use with
  | stop | drop => exact absurd (serving.symm.trans (Watcher.stopped_stop subscription)) Bool.false_ne_true
  | changes | next => rfl
  | streamNext =>
    change subscription.streamNext.2.2.stopped = false at serving
    show subscription.streamNext.2.2.isHeld = subscription.isHeld
    rcases subscription.streamNext_cases with ⟨-, gone⟩ | ⟨held, ⟨-, ends⟩ | waits | hands⟩
    · rw [gone]
    · rw [ends] at serving
      exact absurd (serving.symm.trans (Watcher.stopped_stop subscription)) Bool.false_ne_true
    · rw [waits, held]
      rfl
    · rw [hands, held]
      rfl

end Subscription

end ChangeFeed
