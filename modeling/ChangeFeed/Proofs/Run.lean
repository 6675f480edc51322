/-
# Runs

A run is a list of actions that are taken one after the other. What is allowed may depend on the
moment, so a run is allowed when each of its actions is at its own moment, and what every allowed
action keeps, every allowed run keeps.
-/

namespace ChangeFeed

namespace Run

variable {σ α : Type} {act : σ → α → σ} {allowed : σ → α → Prop} {state : σ} {first second : List α}

/-- Every action is allowed at its moment. -/
def Allows (act : σ → α → σ) (allowed : σ → α → Prop) (state : σ) : List α → Prop
  | [] => True
  | action :: rest => allowed state action ∧ Allows act allowed (act state action) rest

instance decidableAllows [∀ state action, Decidable (allowed state action)] :
    ∀ state actions, Decidable (Allows act allowed state actions)
  | _, [] => .isTrue trivial
  | state, action :: rest =>
    have : Decidable (Allows act allowed (act state action) rest) := decidableAllows _ rest
    inferInstanceAs (Decidable (allowed state action ∧ Allows act allowed (act state action) rest))

theorem allows_append_iff :
    Allows act allowed state (first ++ second) ↔
      Allows act allowed state first ∧ Allows act allowed (first.foldl act state) second := by
  induction first generalizing state with
  | nil => simp [Allows]
  | cons action rest ih => simp only [List.cons_append, Allows, ih, List.foldl_cons, and_assoc]

/-- What is allowed at every moment is allowed in every run. -/
theorem allows_of_forall {actions : List α} (always : ∀ action ∈ actions, ∀ state, allowed state action) :
    Allows act allowed state actions := by
  induction actions generalizing state with
  | nil => trivial
  | cons action rest ih =>
    obtain ⟨now, later⟩ := List.forall_mem_cons.mp always
    exact ⟨now state, ih later⟩

/-- **What every allowed action keeps, every allowed run keeps.** -/
theorem induction (invariant : σ → Prop)
    (keeps : ∀ state action, allowed state action → invariant state → invariant (act state action))
    {actions : List α} (allows : Allows act allowed state actions) (holds : invariant state) :
    invariant (actions.foldl act state) := by
  induction actions generalizing state with
  | nil => exact holds
  | cons action rest ih => exact ih allows.2 (keeps state action allows.1 holds)

end Run

end ChangeFeed
