/-
# How long a retry waits

The delay starts at the base and doubles with every attempt until the cap is reached, and no doubling is
lost to the limits of a word: what saturates is beyond any cap. Only the number of doublings is limited.
So the delay is the capped exponential exactly as long as 32 doublings either suffice for the attempt or
reach the cap.
-/

import ChangeFeed.Backoff
import Mathlib.Algebra.Order.Ring.Nat

namespace ChangeFeed.Backoff

variable {policy : Backoff} {attempt later : Nat}

theorem defect?_eq_none_iff :
    policy.defect? = none ↔ 0 < policy.baseDelay ∧ policy.baseDelay ≤ policy.maxDelay := by
  unfold defect?
  split
  · simp_all
  · split
    · simp_all
    · simp only [true_iff]
      omega

/-- A cap of 64 bits makes up for the word that the delay is computed in. -/
theorem delay_eq_min (fits : policy.maxDelay ≤ maxUInt64) (attempt : Nat) :
    policy.delay attempt = min (policy.baseDelay * 2 ^ min attempt 32) policy.maxDelay := by
  show min (min (policy.baseDelay * 2 ^ min attempt 32) maxUInt64) policy.maxDelay = _
  rw [min_assoc, min_eq_right fits]

/-- More doublings make the delay no shorter. -/
theorem doubled_mono (base : Nat) (fewer : attempt ≤ later) : base * 2 ^ attempt ≤ base * 2 ^ later :=
  Nat.mul_le_mul_left base (Nat.pow_le_pow_right Nat.two_pos fewer)

theorem delay_mono (fits : policy.maxDelay ≤ maxUInt64) (fewer : attempt ≤ later) :
    policy.delay attempt ≤ policy.delay later := by
  rw [delay_eq_min fits, delay_eq_min fits]
  exact min_le_min_right _ (doubled_mono _ (min_le_min_right 32 fewer))

theorem baseDelay_le_delay (sound : policy.defect? = none) (fits : policy.maxDelay ≤ maxUInt64) :
    policy.baseDelay ≤ policy.delay attempt := by
  rw [delay_eq_min fits]
  exact le_min (Nat.le_mul_of_pos_right _ (Nat.two_pow_pos _)) (defect?_eq_none_iff.mp sound).2

/-- **The delay is the capped exponential exactly if 32 doublings are enough**, for the attempt or for the
cap. -/
theorem delay_eq_capped_iff (sound : policy.defect? = none) (fits : policy.maxDelay ≤ maxUInt64) :
    policy.delay attempt = min (policy.baseDelay * 2 ^ attempt) policy.maxDelay ↔
      attempt ≤ 32 ∨ policy.maxDelay ≤ policy.baseDelay * 2 ^ 32 := by
  rw [delay_eq_min fits]
  rcases Nat.lt_or_ge 32 attempt with many | few
  · rw [min_eq_right many.le, or_iff_right (Nat.not_le.mpr many)]
    have longer : policy.baseDelay * 2 ^ 32 < policy.baseDelay * 2 ^ attempt :=
      Nat.mul_lt_mul_of_pos_left (Nat.pow_lt_pow_right Nat.one_lt_two many)
        (defect?_eq_none_iff.mp sound).1
    omega
  · rw [min_eq_left few]
    exact iff_of_true rfl (Or.inl few)

/-- **The delay is exponential, within 32 doublings, and capped.** For every policy that is accepted and
every attempt it is the least of the base doubled with each attempt, up to 32 times, and the cap, in
unbounded numbers. So it is never below the base and never beyond the cap, and it never falls. It is what
unlimited doubling under the cap would give exactly if the attempt is at most the 32nd or 32 doublings
reach the cap. -/
theorem delay_capped_exponential (policy : Backoff) (sound : policy.defect? = none)
    (fits : policy.maxDelay ≤ maxUInt64) (attempt : Nat) :
    policy.delay attempt = min (policy.baseDelay * 2 ^ min attempt 32) policy.maxDelay ∧
      policy.baseDelay ≤ policy.delay attempt ∧ policy.delay attempt ≤ policy.maxDelay ∧
      (∀ later, attempt ≤ later → policy.delay attempt ≤ policy.delay later) ∧
      (policy.delay attempt = min (policy.baseDelay * 2 ^ attempt) policy.maxDelay ↔
        attempt ≤ 32 ∨ policy.maxDelay ≤ policy.baseDelay * 2 ^ 32) :=
  ⟨delay_eq_min fits attempt, baseDelay_le_delay sound fits, policy.delay_le_maxDelay attempt,
    fun _ fewer => delay_mono fits fewer, delay_eq_capped_iff sound fits⟩

/-- At the largest numbers nothing wraps, however often is tried. -/
theorem largest_delay_capped :
    let policy : Backoff := { baseDelay := 9223372036854775809, maxDelay := maxUInt64 }
    policy.defect? = none ∧ policy.maxDelay ≤ maxUInt64 ∧
      policy.delay 1000 = min (policy.baseDelay * 2 ^ 1000) policy.maxDelay ∧
      policy.delay 0 ≤ policy.delay 1000 := by
  intro policy
  have sound : policy.defect? = none := by decide
  have fits : policy.maxDelay ≤ maxUInt64 := Nat.le_refl _
  refine ⟨sound, fits, ?_, ?_⟩
  · exact (delay_capped_exponential policy sound fits 1000).2.2.2.2.mpr (Or.inr (by decide))
  · exact (delay_capped_exponential policy sound fits 0).2.2.2.1 1000 (Nat.zero_le _)

/-- Under a cap that 32 doublings do not reach the delay stays behind. -/
theorem doubling_ends_below_cap :
    let policy : Backoff := { baseDelay := 1, maxDelay := 8589934592 }
    policy.defect? = none ∧ policy.maxDelay ≤ maxUInt64 ∧ policy.delay 33 = 4294967296 ∧
      min (policy.baseDelay * 2 ^ 33) policy.maxDelay = 8589934592 := by
  decide

end ChangeFeed.Backoff
