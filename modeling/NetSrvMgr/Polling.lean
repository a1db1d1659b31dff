import Mathlib.Order.Basic

namespace Polling
set_option autoImplicit true

variable (ready : σ → Bool) (wait : Nat → σ → σ)

/-- The state after `n` waits, the first of them the `k`-th. -/
def after : Nat → Nat → σ → σ
  | 0, _, s => s
  | n + 1, k, s => after n (k + 1) (wait k s)

/-- At most `left` waits for a ready state: whether there was one, and the state in the end. -/
def outcome : Nat → Nat → σ → Bool × σ
  | 0, _, s => (false, s)
  | left + 1, k, s => if ready s then (true, s) else outcome left (k + 1) (wait k s)

/-- The outcome is the first ready state or, where there is none, the state after all waits. -/
theorem outcome_iff (P : Bool × σ → Prop) (n k : Nat) (s : σ) :
    P (outcome ready wait n k s) ↔
      (∀ j < n, (∀ i < j, ready (after wait i k s) = false) →
        ready (after wait j k s) = true → P (true, after wait j k s)) ∧
      ((∀ i < n, ready (after wait i k s) = false) → P (false, after wait n k s)) := by
  induction n generalizing k s with
  | zero =>
    apply Iff.intro
    · intro h
      exact ⟨fun j hj => absurd hj (Nat.not_lt_zero j), fun _ => h⟩
    · intro h
      exact h.2 (fun i hi => absurd hi (Nat.not_lt_zero i))
  | succ n ih =>
    rw [outcome]
    by_cases hs : ready s = true
    · rw [if_pos hs]
      apply Iff.intro
      · intro h
        apply And.intro
        · intro j _ hbefore _
          cases j with
          | zero => exact h
          | succ j =>
            have hno : ready s = false := hbefore 0 j.succ_pos
            rw [hs] at hno
            cases hno
        · intro hbefore
          have hno : ready s = false := hbefore 0 n.succ_pos
          rw [hs] at hno
          cases hno
      · intro h
        exact h.1 0 n.succ_pos (fun i hi => absurd hi (Nat.not_lt_zero i)) hs
    · have hno : ready s = false := Bool.eq_false_iff.mpr hs
      rw [if_neg hs, ih]
      apply and_congr
      · apply Iff.intro
        · intro h j hj hbefore hready
          cases j with
          | zero => exact absurd hready hs
          | succ j =>
            exact h j (Nat.lt_of_succ_lt_succ hj)
              (fun i hi => hbefore (i + 1) (Nat.succ_lt_succ hi)) hready
        · intro h j hj hbefore hready
          refine h (j + 1) (Nat.succ_lt_succ hj) (fun i hi => ?_) hready
          cases i with
          | zero => exact hno
          | succ i => exact hbefore i (Nat.lt_of_succ_lt_succ hi)
      · apply Iff.intro
        · intro h hall
          exact h (fun i hi => hall (i + 1) (Nat.succ_lt_succ hi))
        · intro h hall
          refine h (fun i hi => ?_)
          cases i with
          | zero => exact hno
          | succ i => exact hall i (Nat.lt_of_succ_lt_succ hi)

theorem outcome_timedOut_iff (n k : Nat) (s : σ) :
    (outcome ready wait n k s).1 = false ↔ ∀ i < n, ready (after wait i k s) = false := by
  induction n generalizing k s with
  | zero => exact iff_of_true rfl (fun i hi => absurd hi (Nat.not_lt_zero i))
  | succ n ih =>
    rw [outcome, Nat.forall_lt_succ_left]
    by_cases hs : ready s = true
    · rw [if_pos hs]
      apply iff_of_false Bool.noConfusion
      intro h
      have hno : ready s = false := h.1
      rw [hs] at hno
      cases hno
    · rw [if_neg hs, ih]
      exact (and_iff_right (Bool.eq_false_iff.mpr hs)).symm

end Polling
