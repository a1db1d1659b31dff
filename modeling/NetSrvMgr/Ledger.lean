import Mathlib.Data.List.Basic
import Mathlib.Data.Set.Insert
import Mathlib.Order.BooleanAlgebra.Set

set_option autoImplicit true

/-- What a program acquired and released; a resource is named by its place in the order of
acquisition. -/
structure Ledger where
  acquired : Nat
  released : List Nat

namespace Ledger

/-- The new resource is `l.acquired`. -/
def acquire (l : Ledger) : Ledger := { l with acquired := l.acquired + 1 }

def release (l : Ledger) (k : Nat) : Ledger := { l with released := l.released ++ [k] }

/-- The resource that a handle names. -/
def named (handle : Option Nat) : Set Nat := {k | handle = some k}

def releaseNamed (l : Ledger) (handle : Option Nat) : Ledger :=
  match handle with
  | none => l
  | some k => l.release k

/-- The program still has the resources in `held`, none of them released. -/
structure Holds (l : Ledger) (held : Set Nat) : Prop where
  isOpen : ∀ k ∈ held, k < l.acquired ∧ k ∉ l.released
  wasAcquired : ∀ k ∈ l.released, k < l.acquired

/-- Of what was acquired from the `n`th on, all that is not held was released exactly once. -/
def Accounted (l : Ledger) (n : Nat) (held : Set Nat) : Prop :=
  ∀ k, n ≤ k → k < l.acquired → k ∉ held → l.released.count k = 1

@[simp] theorem named_none : named none = ∅ := by
  ext k
  exact iff_of_false (by simp [named]) (Set.notMem_empty k)

@[simp] theorem named_some (k : Nat) : named (some k) = {k} := by
  ext j
  exact Option.some_inj.trans eq_comm

@[simp] theorem acquired_acquire (l : Ledger) : l.acquire.acquired = l.acquired + 1 := rfl

@[simp] theorem acquired_release (l : Ledger) (k : Nat) : (l.release k).acquired = l.acquired := rfl

@[simp] theorem acquired_releaseNamed (l : Ledger) (handle : Option Nat) :
    (l.releaseNamed handle).acquired = l.acquired := by
  cases handle with
  | none => rfl
  | some k => rfl

theorem count_release (l : Ledger) (k : Nat) :
    (l.release k).released.count k = l.released.count k + 1 := by
  rw [release, List.count_append, List.count_singleton_self]

theorem count_release_of_ne (l : Ledger) (h : j ≠ k) :
    (l.release k).released.count j = l.released.count j := by
  rw [release, List.count_append, List.count_singleton, if_neg (by simpa using h.symm),
    Nat.add_zero]

theorem Holds.acquired_notMem {l : Ledger} (h : l.Holds held) : l.acquired ∉ held :=
  fun hk => Nat.lt_irrefl _ (h.isOpen _ hk).1

theorem Holds.acquire {l : Ledger} (h : l.Holds held) :
    l.acquire.Holds (insert l.acquired held) where
  isOpen k hk := by
    rcases hk with rfl | hk
    · apply And.intro (Nat.lt_succ_self _)
      intro hreleased
      exact Nat.lt_irrefl _ (h.wasAcquired _ hreleased)
    · exact ⟨Nat.lt_succ_of_lt (h.isOpen k hk).1, (h.isOpen k hk).2⟩
  wasAcquired k hk := Nat.lt_succ_of_lt (h.wasAcquired k hk)

theorem Holds.release {l : Ledger} (h : l.Holds held) (hk : k ∈ held) :
    (l.release k).Holds (held \ {k}) where
  isOpen j hj := by
    obtain ⟨hheld, hne⟩ := hj
    apply And.intro (h.isOpen j hheld).1
    intro hreleased
    rcases List.mem_append.1 hreleased with hreleased | hreleased
    · exact (h.isOpen j hheld).2 hreleased
    · exact hne (List.mem_singleton.1 hreleased)
  wasAcquired j hj := by
    rcases List.mem_append.1 hj with hj | hj
    · exact h.wasAcquired j hj
    · rw [List.mem_singleton.1 hj]
      exact (h.isOpen k hk).1

theorem Holds.mono {l : Ledger} (h : l.Holds held) (hsub : kept ⊆ held) : l.Holds kept where
  isOpen k hk := h.isOpen k (hsub hk)
  wasAcquired := h.wasAcquired

theorem Holds.releaseNamed {l : Ledger} (h : l.Holds held) (hsub : named handle ⊆ held) :
    (l.releaseNamed handle).Holds (held \ named handle) := by
  cases handle with
  | none => exact h.mono Set.sdiff_subset
  | some k =>
    rw [named_some]
    exact h.release (hsub rfl)

theorem accounted_acquired (l : Ledger) (held : Set Nat) : l.Accounted l.acquired held :=
  fun _ hle hlt _ => absurd hlt (Nat.not_lt.2 hle)

theorem accounted_acquire_iff {l : Ledger} :
    l.acquire.Accounted n (insert l.acquired held) ↔ l.Accounted n held := by
  apply Iff.intro
  · intro h k hn hk hheld
    apply h k hn (Nat.lt_succ_of_lt hk)
    intro hmem
    rcases hmem with rfl | hmem
    · exact Nat.lt_irrefl _ hk
    · exact hheld hmem
  · intro h k hn hk hheld
    rw [Set.mem_insert_iff, not_or] at hheld
    exact h k hn (Nat.lt_of_le_of_ne (Nat.lt_succ_iff.1 hk) hheld.1) hheld.2

theorem accounted_release_iff {l : Ledger} (h : l.Holds held) (hk : k ∈ held) :
    (l.release k).Accounted n (held \ {k}) ↔ l.Accounted n held := by
  apply Iff.intro
  · intro hacc j hn hj hheld
    have hne : j ≠ k := fun he => hheld (he ▸ hk)
    rw [← count_release_of_ne l hne]
    exact hacc j hn hj (fun hmem => hheld hmem.1)
  · intro hacc j hn hj hheld
    by_cases he : j = k
    · rw [he, count_release, List.count_eq_zero.2 (h.isOpen k hk).2]
    · rw [count_release_of_ne l he]
      exact hacc j hn hj (fun hmem => hheld ⟨hmem, he⟩)

theorem accounted_releaseNamed_iff {l : Ledger} (h : l.Holds held) (hsub : named handle ⊆ held) :
    (l.releaseNamed handle).Accounted n (held \ named handle) ↔ l.Accounted n held := by
  cases handle with
  | none =>
    rw [named_none, Set.sdiff_empty]
    exact Iff.rfl
  | some k =>
    rw [named_some]
    exact accounted_release_iff h (hsub rfl)

/-- What is forgotten without being released never is. -/
theorem Holds.not_accounted {l : Ledger} (h : l.Holds held) (hk : k ∈ held) (hn : n ≤ k)
    (hkept : k ∉ kept) : ¬l.Accounted n kept := by
  intro hacc
  have hone := hacc k hn (h.isOpen k hk).1 hkept
  rw [List.count_eq_zero.2 (h.isOpen k hk).2] at hone
  cases hone

end Ledger
