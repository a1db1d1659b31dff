import Mathlib.Data.List.TakeDrop

set_option autoImplicit true

/-- A script over variables `ρ` that has commands `κ` carried out: the commands so far and, unless
it still waits for an outcome, its result. -/
def Script (κ ρ α : Type) : Type := ρ → List κ × Option (α × ρ)

namespace Script

def bind (m : Script κ ρ α) (f : α → Script κ ρ β) : Script κ ρ β := fun r =>
  match m r with
  | (cs, none) => (cs, none)
  | (cs, some (a, r')) => (cs ++ (f a r').1, (f a r').2)

instance : Monad (Script κ ρ) where
  pure a := fun r => ([], some (a, r))
  bind := bind

def issue (cs : List κ) : Script κ ρ Unit := fun r => (cs, some ((), r))

/-- The variables, which `f` then changes. -/
def modifyGet (f : ρ → α × ρ) : Script κ ρ α := fun r => ([], some (f r))

/-- A script that waits for an outcome which never comes. -/
def blocked : Script κ ρ α := fun _ => ([], none)

theorem pure_apply (a : α) (r : ρ) : (pure a : Script κ ρ α) r = ([], some (a, r)) := rfl

theorem issue_apply (cs : List κ) (r : ρ) : (issue cs : Script κ ρ Unit) r = (cs, some ((), r)) :=
  rfl

theorem bind_of_none {m : Script κ ρ α} (h : m r = (cs, none)) (f : α → Script κ ρ β) :
    (m >>= f) r = (cs, none) := by
  change Script.bind m f r = _
  rw [Script.bind, h]

theorem bind_of_some {m : Script κ ρ α} (h : m r = (cs, some (a, r'))) (f : α → Script κ ρ β) :
    (m >>= f) r = (cs ++ (f a r').1, (f a r').2) := by
  change Script.bind m f r = _
  rw [Script.bind, h]

@[simp] theorem issue_bind (cs : List κ) (f : Unit → Script κ ρ β) (r : ρ) :
    (issue cs >>= f) r = (cs ++ (f () r).1, (f () r).2) := rfl

@[simp] theorem modifyGet_bind (g : ρ → α × ρ) (f : α → Script κ ρ β) (r : ρ) :
    (modifyGet g >>= f) r = f (g r).1 (g r).2 := rfl

@[simp] theorem pure_bind (a : α) (f : α → Script κ ρ β) (r : ρ) :
    ((pure a : Script κ ρ α) >>= f) r = f a r := rfl

section Triple

variable (step : σ → κ → σ)

/-- Started where `P` holds, the script leaves a state in `I` wherever it is cut off, and one in
`Q` when it ends. -/
def Triple (P : ρ → σ → Prop) (I : σ → Prop) (m : Script κ ρ α) (Q : α → ρ → σ → Prop) : Prop :=
  ∀ r s, P r s → (∀ k, I (((m r).1.take k).foldl step s)) ∧
    ∀ a r', (m r).2 = some (a, r') → Q a r' ((m r).1.foldl step s)

variable {step} {P : ρ → σ → Prop} {I J : σ → Prop}

theorem Triple.pure {Q : α → ρ → σ → Prop} (hI : ∀ r s, P r s → I s)
    (hQ : ∀ r s, P r s → Q a r s) :
    Triple step P I (Pure.pure a : Script κ ρ α) Q := by
  intro r s hP
  apply And.intro
  · intro k
    rw [pure_apply, List.take_nil]
    exact hI r s hP
  · intro b r' h
    cases h
    exact hQ r s hP

theorem Triple.bind {m : Script κ ρ α} {f : α → Script κ ρ β} {Q : α → ρ → σ → Prop}
    {R : β → ρ → σ → Prop} (hm : Triple step P I m Q)
    (hf : ∀ a, Triple step (Q a) I (f a) R) : Triple step P I (m >>= f) R := by
  intro r s hP
  obtain ⟨hcut, hend⟩ := hm r s hP
  rcases hmr : m r with ⟨cs, _ | ⟨a, r'⟩⟩
  · rw [hmr] at hcut
    rw [bind_of_none hmr]
    apply And.intro hcut
    intro b r' h
    cases h
  · rw [hmr] at hcut hend
    rw [bind_of_some hmr]
    obtain ⟨hcut', hend'⟩ := hf a r' _ (hend a r' rfl)
    apply And.intro
    · intro k
      rw [List.take_append, List.foldl_append]
      rcases Nat.le_total k cs.length with hk | hk
      · rw [Nat.sub_eq_zero_of_le hk, List.take_zero]
        exact hcut k
      · rw [List.take_of_length_le hk]
        exact hcut' _
    · intro b r'' h
      rw [List.foldl_append]
      exact hend' b r'' h

theorem Triple.mono {m : Script κ ρ α} {Q R : α → ρ → σ → Prop} (hm : Triple step P I m Q)
    (hI : ∀ s, I s → J s) (hQ : ∀ a r s, Q a r s → R a r s) : Triple step P J m R := by
  intro r s h
  obtain ⟨hcut, hend⟩ := hm r s h
  exact ⟨fun k => hI _ (hcut k), fun a r' ha => hQ a r' _ (hend a r' ha)⟩

theorem Triple.ite {m n : Script κ ρ α} {Q : α → ρ → σ → Prop} {c : Prop} [Decidable c]
    (hm : c → Triple step P I m Q) (hn : ¬c → Triple step P I n Q) :
    Triple step P I (if c then m else n) Q := by
  split
  · exact hm ‹_›
  · exact hn ‹_›

theorem Triple.blocked {Q : α → ρ → σ → Prop} (hI : ∀ r s, P r s → I s) :
    Triple step P I (blocked : Script κ ρ α) Q := by
  intro r s hP
  apply And.intro
  · intro k
    rw [Script.blocked, List.take_nil]
    exact hI r s hP
  · intro a r' h
    cases h

theorem Triple.issue {cs : List κ} {Q : Unit → ρ → σ → Prop}
    (hcut : ∀ r s, P r s → ∀ k, I ((cs.take k).foldl step s))
    (hend : ∀ r s, P r s → Q () r (cs.foldl step s)) :
    Triple step P I (issue cs : Script κ ρ Unit) Q := by
  intro r s hP
  apply And.intro (hcut r s hP)
  intro a r' h
  cases h
  exact hend r s hP

end Triple

/-- Every command that the script issues is of a kind. -/
def Issues (C : κ → Prop) (m : Script κ ρ α) : Prop := ∀ r, ∀ c ∈ (m r).1, C c

variable {C : κ → Prop}

theorem Issues.pure (a : α) : Issues C (Pure.pure a : Script κ ρ α) := fun _ _ hc =>
  absurd hc List.not_mem_nil

theorem Issues.blocked : Issues C (blocked : Script κ ρ α) := fun _ _ hc =>
  absurd hc List.not_mem_nil

theorem Issues.modifyGet (f : ρ → α × ρ) : Issues C (modifyGet f : Script κ ρ α) := fun _ _ hc =>
  absurd hc List.not_mem_nil

theorem Issues.issue (h : ∀ c ∈ cs, C c) : Issues C (issue cs : Script κ ρ Unit) := fun _ => h

theorem Issues.bind {m : Script κ ρ α} {f : α → Script κ ρ β} (hm : m.Issues C)
    (hf : ∀ a, (f a).Issues C) : (m >>= f).Issues C := by
  intro r c hc
  rcases hmr : m r with ⟨cs, _ | ⟨a, r'⟩⟩
  · rw [bind_of_none hmr] at hc
    apply hm r
    rw [hmr]
    exact hc
  · rw [bind_of_some hmr] at hc
    rcases List.mem_append.1 hc with hc | hc
    · apply hm r
      rw [hmr]
      exact hc
    · exact hf a r' c hc

theorem Issues.ite {m n : Script κ ρ α} {c : Prop} [Decidable c] (hm : m.Issues C)
    (hn : n.Issues C) : Issues C (if c then m else n) := by
  split
  · exact hm
  · exact hn

theorem foldl_invariant {step : σ → κ → σ} {P : σ → Prop} {cs : List κ}
    (hstep : ∀ s, ∀ c ∈ cs, P s → P (step s c)) (hs : P s) : P (cs.foldl step s) := by
  induction cs generalizing s with
  | nil => exact hs
  | cons c cs ih =>
    apply ih (fun s c hc => hstep s c (List.mem_cons_of_mem _ hc))
    exact hstep s c List.mem_cons_self hs

/-- What every command of the kind preserves, the script preserves wherever it is cut off. -/
theorem Issues.triple {step : σ → κ → σ} {m : Script κ ρ α} {P : σ → Prop} (h : m.Issues C)
    (hstep : ∀ s c, C c → P s → P (step s c)) :
    Triple step (fun _ => P) P m (fun _ _ => P) := by
  intro r s hP
  apply And.intro
  · intro k
    exact foldl_invariant (fun s c hc => hstep s c (h r c (List.mem_of_mem_take hc))) hP
  · intro a r' _
    exact foldl_invariant (fun s c hc => hstep s c (h r c hc)) hP

end Script
