import Mathlib.Data.List.Basic
import Mathlib.Data.List.Infix

namespace Transition
set_option autoImplicit true

/-- Run a partial step function over a list of inputs. -/
def run (step : σ → ι → Option σ) (s : σ) : List ι → Option σ
  | [] => some s
  | i :: is => (step s i).bind fun t => run step t is

/-- Every step of a run meets a condition on the state before it and its input. -/
def StepsMeet (step : σ → ι → Option σ) (C : σ → ι → Prop) (s : σ) : List ι → Prop
  | [] => True
  | i :: is => C s i ∧ ∀ t, step s i = some t → StepsMeet step C t is

variable {step : σ → ι → Option σ} {C : σ → ι → Prop} {P : σ → Prop}

@[simp] theorem run_nil (s : σ) : run step s [] = some s := rfl

@[simp] theorem run_cons (s : σ) (i : ι) (is : List ι) :
    run step s (i :: is) = (step s i).bind fun t => run step t is := rfl

theorem run_append (s : σ) (is js : List ι) :
    run step s (is ++ js) = (run step s is).bind fun t => run step t js := by
  induction is generalizing s with
  | nil => rfl
  | cons i is ih =>
    rw [List.cons_append, run_cons, run_cons, Option.bind_assoc]
    simp only [ih]

theorem run_concat_eq_some_iff :
    run step s (is ++ [i]) = some t ↔ ∃ u, run step s is = some u ∧ step u i = some t := by
  rw [run_append, Option.bind_eq_some_iff]
  simp only [run_cons, run_nil, Option.bind_fun_some]

theorem run_invariant (hstep : ∀ s, ∀ i ∈ is, ∀ t, P s → step s i = some t → P t)
    (h : run step s is = some t) (hs : P s) : P t := by
  induction is generalizing s with
  | nil =>
    cases h
    exact hs
  | cons i is ih =>
    obtain ⟨u, hu, hr⟩ := Option.bind_eq_some_iff.1 h
    have htail : ∀ s, ∀ j ∈ is, ∀ t, P s → step s j = some t → P t :=
      fun s j hj => hstep s j (List.mem_cons_of_mem i hj)
    exact ih htail hr (hstep s i List.mem_cons_self u hs hu)

/-- A condition met by every step lets an invariant be preserved only under that condition. -/
theorem StepsMeet.invariant (hstep : ∀ s i t, P s → C s i → step s i = some t → P t)
    (hm : StepsMeet step C s (is ++ js)) (hs : P s) (h : run step s is = some t) :
    P t ∧ StepsMeet step C t js := by
  induction is generalizing s with
  | nil =>
    cases h
    exact ⟨hs, hm⟩
  | cons i is ih =>
    obtain ⟨hc, hm⟩ := hm
    obtain ⟨u, hu, hr⟩ := Option.bind_eq_some_iff.1 h
    exact ih (hm u hu) (hstep s i u hs hc hu) hr

/-- A run stays defined and within `P` exactly when each step meets the condition that keeps
one step defined and within `P`. -/
theorem stepsMeet_iff (hstep : ∀ s i, P s → (C s i ↔ ∃ t, step s i = some t ∧ P t))
    (hs : P s) : StepsMeet step C s is ↔
      ∀ js, js <+: is → ∃ t, run step s js = some t ∧ P t := by
  induction is generalizing s with
  | nil =>
    apply Iff.intro
    · intro _ js hjs
      rw [List.prefix_nil.1 hjs]
      exact ⟨s, rfl, hs⟩
    · intro _
      trivial
  | cons i is ih =>
    apply Iff.intro
    · rintro ⟨hc, hm⟩ js hjs
      obtain ⟨t, ht, hP⟩ := (hstep s i hs).1 hc
      cases js with
      | nil => exact ⟨s, rfl, hs⟩
      | cons j js =>
        obtain ⟨rfl, hjs'⟩ := List.cons_prefix_cons.1 hjs
        obtain ⟨u, hu, hPu⟩ := (ih hP).1 (hm t ht) js hjs'
        exact ⟨u, by rw [run_cons, ht, Option.bind_some, hu], hPu⟩
    · intro h
      obtain ⟨t, ht, hP⟩ := h [i] (by simp)
      rw [run_cons, Option.bind_eq_some_iff] at ht
      obtain ⟨t', ht', hr⟩ := ht
      cases hr
      refine ⟨(hstep s i hs).2 ⟨t, ht', hP⟩, ?_⟩
      intro t' ht''
      cases ht'.symm.trans ht''
      refine (ih hP).2 ?_
      intro js hjs
      obtain ⟨u, hu, hPu⟩ := h (i :: js) (List.cons_prefix_cons.2 ⟨rfl, hjs⟩)
      rw [run_cons, ht', Option.bind_some] at hu
      exact ⟨u, hu, hPu⟩

theorem stepsMeet_iff_reached :
    StepsMeet step C s is ↔
      ∀ js i t, js ++ [i] <+: is → run step s js = some t → C t i := by
  induction is generalizing s with
  | nil =>
    apply Iff.intro
    · intro _ js i t hjs
      exact absurd (List.prefix_nil.1 hjs) (List.append_ne_nil_of_right_ne_nil js
        (List.cons_ne_nil i []))
    · intro _
      trivial
  | cons k is ih =>
    apply Iff.intro
    · intro h js i t hjs ht
      obtain ⟨hc, hm⟩ := h
      cases js with
      | nil =>
        obtain ⟨rfl, _⟩ := List.cons_prefix_cons.1 hjs
        cases ht
        exact hc
      | cons j js =>
        obtain ⟨rfl, hpre⟩ := List.cons_prefix_cons.1 hjs
        obtain ⟨u, hu, hr⟩ := Option.bind_eq_some_iff.1 ht
        exact ih.1 (hm u hu) js i t hpre hr
    · intro h
      apply And.intro (h [] k s (by simp) rfl)
      intro u hu
      apply ih.2
      intro js i t hjs ht
      apply h (k :: js) i t (List.cons_prefix_cons.2 ⟨rfl, hjs⟩)
      rw [run_cons, hu, Option.bind_some, ht]

/-- Every step of a run meets `C` exactly when the state after each of its inputs is as `Q`
wants, if that is so for one step and a step that meets `C` preserves `P`. -/
theorem stepsMeet_iff_outcome {Q : ι → σ → Prop}
    (hstep : ∀ s i, P s → (C s i ↔ ∀ t, step s i = some t → Q i t))
    (hP : ∀ s i t, P s → C s i → step s i = some t → P t) (hs : P s) :
    StepsMeet step C s is ↔
      ∀ js i t, js ++ [i] <+: is → run step s (js ++ [i]) = some t → Q i t := by
  apply Iff.intro
  · intro hm js i t hjs ht
    obtain ⟨u, hu, ht⟩ := run_concat_eq_some_iff.1 ht
    obtain ⟨rest, rfl⟩ := hjs
    rw [List.append_assoc] at hm
    obtain ⟨hPu, hc, _⟩ := hm.invariant hP hs hu
    exact (hstep u i hPu).1 hc t ht
  · intro h
    induction is generalizing s with
    | nil => trivial
    | cons k is ih =>
      have hc : C s k := by
        apply (hstep s k hs).2
        intro t ht
        exact h [] k t (by simp) (run_concat_eq_some_iff.2 ⟨s, rfl, ht⟩)
      apply And.intro hc
      intro u hu
      apply ih (hP s k u hs hc hu)
      intro js i t hjs ht
      apply h (k :: js) i t (List.cons_prefix_cons.2 ⟨rfl, hjs⟩)
      rw [List.cons_append, run_cons, hu, Option.bind_some, ht]

end Transition
