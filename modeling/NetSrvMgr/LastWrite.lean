import Mathlib.Data.List.Basic

namespace LastWrite
set_option autoImplicit true

/-- Of the entries that write something, the one that comes last decides. -/
def lastWrite (write : ε → Option α) (entries : List ε) (old : α) : α :=
  (entries.filterMap write).getLast?.getD old

section
variable {write : ε → Option α}

@[simp] theorem lastWrite_nil (old : α) : lastWrite write [] old = old := rfl

theorem lastWrite_cons (entry : ε) (entries : List ε) (old : α) :
    lastWrite write (entry :: entries) old =
      lastWrite write entries ((write entry).getD old) := by
  rw [lastWrite, lastWrite, List.filterMap_cons]
  cases write entry with
  | none => rfl
  | some a =>
    dsimp only
    rw [List.getLast?_cons]
    cases (entries.filterMap write).getLast? with
    | none => rfl
    | some b => rfl

theorem lastWrite_append (xs ys : List ε) (old : α) :
    lastWrite write (xs ++ ys) old = lastWrite write ys (lastWrite write xs old) := by
  induction xs generalizing old with
  | nil => rfl
  | cons x xs ih => rw [List.cons_append, lastWrite_cons, lastWrite_cons, ih]

theorem lastWrite_map (f : δ → ε) (entries : List δ) (old : α) :
    lastWrite write (entries.map f) old = lastWrite (fun d => write (f d)) entries old := by
  rw [lastWrite, lastWrite, List.filterMap_map]
  rfl

theorem lastWrite_congr {write' : ε → Option α}
    (h : ∀ entry ∈ entries, write entry = write' entry) (old : α) :
    lastWrite write entries old = lastWrite write' entries old := by
  rw [lastWrite, lastWrite, List.filterMap_congr h]

theorem lastWrite_of_none (h : ∀ entry ∈ entries, write entry = none) (old : α) :
    lastWrite write entries old = old := by
  rw [lastWrite, List.filterMap_eq_nil_iff.2 h]
  rfl

/-- A loop whose steps overwrite a part of the state, or leave it. -/
theorem foldl_eq_lastWrite {step : σ → ε → σ} (part : σ → α)
    (hstep : ∀ s entry, part (step s entry) = (write entry).getD (part s)) (entries : List ε)
    (s : σ) : part (entries.foldl step s) = lastWrite write entries (part s) := by
  induction entries generalizing s with
  | nil => rfl
  | cons entry entries ih => rw [List.foldl_cons, ih, hstep, lastWrite_cons]

theorem lastWrite_cases (entries : List ε) :
    (∀ old, lastWrite write entries old = old) ∨
      (∃ entry ∈ entries, (write entry).isSome = true) ∧
        ∃ a, ∀ old, lastWrite write entries old = a := by
  induction entries with
  | nil => exact Or.inl fun old => rfl
  | cons entry entries ih =>
    rcases ih with hkeep | ⟨⟨e, he, hwrite⟩, a, ha⟩
    · cases hw : write entry with
      | none =>
        refine Or.inl fun old => ?_
        rw [lastWrite_cons, hw, hkeep]
        rfl
      | some a =>
        refine Or.inr ⟨⟨entry, List.mem_cons_self, by rw [hw, Option.isSome_some]⟩, a, ?_⟩
        intro old
        rw [lastWrite_cons, hw, hkeep]
        rfl
    · refine Or.inr ⟨⟨e, List.mem_cons_of_mem entry he, hwrite⟩, a, ?_⟩
      intro old
      rw [lastWrite_cons, ha]

end

/-- Every entry of a log stands where those before it allow it. -/
def Justified (ok : List ε → ε → Prop) (log : List ε) : Prop :=
  ∀ before entry after, log = before ++ entry :: after → ok before entry

variable {ok : List ε → ε → Prop}

theorem Justified.nil : Justified ok [] := by
  intro before entry after h
  cases before with
  | nil => cases h
  | cons => cases h

theorem Justified.mem (h : Justified ok log) (he : entry ∈ log) : ∃ before, ok before entry := by
  obtain ⟨before, after, heq⟩ := List.append_of_mem he
  exact ⟨before, h before entry after heq⟩

theorem split_concat {log before after : List ε} {entry entry' : ε}
    (h : log ++ [entry] = before ++ entry' :: after) :
    (log = before ∧ entry = entry' ∧ after = []) ∨
      ∃ after', after = after' ++ [entry] ∧ log = before ++ entry' :: after' := by
  rcases List.eq_nil_or_concat after with rfl | ⟨after', last, rfl⟩
  · obtain ⟨hlog, hlast⟩ := List.append_inj' h rfl
    exact Or.inl ⟨hlog, List.head_eq_of_cons_eq hlast, rfl⟩
  · have hsplit : before ++ entry' :: (after' ++ [last]) =
        (before ++ entry' :: after') ++ [last] := by
      rw [List.append_assoc, List.cons_append]
    rw [List.concat_eq_append, hsplit] at h
    obtain ⟨hlog, hlast⟩ := List.append_inj' h rfl
    cases hlast
    exact Or.inr ⟨after', List.concat_eq_append, hlog⟩

theorem Justified.concat (h : Justified ok log) (he : ok log entry) :
    Justified ok (log ++ [entry]) := by
  intro before entry' after heq
  rcases split_concat heq with ⟨rfl, rfl, _⟩ | ⟨after', _, hlog⟩
  · exact he
  · exact h before entry' after' hlog

end LastWrite
