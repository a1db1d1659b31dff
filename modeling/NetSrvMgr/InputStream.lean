import Mathlib.Data.List.DropRight

namespace InputStream
set_option autoImplicit true

/-- `isspace` in the C locale. -/
def isspace (c : Char) : Bool :=
  c = ' ' || c = '\t' || c = '\n' || c = '\x0b' || c = '\x0c' || c = '\r'

def isword (c : Char) : Bool := !isspace c

/-- What `>>` reads into a string and what it leaves; `none` where it fails, and then the string
keeps what it holds. -/
def extract (s : List Char) : Option (List Char × List Char) :=
  match s.dropWhile isspace with
  | [] => none
  | c :: s => some ((c :: s).takeWhile isword, (c :: s).dropWhile isword)

theorem not_isspace_of_dropWhile {s : List Char} (h : s.dropWhile isspace = c :: t) :
    isspace c = false := by
  have hne : s.dropWhile isspace ≠ [] := by
    rw [h]
    exact List.cons_ne_nil c t
  have hhead := List.head_dropWhile_not isspace hne
  simpa only [h, List.head_cons] using hhead

/-- A text that is extracted as one word. -/
def IsWord (w : List Char) : Prop := w ≠ [] ∧ ∀ c ∈ w, isspace c = false

theorem extract_isspace (h : isspace c = true) (s : List Char) :
    extract (c :: s) = extract s := by
  rw [extract, List.dropWhile_cons_of_pos h, extract]

theorem IsWord.extract_append (hw : IsWord w) (hc : isspace c = true) (rest : List Char) :
    extract (w ++ c :: rest) = some (w, c :: rest) := by
  obtain ⟨hne, hword⟩ := hw
  have hnot : ∀ d ∈ w, isword d = true := by
    intro d hd
    rw [isword, hword d hd]
    rfl
  have hstop : ¬ isword c = true := by
    rw [isword, hc]
    exact Bool.false_ne_true
  have htake : (w ++ c :: rest).takeWhile isword = w := by
    rw [List.takeWhile_append_of_pos hnot, List.takeWhile_cons_of_neg hstop, List.append_nil]
  have hdrop : (w ++ c :: rest).dropWhile isword = c :: rest := by
    rw [List.dropWhile_append_of_pos hnot, List.dropWhile_cons_of_neg hstop]
  cases w with
  | nil => exact absurd rfl hne
  | cons d w =>
    have hskip : (d :: w ++ c :: rest).dropWhile isspace = d :: (w ++ c :: rest) :=
      List.dropWhile_cons_of_neg (by rw [hword d List.mem_cons_self]; exact Bool.false_ne_true)
    rw [extract, hskip]
    dsimp only
    rw [← List.cons_append, htake, hdrop]

theorem IsWord.extract_eq (hw : IsWord w) : extract w = some (w, []) := by
  obtain ⟨hne, hword⟩ := hw
  have hnot : ∀ d ∈ w, isword d = true := by
    intro d hd
    rw [isword, hword d hd]
    rfl
  have htake : w.takeWhile isword = w := List.takeWhile_eq_self_iff.2 hnot
  have hdrop : w.dropWhile isword = [] := List.dropWhile_eq_nil_iff.2 hnot
  cases w with
  | nil => exact absurd rfl hne
  | cons d w =>
    have hskip : (d :: w).dropWhile isspace = d :: w :=
      List.dropWhile_cons_of_neg (by rw [hword d List.mem_cons_self]; exact Bool.false_ne_true)
    rw [extract, hskip]
    dsimp only
    rw [htake, hdrop]

theorem extract_isWord (h : extract s = some (w, rest)) :
    IsWord w ∧ w.Sublist s ∧ rest.Sublist s := by
  rw [extract] at h
  cases hs : s.dropWhile isspace with
  | nil =>
    rw [hs] at h
    cases h
  | cons c t =>
    rw [hs] at h
    cases h
    have hsub : (c :: t).Sublist s := hs ▸ List.dropWhile_sublist isspace
    have hc : isword c = true := by
      rw [isword, not_isspace_of_dropWhile hs]
      rfl
    refine ⟨⟨?_, ?_⟩, (List.takeWhile_sublist _).trans hsub, (List.dropWhile_sublist _).trans hsub⟩
    · rw [List.takeWhile_cons_of_pos hc]
      exact List.cons_ne_nil _ _
    · intro d hd
      have hall := List.mem_takeWhile_imp hd
      rw [isword, Bool.not_eq_true'] at hall
      exact hall

end InputStream
