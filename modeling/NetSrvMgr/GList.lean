import Mathlib.Data.List.Basic

set_option autoImplicit true

/-- A pointer into a doubly linked list: the data of the node it stands at, with the data of
the nodes before it, nearest first, and after it. -/
inductive GList (α : Type u) where
  | null
  | node (prev : List α) (data : α) (next : List α)
  deriving DecidableEq

namespace GList

def ofList : List α → GList α
  | [] => null
  | x :: xs => node [] x xs

/-- The data of the whole list, wherever the pointer stands in it. -/
def toList : GList α → List α
  | null => []
  | node prev data next => prev.reverse ++ data :: next

def first (l : GList α) : GList α := ofList l.toList

def next : GList α → GList α
  | null => null
  | node _ _ [] => null
  | node prev data (x :: xs) => node (data :: prev) x xs

def length : GList α → Nat
  | null => 0
  | node _ _ next => next.length + 1

/-- `g_list_prepend`, before the node the pointer stands at. -/
def prepend (l : GList α) (x : α) : GList α :=
  match l with
  | null => node [] x []
  | node prev data next => node prev x (data :: next)

/-- Search from a node on, with the nodes before it in `prev`. -/
def findFrom (p : α → Bool) (prev : List α) : List α → GList α
  | [] => null
  | x :: xs => if p x then node prev x xs else findFrom p (x :: prev) xs

/-- `g_list_find_custom`: the first node from the pointer on whose data is accepted. -/
def findCustom (p : α → Bool) : GList α → GList α
  | null => null
  | node prev data next => findFrom p prev (data :: next)

/-- `g_list_remove` of the data at the pointer, the only node that holds it: the head of what
is left. -/
def removeData : GList α → GList α
  | null => null
  | node prev _ next => ofList (prev.reverse ++ next)

@[simp] theorem toList_ofList (xs : List α) : (ofList xs).toList = xs := by
  cases xs with
  | nil => rfl
  | cons x xs => rfl

theorem ofList_eq_null_iff {xs : List α} : ofList xs = .null ↔ xs = [] := by
  cases xs with
  | nil => exact iff_of_true rfl rfl
  | cons x xs => exact iff_of_false (fun h => by cases h) (fun h => by cases h)

@[simp] theorem toList_first (l : GList α) : l.first.toList = l.toList := toList_ofList l.toList

@[simp] theorem length_ofList (xs : List α) : (ofList xs).length = xs.length := by
  cases xs with
  | nil => rfl
  | cons x xs => rfl

@[simp] theorem prepend_ofList (xs : List α) (x : α) :
    (ofList xs).prepend x = ofList (x :: xs) := by
  cases xs with
  | nil => rfl
  | cons y ys => rfl

theorem findFrom_of_find_none (h : xs.find? p = none) : findFrom p prev xs = null := by
  induction xs generalizing prev with
  | nil => rfl
  | cons x xs ih =>
    rw [List.find?_cons] at h
    rw [findFrom]
    cases hx : p x with
    | true =>
      rw [hx] at h
      cases h
    | false =>
      rw [hx] at h
      exact ih h

theorem findFrom_of_find_some (prev : List α) (h : xs.find? p = some x) :
    ∃ ys zs, xs = ys ++ x :: zs ∧ findFrom p prev xs = node (ys.reverse ++ prev) x zs ∧
      p x = true ∧ ∀ y ∈ ys, p y = false := by
  induction xs generalizing prev with
  | nil => cases h
  | cons y xs ih =>
    rw [List.find?_cons] at h
    rw [findFrom]
    cases hy : p y with
    | true =>
      rw [hy] at h
      cases h
      exact ⟨[], xs, rfl, rfl, hy, fun _ hz => absurd hz List.not_mem_nil⟩
    | false =>
      rw [hy] at h
      obtain ⟨ys, zs, rfl, hf, hx, hys⟩ := ih (y :: prev) h
      refine ⟨y :: ys, zs, rfl, ?_, hx, ?_⟩
      · rw [if_neg Bool.false_ne_true, hf, List.reverse_cons, List.append_assoc]
        rfl
      · intro z hz
        rcases List.mem_cons.1 hz with rfl | hz
        · exact hy
        · exact hys z hz

theorem findCustom_ofList (p : α → Bool) (xs : List α) :
    findCustom p (ofList xs) = findFrom p [] xs := by
  cases xs with
  | nil => rfl
  | cons x xs => rfl

/-- Finding an element and removing its node erases the first accepted element. -/
theorem removeData_findCustom (h : xs.find? p = some x) :
    (findCustom p (ofList xs)).removeData = ofList (xs.eraseP p) := by
  obtain ⟨ys, zs, rfl, hf, hx, hys⟩ := findFrom_of_find_some [] h
  rw [findCustom_ofList, hf, removeData, List.append_nil, List.reverse_reverse,
    List.eraseP_append_right _ (fun y hy => by rw [hys y hy]; exact Bool.false_ne_true),
    List.eraseP_cons_of_pos hx]

end GList
