import Mathlib.Data.List.DropRight
import Mathlib.Logic.Function.Basic

namespace Durable
set_option autoImplicit true

/-- A request that a key be present or absent, which lasts over a reboot or not; or a reboot. -/
inductive Op (κ : Type)
  | ask (key : κ) (present persist : Bool)
  | reboot
  deriving DecidableEq

/-- A volatile set of keys over a persistent one. -/
structure Store (κ : Type) where
  volatile : κ → Bool
  persistent : κ → Bool

variable [DecidableEq κ]

def Store.boot (persistent : κ → Bool) : Store κ := ⟨persistent, persistent⟩

def Store.apply (s : Store κ) : Op κ → Store κ
  | .ask k present persist =>
    ⟨Function.update s.volatile k present,
      if persist then Function.update s.persistent k present else s.persistent⟩
  | .reboot => Store.boot s.persistent

/-- What an operation asks about a key. -/
def Op.about (k : κ) : Op κ → Option Bool
  | .ask j present _ => if j = k then some present else none
  | .reboot => none

/-- What an operation asks about a key for good. -/
def Op.aboutForGood (k : κ) : Op κ → Option Bool
  | .ask j present persist => if j = k ∧ persist then some present else none
  | .reboot => none

def Op.isRequest : Op κ → Bool
  | .ask .. => true
  | .reboot => false

def lastAsked (k : κ) (ops : List (Op κ)) : Option Bool := (ops.filterMap (Op.about k)).getLast?

def lastForGood (k : κ) (ops : List (Op κ)) : Option Bool :=
  (ops.filterMap (Op.aboutForGood k)).getLast?

def sinceReboot (ops : List (Op κ)) : List (Op κ) := ops.rtakeWhile Op.isRequest

def untilReboot (ops : List (Op κ)) : List (Op κ) := ops.rdropWhile Op.isRequest

/-- The last word on a key: a request since the last reboot, or else a lasting one before it. -/
def lastWord (initial : κ → Bool) (k : κ) (ops : List (Op κ)) : Bool :=
  (lastAsked k (sinceReboot ops)).getD ((lastForGood k (untilReboot ops)).getD (initial k))

theorem lastAsked_concat (k : κ) (ops : List (Op κ)) (op : Op κ) :
    lastAsked k (ops ++ [op]) = (op.about k).or (lastAsked k ops) := by
  rw [lastAsked, lastAsked, List.filterMap_append, List.filterMap_cons]
  cases op.about k with
  | none => rw [List.filterMap_nil, List.append_nil, Option.none_or]
  | some present => rw [List.filterMap_nil, List.getLast?_concat, Option.some_or]

theorem lastForGood_concat (k : κ) (ops : List (Op κ)) (op : Op κ) :
    lastForGood k (ops ++ [op]) = (op.aboutForGood k).or (lastForGood k ops) := by
  rw [lastForGood, lastForGood, List.filterMap_append, List.filterMap_cons]
  cases op.aboutForGood k with
  | none => rw [List.filterMap_nil, List.append_nil, Option.none_or]
  | some present => rw [List.filterMap_nil, List.getLast?_concat, Option.some_or]

theorem Store.apply_persistent (s : Store κ) (op : Op κ) (k : κ) :
    (s.apply op).persistent k = (op.aboutForGood k).getD (s.persistent k) := by
  cases op with
  | reboot => rfl
  | ask j present persist =>
    rw [Store.apply, Op.aboutForGood]
    cases persist with
    | false => simp
    | true =>
      by_cases hj : j = k
      · subst hj
        simp
      · simp [hj, Function.update_of_ne (Ne.symm hj)]

theorem Store.apply_volatile (s : Store κ) (op : Op κ) (hop : op.isRequest = true) (k : κ) :
    (s.apply op).volatile k = (op.about k).getD (s.volatile k) := by
  cases op with
  | reboot => exact Bool.noConfusion hop
  | ask j present persist =>
    rw [Store.apply, Op.about]
    by_cases hj : j = k
    · subst hj
      simp
    · simp [hj, Function.update_of_ne (Ne.symm hj)]

theorem foldl_apply_persistent (initial : κ → Bool) (ops : List (Op κ)) (k : κ) :
    (ops.foldl Store.apply (Store.boot initial)).persistent k =
      (lastForGood k ops).getD (initial k) := by
  induction ops using List.reverseRecOn with
  | nil => rfl
  | append_singleton ops op ih =>
    rw [List.foldl_append, List.foldl_cons, List.foldl_nil, Store.apply_persistent, ih,
      lastForGood_concat, Option.getD_or]

/-- After any operations the volatile set holds the last word on every key. -/
theorem foldl_apply_volatile (initial : κ → Bool) (ops : List (Op κ)) (k : κ) :
    (ops.foldl Store.apply (Store.boot initial)).volatile k = lastWord initial k ops := by
  induction ops using List.reverseRecOn with
  | nil => rfl
  | append_singleton ops op ih =>
    rw [List.foldl_append, List.foldl_cons, List.foldl_nil]
    cases hop : op.isRequest with
    | true =>
      -- a request adds to the operations since the reboot
      rw [Store.apply_volatile _ op hop, ih, lastWord, lastWord, sinceReboot, sinceReboot,
        untilReboot, untilReboot, List.rtakeWhile_concat_pos _ _ _ hop,
        List.rdropWhile_concat_pos _ _ _ hop, lastAsked_concat, Option.getD_or]
    | false =>
      cases op with
      | ask => exact Bool.noConfusion hop
      | reboot =>
        -- a reboot leaves the last lasting word
        have hneg : ¬ (Op.reboot : Op κ).isRequest = true := by
          rw [hop]
          exact Bool.false_ne_true
        have hper := foldl_apply_persistent initial ops k
        rw [lastWord, sinceReboot, untilReboot, List.rtakeWhile_concat_neg _ _ _ hneg,
          List.rdropWhile_concat_neg _ _ _ hneg, lastForGood_concat]
        exact hper

end Durable
