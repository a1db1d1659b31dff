import NetSrvMgr.StunCache
import Mathlib.Algebra.BigOperators.Group.List.Basic
import Mathlib.Algebra.Order.Field.Rat

namespace NetSrvMgr.Stun
set_option autoImplicit true

/-- The seconds that the loop means to sleep after attempt `k`. -/
def sleepAfter : Nat → Nat
  | 0 => 0
  | k + 1 => min (2 ^ k) 32

/-- What `total_time` is when attempt `k` is due, as long as no sleep is cut short. -/
def attemptTime : Nat → Nat
  | 0 => 0
  | k + 1 => attemptTime k + 2000 + sleepAfter k

section
variable (addressOf : Attribute → Option String)

/-- What attempt `k` comes to: an address, a reply without one or no reply, or an exception. -/
def BindCall.outcome (a : BindCall) (k : Nat) : Option (Option String) :=
  (a.attempt k).reply.mappedAddress addressOf

/-- The address that the last of the first attempts to obtain one obtained. -/
def BindCall.lastAddress (a : BindCall) : Nat → Option String
  | 0 => none
  | k + 1 =>
    match a.outcome addressOf k with
    | some (some ip) => some ip
    | _ => a.lastAddress k

/-- The code that examines the reply of attempt `i`. -/
def BindLoop.read (v : BindLoop) (a : BindCall) (i : Nat) : BindLoop :=
  match a.outcome addressOf i with
  | some (some ip) => v.store a ip (a.attempt i).storedAt
  | _ => v

end

def BindLoop.Holds (v : BindLoop) (address : Option String) : Prop :=
  v.retOk = address.isSome ∧ ∀ ip, address = some ip → v.result = ip ∧ v.client.lastResult = ip

/-- The loop is left for lack of time with the reply of attempt `k` unread. -/
def BindCall.Unread (a : BindCall) (k : Nat) : Prop :=
  0 < k ∧ attemptTime k < a.bindTimeout.toNat ∧ a.bindTimeout.toNat < attemptTime k + 2000

def BindCall.Due (a : BindCall) (k : Nat) : Prop :=
  k < stunDefaultMaxAttempts ∧ attemptTime k < a.bindTimeout.toNat

variable {addressOf : Attribute → Option String}

theorem sleepAfter_le (k : Nat) : sleepAfter k ≤ 32 := by
  cases k with
  | zero => exact Nat.zero_le 32
  | succ k => exact Nat.min_le_right _ 32

theorem sleepAfter_succ (k : Nat) :
    sleepAfter (k + 2) = if sleepAfter (k + 1) < 32 then sleepAfter (k + 1) * 2
      else sleepAfter (k + 1) := by
  rw [sleepAfter, sleepAfter]
  by_cases hk : k < 5
  · have hpow : 2 ^ k ≤ 2 ^ 4 := Nat.pow_le_pow_right (by decide) (by omega)
    rw [Nat.pow_succ]
    split <;> omega
  · have hpow : 2 ^ 5 ≤ 2 ^ k := Nat.pow_le_pow_right (by decide) (by omega)
    rw [Nat.pow_succ]
    split <;> omega

theorem attemptTime_lt (h : j < k) : attemptTime j + 2000 ≤ attemptTime k := by
  induction k with
  | zero => exact absurd h (Nat.not_lt_zero j)
  | succ k ih =>
    rw [attemptTime]
    rcases Nat.lt_succ_iff_lt_or_eq.1 h with hj | rfl
    · have := ih hj
      omega
    · omega

theorem attemptTime_mono (h : j ≤ k) : attemptTime j ≤ attemptTime k := by
  rcases Nat.lt_or_eq_of_le h with h | rfl
  · have := attemptTime_lt h
    omega
  · exact le_refl _

theorem attemptTime_ge (k : Nat) : 2000 * k ≤ attemptTime k := by
  induction k with
  | zero => exact Nat.zero_le _
  | succ k ih =>
    rw [attemptTime]
    omega

theorem pause_first (bt total sleep : Int) : pause bt 0 total sleep = some (total, sleep, []) :=
  rfl

theorem pause_fits {i : Nat} {bt total sleep : Int} (hi : 0 < i) (hs : 0 ≤ sleep)
    (h : total + sleep ≤ bt) : pause bt i total sleep =
      some (total + sleep, if sleep < 32 then sleep * 2 else sleep, [sleep]) := by
  rw [pause, if_pos hi, if_neg (by omega), if_neg (by omega)]

theorem pause_clipped {i : Nat} {bt total sleep : Int} (hi : 0 < i) (h : bt < total + sleep)
    (ht : total ≤ bt) : ∃ s, pause bt i total sleep = some (bt, s, [bt - total]) := by
  rw [pause, if_pos hi, if_pos h, if_neg (by omega), add_sub_cancel]
  exact ⟨_, rfl⟩

theorem pause_breaks {i : Nat} {bt total sleep : Int} (hi : 0 < i) (hs : 0 ≤ sleep)
    (h : bt < total) : pause bt i total sleep = none := by
  rw [pause, if_pos hi, if_pos (by omega : bt < total + sleep), if_pos (by omega)]

theorem bindLoop_succ (addressOf : Attribute → Option String) (a : BindCall) (n i : Nat)
    (v : BindLoop) :
    bindLoop addressOf a (n + 1) i v =
      if v.totalTime < a.bindTimeout.toNat then
        let v := { v with requests := v.requests + 1 }
        if (a.attempt i).reply.isException then v
        else
          match pause a.bindTimeout.toNat i (v.totalTime + 2000) v.sleepTime with
          | none => v
          | some (totalTime, sleepTime, slept) =>
            let v := { v with totalTime, sleepTime, slept := v.slept ++ slept }
            if a.outcome addressOf i = none then v
            else bindLoop addressOf a n (i + 1) (v.read addressOf a i)
      else v := by
  rw [bindLoop]
  split
  · dsimp only
    split
    · rfl
    · rw [stunDefaultWaitInterval]
      cases pause a.bindTimeout.toNat i (v.totalTime + 2000) v.sleepTime with
      | none => rfl
      | some p =>
        dsimp only
        rw [BindCall.outcome]
        cases ho : (a.attempt i).reply.mappedAddress addressOf with
        | none => rfl
        | some o =>
          rw [if_neg (Option.some_ne_none o)]
          cases o with
          | none => simp only [BindLoop.read, BindCall.outcome, ho]
          | some ip => simp only [BindLoop.read, BindCall.outcome, ho]
  · rfl

@[simp] theorem BindLoop.read_totalTime (v : BindLoop) (a : BindCall) (i : Nat) :
    (v.read addressOf a i).totalTime = v.totalTime := by
  rw [BindLoop.read]
  split <;> rfl

@[simp] theorem BindLoop.read_sleepTime (v : BindLoop) (a : BindCall) (i : Nat) :
    (v.read addressOf a i).sleepTime = v.sleepTime := by
  rw [BindLoop.read]
  split <;> rfl

@[simp] theorem BindLoop.read_slept (v : BindLoop) (a : BindCall) (i : Nat) :
    (v.read addressOf a i).slept = v.slept := by
  rw [BindLoop.read]
  split <;> rfl

@[simp] theorem BindLoop.read_requests (v : BindLoop) (a : BindCall) (i : Nat) :
    (v.read addressOf a i).requests = v.requests := by
  rw [BindLoop.read]
  split <;> rfl

theorem BindLoop.Holds.read {v : BindLoop} (h : v.Holds (a.lastAddress addressOf i)) :
    (v.read addressOf a i).Holds (a.lastAddress addressOf (i + 1)) := by
  rw [BindLoop.read, BindCall.lastAddress]
  split
  · apply And.intro rfl
    intro ip hip
    cases hip
    exact ⟨rfl, rfl⟩
  · exact h

theorem BindCall.lastAddress_succ_of_none (h : BindCall.outcome addressOf a i = none) :
    a.lastAddress addressOf (i + 1) = a.lastAddress addressOf i := by
  rw [BindCall.lastAddress, h]

/-- The state of the loop when attempt `i` is due, before any sleep is cut short. -/
structure BindLoop.OnSchedule (addressOf : Attribute → Option String) (a : BindCall) (i : Nat)
    (v : BindLoop) : Prop where
  totalTime : v.totalTime = attemptTime i
  sleepTime : v.sleepTime = sleepAfter (max i 1)
  requests : v.requests = i
  holds : v.Holds (a.lastAddress addressOf i)
  nonneg : 0 ≤ v.slept.sum
  slept : v.slept.sum ≤ v.totalTime ∧ v.slept.sum ≤ a.bindTimeout.toNat ∧
    v.slept.sum ≤ 32 * (i - 1 : Nat)
  due : ∀ k < i, a.Due k
  ran : ∀ k < i, a.outcome addressOf k ≠ none
  uncut : ∀ k < i, 0 < k → attemptTime (k + 1) ≤ a.bindTimeout.toNat

/-- The state in which the loop is left after `m` attempts. -/
structure BindLoop.Ended (addressOf : Attribute → Option String) (a : BindCall) (m : Nat)
    (w : BindLoop) : Prop where
  requests : w.requests = m
  due : ∀ k < m, a.Due k
  ran : ∀ k, k + 1 < m → a.outcome addressOf k ≠ none
  stopped : m = stunDefaultMaxAttempts ∨ a.bindTimeout.toNat ≤ attemptTime m ∨
    ∃ k, m = k + 1 ∧ a.outcome addressOf k = none
  holds : (∀ k, m = k + 1 → ¬a.Unread k) → w.Holds (a.lastAddress addressOf m)
  unread : ∀ k, m = k + 1 → a.Unread k → w.Holds (a.lastAddress addressOf k)
  nonneg : 0 ≤ w.slept.sum
  slept : w.slept.sum ≤ a.bindTimeout.toNat ∧ w.slept.sum ≤ 32 * (m - 1 : Nat)

theorem BindLoop.OnSchedule.ended {v : BindLoop} (hv : v.OnSchedule addressOf a i)
    (h : i = stunDefaultMaxAttempts ∨ a.bindTimeout.toNat ≤ attemptTime i) :
    v.Ended addressOf a i where
  requests := hv.requests
  due := hv.due
  ran k hk := hv.ran k (by omega)
  stopped := h.imp_right Or.inl
  holds _ := hv.holds
  unread := by
    intro k hk hu
    have huncut := hv.uncut k (by omega) hu.1
    have hlt := attemptTime_lt (j := k) (k := k + 1) (by omega)
    have hunread := hu.2.2
    omega
  nonneg := hv.nonneg
  slept := hv.slept.2

theorem BindLoop.OnSchedule.ended_succ {v w : BindLoop} (hv : v.OnSchedule addressOf a i)
    (hdue : a.Due i)
    (hstop : a.bindTimeout.toNat ≤ attemptTime (i + 1) ∨ a.outcome addressOf i = none)
    (hreq : w.requests = i + 1) (hread : ¬a.Unread i → w.Holds (a.lastAddress addressOf (i + 1)))
    (hunread : a.Unread i → w.Holds (a.lastAddress addressOf i))
    (hslept : 0 ≤ w.slept.sum ∧ w.slept.sum ≤ a.bindTimeout.toNat ∧ w.slept.sum ≤ 32 * i) :
    w.Ended addressOf a (i + 1) where
  requests := hreq
  due := by
    intro k hk
    rcases Nat.lt_succ_iff_lt_or_eq.1 hk with hk | rfl
    · exact hv.due k hk
    · exact hdue
  ran k hk := hv.ran k (by omega)
  stopped := Or.inr (hstop.imp_right fun h => ⟨i, rfl, h⟩)
  holds h := hread (h i rfl)
  unread := by
    intro k hk hu
    cases hk
    exact hunread hu
  nonneg := hslept.1
  slept := hslept.2

/-- An attempt that throws ends the loop with the address from before it. -/
theorem BindLoop.OnSchedule.ended_thrown {v w : BindLoop} (hv : v.OnSchedule addressOf a i)
    (hdue : a.Due i) (ho : a.outcome addressOf i = none) (hreq : w.requests = i + 1)
    (hholds : w.Holds (a.lastAddress addressOf i))
    (hslept : 0 ≤ w.slept.sum ∧ w.slept.sum ≤ a.bindTimeout.toNat ∧ w.slept.sum ≤ 32 * i) :
    w.Ended addressOf a (i + 1) := by
  apply hv.ended_succ hdue (Or.inr ho) hreq _ (fun _ => hholds) hslept
  intro _
  rw [BindCall.lastAddress_succ_of_none ho]
  exact hholds

theorem BindLoop.OnSchedule.slept_append {v : BindLoop} (hv : v.OnSchedule addressOf a i)
    (hl : l.sum = (sleepAfter i : Int))
    (hfits : 0 < i → attemptTime (i + 1) ≤ a.bindTimeout.toNat) :
    (v.slept ++ l).sum ≤ attemptTime (i + 1) ∧ 0 ≤ (v.slept ++ l).sum ∧
      (v.slept ++ l).sum ≤ a.bindTimeout.toNat ∧ (v.slept ++ l).sum ≤ 32 * i := by
  rw [List.sum_append, hl]
  have hnonneg := hv.nonneg
  obtain ⟨htotal, htime, hmax⟩ := hv.slept
  rw [hv.totalTime] at htotal
  have hle := sleepAfter_le i
  have hnext : attemptTime (i + 1) = attemptTime i + 2000 + sleepAfter i := rfl
  rcases Nat.eq_zero_or_pos i with rfl | hi
  · have hzero : sleepAfter 0 = 0 := rfl
    omega
  · have := hfits hi
    omega

theorem BindLoop.OnSchedule.slept_clipped {v : BindLoop} (hv : v.OnSchedule addressOf a i)
    (hfits : attemptTime i + 2000 ≤ a.bindTimeout.toNat)
    (hcut : a.bindTimeout.toNat < attemptTime (i + 1)) :
    0 ≤ (v.slept ++ [(a.bindTimeout.toNat : Int) - (attemptTime i + 2000)]).sum ∧
      (v.slept ++ [(a.bindTimeout.toNat : Int) - (attemptTime i + 2000)]).sum ≤
        a.bindTimeout.toNat ∧
      (v.slept ++ [(a.bindTimeout.toNat : Int) - (attemptTime i + 2000)]).sum ≤ 32 * i := by
  rw [List.sum_append, List.sum_singleton]
  have hnonneg := hv.nonneg
  obtain ⟨htotal, htime, hmax⟩ := hv.slept
  rw [hv.totalTime] at htotal
  have hle := sleepAfter_le i
  have hnext : attemptTime (i + 1) = attemptTime i + 2000 + sleepAfter i := rfl
  rcases Nat.eq_zero_or_pos i with rfl | hi
  · have hzero : sleepAfter 0 = 0 := rfl
    omega
  · omega

/-- The next attempt is due on schedule if no sleep was cut short. -/
theorem BindLoop.OnSchedule.next {v : BindLoop} (hv : v.OnSchedule addressOf a i) (hdue : a.Due i)
    (ho : a.outcome addressOf i ≠ none) (hl : l.sum = (sleepAfter i : Int))
    (hfits : 0 < i → attemptTime (i + 1) ≤ a.bindTimeout.toNat) :
    BindLoop.OnSchedule addressOf a (i + 1) (BindLoop.read addressOf { v with
      requests := v.requests + 1, totalTime := attemptTime (i + 1), sleepTime := sleepAfter (i + 1),
      slept := v.slept ++ l } a i) where
  totalTime := BindLoop.read_totalTime _ a i
  sleepTime := by
    rw [BindLoop.read_sleepTime, Nat.max_eq_left (Nat.succ_pos i)]
  requests := by
    rw [BindLoop.read_requests, hv.requests]
  holds := BindLoop.Holds.read hv.holds
  nonneg := by
    rw [BindLoop.read_slept]
    exact (hv.slept_append hl hfits).2.1
  slept := by
    rw [BindLoop.read_slept, BindLoop.read_totalTime]
    obtain ⟨htotal, _, hsum⟩ := hv.slept_append hl hfits
    exact ⟨htotal, hsum⟩
  due := by
    intro k hk
    rcases Nat.lt_succ_iff_lt_or_eq.1 hk with hk | rfl
    · exact hv.due k hk
    · exact hdue
  ran := by
    intro k hk
    rcases Nat.lt_succ_iff_lt_or_eq.1 hk with hk | rfl
    · exact hv.ran k hk
    · exact ho
  uncut := by
    intro k hk hpos
    rcases Nat.lt_succ_iff_lt_or_eq.1 hk with hk | rfl
    · exact hv.uncut k hk hpos
    · exact hfits hpos

theorem sleepAfter_doubled (j : Nat) :
    (if (sleepAfter (j + 1) : Int) < 32 then (sleepAfter (j + 1) : Int) * 2
      else sleepAfter (j + 1)) = sleepAfter (j + 2) := by
  rw [sleepAfter_succ]
  by_cases hmax : sleepAfter (j + 1) < 32
  · rw [if_pos hmax, if_pos (by omega)]
    omega
  · rw [if_neg hmax, if_neg (by omega)]

theorem bindLoop_done {v : BindLoop} (h : ¬v.totalTime < a.bindTimeout.toNat) :
    bindLoop addressOf a n i v = v := by
  cases n with
  | zero => rfl
  | succ n => rw [bindLoop_succ, if_neg h]

theorem BindLoop.OnSchedule.ended_read {v w : BindLoop} (hv : v.OnSchedule addressOf a i)
    (hdue : a.Due i) (htime : a.bindTimeout.toNat ≤ attemptTime (i + 1)) (hread : ¬a.Unread i)
    (hreq : w.requests = i + 1) (hholds : w.Holds (a.lastAddress addressOf i))
    (hslept : 0 ≤ w.slept.sum ∧ w.slept.sum ≤ a.bindTimeout.toNat ∧ w.slept.sum ≤ 32 * i) :
    (w.read addressOf a i).Ended addressOf a (i + 1) := by
  refine hv.ended_succ hdue (Or.inl htime) ?_ ?_ ?_ ?_
  · rw [BindLoop.read_requests, hreq]
  · exact fun _ => BindLoop.Holds.read hholds
  · exact fun hu => absurd hu hread
  · rw [BindLoop.read_slept]
    exact hslept

theorem bindLoop_ended (hn : n + i = stunDefaultMaxAttempts) (hv : v.OnSchedule addressOf a i) :
    ∃ m, (bindLoop addressOf a n i v).Ended addressOf a m := by
  induction n generalizing i v with
  | zero => exact ⟨i, hv.ended (Or.inl (by omega))⟩
  | succ n ih =>
    rw [bindLoop_succ]
    by_cases hlt : v.totalTime < a.bindTimeout.toNat
    · have htotal := hv.totalTime
      obtain ⟨hbelow, htime, hmax⟩ := hv.slept
      have hdue : a.Due i := ⟨by omega, by omega⟩
      have hreq : v.requests + 1 = i + 1 := by rw [hv.requests]
      have hsame : 0 ≤ v.slept.sum ∧ v.slept.sum ≤ a.bindTimeout.toNat ∧ v.slept.sum ≤ 32 * i :=
        ⟨hv.nonneg, htime, by omega⟩
      rw [if_pos hlt]
      dsimp only
      by_cases hex : (a.attempt i).reply.isException = true
      · -- nothing was received
        have ho : a.outcome addressOf i = none := Reply.mappedAddress_exception hex
        rw [if_pos hex]
        exact ⟨i + 1, hv.ended_thrown hdue ho hreq hv.holds hsame⟩
      · rw [if_neg hex, hv.totalTime, hv.sleepTime]
        have hnext : attemptTime (i + 1) = attemptTime i + 2000 + sleepAfter i := rfl
        have hsleep := sleepAfter_le i
        -- a reply that is read throws, or the next attempt is due
        have hfit : ∀ l : List Int, l.sum = (sleepAfter i : Int) →
            (0 < i → attemptTime (i + 1) ≤ a.bindTimeout.toNat) →
            ∃ m, BindLoop.Ended addressOf a m
              (if a.outcome addressOf i = none then { v with
                requests := v.requests + 1, totalTime := attemptTime (i + 1),
                sleepTime := sleepAfter (i + 1), slept := v.slept ++ l }
              else bindLoop addressOf a n (i + 1) (BindLoop.read addressOf { v with
                requests := v.requests + 1, totalTime := attemptTime (i + 1),
                sleepTime := sleepAfter (i + 1), slept := v.slept ++ l } a i)) := by
          intro l hl hfits
          by_cases ho : a.outcome addressOf i = none
          · rw [if_pos ho]
            exact ⟨i + 1, hv.ended_thrown hdue ho hreq hv.holds (hv.slept_append hl hfits).2⟩
          · rw [if_neg ho]
            exact ih (by omega) (hv.next hdue ho hl hfits)
        rcases Nat.eq_zero_or_pos i with rfl | hi
        · -- the first attempt is not followed by a sleep
          rw [pause_first]
          exact hfit [] rfl (fun h => absurd h (Nat.lt_irrefl 0))
        · rw [Nat.max_eq_left hi]
          by_cases hbreak : a.bindTimeout.toNat < attemptTime i + 2000
          · have hu : a.Unread i := ⟨hi, hdue.2, hbreak⟩
            rw [pause_breaks hi (by omega) (by omega)]
            exact ⟨i + 1, hv.ended_succ hdue (Or.inl (by omega)) hreq
              (fun hnot => absurd hu hnot) (fun _ => hv.holds) hsame⟩
          · by_cases hcut : a.bindTimeout.toNat < attemptTime (i + 1)
            · -- the last sleep is cut short
              obtain ⟨s, hp⟩ : ∃ s, pause a.bindTimeout.toNat i (attemptTime i + 2000)
                  (sleepAfter i) = some ((a.bindTimeout.toNat : Int), s,
                    [(a.bindTimeout.toNat : Int) - (attemptTime i + 2000)]) :=
                pause_clipped hi (by omega) (by omega)
              rw [hp]
              dsimp only
              have hslept := hv.slept_clipped (by omega) hcut
              have hread : ¬a.Unread i := fun hu => absurd hu.2.2 hbreak
              by_cases ho : a.outcome addressOf i = none
              · rw [if_pos ho]
                exact ⟨i + 1, hv.ended_thrown hdue ho hreq hv.holds hslept⟩
              · have hdone : ∀ w : BindLoop, w.totalTime = a.bindTimeout.toNat →
                    ¬(w.read addressOf a i).totalTime < a.bindTimeout.toNat := by
                  intro w hw
                  rw [BindLoop.read_totalTime, hw]
                  exact lt_irrefl _
                rw [if_neg ho, bindLoop_done (hdone _ rfl)]
                exact ⟨i + 1, hv.ended_read hdue hcut.le hread hreq hv.holds hslept⟩
            · obtain ⟨j, rfl⟩ : ∃ j, i = j + 1 := ⟨i - 1, by omega⟩
              rw [pause_fits hi (by omega) (by omega)]
              have htimes : (attemptTime (j + 1) + 2000 + sleepAfter (j + 1) : Int) =
                  attemptTime (j + 1 + 1) := by
                omega
              rw [htimes, sleepAfter_doubled]
              exact hfit [(sleepAfter (j + 1) : Int)] (List.sum_singleton) (fun _ => by omega)
    · rw [if_neg hlt]
      have htotal := hv.totalTime
      exact ⟨i, hv.ended (Or.inr (by omega))⟩

/-- The call is answered without asking the server. -/
def Client.answersFromCache (c : Client) (a : BindCall) : Bool :=
  (c.configure a).cacheTimeout.toNat > 0 && !c.dirty a && isValid (c.configure a).lastResult &&
    timeInCache a.checkedAt (c.configure a).lastCacheTime < (c.configure a).cacheTimeout.toNat

def BindLoop.start (c : Client) : BindLoop := ⟨0, 1, false, "", c, [], 0, []⟩

theorem BindLoop.start_onSchedule (c : Client) (a : BindCall) :
    (BindLoop.start c).OnSchedule addressOf a 0 where
  totalTime := rfl
  sleepTime := rfl
  requests := rfl
  holds := by
    apply And.intro rfl
    intro ip hip
    cases hip
  nonneg := le_refl 0
  slept := ⟨le_refl 0, Int.natCast_nonneg _, le_refl 0⟩
  due k hk := absurd hk (Nat.not_lt_zero k)
  ran k hk := absurd hk (Nat.not_lt_zero k)
  uncut k hk := absurd hk (Nat.not_lt_zero k)

theorem Client.bind_ended {c : Client} {a : BindCall} (h : c.answersFromCache a = false) :
    ∃ m w, BindLoop.Ended addressOf a m w ∧ c.bind addressOf a =
      ⟨w.retOk, if w.retOk then w.result else "", w.client, w.requests, w.slept, w.exchanges⟩ := by
  have hstart : (BindLoop.start (c.configure a)).OnSchedule addressOf a 0 :=
    BindLoop.start_onSchedule (c.configure a) a
  obtain ⟨m, hm⟩ := bindLoop_ended (n := stunDefaultMaxAttempts) rfl hstart
  refine ⟨m, _, hm, ?_⟩
  rw [Client.bind]
  exact if_neg (by rw [Bool.not_eq_true]; exact h)

section
variable (addressOf : Attribute → Option String)

/-- `bind` succeeds exactly when an attempt of the call obtained an address, with the address of
the last such attempt, and has no result otherwise. -/
def Client.BindsLast (c : Client) (a : BindCall) : Prop :=
  let out := c.bind addressOf a
  (out.ret = true ↔ ∃ k < out.requests, ∃ ip, a.outcome addressOf k = some (some ip)) ∧
  (out.ret = true → a.lastAddress addressOf out.requests = some out.result ∧
    out.client.lastResult = out.result) ∧
  (out.ret = false → out.result = "")

/-- An attempt that leaves too little time to read its reply obtains no address, or the one that
the last attempt before it to obtain one obtained. -/
def BindCall.UnreadIsOld (a : BindCall) : Prop :=
  ∀ k ip, k < stunDefaultMaxAttempts → a.Unread k → (∀ j < k, a.outcome addressOf j ≠ none) →
    a.outcome addressOf k = some (some ip) → a.lastAddress addressOf k = some ip

end

theorem BindCall.lastAddress_isSome (a : BindCall) (m : Nat) :
    (a.lastAddress addressOf m).isSome = true ↔
      ∃ k < m, ∃ ip, a.outcome addressOf k = some (some ip) := by
  induction m with
  | zero =>
    apply Iff.intro
    · intro h
      exact Bool.noConfusion h
    · intro h
      obtain ⟨k, hk, _⟩ := h
      exact absurd hk (Nat.not_lt_zero k)
  | succ m ih =>
    rw [BindCall.lastAddress]
    split
    · rename_i ip ho
      exact ⟨fun _ => ⟨m, Nat.lt_succ_self m, ip, ho⟩, fun _ => rfl⟩
    · rename_i hno
      rw [ih]
      apply Iff.intro
      · intro h
        obtain ⟨k, hk, hip⟩ := h
        exact ⟨k, Nat.lt_succ_of_lt hk, hip⟩
      · intro h
        obtain ⟨k, hk, ip, hip⟩ := h
        rcases Nat.lt_succ_iff_lt_or_eq.1 hk with hk | rfl
        · exact ⟨k, hk, ip, hip⟩
        · exact absurd hip (hno ip)

theorem BindLoop.Ended.eq_of_unread {w : BindLoop} (hw : w.Ended addressOf a m)
    (hk : k < stunDefaultMaxAttempts) (hu : a.Unread k)
    (hran : ∀ j < k, a.outcome addressOf j ≠ none) : m = k + 1 := by
  obtain ⟨hpos, hdue, hlate⟩ := hu
  rcases Nat.lt_trichotomy m (k + 1) with hm | hm | hm
  · rcases hw.stopped with hstop | hstop | ⟨j, hj, ho⟩
    · omega
    · rcases Nat.lt_succ_iff_lt_or_eq.1 hm with hm | rfl
      · have := attemptTime_lt hm
        omega
      · omega
    · exact absurd ho (hran j (by omega))
  · exact hm
  · have hnext := (hw.due (k + 1) hm).2
    have := attemptTime_lt (j := k) (k := k + 1) (by omega)
    omega

theorem BindCall.lastAddress_succ_of_some (h : BindCall.outcome addressOf a k = some (some ip)) :
    a.lastAddress addressOf (k + 1) = some ip := by
  rw [BindCall.lastAddress, h]

/-- The last address obtained is the one held, unless it is in a reply that was not read. -/
theorem BindLoop.Ended.holds_last {w : BindLoop} (hw : w.Ended addressOf a m)
    (h : a.UnreadIsOld addressOf) : w.Holds (a.lastAddress addressOf m) := by
  by_cases hu : ∃ k, m = k + 1 ∧ a.Unread k
  · obtain ⟨k, rfl, hu⟩ := hu
    have hold := hw.unread k rfl hu
    cases ho : a.outcome addressOf k with
    | none =>
      rw [BindCall.lastAddress_succ_of_none ho]
      exact hold
    | some o =>
      cases o with
      | none =>
        rw [BindCall.lastAddress, ho]
        exact hold
      | some ip =>
        have hran : ∀ j < k, a.outcome addressOf j ≠ none := fun j hj => hw.ran j (by omega)
        have hlast := h k ip (hw.due k (Nat.lt_succ_self k)).1 hu hran ho
        rw [BindCall.lastAddress_succ_of_some ho, ← hlast]
        exact hold
  · apply hw.holds
    intro k hk hk'
    exact hu ⟨k, hk, hk'⟩

/-- A call that asks the server meets its contract exactly when no new address is in a reply for
which too little time is left. -/
theorem bindsLast_iff (addressOf : Attribute → Option String) (c : Client) (a : BindCall)
    (h : c.answersFromCache a = false) :
    c.BindsLast addressOf a ↔ a.UnreadIsOld addressOf := by
  obtain ⟨m, w, hw, hbind⟩ : ∃ m w, BindLoop.Ended addressOf a m w ∧ _ := Client.bind_ended h
  rw [Client.BindsLast, hbind]
  dsimp only
  rw [hw.requests]
  apply Iff.intro
  · intro hspec k ip hk hu hran ho
    obtain ⟨hret, hresult, _⟩ := hspec
    obtain rfl := hw.eq_of_unread hk hu hran
    have hok := hret.2 ⟨k, Nat.lt_succ_self k, ip, ho⟩
    have hlast := (hresult hok).1
    rw [if_pos hok, BindCall.lastAddress_succ_of_some ho, Option.some.injEq] at hlast
    obtain ⟨hsome, hheld⟩ := hw.unread k rfl hu
    rw [hok] at hsome
    obtain ⟨old, hold⟩ := Option.isSome_iff_exists.1 hsome.symm
    rw [hold, hlast, (hheld old hold).1]
  · intro hcond
    obtain ⟨hsome, hheld⟩ := hw.holds_last hcond
    refine ⟨?_, ?_, ?_⟩
    · rw [hsome]
      exact a.lastAddress_isSome m
    · intro hok
      rw [hok] at hsome
      obtain ⟨ip, hip⟩ := Option.isSome_iff_exists.1 hsome.symm
      obtain ⟨hres, hlast⟩ := hheld ip hip
      rw [if_pos hok, hip, hres, hlast]
      exact ⟨rfl, rfl⟩
    · intro hno
      rw [hno, if_neg Bool.false_ne_true]

/-- The default timeout leaves time for one attempt. -/
theorem bindsLast_iff_answered :
    (Client.new.bind mappedIpv4 (answered "stun")).result = "192.0.2.1" ∧
      Client.new.BindsLast mappedIpv4 (answered "stun") := by
  have hdue : ∀ k, ¬(answered "stun").Unread k := by
    intro k hu
    have := attemptTime_lt hu.1
    have htime : (answered "stun").bindTimeout.toNat = 30 := rfl
    have hdue := hu.2.1
    omega
  apply And.intro rfl
  apply (bindsLast_iff mappedIpv4 Client.new (answered "stun") rfl).2
  intro k ip _ hu
  exact absurd hu (hdue k)

/-- The second attempt obtains an address after 4 seconds by the count of the loop, of 3. -/
def lateAnswer : BindCall :=
  { callFor "stun" .noResponse with
    bindTimeout := 3000
    attempt := fun k => if k = 1 then ⟨.response mappedAddressResponse, 0⟩ else ⟨.noResponse, 0⟩ }

theorem bindsLast_late : ¬∀ (addressOf : Attribute → Option String) (c : Client) (a : BindCall),
    c.answersFromCache a = false → c.BindsLast addressOf a := by
  intro h
  have hfound := (h mappedIpv4 Client.new lateAnswer rfl).1.2 ⟨1, by decide, "192.0.2.1", rfl⟩
  exact absurd hfound (by decide)

section
variable (addressOf : Attribute → Option String)

/-- No attempt follows one that obtained an address; without one and without an exception the
loop goes on for 30 attempts or for the timeout, with 2 seconds an attempt; the sleeps add up to
no more than the timeout. -/
def Client.KeepsSchedule (c : Client) (a : BindCall) : Prop :=
  let out := c.bind addressOf a
  (∀ k < out.requests, ∀ ip, a.outcome addressOf k = some (some ip) → out.requests = k + 1) ∧
  ((∀ k < out.requests, a.outcome addressOf k = some none) →
    out.requests = stunDefaultMaxAttempts ∨
      (a.bindTimeout.toNat : Int) ≤ 2 * out.requests + out.slept.sum) ∧
  out.slept.sum ≤ a.bindTimeout.toNat

/-- After an attempt that obtains an address, by the count of the loop, no other is due. -/
def BindCall.EndsOnAddress (a : BindCall) : Prop :=
  ∀ k ip, (∀ j < k, a.outcome addressOf j ≠ none) → a.outcome addressOf k = some (some ip) →
    ¬a.Due (k + 1)

/-- An attempt that is due obtains an address or throws, or the timeout is so short or so long
that the milliseconds counted as seconds make no difference. -/
def BindCall.EndsInTime (a : BindCall) : Prop :=
  (∃ k, a.Due k ∧ a.outcome addressOf k ≠ some none) ∨ a.bindTimeout.toNat ≤ 2 ∨
    58767 < a.bindTimeout.toNat

end

theorem attemptTime_last : attemptTime 29 = 58767 := by
  decide

theorem BindLoop.Ended.le_max {w : BindLoop} (hw : w.Ended addressOf a m) :
    m ≤ stunDefaultMaxAttempts := by
  cases m with
  | zero => exact Nat.zero_le _
  | succ m => exact (hw.due m (Nat.lt_succ_self m)).1

theorem BindLoop.Ended.made {w : BindLoop} (hw : w.Ended addressOf a m) (hk : a.Due k)
    (hran : ∀ j < k, a.outcome addressOf j ≠ none) : k < m := by
  by_contra hle
  rcases hw.stopped with hstop | hstop | ⟨j, hj, ho⟩
  · have hlt := hk.1
    omega
  · have htime := hk.2
    have := attemptTime_mono (Nat.not_lt.1 hle)
    omega
  · exact hran j (by omega) ho

theorem BindLoop.Ended.onAddress_iff {w : BindLoop} (hw : w.Ended addressOf a m) :
    (∀ k < m, ∀ ip, a.outcome addressOf k = some (some ip) → m = k + 1) ↔
      a.EndsOnAddress addressOf := by
  apply Iff.intro
  · intro hlast k ip hran ho hdue
    have hran' : ∀ j < k + 1, a.outcome addressOf j ≠ none := by
      intro j hj
      rcases Nat.lt_succ_iff_lt_or_eq.1 hj with hj | rfl
      · exact hran j hj
      · rw [ho]
        exact Option.some_ne_none _
    have hmade := hw.made hdue hran'
    have := hlast k (by omega) ip ho
    omega
  · intro hlast k hk ip ho
    by_contra hne
    have hran : ∀ j < k, a.outcome addressOf j ≠ none := fun j hj => hw.ran j (by omega)
    exact hlast k ip hran ho (hw.due (k + 1) (by omega))

theorem BindLoop.Ended.quiet_stopped {w : BindLoop} (hw : w.Ended addressOf a m)
    (hnone : ∀ k < m, a.outcome addressOf k = some none) :
    m = stunDefaultMaxAttempts ∨ a.bindTimeout.toNat ≤ attemptTime m := by
  rcases hw.stopped with hstop | hstop | ⟨j, rfl, ho⟩
  · exact Or.inl hstop
  · exact Or.inr hstop
  · rw [hnone j (Nat.lt_succ_self j)] at ho
    exact absurd ho (Option.some_ne_none _)

theorem BindLoop.Ended.inTime {w : BindLoop} (hw : w.Ended addressOf a m)
    (hlong : (∀ k < m, a.outcome addressOf k = some none) →
      m = stunDefaultMaxAttempts ∨ (a.bindTimeout.toNat : Int) ≤ 2 * m + w.slept.sum) :
    a.EndsInTime addressOf := by
  by_contra hnot
  rw [BindCall.EndsInTime, not_or, not_or] at hnot
  obtain ⟨hquiet, hshort, hlow⟩ := hnot
  have hnone : ∀ k < m, a.outcome addressOf k = some none := by
    intro k hk
    by_contra ho
    exact hquiet ⟨k, hw.due k hk, ho⟩
  rcases hlong hnone with hall | htime
  · have hdue := (hw.due 29 (by rw [hall]; decide)).2
    rw [attemptTime_last] at hdue
    omega
  · -- the last attempt was due 2000 seconds after the one before it
    have hmax := hw.slept.2
    cases m with
    | zero => omega
    | succ m =>
      have hdue := (hw.due m (Nat.lt_succ_self m)).2
      have := attemptTime_ge m
      omega

theorem BindLoop.Ended.longEnough {w : BindLoop} (hw : w.Ended addressOf a m)
    (hlong : a.EndsInTime addressOf) (hnone : ∀ k < m, a.outcome addressOf k = some none) :
    m = stunDefaultMaxAttempts ∨ (a.bindTimeout.toNat : Int) ≤ 2 * m + w.slept.sum := by
  rcases hw.quiet_stopped hnone with hall | htime
  · exact Or.inl hall
  rcases hlong with ⟨k, hdue, ho⟩ | hshort | hhigh
  · rcases Nat.lt_or_ge k m with hk | hk
    · exact absurd (hnone k hk) ho
    · have := attemptTime_mono hk
      have hdue := hdue.2
      omega
  · right
    have hnonneg := hw.nonneg
    cases m with
    | zero =>
      rw [attemptTime] at htime
      omega
    | succ m => omega
  · left
    by_contra hall
    have hle := hw.le_max
    have hlt : m ≤ 29 := by
      rw [stunDefaultMaxAttempts] at hall hle
      omega
    have := attemptTime_mono hlt
    rw [attemptTime_last] at this
    omega

theorem keepsSchedule_iff (addressOf : Attribute → Option String) (c : Client) (a : BindCall)
    (h : c.answersFromCache a = false) :
    c.KeepsSchedule addressOf a ↔ a.EndsOnAddress addressOf ∧ a.EndsInTime addressOf := by
  obtain ⟨m, w, hw, hbind⟩ : ∃ m w, BindLoop.Ended addressOf a m w ∧ _ := Client.bind_ended h
  rw [Client.KeepsSchedule, hbind]
  dsimp only
  rw [hw.requests]
  apply and_congr hw.onAddress_iff
  apply Iff.intro
  · intro hspec
    exact hw.inTime hspec.1
  · intro hlong
    exact ⟨hw.longEnough hlong, hw.slept.1⟩

theorem keepsSchedule_iff_answered :
    (Client.new.bind mappedIpv4 (answered "stun")).requests = 1 ∧
      Client.new.KeepsSchedule mappedIpv4 (answered "stun") := by
  apply And.intro rfl
  apply (keepsSchedule_iff mappedIpv4 Client.new (answered "stun") rfl).2
  apply And.intro
  · intro k ip _ _ hdue
    have htime : (answered "stun").bindTimeout.toNat = 30 := rfl
    have hlt := hdue.2
    have := attemptTime_ge (k + 1)
    omega
  · left
    exact ⟨0, ⟨by decide, by decide⟩, by decide⟩

/-- With no answer and the default timeout of 30 seconds there is one attempt, of 2 seconds. -/
theorem keepsSchedule_unanswered : ¬∀ (addressOf : Attribute → Option String) (c : Client)
    (a : BindCall), c.answersFromCache a = false → c.KeepsSchedule addressOf a := by
  intro h
  have hlong := (h mappedIpv4 Client.new (callFor "stun" .noResponse) rfl).2.1 (fun _ _ => rfl)
  exact absurd hlong (by decide)

end NetSrvMgr.Stun
