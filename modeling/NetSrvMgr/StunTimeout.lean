import NetSrvMgr.StunClient

namespace NetSrvMgr.Stun
set_option autoImplicit true

structure Timeval where
  tvSec : Int
  tvUsec : Int
  deriving DecidableEq

def microsecondsPerSecond : Int := 1000000

/-- The time limit that `client::send_message` gives to `select` for a wait in milliseconds; the
microseconds are kept in a signed number of so many bits. -/
def messageTimeout (bits : Nat) (waitTime : Int) : Timeval :=
  let tvUsec := (1000 * waitTime).bmod (2 ^ bits)
  if tvUsec > microsecondsPerSecond then
    let tvSec := tvUsec.tdiv microsecondsPerSecond
    ⟨tvSec, tvUsec - tvSec * microsecondsPerSecond⟩
  else ⟨0, tvUsec⟩

def bindingRequestsWaitTimeMax : Int := 1600

/-- The wait for the next address when one has not answered. -/
def nextWaitTime (waitTime : Int) : Int := min (waitTime * 2) bindingRequestsWaitTimeMax

/-- The wait for each address, from the wait for the first one. -/
def waitTimes (waitTime : Int) : Nat → Int
  | 0 => waitTime
  | n + 1 => waitTimes (nextWaitTime waitTime) n

def discoverWaitTime : Int := 250

structure Timeval.Represents (t : Timeval) (milliseconds : Int) : Prop where
  normalised : 0 ≤ t.tvUsec ∧ t.tvUsec < 1000000
  total : t.tvSec * 1000000 + t.tvUsec = 1000 * milliseconds

/-- The milliseconds are a wait that fits into the microseconds of a `timeval`. -/
def WaitFits (bits : Nat) (milliseconds : Int) : Prop :=
  0 ≤ milliseconds ∧ 2 * (1000 * milliseconds) < 2 ^ bits

instance : Decidable (WaitFits bits milliseconds) := inferInstanceAs (Decidable (_ ∧ _))

theorem messageTimeout_eq (h : WaitFits bits m) :
    messageTimeout bits m =
      if m > 1000 then ⟨1000 * m / 1000000, 1000 * m % 1000000⟩ else ⟨0, 1000 * m⟩ := by
  obtain ⟨hnonneg, hfits⟩ := h
  have husec : (1000 * m).bmod (2 ^ bits) = 1000 * m := by
    apply Int.bmod_eq_of_le_mul_two
    · have hpow : (0 : Int) ≤ ((2 ^ bits : Nat) : Int) := Int.natCast_nonneg _
      omega
    · rw [Int.natCast_pow]
      have hcomm : 1000 * m * 2 = 2 * (1000 * m) := by omega
      rw [hcomm]
      exact hfits
  rw [messageTimeout]
  dsimp only
  rw [husec, microsecondsPerSecond, Int.tdiv_eq_ediv_of_nonneg (by omega)]
  by_cases hm : m > 1000
  · rw [if_pos hm, if_pos (by omega), Timeval.mk.injEq]
    apply And.intro rfl
    omega
  · rw [if_neg hm, if_neg (by omega)]

theorem messageTimeout_represents_iff (h : WaitFits bits m) :
    (messageTimeout bits m).Represents m ↔ m ≠ 1000 := by
  have hnonneg := h.1
  rw [messageTimeout_eq h]
  apply Iff.intro
  · intro hrep hm
    have hlt := hrep.normalised.2
    rw [hm] at hlt
    exact absurd hlt (by decide)
  · intro hm
    split
    · constructor
      · dsimp only
        omega
      · dsimp only
        omega
    · constructor
      · dsimp only
        omega
      · dsimp only
        omega

theorem nextWaitTime_max : nextWaitTime 1600 = 1600 := by decide

theorem waitTimes_max (n : Nat) : waitTimes 1600 n = 1600 := by
  induction n with
  | zero => rfl
  | succ n ih => rw [waitTimes, nextWaitTime_max, ih]

theorem waitTimes_default (n : Nat) : waitTimes stunDefaultWaitInterval (n + 1) = 1600 := by
  have hnext : nextWaitTime stunDefaultWaitInterval = 1600 := by decide
  rw [waitTimes, hnext, waitTimes_max]

theorem waitTimes_discover (n : Nat) : waitTimes discoverWaitTime (n + 3) = 1600 := by
  have h₁ : nextWaitTime discoverWaitTime = 500 := by decide
  have h₂ : nextWaitTime 500 = 1000 := by decide
  have h₃ : nextWaitTime 1000 = 1600 := by decide
  rw [waitTimes, waitTimes, waitTimes, h₁, h₂, h₃, waitTimes_max]

theorem waitTimes_default_ne (n : Nat) : waitTimes stunDefaultWaitInterval n ≠ 1000 := by
  cases n with
  | zero => decide
  | succ n =>
    rw [waitTimes_default]
    decide

theorem waitTimes_discover_iff (n : Nat) : waitTimes discoverWaitTime n = 1000 ↔ n = 2 := by
  match n with
  | 0 => decide
  | 1 => decide
  | 2 => decide
  | n + 3 =>
    rw [waitTimes_discover]
    exact iff_of_false (by decide) (by omega)

/-- The time limit is exact; it is normalised but for a wait of one second, which the waits of
the default path never are and the third wait of the discovery is. -/
theorem messageTimeout_iff (h : WaitFits bits m) :
    ((messageTimeout bits m).Represents m ↔ m ≠ 1000) ∧
      (∀ n, waitTimes stunDefaultWaitInterval n ≠ 1000) ∧
      ∀ n, waitTimes discoverWaitTime n = 1000 ↔ n = 2 :=
  ⟨messageTimeout_represents_iff h, waitTimes_default_ne, waitTimes_discover_iff⟩

theorem messageTimeout_twoSeconds :
    ((messageTimeout 64 2000).Represents 2000 ↔ (2000 : Int) ≠ 1000) ∧
      (∀ n, waitTimes stunDefaultWaitInterval n ≠ 1000) ∧
      ∀ n, waitTimes discoverWaitTime n = 1000 ↔ n = 2 :=
  messageTimeout_iff (by decide)

/-- The third address that discovery tries gets a whole second in microseconds. -/
theorem messageTimeout_oneSecond :
    ¬∀ bits m, WaitFits bits m → (messageTimeout bits m).Represents m := by
  intro h
  have hlt := (h 64 (waitTimes discoverWaitTime 2) (by decide)).normalised.2
  exact absurd hlt (by decide)

end NetSrvMgr.Stun
