import NetSrvMgr.LafConnect

namespace NetSrvMgr.Wifi
set_option autoImplicit true

/-- What other threads set the status to, one after the other. -/
def statusChanges (codes : List WiFiStatusCode) (s : WifiState) : WifiState :=
  codes.foldl WifiState.setWiFiStatusCode s

/-- The sleep with the number `k`, counted from 0; the changes with the number 0 came before. -/
def statusWait (changes : Nat → List WiFiStatusCode) (k : Nat) (s : WifiState) : WifiState :=
  statusChanges (changes (k + 1)) s

/-- The wait for the disconnection, with at most `left` sleeps to come; `none` if it were still
asleep then. -/
def disconnectWaits (changes : Nat → List WiFiStatusCode) :
    Nat → Nat → WifiState → Option Int × WifiState
  | left, retry, s =>
    match lafDisconnectPoll retry s with
    | some result => (some result, s)
    | none =>
      match left with
      | 0 => (none, s)
      | left + 1 => disconnectWaits changes left (retry + 1) (statusWait changes retry s)

/-- The state once the HAL has been asked, with the changes that come meanwhile. -/
def disconnectRequested (changes : Nat → List WiFiStatusCode) (s : WifiState) : WifiState :=
  (statusChanges (changes 0) s).setLNFState .lnfInProgress

/-- `laf_wifi_disconnect` to its return; `ret` is what `wifi_disconnectEndpoint` returns. -/
def lafWifiDisconnectReturn (ret : Int) (changes : Nat → List WiFiStatusCode) (s : WifiState) :
    Option Int × WifiState :=
  if s.isLAFCurrConnectedssid = false then (some 0, s)
  else if s.bStopLNFWhileDisconnected then (some eperm, s)
  else
    -- the 0 of a request that succeeded becomes false
    let retVal : Bool := ret ≠ 0
    let s := disconnectRequested changes s
    if retVal = false then (some eperm, s) else disconnectWaits changes 31 0 s

/-- The status that the poll after `k` sleeps sees, if the wait gets there. -/
def statusSeen (changes : Nat → List WiFiStatusCode) (s : WifiState) (k : Nat) :
    WiFiStatusCode :=
  (Polling.after (statusWait changes) k 0 (disconnectRequested changes s)).gWifiAdopterStatus

/-- The result tells the LNF library whether the disconnection was done. -/
structure ReportsDisconnect (ret : Int) (changes : Nat → List WiFiStatusCode) (s : WifiState)
    (r : Option Int × WifiState) : Prop where
  returns : r.1.isSome = true
  zero_iff : r.1 = some 0 ↔ ret = 0 ∧ r.2.gWifiAdopterStatus = .disconnected
  failed : ret ≠ 0 → r.1 = some eperm
  reached : ret = 0 → (∃ k ≤ 31, statusSeen changes s k = .disconnected) → r.1 = some 0

/-- No poll sees the disconnection; after a request that failed, the last one does not count. -/
def NeverSeenDisconnected (ret : Int) (changes : Nat → List WiFiStatusCode) (s : WifiState) :
    Prop :=
  ∀ k < if ret = 0 then 32 else 31, statusSeen changes s k ≠ .disconnected

def WifiState.isDisconnected (s : WifiState) : Bool := s.gWifiAdopterStatus = .disconnected

theorem statusChanges_keeps (f : WifiState → α)
    (hf : ∀ (s : WifiState) (status : WiFiStatusCode), f (s.setWiFiStatusCode status) = f s)
    (codes : List WiFiStatusCode) (s : WifiState) : f (statusChanges codes s) = f s := by
  induction codes generalizing s with
  | nil => rfl
  | cons status codes ih => exact (ih _).trans (hf s status)

theorem statusChanges_notStopped (codes : List WiFiStatusCode) (s : WifiState) :
    (statusChanges codes s).bStopLNFWhileDisconnected = s.bStopLNFWhileDisconnected :=
  statusChanges_keeps WifiState.bStopLNFWhileDisconnected (fun _ _ => rfl) codes s

theorem lafDisconnectPoll_over (s : WifiState) (h : 30 < retry) :
    lafDisconnectPoll retry s = some eperm := by
  rw [lafDisconnectPoll, if_neg (fun hand => Nat.not_le_of_lt h hand.2), if_pos h]

theorem lafDisconnectPoll_done (hd : s.gWifiAdopterStatus = .disconnected) (h : retry ≤ 30) :
    lafDisconnectPoll retry s = some 0 := by
  rw [lafDisconnectPoll, if_neg (fun hand => hand.1 hd), if_neg (Nat.not_lt.mpr h)]

theorem lafDisconnectPoll_sleeps (hstop : s.bStopLNFWhileDisconnected = false)
    (hd : s.gWifiAdopterStatus ≠ .disconnected) (h : retry ≤ 30) :
    lafDisconnectPoll retry s = none := by
  rw [lafDisconnectPoll, if_pos ⟨hd, h⟩, hstop, if_neg Bool.false_ne_true]

theorem disconnectWaits_outcome (changes : Nat → List WiFiStatusCode)
    (hstop : s.bStopLNFWhileDisconnected = false) (hleft : left + retry = 31) :
    disconnectWaits changes left retry s =
      (some (if (Polling.outcome WifiState.isDisconnected (statusWait changes) left retry s).1
        then 0 else eperm),
        (Polling.outcome WifiState.isDisconnected (statusWait changes) left retry s).2) := by
  induction left generalizing retry s with
  | zero =>
    rw [disconnectWaits, lafDisconnectPoll_over s (by omega), Polling.outcome]
    rfl
  | succ left ih =>
    have hin : retry ≤ 30 := by omega
    rw [disconnectWaits, Polling.outcome]
    by_cases hd : s.gWifiAdopterStatus = .disconnected
    · have hdone : s.isDisconnected = true := decide_eq_true hd
      rw [lafDisconnectPoll_done hd hin, if_pos hdone]
      rfl
    · have hnot : ¬ s.isDisconnected = true := mt of_decide_eq_true hd
      rw [lafDisconnectPoll_sleeps hstop hd hin, if_neg hnot]
      exact ih ((statusChanges_notStopped _ s).trans hstop) (by omega)

theorem reportsDisconnect_iff_of_failed (changes : Nat → List WiFiStatusCode) (s : WifiState)
    (hret : ret ≠ 0) {r : Option Int × WifiState} :
    ReportsDisconnect ret changes s r ↔ r.1 = some eperm := by
  apply Iff.intro
  · intro h
    exact h.failed hret
  · intro h
    have hnot : ¬ r.1 = some 0 := by
      rw [h]
      decide
    exact {
      returns := by rw [h]; rfl
      zero_iff := iff_of_false hnot (fun hand => hret hand.1)
      failed := fun _ => h
      reached := fun hzero => absurd hzero hret }

/-- A disconnection that the HAL accepts is given up before the first poll. -/
theorem reportsDisconnect_iff_of_accepted (changes : Nat → List WiFiStatusCode) (s : WifiState) :
    ReportsDisconnect 0 changes s (some eperm, disconnectRequested changes s) ↔
      ∀ k < 32, statusSeen changes s k ≠ .disconnected := by
  have hnot : ¬ some eperm = some (0 : Int) := by decide
  apply Iff.intro
  · intro h k hk hseen
    exact hnot (h.reached rfl ⟨k, Nat.le_of_lt_succ hk, hseen⟩)
  · intro h
    exact {
      returns := rfl
      zero_iff := iff_of_false hnot (fun hand => h 0 (Nat.zero_lt_succ 31) hand.2)
      failed := fun hret => absurd rfl hret
      reached := fun _ ⟨k, hk, hseen⟩ => absurd hseen (h k (Nat.lt_succ_of_le hk)) }

theorem disconnectWaits_eperm_iff (changes : Nat → List WiFiStatusCode)
    (hstop : s.bStopLNFWhileDisconnected = false) :
    (disconnectWaits changes 31 0 s).1 = some eperm ↔
      ∀ k < 31, (Polling.after (statusWait changes) k 0 s).gWifiAdopterStatus ≠ .disconnected := by
  have hresult (b : Bool) : some (if b then (0 : Int) else eperm) = some eperm ↔ b = false := by
    cases b with
    | true => exact iff_of_false (by decide) Bool.noConfusion
    | false => exact iff_of_true rfl rfl
  rw [disconnectWaits_outcome changes hstop rfl, hresult, Polling.outcome_timedOut_iff]
  simp only [WifiState.isDisconnected, decide_eq_false_iff_not]

theorem lafWifiDisconnect_reports_iff (ret : Int) (changes : Nat → List WiFiStatusCode)
    (hlnf : s.isLAFCurrConnectedssid = true) (hstop : s.bStopLNFWhileDisconnected = false) :
    ReportsDisconnect ret changes s (lafWifiDisconnectReturn ret changes s) ↔
      NeverSeenDisconnected ret changes s := by
  rw [lafWifiDisconnectReturn, hlnf, hstop, if_neg Bool.noConfusion, if_neg Bool.false_ne_true,
    NeverSeenDisconnected]
  by_cases hret : ret = 0
  · subst hret
    exact reportsDisconnect_iff_of_accepted changes s
  · have htrue : ¬ decide (ret ≠ 0) = false := by
      rw [decide_eq_true hret]
      exact Bool.noConfusion
    have hstop' : (disconnectRequested changes s).bStopLNFWhileDisconnected = false :=
      (statusChanges_notStopped (changes 0) s).trans hstop
    rw [if_neg hret]
    dsimp only
    rw [if_neg htrue, reportsDisconnect_iff_of_failed changes s hret,
      disconnectWaits_eperm_iff changes hstop']
    rfl

/-- The globals of a device that is connected to an LNF network. -/
def lnfState : WifiState :=
  { WifiState.init .success with
    gWifiAdopterStatus := .connected, gWifiLNFStatus := .connectedLnf,
    isLAFCurrConnectedssid := true }

def disconnectsInFirstSleep (k : Nat) : List WiFiStatusCode :=
  if k = 1 then [.disconnected] else []

theorem lafWifiDisconnect_reports_lnf :
    ReportsDisconnect (-1) disconnectsInFirstSleep lnfState
        (lafWifiDisconnectReturn (-1) disconnectsInFirstSleep lnfState) ↔
      NeverSeenDisconnected (-1) disconnectsInFirstSleep lnfState :=
  lafWifiDisconnect_reports_iff (-1) disconnectsInFirstSleep rfl rfl

/-- A disconnection that the HAL accepts and that comes about at once is reported as a failure. -/
theorem lafWifiDisconnect_accepted : ¬ ∀ (ret : Int) (changes : Nat → List WiFiStatusCode)
    (s : WifiState), s.isLAFCurrConnectedssid = true → s.bStopLNFWhileDisconnected = false →
    ReportsDisconnect ret changes s (lafWifiDisconnectReturn ret changes s) := by
  intro h
  have hreached := (h 0 disconnectsInFirstSleep lnfState rfl rfl).reached rfl
    ⟨1, Nat.le_add_left 1 30, rfl⟩
  cases hreached

end NetSrvMgr.Wifi
