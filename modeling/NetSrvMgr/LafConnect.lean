import NetSrvMgr.LnfThreads
import NetSrvMgr.Polling

namespace NetSrvMgr.Wifi
open CString
set_option autoImplicit true

def callbacks (e : WifiEnv) (cbs : List Callback) (s : WifiState) : WifiState :=
  cbs.foldl (fun s cb => (wifiStatusAction e cb s).1) s

/-- The wait for the connection, with the callbacks during each sleep and at most `left` sleeps
to come; `none` if it were still asleep then. -/
def connectWaits (e : WifiEnv) (ssid : CStr) (waits : Nat → List Callback) :
    Nat → Nat → WifiState → Option Int × WifiState
  | left, retry, s =>
    match connectPoll e ssid retry s with
    | (some result, s) => (some result, s)
    | (none, s) =>
      match left with
      | 0 => (none, s)
      | left + 1 => connectWaits e ssid waits left (retry + 1) (callbacks e (waits retry) s)

/-- `laf_wifi_connect` to its return. -/
def lafWifiConnectReturn (e : WifiEnv) (ssid : CStr) (lastEndpoint : Option CStr) (ret : Int)
    (waits : Nat → List Callback) (s : WifiState) : Option Int × WifiState :=
  if e.lafIsLnfssid ssid ∧ s.isLAFCurrConnectedssid ∧ s.gWifiAdopterStatus = .connected then
    (some 0, s)
  else if s.bStopLNFWhileDisconnected then (some eperm, s)
  else
    let r := lafConnectRequest e ssid lastEndpoint ret s
    if r.2 then connectWaits e ssid waits (e.lnfRetryCount + 1) 0 r.1 else (some eperm, r.1)

/-- What the status callbacks keep of a connection. -/
structure Link where
  status : WiFiStatusCode
  ssid : CStr
  prevCode : WifiStatusCode
  deriving DecidableEq

def WifiState.link (s : WifiState) : Link :=
  ⟨s.gWifiAdopterStatus, s.connDataSsid, s.connCodePrevState⟩

def Link.isConnected (l : Link) : Bool := l.status = .connected

/-- A failure is passed over where it repeats the code before it, unless it is unguarded. -/
def Link.failed (l : Link) (c : WifiStatusCode) : Link :=
  match c.failureStatus with
  | some status =>
    if l.prevCode ≠ c ∨ c.unguarded = true then { l with status := status } else l
  | none => l

def Link.changed (l : Link) (cb : Callback) : Link :=
  match cb.connCode with
  | .success =>
    if cb.action = actionOnConnect then
      { l with status := .connected, ssid := copySsid cb.apSsid }
    else if cb.action = actionOnDisconnect then
      { l with status := .disconnected, ssid := copySsid cb.apSsid }
    else l
  | .connecting => { l with status := .connecting }
  | c => l.failed c

def Link.after (l : Link) (cb : Callback) : Link := { l.changed cb with prevCode := cb.connCode }

def linkWait (waits : Nat → List Callback) (k : Nat) (l : Link) : Link :=
  (waits k).foldl Link.after l

/-- The link is up, to the network that was asked for. -/
def Link.UpTo (e : WifiEnv) (ssid : CStr) (l : Link) : Prop :=
  l.status = .connected ∧
    if e.lafIsLnfssid ssid then e.lafIsLnfssid l.ssid = true else l.ssid = copySsid ssid

/-- 0 is returned exactly where the link is up to the network that was asked for. -/
def ReturnsTheLink (e : WifiEnv) (ssid : CStr) (r : Option Int × WifiState) : Prop :=
  r.1.isSome = true ∧ (r.1 = some 0 ↔ r.2.link.UpTo e ssid)

def AnswersAtOnce (e : WifiEnv) (ssid : CStr) (s : WifiState) : Prop :=
  e.lafIsLnfssid ssid = true ∧ s.isLAFCurrConnectedssid = true ∧ s.gWifiAdopterStatus = .connected

/-- Whether the wait is entered: where the HAL is not asked, it is for a private network with a
saved connection. -/
def WaitsFor (e : WifiEnv) (ssid : CStr) (lastEndpoint : Option CStr) (ret : Int)
    (s : WifiState) : Prop :=
  if s.gWifiLNFStatus ≠ .connectedPrivate then ret = 0
  else e.lafIsLnfssid ssid = false ∧ lastEndpoint.isSome = true

/-- Only for a private network that the HAL is asked for is the old status overwritten. -/
def startLink (e : WifiEnv) (ssid : CStr) (s : WifiState) : Link :=
  if s.gWifiLNFStatus ≠ .connectedPrivate ∧ e.lafIsLnfssid ssid = false then
    { s.link with status := .connecting }
  else s.link

/-- The link that the poll after `k` sleeps sees. -/
def linkSeen (e : WifiEnv) (ssid : CStr) (waits : Nat → List Callback) (s : WifiState) (k : Nat) :
    Link :=
  Polling.after (linkWait waits) k 0 (startLink e ssid s)

/-- The first poll within the retries that sees a connection sees the one that was asked for;
where none sees one, the last sleep does not bring it up either. -/
def SeenInTime (e : WifiEnv) (ssid : CStr) (seen : Nat → Link) : Prop :=
  (∀ k < e.lnfRetryCount + 1, (∀ j < k, (seen j).isConnected = false) →
    (seen k).isConnected = true → (seen k).UpTo e ssid) ∧
  ((∀ k < e.lnfRetryCount + 1, (seen k).isConnected = false) →
    ¬ (seen (e.lnfRetryCount + 1)).UpTo e ssid)

theorem startLostFound_link (e : WifiEnv) (s : WifiState) : (startLostFound e s).link = s.link :=
  startLostFound_keeps WifiState.link (fun _ _ _ => rfl) e s

theorem unlessRepeated_link (s : WifiState) (c : WifiStatusCode) (r : WifiState × List Effect) :
    (unlessRepeated s c r).1.link = if s.link.prevCode ≠ c then r.1.link else s.link := by
  rw [unlessRepeated_fst, apply_ite WifiState.link]
  rfl

theorem onConnect_link (e : WifiEnv) (cb : Callback) (s : WifiState) :
    (onConnect e cb s).link =
      { s.link with status := .connected, ssid := copySsid cb.apSsid } := by
  rw [onConnect]
  split
  · rfl
  · cases cb.lastEndpoint with
    | none => rfl
    | some ssid => rfl

theorem statusBranch_link (e : WifiEnv) (cb : Callback) (s : WifiState) :
    (statusBranch e cb s).1.link = s.link.changed cb := by
  rw [statusBranch, Link.changed]
  cases cb.connCode with
  | success =>
    dsimp only
    by_cases hc : cb.action = actionOnConnect
    · rw [if_pos hc, if_pos hc]
      exact onConnect_link e cb s
    · rw [if_neg hc, if_neg hc]
      split
      · rfl
      · rfl
  | connecting => rfl
  | disconnecting => rfl
  | errorInvalidCredentials =>
    dsimp only [Link.failed, WifiStatusCode.failureStatus]
    rw [startLostFound_link]
    exact (if_pos (Or.inr rfl)).symm
  | errorAuthFailed =>
    dsimp only [Link.failed, WifiStatusCode.failureStatus]
    rw [startLostFound_link]
    exact (if_pos (Or.inr rfl)).symm
  | errorUnknown => exact (unlessRepeated_link s _ _).trans (ite_self _)
  | other code => exact (unlessRepeated_link s _ _).trans (ite_self _)
  | _ =>
    dsimp only [Link.failed, WifiStatusCode.failureStatus, WifiStatusCode.unguarded]
    rw [unlessRepeated_link]
    simp only [startLostFound_link, Bool.false_eq_true, or_false]
    rfl

theorem wifiStatusAction_link (e : WifiEnv) (cb : Callback) (s : WifiState) :
    (wifiStatusAction e cb s).1.link = s.link.after cb := by
  rw [Link.after, ← statusBranch_link e]
  rfl

theorem startLostFound_notStopped (e : WifiEnv) (s : WifiState) :
    (startLostFound e s).bStopLNFWhileDisconnected = s.bStopLNFWhileDisconnected :=
  startLostFound_keeps WifiState.bStopLNFWhileDisconnected (fun _ _ _ => rfl) e s

theorem onConnect_notStopped (e : WifiEnv) (cb : Callback)
    (h : s.bStopLNFWhileDisconnected = false) :
    (onConnect e cb s).bStopLNFWhileDisconnected = false := by
  rw [onConnect]
  split
  · exact h
  · rfl

theorem wifiStatusAction_notStopped (e : WifiEnv) (cb : Callback)
    (h : s.bStopLNFWhileDisconnected = false) :
    (wifiStatusAction e cb s).1.bStopLNFWhileDisconnected = false := by
  have hkeep (c : WifiStatusCode) {r : WifiState × List Effect}
      (hr : r.1.bStopLNFWhileDisconnected = s.bStopLNFWhileDisconnected) :
      (unlessRepeated s c r).1.bStopLNFWhileDisconnected = false :=
    (unlessRepeated_keeps WifiState.bStopLNFWhileDisconnected hr c).trans h
  change (statusBranch e cb s).1.bStopLNFWhileDisconnected = false
  rw [statusBranch]
  cases cb.connCode with
  | success =>
    dsimp only
    split
    · exact onConnect_notStopped e cb h
    · split
      · exact h
      · exact h
  | connecting => exact h
  | disconnecting => exact h
  | errorInvalidCredentials => exact (startLostFound_notStopped e _).trans h
  | errorAuthFailed => exact (startLostFound_notStopped e _).trans h
  | errorNotFound => exact hkeep _ (startLostFound_notStopped e _)
  | errorSsidChanged => exact hkeep _ (startLostFound_notStopped e _)
  | _ => exact hkeep _ rfl

theorem callbacks_link (e : WifiEnv) (cbs : List Callback) (s : WifiState) :
    (callbacks e cbs s).link = cbs.foldl Link.after s.link := by
  induction cbs generalizing s with
  | nil => rfl
  | cons cb cbs ih =>
    rw [List.foldl_cons, ← wifiStatusAction_link e]
    exact ih _

theorem callbacks_notStopped (e : WifiEnv) (cbs : List Callback)
    (h : s.bStopLNFWhileDisconnected = false) :
    (callbacks e cbs s).bStopLNFWhileDisconnected = false := by
  induction cbs generalizing s with
  | nil => exact h
  | cons cb cbs ih => exact ih (wifiStatusAction_notStopped e cb h)

theorem connectPoll_over (e : WifiEnv) (ssid : CStr) (s : WifiState)
    (h : e.lnfRetryCount < retry) : connectPoll e ssid retry s = (some eperm, s) := by
  rw [connectPoll, if_neg (fun hand => Nat.not_le_of_lt h hand.2), if_pos h]

theorem connectPoll_connected (e : WifiEnv) (ssid : CStr)
    (hc : s.gWifiAdopterStatus = .connected) (h : retry ≤ e.lnfRetryCount) :
    connectPoll e ssid retry s =
      (some 0, if e.lafIsLnfssid ssid then s else s.setLNFState .connectedPrivate) := by
  rw [connectPoll, if_neg (fun hand => hand.1 hc), if_neg (Nat.not_lt.mpr h)]

theorem connectPoll_sleeps (e : WifiEnv) (ssid : CStr)
    (hstop : s.bStopLNFWhileDisconnected = false) (hc : s.gWifiAdopterStatus ≠ .connected)
    (h : retry ≤ e.lnfRetryCount) : connectPoll e ssid retry s = (none, s) := by
  rw [connectPoll, if_pos ⟨hc, h⟩, hstop, if_neg Bool.false_ne_true]

/-- The wait returns 0 where it polls a connection in time, with the link as it polled it. -/
theorem connectWaits_outcome (e : WifiEnv) (ssid : CStr) (waits : Nat → List Callback)
    (hstop : s.bStopLNFWhileDisconnected = false) (hleft : left + retry = e.lnfRetryCount + 1) :
    ((connectWaits e ssid waits left retry s).1 =
      some (if (Polling.outcome Link.isConnected (linkWait waits) left retry s.link).1 then 0
        else eperm)) ∧
    (connectWaits e ssid waits left retry s).2.link =
      (Polling.outcome Link.isConnected (linkWait waits) left retry s.link).2 := by
  induction left generalizing retry s with
  | zero =>
    rw [connectWaits, connectPoll_over e ssid s (by omega), Polling.outcome]
    exact ⟨rfl, rfl⟩
  | succ left ih =>
    have hin : retry ≤ e.lnfRetryCount := by omega
    rw [connectWaits, Polling.outcome]
    by_cases hc : s.gWifiAdopterStatus = .connected
    · have hup : s.link.isConnected = true := decide_eq_true hc
      rw [connectPoll_connected e ssid hc hin, if_pos hup]
      refine ⟨rfl, ?_⟩
      dsimp only
      split
      · rfl
      · rfl
    · have hdown : ¬ s.link.isConnected = true := mt of_decide_eq_true hc
      rw [connectPoll_sleeps e ssid hstop hc hin, if_neg hdown, linkWait, ← callbacks_link e]
      exact ih (callbacks_notStopped e (waits retry) hstop) (by omega)

theorem connectWithSSID_link (saveSSID : Bool) (ret : Int) (s : WifiState) :
    (connectWithSSID saveSSID ret s).1.link =
      if saveSSID then { s.link with status := .connecting } else s.link := by
  rw [connectWithSSID]
  cases saveSSID with
  | true => split <;> rfl
  | false => split <;> rfl

theorem connectWithSSID_result (saveSSID : Bool) (ret : Int) (s : WifiState) :
    (connectWithSSID saveSSID ret s).2.2 = true ↔ ret = 0 := by
  rw [connectWithSSID]
  split
  · rename_i hret
    exact iff_of_false Bool.false_ne_true hret
  · rename_i hret
    exact iff_of_true rfl (not_not.mp hret)

theorem lafConnectRequest_link (e : WifiEnv) (ssid : CStr) (lastEndpoint : Option CStr)
    (ret : Int) (s : WifiState) :
    (lafConnectRequest e ssid lastEndpoint ret s).1.link = startLink e ssid s := by
  have hnoted := noted_keeps WifiState.link (fun _ _ _ => rfl) e ssid lastEndpoint s
  rw [lafConnectRequest_eq, startLink]
  by_cases hp : s.gWifiLNFStatus ≠ .connectedPrivate
  · rw [if_pos hp]
    dsimp only
    rw [connectWithSSID_link]
    have hset : ((noted e ssid lastEndpoint s).setLNFState .lnfInProgress).link = s.link := hnoted
    rw [hset]
    cases e.lafIsLnfssid ssid with
    | true => exact (if_neg (fun h => Bool.noConfusion h.2)).symm
    | false => exact (if_pos ⟨hp, rfl⟩).symm
  · rw [if_neg hp, if_neg (fun h => hp h.1)]
    exact hnoted

theorem lafConnectRequest_notStopped (e : WifiEnv) (ssid : CStr) (lastEndpoint : Option CStr)
    (ret : Int) (s : WifiState) :
    (lafConnectRequest e ssid lastEndpoint ret s).1.bStopLNFWhileDisconnected =
      s.bStopLNFWhileDisconnected :=
  lafConnectRequest_keeps WifiState.bStopLNFWhileDisconnected (fun _ _ _ _ _ => rfl) e ssid
    lastEndpoint ret s

theorem lafConnectRequest_waits (e : WifiEnv) (ssid : CStr) (lastEndpoint : Option CStr)
    (ret : Int) (s : WifiState) :
    (lafConnectRequest e ssid lastEndpoint ret s).2 = true ↔
      WaitsFor e ssid lastEndpoint ret s := by
  rw [lafConnectRequest_eq, WaitsFor]
  by_cases hp : s.gWifiLNFStatus ≠ .connectedPrivate
  · rw [if_pos hp, if_pos hp]
    exact connectWithSSID_result _ ret _
  · rw [if_neg hp, if_neg hp]
    dsimp only
    rw [Bool.and_eq_true, Bool.not_eq_true']

theorem lafWifiConnectReturn_atOnce (ret : Int) (waits : Nat → List Callback)
    (h : AnswersAtOnce e ssid s) :
    lafWifiConnectReturn e ssid lastEndpoint ret waits s = (some 0, s) := by
  rw [lafWifiConnectReturn]
  exact if_pos h

theorem lafWifiConnectReturn_refused (waits : Nat → List Callback)
    (hstop : s.bStopLNFWhileDisconnected = false) (h : ¬ AnswersAtOnce e ssid s)
    (hwait : ¬ WaitsFor e ssid lastEndpoint ret s) :
    lafWifiConnectReturn e ssid lastEndpoint ret waits s =
      (some eperm, (lafConnectRequest e ssid lastEndpoint ret s).1) := by
  rw [AnswersAtOnce] at h
  rw [lafWifiConnectReturn, if_neg h, hstop, if_neg Bool.false_ne_true]
  exact if_neg (mt (lafConnectRequest_waits e ssid lastEndpoint ret s).mp hwait)

theorem lafWifiConnectReturn_waits (waits : Nat → List Callback)
    (hstop : s.bStopLNFWhileDisconnected = false) (h : ¬ AnswersAtOnce e ssid s)
    (hwait : WaitsFor e ssid lastEndpoint ret s) :
    lafWifiConnectReturn e ssid lastEndpoint ret waits s =
      connectWaits e ssid waits (e.lnfRetryCount + 1) 0
        (lafConnectRequest e ssid lastEndpoint ret s).1 := by
  rw [AnswersAtOnce] at h
  rw [lafWifiConnectReturn, if_neg h, hstop, if_neg Bool.false_ne_true]
  exact if_pos ((lafConnectRequest_waits e ssid lastEndpoint ret s).mpr hwait)

theorem returnsTheLink_iff_of {r : Option Int × WifiState} (b : Bool) (l : Link)
    (hresult : r.1 = some (if b then 0 else eperm)) (hlink : r.2.link = l) :
    ReturnsTheLink e ssid r ↔ (b = true ↔ l.UpTo e ssid) := by
  rw [ReturnsTheLink, hresult, hlink, Option.isSome_some, and_iff_right rfl]
  cases b with
  | true => exact iff_congr (iff_of_true rfl rfl) Iff.rfl
  | false => exact iff_congr (iff_of_false (by decide) Bool.false_ne_true) Iff.rfl

theorem connectWaits_returnsTheLink_iff (e : WifiEnv) (ssid : CStr) (waits : Nat → List Callback)
    (hstop : s.bStopLNFWhileDisconnected = false) :
    ReturnsTheLink e ssid (connectWaits e ssid waits (e.lnfRetryCount + 1) 0 s) ↔
      SeenInTime e ssid fun k => Polling.after (linkWait waits) k 0 s.link := by
  have hleft : e.lnfRetryCount + 1 + 0 = e.lnfRetryCount + 1 := rfl
  obtain ⟨hresult, hlink⟩ := connectWaits_outcome e ssid waits hstop hleft
  rw [returnsTheLink_iff_of _ _ hresult hlink, SeenInTime]
  have hrule := Polling.outcome_iff Link.isConnected (linkWait waits)
    (fun out => out.1 = true ↔ out.2.UpTo e ssid) (e.lnfRetryCount + 1) 0 s.link
  simp only [true_iff, Bool.false_eq_true, false_iff] at hrule
  exact hrule

/-- The link at the return is the one the call found, the one it was refused with or the one
polled, by how the call goes. -/
def LinkSeenInTime (e : WifiEnv) (ssid : CStr) (lastEndpoint : Option CStr) (ret : Int)
    (waits : Nat → List Callback) (s : WifiState) : Prop :=
  (AnswersAtOnce e ssid s → s.link.UpTo e ssid) ∧
  (¬ AnswersAtOnce e ssid s → ¬ WaitsFor e ssid lastEndpoint ret s →
    ¬ (startLink e ssid s).UpTo e ssid) ∧
  (¬ AnswersAtOnce e ssid s → WaitsFor e ssid lastEndpoint ret s →
    SeenInTime e ssid (linkSeen e ssid waits s))

theorem lafWifiConnect_returnsTheLink_iff (e : WifiEnv) (ssid : CStr)
    (lastEndpoint : Option CStr) (ret : Int) (waits : Nat → List Callback)
    (hstop : s.bStopLNFWhileDisconnected = false) :
    ReturnsTheLink e ssid (lafWifiConnectReturn e ssid lastEndpoint ret waits s) ↔
      LinkSeenInTime e ssid lastEndpoint ret waits s := by
  rw [LinkSeenInTime]
  by_cases hat : AnswersAtOnce e ssid s
  · rw [lafWifiConnectReturn_atOnce ret waits hat, returnsTheLink_iff_of true s.link rfl rfl]
    apply Iff.intro
    · intro h
      exact ⟨fun _ => h.mp rfl, fun h' => absurd hat h', fun h' => absurd hat h'⟩
    · intro h
      exact iff_of_true rfl (h.1 hat)
  have hlink := lafConnectRequest_link e ssid lastEndpoint ret s
  by_cases hwait : WaitsFor e ssid lastEndpoint ret s
  · have hstop' := (lafConnectRequest_notStopped e ssid lastEndpoint ret s).trans hstop
    rw [lafWifiConnectReturn_waits waits hstop hat hwait,
      connectWaits_returnsTheLink_iff e ssid waits hstop', hlink]
    apply Iff.intro
    · intro h
      exact ⟨fun h' => absurd h' hat, fun _ h' => absurd hwait h', fun _ _ => h⟩
    · intro h
      exact h.2.2 hat hwait
  · rw [lafWifiConnectReturn_refused waits hstop hat hwait,
      returnsTheLink_iff_of false (startLink e ssid s) rfl hlink]
    apply Iff.intro
    · intro h
      exact ⟨fun h' => absurd h' hat, fun _ _ hup => Bool.noConfusion (h.mpr hup),
        fun _ h' => absurd h' hwait⟩
    · intro h
      exact iff_of_false Bool.false_ne_true (h.2.1 hat hwait)

/-- With a retry count of 1 there are up to two sleeps. -/
def twoSleepsEnv : WifiEnv := ⟨fun _ => false, true, 60, 1⟩

/-- With a retry count of 0 there is one. -/
def oneSleepEnv : WifiEnv := ⟨fun _ => false, true, 60, 0⟩

/-- "home" comes up during the first sleep. -/
def homeConnects (k : Nat) : List Callback :=
  if k = 0 then [⟨.success, "home".toList, actionOnConnect, none, false⟩] else []

/-- The poll after the first sleep sees the connection. -/
theorem lafWifiConnect_returnsTheLink_home :
    ReturnsTheLink twoSleepsEnv "home".toList
      (lafWifiConnectReturn twoSleepsEnv "home".toList none 0 homeConnects (.init .success)) := by
  apply (lafWifiConnect_returnsTheLink_iff twoSleepsEnv "home".toList none 0 homeConnects rfl).mpr
  have hstart : (linkSeen twoSleepsEnv "home".toList homeConnects (.init .success) 0).isConnected =
    false := rfl
  have hup : (linkSeen twoSleepsEnv "home".toList homeConnects (.init .success) 1).UpTo
    twoSleepsEnv "home".toList := ⟨rfl, rfl⟩
  constructor
  · intro hat
    cases hat.1
  constructor
  · intro _ hwait
    exact absurd rfl hwait
  intro _ _
  constructor
  · intro k hk _ hseen
    match k with
    | 0 => exact absurd hseen (hstart ▸ Bool.false_ne_true)
    | 1 => exact hup
  · intro hdown
    cases hdown 1 (Nat.lt_succ_self 1)

/-- A connection that comes up in the last sleep is reported as a failure. -/
theorem lafWifiConnect_lastSleep : ¬ ∀ (e : WifiEnv) (ssid : CStr) (lastEndpoint : Option CStr)
    (ret : Int) (waits : Nat → List Callback) (s : WifiState),
    s.bStopLNFWhileDisconnected = false →
    ReturnsTheLink e ssid (lafWifiConnectReturn e ssid lastEndpoint ret waits s) := by
  intro h
  have hlast := h oneSleepEnv "home".toList none 0 homeConnects (.init .success) rfl
  have hzero := hlast.2.mpr ⟨rfl, rfl⟩
  cases hzero

end NetSrvMgr.Wifi
