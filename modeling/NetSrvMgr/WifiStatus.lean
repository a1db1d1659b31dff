import NetSrvMgr.WifiData
import NetSrvMgr.Transition

namespace NetSrvMgr.Wifi
open CString Transition
set_option autoImplicit true

/-- A call of `wifi_status_action`, with what its surroundings answer. -/
structure Callback where
  connCode : WifiStatusCode
  apSsid : CStr
  action : UInt16
  lastEndpoint : Option CStr
  hasIpFile : Bool

def sameSSid (s : WifiState) (apSsid : CStr) : Bool := s.savedSsid = [] || s.savedSsid = apSsid

def onConnect (e : WifiEnv) (cb : Callback) (s : WifiState) : WifiState :=
  let s := { s.setWiFiStatusCode .connected with connDataSsid := copySsid cb.apSsid }
  if e.lafIsLnfssid cb.apSsid then
    { s with isLAFCurrConnectedssid := true, switchLnf2Priv := true, switchPriv2Lnf := false,
             gWifiLNFStatus := .connectedLnf }
  else
    { s.lastConnectedSSID cb.lastEndpoint with
        isLAFCurrConnectedssid := false, gWifiLNFStatus := .connectedPrivate,
        bStopLNFWhileDisconnected := false, switchPriv2Lnf := true, switchLnf2Priv := false }

def connectEffects (e : WifiEnv) (cb : Callback) (s : WifiState) : List Effect :=
  let priv := !e.lafIsLnfssid cb.apSsid
  let same := sameSSid s cb.apSsid
  (if priv && s.savedSsid ≠ cb.apSsid then [.storeMfrWifiCredentials, .refreshXreSession 20]
    else []) ++
  (if cb.hasIpFile then [] else if same then [.triggerDhcpReleaseAndRenew]
    else [.wifiAddrReset]) ++
  (if priv && s.switchLnf2Priv then [.refreshXreSession 21] else []) ++
  (if priv && !same then [.collectAPDetails] else []) ++
  (if s.bShutdownWifi then [] else [.signalCondGo]) ++
  [.broadcast (.onWIFIStateChanged .connected)]

def onDisconnect (cb : Callback) (s : WifiState) : WifiState :=
  { s.setWiFiStatusCode .disconnected with connDataSsid := copySsid cb.apSsid }

def startLostFound (e : WifiEnv) (s : WifiState) : WifiState :=
  if e.bEnableLostFound then { s with bPrivConnectionLost := true }.lnfConnectPrivCredentials
  else s

/-- The branches guarded by `connCode_prev_state != connCode`. -/
def unlessRepeated (s : WifiState) (connCode : WifiStatusCode)
    (r : WifiState × List Effect) : WifiState × List Effect :=
  if s.connCodePrevState ≠ connCode then r else (s, [])

def onError (s : WifiState) (code : WiFiErrorCode) : WifiState × List Effect :=
  (s.setWiFiStatusCode .disconnected, [.broadcast (.onError code)])

def statusBranch (e : WifiEnv) (cb : Callback) (s : WifiState) : WifiState × List Effect :=
  match cb.connCode with
  | .success =>
    if cb.action = actionOnConnect then (onConnect e cb s, connectEffects e cb s)
    else if cb.action = actionOnDisconnect then
      (onDisconnect cb s, [.broadcast (.onWIFIStateChanged .disconnected)])
    else (s, [])
  | .connecting =>
    (s.setWiFiStatusCode .connecting, [.broadcast (.onWIFIStateChanged .connecting)])
  | .disconnecting => (s, []) -- its event id stays out of range, so nothing is broadcast
  | .errorNotFound =>
    unlessRepeated s cb.connCode
      (startLostFound e (s.setWiFiStatusCode .disconnected), [.broadcast (.onError .noSsid)])
  | .errorTimeoutExpired => unlessRepeated s cb.connCode (onError s .unknown)
  | .errorDevDisconnect => unlessRepeated s cb.connCode (onError s .connectionLost)
  | .errorSsidChanged =>
    unlessRepeated s cb.connCode
      (startLostFound e (s.setWiFiStatusCode .disconnected),
        [.broadcast .onSSIDsChanged, .broadcast (.onError .ssidChanged)])
  | .errorConnectionLost => unlessRepeated s cb.connCode (onError s .connectionLost)
  | .errorConnectionFailed => unlessRepeated s cb.connCode (onError s .connectionFailed)
  | .errorConnectionInterrupted =>
    unlessRepeated s cb.connCode (onError s .connectionInterrupted)
  | .errorInvalidCredentials =>
    (startLostFound e (s.setWiFiStatusCode .disconnected),
      [.broadcast (.onError .invalidCredentials)])
  | .errorAuthFailed =>
    (startLostFound e (s.setWiFiStatusCode .disconnected), [.broadcast (.onError .authFailed)])
  | .unrecoverableError =>
    unlessRepeated s cb.connCode
      (s.setWiFiStatusCode .failed, [.broadcast (.onWIFIStateChanged .failed)])
  | .errorUnknown | .other _ =>
    unlessRepeated s cb.connCode (s, [.broadcast (.onError .unknown)])

def wifiStatusAction (e : WifiEnv) (cb : Callback) (s : WifiState) : WifiState × List Effect :=
  let r := statusBranch e cb s
  ({ r.1 with connCodePrevState := cb.connCode }, r.2)

/-- `connect_withSSID`; `ret` is what the HAL's `wifi_connectEndpoint` returns. -/
def connectWithSSID (saveSSID : Bool) (ret : Int) (s : WifiState) :
    WifiState × List Effect × Bool :=
  let r : WifiState × List Effect :=
    if saveSSID then
      (s.setWiFiStatusCode .connecting, [.broadcast (.onWIFIStateChanged .connecting)])
    else (s, [])
  if ret ≠ 0 then (r.1, r.2 ++ [.broadcast (.onWIFIStateChanged .failed)], false)
  else (r.1, r.2, true)

/-- What `shutdownWifi` leaves of the globals, once the monitor is joined. -/
def shutdownWifi (s : WifiState) : WifiState :=
  { s with bShutdownWifi := true, gWifiAdopterStatus := .uninstalled,
           gWifiLNFStatus := .lnfUninitialized, bLNFConnect := false,
           isLAFCurrConnectedssid := false, savedSsid := [], connDataSsid := [] }

def monitorWiFiStatus (s : WifiState) : WifiState := { s with bShutdownWifi := false }

def WifiStatusCode.failureStatus : WifiStatusCode → Option WiFiStatusCode
  | .errorNotFound | .errorTimeoutExpired | .errorDevDisconnect | .errorSsidChanged
  | .errorConnectionLost | .errorConnectionFailed | .errorConnectionInterrupted
  | .errorInvalidCredentials | .errorAuthFailed => some .disconnected
  | .unrecoverableError => some .failed
  | .success | .connecting | .disconnecting | .errorUnknown | .other _ => none

/-- The failures whose branch does not look at `connCode_prev_state`. -/
def WifiStatusCode.unguarded : WifiStatusCode → Bool
  | .errorInvalidCredentials | .errorAuthFailed => true
  | _ => false

theorem startLostFound_keeps (f : WifiState → α)
    (hf : ∀ (s : WifiState) (lost b : Bool),
      f { s with bPrivConnectionLost := lost, startLAF := b } = f s) (e : WifiEnv)
    (s : WifiState) : f (startLostFound e s) = f s := by
  rw [startLostFound]
  split
  · exact (WifiState.lnfConnectPrivCredentials_keeps f
      (fun s b => hf s s.bPrivConnectionLost b) _).trans (hf s true s.startLAF)
  · rfl

@[simp] theorem startLostFound_status (e : WifiEnv) (s : WifiState) :
    (startLostFound e s).gWifiAdopterStatus = s.gWifiAdopterStatus :=
  startLostFound_keeps WifiState.gWifiAdopterStatus (fun _ _ _ => rfl) e s

@[simp] theorem startLostFound_lnf (e : WifiEnv) (s : WifiState) :
    (startLostFound e s).gWifiLNFStatus = s.gWifiLNFStatus :=
  startLostFound_keeps WifiState.gWifiLNFStatus (fun _ _ _ => rfl) e s

@[simp] theorem startLostFound_locks (e : WifiEnv) (s : WifiState) :
    (startLostFound e s).locks = s.locks :=
  startLostFound_keeps WifiState.locks (fun _ _ _ => rfl) e s

theorem unlessRepeated_keeps {r : WifiState × List Effect} (f : WifiState → α)
    (h : f r.1 = f s) (c : WifiStatusCode) : f (unlessRepeated s c r).1 = f s := by
  rw [unlessRepeated]
  split
  · exact h
  · rfl

theorem unlessRepeated_fst (s : WifiState) (c : WifiStatusCode) (r : WifiState × List Effect) :
    (unlessRepeated s c r).1 = if s.connCodePrevState ≠ c then r.1 else s := by
  rw [unlessRepeated]
  split
  · rfl
  · rfl

theorem unlessRepeated_failure {r : WifiState × List Effect}
    (hr : r.1.gWifiAdopterStatus = status) (hc : c.unguarded = false) :
    (unlessRepeated s c r).1.gWifiAdopterStatus =
      if s.connCodePrevState ≠ c ∨ c.unguarded = true then status else s.gWifiAdopterStatus := by
  rw [unlessRepeated_fst, apply_ite WifiState.gWifiAdopterStatus, hr, hc]
  simp only [Bool.false_eq_true, or_false]

/-- A failure sets its status unless it is passed over as a repetition. -/
theorem wifiStatusAction_failure (e : WifiEnv) (s : WifiState) {cb : Callback}
    (h : cb.connCode.failureStatus = some status) :
    (wifiStatusAction e cb s).1.gWifiAdopterStatus =
      if s.connCodePrevState ≠ cb.connCode ∨ cb.connCode.unguarded = true then status
      else s.gWifiAdopterStatus := by
  change (statusBranch e cb s).1.gWifiAdopterStatus = _
  rw [statusBranch]
  cases hc : cb.connCode with
  | success | connecting | disconnecting | errorUnknown | other code =>
    rw [hc] at h
    cases h
  | errorInvalidCredentials | errorAuthFailed =>
    rw [hc] at h
    cases h
    exact (startLostFound_status e _).trans (if_pos (Or.inr rfl)).symm
  | errorNotFound | errorSsidChanged =>
    rw [hc] at h
    cases h
    exact unlessRepeated_failure (startLostFound_status e _) rfl
  | _ =>
    rw [hc] at h
    cases h
    exact unlessRepeated_failure rfl rfl

end NetSrvMgr.Wifi
