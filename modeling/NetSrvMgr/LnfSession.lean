import NetSrvMgr.LnfThreads

namespace NetSrvMgr.Wifi
open CString
set_option autoImplicit true

/-- What `setWifiEnabled` has done so far; `Start` registers the callbacks before it looks at the
LNF configuration. -/
inductive SessionPhase
  | disabled | starting | enabled
  deriving DecidableEq

/-- The WiFi manager with its LNF threads; of the detached `startLAFIfNecessary` threads, which
nothing cancels, it counts those that have not run and those that sleep. -/
structure LnfState where
  wifi : WifiState
  phase : SessionPhase
  lafConn : LafConnPc
  lafConnPriv : LafConnPrivPc
  startThreads : Nat
  sleepingThreads : Nat
  deriving DecidableEq

def LnfState.init (zeroCode : WifiStatusCode) : LnfState :=
  ⟨WifiState.init zeroCode, .disabled, .absent, .absent, 0, 0⟩

inductive LnfInput
  | wifiInit
  | startLnf (lafSsid activated warehouse : Bool)
  | shutdownWifi
  | callback (cb : Callback)
  | connectWithSSID (saveSSID : Bool) (ret : Int)
  | lafConn (i : ThreadInput)
  | lafConnPriv (i : ThreadInput)
  | startLAFIfNecessary (lastEndpoint : Option CStr) (warehouse : Bool)
  | startLAFWoken (lastEndpoint : Option CStr) (warehouse : Bool)
  | deviceActivated
  | switchToPrivate (activated : Bool)
  | stopLNFWhileDisconnected (param : Bool)
  | autoSwitchToPrivateEnabled (param : Bool)

def connectToLAF (activated warehouse : Bool) (s : LnfState) : LnfState :=
  let bDeviceActivated := s.wifi.bDeviceActivated || activated
  let s := { s with wifi := { s.wifi with bDeviceActivated } }
  if bDeviceActivated = false ∧ warehouse = false then { s with lafConn := .created }
  else { s with startThreads := s.startThreads + 1 }

/-- `Start` after it has registered the callbacks. -/
def startLnf (e : WifiEnv) (lafSsid activated warehouse : Bool) (s : LnfState) : LnfState :=
  let s := { s with phase := .enabled }
  if e.bEnableLostFound && lafSsid then
    let s := { s with lafConnPriv := .lockLAF }
    if s.wifi.gWifiAdopterStatus = .connected then s else connectToLAF activated warehouse s
  else s

/-- The decision of `startLAFIfNecessary`. -/
def startLAF (e : WifiEnv) (warehouse : Bool) (s : WifiState) : WifiState :=
  if e.lafIsLnfssid s.savedSsid = false ∧ s.gWifiAdopterStatus = .connected then s
  else if warehouse then s
  else { s.signalStartLAF with bPrivConnectionLost := true }

def switchToPrivate (activated : Bool) (s : WifiState) : WifiState :=
  let s := if activated then { s with bDeviceActivated := true } else s
  if s.bAutoSwitchToPrivateEnabled then s
  else { s with bSwitch2Private := true }.lnfConnectPrivCredentials

def stopLNFWhileDisconnected (e : WifiEnv) (param : Bool) (s : WifiState) : WifiState :=
  if param = s.bStopLNFWhileDisconnected then s
  else
    let s := { s with bStopLNFWhileDisconnected := param }
    if param = false ∧ e.bEnableLostFound ∧ s.gWifiLNFStatus ≠ .connectedPrivate then
      s.lnfConnectPrivCredentials
    else s

def autoSwitchToPrivateEnabled (param : Bool) (s : WifiState) : WifiState :=
  if param = s.bAutoSwitchToPrivateEnabled then s
  else
    let s := { s with bAutoSwitchToPrivateEnabled := param }
    if s.gWifiLNFStatus ≠ .connectedPrivate ∧ param then s.lnfConnectPrivCredentials else s

/-- A thread that is at a cancellation point, or cannot move: one that waits for
`mutexTriggerLAF` is not at such a point, but stays there. -/
def LafConnPc.stopped (pc : LafConnPc) (s : WifiState) : Bool :=
  match pc with
  | .created => false
  | .lockTrigger => s.mutexTriggerLAF ≠ .free
  | .absent | .backoff | .client _ | .retrySleep | .loopSleep => true

def LafConnPrivPc.stopped (pc : LafConnPrivPc) (s : WifiState) : Bool :=
  match pc with
  | .lockLAF => false
  | .lockTrigger _ => s.mutexTriggerLAF ≠ .free
  | .absent | .condWait | .privSleep | .backoff _ | .client _ _ | .retrySleep => true

def cancelThreads (s : LnfState) : LnfState :=
  { s with
    lafConn := .absent
    lafConnPriv := .absent
    wifi := { s.wifi with
      mutexTriggerLAF := if s.wifi.mutexTriggerLAF = .free then .free else .abandoned } }

def lnfStep (e : WifiEnv) (s : LnfState) : LnfInput → Option LnfState
  | .wifiInit =>
    if s.phase = .disabled then
      some { s with phase := .starting, wifi := monitorWiFiStatus s.wifi }
    else none
  | .startLnf lafSsid activated warehouse =>
    if s.phase = .starting then some (startLnf e lafSsid activated warehouse s) else none
  | .shutdownWifi =>
    if s.phase = .enabled ∧ s.lafConn.stopped s.wifi ∧ s.lafConnPriv.stopped s.wifi then
      let s := cancelThreads s
      some { s with phase := .disabled, wifi := shutdownWifi s.wifi }
    else none
  | .callback cb =>
    if s.phase = .disabled then none
    else some { s with wifi := (wifiStatusAction e cb s.wifi).1 }
  | .connectWithSSID saveSSID ret =>
    some { s with wifi := (connectWithSSID saveSSID ret s.wifi).1 }
  | .lafConn i =>
    (lafConnStep e s.lafConn i s.wifi).map fun r => { s with lafConn := r.1, wifi := r.2 }
  | .lafConnPriv i =>
    (lafConnPrivStep e s.lafConnPriv i s.wifi).map fun r =>
      { s with lafConnPriv := r.1, wifi := r.2 }
  | .startLAFIfNecessary lastEndpoint warehouse =>
    if s.startThreads = 0 then none
    else
      let s := { s with startThreads := s.startThreads - 1,
                        wifi := s.wifi.lastConnectedSSID lastEndpoint }
      if s.wifi.savedSsid = [] then some { s with wifi := startLAF e warehouse s.wifi }
      else some { s with sleepingThreads := s.sleepingThreads + 1 }
  | .startLAFWoken lastEndpoint warehouse =>
    if s.sleepingThreads = 0 then none
    else
      some { s with sleepingThreads := s.sleepingThreads - 1,
                    wifi := startLAF e warehouse (s.wifi.lastConnectedSSID lastEndpoint) }
  | .deviceActivated => some { s with wifi := { s.wifi with bDeviceActivated := true } }
  | .switchToPrivate activated => some { s with wifi := switchToPrivate activated s.wifi }
  | .stopLNFWhileDisconnected param =>
    some { s with wifi := stopLNFWhileDisconnected e param s.wifi }
  | .autoSwitchToPrivateEnabled param =>
    some { s with wifi := autoSwitchToPrivateEnabled param s.wifi }

end NetSrvMgr.Wifi
