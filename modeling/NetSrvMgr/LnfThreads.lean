import NetSrvMgr.WifiStatus

namespace NetSrvMgr.Wifi
open CString
set_option autoImplicit true

inductive LafRequestType
  | connectToLfssid | connectToPrivWifi | switchToPrivate
  deriving DecidableEq

/-- Where a thread is inside the LNF client: in its own code, or asleep in the wait of a
callback it was given. -/
inductive ClientPc
  | running
  | connecting (ssid : CStr) (retry : Nat)
  | disconnecting (retry : Nat)
  deriving DecidableEq

/-- Where `lafConnThread` is blocked; it is absent before it is created and after it ends. -/
inductive LafConnPc
  | absent | created | lockTrigger | backoff | client (pc : ClientPc) | retrySleep | loopSleep
  deriving DecidableEq

inductive LafConnPrivPc
  | absent | lockLAF | condWait | privSleep
  | lockTrigger (reqType : LafRequestType)
  | backoff (reqType : LafRequestType)
  | client (reqType : LafRequestType) (pc : ClientPc)
  | retrySleep
  deriving DecidableEq

inductive ClientInput
  | lafWifiConnect (ssid : CStr) (lastEndpoint : Option CStr) (ret : Int)
  | lafWifiDisconnect (ret : Int)
  | wake

inductive ThreadInput
  | wake
  | client (i : ClientInput)
  | triggered (success : Bool) (backoff : Option ℚ) (lastEndpoint : Option CStr) (ret : Int)

def eperm : Int := 1

/-- What `laf_wifi_connect` does between two sleeps; `none` where it goes to sleep. -/
def connectPoll (e : WifiEnv) (ssid : CStr) (retry : Nat) (s : WifiState) :
    Option Int × WifiState :=
  if s.gWifiAdopterStatus ≠ .connected ∧ retry ≤ e.lnfRetryCount then
    if s.bStopLNFWhileDisconnected then (some eperm, s) else (none, s)
  else if retry > e.lnfRetryCount then (some eperm, s)
  else (some 0, if e.lafIsLnfssid ssid then s else s.setLNFState .connectedPrivate)

def connectWait (e : WifiEnv) (ssid : CStr) (retry : Nat) (s : WifiState) :
    ClientPc × WifiState :=
  let r := connectPoll e ssid retry s
  (if r.1.isSome then .running else .connecting ssid (retry + 1), r.2)

/-- `laf_wifi_connect` where it asks for the connection: unless it does, its result is that of
`lastConnectedSSID`. -/
def lafConnectRequest (e : WifiEnv) (ssid : CStr) (lastEndpoint : Option CStr) (ret : Int)
    (s : WifiState) : WifiState × Bool :=
  let lnf := e.lafIsLnfssid ssid
  let s := if lnf then { s with bLNFConnect := true }
    else { s with bLNFConnect := false }.lastConnectedSSID lastEndpoint
  if s.gWifiLNFStatus ≠ .connectedPrivate then
    let r := connectWithSSID (!s.bLNFConnect) ret (s.setLNFState .lnfInProgress)
    (r.1, r.2.2)
  else (s, !lnf && lastEndpoint.isSome)

def lafWifiConnect (e : WifiEnv) (ssid : CStr) (lastEndpoint : Option CStr) (ret : Int)
    (s : WifiState) : ClientPc × WifiState :=
  if e.lafIsLnfssid ssid ∧ s.isLAFCurrConnectedssid ∧ s.gWifiAdopterStatus = .connected then
    (.running, s)
  else if s.bStopLNFWhileDisconnected then (.running, s)
  else
    let r := lafConnectRequest e ssid lastEndpoint ret s
    if r.2 then connectWait e ssid 0 r.1 else (.running, r.1)

/-- What `laf_wifi_disconnect` does between two sleeps; `none` where it goes to sleep. -/
def lafDisconnectPoll (retry : Nat) (s : WifiState) : Option Int :=
  if s.gWifiAdopterStatus ≠ .disconnected ∧ retry ≤ 30 then
    if s.bStopLNFWhileDisconnected then some eperm else none
  else if retry > 30 then some eperm
  else some 0

def disconnectWait (retry : Nat) (s : WifiState) : ClientPc × WifiState :=
  (if (lafDisconnectPoll retry s).isSome then .running else .disconnecting (retry + 1), s)

/-- The result of the HAL is taken for a truth value, and zero is its `RETURN_OK`. -/
def lafWifiDisconnect (ret : Int) (s : WifiState) : ClientPc × WifiState :=
  if s.isLAFCurrConnectedssid = false then (.running, s)
  else if s.bStopLNFWhileDisconnected then (.running, s)
  else if ret = 0 then (.running, s.setLNFState .lnfInProgress)
  else disconnectWait 0 (s.setLNFState .lnfInProgress)

def clientStep (e : WifiEnv) (pc : ClientPc) (i : ClientInput) (s : WifiState) :
    Option (ClientPc × WifiState) :=
  match pc, i with
  | .running, .lafWifiConnect ssid lastEndpoint ret =>
    some (lafWifiConnect e ssid lastEndpoint ret s)
  | .running, .lafWifiDisconnect ret => some (lafWifiDisconnect ret s)
  | .connecting ssid retry, .wake => some (connectWait e ssid retry s)
  | .disconnecting retry, .wake => some (disconnectWait retry s)
  | _, _ => none

/-- `triggerLostFound` has returned and `mutexTriggerLAF` is unlocked. -/
def WifiState.triggered (s : WifiState) (backoff : Option ℚ) : WifiState :=
  { s with mutexTriggerLAF := .free, backoff := backoff.getD s.backoff }

/-- The inner loop of `lafConnThread`, from its head to the next point where it blocks. -/
def lafConnAttempt (s : WifiState) : LafConnPc × WifiState :=
  let s := { s with bIsStopLNFWhileDisconnected := false }
  if s.gWifiLNFStatus = .connectedLnf then (.loopSleep, s)
  else if s.gWifiAdopterStatus = .connected then
    if s.isLAFCurrConnectedssid = false then
      (.absent, { s.setLNFState .connectedPrivate with
        bIsStopLNFWhileDisconnected := true, bLnfActivationLoop := false })
    else (.loopSleep, s)
  else if s.bStopLNFWhileDisconnected then
    (.absent, { s.setLNFState .lnfUninitialized with
      bIsStopLNFWhileDisconnected := true, bLnfActivationLoop := false })
  else (.lockTrigger, s)

/-- The outer loop of `lafConnThread`, from its head. -/
def lafConnLoop (s : WifiState) : LafConnPc × WifiState :=
  if s.bDeviceActivated then
    let s := { s with bLnfActivationLoop := false }
    (.absent, if s.gWifiLNFStatus = .connectedLnf then
      { s with bPrivConnectionLost := false }.lnfConnectPrivCredentials else s)
  else lafConnAttempt { s with bLnfActivationLoop := true }

def lafConnBackedOff (s : WifiState) : LafConnPc × WifiState :=
  if s.gWifiLNFStatus = .connectedPrivate then
    (.loopSleep, { s with mutexTriggerLAF := .free, bIsStopLNFWhileDisconnected := false })
  else (.client .running, s)

def lafConnTriggered (success : Bool) (s : WifiState) : LafConnPc × WifiState :=
  if success then
    (.loopSleep, { s.setLNFState .connectedLnf with bIsStopLNFWhileDisconnected := false })
  else if s.bStopLNFWhileDisconnected then
    (.absent, { s with bIsStopLNFWhileDisconnected := true, bLnfActivationLoop := false })
  else (.retrySleep, s)

def lafConnSlept (s : WifiState) : LafConnPc × WifiState :=
  let s := if s.gWifiLNFStatus ≠ .connectedPrivate ∧ s.isLAFCurrConnectedssid = false ∧
    s.gWifiAdopterStatus = .connected then s.setLNFState .connectedPrivate else s
  if s.bStopLNFWhileDisconnected then (.absent, { s with bLnfActivationLoop := false })
  else lafConnLoop s

def lafConnStep (e : WifiEnv) (pc : LafConnPc) (i : ThreadInput) (s : WifiState) :
    Option (LafConnPc × WifiState) :=
  match pc, i with
  | .created, .wake => some (lafConnLoop (s.setLNFState .lnfInProgress))
  | .lockTrigger, .wake =>
    if s.mutexTriggerLAF = .free then
      let s := { s with mutexTriggerLAF := .held .lafConn }
      some (if 0 < s.backoff then (.backoff, s) else lafConnBackedOff s)
    else none
  | .backoff, .wake => some (lafConnBackedOff s)
  | .client pc, .client i => (clientStep e pc i s).map fun r => (.client r.1, r.2)
  | .client .running, .triggered success backoff _ _ =>
    some (lafConnTriggered success (s.triggered backoff))
  | .retrySleep, .wake => some (lafConnAttempt s)
  | .loopSleep, .wake => some (lafConnSlept s)
  | _, _ => none

def lafConnPrivDone (s : WifiState) : LafConnPrivPc × WifiState :=
  (.lockLAF, { s with bIsStopLNFWhileDisconnected := true })

/-- The request of an attempt, and the state in which it is made. -/
def lafRequest (s : WifiState) : LafRequestType × WifiState :=
  if s.bAutoSwitchToPrivateEnabled ∨ s.bSwitch2Private then
    if s.bSwitch2Private then (.switchToPrivate, { s with bSwitch2Private := false })
    else (.connectToPrivWifi, s)
  else (.connectToLfssid, s.setLNFState .lnfInProgress)

/-- The attempt loop of `lafConnPrivThread`, from its head. -/
def lafConnPrivAttempt (s : WifiState) : LafConnPrivPc × WifiState :=
  let r := lafRequest s
  if r.2.bStopLNFWhileDisconnected then lafConnPrivDone (r.2.setLNFState .lnfUninitialized)
  else if r.2.gWifiAdopterStatus = .connected ∧ r.2.isLAFCurrConnectedssid = false then
    lafConnPrivDone (r.2.setLNFState .connectedPrivate)
  else (.lockTrigger r.1, { r.2 with bIsStopLNFWhileDisconnected := false })

def lafConnPrivStarted (s : WifiState) : LafConnPrivPc × WifiState :=
  let s := { s with startLAF := false }
  let s := if s.gWifiLNFStatus ≠ .connectedLnf then s.setLNFState .lnfInProgress else s
  if s.bPrivConnectionLost then (.privSleep, { s with bPrivConnectionLost := false })
  else lafConnPrivAttempt s

/-- The head of `lafConnPrivThread`, which holds `mutexLAF` only up to its wait. -/
def lafConnPrivWait (s : WifiState) : LafConnPrivPc × WifiState :=
  let s := if s.gWifiLNFStatus = .connectedPrivate ∧ s.gWifiAdopterStatus = .connected then
    { s with startLAF := false } else s
  if s.startLAF then lafConnPrivStarted s else (.condWait, s)

def lafConnPrivBackedOff (reqType : LafRequestType) (s : WifiState) :
    LafConnPrivPc × WifiState :=
  if s.gWifiLNFStatus = .connectedPrivate ∧ s.gWifiAdopterStatus = .connected then
    lafConnPrivDone { s with mutexTriggerLAF := .free }
  else
    (.client reqType .running,
      if s.gWifiLNFStatus = .lnfUninitialized then s.setLNFState .lnfInProgress else s)

/-- The manual connection that follows an attempt that failed. -/
def manualConnect (e : WifiEnv) (lastEndpoint : Option CStr) (ret : Int) (s : WifiState) :
    WifiState :=
  let s := s.lastConnectedSSID lastEndpoint
  let s := if lastEndpoint.isSome ∧ s.savedSsid ≠ [] then (connectWithSSID true ret s).1 else s
  if s.backoff = 0 then { s with backoff := e.lnfRetryInSecs } else s

def lafConnPrivTriggered (e : WifiEnv) (reqType : LafRequestType) (success : Bool)
    (lastEndpoint : Option CStr) (ret : Int) (s : WifiState) : LafConnPrivPc × WifiState :=
  if success then
    lafConnPrivDone (if reqType = .connectToLfssid then s.setLNFState .connectedLnf else s)
  else if s.bStopLNFWhileDisconnected then lafConnPrivDone (s.setLNFState .lnfUninitialized)
  else (.retrySleep, manualConnect e lastEndpoint ret s)

def lafConnPrivSlept (s : WifiState) : LafConnPrivPc × WifiState :=
  if s.gWifiLNFStatus ≠ .connectedPrivate ∧ s.bAutoSwitchToPrivateEnabled then
    lafConnPrivAttempt s
  else lafConnPrivDone s

def lafConnPrivStep (e : WifiEnv) (pc : LafConnPrivPc) (i : ThreadInput) (s : WifiState) :
    Option (LafConnPrivPc × WifiState) :=
  match pc, i with
  | .lockLAF, .wake => some (lafConnPrivWait s)
  | .condWait, .wake => some (if s.startLAF then lafConnPrivStarted s else (.condWait, s))
  | .privSleep, .wake => some (lafConnPrivAttempt s)
  | .lockTrigger reqType, .wake =>
    if s.mutexTriggerLAF = .free then
      let s := { s with mutexTriggerLAF := .held .lafConnPriv }
      some (if 0 < s.backoff then (.backoff reqType, s) else lafConnPrivBackedOff reqType s)
    else none
  | .backoff reqType, .wake => some (lafConnPrivBackedOff reqType s)
  | .client reqType pc, .client i =>
    (clientStep e pc i s).map fun r => (.client reqType r.1, r.2)
  | .client reqType .running, .triggered success backoff lastEndpoint ret =>
    some (lafConnPrivTriggered e reqType success lastEndpoint ret (s.triggered backoff))
  | .retrySleep, .wake => some (lafConnPrivSlept s)
  | _, _ => none

/-- The state once the request is taken for one to an LNF or to a private network. -/
def noted (e : WifiEnv) (ssid : CStr) (lastEndpoint : Option CStr) (s : WifiState) : WifiState :=
  if e.lafIsLnfssid ssid then { s with bLNFConnect := true }
  else { s with bLNFConnect := false }.lastConnectedSSID lastEndpoint

theorem noted_keeps (f : WifiState → α)
    (hf : ∀ (s : WifiState) (b : Bool) (saved : CStr),
      f { s with bLNFConnect := b, savedSsid := saved } = f s) (e : WifiEnv) (ssid : CStr)
    (lastEndpoint : Option CStr) (s : WifiState) : f (noted e ssid lastEndpoint s) = f s := by
  rw [noted]
  split
  · exact hf s true s.savedSsid
  · cases lastEndpoint with
    | none => exact hf s false s.savedSsid
    | some saved => exact hf s false (copySsid saved)

theorem noted_bLNFConnect (e : WifiEnv) (ssid : CStr) (lastEndpoint : Option CStr)
    (s : WifiState) : (noted e ssid lastEndpoint s).bLNFConnect = e.lafIsLnfssid ssid := by
  rw [noted]
  cases e.lafIsLnfssid ssid with
  | true => rfl
  | false =>
    cases lastEndpoint with
    | none => rfl
    | some saved => rfl

theorem lafConnectRequest_eq (e : WifiEnv) (ssid : CStr) (lastEndpoint : Option CStr) (ret : Int)
    (s : WifiState) :
    lafConnectRequest e ssid lastEndpoint ret s =
      if s.gWifiLNFStatus ≠ .connectedPrivate then
        let r := connectWithSSID (!e.lafIsLnfssid ssid) ret
          ((noted e ssid lastEndpoint s).setLNFState .lnfInProgress)
        (r.1, r.2.2)
      else (noted e ssid lastEndpoint s, !e.lafIsLnfssid ssid && lastEndpoint.isSome) := by
  have hunfold : lafConnectRequest e ssid lastEndpoint ret s =
      if (noted e ssid lastEndpoint s).gWifiLNFStatus ≠ .connectedPrivate then
        let r := connectWithSSID (!(noted e ssid lastEndpoint s).bLNFConnect) ret
          ((noted e ssid lastEndpoint s).setLNFState .lnfInProgress)
        (r.1, r.2.2)
      else (noted e ssid lastEndpoint s, !e.lafIsLnfssid ssid && lastEndpoint.isSome) := rfl
  rw [hunfold, noted_keeps WifiState.gWifiLNFStatus (fun _ _ _ => rfl), noted_bLNFConnect]

theorem connectWithSSID_keeps (f : WifiState → α)
    (hf : ∀ (s : WifiState) (status : WiFiStatusCode),
      f { s with gWifiAdopterStatus := status } = f s) (saveSSID : Bool) (ret : Int)
    (s : WifiState) : f (connectWithSSID saveSSID ret s).1 = f s := by
  rw [connectWithSSID]
  cases saveSSID with
  | true =>
    split
    · exact hf s .connecting
    · exact hf s .connecting
  | false =>
    split
    · rfl
    · rfl

theorem lafConnectRequest_keeps (f : WifiState → α)
    (hf : ∀ (s : WifiState) (b : Bool) (saved : CStr) (status : WiFiStatusCode)
      (lnf : WiFiLNFStatusCode), f { s with
        bLNFConnect := b, savedSsid := saved, gWifiAdopterStatus := status,
        gWifiLNFStatus := lnf } = f s)
    (e : WifiEnv) (ssid : CStr) (lastEndpoint : Option CStr) (ret : Int) (s : WifiState) :
    f (lafConnectRequest e ssid lastEndpoint ret s).1 = f s := by
  have hnoted : f (noted e ssid lastEndpoint s) = f s :=
    noted_keeps f (fun s b saved => hf s b saved s.gWifiAdopterStatus s.gWifiLNFStatus) e ssid
      lastEndpoint s
  have hset (t : WifiState) : f (t.setLNFState .lnfInProgress) = f t :=
    hf t t.bLNFConnect t.savedSsid t.gWifiAdopterStatus .lnfInProgress
  have hconn (t : WifiState) (b : Bool) : f (connectWithSSID b ret t).1 = f t :=
    connectWithSSID_keeps f (fun s status => hf s s.bLNFConnect s.savedSsid status
      s.gWifiLNFStatus) b ret t
  rw [lafConnectRequest_eq]
  split
  · exact ((hconn _ _).trans (hset _)).trans hnoted
  · exact hnoted

end NetSrvMgr.Wifi
