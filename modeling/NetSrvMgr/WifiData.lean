import Mathlib.Algebra.Order.Field.Rat
import NetSrvMgr.CString

namespace NetSrvMgr.Wifi
open CString
set_option autoImplicit true

inductive WiFiStatusCode
  | uninstalled | disabled | disconnected | pairing | connecting | connected | failed
  deriving DecidableEq

inductive WiFiLNFStatusCode
  | lnfUninitialized | lnfInProgress | connectedLnf | connectedPrivate
  | disconnectedNoLnfGatewayDetected | disconnectedGetLfatFailed
  | disconnectedCantConnectToPrivate
  deriving DecidableEq

inductive WiFiErrorCode
  | ssidChanged | connectionLost | connectionFailed | connectionInterrupted
  | invalidCredentials | noSsid | unknown | authFailed
  deriving DecidableEq

/-- `wifiStatusCode_t` of the HAL: the codes `wifi_status_action` names, and any other. -/
inductive WifiStatusCode
  | success | connecting | disconnecting
  | errorNotFound | errorTimeoutExpired | errorDevDisconnect | errorSsidChanged
  | errorConnectionLost | errorConnectionFailed | errorConnectionInterrupted
  | errorInvalidCredentials | errorAuthFailed | unrecoverableError | errorUnknown
  | other (code : Int)
  deriving DecidableEq

def actionOnConnect : UInt16 := 1
def actionOnDisconnect : UInt16 := 0

/-- `SSID_SIZE`, the terminating NUL included. -/
def ssidSize : Nat := 33

def copySsid (ssid : CStr) : CStr := ssid.take (ssidSize - 1)

inductive WifiEvent
  | onWIFIStateChanged (state : WiFiStatusCode)
  | onError (code : WiFiErrorCode)
  | onSSIDsChanged
  deriving DecidableEq

inductive Effect
  | broadcast (event : WifiEvent)
  | storeMfrWifiCredentials
  | refreshXreSession (xreReconnectReason : Nat)
  | wifiAddrReset
  | triggerDhcpReleaseAndRenew
  | collectAPDetails
  | signalCondGo
  deriving DecidableEq

/-- The configuration and the LNF library's test of an SSID. -/
structure WifiEnv where
  lafIsLnfssid : CStr → Bool
  bEnableLostFound : Bool
  lnfRetryInSecs : ℚ
  lnfRetryCount : Nat

inductive LnfThread
  | lafConn | lafConnPriv
  deriving DecidableEq

/-- A mutex stays locked when the thread that holds it is cancelled. -/
inductive MutexState
  | free | held (thread : LnfThread) | abandoned
  deriving DecidableEq

structure WifiState where
  gWifiAdopterStatus : WiFiStatusCode
  gWifiLNFStatus : WiFiLNFStatusCode
  connCodePrevState : WifiStatusCode
  isLAFCurrConnectedssid : Bool
  startLAF : Bool
  bLnfActivationLoop : Bool
  bLNFConnect : Bool
  bStopLNFWhileDisconnected : Bool
  bIsStopLNFWhileDisconnected : Bool
  bAutoSwitchToPrivateEnabled : Bool
  bSwitch2Private : Bool
  bPrivConnectionLost : Bool
  bDeviceActivated : Bool
  bShutdownWifi : Bool
  mutexTriggerLAF : MutexState
  switchLnf2Priv : Bool
  switchPriv2Lnf : Bool
  /-- `last_laf_status.backoff`. -/
  backoff : ℚ
  /-- `savedWiFiConnList.ssidSession.ssid`. -/
  savedSsid : CStr
  /-- `wifiConnData.ssid`. -/
  connDataSsid : CStr
  deriving DecidableEq

/-- The globals as the program starts: `isWiFiCapable` has yet to store `WIFI_DISCONNECTED`, which
it does before `Start`. `connCode_prev_state` is zero-initialised, and which code of the HAL that is
is not known here. -/
def WifiState.init (zeroCode : WifiStatusCode) : WifiState where
  gWifiAdopterStatus := .uninstalled
  gWifiLNFStatus := .lnfUninitialized
  connCodePrevState := zeroCode
  isLAFCurrConnectedssid := false
  startLAF := false
  bLnfActivationLoop := false
  bLNFConnect := false
  bStopLNFWhileDisconnected := false
  bIsStopLNFWhileDisconnected := false
  bAutoSwitchToPrivateEnabled := true
  bSwitch2Private := false
  bPrivConnectionLost := false
  bDeviceActivated := false
  bShutdownWifi := false
  mutexTriggerLAF := .free
  switchLnf2Priv := false
  switchPriv2Lnf := false
  backoff := 0
  savedSsid := []
  connDataSsid := []

def WifiState.setWiFiStatusCode (s : WifiState) (status : WiFiStatusCode) : WifiState :=
  { s with gWifiAdopterStatus := status }

def WifiState.setLNFState (s : WifiState) (status : WiFiLNFStatusCode) : WifiState :=
  { s with gWifiLNFStatus := status }

def WifiState.signalStartLAF (s : WifiState) : WifiState := { s with startLAF := true }

/-- A start is discarded while the activation loop runs. -/
def WifiState.lnfConnectPrivCredentials (s : WifiState) : WifiState :=
  if s.bLnfActivationLoop then s else s.signalStartLAF

def WifiState.lastConnectedSSID (s : WifiState) (endpoint : Option CStr) : WifiState :=
  match endpoint with
  | some ssid => { s with savedSsid := copySsid ssid }
  | none => s

@[simp] theorem WifiState.setWiFiStatusCode_status (s : WifiState) (status : WiFiStatusCode) :
    (s.setWiFiStatusCode status).gWifiAdopterStatus = status := rfl

theorem WifiState.lnfConnectPrivCredentials_keeps (f : WifiState → α)
    (hf : ∀ (s : WifiState) (b : Bool), f { s with startLAF := b } = f s) (s : WifiState) :
    f s.lnfConnectPrivCredentials = f s := by
  rw [lnfConnectPrivCredentials]
  split
  · rfl
  · exact hf s true

/-- What only the LNF threads write. -/
def WifiState.locks (s : WifiState) : Bool × MutexState :=
  (s.bLnfActivationLoop, s.mutexTriggerLAF)

@[simp] theorem WifiState.lnfConnectPrivCredentials_locks (s : WifiState) :
    s.lnfConnectPrivCredentials.locks = s.locks :=
  lnfConnectPrivCredentials_keeps locks (fun _ _ => rfl) s

@[simp] theorem WifiState.lastConnectedSSID_locks (s : WifiState) (endpoint : Option CStr) :
    (s.lastConnectedSSID endpoint).locks = s.locks := by
  cases endpoint with
  | none => rfl
  | some ssid => rfl

end NetSrvMgr.Wifi
