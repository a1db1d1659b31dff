import NetSrvMgr.LastWrite
import NetSrvMgr.WifiStatus

namespace NetSrvMgr.Wifi
open CString LastWrite
set_option autoImplicit true

/-- `wifi_pairedSSIDInfo_t`: what the HAL keeps of the network connected last. -/
structure PairedSSIDInfo where
  apSsid : CStr
  apBssid : CStr
  apSecurity : CStr
  apPassphrase : CStr
  apWepKey : CStr
  deriving DecidableEq

/-- `savedWiFiConnList.ssidSession`, as far as it is read; `security_mode` is the number of the
enumerator. -/
structure SsidSession where
  ssid : CStr
  passphrase : CStr
  bssid : CStr
  security : CStr
  securityWEPKey : CStr
  securityMode : Int
  deriving DecidableEq

/-- What `memset` leaves. -/
def SsidSession.zero : SsidSession := ⟨[], [], [], [], [], 0⟩

def netWifiSecurityNone : Int := 0
def netWifiSecurityWep64 : Int := 1
def netWifiSecurityWep128 : Int := 2
def netWifiSecurityWpaPskAes : Int := 4
def netWifiSecurityWpa2EnterpriseAes : Int := 10
def netWifiSecurityWpa3Sae : Int := 14

def securityModeOf (security securityWEPKey : CStr) : Int :=
  if gStrrstr security "WPA-PSK".toList || gStrrstr security "SAE".toList then
    netWifiSecurityWpa3Sae
  else if security = "WPA-EAP".toList then netWifiSecurityWpa2EnterpriseAes
  else if securityWEPKey ≠ [] then
    if securityWEPKey.length = 26 || securityWEPKey.length = 13 then netWifiSecurityWep128
    else netWifiSecurityWep64
  else netWifiSecurityNone

/-- What `snprintf` into the fields of a session leaves. -/
def PairedSSIDInfo.session (p : PairedSSIDInfo) : SsidSession where
  ssid := copySsid p.apSsid
  passphrase := p.apPassphrase.take 384
  bssid := p.apBssid.take 19
  security := p.apSecurity.take 64
  securityWEPKey := p.apWepKey.take 384
  securityMode := securityModeOf (p.apSecurity.take 64) (p.apWepKey.take 384)

/-- `lastConnectedSSID`, for what the HAL answers. -/
def SsidSession.lastConnectedSSID (s : SsidSession) (endpoint : Option PairedSSIDInfo) :
    Bool × SsidSession :=
  match endpoint with
  | none => (false, s)
  | some p => (true, p.session)

/-- `wifiCredentials` of the manufacturer library, as the flash holds them. -/
structure Credentials where
  cSSID : CStr
  cPassword : CStr
  iSecurityMode : Int
  deriving DecidableEq

def SsidSession.credentials (s : SsidSession) : Credentials :=
  ⟨s.ssid, s.passphrase, s.securityMode⟩

/-- The comparison with what is stored, whose mode may be missing. -/
def Credentials.same (c : Credentials) (s : SsidSession) : Bool :=
  c.cSSID = s.ssid && c.cPassword = s.passphrase &&
    (c.iSecurityMode = s.securityMode || c.iSecurityMode = -1)

/-- How the calls of the manufacturer library go; a write may leave anything in the flash. -/
structure MfrBus where
  getSucceeds : Bool
  setSucceeds : Bool
  written : Credentials → Credentials
  getAgainSucceeds : Bool

structure StoreResult where
  retVal : Bool
  saved : SsidSession
  flash : Credentials
  wrote : Bool

def storeMfrWifiCredentials (bus : MfrBus) (endpoint : Option PairedSSIDInfo)
    (saved : SsidSession) (flash : Credentials) : StoreResult :=
  match saved.lastConnectedSSID endpoint with
  | (false, saved) => ⟨false, saved, flash, false⟩
  | (true, saved) =>
    if bus.getSucceeds && flash.same saved then ⟨true, saved, flash, false⟩
    else
      let flash := bus.written saved.credentials
      ⟨bus.setSucceeds && bus.getAgainSucceeds && flash.same saved, saved, flash, true⟩

/-- The arguments of `connect_withSSID` that come from the flash; the call fails where it cannot
be read. -/
def connectToMfrWifiCredentials (getSucceeds : Bool) (flash : Credentials) : Option Credentials :=
  if getSucceeds then
    if flash.iSecurityMode = -1 then
      some { flash with iSecurityMode := netWifiSecurityWpaPskAes }
    else some flash
  else none

/-- The call that `WiFiNetworkMgr::Start` makes to connect, where the HAL keeps no network. -/
def startConnects (endpoint : Option PairedSSIDInfo) (getSucceeds : Bool) (flash : Credentials) :
    Option Credentials :=
  if (SsidSession.zero.lastConnectedSSID endpoint).1 = false then
    connectToMfrWifiCredentials getSucceeds flash
  else none

/-- Whether `wifi_status_action` comes to its second call of `lastConnectedSSID`. -/
def Callback.connectsPrivate (e : WifiEnv) (cb : Callback) : Bool :=
  cb.connCode = .success && cb.action = actionOnConnect && !e.lafIsLnfssid cb.apSsid

theorem startLostFound_savedSsid (e : WifiEnv) (s : WifiState) :
    (startLostFound e s).savedSsid = s.savedSsid := by
  rw [startLostFound]
  split
  · rw [WifiState.lnfConnectPrivCredentials]
    split <;> rfl
  · rfl

theorem unlessRepeated_savedSsid (s : WifiState) (connCode : WifiStatusCode)
    (r : WifiState × List Effect) (h : r.1.savedSsid = s.savedSsid) :
    (unlessRepeated s connCode r).1.savedSsid = s.savedSsid := by
  rw [unlessRepeated]
  split
  · exact h
  · rfl

theorem onConnect_savedSsid (e : WifiEnv) (cb : Callback) (s : WifiState) :
    (onConnect e cb s).savedSsid =
      if e.lafIsLnfssid cb.apSsid then s.savedSsid
      else (s.lastConnectedSSID cb.lastEndpoint).savedSsid := by
  rw [onConnect]
  dsimp only
  split
  · rfl
  · cases cb.lastEndpoint <;> rfl

theorem wifiStatusAction_savedSsid (e : WifiEnv) (cb : Callback) (s : WifiState) :
    (wifiStatusAction e cb s).1.savedSsid =
      if cb.connectsPrivate e then (s.lastConnectedSSID cb.lastEndpoint).savedSsid
      else s.savedSsid := by
  have hlost := startLostFound_savedSsid e (s.setWiFiStatusCode .disconnected)
  rw [wifiStatusAction, statusBranch, Callback.connectsPrivate]
  cases hcode : cb.connCode with
  | success =>
    by_cases hconnect : cb.action = actionOnConnect
    · dsimp only
      rw [if_pos hconnect, decide_eq_true hconnect]
      dsimp only
      rw [onConnect_savedSsid]
      cases e.lafIsLnfssid cb.apSsid <;> rfl
    · dsimp only
      rw [if_neg hconnect, decide_eq_false hconnect]
      split <;> rfl
  | errorNotFound => exact unlessRepeated_savedSsid _ _ _ hlost
  | errorSsidChanged => exact unlessRepeated_savedSsid _ _ _ hlost
  | errorInvalidCredentials => exact hlost
  | errorAuthFailed => exact hlost
  | connecting => rfl
  | disconnecting => rfl
  | _ => exact unlessRepeated_savedSsid _ _ _ rfl

/-- The callback, with what the HAL answers its `lastConnectedSSID`. -/
def Callback.answered (cb : Callback) (endpoint : Option PairedSSIDInfo) : Callback :=
  { cb with lastEndpoint := endpoint.map PairedSSIDInfo.apSsid }

theorem answered_savedSsid (e : WifiEnv) (cb : Callback) (endpoint : Option PairedSSIDInfo)
    (s : WifiState) :
    (wifiStatusAction e (cb.answered endpoint) s).1.savedSsid =
      if cb.connectsPrivate e then
        (s.lastConnectedSSID (endpoint.map PairedSSIDInfo.apSsid)).savedSsid
      else s.savedSsid :=
  wifiStatusAction_savedSsid e (cb.answered endpoint) s

theorem mem_unlessRepeated {effect : Effect} {r : WifiState × List Effect}
    (h : effect ∈ (unlessRepeated s connCode r).2) : effect ∈ r.2 := by
  rw [unlessRepeated] at h
  split at h
  · exact h
  · cases h

theorem private_of_stores (h : .storeMfrWifiCredentials ∈ connectEffects e cb s) :
    e.lafIsLnfssid cb.apSsid = false := by
  cases hlnf : e.lafIsLnfssid cb.apSsid with
  | false => rfl
  | true =>
    simp only [connectEffects, hlnf, List.mem_append] at h
    rcases h with ((((h | h) | h) | h) | h) | h
    · cases h
    · split at h
      · cases h
      · split at h <;> cases List.mem_singleton.1 h
    · cases h
    · cases h
    · split at h
      · cases h
      · cases List.mem_singleton.1 h
    · cases List.mem_singleton.1 h

theorem connectsPrivate_of_stores
    (h : .storeMfrWifiCredentials ∈ (wifiStatusAction e cb s).2) : cb.connectsPrivate e = true := by
  rw [wifiStatusAction, statusBranch] at h
  rw [Callback.connectsPrivate]
  cases hcode : cb.connCode with
  | success =>
    simp only [hcode] at h
    split at h
    · next hconnect =>
      rw [decide_eq_true hconnect, private_of_stores h]
      rfl
    · split at h
      · cases List.mem_singleton.1 h
      · cases h
  | connecting => simp [hcode] at h
  | disconnecting => simp [hcode] at h
  | errorInvalidCredentials => simp [hcode] at h
  | errorAuthFailed => simp [hcode] at h
  | _ =>
    simp only [hcode] at h
    have heffects := mem_unlessRepeated h
    simp [onError] at heffects

/-- The globals, whose two copies of the saved SSID agree, and the flash behind them. -/
structure WifiDevice where
  wifi : WifiState
  saved : SsidSession
  flash : Credentials
  agree : wifi.savedSsid = saved.ssid

theorem lastConnectedSSID_agree {wifi : WifiState} {saved : SsidSession}
    (h : wifi.savedSsid = saved.ssid) (endpoint : Option PairedSSIDInfo) :
    (wifi.lastConnectedSSID (endpoint.map PairedSSIDInfo.apSsid)).savedSsid =
      (saved.lastConnectedSSID endpoint).2.ssid := by
  cases endpoint with
  | none => exact h
  | some p => rfl

theorem lastConnectedSSID_twice (saved : SsidSession) (first second : Option PairedSSIDInfo) :
    ((saved.lastConnectedSSID first).2.lastConnectedSSID second).2 =
      (saved.lastConnectedSSID (second.or first)).2 := by
  cases second with
  | none => rfl
  | some p => rfl

theorem storeMfrWifiCredentials_saved (bus : MfrBus) (endpoint : Option PairedSSIDInfo)
    (saved : SsidSession) (flash : Credentials) :
    (storeMfrWifiCredentials bus endpoint saved flash).saved =
      (saved.lastConnectedSSID endpoint).2 := by
  cases endpoint with
  | none => rfl
  | some p =>
    dsimp only [storeMfrWifiCredentials, SsidSession.lastConnectedSSID]
    split <;> rfl

namespace WifiDevice

def boot (zeroCode : WifiStatusCode) (flash : Credentials) : WifiDevice :=
  ⟨.init zeroCode, .zero, flash, rfl⟩

/-- The calls of `lastConnectedSSID` outside the callbacks. -/
def lookup (d : WifiDevice) (endpoint : Option PairedSSIDInfo) : WifiDevice where
  wifi := d.wifi.lastConnectedSSID (endpoint.map PairedSSIDInfo.apSsid)
  saved := (d.saved.lastConnectedSSID endpoint).2
  flash := d.flash
  agree := lastConnectedSSID_agree d.agree endpoint

def saveSSID (d : WifiDevice) (ssid passphrase : CStr) (securityMode : Int) : WifiDevice :=
  if ssid ≠ [] && passphrase ≠ [] then
    { d with wifi := { d.wifi with savedSsid := ssid },
             saved := { SsidSession.zero with
                          ssid := ssid, passphrase := passphrase, securityMode := securityMode },
             agree := rfl }
  else d

/-- `clearSSID_On_Disconnect_AP`, and whether it touches the flash. -/
def clearSSID (d : WifiDevice) (disconnects : Bool) (erased : Credentials) : WifiDevice × Bool :=
  if disconnects && !d.wifi.isLAFCurrConnectedssid then
    (⟨{ d.wifi with savedSsid := [] }, .zero, erased, rfl⟩, true)
  else (d, false)

/-- A callback, and what it leaves known of the flash: nothing new, or that a call of
`storeMfrWifiCredentials` has succeeded for the network, or has not after a write. The HAL answers
that call with `first` and the callback's own `lastConnectedSSID` with `second`. -/
def callback (e : WifiEnv) (cb : Callback) (first second : Option PairedSSIDInfo) (bus : MfrBus)
    (d : WifiDevice) : WifiDevice × Option (Option PairedSSIDInfo) :=
  if hstores : .storeMfrWifiCredentials ∈ (wifiStatusAction e cb d.wifi).2 then
    let stored := storeMfrWifiCredentials bus first d.saved d.flash
    let r := wifiStatusAction e (cb.answered (second.or first)) d.wifi
    have hagree : r.1.savedSsid = (stored.saved.lastConnectedSSID second).2.ssid := by
      rw [answered_savedSsid, if_pos (connectsPrivate_of_stores hstores),
        storeMfrWifiCredentials_saved, lastConnectedSSID_twice]
      exact lastConnectedSSID_agree d.agree (second.or first)
    (⟨r.1, (stored.saved.lastConnectedSSID second).2, stored.flash, hagree⟩,
      if stored.retVal then some first else if stored.wrote then some none else none)
  else
    let r := wifiStatusAction e (cb.answered second) d.wifi
    have hsaved := answered_savedSsid e cb second d.wifi
    if hprivate : cb.connectsPrivate e then
      have hagree : r.1.savedSsid = (d.saved.lastConnectedSSID second).2.ssid := by
        rw [hsaved, if_pos hprivate]
        exact lastConnectedSSID_agree d.agree second
      (⟨r.1, (d.saved.lastConnectedSSID second).2, d.flash, hagree⟩, none)
    else
      (⟨r.1, d.saved, d.flash, by rw [hsaved, if_neg hprivate]; exact d.agree⟩, none)

end WifiDevice

/-- What can happen, with what the HAL and the manufacturer library answer. -/
inductive WifiHappening
  | callback (cb : Callback) (first second : Option PairedSSIDInfo) (bus : MfrBus)
  | lookup (endpoint : Option PairedSSIDInfo)
  | saveSSID (ssid passphrase : CStr) (securityMode : Int)
  | clearSSID (disconnects : Bool) (erased : Credentials)
  | shutdownWifi
  | reboot (zeroCode : WifiStatusCode)

def WifiDevice.step (e : WifiEnv) (d : WifiDevice) :
    WifiHappening → WifiDevice × Option (Option PairedSSIDInfo)
  | .callback cb first second bus => d.callback e cb first second bus
  | .lookup endpoint => (d.lookup endpoint, none)
  | .saveSSID ssid passphrase securityMode => (d.saveSSID ssid passphrase securityMode, none)
  | .clearSSID disconnects erased =>
    let r := d.clearSSID disconnects erased
    (r.1, if r.2 then some none else none)
  | .shutdownWifi => (⟨NetSrvMgr.Wifi.shutdownWifi d.wifi, .zero, d.flash, rfl⟩, none)
  | .reboot zeroCode => (.boot zeroCode d.flash, none)

/-- The device after all that happened, with what was known of the flash after each. -/
def WifiDevice.run (e : WifiEnv) (d : WifiDevice) :
    List WifiHappening → WifiDevice × List (Option (Option PairedSSIDInfo))
  | [] => (d, [])
  | h :: hs =>
    let r := d.step e h
    let rest := r.1.run e hs
    (rest.1, r.2 :: rest.2)

/-- The network that the last successful store was for, with no write or erasure since. -/
def lastStored (log : List (Option (Option PairedSSIDInfo))) : Option PairedSSIDInfo :=
  lastWrite id log none

/-- A store that succeeds leaves the flash with the credentials of the network, and one that does
not write leaves it as it was. -/
theorem storeMfrWifiCredentials_flash (bus : MfrBus) (endpoint : Option PairedSSIDInfo)
    (saved : SsidSession) (flash : Credentials) :
    let r := storeMfrWifiCredentials bus endpoint saved flash
    (r.retVal = true → ∃ p, endpoint = some p ∧ r.flash.same p.session = true) ∧
      (r.wrote = false → r.flash = flash) := by
  cases endpoint with
  | none => exact ⟨fun h => Bool.noConfusion h, fun _ => rfl⟩
  | some p =>
    dsimp only [storeMfrWifiCredentials, SsidSession.lastConnectedSSID]
    split
    · next h =>
      rw [Bool.and_eq_true] at h
      exact ⟨fun _ => ⟨p, rfl, h.2⟩, fun _ => rfl⟩
    · apply And.intro
      · intro h
        rw [Bool.and_eq_true] at h
        exact ⟨p, rfl, h.2⟩
      · intro h
        cases h

theorem WifiDevice.step_flash (e : WifiEnv) (d : WifiDevice) (h : WifiHappening)
    {known : Option PairedSSIDInfo} (hknown : ∀ p ∈ known, d.flash.same p.session = true) :
    ∀ p ∈ (d.step e h).2.getD known, (d.step e h).1.flash.same p.session = true := by
  cases h with
  | callback cb first second bus =>
    rw [step, callback]
    dsimp only
    split
    · obtain ⟨hstored, hkept⟩ := storeMfrWifiCredentials_flash bus first d.saved d.flash
      dsimp only
      split
      · next h =>
        obtain ⟨p, rfl, hsame⟩ := hstored h
        rintro q ⟨⟩
        exact hsame
      · split
        · rintro q ⟨⟩
        · next h =>
          rw [hkept (by simpa using h)]
          exact hknown
    · split
      · exact hknown
      · exact hknown
  | lookup endpoint => exact hknown
  | saveSSID ssid passphrase securityMode =>
    rw [step, saveSSID]
    split <;> exact hknown
  | clearSSID disconnects erased =>
    rw [step, clearSSID]
    dsimp only
    split
    · rintro q ⟨⟩
    · exact hknown
  | shutdownWifi => exact hknown
  | reboot zeroCode => exact hknown

theorem WifiDevice.run_flash (e : WifiEnv) (hs : List WifiHappening) (d : WifiDevice)
    {known : Option PairedSSIDInfo} (hknown : ∀ p ∈ known, d.flash.same p.session = true) :
    ∀ p ∈ lastWrite id (d.run e hs).2 known, (d.run e hs).1.flash.same p.session = true := by
  induction hs generalizing d known with
  | nil => exact hknown
  | cons h hs ih =>
    rw [run, lastWrite_cons]
    exact ih (d.step e h).1 (d.step_flash e h hknown)

/-- Whatever happens, a start that finds no network in the HAL, and the flash readable, connects to
the network that the last successful store was for. -/
theorem start_reconnects (e : WifiEnv) (d : WifiDevice) (hs : List WifiHappening)
    (h : lastStored (d.run e hs).2 = some p) :
    ∃ c, startConnects none true (d.run e hs).1.flash = some c ∧
      c.cSSID = copySsid p.apSsid ∧ c.cPassword = p.apPassphrase.take 384 ∧
      (c.iSecurityMode = p.session.securityMode ∨ c.iSecurityMode = netWifiSecurityWpaPskAes) := by
  have hnone : ∀ p ∈ (none : Option PairedSSIDInfo), d.flash.same p.session = true := by
    rintro q ⟨⟩
  have hsame := d.run_flash e hs hnone p h
  simp only [Credentials.same, Bool.and_eq_true, Bool.or_eq_true, decide_eq_true_eq] at hsame
  obtain ⟨⟨hssid, hpassword⟩, hmode⟩ := hsame
  have hstart : startConnects none true (d.run e hs).1.flash =
      connectToMfrWifiCredentials true (d.run e hs).1.flash := rfl
  rw [hstart, connectToMfrWifiCredentials, if_pos rfl]
  split
  · exact ⟨_, rfl, hssid, hpassword, Or.inr rfl⟩
  · next hset => exact ⟨_, rfl, hssid, hpassword, Or.inl (hmode.resolve_right hset)⟩

def homeNetwork : PairedSSIDInfo where
  apSsid := "home".toList
  apBssid := []
  apSecurity := "WPA-PSK".toList
  apPassphrase := "secret".toList
  apWepKey := []

/-- A first connection whose credentials are stored, and a reboot; the second call of
`lastConnectedSSID` fails. -/
def storedThenRebooted : List WifiHappening :=
  [.callback ⟨.success, "home".toList, actionOnConnect, none, false⟩ homeNetwork none
      ⟨true, true, id, true⟩,
    .reboot .errorUnknown]

theorem start_reconnects_home :
    let e : WifiEnv := ⟨fun _ => false, false, 0, 0⟩
    let d := WifiDevice.boot .errorUnknown ⟨[], [], 0⟩
    ∃ c, startConnects none true (d.run e storedThenRebooted).1.flash = some c ∧
      c.cSSID = copySsid homeNetwork.apSsid ∧ c.cPassword = homeNetwork.apPassphrase.take 384 ∧
      (c.iSecurityMode = homeNetwork.session.securityMode ∨
        c.iSecurityMode = netWifiSecurityWpaPskAes) :=
  start_reconnects ⟨fun _ => false, false, 0, 0⟩ (.boot .errorUnknown ⟨[], [], 0⟩)
    storedThenRebooted (by decide)

end NetSrvMgr.Wifi
