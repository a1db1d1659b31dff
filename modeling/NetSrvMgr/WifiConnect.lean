import NetSrvMgr.WifiStatus

namespace NetSrvMgr.Wifi
open CString
set_option autoImplicit true

inductive SsidSecurity
  | none | wep64 | wep128 | wpaPskTkip | wpaPskAes | wpa2PskTkip | wpa2PskAes
  | wpaEnterpriseTkip | wpaEnterpriseAes | wpa2EnterpriseTkip | wpa2EnterpriseAes
  | wpaWpa2Psk | wpaWpa2Enterprise | wpa3PskAes | wpa3Sae | notSupported
  | other (code : Int)
  deriving DecidableEq

inductive WiFiConnectionTypeCode
  | unknown | wps | manual | lnf | priv
  deriving DecidableEq

def passphraseBuff : Nat := 385

/-- A length kept in a `short`. -/
def shortLength (s : CStr) : Int := (s.length : Int).bmod 65536

structure WiFiConnection where
  ssid : CharArray ssidSize
  passphrase : CharArray passphraseBuff
  securityMode : SsidSecurity
  eapIdentity : CStr
  carootcert : CStr
  clientcert : CStr
  privatekey : CStr
  deriving DecidableEq

/-- The arguments of `connect_withSSID`; all but the connection type go to the HAL's
`wifi_connectEndpoint`. -/
structure ConnectArgs where
  ssidIndex : Int
  apSsid : CStr
  apSecurityMode : SsidSecurity
  apSecurityWEPKey : Option CStr
  apSecurityPreSharedKey : CStr
  apSecurityKeyPassphrase : CStr
  saveSSID : Int
  eapIdentity : CStr
  carootcert : CStr
  clientcert : CStr
  privatekey : CStr
  conType : WiFiConnectionTypeCode
  deriving DecidableEq

def saveSsid : Int := 1

def WiFiConnection.connectArgs (param : WiFiConnection) (ssid : CStr)
    (securityMode : SsidSecurity) (pass : CStr) : ConnectArgs where
  ssidIndex := 1
  apSsid := ssid
  apSecurityMode := securityMode
  apSecurityWEPKey := Option.none
  apSecurityPreSharedKey := pass
  apSecurityKeyPassphrase := pass
  saveSSID := saveSsid
  eapIdentity := param.eapIdentity
  carootcert := param.carootcert
  clientcert := param.clientcert
  privatekey := param.privatekey
  conType := .manual

/-- The call of `connect_withSSID` that `WiFiNetworkMgr::connect` makes for a request, if any, and
the status it replies with. -/
def connect (savedWiFiConnList param : WiFiConnection) : Option ConnectArgs × Bool :=
  let saved := savedWiFiConnList
  let ssidLen := shortLength param.ssid.str
  let passLen := shortLength param.passphrase.str
  if ssidLen = 0 then
    if saved.ssid.str ≠ [] && saved.passphrase.str ≠ [] then
      (some (param.connectArgs saved.ssid.str saved.securityMode saved.passphrase.str), true)
    else (Option.none, false)
  else if ssidLen ≠ 0 && passLen ≠ 0 then
    (some (param.connectArgs param.ssid.str param.securityMode param.passphrase.str), true)
  else if ssidLen ≠ 0 && passLen = 0 && param.securityMode = .none then
    -- the passphrase of the request is empty here
    (some (param.connectArgs param.ssid.str param.securityMode saved.passphrase.str), true)
  else (Option.none, false)

theorem shortLength_eq_zero_iff {s : CharArray size} (h : size ≤ 32768) :
    shortLength s.str = 0 ↔ s.str = [] := by
  have hfits := s.fits
  have hlen : shortLength s.str = s.str.length := by
    apply Int.bmod_eq_of_le
    · omega
    · omega
  rw [hlen, Int.natCast_eq_zero, List.length_eq_zero_iff]

theorem connect_named (saved : WiFiConnection) {param : WiFiConnection}
    (hssid : param.ssid.str ≠ []) :
    connect saved param =
      if param.passphrase.str ≠ [] then
        (some (param.connectArgs param.ssid.str param.securityMode param.passphrase.str), true)
      else if param.securityMode = .none then
        (some (param.connectArgs param.ssid.str param.securityMode saved.passphrase.str), true)
      else (Option.none, false) := by
  have hlen : ¬shortLength param.ssid.str = 0 := fun h =>
    hssid ((shortLength_eq_zero_iff (by decide)).1 h)
  have hpass : shortLength param.passphrase.str = 0 ↔ param.passphrase.str = [] :=
    shortLength_eq_zero_iff (by decide)
  simp only [connect, hlen, hpass, if_false, ne_eq, not_false_eq_true, decide_true,
    Bool.true_and, decide_eq_true_eq, Bool.and_eq_true, decide_not, Bool.not_eq_true',
    decide_eq_false_iff_not]
  by_cases hempty : param.passphrase.str = []
  · simp only [hempty, not_true_eq_false, if_false, true_and]
  · simp only [hempty, not_false_eq_true, if_true]

def WiFiConnection.sample (ssid passphrase : CStr) (hssid : ssid.length < ssidSize)
    (hpass : passphrase.length < passphraseBuff) : WiFiConnection where
  ssid := ⟨ssid, hssid⟩
  passphrase := ⟨passphrase, hpass⟩
  securityMode := .none
  eapIdentity := []
  carootcert := []
  clientcert := []
  privatekey := []

def WiFiConnection.noSession : WiFiConnection := .sample [] [] (by decide) (by decide)

def WiFiConnection.homeSession : WiFiConnection :=
  .sample "home".toList "secret".toList (by decide) (by decide)

/-- A request that names a network is served alike whatever session is saved, exactly when it
does not name an open network with no passphrase: there the saved one goes out. -/
theorem connect_saved_irrelevant_iff (param : WiFiConnection) (hssid : param.ssid.str ≠ []) :
    (∀ saved saved', connect saved param = connect saved' param) ↔
      ¬(param.passphrase.str = [] ∧ param.securityMode = .none) := by
  apply Iff.intro
  · intro h hopen
    obtain ⟨hempty, hnone⟩ := hopen
    have heq := h .noSession .homeSession
    rw [connect_named _ hssid, connect_named _ hssid, if_neg (not_not_intro hempty),
      if_neg (not_not_intro hempty), if_pos hnone, if_pos hnone, Prod.mk.injEq,
      Option.some_inj] at heq
    have hpass : WiFiConnection.noSession.passphrase.str =
        WiFiConnection.homeSession.passphrase.str :=
      congrArg ConnectArgs.apSecurityKeyPassphrase heq.1
    exact absurd hpass (by decide)
  · intro h saved saved'
    rw [connect_named _ hssid, connect_named _ hssid]
    by_cases hempty : param.passphrase.str = []
    · have hsec : ¬param.securityMode = .none := fun hnone => h ⟨hempty, hnone⟩
      rw [if_neg hsec, if_neg hsec]
    · rw [if_pos hempty, if_pos hempty]

def WiFiConnection.cafeRequest : WiFiConnection := .sample "cafe".toList [] (by decide) (by decide)

theorem connect_saved_irrelevant_psk :
    (∀ saved saved', connect saved .homeSession = connect saved' .homeSession) ↔
      ¬(WiFiConnection.homeSession.passphrase.str = [] ∧
        WiFiConnection.homeSession.securityMode = .none) :=
  connect_saved_irrelevant_iff .homeSession (by decide)

/-- The passphrase saved for "home" goes to the open network "cafe". -/
theorem connect_leaks_saved_passphrase :
    ¬∀ param : WiFiConnection, param.ssid.str ≠ [] →
      ∀ saved saved', connect saved param = connect saved' param := by
  intro h
  exact absurd (h .cafeRequest (by decide) .noSession .homeSession) (by decide)

end NetSrvMgr.Wifi
