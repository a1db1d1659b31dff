import NetSrvMgr.WifiStatus

namespace NetSrvMgr.Wifi
open CString Transition
set_option autoImplicit true

/-- What a callback is about: a connection that succeeded, one that is gone, or neither. -/
inductive CallbackKind
  | connects | leaves | neither
  deriving DecidableEq

def Callback.kind (cb : Callback) : CallbackKind :=
  match cb.connCode with
  | .success =>
    if cb.action = actionOnConnect then .connects
    else if cb.action = actionOnDisconnect then .leaves
    else .neither
  | .connecting => .leaves
  | .disconnecting | .errorUnknown | .other _ => .neither
  | .errorNotFound | .errorTimeoutExpired | .errorDevDisconnect | .errorSsidChanged
  | .errorConnectionLost | .errorConnectionFailed | .errorConnectionInterrupted
  | .errorInvalidCredentials | .errorAuthFailed | .unrecoverableError => .leaves

/-- The globals, and the network that the last successful connect callback was for. -/
structure Device where
  wifi : WifiState
  network : CStr

def Device.init (zeroCode : WifiStatusCode) : Device := ⟨WifiState.init zeroCode, []⟩

def deviceStep (e : WifiEnv) (d : Device) (cb : Callback) : Option Device :=
  some ⟨(wifiStatusAction e cb d.wifi).1, if cb.kind = .connects then cb.apSsid else d.network⟩

/-- What the two connected values of `WiFiLNFStatusCode_t` are documented to mean. -/
structure LnfConsistent (e : WifiEnv) (d : Device) : Prop where
  priv : d.wifi.gWifiLNFStatus = .connectedPrivate →
    d.wifi.gWifiAdopterStatus = .connected ∧ e.lafIsLnfssid d.network = false
  lnf : d.wifi.gWifiLNFStatus = .connectedLnf →
    d.wifi.gWifiAdopterStatus = .connected ∧ e.lafIsLnfssid d.network = true

def WiFiLNFStatusCode.isConnected (c : WiFiLNFStatusCode) : Prop :=
  c = .connectedPrivate ∨ c = .connectedLnf

def KeepsConnection (d : Device) (cb : Callback) : Prop :=
  d.wifi.gWifiLNFStatus.isConnected → cb.kind ≠ .leaves

/-- While connected, the last code was not one that a repeated failure would be checked
against. -/
def Device.Fresh (d : Device) : Prop :=
  d.wifi.gWifiAdopterStatus = .connected → d.wifi.connCodePrevState.failureStatus = none

theorem LnfConsistent.status (h : LnfConsistent e d) (hlnf : d.wifi.gWifiLNFStatus.isConnected) :
    d.wifi.gWifiAdopterStatus = .connected := by
  rcases hlnf with hlnf | hlnf
  · exact (h.priv hlnf).1
  · exact (h.lnf hlnf).1

theorem LnfConsistent.of_not_connected (h : ¬ d.wifi.gWifiLNFStatus.isConnected) :
    LnfConsistent e d where
  priv hp := absurd (Or.inl hp) h
  lnf hl := absurd (Or.inr hl) h

theorem failureStatus_ne_connected {c : WifiStatusCode} (h : c.failureStatus = some status) :
    status ≠ .connected := by
  cases c <;> cases h <;> decide

theorem Callback.failureStatus_of_kind {cb : Callback} (h : cb.kind ≠ .leaves) :
    cb.connCode.failureStatus = none := by
  rw [kind] at h
  cases hc : cb.connCode <;> rw [hc] at h <;> first | rfl | exact absurd rfl h

theorem wifiStatusAction_connects (e : WifiEnv) (s : WifiState) {cb : Callback}
    (h : cb.kind = .connects) :
    (wifiStatusAction e cb s).1.gWifiAdopterStatus = .connected ∧
      (wifiStatusAction e cb s).1.gWifiLNFStatus =
        if e.lafIsLnfssid cb.apSsid then .connectedLnf else .connectedPrivate := by
  rw [Callback.kind] at h
  rw [wifiStatusAction, statusBranch]
  cases hc : cb.connCode with
  | success =>
    rw [hc] at h
    dsimp only at h ⊢
    have hconnect : cb.action = actionOnConnect := by
      by_contra ha
      rw [if_neg ha] at h
      split at h
      · cases h
      · cases h
    rw [if_pos hconnect, onConnect]
    dsimp only
    cases hlnf : e.lafIsLnfssid cb.apSsid with
    | true => exact ⟨rfl, rfl⟩
    | false =>
      cases hend : cb.lastEndpoint with
      | none => exact ⟨rfl, rfl⟩
      | some ssid => exact ⟨rfl, rfl⟩
  | _ =>
    rw [hc] at h
    cases h

theorem wifiStatusAction_lnf (e : WifiEnv) (s : WifiState) {cb : Callback}
    (h : cb.kind ≠ .connects) :
    (wifiStatusAction e cb s).1.gWifiLNFStatus = s.gWifiLNFStatus := by
  rw [Callback.kind] at h
  rw [wifiStatusAction, statusBranch]
  cases hc : cb.connCode with
  | success =>
    rw [hc] at h
    dsimp only at h ⊢
    have hconnect : cb.action ≠ actionOnConnect := by
      intro ha
      rw [if_pos ha] at h
      exact h rfl
    rw [if_neg hconnect]
    split
    · rfl
    · rfl
  | errorInvalidCredentials => exact startLostFound_lnf e _
  | errorAuthFailed => exact startLostFound_lnf e _
  | errorNotFound => exact unlessRepeated_keeps WifiState.gWifiLNFStatus (startLostFound_lnf e _) _
  | errorSsidChanged =>
    exact unlessRepeated_keeps WifiState.gWifiLNFStatus (startLostFound_lnf e _) _
  | connecting => rfl
  | disconnecting => rfl
  | _ => exact unlessRepeated_keeps (s := s) WifiState.gWifiLNFStatus rfl _

theorem wifiStatusAction_neither (e : WifiEnv) (s : WifiState) {cb : Callback}
    (h : cb.kind = .neither) :
    (wifiStatusAction e cb s).1.gWifiAdopterStatus = s.gWifiAdopterStatus := by
  rw [Callback.kind] at h
  rw [wifiStatusAction, statusBranch]
  cases hc : cb.connCode with
  | success =>
    rw [hc] at h
    dsimp only at h ⊢
    have hconnect : cb.action ≠ actionOnConnect := by
      intro ha
      rw [if_pos ha] at h
      cases h
    rw [if_neg hconnect] at h ⊢
    have hdisconnect : cb.action ≠ actionOnDisconnect := by
      intro ha
      rw [if_pos ha] at h
      cases h
    rw [if_neg hdisconnect]
  | disconnecting => rfl
  | errorUnknown => rw [unlessRepeated_fst, ite_self]
  | other code => rw [unlessRepeated_fst, ite_self]
  | _ =>
    rw [hc] at h
    cases h

theorem wifiStatusAction_leaves (e : WifiEnv) {d : Device} (hd : d.Fresh) {cb : Callback}
    (h : cb.kind = .leaves) : (wifiStatusAction e cb d.wifi).1.gWifiAdopterStatus ≠ .connected := by
  cases hf : cb.connCode.failureStatus with
  | some status =>
    rw [wifiStatusAction_failure e d.wifi hf]
    split
    · exact failureStatus_ne_connected hf
    · next hrep =>
      -- a repeated failure finds the device not connected
      intro hc
      have hprev : d.wifi.connCodePrevState = cb.connCode := by
        cases Decidable.em (d.wifi.connCodePrevState = cb.connCode) with
        | inl heq => exact heq
        | inr hne => exact absurd (Or.inl hne) hrep
      have hnone := hd hc
      rw [hprev, hf] at hnone
      cases hnone
  | none =>
    rw [Callback.kind] at h
    rw [wifiStatusAction, statusBranch]
    cases hc : cb.connCode with
    | success =>
      rw [hc] at h
      dsimp only at h ⊢
      have hconnect : cb.action ≠ actionOnConnect := by
        intro ha
        rw [if_pos ha] at h
        cases h
      rw [if_neg hconnect] at h ⊢
      have hdisconnect : cb.action = actionOnDisconnect := by
        by_contra ha
        rw [if_neg ha] at h
        cases h
      rw [if_pos hdisconnect]
      exact WiFiStatusCode.noConfusion
    | connecting => exact WiFiStatusCode.noConfusion
    | disconnecting =>
      rw [hc] at h
      cases h
    | errorUnknown =>
      rw [hc] at h
      cases h
    | other code =>
      rw [hc] at h
      cases h
    | _ =>
      rw [hc] at hf
      cases hf

theorem deviceStep_keeps (e : WifiEnv) {d : Device} (hd : LnfConsistent e d) (hf : d.Fresh)
    (h : KeepsConnection d cb) (ht : deviceStep e d cb = some t) :
    LnfConsistent e t ∧ t.Fresh := by
  cases ht
  cases hk : cb.kind with
  | connects =>
    obtain ⟨hstatus, hlnf⟩ := wifiStatusAction_connects e d.wifi hk
    have hne : cb.kind ≠ .leaves := by
      rw [hk]
      decide
    have hnone := Callback.failureStatus_of_kind hne
    refine ⟨⟨?_, ?_⟩, fun _ => hnone⟩
    · intro hp
      dsimp only at hp ⊢
      rw [if_pos rfl]
      rw [hlnf] at hp
      split at hp
      · cases hp
      · next hssid => exact ⟨hstatus, Bool.eq_false_of_not_eq_true hssid⟩
    · intro hl
      dsimp only at hl ⊢
      rw [if_pos rfl]
      rw [hlnf] at hl
      split at hl
      · next hssid => exact ⟨hstatus, hssid⟩
      · cases hl
  | leaves =>
    have hne : cb.kind ≠ .connects := by
      rw [hk]
      decide
    have hlnf := wifiStatusAction_lnf e d.wifi hne
    apply And.intro
    · apply LnfConsistent.of_not_connected
      dsimp only
      rw [hlnf]
      intro hconn
      exact h hconn hk
    · intro hc
      exact absurd hc (wifiStatusAction_leaves e hf hk)
  | neither =>
    have hne : cb.kind ≠ .connects ∧ cb.kind ≠ .leaves := by
      rw [hk]
      decide
    have hlnf := wifiStatusAction_lnf e d.wifi hne.1
    have hstatus := wifiStatusAction_neither e d.wifi hk
    have hnone := Callback.failureStatus_of_kind hne.2
    refine ⟨⟨?_, ?_⟩, fun _ => hnone⟩
    · dsimp only
      rw [hlnf, hstatus]
      exact hd.priv
    · dsimp only
      rw [hlnf, hstatus]
      exact hd.lnf

theorem keepsConnection_iff (e : WifiEnv) {d : Device} (hd : LnfConsistent e d) (hf : d.Fresh)
    (cb : Callback) :
    KeepsConnection d cb ↔ ∀ t, deviceStep e d cb = some t → LnfConsistent e t := by
  apply Iff.intro
  · intro h t ht
    exact (deviceStep_keeps e hd hf h ht).1
  · intro h hconn hk
    have hne : cb.kind ≠ .connects := by
      rw [hk]
      decide
    have ht := h _ rfl
    have hlnf := wifiStatusAction_lnf e d.wifi hne
    have hstatus : (wifiStatusAction e cb d.wifi).1.gWifiAdopterStatus = .connected := by
      apply ht.status
      dsimp only
      rw [hlnf]
      exact hconn
    exact wifiStatusAction_leaves e hf hk hstatus

/-- The LNF status means what it is documented to mean after every callback of a run exactly
when no callback reports the connection gone that it names. -/
theorem lnf_status_consistent_iff (e : WifiEnv) (zeroCode : WifiStatusCode)
    (cbs : List Callback) :
    StepsMeet (deviceStep e) KeepsConnection (Device.init zeroCode) cbs ↔
      ∀ js cb d, js ++ [cb] <+: cbs →
        run (deviceStep e) (Device.init zeroCode) (js ++ [cb]) = some d →
          LnfConsistent e d := by
  apply stepsMeet_iff_outcome (P := fun d => LnfConsistent e d ∧ d.Fresh)
    (Q := fun _ d => LnfConsistent e d)
  · intro d cb hd
    exact keepsConnection_iff e hd.1 hd.2 cb
  · intro d cb t hd h ht
    exact deviceStep_keeps e hd.1 hd.2 h ht
  · apply And.intro
    · apply LnfConsistent.of_not_connected
      intro h
      cases h <;> contradiction
    · intro h
      cases h

def privateEnv : WifiEnv := ⟨fun _ => false, true, 60, 180⟩

def homeCallback (action : UInt16) : Callback :=
  ⟨.success, ['h', 'o', 'm', 'e'], action, none, false⟩

/-- A disconnect leaves the LNF status at connected to a private network. -/
theorem lnf_status_stale_after_disconnect :
    ¬ ∀ (e : WifiEnv) (zeroCode : WifiStatusCode) (cbs : List Callback) (d : Device),
      run (deviceStep e) (Device.init zeroCode) cbs = some d → LnfConsistent e d := by
  intro h
  have hd := h privateEnv .success [homeCallback actionOnConnect, homeCallback actionOnDisconnect]
    _ rfl
  have hstatus := (hd.priv (by decide)).1
  revert hstatus
  decide

end NetSrvMgr.Wifi
