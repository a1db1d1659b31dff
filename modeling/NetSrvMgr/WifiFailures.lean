import NetSrvMgr.WifiStatus

namespace NetSrvMgr.Wifi
open CString Transition
set_option autoImplicit true

inductive WifiInput
  | callback (cb : Callback)
  | connectWithSSID (saveSSID : Bool) (ret : Int)
  | shutdownWifi
  | start

def wifiStep (e : WifiEnv) (s : WifiState) : WifiInput → Option WifiState
  | .callback cb => some (wifiStatusAction e cb s).1
  | .connectWithSSID saveSSID ret => some (connectWithSSID saveSSID ret s).1
  | .shutdownWifi => some (shutdownWifi s)
  | .start => some (monitorWiFiStatus s)

def ShowsFailure (i : WifiInput) (t : WifiState) : Prop :=
  ∀ cb status, i = .callback cb → cb.connCode.failureStatus = some status →
    t.gWifiAdopterStatus = status

/-- A failure has an unguarded branch, is not the code of the callback before it, or finds the
status already as it would set it. -/
def Recorded (s : WifiState) (i : WifiInput) : Prop :=
  ∀ cb status, i = .callback cb → cb.connCode.failureStatus = some status →
    (s.connCodePrevState ≠ cb.connCode ∨ cb.connCode.unguarded = true) ∨
      s.gWifiAdopterStatus = status

theorem recorded_iff (e : WifiEnv) (s : WifiState) (i : WifiInput) :
    Recorded s i ↔ ∀ t, wifiStep e s i = some t → ShowsFailure i t := by
  apply Iff.intro
  · intro h t ht cb status hi hf
    subst hi
    cases ht
    rw [wifiStatusAction_failure e s hf]
    rcases h cb status rfl hf with h | h
    · rw [if_pos h]
    · rw [h, ite_self]
  · intro h cb status hi hf
    subst hi
    have ht := h _ rfl cb status rfl hf
    rw [wifiStatusAction_failure e s hf] at ht
    split at ht
    · next hset => exact Or.inl hset
    · exact Or.inr ht

/-- Failures are shown in the status throughout a run exactly when none is passed over as a
repetition while the status is another. -/
theorem failures_shown_iff (e : WifiEnv) (zeroCode : WifiStatusCode) (is : List WifiInput) :
    StepsMeet (wifiStep e) Recorded (WifiState.init zeroCode) is ↔
      ∀ js i t, js ++ [i] <+: is →
        run (wifiStep e) (WifiState.init zeroCode) (js ++ [i]) = some t → ShowsFailure i t := by
  apply stepsMeet_iff_outcome (P := fun _ => True)
  · intro s i _
    exact recorded_iff e s i
  · intro s i t _ _ _
    trivial
  · trivial

def retryEnv : WifiEnv := ⟨fun _ => false, true, 60, 180⟩

def notFound : Callback := ⟨.errorNotFound, ['h', 'o', 'm', 'e'], actionOnConnect, none, false⟩

/-- A second attempt that fails as the first did leaves the status at connecting. -/
theorem repeated_failure_not_shown :
    ¬ ∀ (e : WifiEnv) (zeroCode : WifiStatusCode) (js : List WifiInput) (cb : Callback)
        (t : WifiState) (status : WiFiStatusCode),
      run (wifiStep e) (WifiState.init zeroCode) (js ++ [.callback cb]) = some t →
      cb.connCode.failureStatus = some status → t.gWifiAdopterStatus = status := by
  intro h
  have hstatus := h retryEnv .success
    [.start, .connectWithSSID true 0, .callback notFound, .connectWithSSID true 0] notFound
    _ .disconnected rfl rfl
  revert hstatus
  decide

end NetSrvMgr.Wifi
