import NetSrvMgr.WifiStatus

namespace NetSrvMgr.Wifi
open CString Transition
set_option autoImplicit true

def Effect.event : Effect → Option WifiEvent
  | .broadcast event => some event
  | _ => none

def WifiEvent.state : WifiEvent → Option WiFiStatusCode
  | .onWIFIStateChanged state => some state
  | _ => none

/-- A `wifi_status_action` that has set the globals and has its events still to broadcast. -/
structure PendingCallback where
  connCode : WifiStatusCode
  events : List WifiEvent
  deriving DecidableEq

/-- Where a thread stands in a connect function: before a broadcast, in the HAL call or in the
wait for the disconnect. The PIN is `none` for the push button. -/
inductive ConnectPc
  | announcing
  | inConnectEndpoint
  | disconnectSleep (wpsPin : Option CStr) (count : Nat)
  | inWpsCall (wpsPin : Option CStr)
  | reporting
  deriving DecidableEq

/-- The state whose broadcast a connect function has reached. -/
def ConnectPc.unsent : ConnectPc → Option WiFiStatusCode
  | announcing => some .connecting
  | reporting => some .failed
  | _ => none

/-- Whether a HAL call that returns `ret` has failed: `connect_withSSID` tests for zero, the WPS
functions for `RETURN_OK`. -/
def ConnectPc.failed (returnOk : Int) (ret : Int) : ConnectPc → Option Bool
  | inConnectEndpoint => some (ret ≠ 0)
  | inWpsCall _ => some (ret ≠ returnOk)
  | _ => none

/-- The start of `connect_WpsPush`, and of `connect_WpsPin` once it has its PIN: an endpoint that
is connected is disconnected first. -/
def connectWps (wpsPin : Option CStr) (s : WifiState) : ConnectPc :=
  if s.gWifiAdopterStatus = .connected then .disconnectSleep wpsPin 1 else .inWpsCall wpsPin

/-- A sleep of the wait for the disconnect has ended. -/
def disconnectPoll (wpsPin : Option CStr) (count : Nat) (s : WifiState) : ConnectPc :=
  if s.gWifiAdopterStatus = .connected ∧ count ≤ 30 then .disconnectSleep wpsPin (count + 1)
  else .inWpsCall wpsPin

/-- The PIN that `connect_WpsPin` gives to the HAL, if it goes on: `getMfrData` supplies one for
the placeholder. -/
def wpsPinOf (wpsPin mfrSerialPin : Option CStr) : Option CStr :=
  wpsPin.bind fun pin =>
    if pin = "xxxxxxxx".toList then mfrSerialPin.map fun mfr => mfr.take 8 else some pin

/-- The globals, the callbacks and connect functions that are under way, and every event that was
broadcast with the status as it then was. -/
structure EventState where
  wifi : WifiState
  callbacks : List PendingCallback
  calls : List ConnectPc
  broadcasts : List (WifiEvent × WiFiStatusCode)
  deriving DecidableEq

inductive EventStep
  | callback (cb : Callback)
  | callbackSent (callback : Nat)
  | connectWithSSID (saveSSID : Bool)
  | connectWpsPush
  | connectWpsPin (wpsPin mfrSerialPin : Option CStr)
  | slept (call : Nat)
  | returned (call : Nat) (ret : Int)
  | sent (call : Nat)

/-- The steps that broadcast. -/
def EventStep.Sends : EventStep → Prop
  | callbackSent _ | sent _ => True
  | _ => False

namespace EventState

def broadcast (s : EventState) (events : List WifiEvent) : EventState :=
  { s with broadcasts :=
      s.broadcasts ++ events.map fun event => (event, s.wifi.gWifiAdopterStatus) }

def call (s : EventState) (pc : ConnectPc) : EventState := { s with calls := s.calls ++ [pc] }

/-- The states named by the events that are still to be broadcast. -/
def unsent (s : EventState) : List WiFiStatusCode :=
  s.callbacks.flatMap (fun cb => cb.events.filterMap WifiEvent.state) ++
    s.calls.filterMap ConnectPc.unsent

def start (s : WifiState) : EventState where
  wifi := s
  callbacks := []
  calls := []
  broadcasts := []

/-- Each state event was broadcast with the status stored. -/
def Truthful (s : EventState) : Prop :=
  ∀ b ∈ s.broadcasts, ∀ state, b.1 = .onWIFIStateChanged state → b.2 = state

end EventState

section
variable (returnOk : Int) (e : WifiEnv)

/-- Other threads may run between the store of a status and its broadcast: the callback for a
connection makes RPCs and sleeps there. -/
def eventStep (s : EventState) : EventStep → Option EventState
  | .callback cb =>
    let r := statusBranch e cb s.wifi
    some { s with
      wifi := r.1
      callbacks := s.callbacks ++ [⟨cb.connCode, r.2.filterMap Effect.event⟩] }
  | .callbackSent i =>
    match s.callbacks[i]? with
    | none => none
    | some cb =>
      some { s.broadcast cb.events with
        wifi := { s.wifi with connCodePrevState := cb.connCode }
        callbacks := s.callbacks.eraseIdx i }
  | .connectWithSSID true =>
    some ({ s with wifi := s.wifi.setWiFiStatusCode .connecting }.call .announcing)
  | .connectWithSSID false => some (s.call .inConnectEndpoint)
  | .connectWpsPush => some (s.call (connectWps none s.wifi))
  | .connectWpsPin wpsPin mfrSerialPin =>
    match wpsPinOf wpsPin mfrSerialPin with
    | none => some s
    | some pin => some (s.call (connectWps (some pin) s.wifi))
  | .slept i =>
    match s.calls[i]? with
    | some (.disconnectSleep wpsPin count) =>
      some { s with calls := s.calls.set i (disconnectPoll wpsPin count s.wifi) }
    | _ => none
  | .returned i ret =>
    match s.calls[i]?.bind (ConnectPc.failed returnOk ret) with
    | none => none
    | some true => some { s with calls := s.calls.set i .reporting }
    | some false => some { s with calls := s.calls.eraseIdx i }
  | .sent i =>
    match s.calls[i]? with
    | some .announcing =>
      some { s.broadcast [.onWIFIStateChanged .connecting] with
        calls := s.calls.set i .inConnectEndpoint }
    | some .reporting =>
      some { s.broadcast [.onWIFIStateChanged .failed] with calls := s.calls.eraseIdx i }
    | _ => none

/-- The status that `wifi_status_action` stores. -/
def storedStatus (cb : Callback) (s : WifiState) : Option WiFiStatusCode :=
  match cb.connCode with
  | .success =>
    if cb.action = actionOnConnect then some .connected
    else if cb.action = actionOnDisconnect then some .disconnected
    else none
  | .connecting => some .connecting
  | code => if s.connCodePrevState ≠ code ∨ code.unguarded = true then code.failureStatus else none

def EventStep.stores (s : WifiState) : EventStep → Option WiFiStatusCode
  | callback cb => storedStatus cb s
  | connectWithSSID true => some .connecting
  | _ => none

/-- The step is a HAL call that reports failure. -/
def EventStep.Fails (s : EventState) : EventStep → Prop
  | returned i ret => s.calls[i]?.bind (ConnectPc.failed returnOk ret) = some true
  | _ => False

/-- No status is stored while an event that names another one is still to be broadcast, and a HAL
call that fails returns while the status is that of a failure already. -/
def Undisturbed (s : EventState) (i : EventStep) : Prop :=
  (∀ state, i.stores s.wifi = some state → ∀ other ∈ s.unsent, other = state) ∧
    (i.Fails returnOk s → s.wifi.gWifiAdopterStatus = .failed)

end

theorem Effect.event_eq_some_iff {ev : WifiEvent} :
    Effect.event eff = some ev ↔ eff = .broadcast ev := by
  cases eff <;> simp [Effect.event]

theorem WifiEvent.state_eq_some_iff {ev : WifiEvent} {st : WiFiStatusCode} :
    ev.state = some st ↔ ev = .onWIFIStateChanged st := by
  cases ev <;> simp [WifiEvent.state]

/-- With nothing in between, the steps of a callback are `wifi_status_action`. -/
theorem wifiStatusAction_steps (returnOk : Int) (e : WifiEnv) (cb : Callback) (w : WifiState) :
    ∃ t, run (eventStep returnOk e) (.start w) [.callback cb, .callbackSent 0] = some t ∧
      t.wifi = (wifiStatusAction e cb w).1 ∧
      t.broadcasts.map Prod.fst = (wifiStatusAction e cb w).2.filterMap Effect.event := by
  refine ⟨_, rfl, rfl, ?_⟩
  simp only [EventState.broadcast, EventState.start, List.nil_append, List.map_map,
    Function.comp_def, List.map_id']
  rfl

/-- So are the steps of a connect request that is announced and fails `connect_withSSID`. -/
theorem connectWithSSID_steps (returnOk : Int) (e : WifiEnv) (w : WifiState) (hret : ret ≠ 0) :
    ∃ t, run (eventStep returnOk e) (.start w)
        [.connectWithSSID true, .sent 0, .returned 0 ret, .sent 0] = some t ∧
      t.wifi = (connectWithSSID true ret w).1 ∧
      t.broadcasts.map Prod.fst = (connectWithSSID true ret w).2.1.filterMap Effect.event := by
  simp [eventStep, EventState.call, EventState.broadcast, EventState.start, connectWithSSID,
    ConnectPc.failed, Effect.event, WifiState.setWiFiStatusCode, hret]

/-- A stretch of code broadcasts only the state that it stores. -/
def SendsWhatItStores (stored : Option WiFiStatusCode) (effects : List Effect) : Prop :=
  ∀ state, Effect.broadcast (.onWIFIStateChanged state) ∈ effects → stored = some state

theorem sendsWhatItStores_nil (stored : Option WiFiStatusCode) :
    SendsWhatItStores stored [] := by
  intro state h
  cases h

theorem sendsWhatItStores_error (stored : Option WiFiStatusCode) (code : WiFiErrorCode) :
    SendsWhatItStores stored [.broadcast (.onError code)] := by
  intro state h
  cases List.mem_singleton.1 h

theorem sendsWhatItStores_state (state : WiFiStatusCode) :
    SendsWhatItStores (some state) [.broadcast (.onWIFIStateChanged state)] := by
  intro state' h
  cases List.mem_singleton.1 h
  rfl

theorem unlessRepeated_sends {r : WifiState × List Effect}
    (h : s.connCodePrevState ≠ c → SendsWhatItStores stored r.2) :
    SendsWhatItStores stored (unlessRepeated s c r).2 := by
  rw [unlessRepeated]
  split
  case isTrue hne => exact h hne
  case isFalse => exact sendsWhatItStores_nil stored

theorem connectEffects_events (e : WifiEnv) (cb : Callback) (s : WifiState) :
    (connectEffects e cb s).filterMap Effect.event = [.onWIFIStateChanged .connected] := by
  simp only [connectEffects, List.filterMap_append, apply_ite (List.filterMap Effect.event),
    List.filterMap_cons, List.filterMap_nil, Effect.event, ite_self, List.nil_append]

theorem onConnect_status (e : WifiEnv) (cb : Callback) (s : WifiState) :
    (onConnect e cb s).gWifiAdopterStatus = .connected := by
  rw [onConnect]
  dsimp only
  split
  · rfl
  · cases cb.lastEndpoint with
    | none => rfl
    | some ssid => rfl

theorem storedStatus_failure {cb : Callback} (s : WifiState)
    (h : cb.connCode.failureStatus = some status) :
    storedStatus cb s =
      if s.connCodePrevState ≠ cb.connCode ∨ cb.connCode.unguarded = true then some status
      else none := by
  rw [storedStatus]
  cases hc : cb.connCode with
  | success | connecting | disconnecting | errorUnknown | other code =>
    rw [hc] at h
    cases h
  | _ =>
    rw [hc] at h
    dsimp only
    rw [h]

theorem statusBranch_status (e : WifiEnv) (cb : Callback) (s : WifiState) :
    (statusBranch e cb s).1.gWifiAdopterStatus =
      (storedStatus cb s).getD s.gWifiAdopterStatus := by
  cases hf : cb.connCode.failureStatus with
  | some status =>
    have hstatus := wifiStatusAction_failure e s hf
    change (statusBranch e cb s).1.gWifiAdopterStatus = _ at hstatus
    rw [hstatus, storedStatus_failure s hf, apply_ite (Option.getD · s.gWifiAdopterStatus)]
    rfl
  | none =>
    rw [statusBranch, storedStatus]
    cases hc : cb.connCode with
    | success =>
      dsimp only
      split
      · exact onConnect_status e cb s
      · split
        · rfl
        · rfl
    | connecting => rfl
    | disconnecting =>
      dsimp only
      split
      · rfl
      · rfl
    | errorUnknown | other code =>
      dsimp only
      rw [unlessRepeated_keeps (s := s) (r := (s, _)) WifiState.gWifiAdopterStatus rfl]
      split
      · rfl
      · rfl
    | _ =>
      rw [hc] at hf
      cases hf

theorem statusBranch_sends (e : WifiEnv) (cb : Callback) (s : WifiState) :
    SendsWhatItStores (storedStatus cb s) (statusBranch e cb s).2 := by
  rw [statusBranch, storedStatus]
  cases cb.connCode with
  | success =>
    dsimp only
    split
    · intro state h
      have hev := List.mem_filterMap.2 ⟨_, h, Effect.event_eq_some_iff.2 rfl⟩
      rw [connectEffects_events] at hev
      cases List.mem_singleton.1 hev
      rfl
    · split
      · exact sendsWhatItStores_state _
      · exact sendsWhatItStores_nil _
  | connecting => exact sendsWhatItStores_state _
  | unrecoverableError =>
    apply unlessRepeated_sends
    intro hne
    dsimp only
    rw [if_pos (Or.inl hne)]
    exact sendsWhatItStores_state _
  | disconnecting => exact sendsWhatItStores_nil _
  | errorInvalidCredentials | errorAuthFailed => exact sendsWhatItStores_error _ _
  | errorSsidChanged =>
    apply unlessRepeated_sends
    intro _ state h
    simp at h
  | _ =>
    apply unlessRepeated_sends
    intro _
    exact sendsWhatItStores_error _ _

namespace EventState
variable {s t : EventState}

theorem mem_unsent_iff : state ∈ s.unsent ↔
    (∃ cb ∈ s.callbacks, .onWIFIStateChanged state ∈ cb.events) ∨
      ∃ pc ∈ s.calls, pc.unsent = some state := by
  rw [unsent, List.mem_append, List.mem_flatMap, List.mem_filterMap]
  simp only [List.mem_filterMap, WifiEvent.state_eq_some_iff, exists_eq_right]

theorem unsent_of_moved {pc : ConnectPc} (h : state ∈ t.unsent)
    (hcallbacks : t.callbacks ⊆ s.callbacks)
    (hcalls : ∀ pc' ∈ t.calls, pc' ∈ s.calls ∨ pc' = pc) :
    state ∈ s.unsent ∨ pc.unsent = some state := by
  rcases mem_unsent_iff.1 h with ⟨cb, hcb, hev⟩ | ⟨pc', hpc', hunsent⟩
  · left
    exact mem_unsent_iff.2 (Or.inl ⟨cb, hcallbacks hcb, hev⟩)
  · rcases hcalls pc' hpc' with hold | rfl
    · left
      exact mem_unsent_iff.2 (Or.inr ⟨pc', hold, hunsent⟩)
    · right
      exact hunsent

theorem unsent_mono (h : state ∈ s.unsent) (hcallbacks : s.callbacks ⊆ t.callbacks)
    (hcalls : s.calls ⊆ t.calls) : state ∈ t.unsent := by
  apply mem_unsent_iff.2
  rcases mem_unsent_iff.1 h with ⟨cb, hcb, hev⟩ | ⟨pc, hpc, hunsent⟩
  · left
    exact ⟨cb, hcallbacks hcb, hev⟩
  · right
    exact ⟨pc, hcalls hpc, hunsent⟩

theorem unsent_call {pc : ConnectPc} (h : state ∈ (s.call pc).unsent) :
    state ∈ s.unsent ∨ pc.unsent = some state := by
  apply unsent_of_moved (s := s) h (List.Subset.refl _)
  intro pc' hpc'
  rcases List.mem_append.1 hpc' with hold | hnew
  · left
    exact hold
  · right
    exact List.mem_singleton.1 hnew

theorem unsent_set {pc : ConnectPc} (h : state ∈ { s with calls := s.calls.set j pc }.unsent) :
    state ∈ s.unsent ∨ pc.unsent = some state :=
  unsent_of_moved h (List.Subset.refl _) fun _ => List.mem_or_eq_of_mem_set

theorem unsent_erase (h : state ∈ { s with calls := s.calls.eraseIdx j }.unsent) :
    state ∈ s.unsent :=
  unsent_mono h (List.Subset.refl _) fun _ => List.mem_of_mem_eraseIdx

theorem mem_broadcast {events : List WifiEvent} {b : WifiEvent × WiFiStatusCode} :
    b ∈ (s.broadcast events).broadcasts ↔
      b ∈ s.broadcasts ∨ (b.1 ∈ events ∧ b.2 = s.wifi.gWifiAdopterStatus) := by
  rw [broadcast, List.mem_append, List.mem_map]
  apply or_congr_right
  apply Iff.intro
  · intro h
    obtain ⟨event, hmem, rfl⟩ := h
    exact ⟨hmem, rfl⟩
  · intro h
    exact ⟨b.1, h.1, Prod.ext rfl h.2.symm⟩

end EventState

theorem connectWps_unsent (wpsPin : Option CStr) (s : WifiState) :
    (connectWps wpsPin s).unsent = none := by
  rw [connectWps]
  split
  · rfl
  · rfl

theorem disconnectPoll_unsent (wpsPin : Option CStr) (count : Nat) (s : WifiState) :
    (disconnectPoll wpsPin count s).unsent = none := by
  rw [disconnectPoll]
  split
  · rfl
  · rfl

section
variable {returnOk : Int} {e : WifiEnv} {s t : EventState} {i : EventStep}

theorem eventStep_status (h : eventStep returnOk e s i = some t) :
    t.wifi.gWifiAdopterStatus = (i.stores s.wifi).getD s.wifi.gWifiAdopterStatus := by
  cases i with
  | callback cb =>
    cases h
    exact statusBranch_status e cb s.wifi
  | connectWithSSID saveSSID =>
    cases saveSSID with
    | true =>
      cases h
      rfl
    | false =>
      cases h
      rfl
  | connectWpsPush =>
    cases h
    rfl
  | _ =>
    rw [eventStep] at h
    split at h
    all_goals
      cases h
      try rfl

/-- What a step leaves to be broadcast was so before, or is a status that it stores, or the
failure of the HAL call that it ends. -/
theorem eventStep_unsent (h : eventStep returnOk e s i = some t) (hst : state ∈ t.unsent) :
    state ∈ s.unsent ∨ i.stores s.wifi = some state ∨
      (i.Fails returnOk s ∧ state = .failed) := by
  cases i with
  | callback cb =>
    cases h
    rcases EventState.mem_unsent_iff.1 hst with ⟨cb', hcb', hev⟩ | hcall
    · rcases List.mem_append.1 hcb' with hold | hnew
      · left
        exact EventState.mem_unsent_iff.2 (Or.inl ⟨cb', hold, hev⟩)
      · right
        left
        cases List.mem_singleton.1 hnew
        obtain ⟨eff, heff, hbroadcast⟩ := List.mem_filterMap.1 hev
        rw [Effect.event_eq_some_iff.1 hbroadcast] at heff
        exact statusBranch_sends e cb s.wifi state heff
    · left
      exact EventState.mem_unsent_iff.2 (Or.inr hcall)
  | callbackSent j =>
    left
    rw [eventStep] at h
    split at h
    · cases h
    · cases h
      have hcallbacks : s.callbacks.eraseIdx j ⊆ s.callbacks := fun _ => List.mem_of_mem_eraseIdx
      exact EventState.unsent_mono hst hcallbacks (List.Subset.refl _)
  | connectWithSSID saveSSID =>
    cases saveSSID with
    | true =>
      cases h
      rcases EventState.unsent_call hst with hold | hnew
      · left
        exact hold
      · right
        left
        exact hnew
    | false =>
      cases h
      left
      exact (EventState.unsent_call hst).resolve_right nofun
  | connectWpsPush =>
    cases h
    left
    rcases EventState.unsent_call hst with hold | hnew
    · exact hold
    · rw [connectWps_unsent] at hnew
      cases hnew
  | connectWpsPin wpsPin mfrSerialPin =>
    left
    rw [eventStep] at h
    split at h
    · cases h
      exact hst
    · cases h
      rcases EventState.unsent_call hst with hold | hnew
      · exact hold
      · rw [connectWps_unsent] at hnew
        cases hnew
  | slept j =>
    left
    rw [eventStep] at h
    split at h
    · cases h
      rcases EventState.unsent_set hst with hold | hnew
      · exact hold
      · rw [disconnectPoll_unsent] at hnew
        cases hnew
    · cases h
  | returned j ret =>
    rw [eventStep] at h
    split at h
    case h_1 => cases h
    case h_2 hfailed =>
      cases h
      rcases EventState.unsent_set hst with hold | hnew
      · left
        exact hold
      · right
        right
        exact ⟨hfailed, (Option.some_inj.1 hnew).symm⟩
    case h_3 =>
      cases h
      left
      exact EventState.unsent_erase hst
  | sent j =>
    left
    rw [eventStep] at h
    split at h
    · cases h
      exact (EventState.unsent_set (s := s) hst).resolve_right nofun
    · cases h
      exact EventState.unsent_erase (s := s) hst
    · cases h

theorem eventStep_broadcasts (h : eventStep returnOk e s i = some t) (hb : b ∈ t.broadcasts) :
    b ∈ s.broadcasts ∨ (b.2 = s.wifi.gWifiAdopterStatus ∧
      ∀ state, b.1 = .onWIFIStateChanged state → state ∈ s.unsent) := by
  cases i with
  | callback cb =>
    cases h
    left
    exact hb
  | connectWithSSID saveSSID =>
    left
    cases saveSSID with
    | true =>
      cases h
      exact hb
    | false =>
      cases h
      exact hb
  | connectWpsPush =>
    cases h
    left
    exact hb
  | callbackSent j =>
    rw [eventStep] at h
    split at h
    · cases h
    case h_2 cb hj =>
      cases h
      apply (EventState.mem_broadcast.1 hb).imp_right
      intro hnew
      apply And.intro hnew.2
      intro state hstate
      apply EventState.mem_unsent_iff.2
      left
      exact ⟨cb, List.mem_of_getElem? hj, hstate ▸ hnew.1⟩
  | sent j =>
    rw [eventStep] at h
    split at h
    case h_1 hj | h_2 hj =>
      cases h
      apply (EventState.mem_broadcast.1 hb).imp_right
      intro hnew
      apply And.intro hnew.2
      intro state hstate
      apply EventState.mem_unsent_iff.2
      right
      rw [hstate] at hnew
      cases List.mem_singleton.1 hnew.1
      exact ⟨_, List.mem_of_getElem? hj, rfl⟩
    · cases h
  | _ =>
    left
    rw [eventStep] at h
    split at h
    all_goals
      cases h
      try exact hb

/-- All is truthful so far, and nothing is still to be broadcast but the status stored. -/
def EventState.Settled (s : EventState) : Prop :=
  s.Truthful ∧ ∀ state ∈ s.unsent, s.wifi.gWifiAdopterStatus = state

theorem EventState.start_settled (w : WifiState) : (EventState.start w).Settled := by
  constructor
  · intro b hb
    cases hb
  · intro state hstate
    cases hstate

theorem eventStep_settled (hs : s.Settled) (hc : Undisturbed returnOk s i)
    (h : eventStep returnOk e s i = some t) : t.Settled := by
  obtain ⟨htruthful, hunsent⟩ := hs
  constructor
  · intro b hb state hstate
    rcases eventStep_broadcasts h hb with hold | ⟨hstatus, hnew⟩
    · exact htruthful b hold state hstate
    · exact hstatus.trans (hunsent state (hnew state hstate))
  · intro state hstate
    rw [eventStep_status h]
    rcases eventStep_unsent h hstate with hold | hstored | ⟨hfails, rfl⟩
    · cases hstored : i.stores s.wifi with
      | none => exact hunsent state hold
      | some stored => exact (hc.1 stored hstored state hold).symm
    · rw [hstored]
      rfl
    · cases i with
      | returned j ret => exact hc.2 hfails
      | _ => cases hfails

theorem EventStep.Sends.undisturbed (h : i.Sends) : Undisturbed returnOk s i := by
  cases i with
  | callbackSent j | sent j =>
    constructor
    · intro state hstored
      cases hstored
    · intro hfails
      cases hfails
  | _ => cases h

theorem EventState.unsent_sent (e : WifiEnv) (h : state ∈ s.unsent) :
    ∃ j t, EventStep.Sends j ∧ eventStep returnOk e s j = some t ∧
      (.onWIFIStateChanged state, s.wifi.gWifiAdopterStatus) ∈ t.broadcasts := by
  rcases EventState.mem_unsent_iff.1 h with ⟨cb, hcb, hev⟩ | ⟨pc, hpc, hunsent⟩
  · obtain ⟨j, hj⟩ := List.getElem?_of_mem hcb
    refine ⟨.callbackSent j, _, trivial, by rw [eventStep, hj], ?_⟩
    exact EventState.mem_broadcast.2 (Or.inr ⟨hev, rfl⟩)
  · obtain ⟨j, hj⟩ := List.getElem?_of_mem hpc
    cases pc with
    | announcing | reporting =>
      cases hunsent
      refine ⟨.sent j, _, trivial, by rw [eventStep, hj], ?_⟩
      exact EventState.mem_broadcast.2 (Or.inr ⟨List.mem_cons_self, rfl⟩)
    | _ => cases hunsent

theorem eventStep_stores (e : WifiEnv) (hstored : i.stores s.wifi = some stored) :
    ∃ t, eventStep returnOk e s i = some t ∧ s.unsent ⊆ t.unsent := by
  cases i with
  | callback cb =>
    refine ⟨_, rfl, ?_⟩
    intro state h
    exact EventState.unsent_mono h (List.subset_append_left _ _) (List.Subset.refl _)
  | connectWithSSID saveSSID =>
    cases saveSSID with
    | true =>
      refine ⟨_, rfl, ?_⟩
      intro state h
      exact EventState.unsent_mono h (List.Subset.refl _) (List.subset_append_left _ _)
    | false => cases hstored
  | _ => cases hstored

theorem eventStep_fails (e : WifiEnv) (h : i.Fails returnOk s) :
    ∃ t, eventStep returnOk e s i = some t ∧ .failed ∈ t.unsent ∧
      t.wifi.gWifiAdopterStatus = s.wifi.gWifiAdopterStatus := by
  cases i with
  | returned j ret =>
    refine ⟨{ s with calls := s.calls.set j .reporting }, ?_, ?_, rfl⟩
    · rw [eventStep, show _ = some true from h]
    · obtain ⟨pc, hj, hpc⟩ := Option.bind_eq_some_iff.1 h
      have hlt : j < s.calls.length := (List.getElem?_eq_some_iff.1 hj).1
      apply EventState.mem_unsent_iff.2
      right
      exact ⟨.reporting, List.mem_set hlt _, rfl⟩
  | _ => cases h

theorem undisturbed_iff (hs : s.Settled) :
    Undisturbed returnOk s i ↔
      ∀ t, eventStep returnOk e s i = some t → ∀ sends, (∀ j ∈ sends, EventStep.Sends j) →
        ∀ u, run (eventStep returnOk e) t sends = some u → u.Truthful := by
  apply Iff.intro
  · intro hc t ht sends hsends u hu
    have hsettled : u.Settled := by
      apply run_invariant _ hu (eventStep_settled hs hc ht)
      intro s' j hj t' hs' ht'
      exact eventStep_settled hs' (hsends j hj).undisturbed ht'
    exact hsettled.1
  · intro h
    have hnext : ∀ t, eventStep returnOk e s i = some t → ∀ state ∈ t.unsent,
        t.wifi.gWifiAdopterStatus = state := by
      intro t ht state hstate
      obtain ⟨j, u, hj, hu, hb⟩ := EventState.unsent_sent e hstate
      apply h t ht [j] _ u _ _ hb state rfl
      · intro j' hj'
        cases List.mem_singleton.1 hj'
        exact hj
      · rw [run_cons, hu]
        rfl
    constructor
    · intro stored hstored other hother
      obtain ⟨t, ht, hkept⟩ := eventStep_stores e hstored
      have hstatus := eventStep_status ht
      rw [hstored] at hstatus
      exact (hnext t ht other (hkept hother)).symm.trans hstatus
    · intro hfails
      obtain ⟨t, ht, hunsent, hstatus⟩ := eventStep_fails e hfails
      exact hstatus.symm.trans (hnext t ht .failed hunsent)

end

/-- The state events of a run, and those it has still to broadcast, are broadcast with the status
stored, exactly when no status is stored while another one is still to be broadcast and each HAL
call that fails returns while the stored status is that of a failure. -/
theorem events_truthful_iff (returnOk : Int) (e : WifiEnv) (w : WifiState)
    (steps : List EventStep) :
    StepsMeet (eventStep returnOk e) (Undisturbed returnOk) (.start w) steps ↔
      ∀ pre sends t, pre <+: steps → (∀ i ∈ sends, EventStep.Sends i) →
        run (eventStep returnOk e) (.start w) (pre ++ sends) = some t → t.Truthful := by
  have hP : ∀ s i t, s.Settled → Undisturbed returnOk s i → eventStep returnOk e s i = some t →
      t.Settled := fun _ _ _ => eventStep_settled
  apply (stepsMeet_iff_outcome (fun _ _ => undisturbed_iff) hP
    (EventState.start_settled w)).trans
  apply Iff.intro
  · intro h pre sends t hpre hsends ht
    rw [run_append, Option.bind_eq_some_iff] at ht
    obtain ⟨u, hu, ht⟩ := ht
    induction pre using List.reverseRecOn with
    | nil =>
      cases hu
      have hsettled : t.Settled := by
        apply run_invariant _ ht (EventState.start_settled w)
        intro s' j hj t' hs' ht'
        exact eventStep_settled hs' (hsends j hj).undisturbed ht'
      exact hsettled.1
    | append_singleton pre i _ => exact h pre i u hpre hu sends hsends t ht
  · intro h pre i t hpre ht sends hsends u hu
    apply h (pre ++ [i]) sends u hpre hsends
    rw [run_append, ht]
    exact hu

def WifiEnv.withoutLostFound : WifiEnv where
  lafIsLnfssid _ := false
  bEnableLostFound := false
  lnfRetryInSecs := 0
  lnfRetryCount := 0

/-- A connect request to a network that the HAL refuses. -/
def refusedConnect : List EventStep := [.connectWithSSID true, .sent 0, .returned 0 1, .sent 0]

theorem refusedConnect_not_truthful :
    ¬∀ pre t, pre <+: refusedConnect →
      run (eventStep 0 .withoutLostFound) (.start (.init .success)) pre = some t →
        t.Truthful := by
  intro h
  have hrun : (run (eventStep 0 .withoutLostFound) (.start (.init .success)) refusedConnect).map
      EventState.broadcasts = some [(.onWIFIStateChanged .connecting, .connecting),
        (.onWIFIStateChanged .failed, .connecting)] := by decide
  obtain ⟨t, ht, hb⟩ := Option.map_eq_some_iff.1 hrun
  have hmem : (.onWIFIStateChanged .failed, .connecting) ∈ t.broadcasts := by
    rw [hb]
    exact List.mem_cons_of_mem _ List.mem_cons_self
  have hstored := h refusedConnect t (List.prefix_refl _) ht _ hmem .failed rfl
  exact WiFiStatusCode.noConfusion hstored

/-- A connect request overtakes the event of a connection. -/
example : (run (eventStep 0 .withoutLostFound) (.start (.init .success))
    [.callback ⟨.success, "home".toList, actionOnConnect, none, false⟩, .connectWithSSID true,
      .callbackSent 0]).map EventState.broadcasts =
    some [(.onWIFIStateChanged .connected, .connecting)] := by decide

end NetSrvMgr.Wifi
