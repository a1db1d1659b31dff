import NetSrvMgr.LnfSession
import NetSrvMgr.LnfLocks
import NetSrvMgr.Transition

namespace NetSrvMgr.Wifi
open CString Transition
set_option autoImplicit true

def LafConnPc.mutex (pc : LafConnPc) : MutexState := if pc.holding then .held .lafConn else .free

def LafConnPrivPc.mutex (pc : LafConnPrivPc) : MutexState :=
  if pc.holding then .held .lafConnPriv else .free

theorem fits_comm (pc : LafConnPc) (pc' : LafConnPrivPc) (s : WifiState) :
    pc.Fits pc'.mutex s ↔ pc'.Fits pc.activating pc.mutex s := by
  apply Iff.intro
  · intro h
    obtain ⟨hlocks, hfree⟩ := h
    rw [LafConnPrivPc.mutex] at hlocks hfree
    cases hp : pc.holding <;> cases hp' : pc'.holding
    · exact ⟨by simpa [LafConnPc.mutex, hp, hp'] using hlocks, by simp [LafConnPc.mutex, hp]⟩
    · exact ⟨by simpa [LafConnPc.mutex, hp, hp'] using hlocks, by simp [LafConnPc.mutex, hp]⟩
    · exact ⟨by simpa [LafConnPc.mutex, hp, hp'] using hlocks, by simp [hp']⟩
    · simp [hp, hp'] at hfree
  · intro h
    obtain ⟨hlocks, hfree⟩ := h
    rw [LafConnPc.mutex] at hlocks hfree
    cases hp : pc.holding <;> cases hp' : pc'.holding
    · exact ⟨by simpa [LafConnPrivPc.mutex, hp, hp'] using hlocks, by simp [hp]⟩
    · exact ⟨by simpa [LafConnPrivPc.mutex, hp, hp'] using hlocks, by simp [hp]⟩
    · exact ⟨by simpa [LafConnPrivPc.mutex, hp, hp'] using hlocks,
        by simp [LafConnPrivPc.mutex, hp']⟩
    · simp [hp, hp'] at hfree

/-- The globals fit where the LNF threads are, and these are there only while WiFi is enabled. -/
structure LnfState.Linked (s : LnfState) : Prop where
  fits : s.lafConn.Fits s.lafConnPriv.mutex s.wifi
  idle : s.phase ≠ .enabled → s.lafConn = .absent ∧ s.lafConnPriv = .absent

theorem LafConnPc.Fits.frame {pc : LafConnPc} (hs : pc.Fits m s) (h : t.locks = s.locks) :
    pc.Fits m t :=
  ⟨h.trans hs.locks, hs.exclusive⟩

theorem wifiStatusAction_locks (e : WifiEnv) (cb : Callback) (s : WifiState) :
    (wifiStatusAction e cb s).1.locks = s.locks := by
  have hbranch : (statusBranch e cb s).1.locks = s.locks := by
    rw [statusBranch]
    cases cb.connCode with
    | success =>
      dsimp only
      split
      · rw [onConnect]
        dsimp only
        split
        · rfl
        · exact WifiState.lastConnectedSSID_locks _ _
      · split <;> rfl
    | errorInvalidCredentials => exact startLostFound_locks e _
    | errorAuthFailed => exact startLostFound_locks e _
    | errorNotFound => exact unlessRepeated_keeps WifiState.locks (startLostFound_locks e _) _
    | errorSsidChanged => exact unlessRepeated_keeps WifiState.locks (startLostFound_locks e _) _
    | connecting => rfl
    | disconnecting => rfl
    | _ => exact unlessRepeated_keeps (s := s) WifiState.locks rfl _
  exact hbranch

theorem startLAF_locks (e : WifiEnv) (warehouse : Bool) (s : WifiState) :
    (startLAF e warehouse s).locks = s.locks := by
  rw [startLAF]
  split
  · rfl
  · split <;> rfl

theorem switchToPrivate_locks (activated : Bool) (s : WifiState) :
    (switchToPrivate activated s).locks = s.locks := by
  rw [switchToPrivate]
  cases activated with
  | true =>
    simp only [reduceIte]
    split
    · rfl
    · exact WifiState.lnfConnectPrivCredentials_locks _
  | false =>
    simp only [Bool.false_eq_true, reduceIte]
    split
    · rfl
    · exact WifiState.lnfConnectPrivCredentials_locks _

theorem stopLNFWhileDisconnected_locks (e : WifiEnv) (param : Bool) (s : WifiState) :
    (stopLNFWhileDisconnected e param s).locks = s.locks := by
  rw [stopLNFWhileDisconnected]
  split
  · rfl
  · dsimp only
    split
    · exact WifiState.lnfConnectPrivCredentials_locks _
    · rfl

theorem autoSwitchToPrivateEnabled_locks (param : Bool) (s : WifiState) :
    (autoSwitchToPrivateEnabled param s).locks = s.locks := by
  rw [autoSwitchToPrivateEnabled]
  split
  · rfl
  · dsimp only
    split
    · exact WifiState.lnfConnectPrivCredentials_locks _
    · rfl

theorem lafConnStep_absent (e : WifiEnv) (i : ThreadInput) (s : WifiState) :
    lafConnStep e .absent i s = none := by
  cases i <;> rfl

theorem lafConnPrivStep_absent (e : WifiEnv) (i : ThreadInput) (s : WifiState) :
    lafConnPrivStep e .absent i s = none := by
  cases i <;> rfl

theorem startLnf_linked {s : LnfState} (hs : s.Linked) (hphase : s.phase ≠ .enabled)
    (e : WifiEnv) (lafSsid activated warehouse : Bool) :
    (startLnf e lafSsid activated warehouse s).Linked := by
  obtain ⟨hconn, hpriv⟩ := hs.idle hphase
  have hlocks := hs.fits.locks
  rw [hconn, hpriv] at hlocks
  rw [startLnf]
  dsimp only
  split
  · split
    · exact ⟨⟨by rw [hconn]; exact hlocks, by rw [hconn]; exact Bool.noConfusion⟩,
        fun h => absurd rfl h⟩
    · rw [connectToLAF]
      dsimp only
      split
      · exact ⟨⟨hlocks, Bool.noConfusion⟩, fun h => absurd rfl h⟩
      · exact ⟨⟨by rw [hconn]; exact hlocks, by rw [hconn]; exact Bool.noConfusion⟩,
          fun h => absurd rfl h⟩
  · exact ⟨hs.fits, fun h => absurd rfl h⟩

/-- What `shutdownWifi` is to leave for the next start. -/
structure Restartable (zeroCode : WifiStatusCode) (t : LnfState) : Prop where
  mutexTriggerLAF : t.wifi.mutexTriggerLAF ≠ .abandoned
  bLnfActivationLoop : t.wifi.bLnfActivationLoop = false
  startLAF : t.wifi.startLAF = false
  connCodePrevState : t.wifi.connCodePrevState = zeroCode

/-- `lafConnThread` has ended, `lafConnPrivThread` does not hold the mutex, no start is pending,
and the last callback had the code that the program starts with. -/
structure Quiescent (zeroCode : WifiStatusCode) (s : LnfState) : Prop where
  lafConn : s.lafConn = .absent
  lafConnPriv : s.lafConnPriv.holding = false
  startLAF : s.wifi.startLAF = false
  connCodePrevState : s.wifi.connCodePrevState = zeroCode

/-- A shutdown that cancels the threads where they are finds them quiescent. -/
def StopsQuiescent (zeroCode : WifiStatusCode) (s : LnfState) (i : LnfInput) : Prop :=
  i = .shutdownWifi → s.lafConn.stopped s.wifi = true → s.lafConnPriv.stopped s.wifi = true →
    s.phase = .enabled → Quiescent zeroCode s

def LeavesRestartable (zeroCode : WifiStatusCode) (i : LnfInput) (t : LnfState) : Prop :=
  i = .shutdownWifi → Restartable zeroCode t

theorem LafConnPc.absent_of_stopped {pc : LafConnPc} (h : pc.stopped s = true)
    (ha : pc.activating = false) : pc = .absent := by
  cases pc with
  | absent => rfl
  | created => cases h
  | _ => cases ha

theorem LnfState.Linked.mutex_free {s : LnfState} (hs : s.Linked) (hconn : s.lafConn = .absent)
    (hpriv : s.lafConnPriv.holding = false) : s.wifi.mutexTriggerLAF = .free := by
  have hm := (Prod.mk.inj hs.fits.locks).2
  rw [hconn, LafConnPrivPc.mutex, hpriv] at hm
  exact hm

theorem stopsQuiescent_iff {s : LnfState} (hs : s.Linked) (e : WifiEnv)
    (zeroCode : WifiStatusCode) (i : LnfInput) :
    StopsQuiescent zeroCode s i ↔
      ∀ t, lnfStep e s i = some t → LeavesRestartable zeroCode i t := by
  apply Iff.intro
  · intro h t ht hi
    subst hi
    rw [lnfStep] at ht
    split at ht
    · next hstop =>
      obtain ⟨hphase, hc, hp⟩ := hstop
      cases ht
      have hq := h rfl hc hp hphase
      have hfree := hs.mutex_free hq.lafConn hq.lafConnPriv
      have hact := (Prod.mk.inj hs.fits.locks).1
      rw [hq.lafConn] at hact
      have hm : (shutdownWifi (cancelThreads s).wifi).mutexTriggerLAF = .free := if_pos hfree
      exact ⟨by rw [hm]; exact MutexState.noConfusion, hact, hq.startLAF, hq.connCodePrevState⟩
    · cases ht
  · intro h hi hc hp hphase
    subst hi
    have hr := h _ (if_pos ⟨hphase, hc, hp⟩) rfl
    have hact := (Prod.mk.inj hs.fits.locks).1
    have hconn := LafConnPc.absent_of_stopped hc (hact.symm.trans hr.bLnfActivationLoop)
    have hpriv : s.lafConnPriv.holding = false := by
      by_contra hh
      have hm := (Prod.mk.inj hs.fits.locks).2
      rw [hconn, LafConnPrivPc.mutex, if_pos (Bool.eq_true_of_not_eq_false hh)] at hm
      apply hr.mutexTriggerLAF
      have hheld : s.wifi.mutexTriggerLAF ≠ .free := by
        rw [hm]
        exact MutexState.noConfusion
      exact if_neg hheld
    exact ⟨hconn, hpriv, hr.startLAF, hr.connCodePrevState⟩

/-- Every step but a shutdown that interrupts the threads keeps the threads and the globals
linked. -/
theorem LnfState.Linked.step {s : LnfState} (hs : s.Linked) (h : StopsQuiescent zeroCode s i)
    (ht : lnfStep e s i = some t) : t.Linked := by
  cases i with
  | wifiInit =>
    rw [lnfStep] at ht
    split at ht
    · next hphase =>
      cases ht
      exact ⟨hs.fits.frame rfl, fun _ => hs.idle (by rw [hphase]; exact SessionPhase.noConfusion)⟩
    · cases ht
  | startLnf lafSsid activated warehouse =>
    rw [lnfStep] at ht
    split at ht
    · next hphase =>
      cases ht
      exact startLnf_linked hs (by rw [hphase]; exact SessionPhase.noConfusion) e _ _ _
    · cases ht
  | shutdownWifi =>
    rw [lnfStep] at ht
    split at ht
    · next hstop =>
      obtain ⟨hphase, hc, hp⟩ := hstop
      cases ht
      have hq := h rfl hc hp hphase
      have hfree := hs.mutex_free hq.lafConn hq.lafConnPriv
      have hact := (Prod.mk.inj hs.fits.locks).1
      rw [hq.lafConn] at hact
      have hlocks : (shutdownWifi (cancelThreads s).wifi).locks = (false, .free) :=
        Prod.ext hact (if_pos hfree)
      exact ⟨⟨hlocks, Bool.noConfusion⟩, fun _ => ⟨rfl, rfl⟩⟩
    · cases ht
  | callback cb =>
    rw [lnfStep] at ht
    split at ht
    · cases ht
    · cases ht
      exact ⟨hs.fits.frame (wifiStatusAction_locks e cb s.wifi), hs.idle⟩
  | connectWithSSID saveSSID ret =>
    cases ht
    exact ⟨hs.fits.frame (connectWithSSID_locks saveSSID ret s.wifi), hs.idle⟩
  | lafConn i =>
    obtain ⟨r, hr, rfl⟩ := Option.map_eq_some_iff.1 ht
    apply LnfState.Linked.mk (hs.fits.step hr)
    intro hphase
    rw [(hs.idle hphase).1, lafConnStep_absent] at hr
    cases hr
  | lafConnPriv i =>
    obtain ⟨r, hr, rfl⟩ := Option.map_eq_some_iff.1 ht
    have hfits := (fits_comm _ _ _).1 hs.fits
    apply LnfState.Linked.mk ((fits_comm _ _ _).2 (hfits.step hr))
    intro hphase
    rw [(hs.idle hphase).2, lafConnPrivStep_absent] at hr
    cases hr
  | startLAFIfNecessary lastEndpoint warehouse =>
    rw [lnfStep] at ht
    split at ht
    · cases ht
    · have hlocks := WifiState.lastConnectedSSID_locks s.wifi lastEndpoint
      dsimp only at ht
      split at ht
      · cases ht
        exact ⟨hs.fits.frame ((startLAF_locks _ _ _).trans hlocks), hs.idle⟩
      · cases ht
        exact ⟨hs.fits.frame hlocks, hs.idle⟩
  | startLAFWoken lastEndpoint warehouse =>
    rw [lnfStep] at ht
    split at ht
    · cases ht
    · cases ht
      have hlocks := WifiState.lastConnectedSSID_locks s.wifi lastEndpoint
      exact ⟨hs.fits.frame ((startLAF_locks _ _ _).trans hlocks), hs.idle⟩
  | deviceActivated =>
    cases ht
    exact ⟨hs.fits.frame rfl, hs.idle⟩
  | switchToPrivate activated =>
    cases ht
    exact ⟨hs.fits.frame (switchToPrivate_locks _ _), hs.idle⟩
  | stopLNFWhileDisconnected param =>
    cases ht
    exact ⟨hs.fits.frame (stopLNFWhileDisconnected_locks _ _ _), hs.idle⟩
  | autoSwitchToPrivateEnabled param =>
    cases ht
    exact ⟨hs.fits.frame (autoSwitchToPrivateEnabled_locks _ _), hs.idle⟩

theorem LnfState.init_linked (zeroCode : WifiStatusCode) : (LnfState.init zeroCode).Linked :=
  ⟨⟨rfl, Bool.noConfusion⟩, fun _ => ⟨rfl, rfl⟩⟩

/-- Every shutdown of a run leaves the mutex, the flags and the last code as a start finds them
exactly when each finds the threads quiescent. -/
theorem shutdown_restartable_iff (e : WifiEnv) (zeroCode : WifiStatusCode) (is : List LnfInput) :
    StepsMeet (lnfStep e) (StopsQuiescent zeroCode) (LnfState.init zeroCode) is ↔
      ∀ js i t, js ++ [i] <+: is → run (lnfStep e) (LnfState.init zeroCode) (js ++ [i]) = some t →
        LeavesRestartable zeroCode i t := by
  apply stepsMeet_iff_outcome (P := LnfState.Linked)
  · intro s i hs
    exact stopsQuiescent_iff hs e zeroCode i
  · intro s i t hs h ht
    exact hs.step h ht
  · exact LnfState.init_linked zeroCode

def unactivatedEnv : WifiEnv := ⟨fun _ => false, true, 60, 180⟩

/-- A shutdown while `lafConnThread` waits for the LNF client leaves the mutex locked. -/
theorem shutdown_abandons_mutex :
    ¬ ∀ (e : WifiEnv) (zeroCode : WifiStatusCode) (js : List LnfInput) (t : LnfState),
      run (lnfStep e) (LnfState.init zeroCode) (js ++ [.shutdownWifi]) = some t →
        Restartable zeroCode t := by
  intro h
  have hr := h unactivatedEnv .success
    [.wifiInit, .startLnf true false false, .lafConnPriv .wake, .lafConn .wake, .lafConn .wake]
    _ rfl
  exact hr.mutexTriggerLAF rfl

end NetSrvMgr.Wifi
