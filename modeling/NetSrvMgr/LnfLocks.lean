import NetSrvMgr.LnfThreads

namespace NetSrvMgr.Wifi
open CString
set_option autoImplicit true

def LafConnPc.activating : LafConnPc → Bool
  | .lockTrigger | .backoff | .client _ | .retrySleep | .loopSleep => true
  | .absent | .created => false

def LafConnPc.holding : LafConnPc → Bool
  | .backoff | .client _ => true
  | .absent | .created | .lockTrigger | .retrySleep | .loopSleep => false

def LafConnPrivPc.holding : LafConnPrivPc → Bool
  | .backoff _ | .client _ _ => true
  | .absent | .lockLAF | .condWait | .privSleep | .lockTrigger _ | .retrySleep => false

/-- The globals fit where `lafConnThread` is, and `m` is the mutex as the others leave it. -/
structure LafConnPc.Fits (pc : LafConnPc) (m : MutexState) (s : WifiState) : Prop where
  locks : s.locks = (pc.activating, if pc.holding then .held .lafConn else m)
  exclusive : pc.holding = true → m = .free

structure LafConnPrivPc.Fits (pc : LafConnPrivPc) (b : Bool) (m : MutexState) (s : WifiState) :
    Prop where
  locks : s.locks = (b, if pc.holding then .held .lafConnPriv else m)
  exclusive : pc.holding = true → m = .free

theorem lafConnAttempt_fits (h : s.locks = (true, m)) :
    (lafConnAttempt s).1.Fits m (lafConnAttempt s).2 := by
  obtain ⟨hb, hm⟩ := Prod.mk.inj h
  rw [lafConnAttempt]
  dsimp only
  split
  · exact ⟨h, Bool.noConfusion⟩
  · split
    · split
      · exact ⟨Prod.ext rfl hm, Bool.noConfusion⟩
      · exact ⟨h, Bool.noConfusion⟩
    · split
      · exact ⟨Prod.ext rfl hm, Bool.noConfusion⟩
      · exact ⟨h, Bool.noConfusion⟩

theorem lafConnLoop_fits (h : s.locks = (b, m)) :
    (lafConnLoop s).1.Fits m (lafConnLoop s).2 := by
  obtain ⟨_, hm⟩ := Prod.mk.inj h
  rw [lafConnLoop]
  split
  · dsimp only
    split
    · exact ⟨(WifiState.lnfConnectPrivCredentials_locks _).trans (Prod.ext rfl hm),
        Bool.noConfusion⟩
    · exact ⟨Prod.ext rfl hm, Bool.noConfusion⟩
  · exact lafConnAttempt_fits (Prod.ext rfl hm)

theorem lafConnBackedOff_fits (h : s.locks = (true, .held .lafConn)) :
    (lafConnBackedOff s).1.Fits .free (lafConnBackedOff s).2 := by
  rw [lafConnBackedOff]
  split
  · exact ⟨Prod.ext (Prod.mk.inj h).1 rfl, Bool.noConfusion⟩
  · exact ⟨h, fun _ => rfl⟩

theorem lafConnTriggered_fits (h : s.locks = (true, m)) (success : Bool) :
    (lafConnTriggered success s).1.Fits m (lafConnTriggered success s).2 := by
  rw [lafConnTriggered]
  split
  · exact ⟨h, Bool.noConfusion⟩
  · split
    · exact ⟨Prod.ext rfl (Prod.mk.inj h).2, Bool.noConfusion⟩
    · exact ⟨h, Bool.noConfusion⟩

theorem lafConnSlept_fits (h : s.locks = (true, m)) :
    (lafConnSlept s).1.Fits m (lafConnSlept s).2 := by
  rw [lafConnSlept]
  split <;> split
  · exact ⟨Prod.ext rfl (Prod.mk.inj h).2, Bool.noConfusion⟩
  · exact lafConnLoop_fits h
  · exact ⟨Prod.ext rfl (Prod.mk.inj h).2, Bool.noConfusion⟩
  · exact lafConnLoop_fits h

@[simp] theorem connectWithSSID_locks (saveSSID : Bool) (ret : Int) (s : WifiState) :
    (connectWithSSID saveSSID ret s).1.locks = s.locks :=
  connectWithSSID_keeps WifiState.locks (fun _ _ => rfl) saveSSID ret s

theorem connectPoll_locks (e : WifiEnv) (ssid : CStr) (retry : Nat) (s : WifiState) :
    (connectPoll e ssid retry s).2.locks = s.locks := by
  rw [connectPoll]
  split
  · split <;> rfl
  · split
    · rfl
    · dsimp only
      split <;> rfl

@[simp] theorem connectWait_locks (e : WifiEnv) (ssid : CStr) (retry : Nat) (s : WifiState) :
    (connectWait e ssid retry s).2.locks = s.locks :=
  connectPoll_locks e ssid retry s

@[simp] theorem disconnectWait_locks (retry : Nat) (s : WifiState) :
    (disconnectWait retry s).2.locks = s.locks := rfl

theorem lafConnectRequest_locks (e : WifiEnv) (ssid : CStr) (endpoint : Option CStr) (ret : Int)
    (s : WifiState) : (lafConnectRequest e ssid endpoint ret s).1.locks = s.locks :=
  lafConnectRequest_keeps WifiState.locks (fun _ _ _ _ _ => rfl) e ssid endpoint ret s

theorem lafWifiConnect_locks (e : WifiEnv) (ssid : CStr) (endpoint : Option CStr) (ret : Int)
    (s : WifiState) : (lafWifiConnect e ssid endpoint ret s).2.locks = s.locks := by
  rw [lafWifiConnect]
  split
  · rfl
  · split
    · rfl
    · dsimp only
      split
      · exact (connectWait_locks e ssid 0 _).trans (lafConnectRequest_locks e ssid endpoint ret s)
      · exact lafConnectRequest_locks e ssid endpoint ret s

theorem lafWifiDisconnect_locks (ret : Int) (s : WifiState) :
    (lafWifiDisconnect ret s).2.locks = s.locks := by
  rw [lafWifiDisconnect]
  split
  · rfl
  · split
    · rfl
    · split
      · rfl
      · exact disconnectWait_locks _ _

theorem clientStep_locks (h : clientStep e pc i s = some r) : r.2.locks = s.locks := by
  unfold clientStep at h
  split at h
  · cases h
    exact lafWifiConnect_locks _ _ _ _ _
  · cases h
    exact lafWifiDisconnect_locks _ _
  · cases h
    exact connectWait_locks _ _ _ _
  · cases h
    exact disconnectWait_locks _ _
  · cases h

theorem WifiState.triggered_locks {s : WifiState} (h : s.locks = (b, m))
    (backoff : Option ℚ) : (s.triggered backoff).locks = (b, .free) :=
  Prod.ext (Prod.mk.inj h).1 rfl

theorem LafConnPc.Fits.step {pc : LafConnPc} (hs : pc.Fits m s)
    (h : lafConnStep e pc i s = some r) : r.1.Fits m r.2 := by
  obtain ⟨hlocks, hfree⟩ := hs
  unfold lafConnStep at h
  split at h
  · cases h
    exact lafConnLoop_fits hlocks
  · split at h
    · next hm =>
      cases h
      have hm' : m = .free := ((Prod.mk.inj hlocks).2).symm.trans hm
      have hheld : ({ s with mutexTriggerLAF := .held .lafConn } : WifiState).locks =
          (true, .held .lafConn) := Prod.ext (Prod.mk.inj hlocks).1 rfl
      rw [hm']
      split
      · exact ⟨hheld, fun _ => rfl⟩
      · exact lafConnBackedOff_fits hheld
    · cases h
  · cases h
    rw [hfree rfl]
    exact lafConnBackedOff_fits hlocks
  · next pc i =>
    obtain ⟨r', hr', rfl⟩ := Option.map_eq_some_iff.1 h
    exact ⟨(clientStep_locks hr').trans hlocks, fun _ => hfree rfl⟩
  · cases h
    rw [hfree rfl]
    exact lafConnTriggered_fits (WifiState.triggered_locks hlocks _) _
  · cases h
    exact lafConnAttempt_fits hlocks
  · cases h
    exact lafConnSlept_fits hlocks
  · cases h

theorem lafRequest_locks (s : WifiState) : (lafRequest s).2.locks = s.locks := by
  rw [lafRequest]
  split
  · split <;> rfl
  · rfl

theorem lafConnPrivAttempt_fits (h : s.locks = (b, m)) :
    (lafConnPrivAttempt s).1.Fits b m (lafConnPrivAttempt s).2 := by
  have hr : (lafRequest s).2.locks = (b, m) := (lafRequest_locks s).trans h
  rw [lafConnPrivAttempt]
  dsimp only
  split
  · exact ⟨hr, Bool.noConfusion⟩
  · split
    · exact ⟨hr, Bool.noConfusion⟩
    · exact ⟨hr, Bool.noConfusion⟩

theorem lafConnPrivStarted_fits (h : s.locks = (b, m)) :
    (lafConnPrivStarted s).1.Fits b m (lafConnPrivStarted s).2 := by
  rw [lafConnPrivStarted]
  split <;> split
  · exact ⟨h, Bool.noConfusion⟩
  · exact lafConnPrivAttempt_fits h
  · exact ⟨h, Bool.noConfusion⟩
  · exact lafConnPrivAttempt_fits h

theorem lafConnPrivWait_fits (h : s.locks = (b, m)) :
    (lafConnPrivWait s).1.Fits b m (lafConnPrivWait s).2 := by
  rw [lafConnPrivWait]
  split <;> split
  · exact lafConnPrivStarted_fits h
  · exact ⟨h, Bool.noConfusion⟩
  · exact lafConnPrivStarted_fits h
  · exact ⟨h, Bool.noConfusion⟩

theorem lafConnPrivBackedOff_fits (h : s.locks = (b, .held .lafConnPriv)) (q : LafRequestType) :
    (lafConnPrivBackedOff q s).1.Fits b .free (lafConnPrivBackedOff q s).2 := by
  rw [lafConnPrivBackedOff]
  split
  · exact ⟨Prod.ext (Prod.mk.inj h).1 rfl, Bool.noConfusion⟩
  · split
    · exact ⟨h, fun _ => rfl⟩
    · exact ⟨h, fun _ => rfl⟩

theorem manualConnect_locks (e : WifiEnv) (endpoint : Option CStr) (ret : Int) (s : WifiState) :
    (manualConnect e endpoint ret s).locks = s.locks := by
  have hsaved := WifiState.lastConnectedSSID_locks s endpoint
  have hconn := (connectWithSSID_locks true ret (s.lastConnectedSSID endpoint)).trans hsaved
  rw [manualConnect]
  split <;> split
  · exact hconn
  · exact hconn
  · exact hsaved
  · exact hsaved

theorem lafConnPrivTriggered_fits (h : s.locks = (b, m)) (e : WifiEnv) (q : LafRequestType)
    (success : Bool) (endpoint : Option CStr) (ret : Int) :
    (lafConnPrivTriggered e q success endpoint ret s).1.Fits b m
      (lafConnPrivTriggered e q success endpoint ret s).2 := by
  rw [lafConnPrivTriggered]
  split
  · split
    · exact ⟨h, Bool.noConfusion⟩
    · exact ⟨h, Bool.noConfusion⟩
  · split
    · exact ⟨h, Bool.noConfusion⟩
    · exact ⟨(manualConnect_locks e endpoint ret s).trans h, Bool.noConfusion⟩

theorem LafConnPrivPc.Fits.step {pc : LafConnPrivPc} (hs : pc.Fits b m s)
    (h : lafConnPrivStep e pc i s = some r) : r.1.Fits b m r.2 := by
  obtain ⟨hlocks, hfree⟩ := hs
  unfold lafConnPrivStep at h
  split at h
  · cases h
    exact lafConnPrivWait_fits hlocks
  · cases h
    split
    · exact lafConnPrivStarted_fits hlocks
    · exact ⟨hlocks, Bool.noConfusion⟩
  · cases h
    exact lafConnPrivAttempt_fits hlocks
  · split at h
    · next hm =>
      cases h
      have hm' : m = .free := ((Prod.mk.inj hlocks).2).symm.trans hm
      have hheld : ({ s with mutexTriggerLAF := .held .lafConnPriv } : WifiState).locks =
          (b, .held .lafConnPriv) := Prod.ext (Prod.mk.inj hlocks).1 rfl
      rw [hm']
      split
      · exact ⟨hheld, fun _ => rfl⟩
      · exact lafConnPrivBackedOff_fits hheld _
    · cases h
  · cases h
    rw [hfree rfl]
    exact lafConnPrivBackedOff_fits hlocks _
  · next q pc i =>
    obtain ⟨r', hr', rfl⟩ := Option.map_eq_some_iff.1 h
    exact ⟨(clientStep_locks hr').trans hlocks, fun _ => hfree rfl⟩
  · cases h
    rw [hfree rfl]
    exact lafConnPrivTriggered_fits (WifiState.triggered_locks hlocks _) e _ _ _ _
  · cases h
    rw [lafConnPrivSlept]
    split
    · exact lafConnPrivAttempt_fits hlocks
    · exact ⟨hlocks, Bool.noConfusion⟩
  · cases h

end NetSrvMgr.Wifi
