import NetSrvMgr.LnfResults
import NetSrvMgr.LnfThreads

namespace NetSrvMgr.Wifi
open CString
set_option autoImplicit true

def enomem : Int := 12

/-- What the calls of `triggerLostFound` give, in their order, with what `laf_start` leaves in
`last_laf_status` and what the clocks and the flag of the automatic switch read then. -/
structure LnfOutcome where
  mallocOps : Bool
  mallocDevInfo : Bool
  getDeviceInfo : Bool
  lafConfigNew : Int
  lafClientNew : Int
  lafStart : Int
  backoff : ℚ
  monotonicTime : ℚ
  currTime : CStr
  bAutoSwitchToPrivateEnabled : Bool

structure LnfHistory where
  results : LnfResults
  lastLnfServerContactTime : ℚ
  deriving DecidableEq

/-- The result, and the request and backoff that `laf_start` was run with, if it was. -/
structure LnfRun where
  bRet : Bool
  lafStart : Option (LafRequestType × ℚ)
  history : LnfHistory
  deriving DecidableEq

section
variable (lafNoResponseFromLnf : Int)

/-- `laf_start` and what is done with its error code. -/
def startLaf (o : LnfOutcome) (h : LnfHistory) : Bool × LnfHistory :=
  let err := o.lafStart
  let h := if err ≠ lafNoResponseFromLnf then
    { h with lastLnfServerContactTime := o.monotonicTime } else h
  let bRet := if err ≠ 0 then false else o.getDeviceInfo
  (bRet, { h with results :=
    recordLnfResult h.results ⟨o.bAutoSwitchToPrivateEnabled, o.currTime, err, bRet⟩ })

/-- The two early exits return their error number as a `bool`. -/
def triggerLostFound (o : LnfOutcome) (lafRequestType : LafRequestType) (backoff : ℚ)
    (h : LnfHistory) : LnfRun :=
  if o.mallocOps = false then ⟨enomem ≠ 0, none, h⟩
  else if o.mallocDevInfo = false then ⟨enomem ≠ 0, none, h⟩
  else if o.lafConfigNew ≠ 0 then ⟨false, none, h⟩
  else if o.lafClientNew ≠ 0 then ⟨false, none, h⟩
  else
    let r := startLaf lafNoResponseFromLnf o h
    ⟨r.1, some (lafRequestType, backoff), r.2⟩

/-- What the thread that called it goes on with. -/
def LnfRun.input (run : LnfRun) (o : LnfOutcome) (lastEndpoint : Option CStr) (ret : Int) :
    ThreadInput :=
  .triggered run.bRet (run.lafStart.map fun _ => o.backoff) lastEndpoint ret

def LnfRun.Succeeded (run : LnfRun) (o : LnfOutcome) : Prop :=
  run.lafStart.isSome = true ∧ o.lafStart = 0

/-- The result of a run is true where the LNF client succeeded and nowhere else, and neither
thread turns to `CONNECTED_LNF` on it where the client did not. -/
structure Trustworthy (o : LnfOutcome) (h : LnfHistory) : Prop where
  result_iff (q : LafRequestType) (backoff : ℚ) :
    (triggerLostFound lafNoResponseFromLnf o q backoff h).bRet = true ↔
      (triggerLostFound lafNoResponseFromLnf o q backoff h).Succeeded o
  lafConn (e : WifiEnv) (s : WifiState) (lastEndpoint : Option CStr) (ret : Int)
    (r : LafConnPc × WifiState) :
    let run := triggerLostFound lafNoResponseFromLnf o .connectToLfssid s.backoff h
    s.gWifiLNFStatus ≠ .connectedLnf →
    lafConnStep e (.client .running) (run.input o lastEndpoint ret) s = some r →
    r.2.gWifiLNFStatus = .connectedLnf → run.Succeeded o
  lafConnPriv (e : WifiEnv) (reqType : LafRequestType) (s : WifiState)
    (lastEndpoint : Option CStr) (ret : Int) (r : LafConnPrivPc × WifiState) :
    let run := triggerLostFound lafNoResponseFromLnf o reqType s.backoff h
    s.gWifiLNFStatus ≠ .connectedLnf →
    lafConnPrivStep e (.client reqType .running) (run.input o lastEndpoint ret) s = some r →
    r.2.gWifiLNFStatus = .connectedLnf → run.Succeeded o

end

/-- No allocation fails, and `laf_start` does not succeed on device data that could not be
read. -/
def LnfOutcome.Plain (o : LnfOutcome) : Prop :=
  o.mallocOps = true ∧ o.mallocDevInfo = true ∧
    (o.getDeviceInfo = false →
      o.lafConfigNew = 0 → o.lafClientNew = 0 → o.lafStart ≠ 0)

variable {n : Int}

theorem startLaf_result (o : LnfOutcome) (h : LnfHistory) :
    (startLaf n o h).1 = true ↔ o.lafStart = 0 ∧ o.getDeviceInfo = true := by
  rw [startLaf]
  dsimp only
  by_cases herr : o.lafStart = 0
  · rw [if_neg (not_not.mpr herr)]
    exact (and_iff_right herr).symm
  · rw [if_pos herr]
    exact iff_of_false Bool.false_ne_true (fun hand => herr hand.1)

theorem triggerLostFound_noMemory (o : LnfOutcome) (q : LafRequestType) (backoff : ℚ)
    (h : LnfHistory) (hm : ¬ (o.mallocOps = true ∧ o.mallocDevInfo = true)) :
    triggerLostFound n o q backoff h = ⟨true, none, h⟩ := by
  rw [triggerLostFound]
  cases hops : o.mallocOps with
  | false => rfl
  | true =>
    cases hdev : o.mallocDevInfo with
    | false => rfl
    | true => exact absurd ⟨hops, hdev⟩ hm

theorem triggerLostFound_notStarted (o : LnfOutcome) (q : LafRequestType) (backoff : ℚ)
    (h : LnfHistory) (hops : o.mallocOps = true) (hdev : o.mallocDevInfo = true)
    (hc : ¬ (o.lafConfigNew = 0 ∧ o.lafClientNew = 0)) :
    triggerLostFound n o q backoff h = ⟨false, none, h⟩ := by
  rw [triggerLostFound, hops, hdev, if_neg Bool.noConfusion, if_neg Bool.noConfusion]
  by_cases hconf : o.lafConfigNew = 0
  · have hclnt : o.lafClientNew ≠ 0 := fun hclnt => hc ⟨hconf, hclnt⟩
    rw [if_neg (not_not.mpr hconf), if_pos hclnt]
  · rw [if_pos hconf]

theorem triggerLostFound_started (o : LnfOutcome) (q : LafRequestType) (backoff : ℚ)
    (h : LnfHistory) (hops : o.mallocOps = true) (hdev : o.mallocDevInfo = true)
    (hconf : o.lafConfigNew = 0) (hclnt : o.lafClientNew = 0) :
    triggerLostFound n o q backoff h =
      ⟨(startLaf n o h).1, some (q, backoff), (startLaf n o h).2⟩ := by
  rw [triggerLostFound, hops, hdev, if_neg Bool.noConfusion, if_neg Bool.noConfusion,
    if_neg (not_not.mpr hconf), if_neg (not_not.mpr hclnt)]

theorem triggerLostFound_result_iff (o : LnfOutcome) (q : LafRequestType) (backoff : ℚ)
    (h : LnfHistory) :
    ((triggerLostFound n o q backoff h).bRet = true ↔
      (triggerLostFound n o q backoff h).Succeeded o) ↔ o.Plain := by
  rw [LnfOutcome.Plain, LnfRun.Succeeded]
  by_cases hm : o.mallocOps = true ∧ o.mallocDevInfo = true
  · obtain ⟨hops, hdev⟩ := hm
    rw [and_iff_right hops, and_iff_right hdev]
    by_cases hc : o.lafConfigNew = 0 ∧ o.lafClientNew = 0
    · obtain ⟨hconf, hclnt⟩ := hc
      rw [triggerLostFound_started o q backoff h hops hdev hconf hclnt, startLaf_result]
      cases hinfo : o.getDeviceInfo with
      | true => simp [hconf, hclnt]
      | false => simp [hconf, hclnt]
    · rw [triggerLostFound_notStarted o q backoff h hops hdev hc]
      apply iff_of_true
      · exact iff_of_false Bool.false_ne_true (fun hand => Bool.noConfusion hand.1)
      · exact fun _ hconf hclnt => absurd ⟨hconf, hclnt⟩ hc
  · rw [triggerLostFound_noMemory o q backoff h hm]
    apply iff_of_false
    · intro hiff
      cases (hiff.mp rfl).1
    · exact fun hplain => hm ⟨hplain.1, hplain.2.1⟩

theorem manualConnect_lnfStatus (e : WifiEnv) (endpoint : Option CStr) (ret : Int)
    (s : WifiState) : (manualConnect e endpoint ret s).gWifiLNFStatus = s.gWifiLNFStatus := by
  have hsaved : (s.lastConnectedSSID endpoint).gWifiLNFStatus = s.gWifiLNFStatus := by
    cases endpoint with
    | none => rfl
    | some ssid => rfl
  have hconn := (connectWithSSID_keeps WifiState.gWifiLNFStatus (fun _ _ => rfl) true ret
    (s.lastConnectedSSID endpoint)).trans hsaved
  rw [manualConnect]
  split <;> split
  · exact hconn
  · exact hconn
  · exact hsaved
  · exact hsaved

/-- Only the result turns `lafConnThread` to `CONNECTED_LNF`. -/
theorem lafConnTriggered_connected (hs : s.gWifiLNFStatus ≠ .connectedLnf)
    (h : (lafConnTriggered success s).2.gWifiLNFStatus = .connectedLnf) : success = true := by
  cases success with
  | true => rfl
  | false =>
    rw [lafConnTriggered, if_neg Bool.false_ne_true] at h
    split at h
    · exact absurd h hs
    · exact absurd h hs

theorem lafConnPrivTriggered_connected (hs : s.gWifiLNFStatus ≠ .connectedLnf)
    (h : (lafConnPrivTriggered e q success endpoint ret s).2.gWifiLNFStatus = .connectedLnf) :
    success = true := by
  cases success with
  | true => rfl
  | false =>
    rw [lafConnPrivTriggered, if_neg Bool.false_ne_true] at h
    split at h
    · cases h
    · exact absurd ((manualConnect_lnfStatus e endpoint ret s).symm.trans h) hs

theorem triggerLostFound_trustworthy_iff (noResponse : Int) (o : LnfOutcome) (h : LnfHistory) :
    Trustworthy noResponse o h ↔ o.Plain := by
  apply Iff.intro
  · intro ht
    exact (triggerLostFound_result_iff o .connectToLfssid 0 h).mp (ht.result_iff _ _)
  · intro hplain
    have hresult (q : LafRequestType) (backoff : ℚ) :=
      (triggerLostFound_result_iff (n := noResponse) o q backoff h).mpr hplain
    refine ⟨hresult, ?_, ?_⟩
    · intro e s endpoint ret r run hs hstep hconn
      cases hstep
      exact (hresult _ _).mp (lafConnTriggered_connected (s := s.triggered _) hs hconn)
    · intro e q s endpoint ret r run hs hstep hconn
      cases hstep
      exact (hresult _ _).mp (lafConnPrivTriggered_connected (s := s.triggered _) hs hconn)

/-- Nothing fails but the first allocation. -/
def noMemory : LnfOutcome where
  mallocOps := false
  mallocDevInfo := true
  getDeviceInfo := true
  lafConfigNew := 0
  lafClientNew := 0
  lafStart := 0
  backoff := 0
  monotonicTime := 0
  currTime := []
  bAutoSwitchToPrivateEnabled := true

/-- A failed allocation is reported as a connection to the LNF. -/
theorem triggerLostFound_enomem : ¬ ∀ (noResponse : Int) (o : LnfOutcome)
    (h : LnfHistory), Trustworthy noResponse o h := by
  intro h
  have hstarted := ((h 1 noMemory ⟨.init, 0⟩).result_iff .connectToLfssid 0).mp rfl
  cases hstarted.1

end NetSrvMgr.Wifi
