import NetSrvMgr.CString
import NetSrvMgr.Transition

namespace NetSrvMgr.Scan
open CString Transition
set_option autoImplicit true

inductive Batch
  | preferred5GHz | band24GHz | lowPriority5GHz
  deriving DecidableEq

def Batch.freqList : Batch → CStr
  | preferred5GHz => "5785 5180 5220 5240 5805 5745 5200 5500 5825".toList
  | band24GHz => "2412 2417 2422 2427 2432 2437 2442 2447 2452 2457 2462".toList
  | lowPriority5GHz =>
    "5260 5280 5300 5320 5520 5540 5560 5580 5600 5620 5640 5660 5680 5700 5720 5765".toList

def allFrequencies : CStr := "0".toList

/-- Where a thread is in `getAvailableSSIDsIncrThread`: before its first statement, about to set
the frequency list of a batch, in its scan, about to lock `wifiScanLock` for either test, asking
the HAL for dual band support, about to reset the list. -/
inductive ScanPc
  | created
  | ready (batch : Batch)
  | scanning (batch : Batch)
  | firstCheck
  | dualBand
  | secondCheck
  | resetting
  | exited
  deriving DecidableEq

/-- A scan thread with the number of batches it has begun, and the number it had begun when the
first stop request after its start request returned. -/
structure ScanThread where
  pc : ScanPc
  begun : Nat
  stopped : Option Nat
  deriving DecidableEq

structure ScanGlobals where
  bStopProgressiveScanning : Bool
  freqList : CStr
  deriving DecidableEq

def ScanThread.goto (t : ScanThread) (pc : ScanPc) : ScanThread := { t with pc := pc }

def ScanPc.afterBatch : Batch → ScanPc
  | .preferred5GHz => firstCheck
  | .band24GHz => secondCheck
  | .lowPriority5GHz => resetting

/-- The next piece of a thread's code, with the HAL's answer about dual band support. -/
def ScanThread.next (dualBand : Bool) (g : ScanGlobals) (t : ScanThread) :
    Option (ScanGlobals × ScanThread) :=
  match t.pc with
  | .created => some ({ g with bStopProgressiveScanning := false }, t.goto (.ready .preferred5GHz))
  | .ready batch =>
    some ({ g with freqList := batch.freqList },
      { t with pc := .scanning batch, begun := t.begun + 1 })
  | .scanning batch => some (g, t.goto (.afterBatch batch))
  | .firstCheck => some (g, t.goto (if g.bStopProgressiveScanning then .resetting else .dualBand))
  | .dualBand => some (g, t.goto (if dualBand then .ready .band24GHz else .secondCheck))
  | .secondCheck =>
    some (g, t.goto (if g.bStopProgressiveScanning then .resetting else .ready .lowPriority5GHz))
  | .resetting => some ({ g with freqList := allFrequencies }, t.goto .exited)
  | .exited => none

structure ScanState where
  globals : ScanGlobals
  threads : List ScanThread
  deriving DecidableEq

inductive ScanStep
  | getAvailableSSIDsAsyncIncr (threadCreated : Bool)
  | stopProgressiveWifiScanning
  | thread (i : Nat) (dualBand : Bool)

def ScanThread.start : ScanThread where
  pc := .created
  begun := 0
  stopped := none

def ScanThread.requestStop (t : ScanThread) : ScanThread :=
  { t with stopped := t.stopped.or (some t.begun) }

def ScanState.init : ScanState where
  globals := ⟨false, allFrequencies⟩
  threads := []

def scanStep (s : ScanState) : ScanStep → Option ScanState
  | .getAvailableSSIDsAsyncIncr threadCreated =>
    some (if threadCreated then { s with threads := s.threads ++ [.start] } else s)
  | .stopProgressiveWifiScanning =>
    some {
      globals := { s.globals with bStopProgressiveScanning := true }
      threads := s.threads.map ScanThread.requestStop }
  | .thread i dualBand =>
    s.threads[i]?.bind fun t =>
      (t.next dualBand s.globals).map fun r => ⟨r.1, s.threads.set i r.2⟩

/-- A thread that has been told to stop begins no batch, however far it runs, and has reset the
frequency list and exited after at most three of its steps. -/
def ScanState.StopsCleanly (s : ScanState) : Prop :=
  ∀ (i : Nat) (t : ScanThread) (n : Nat), s.threads[i]? = some t → t.stopped = some n →
    ∀ (answers : List Bool) (u : ScanState),
      run scanStep s (answers.map (ScanStep.thread i)) = some u →
      ∃ t', u.threads[i]? = some t' ∧ t'.begun = n ∧ (3 ≤ answers.length →
        t'.pc = .exited ∧ u.globals.freqList = allFrequencies)

/-- A batch is begun only after a test of the flag that is still to come, or not at all. -/
def ScanPc.heeds : ScanPc → Bool
  | scanning _ | firstCheck | secondCheck | resetting | exited => true
  | created | ready _ | dualBand => false

/-- A test of the flag is still to come. -/
def ScanPc.willCheck : ScanPc → Bool
  | scanning .preferred5GHz | scanning .band24GHz | firstCheck | secondCheck => true
  | _ => false

/-- A stop request finds every scan thread where it heeds the flag, and no thread clears the flag
while one that has been told to stop is still to test it. -/
def KeepsStop (s : ScanState) : ScanStep → Prop
  | .getAvailableSSIDsAsyncIncr _ => True
  | .stopProgressiveWifiScanning => ∀ t ∈ s.threads, t.pc.heeds = true
  | .thread i _ =>
    (∃ t : ScanThread, s.threads[i]? = some t ∧ t.pc = .created) →
      ∀ u ∈ s.threads, u.stopped ≠ none → u.pc.willCheck = false

/-- A thread that has been told to stop has begun no batch since, and finds the flag set where it
tests it. -/
def ScanThread.Heeding (g : ScanGlobals) (t : ScanThread) : Prop :=
  t.pc.heeds = true ∧ (t.pc.willCheck = true → g.bStopProgressiveScanning = true)

def ScanState.StopsSeen (s : ScanState) : Prop :=
  ∀ t ∈ s.threads, ∀ n : Nat, t.stopped = some n → t.begun = n ∧ t.Heeding s.globals

/-- The steps that a thread has left once it heeds a stop. -/
def ScanPc.left : ScanPc → Nat
  | scanning .lowPriority5GHz | firstCheck | secondCheck => 2
  | resetting => 1
  | exited => 0
  | _ => 3

theorem ScanThread.Heeding.next {t t' : ScanThread} (h : t.Heeding g)
    (hn : t.next dualBand g = some (g', t')) :
    t'.Heeding g' ∧ t'.begun = t.begun ∧ t'.pc.left + 1 = t.pc.left ∧
      (t'.pc = .exited → g'.freqList = allFrequencies) := by
  obtain ⟨hheeds, hflag⟩ := h
  rw [ScanThread.next] at hn
  cases hpc : t.pc with
  | created | ready batch | dualBand =>
    rw [hpc] at hheeds
    cases hheeds
  | scanning batch =>
    rw [hpc] at hn hflag
    cases hn
    cases batch with
    | preferred5GHz => exact ⟨⟨rfl, fun _ => hflag rfl⟩, rfl, rfl, ScanPc.noConfusion⟩
    | band24GHz => exact ⟨⟨rfl, fun _ => hflag rfl⟩, rfl, rfl, ScanPc.noConfusion⟩
    | lowPriority5GHz => exact ⟨⟨rfl, Bool.noConfusion⟩, rfl, rfl, ScanPc.noConfusion⟩
  | firstCheck | secondCheck =>
    rw [hpc] at hn hflag
    dsimp only at hn
    rw [hflag rfl] at hn
    cases hn
    exact ⟨⟨rfl, Bool.noConfusion⟩, rfl, rfl, ScanPc.noConfusion⟩
  | resetting =>
    rw [hpc] at hn
    cases hn
    exact ⟨⟨rfl, Bool.noConfusion⟩, rfl, rfl, fun _ => rfl⟩
  | exited =>
    rw [hpc] at hn
    cases hn

/-- A run of one thread alone. -/
def ScanThread.runAlone (g : ScanGlobals) (t : ScanThread) :
    List Bool → Option (ScanGlobals × ScanThread) :=
  run (fun p dualBand => p.2.next dualBand p.1) (g, t)

theorem run_thread {s : ScanState} (ht : s.threads[i]? = some t) (answers : List Bool) :
    run scanStep s (answers.map (ScanStep.thread i)) =
      (t.runAlone s.globals answers).map fun r => ⟨r.1, s.threads.set i r.2⟩ := by
  induction answers generalizing s t with
  | nil =>
    obtain ⟨hi, rfl⟩ := List.getElem?_eq_some_iff.1 ht
    rw [ScanThread.runAlone, run_nil, Option.map_some, List.set_getElem_self hi]
    rfl
  | cons dualBand answers ih =>
    rw [List.map_cons, run_cons, scanStep, ht, Option.bind_some, ScanThread.runAlone, run_cons]
    dsimp only
    cases hn : t.next dualBand s.globals with
    | none => rfl
    | some r =>
      have hr : (s.threads.set i r.2)[i]? = some r.2 := by
        rw [List.getElem?_set_self (List.getElem?_eq_some_iff.1 ht).1]
      rw [Option.map_some, Option.bind_some, Option.bind_some, ih hr]
      simp only [List.set_set]
      rfl

theorem ScanThread.Heeding.runAlone {t t' : ScanThread} (h : t.Heeding g)
    (hr : t.runAlone g answers = some (g', t')) :
    t'.Heeding g' ∧ t'.begun = t.begun ∧ t'.pc.left + answers.length = t.pc.left ∧
      (answers ≠ [] → t'.pc = .exited → g'.freqList = allFrequencies) := by
  induction answers generalizing g t with
  | nil =>
    cases hr
    exact ⟨h, rfl, rfl, fun hne => absurd rfl hne⟩
  | cons dualBand answers ih =>
    obtain ⟨⟨g₁, t₁⟩, hn, hr⟩ := Option.bind_eq_some_iff.1 hr
    obtain ⟨h₁, hbegun₁, hleft₁, hexit₁⟩ := h.next hn
    obtain ⟨h', hbegun, hleft, hexit⟩ := ih h₁ hr
    refine ⟨h', hbegun.trans hbegun₁, ?_, fun _ hpc => ?_⟩
    · rw [List.length_cons]
      omega
    · cases answers with
      | nil =>
        cases hr
        exact hexit₁ hpc
      | cons a answers => exact hexit (List.cons_ne_nil a answers) hpc

theorem ScanPc.left_eq_zero {pc : ScanPc} (h : pc.left = 0) : pc = .exited := by
  cases pc with
  | scanning batch => cases batch <;> cases h
  | exited => rfl
  | created | ready _ | firstCheck | dualBand | secondCheck | resetting => cases h

theorem ScanPc.left_le (pc : ScanPc) : pc.left ≤ 3 := by
  cases pc with
  | scanning batch => cases batch <;> decide
  | _ => simp [ScanPc.left]

theorem ScanState.StopsSeen.stopsCleanly {s : ScanState} (hs : s.StopsSeen) :
    s.StopsCleanly := by
  intro i t n ht hstop answers u hu
  obtain ⟨hbegun, hheed⟩ := hs t (List.mem_of_getElem? ht) n hstop
  rw [run_thread ht, Option.map_eq_some_iff] at hu
  obtain ⟨⟨g', t'⟩, hr, rfl⟩ := hu
  obtain ⟨_, hbegun', hleft, hexit⟩ := hheed.runAlone hr
  have hself : (s.threads.set i t')[i]? = some t' :=
    List.getElem?_set_self (List.getElem?_eq_some_iff.1 ht).1
  refine ⟨t', hself, hbegun'.trans hbegun, fun hlen => ?_⟩
  have hpc : t'.pc = .exited := by
    apply ScanPc.left_eq_zero
    have hle := t.pc.left_le
    omega
  refine ⟨hpc, hexit ?_ hpc⟩
  intro hnil
  rw [hnil] at hlen
  cases hlen

theorem ScanThread.requestStop_stopped {t : ScanThread} (h : t.requestStop.stopped = some n) :
    t.stopped = some n ∨ t.stopped = none ∧ t.begun = n := by
  rw [ScanThread.requestStop] at h
  cases hs : t.stopped with
  | none =>
    rw [hs] at h
    cases h
    exact Or.inr ⟨rfl, rfl⟩
  | some m =>
    rw [hs] at h
    exact Or.inl h

/-- Only the first step of a thread clears the flag. -/
theorem ScanThread.next_flag {t : ScanThread} (hn : t.next dualBand g = some (g', t')) :
    t'.stopped = t.stopped ∧
      (t.pc ≠ .created → g'.bStopProgressiveScanning = g.bStopProgressiveScanning) := by
  rw [ScanThread.next] at hn
  cases hpc : t.pc with
  | exited =>
    rw [hpc] at hn
    cases hn
  | created =>
    rw [hpc] at hn
    cases hn
    exact ⟨rfl, fun h => absurd rfl h⟩
  | _ =>
    rw [hpc] at hn
    cases hn
    exact ⟨rfl, fun _ => rfl⟩

theorem ScanState.StopsSeen.step {s t : ScanState} (hs : s.StopsSeen) (hc : KeepsStop s i)
    (ht : scanStep s i = some t) : t.StopsSeen := by
  cases i with
  | getAvailableSSIDsAsyncIncr threadCreated =>
    cases ht
    cases threadCreated with
    | true =>
      intro u hu n hn
      rcases List.mem_append.1 hu with hu | hu
      · exact hs u hu n hn
      · cases List.mem_singleton.1 hu
        cases hn
    | false => exact hs
  | stopProgressiveWifiScanning =>
    cases ht
    intro u hu n hn
    obtain ⟨v, hv, rfl⟩ := List.mem_map.1 hu
    have hheed : v.requestStop.Heeding { s.globals with bStopProgressiveScanning := true } :=
      ⟨hc v hv, fun _ => rfl⟩
    rcases ScanThread.requestStop_stopped hn with hn | ⟨_, hbegun⟩
    · exact ⟨(hs v hv n hn).1, hheed⟩
    · exact ⟨hbegun, hheed⟩
  | thread i dualBand =>
    rw [scanStep, Option.bind_eq_some_iff] at ht
    obtain ⟨v, hv, ht⟩ := ht
    obtain ⟨⟨g', v'⟩, hn, rfl⟩ := Option.map_eq_some_iff.1 ht
    obtain ⟨hstopped, hflag⟩ := ScanThread.next_flag hn
    intro u hu n hstop
    rcases List.mem_or_eq_of_mem_set hu with hu | rfl
    · obtain ⟨hbegun, hheeds, hset⟩ := hs u hu n hstop
      refine ⟨hbegun, hheeds, fun hcheck => ?_⟩
      by_cases hpc : v.pc = .created
      · have hnot := hc ⟨v, hv, hpc⟩ u hu (by rw [hstop]; exact Option.some_ne_none n)
        rw [hcheck] at hnot
        cases hnot
      · rw [hflag hpc]
        exact hset hcheck
    · rw [hstopped] at hstop
      obtain ⟨hbegun, hheed⟩ := hs v (List.mem_of_getElem? hv) n hstop
      obtain ⟨hheed', hbegun', _⟩ := hheed.next hn
      exact ⟨hbegun'.trans hbegun, hheed'⟩

/-- Alone from here, the thread begins another batch. -/
def ScanThread.Overruns (g : ScanGlobals) (t : ScanThread) : Prop :=
  ∃ answers r, t.runAlone g answers = some r ∧ r.2.begun = t.begun + 1

theorem ScanState.StopsCleanly.not_overruns {s : ScanState} {t : ScanThread}
    (hs : s.StopsCleanly) (ht : t ∈ s.threads) (hstop : t.stopped = some t.begun) :
    ¬t.Overruns s.globals := by
  intro hover
  obtain ⟨answers, r, hr, hbegun⟩ := hover
  obtain ⟨i, hi⟩ := List.mem_iff_getElem?.1 ht
  obtain ⟨t', ht', hbegun', _⟩ := hs i t _ hi hstop answers ⟨r.1, s.threads.set i r.2⟩
    (by rw [run_thread hi, hr, Option.map_some])
  rw [List.getElem?_set_self (List.getElem?_eq_some_iff.1 hi).1] at ht'
  cases ht'
  omega

theorem ScanThread.overruns_of_not_heeds {t : ScanThread} (h : t.pc.heeds = false)
    (g : ScanGlobals) : t.Overruns g := by
  obtain ⟨pc, begun, stopped⟩ := t
  cases pc with
  | created => exact ⟨[true, true], _, rfl, rfl⟩
  | ready batch => exact ⟨[true], _, rfl, rfl⟩
  | dualBand => exact ⟨[true, true], _, rfl, rfl⟩
  | _ => cases h

theorem ScanThread.overruns_of_willCheck {t : ScanThread} (h : t.pc.willCheck = true)
    (hg : g.bStopProgressiveScanning = false) : t.Overruns g := by
  obtain ⟨pc, begun, stopped⟩ := t
  obtain ⟨flag, freqList⟩ := g
  cases hg
  cases pc with
  | scanning batch =>
    cases batch with
    | preferred5GHz => exact ⟨[true, true, true, true], _, rfl, rfl⟩
    | band24GHz => exact ⟨[true, true, true], _, rfl, rfl⟩
    | lowPriority5GHz => cases h
  | firstCheck => exact ⟨[true, true, true], _, rfl, rfl⟩
  | secondCheck => exact ⟨[true, true], _, rfl, rfl⟩
  | _ => cases h

theorem keepsStop_iff (s : ScanState) (i : ScanStep) (hs : s.StopsSeen) :
    KeepsStop s i ↔ ∀ t, scanStep s i = some t → t.StopsCleanly := by
  apply Iff.intro
  · intro hc t ht
    exact (hs.step hc ht).stopsCleanly
  · intro h
    cases i with
    | getAvailableSSIDsAsyncIncr threadCreated => trivial
    | stopProgressiveWifiScanning =>
      intro t ht
      cases hheeds : t.pc.heeds with
      | true => rfl
      | false =>
        have hnone : t.stopped = none := by
          cases hstop : t.stopped with
          | none => rfl
          | some n =>
            have hheeds' := (hs t ht n hstop).2.1
            rw [hheeds] at hheeds'
            cases hheeds'
        have hstop : t.requestStop.stopped = some t.begun := by
          rw [ScanThread.requestStop, hnone]
          rfl
        exact absurd (ScanThread.overruns_of_not_heeds (t := t.requestStop) hheeds _)
          ((h _ rfl).not_overruns (List.mem_map_of_mem ht) hstop)
    | thread i dualBand =>
      intro hcreated u hu hstop
      obtain ⟨t, ht, hpc⟩ := hcreated
      cases hcheck : u.pc.willCheck with
      | false => rfl
      | true =>
        obtain ⟨n, hn⟩ := Option.ne_none_iff_exists'.1 hstop
        rw [← (hs u hu n hn).1] at hn
        have hnext : t.next dualBand s.globals =
            some ({ s.globals with bStopProgressiveScanning := false },
              t.goto (.ready .preferred5GHz)) := by
          rw [ScanThread.next, hpc]
        have hstep : scanStep s (.thread i dualBand) =
            some ⟨{ s.globals with bStopProgressiveScanning := false },
              s.threads.set i (t.goto (.ready .preferred5GHz))⟩ := by
          rw [scanStep, ht, Option.bind_some, hnext, Option.map_some]
        have hmem : u ∈ s.threads.set i (t.goto (.ready .preferred5GHz)) := by
          obtain ⟨j, hj⟩ := List.mem_iff_getElem?.1 hu
          have hij : i ≠ j := by
            rintro rfl
            cases ht.symm.trans hj
            rw [hpc] at hcheck
            cases hcheck
          apply List.mem_of_getElem? (i := j)
          rw [List.getElem?_set_ne hij, hj]
        exact absurd (ScanThread.overruns_of_willCheck hcheck rfl)
          ((h _ hstep).not_overruns hmem hn)

/-- However the requests and the scan threads interleave, every thread that has been told to stop
stops cleanly, exactly when each step keeps the stop. -/
theorem scan_stops_iff (steps : List ScanStep) :
    StepsMeet scanStep KeepsStop .init steps ↔
      ∀ pre i s, pre ++ [i] <+: steps → run scanStep .init (pre ++ [i]) = some s →
        s.StopsCleanly := by
  apply stepsMeet_iff_outcome keepsStop_iff
  · intro s i t hs hc ht
    exact hs.step hc ht
  · intro t ht
    cases ht

/-- The stop request comes before the first step of the scan thread, which clears the flag. -/
def stopBeforeFirstStep : List ScanStep :=
  [.getAvailableSSIDsAsyncIncr true, .stopProgressiveWifiScanning]

theorem stopBeforeFirstStep_lost :
    ¬∀ pre i s, pre ++ [i] <+: stopBeforeFirstStep →
      run scanStep .init (pre ++ [i]) = some s → s.StopsCleanly := by
  intro h
  have hclean := h [.getAvailableSSIDsAsyncIncr true] .stopProgressiveWifiScanning _
    (List.prefix_refl _) rfl
  exact hclean.not_overruns (t := ScanThread.start.requestStop) List.mem_cons_self rfl
    (ScanThread.overruns_of_not_heeds rfl _)

end NetSrvMgr.Scan
