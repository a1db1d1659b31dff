import NetSrvMgr.Transition

namespace NetSrvMgr.Wifi
open Transition
set_option autoImplicit true

inductive MonitorPc
  | absent -- not created, or joined
  | created -- before it locks `mutexGo`
  | waitGo -- in the wait without a timeout
  | wokenGo
  | loopHead
  | logging -- in the loop, before it locks `mutexGo`
  | waitTimed
  | wokenTimed (timedOut : Bool)
  | exited
  deriving DecidableEq

/-- How far `shutdownWifi` is; it is joining once it has sent its signal. -/
inductive ShutdownPc
  | idle | flagSet | joining
  deriving DecidableEq

/-- The monitor, `shutdownWifi`, and the connect callbacks that found `bShutdownWifi` unset and
have not signalled yet. -/
structure MonitorState where
  bShutdownWifi : Bool
  monitor : MonitorPc
  shutdown : ShutdownPc
  callbacks : Nat

def MonitorState.init : MonitorState := ⟨false, .absent, .idle, 0⟩

inductive MonitorInput
  | monitorWiFiStatus
  | monitor | timeout | spuriousWakeup
  | callback | callbackSignal | callbackRetry
  | shutdownSet | shutdownSignal | shutdownJoin
  deriving DecidableEq

/-- A signal on `condGo` wakes the monitor where it waits, and is lost elsewhere. -/
def MonitorPc.condSignal : MonitorPc → MonitorPc
  | .waitGo => .wokenGo
  | .waitTimed => .wokenTimed false
  | pc => pc

def MonitorPc.next (bShutdownWifi : Bool) : MonitorPc → Option MonitorPc
  | .created => some .waitGo
  | .wokenGo => some .loopHead
  | .loopHead => some (if bShutdownWifi then .exited else .logging)
  | .logging => some (if bShutdownWifi then .loopHead else .waitTimed)
  | .wokenTimed timedOut => some (if bShutdownWifi || timedOut then .loopHead else .waitTimed)
  | .absent | .waitGo | .waitTimed | .exited => none

def monitorStep (s : MonitorState) : MonitorInput → Option MonitorState
  | .monitorWiFiStatus =>
    if s.shutdown = .idle ∧ s.monitor = .absent then
      some { s with bShutdownWifi := false, monitor := .created }
    else none
  | .monitor => (s.monitor.next s.bShutdownWifi).map fun pc => { s with monitor := pc }
  | .timeout =>
    if s.monitor = .waitTimed then some { s with monitor := .wokenTimed true } else none
  | .spuriousWakeup =>
    if s.monitor = .waitGo ∨ s.monitor = .waitTimed then
      some { s with monitor := s.monitor.condSignal }
    else none
  | .callback => some (if s.bShutdownWifi then s else { s with callbacks := s.callbacks + 1 })
  | .callbackSignal =>
    if s.callbacks = 0 then none
    else some { s with callbacks := s.callbacks - 1, monitor := s.monitor.condSignal }
  | .callbackRetry => -- the lock was taken, and the flag is looked at again
    if s.callbacks = 0 then none
    else some (if s.bShutdownWifi then { s with callbacks := s.callbacks - 1 } else s)
  | .shutdownSet =>
    if s.shutdown = .idle ∧ s.monitor ≠ .absent then
      some { s with bShutdownWifi := true, shutdown := .flagSet }
    else none
  | .shutdownSignal =>
    if s.shutdown = .flagSet then
      some { s with shutdown := .joining, monitor := s.monitor.condSignal }
    else none
  | .shutdownJoin =>
    if s.shutdown = .joining ∧ s.monitor = .exited then
      some { s with shutdown := .idle, monitor := .absent }
    else none

def MonitorState.Stuck (s : MonitorState) : Prop := s.shutdown = .joining ∧ s.monitor = .waitGo

/-- The signal of `shutdownWifi` is not sent before the monitor locks `mutexGo`. -/
def SignalHeard (s : MonitorState) (i : MonitorInput) : Prop :=
  i = .shutdownSignal → s.shutdown = .flagSet → s.monitor ≠ .created

/-- Where the monitor is not, once it cannot have missed the signal of `shutdownWifi`. -/
def MonitorPc.deaf : MonitorPc → Bool
  | .absent | .created | .waitGo | .waitTimed => true
  | .wokenGo | .loopHead | .logging | .wokenTimed _ | .exited => false

structure MonitorState.Heard (s : MonitorState) : Prop where
  flag : s.shutdown ≠ .idle → s.bShutdownWifi = true
  present : s.shutdown ≠ .idle → s.monitor ≠ .absent
  joining : s.shutdown = .joining → s.monitor.deaf = false

theorem MonitorPc.condSignal_ne_absent {pc : MonitorPc} (h : pc ≠ .absent) :
    pc.condSignal ≠ .absent := by
  cases pc <;> first | exact absurd rfl h | exact MonitorPc.noConfusion

theorem MonitorPc.condSignal_deaf {pc : MonitorPc} (h : pc.deaf = false) :
    pc.condSignal.deaf = false := by
  cases pc <;> first | rfl | cases h

theorem MonitorPc.condSignal_hears {pc : MonitorPc} (ha : pc ≠ .absent) (hc : pc ≠ .created) :
    pc.condSignal.deaf = false := by
  cases pc <;> first | rfl | exact absurd rfl ha | exact absurd rfl hc

theorem MonitorPc.next_ne_absent {pc : MonitorPc} (h : pc.next b = some q) : q ≠ .absent := by
  cases pc with
  | created =>
    cases h
    exact MonitorPc.noConfusion
  | wokenGo =>
    cases h
    exact MonitorPc.noConfusion
  | loopHead =>
    cases h
    split <;> exact MonitorPc.noConfusion
  | logging =>
    cases h
    split <;> exact MonitorPc.noConfusion
  | wokenTimed timedOut =>
    cases h
    split <;> exact MonitorPc.noConfusion
  | _ => cases h

theorem MonitorPc.next_deaf {pc : MonitorPc} (h : pc.next true = some q)
    (hd : pc.deaf = false) : q.deaf = false := by
  cases pc with
  | wokenGo =>
    cases h
    rfl
  | loopHead =>
    cases h
    rfl
  | logging =>
    cases h
    rfl
  | wokenTimed timedOut =>
    cases h
    rfl
  | exited => cases h
  | _ => cases hd

theorem MonitorState.Heard.step {s : MonitorState} (hs : s.Heard) (h : SignalHeard s i)
    (ht : monitorStep s i = some t) : t.Heard := by
  cases i with
  | monitorWiFiStatus =>
    rw [monitorStep] at ht
    split at ht
    · next hidle =>
      cases ht
      exact ⟨fun hi => absurd hidle.1 hi, fun _ => MonitorPc.noConfusion,
        fun hj => absurd (hidle.1.symm.trans hj) ShutdownPc.noConfusion⟩
    · cases ht
  | monitor =>
    obtain ⟨pc, hpc, rfl⟩ := Option.map_eq_some_iff.1 ht
    refine ⟨hs.flag, ?_, ?_⟩
    · intro _
      exact MonitorPc.next_ne_absent hpc
    · intro hj
      have hflag := hs.flag (by rw [hj]; exact ShutdownPc.noConfusion)
      rw [hflag] at hpc
      exact MonitorPc.next_deaf hpc (hs.joining hj)
  | timeout =>
    rw [monitorStep] at ht
    split at ht
    · cases ht
      exact ⟨hs.flag, fun _ => MonitorPc.noConfusion, fun _ => rfl⟩
    · cases ht
  | spuriousWakeup =>
    rw [monitorStep] at ht
    split at ht
    · cases ht
      exact ⟨hs.flag, fun hi => MonitorPc.condSignal_ne_absent (hs.present hi),
        fun hj => MonitorPc.condSignal_deaf (hs.joining hj)⟩
    · cases ht
  | callback =>
    cases ht
    split
    · exact hs
    · exact ⟨hs.flag, hs.present, hs.joining⟩
  | callbackSignal =>
    rw [monitorStep] at ht
    split at ht
    · cases ht
    · cases ht
      exact ⟨hs.flag, fun hi => MonitorPc.condSignal_ne_absent (hs.present hi),
        fun hj => MonitorPc.condSignal_deaf (hs.joining hj)⟩
  | callbackRetry =>
    rw [monitorStep] at ht
    split at ht
    · cases ht
    · cases ht
      split
      · exact ⟨hs.flag, hs.present, hs.joining⟩
      · exact hs
  | shutdownSet =>
    rw [monitorStep] at ht
    split at ht
    · next hidle =>
      cases ht
      exact ⟨fun _ => rfl, fun _ => hidle.2, ShutdownPc.noConfusion⟩
    · cases ht
  | shutdownSignal =>
    rw [monitorStep] at ht
    split at ht
    · next hset =>
      cases ht
      have hne : s.shutdown ≠ .idle := by
        rw [hset]
        exact ShutdownPc.noConfusion
      have hpresent := hs.present hne
      exact ⟨fun _ => hs.flag hne, fun _ => MonitorPc.condSignal_ne_absent hpresent,
        fun _ => MonitorPc.condSignal_hears hpresent (h rfl hset)⟩
    · cases ht
  | shutdownJoin =>
    rw [monitorStep] at ht
    split at ht
    · cases ht
      exact ⟨fun hi => absurd rfl hi, fun hi => absurd rfl hi, ShutdownPc.noConfusion⟩
    · cases ht

theorem MonitorState.Heard.not_stuck {s : MonitorState} (hs : s.Heard) : ¬ s.Stuck := by
  intro h
  have hdeaf := hs.joining h.1
  rw [h.2] at hdeaf
  cases hdeaf

/-- No step but a further signal of `shutdownWifi` makes the monitor miss one. -/
theorem MonitorState.Heard.run {s : MonitorState} (hs : s.Heard) (hbs : .shutdownSignal ∉ bs)
    (ht : run monitorStep s bs = some t) : t.Heard := by
  apply run_invariant ?_ ht hs
  intro u i hi v hu hv
  apply hu.step ?_ hv
  intro he
  rw [he] at hi
  exact absurd hi hbs

theorem MonitorState.Heard.joins {s : MonitorState} (hs : s.Heard) (h : s.shutdown = .joining) :
    ∃ n t, Transition.run monitorStep s (List.replicate n .monitor) = some t ∧
      t.shutdown = .joining ∧ t.monitor = .exited := by
  have hdeaf := hs.joining h
  have hflag := hs.flag (by rw [h]; exact ShutdownPc.noConfusion)
  obtain ⟨b, pc, sd, n⟩ := s
  cases h
  cases hflag
  cases pc with
  | wokenGo => exact ⟨2, _, rfl, rfl, rfl⟩
  | loopHead => exact ⟨1, _, rfl, rfl, rfl⟩
  | logging => exact ⟨2, _, rfl, rfl, rfl⟩
  | wokenTimed timedOut => exact ⟨2, _, rfl, rfl, rfl⟩
  | exited => exact ⟨0, _, rfl, rfl, rfl⟩
  | _ => cases hdeaf

theorem signalHeard_iff {s : MonitorState} (hs : s.Heard) (i : MonitorInput) :
    SignalHeard s i ↔ ∀ t, monitorStep s i = some t →
      ∀ bs u, .shutdownSignal ∉ bs → run monitorStep t bs = some u → ¬ u.Stuck := by
  apply Iff.intro
  · intro h t ht bs u hbs hu
    exact ((hs.step h ht).run hbs hu).not_stuck
  · intro h hi hset hcreated
    subst hi
    apply h _ (if_pos hset) [.monitor] { s with shutdown := .joining, monitor := .waitGo }
    · decide
    · rw [hcreated]
      rfl
    · exact ⟨rfl, rfl⟩

theorem MonitorState.init_heard : MonitorState.init.Heard :=
  ⟨fun h => absurd rfl h, fun h => absurd rfl h, ShutdownPc.noConfusion⟩

theorem stepsMeet_iff_not_stuck (is : List MonitorInput) :
    StepsMeet monitorStep SignalHeard MonitorState.init is ↔
      ∀ js bs t, js <+: is → .shutdownSignal ∉ bs →
        run monitorStep MonitorState.init (js ++ bs) = some t → ¬ t.Stuck := by
  have hinit := MonitorState.init_heard
  rw [stepsMeet_iff_outcome (P := MonitorState.Heard) (fun s i hs => signalHeard_iff hs i)
    (fun s i t hs h ht => hs.step h ht) hinit]
  apply Iff.intro
  · intro h js bs t hjs hbs ht
    rw [run_append, Option.bind_eq_some_iff] at ht
    obtain ⟨u, hu, hrun⟩ := ht
    rcases List.eq_nil_or_concat js with rfl | ⟨js, i, rfl⟩
    · cases hu
      exact (hinit.run hbs hrun).not_stuck
    · rw [List.concat_eq_append] at hjs hu
      exact h js i u hjs hu bs t hbs hrun
  · intro h js i t hjs ht bs u hbs hu
    apply h (js ++ [i]) bs u hjs hbs
    rw [run_append, ht, Option.bind_some, hu]

/-- Whatever follows a prefix of a run, short of another shutdown, `shutdownWifi` never joins a
monitor that waits without a timeout, exactly when none of its signals in the run is sent before
the monitor locks `mutexGo`; a monitor that is joined then gets to its end by its own steps. -/
theorem never_stuck_iff (is : List MonitorInput) :
    (StepsMeet monitorStep SignalHeard MonitorState.init is ↔
      ∀ js bs t, js <+: is → .shutdownSignal ∉ bs →
        run monitorStep MonitorState.init (js ++ bs) = some t → ¬ t.Stuck) ∧
    (StepsMeet monitorStep SignalHeard MonitorState.init is →
      ∀ t, run monitorStep MonitorState.init is = some t → t.shutdown = .joining →
        ∃ n u, run monitorStep t (List.replicate n .monitor) = some u ∧
          u.shutdown = .joining ∧ u.monitor = .exited) := by
  constructor
  · exact stepsMeet_iff_not_stuck is
  · intro h t ht hjoining
    rw [← List.append_nil is] at h
    obtain ⟨hheard, -⟩ := StepsMeet.invariant (P := MonitorState.Heard)
      (fun s i t hs hc hst => hs.step hc hst) h MonitorState.init_heard ht
    exact hheard.joins hjoining

/-- A shutdown right after a start, before the monitor has run. -/
theorem shutdown_joins_waiting_monitor :
    ¬ ∀ (is : List MonitorInput) (t : MonitorState),
      run monitorStep MonitorState.init is = some t → ¬ t.Stuck := by
  intro h
  exact h [.monitorWiFiStatus, .shutdownSet, .shutdownSignal, .monitor] _ rfl ⟨rfl, rfl⟩

end NetSrvMgr.Wifi
