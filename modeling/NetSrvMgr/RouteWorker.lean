import NetSrvMgr.Transition
import Mathlib.Logic.Function.Basic

namespace NetSrvMgr.Route
open Transition
set_option autoImplicit true

/-- The statement that a call of `_evtHandler` for `XUPNP_DATA_UPDATE` executes next. -/
inductive HandlerPc
  | idle
  | lock
  | setReady
  | condSignal
  | storeLength
  | unlock
  | returned
  deriving DecidableEq

structure Handler where
  deviceInfoLength : Int
  pc : HandlerPc
  deriving DecidableEq

/-- The statement that `getGatewayRouteDataThrd` executes next; inside `pthread_cond_wait` it is
blocked, and then woken to lock the mutex again. -/
inductive WorkerPc
  | lock
  | testReady
  | condWait
  | blocked
  | woken
  | takeLength
  | clearReady
  | unlock
  | fetching
  deriving DecidableEq

inductive Thread
  | worker
  | handler (i : Nat)
  deriving DecidableEq

/-- The length in `msgLength` is absent before it is first assigned. `announced` lists the lengths
of the events in the order in which their handlers get the mutex. -/
structure UpnpState where
  signalUpnpDataReady : Bool
  messageLength : Int
  mutexRoute : Option Thread
  msgLength : Option Int
  worker : WorkerPc
  handlers : Nat → Handler
  announced : List Int

def UpnpState.init : UpnpState where
  signalUpnpDataReady := true
  messageLength := 0
  mutexRoute := none
  msgLength := none
  worker := .lock
  handlers _ := ⟨0, .idle⟩
  announced := []

def UpnpState.goto (s : UpnpState) (i : Nat) (pc : HandlerPc) : UpnpState :=
  { s with handlers := Function.update s.handlers i ⟨(s.handlers i).deviceInfoLength, pc⟩ }

/-- The call wakes the worker if it is blocked, and returns 0. -/
def pthreadCondSignal (worker : WorkerPc) : WorkerPc × Nat :=
  (if worker = .blocked then .woken else worker, 0)

def handlerStep (s : UpnpState) (i : Nat) : Option UpnpState :=
  match (s.handlers i).pc with
  | .idle => none
  | .lock =>
    if s.mutexRoute = none then
      some { s.goto i .setReady with
        mutexRoute := some (.handler i)
        announced := s.announced ++ [(s.handlers i).deviceInfoLength] }
    else none
  | .setReady => some { s.goto i .condSignal with signalUpnpDataReady := true }
  | .condSignal =>
    let r := pthreadCondSignal s.worker
    some { s.goto i (if 0 = r.2 then .storeLength else .unlock) with worker := r.1 }
  | .storeLength =>
    some { s.goto i .unlock with messageLength := (s.handlers i).deviceInfoLength }
  | .unlock => some { s.goto i .returned with mutexRoute := none }
  | .returned => none

def workerStep (s : UpnpState) : Option UpnpState :=
  match s.worker with
  | .lock =>
    if s.mutexRoute = none then some { s with mutexRoute := some .worker, worker := .testReady }
    else none
  | .testReady =>
    some { s with worker := if s.signalUpnpDataReady = false then .condWait else .takeLength }
  | .condWait => some { s with mutexRoute := none, worker := .blocked }
  | .blocked => none
  | .woken =>
    if s.mutexRoute = none then some { s with mutexRoute := some .worker, worker := .testReady }
    else none
  | .takeLength => some { s with msgLength := some s.messageLength, worker := .clearReady }
  | .clearReady => some { s with signalUpnpDataReady := false, worker := .unlock }
  | .unlock => some { s with mutexRoute := none, worker := .fetching }
  | .fetching => some { s with worker := .lock }

/-- An event on the bus. -/
inductive IarmEvent
  | xupnpDataUpdate (deviceInfoLength : Int)
  | other

/-- A call of the handler on a thread of its own, a step of one thread, or a wake-up that no
signal caused. -/
inductive UpnpStep
  | evtHandler (i : Nat) (event : IarmEvent)
  | handler (i : Nat)
  | worker
  | spuriousWakeup

def upnpStep (s : UpnpState) : UpnpStep → Option UpnpState
  | .evtHandler i event =>
    if (s.handlers i).pc = .idle then
      match event with
      | .xupnpDataUpdate deviceInfoLength =>
        some { s with handlers := Function.update s.handlers i ⟨deviceInfoLength, .lock⟩ }
      | .other =>
        some { s with
          handlers := Function.update s.handlers i ⟨(s.handlers i).deviceInfoLength, .returned⟩ }
    else none
  | .handler i => handlerStep s i
  | .worker => workerStep s
  | .spuriousWakeup => if s.worker = .blocked then some { s with worker := .woken } else none

/-- The length of the most recent event, or the initial value of `messageLength`. -/
def UpnpState.latest (s : UpnpState) : Int :=
  s.announced.getLast?.getD UpnpState.init.messageLength

def HandlerPc.holds : HandlerPc → Bool
  | setReady | condSignal | storeLength | unlock => true
  | idle | lock | returned => false

def WorkerPc.holds : WorkerPc → Bool
  | testReady | condWait | takeLength | clearReady | unlock => true
  | lock | blocked | woken | fetching => false

/-- The handler has still to store the length of its event. -/
def HandlerPc.announcing : HandlerPc → Bool
  | setReady | condSignal | storeLength => true
  | idle | lock | unlock | returned => false

/-- The mutex belongs to the thread that is between its lock and its unlock. -/
structure UpnpState.Owned (s : UpnpState) : Prop where
  handler : ∀ i, (s.handlers i).pc.holds = true ↔ s.mutexRoute = some (.handler i)
  worker : s.worker.holds = true ↔ s.mutexRoute = some .worker

/-- Flag and lengths agree with the most recent event, but for the statements that the handler
in the critical section has still to execute. -/
structure UpnpState.UpToDate (s : UpnpState) : Prop where
  announcing : ∀ i, (s.handlers i).pc.announcing = true →
    (s.handlers i).deviceInfoLength = s.latest
  stored : (∀ i, (s.handlers i).pc.announcing = false) → s.messageLength = s.latest
  taken : s.worker = .clearReady → s.msgLength = some s.latest
  fetched : (∀ i, (s.handlers i).pc ≠ .setReady) → s.signalUpnpDataReady = false →
    s.msgLength = some s.latest
  waits : s.worker = .condWait → s.signalUpnpDataReady = false
  sleeps : (∀ i, (s.handlers i).pc ≠ .condSignal) → s.worker = .blocked →
    s.signalUpnpDataReady = false

section
variable {s t : UpnpState} {new : Handler} {w w' : WorkerPc}

theorem HandlerPc.holds_of_announcing {pc : HandlerPc} (h : pc.announcing = true) :
    pc.holds = true := by
  cases pc <;> first | rfl | exact Bool.noConfusion h

theorem forall_of_update {f : Nat → Handler} {P : HandlerPc → Prop} (hi : P (f i).pc)
    (h : ∀ j, P (Function.update f i new j).pc) : ∀ j, P (f j).pc := by
  intro j
  by_cases hj : j = i
  · rw [hj]
    exact hi
  · have hold := h j
    rw [Function.update_of_ne hj] at hold
    exact hold

theorem pthreadCondSignal_holds (w : WorkerPc) : (pthreadCondSignal w).1.holds = w.holds := by
  cases w <;> rfl

theorem eq_of_pthreadCondSignal (h : (pthreadCondSignal w).1 = w') (hw : w' ≠ .woken) :
    w = w' := by
  rw [pthreadCondSignal] at h
  split at h
  · exact absurd h.symm hw
  · exact h

theorem pthreadCondSignal_ne_blocked (w : WorkerPc) : (pthreadCondSignal w).1 ≠ .blocked := by
  cases w <;> decide

theorem UpnpState.Owned.not_handler (hs : s.Owned) (hfree : s.mutexRoute = none) (i : Nat) :
    ¬ (s.handlers i).pc.holds = true := by
  rw [hs.handler i, hfree]
  intro h
  cases h

theorem UpnpState.Owned.not_worker (hs : s.Owned) (hfree : s.mutexRoute = none) :
    ¬ s.worker.holds = true := by
  rw [hs.worker, hfree]
  intro h
  cases h

/-- At most one thread is inside its critical section. -/
theorem UpnpState.Owned.apart (hs : s.Owned) (hi : (s.handlers i).pc.holds = true) :
    ¬ s.worker.holds = true := by
  intro hw
  have howner := ((hs.handler i).mp hi).symm.trans (hs.worker.mp hw)
  cases howner

theorem UpnpState.Owned.moves (hs : s.Owned) (hnew : new.pc.holds = (s.handlers i).pc.holds)
    (hw : w.holds = s.worker.holds) :
    UpnpState.Owned ⟨flag, len, s.mutexRoute, msg, w, Function.update s.handlers i new, anns⟩ where
  handler j := by
    rw [← hs.handler j]
    dsimp only
    by_cases hj : j = i
    · rw [hj, Function.update_self, hnew]
    · rw [Function.update_of_ne hj]
  worker := by
    rw [← hs.worker, ← hw]

theorem UpnpState.Owned.handlerLocks (hs : s.Owned) (hfree : s.mutexRoute = none)
    (hnew : new.pc.holds = true) :
    UpnpState.Owned ⟨flag, len, some (.handler i), msg, s.worker, Function.update s.handlers i new,
      anns⟩ where
  handler j := by
    dsimp only
    by_cases hj : j = i
    · rw [hj, Function.update_self]
      exact iff_of_true hnew rfl
    · rw [Function.update_of_ne hj]
      apply iff_of_false (hs.not_handler hfree j)
      intro h
      cases h
      exact hj rfl
  worker := iff_of_false (hs.not_worker hfree) (fun h => by cases h)

theorem UpnpState.Owned.handlerUnlocks (hs : s.Owned) (hi : (s.handlers i).pc.holds = true)
    (hnew : ¬ new.pc.holds = true) :
    UpnpState.Owned ⟨flag, len, none, msg, s.worker, Function.update s.handlers i new, anns⟩ where
  handler j := by
    dsimp only
    by_cases hj : j = i
    · rw [hj, Function.update_self]
      exact iff_of_false hnew (fun h => by cases h)
    · rw [Function.update_of_ne hj]
      apply iff_of_false _ (fun h => by cases h)
      intro h
      have howner := ((hs.handler j).mp h).symm.trans ((hs.handler i).mp hi)
      cases howner
      exact hj rfl
  worker := iff_of_false (hs.apart hi) (fun h => by cases h)

theorem UpnpState.Owned.workerMoves (hs : s.Owned) (hw : w.holds = s.worker.holds) :
    UpnpState.Owned ⟨flag, len, s.mutexRoute, msg, w, s.handlers, anns⟩ where
  handler := hs.handler
  worker := by
    rw [← hs.worker, ← hw]

theorem UpnpState.Owned.workerLocks (hs : s.Owned) (hfree : s.mutexRoute = none)
    (hw : w.holds = true) :
    UpnpState.Owned ⟨flag, len, some .worker, msg, w, s.handlers, anns⟩ where
  handler j := iff_of_false (hs.not_handler hfree j) (fun h => by cases h)
  worker := iff_of_true hw rfl

theorem UpnpState.Owned.workerUnlocks (hs : s.Owned) (hheld : s.worker.holds = true)
    (hw : ¬ w.holds = true) :
    UpnpState.Owned ⟨flag, len, none, msg, w, s.handlers, anns⟩ where
  handler j := iff_of_false (fun h => hs.apart h hheld) (fun h => by cases h)
  worker := iff_of_false hw (fun h => by cases h)

theorem handlerStep_owned (hs : s.Owned) (h : handlerStep s i = some t) : t.Owned := by
  rw [handlerStep] at h
  cases hpc : (s.handlers i).pc with
  | idle =>
    rw [hpc] at h
    cases h
  | lock =>
    rw [hpc] at h
    dsimp only at h
    split at h
    · rename_i hfree
      cases h
      exact hs.handlerLocks hfree rfl
    · cases h
  | setReady =>
    rw [hpc] at h
    cases h
    exact hs.moves (by rw [hpc]; rfl) rfl
  | condSignal =>
    rw [hpc] at h
    cases h
    exact hs.moves (by rw [hpc]; rfl) (pthreadCondSignal_holds s.worker)
  | storeLength =>
    rw [hpc] at h
    cases h
    exact hs.moves (by rw [hpc]; rfl) rfl
  | unlock =>
    rw [hpc] at h
    cases h
    exact hs.handlerUnlocks (by rw [hpc]; rfl) Bool.false_ne_true
  | returned =>
    rw [hpc] at h
    cases h

theorem workerStep_owned (hs : s.Owned) (h : workerStep s = some t) : t.Owned := by
  rw [workerStep] at h
  cases hpc : s.worker with
  | lock =>
    rw [hpc] at h
    dsimp only at h
    split at h
    · rename_i hfree
      cases h
      exact hs.workerLocks hfree rfl
    · cases h
  | testReady =>
    rw [hpc] at h
    cases h
    apply hs.workerMoves
    rw [hpc]
    split
    · rfl
    · rfl
  | condWait =>
    rw [hpc] at h
    cases h
    exact hs.workerUnlocks (by rw [hpc]; rfl) Bool.false_ne_true
  | blocked =>
    rw [hpc] at h
    cases h
  | woken =>
    rw [hpc] at h
    dsimp only at h
    split at h
    · rename_i hfree
      cases h
      exact hs.workerLocks hfree rfl
    · cases h
  | takeLength =>
    rw [hpc] at h
    cases h
    exact hs.workerMoves (by rw [hpc]; rfl)
  | clearReady =>
    rw [hpc] at h
    cases h
    exact hs.workerMoves (by rw [hpc]; rfl)
  | unlock =>
    rw [hpc] at h
    cases h
    exact hs.workerUnlocks (by rw [hpc]; rfl) Bool.false_ne_true
  | fetching =>
    rw [hpc] at h
    cases h
    exact hs.workerMoves (by rw [hpc]; rfl)

theorem UpnpState.UpToDate.announcing_update (hs : s.UpToDate)
    (hlen : new.deviceInfoLength = (s.handlers i).deviceInfoLength)
    (hnew : new.pc.announcing = true → (s.handlers i).pc.announcing = true) (j : Nat)
    (h : (Function.update s.handlers i new j).pc.announcing = true) :
    (Function.update s.handlers i new j).deviceInfoLength = s.latest := by
  by_cases hj : j = i
  · rw [hj, Function.update_self] at h ⊢
    rw [hlen]
    exact hs.announcing i (hnew h)
  · rw [Function.update_of_ne hj] at h ⊢
    exact hs.announcing j h

/-- While the mutex is free, only a handler that now gets it can owe a length. -/
theorem UpnpState.Owned.announcing_only (hs : s.Owned) (hfree : s.mutexRoute = none) (j : Nat)
    (h : (Function.update s.handlers i new j).pc.announcing = true) :
    Function.update s.handlers i new j = new := by
  by_cases hj : j = i
  · rw [hj, Function.update_self]
  · rw [Function.update_of_ne hj] at h
    exact absurd (HandlerPc.holds_of_announcing h) (hs.not_handler hfree j)

theorem not_forall_update {f : Nat → Handler} {P : HandlerPc → Prop} (hnew : ¬ P new.pc)
    (h : ∀ j, P (Function.update f i new j).pc) : False := by
  have hi := h i
  rw [Function.update_self] at hi
  exact hnew hi

theorem latest_concat (len : Int) (anns : List Int) :
    UpnpState.latest ⟨flag, msgLen, owner, msg, w, handlers, anns ++ [len]⟩ = len := by
  rw [UpnpState.latest, List.getLast?_concat]
  rfl

theorem UpnpState.UpToDate.handlerLeaves (hs : s.UpToDate)
    (hready : (s.handlers i).pc ≠ .setReady) (hsignal : (s.handlers i).pc ≠ .condSignal)
    (hlen : new.deviceInfoLength = (s.handlers i).deviceInfoLength)
    (hnew : new.pc.announcing = false)
    (hstored : (∀ j, (Function.update s.handlers i new j).pc.announcing = false) →
      len = s.latest) :
    UpnpState.UpToDate { s with
      handlers := Function.update s.handlers i new
      messageLength := len
      mutexRoute := owner } where
  announcing := hs.announcing_update hlen fun h => by
    rw [hnew] at h
    cases h
  stored := hstored
  taken := hs.taken
  fetched hno := hs.fetched (forall_of_update (P := (· ≠ .setReady)) hready hno)
  waits := hs.waits
  sleeps hno := hs.sleeps (forall_of_update (P := (· ≠ .condSignal)) hsignal hno)

theorem handlerStep_upToDate (ho : s.Owned) (hs : s.UpToDate) (h : handlerStep s i = some t) :
    t.UpToDate := by
  rw [handlerStep] at h
  cases hpc : (s.handlers i).pc with
  | idle =>
    rw [hpc] at h
    cases h
  | lock =>
    rw [hpc] at h
    dsimp only at h
    split at h
    · rename_i hfree
      cases h
      constructor
      · intro j hj
        rw [latest_concat]
        have hnew := ho.announcing_only hfree j hj
        exact (congrArg Handler.deviceInfoLength hnew).trans rfl
      · intro hno
        exact (not_forall_update (P := fun pc => pc.announcing = false)
          (Bool.false_ne_true ∘ Eq.symm) hno).elim
      · intro hw
        refine absurd ?_ (ho.not_worker hfree)
        exact (congrArg WorkerPc.holds hw).trans rfl
      · intro hno
        exact (not_forall_update (P := (· ≠ .setReady)) (not_not_intro rfl) hno).elim
      · exact hs.waits
      · intro hno
        exact hs.sleeps (forall_of_update (P := (· ≠ .condSignal)) (by rw [hpc]; decide) hno)
    · cases h
  | setReady =>
    rw [hpc] at h
    cases h
    have hheld : (s.handlers i).pc.holds = true := by
      rw [hpc]
      rfl
    constructor
    · exact hs.announcing_update rfl (fun _ => by rw [hpc]; rfl)
    · intro hno
      exact (not_forall_update (P := fun pc => pc.announcing = false)
        (Bool.false_ne_true ∘ Eq.symm) hno).elim
    · exact hs.taken
    · intro _ hflag
      cases hflag
    · intro hw
      refine absurd ?_ (ho.apart hheld)
      exact (congrArg WorkerPc.holds hw).trans rfl
    · intro hno
      exact (not_forall_update (P := (· ≠ .condSignal)) (not_not_intro rfl) hno).elim
  | condSignal =>
    rw [hpc] at h
    cases h
    constructor
    · exact hs.announcing_update rfl (fun _ => by rw [hpc]; rfl)
    · intro hno
      exact (not_forall_update (P := fun pc => pc.announcing = false)
        (Bool.false_ne_true ∘ Eq.symm) hno).elim
    · intro hw
      exact hs.taken (eq_of_pthreadCondSignal hw (by decide))
    · intro hno
      exact hs.fetched (forall_of_update (P := (· ≠ .setReady)) (by rw [hpc]; decide) hno)
    · intro hw
      exact hs.waits (eq_of_pthreadCondSignal hw (by decide))
    · intro _ hw
      exact absurd hw (pthreadCondSignal_ne_blocked s.worker)
  | storeLength =>
    rw [hpc] at h
    cases h
    refine hs.handlerLeaves (i := i) (by rw [hpc]; decide) (by rw [hpc]; decide) rfl rfl ?_
    intro _
    exact hs.announcing i (by rw [hpc]; rfl)
  | unlock =>
    rw [hpc] at h
    cases h
    refine hs.handlerLeaves (i := i) (by rw [hpc]; decide) (by rw [hpc]; decide) rfl rfl ?_
    intro hno
    have hi : (s.handlers i).pc.announcing = false := by
      rw [hpc]
      rfl
    exact hs.stored (forall_of_update (P := fun pc => pc.announcing = false) hi hno)
  | returned =>
    rw [hpc] at h
    cases h

/-- The worker goes to a place that owes nothing but a lowered flag. -/
theorem UpnpState.UpToDate.workerMoves (hs : s.UpToDate) (hclear : w ≠ .clearReady)
    (hcond : w = .condWait → s.signalUpnpDataReady = false)
    (hblocked : w = .blocked → s.signalUpnpDataReady = false) :
    UpnpState.UpToDate { s with mutexRoute := owner, worker := w } where
  announcing := hs.announcing
  stored := hs.stored
  taken hw := absurd hw hclear
  fetched := hs.fetched
  waits := hcond
  sleeps _ := hblocked

theorem UpnpState.UpToDate.workerTakes (ho : s.Owned) (hs : s.UpToDate)
    (hw : s.worker.holds = true) :
    UpnpState.UpToDate { s with msgLength := some s.messageLength, worker := .clearReady } := by
  have hquiet : ∀ i, (s.handlers i).pc.announcing = false := by
    intro i
    apply Bool.eq_false_iff.mpr
    intro ha
    exact ho.apart (HandlerPc.holds_of_announcing ha) hw
  have htaken := congrArg some (hs.stored hquiet)
  constructor
  · exact hs.announcing
  · exact hs.stored
  · intro _
    exact htaken
  · intro _ _
    exact htaken
  · intro h
    cases h
  · intro _ h
    cases h

theorem UpnpState.UpToDate.workerClears (hs : s.UpToDate) (hw : s.worker = .clearReady) :
    UpnpState.UpToDate { s with signalUpnpDataReady := false, worker := .unlock } where
  announcing := hs.announcing
  stored := hs.stored
  taken h := by cases h
  fetched _ _ := hs.taken hw
  waits _ := rfl
  sleeps _ _ := rfl

theorem workerStep_upToDate (ho : s.Owned) (hs : s.UpToDate) (h : workerStep s = some t) :
    t.UpToDate := by
  rw [workerStep] at h
  cases hpc : s.worker with
  | lock =>
    rw [hpc] at h
    dsimp only at h
    split at h
    · cases h
      exact hs.workerMoves (by decide) (fun hw => by cases hw) (fun hw => by cases hw)
    · cases h
  | testReady =>
    rw [hpc] at h
    cases h
    by_cases hflag : s.signalUpnpDataReady = false
    · rw [if_pos hflag]
      exact hs.workerMoves (by decide) (fun _ => hflag) (fun hw => by cases hw)
    · rw [if_neg hflag]
      exact hs.workerMoves (by decide) (fun hw => by cases hw) (fun hw => by cases hw)
  | condWait =>
    rw [hpc] at h
    cases h
    exact hs.workerMoves (by decide) (fun hw => by cases hw) (fun _ => hs.waits hpc)
  | blocked =>
    rw [hpc] at h
    cases h
  | woken =>
    rw [hpc] at h
    dsimp only at h
    split at h
    · cases h
      exact hs.workerMoves (by decide) (fun hw => by cases hw) (fun hw => by cases hw)
    · cases h
  | takeLength =>
    rw [hpc] at h
    cases h
    exact hs.workerTakes ho (by rw [hpc]; rfl)
  | clearReady =>
    rw [hpc] at h
    cases h
    exact hs.workerClears hpc
  | unlock =>
    rw [hpc] at h
    cases h
    exact hs.workerMoves (by decide) (fun hw => by cases hw) (fun hw => by cases hw)
  | fetching =>
    rw [hpc] at h
    cases h
    exact hs.workerMoves (by decide) (fun hw => by cases hw) (fun hw => by cases hw)

end

def UpnpState.Inv (s : UpnpState) : Prop := s.Owned ∧ s.UpToDate

theorem evtHandler_cases (h : upnpStep s (.evtHandler i event) = some t) :
    (s.handlers i).pc = .idle ∧ ∃ new : Handler, (new.pc = .lock ∨ new.pc = .returned) ∧
      t = { s with handlers := Function.update s.handlers i new } := by
  simp only [upnpStep] at h
  split at h
  · rename_i hidle
    cases event with
    | xupnpDataUpdate deviceInfoLength =>
      cases h
      exact ⟨hidle, _, Or.inl rfl, rfl⟩
    | other =>
      cases h
      exact ⟨hidle, _, Or.inr rfl, rfl⟩
  · cases h

theorem evtHandler_inv (hs : s.Inv) (h : upnpStep s (.evtHandler i event) = some t) : t.Inv := by
  obtain ⟨hidle, new, hnew, rfl⟩ := evtHandler_cases h
  obtain ⟨ho, hu⟩ := hs
  have houtside : new.pc.holds = (s.handlers i).pc.holds ∧ ¬ new.pc.announcing = true := by
    rw [hidle]
    rcases hnew with hpc | hpc
    · rw [hpc]
      decide
    · rw [hpc]
      decide
  apply And.intro
  · exact ho.moves houtside.1 rfl
  · constructor
    · intro j hj
      by_cases hji : j = i
      · dsimp only at hj
        rw [hji, Function.update_self] at hj
        exact absurd hj houtside.2
      · dsimp only at hj ⊢
        rw [Function.update_of_ne hji] at hj ⊢
        exact hu.announcing j hj
    · intro hno
      have hpc : (s.handlers i).pc.announcing = false := by
        rw [hidle]
        rfl
      exact hu.stored (forall_of_update (P := fun pc => pc.announcing = false) hpc hno)
    · exact hu.taken
    · intro hno
      exact hu.fetched (forall_of_update (P := (· ≠ .setReady)) (by rw [hidle]; decide) hno)
    · exact hu.waits
    · intro hno
      exact hu.sleeps (forall_of_update (P := (· ≠ .condSignal)) (by rw [hidle]; decide) hno)

theorem upnpStep_inv (hs : s.Inv) (h : upnpStep s step = some t) : t.Inv := by
  obtain ⟨ho, hu⟩ := hs
  cases step with
  | evtHandler i event => exact evtHandler_inv ⟨ho, hu⟩ h
  | handler i => exact ⟨handlerStep_owned ho h, handlerStep_upToDate ho hu h⟩
  | worker => exact ⟨workerStep_owned ho h, workerStep_upToDate ho hu h⟩
  | spuriousWakeup =>
    rw [upnpStep] at h
    split at h
    · rename_i hblocked
      cases h
      apply And.intro
      · exact ho.workerMoves (by rw [hblocked]; rfl)
      · exact hu.workerMoves (by decide) (fun hw => by cases hw) (fun hw => by cases hw)
    · cases h

theorem UpnpState.init_inv : UpnpState.init.Inv := by
  apply And.intro
  · constructor
    · intro i
      simp [UpnpState.init, HandlerPc.holds]
    · simp [UpnpState.init, WorkerPc.holds]
  · constructor <;> simp [UpnpState.init, UpnpState.latest, HandlerPc.announcing]

/-- Whenever the flag is down and no thread is in its critical section, the worker has taken the
length of the most recent event; it has also when it goes to wait, and while it sleeps the flag
is down. -/
theorem announcement_taken (h : run upnpStep .init steps = some s) :
    (s.mutexRoute = none → s.signalUpnpDataReady = false → s.msgLength = some s.latest) ∧
    (s.worker = .condWait → s.msgLength = some s.latest) ∧
    (s.mutexRoute = none → s.worker = .blocked →
      s.signalUpnpDataReady = false ∧ s.msgLength = some s.latest) := by
  obtain ⟨ho, hu⟩ : s.Inv :=
    run_invariant (fun _ _ _ _ hs hstep => upnpStep_inv hs hstep) h UpnpState.init_inv
  -- a handler inside its critical section owns the mutex
  have hout : s.mutexRoute = none ∨ s.worker.holds = true →
      ∀ i, (s.handlers i).pc.holds = false := by
    intro hm i
    cases hi : (s.handlers i).pc.holds with
    | false => rfl
    | true =>
      have hown := (ho.handler i).1 hi
      rcases hm with hm | hm
      · rw [hm] at hown
        cases hown
      · rw [ho.worker.1 hm] at hown
        cases hown
  have hset : ∀ pc : HandlerPc, pc.holds = true → (∀ i, (s.handlers i).pc.holds = false) →
      ∀ i, (s.handlers i).pc ≠ pc := by
    intro pc hpc hfree i he
    rw [← he, hfree i] at hpc
    cases hpc
  refine ⟨?_, ?_, ?_⟩
  · intro hm hready
    exact hu.fetched (hset .setReady rfl (hout (Or.inl hm))) hready
  · intro hw
    have hholds : s.worker.holds = true := by
      rw [hw]
      rfl
    exact hu.fetched (hset .setReady rfl (hout (Or.inr hholds))) (hu.waits hw)
  · intro hm hw
    have hready := hu.sleeps (hset .condSignal rfl (hout (Or.inl hm))) hw
    exact ⟨hready, hu.fetched (hset .setReady rfl (hout (Or.inl hm))) hready⟩

/-- Two events, the second while the worker fetches what the first announced. -/
def twoEvents : List UpnpStep :=
  [.worker, .worker, .worker, .evtHandler 0 (.xupnpDataUpdate 40), .worker, .worker, .handler 0,
    .handler 0, .handler 0, .handler 0, .handler 0, .evtHandler 1 (.xupnpDataUpdate 50), .worker,
    .worker, .worker, .worker, .worker, .worker, .handler 1, .handler 1, .handler 1, .handler 1,
    .handler 1, .worker, .worker, .worker, .worker, .worker, .worker, .worker, .worker, .worker,
    .worker]

theorem announcement_taken_twoEvents :
    ∃ s, run upnpStep .init twoEvents = some s ∧ s.mutexRoute = none ∧ s.worker = .blocked ∧
      s.signalUpnpDataReady = false ∧ s.msgLength = some 50 ∧ s.latest = 50 :=
  ⟨_, rfl, rfl, rfl, ((announcement_taken (rfl : run upnpStep .init twoEvents = _)).2.2 rfl rfl).1,
    ((announcement_taken (rfl : run upnpStep .init twoEvents = _)).2.2 rfl rfl).2, rfl⟩

end NetSrvMgr.Route
