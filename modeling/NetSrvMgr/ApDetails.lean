import NetSrvMgr.ConfigProps
import NetSrvMgr.RouteData
import NetSrvMgr.Transition

namespace NetSrvMgr.ApDetails
open Config CString Transition
open Route (CJSON)
set_option autoImplicit true

/-- `deviceModel`, `deviceMake` and `deviceMACAddr`. -/
structure Details where
  deviceModel : CharArray 32
  deviceMake : CharArray 32
  deviceMACAddr : CharArray 32

def Details.clear : Details := ⟨strcpyS [], strcpyS [], strcpyS []⟩

/-- What a collector takes for the details of the gateway. -/
def Details.Known (d : Details) : Prop := d.deviceModel.str ≠ [] ∧ d.deviceMake.str ≠ []

instance (d : Details) : Decidable d.Known := inferInstanceAs (Decidable (_ ∧ _))

/-- `STRCPY_S` of a string that is there. -/
def store (old : CharArray 32) (value : Option CStr) : CharArray 32 :=
  match value with
  | none => old
  | some value => strcpyS value

def isXb (deviceData : CJSON) : Bool :=
  match deviceData.text "DevType" with
  | none => false
  | some devType => gStrrstr (gStrstrip devType) "XB".toList

def Details.take (d : Details) (deviceData : CJSON) : Details where
  deviceModel := store d.deviceModel (deviceData.text "modelClass")
  deviceMake := store d.deviceMake (deviceData.text "make")
  deviceMACAddr := store d.deviceMACAddr (deviceData.text "bcastMacAddress")

/-- The first XB device in the list. -/
def xbGateway (rootJson : CJSON) : Option CJSON :=
  (rootJson.getObjectItem "xmediagateways".toList).bind fun deviceFullData =>
    deviceFullData.child.find? isXb

/-- The text is what `cJSON_Parse` makes of it. -/
def parseAPDetails (array : Option CJSON) (d : Details) : Bool × Details :=
  match array with
  | none => (false, d)
  | some rootJson =>
    match rootJson.getObjectItem "xmediagateways".toList with
    | none => (false, d)
    | some deviceFullData =>
      match deviceFullData.child.find? isXb with
      | none => (true, d)
      | some deviceData => (true, d.take deviceData)

/-- What a fetch gets: no memory, or the text of the devices, which is empty when the call fails. -/
inductive Answer
  | noMemory
  | devices (array : Option CJSON)

def getAPDetails (answer : Answer) (d : Details) : Bool × Details :=
  match answer with
  | .noMemory => (false, d)
  | .devices array => parseAPDetails array d

/-- The place of a collector, a thread in `getAPMakeAndModel`: the test of the loop and the lock,
inside `pthread_cond_wait`, out of it again, with the mutex and what its call came to, after a
fetch, and before `shutdownDiscovery`. -/
inductive Collector
  | loop
  | asleep
  | woken
  | fetching (answer : Answer)
  | fetched (ret : Bool)
  | leaving
  | exited

namespace Collector

def live : Collector → Bool
  | leaving | exited => false
  | _ => true

def waits : Collector → Bool
  | asleep => true
  | _ => false

def holdsMutex : Collector → Bool
  | fetching _ => true
  | _ => false

end Collector

/-- Where a callback for a connection is: nowhere, before `collectAPDetails`, and before
`initializeDiscovery`. -/
inductive Callback
  | idle
  | collect
  | register
  deriving DecidableEq

structure Discovery where
  details : Details
  bsignalAPDetailsReady : Bool
  apDetailsBuffLength : Int
  registered : Bool
  callback : Callback
  collectors : List Collector

def Discovery.init : Discovery where
  details := .clear
  bsignalAPDetailsReady := true
  apDetailsBuffLength := 0
  registered := false
  callback := .idle
  collectors := []

/-- No collector holds `mutexAPDetails`. -/
def Discovery.mutexFree (s : Discovery) : Bool := !s.collectors.any Collector.holdsMutex

inductive Happening
  | connect (savedSsid ap_SSID : CStr)
  | callback (created : Bool)
  | announce (deviceInfoLength : Int) (waiter : Nat)
  | collector (i : Nat) (answer : Answer)

def sameSSid (savedSsid ap_SSID : CStr) : Bool := savedSsid = [] || savedSsid = ap_SSID

/-- `_evtHandler`: the signal wakes one of those that wait, if any does. A call may still be under
way when the handler is no longer registered. -/
def Discovery.evtHandler (s : Discovery) (deviceInfoLength : Int) (waiter : Nat) :
    Option Discovery :=
  if !s.mutexFree then none
  else if s.collectors[waiter]?.any Collector.waits then
    some { s with
      bsignalAPDetailsReady := true
      apDetailsBuffLength := deviceInfoLength
      collectors := s.collectors.set waiter .woken }
  else if s.collectors.any Collector.waits then none
  else some { s with bsignalAPDetailsReady := true, apDetailsBuffLength := deviceInfoLength }

/-- With the mutex: wait, or take the flag and call for the devices. -/
def Discovery.test (s : Discovery) (i : Nat) (answer : Answer) : Option Discovery :=
  if !s.mutexFree then none
  else if s.bsignalAPDetailsReady then
    some { s with
      bsignalAPDetailsReady := false
      collectors := s.collectors.set i (.fetching answer) }
  else some { s with collectors := s.collectors.set i .asleep }

/-- `getAPMakeAndModel`, while the service is not shut down. A callback does not take the mutex to
clear the details, so it may do so between the call for the devices and the copies. -/
def Discovery.getAPMakeAndModel (s : Discovery) (i : Nat) (answer : Answer) : Option Discovery :=
  match s.collectors[i]? with
  | some .loop => s.test i answer
  | some .asleep => some { s with collectors := s.collectors.set i .woken }
  | some .woken => s.test i answer
  | some (.fetching answer) =>
    let q := getAPDetails answer s.details
    some { s with details := q.2, collectors := s.collectors.set i (.fetched q.1) }
  | some (.fetched ret) =>
    some { s with
      collectors := s.collectors.set i (if ret = true ∧ s.details.Known then .leaving else .loop) }
  | some .leaving =>
    some { s with registered := false, collectors := s.collectors.set i .exited }
  | some .exited => none
  | none => none

section
variable (lafIsLnfssid : CStr → Bool)

/-- Whether `wifi_status_action` clears the details on a connection: not for the network of the
LNF service. -/
def clears (savedSsid ap_SSID : CStr) : Bool :=
  !lafIsLnfssid ap_SSID && !sameSSid savedSsid ap_SSID

def Discovery.connect (s : Discovery) (savedSsid ap_SSID : CStr) : Option Discovery :=
  if s.callback = .idle then
    if clears lafIsLnfssid savedSsid ap_SSID then
      some { s with details := .clear, callback := .collect }
    else some s
  else none

/-- `collectAPDetails`, whose thread may not come to be, and `initializeDiscovery`. -/
def Discovery.callbackStep (s : Discovery) (created : Bool) : Option Discovery :=
  match s.callback with
  | .idle => none
  | .collect =>
    some { s with
      collectors := if created then s.collectors ++ [.loop] else s.collectors
      callback := .register }
  | .register => some { s with registered := true, callback := .idle }

def Discovery.step (s : Discovery) : Happening → Option Discovery
  | .connect savedSsid ap_SSID => s.connect lafIsLnfssid savedSsid ap_SSID
  | .callback created => s.callbackStep created
  | .announce deviceInfoLength waiter => s.evtHandler deviceInfoLength waiter
  | .collector i answer => s.getAPMakeAndModel i answer

end

/-- A text that is there is not empty and has room. -/
def Tidy (value : Option CStr) : Prop := ∀ text ∈ value, text ≠ [] ∧ text.length < 32

def Answer.Tidy : Answer → Prop
  | .devices (some rootJson) => ∀ g ∈ xbGateway rootJson,
      ApDetails.Tidy (g.text "modelClass") ∧ ApDetails.Tidy (g.text "make")
  | _ => True

/-- Collectors are created, none is on its way out when a callback registers the handler, and
gateways have names for their model and make if they have any. -/
def Calm (s : Discovery) : Happening → Prop
  | .callback created =>
    (s.callback = .collect → created = true) ∧ (s.callback = .register → .leaving ∉ s.collectors)
  | .collector _ answer => answer.Tidy
  | _ => True

/-- While the details are not known, they are sought. -/
structure Sought (s : Discovery) : Prop where
  awake : s.bsignalAPDetailsReady = true → .asleep ∈ s.collectors →
    .loop ∈ s.collectors ∨ .woken ∈ s.collectors
  tidy : ∀ answer, .fetching answer ∈ s.collectors → answer.Tidy
  leaving : s.callback = .idle → .leaving ∈ s.collectors → s.details.Known
  collecting : s.callback = .register → ¬s.details.Known → ∃ c ∈ s.collectors, c.live = true
  idle : s.callback = .idle → s.collectors ≠ [] → ¬s.details.Known →
    s.registered = true ∧ ∃ c ∈ s.collectors, c.live = true

theorem strcpyS_str (h : value.length < n + 1) :
    (strcpyS value : CharArray (n + 1)).str = value := by
  rw [strcpyS, dif_pos h]

theorem store_ne_nil (hvalue : Tidy value) (h : old.str ≠ []) : (store old value).str ≠ [] := by
  cases value with
  | none => exact h
  | some text =>
    obtain ⟨hne, hfits⟩ := hvalue text rfl
    rw [store, strcpyS_str hfits]
    exact hne

theorem parseAPDetails_some (rootJson : CJSON) (d : Details) :
    (parseAPDetails (some rootJson) d).2 =
      match xbGateway rootJson with
      | none => d
      | some deviceData => d.take deviceData := by
  rw [parseAPDetails, xbGateway]
  cases rootJson.getObjectItem "xmediagateways".toList with
  | none => rfl
  | some deviceFullData =>
    rw [Option.bind_some]
    dsimp only
    cases deviceFullData.child.find? isXb <;> rfl

theorem getAPDetails_cases (answer : Answer) (d : Details) :
    (getAPDetails answer d).2 = d ∨
      ∃ rootJson deviceData, answer = .devices (some rootJson) ∧
        xbGateway rootJson = some deviceData ∧ (getAPDetails answer d).2 = d.take deviceData := by
  cases answer with
  | noMemory => exact Or.inl rfl
  | devices array =>
    cases array with
    | none => exact Or.inl rfl
    | some rootJson =>
      rw [getAPDetails, parseAPDetails_some]
      cases hg : xbGateway rootJson with
      | none => exact Or.inl rfl
      | some deviceData => exact Or.inr ⟨rootJson, deviceData, rfl, hg, rfl⟩

theorem getAPDetails_known (hanswer : answer.Tidy) (h : d.Known) :
    (getAPDetails answer d).2.Known := by
  rcases getAPDetails_cases answer d with hsame | ⟨rootJson, deviceData, rfl, hg, htake⟩
  · rw [hsame]
    exact h
  · obtain ⟨hmodel, hmake⟩ := hanswer deviceData hg
    rw [htake]
    exact ⟨store_ne_nil hmodel h.1, store_ne_nil hmake h.2⟩

section
variable {collectors : List Collector}

theorem mem_set_self (hi : collectors[i]? = some c) (c' : Collector) :
    c' ∈ collectors.set i c' := by
  obtain ⟨hlt, _⟩ := List.getElem?_eq_some_iff.1 hi
  exact List.mem_set hlt c'

theorem mem_set_of_ne (hi : collectors[i]? = some c) (hx : x ∈ collectors) (hne : x ≠ c)
    (c' : Collector) : x ∈ collectors.set i c' := by
  obtain ⟨j, hj⟩ := List.mem_iff_getElem?.1 hx
  apply List.mem_iff_getElem?.2
  refine ⟨j, ?_⟩
  rw [List.getElem?_set_ne, hj]
  rintro rfl
  exact hne (Option.some.inj (hj.symm.trans hi))

end

theorem Discovery.mutexFree_iff {s : Discovery} :
    s.mutexFree = true ↔ ∀ answer, .fetching answer ∉ s.collectors := by
  rw [Discovery.mutexFree, Bool.not_eq_true', List.any_eq_false]
  apply Iff.intro
  · intro h answer hmem
    exact h _ hmem rfl
  · intro h c hc hholds
    cases c with
    | fetching answer => exact h answer hc
    | _ => cases hholds

theorem Sought.move (h : Sought s) (hi : s.collectors[i]? = some c) (hlive : c'.live = true)
    {t : Discovery} (hcollectors : t.collectors = s.collectors.set i c')
    (htidy : ∀ answer, c' = .fetching answer → answer.Tidy)
    (hknown : s.details.Known → t.details.Known) (hregistered : t.registered = s.registered)
    (hcallback : t.callback = s.callback)
    (hawake : t.bsignalAPDetailsReady = true → .asleep ∈ t.collectors →
      .loop ∈ t.collectors ∨ .woken ∈ t.collectors) : Sought t where
  awake := hawake
  tidy answer hmem := by
    rw [hcollectors] at hmem
    rcases List.mem_or_eq_of_mem_set hmem with hmem | hnew
    · exact h.tidy answer hmem
    · exact htidy answer hnew.symm
  leaving hidle hmem := by
    rw [hcollectors] at hmem
    rcases List.mem_or_eq_of_mem_set hmem with hmem | rfl
    · exact hknown (h.leaving (hcallback.symm.trans hidle) hmem)
    · cases hlive
  collecting _ _ := by
    rw [hcollectors]
    exact ⟨c', mem_set_self hi c', hlive⟩
  idle hidle _ hunknown := by
    have hne : s.collectors ≠ [] := List.ne_nil_of_mem (List.mem_of_getElem? hi)
    obtain ⟨hreg, _⟩ := h.idle (hcallback.symm.trans hidle) hne fun hk => hunknown (hknown hk)
    rw [hcollectors]
    exact ⟨hregistered.trans hreg, c', mem_set_self hi c', hlive⟩

/-- Waiters are still to be woken by the same collectors, where one leaves that is none of them. -/
theorem Sought.awake_set (h : Sought s) (hi : s.collectors[i]? = some c) (hloop : c ≠ .loop)
    (hwoken : c ≠ .woken) (hnew : c' ≠ .asleep) (hflag : s.bsignalAPDetailsReady = true)
    (hasleep : .asleep ∈ s.collectors.set i c') :
    .loop ∈ s.collectors.set i c' ∨ .woken ∈ s.collectors.set i c' := by
  rcases List.mem_or_eq_of_mem_set hasleep with hold | heq
  · exact (h.awake hflag hold).imp (fun hmem => mem_set_of_ne hi hmem hloop.symm c')
      fun hmem => mem_set_of_ne hi hmem hwoken.symm c'
  · exact absurd heq.symm hnew

theorem Sought.tidy_set (h : Sought s) (hnew : c'.holdsMutex = false)
    (hmem : .fetching answer ∈ s.collectors.set i c') : answer.Tidy := by
  rcases List.mem_or_eq_of_mem_set hmem with hold | rfl
  · exact h.tidy answer hold
  · cases hnew

theorem Sought.test (h : Sought s) (hi : s.collectors[i]? = some c) (hanswer : answer.Tidy)
    (hstep : s.test i answer = some t) : Sought t := by
  rw [Discovery.test] at hstep
  split at hstep
  case isTrue => cases hstep
  split at hstep
  case isTrue =>
    cases hstep
    have htidy : ∀ a, Collector.fetching answer = .fetching a → a.Tidy := by
      rintro _ ⟨⟩
      exact hanswer
    exact h.move hi (by rfl) rfl htidy id rfl rfl fun hflag => absurd hflag Bool.false_ne_true
  case isFalse hflag =>
    cases hstep
    exact h.move hi (by rfl) rfl nofun id rfl rfl fun hflag' => absurd hflag' hflag

theorem Sought.getAPMakeAndModel (h : Sought s) (hanswer : answer.Tidy)
    (hstep : s.getAPMakeAndModel i answer = some t) : Sought t := by
  rw [Discovery.getAPMakeAndModel] at hstep
  cases hi : s.collectors[i]? with
  | none =>
    rw [hi] at hstep
    cases hstep
  | some c =>
    rw [hi] at hstep
    cases c with
    | loop => exact h.test hi hanswer hstep
    | asleep =>
      cases hstep
      exact h.move hi (by rfl) rfl nofun id rfl rfl fun _ _ => Or.inr (mem_set_self hi _)
    | woken => exact h.test hi hanswer hstep
    | fetching held =>
      cases hstep
      have hheld := h.tidy held (List.mem_of_getElem? hi)
      exact h.move hi (by rfl) rfl nofun (getAPDetails_known hheld) rfl rfl
        (h.awake_set hi nofun nofun nofun)
    | fetched ret =>
      cases hstep
      split
      case isTrue hleave =>
        exact ⟨h.awake_set hi nofun nofun nofun, fun _ hmem => h.tidy_set rfl hmem,
          fun _ _ => hleave.2, fun _ hunknown => absurd hleave.2 hunknown,
          fun _ _ hunknown => absurd hleave.2 hunknown⟩
      case isFalse =>
        exact h.move hi (by rfl) rfl nofun id rfl rfl fun _ _ => Or.inl (mem_set_self hi _)
    | leaving =>
      cases hstep
      have hmem : .leaving ∈ s.collectors := List.mem_of_getElem? hi
      refine ⟨h.awake_set hi nofun nofun nofun, fun _ hmem => h.tidy_set rfl hmem,
        fun hidle _ => h.leaving hidle hmem, ?_,
        fun hidle _ hunknown => absurd (h.leaving hidle hmem) hunknown⟩
      intro hregister hunknown
      obtain ⟨c, hc, hlive⟩ := h.collecting hregister hunknown
      refine ⟨c, mem_set_of_ne hi hc ?_ _, hlive⟩
      rintro rfl
      cases hlive
    | exited => cases hstep

theorem Sought.connect (h : Sought s)
    (hstep : s.connect lafIsLnfssid savedSsid ap_SSID = some t) : Sought t := by
  rw [Discovery.connect] at hstep
  split at hstep
  · split at hstep
    · cases hstep
      exact ⟨h.awake, h.tidy, nofun, nofun, nofun⟩
    · cases hstep
      exact h
  · cases hstep

theorem Sought.callbackStep (h : Sought s) (hcreated : s.callback = .collect → created = true)
    (hcalm : s.callback = .register → .leaving ∉ s.collectors)
    (hstep : s.callbackStep created = some t) : Sought t := by
  rw [Discovery.callbackStep] at hstep
  cases hcallback : s.callback with
  | idle =>
    rw [hcallback] at hstep
    cases hstep
  | collect =>
    rw [hcallback, hcreated hcallback] at hstep
    cases hstep
    have hnew : .loop ∈ s.collectors ++ [Collector.loop] :=
      List.mem_append_right _ (List.mem_singleton.2 rfl)
    refine ⟨fun _ _ => Or.inl hnew, ?_, nofun, fun _ _ => ⟨.loop, hnew, rfl⟩, nofun⟩
    intro answer hmem
    rcases List.mem_append.1 hmem with hmem | hmem
    · exact h.tidy answer hmem
    · cases List.mem_singleton.1 hmem
  | register =>
    rw [hcallback] at hstep
    cases hstep
    exact ⟨h.awake, h.tidy, fun _ hleaving => absurd hleaving (hcalm hcallback), nofun,
      fun _ _ hunknown => ⟨rfl, h.collecting hcallback hunknown⟩⟩

theorem Sought.evtHandler (h : Sought s)
    (hstep : s.evtHandler deviceInfoLength waiter = some t) : Sought t := by
  rw [Discovery.evtHandler] at hstep
  split at hstep
  case isTrue => cases hstep
  split at hstep
  case isTrue hwaits =>
    cases hstep
    obtain ⟨c, hwaiter, _⟩ := (Option.any_eq_true _ _).1 hwaits
    exact h.move hwaiter (by rfl) rfl nofun id rfl rfl
      fun _ _ => Or.inr (mem_set_self hwaiter _)
  case isFalse =>
    split at hstep
    case isTrue => cases hstep
    case isFalse hnone =>
      cases hstep
      refine ⟨fun _ hasleep => absurd ?_ hnone, h.tidy, h.leaving, h.collecting, h.idle⟩
      exact List.any_eq_true.2 ⟨_, hasleep, rfl⟩

theorem Sought.step (h : Sought s) (hcalm : Calm s e) (hstep : s.step lafIsLnfssid e = some t) :
    Sought t := by
  cases e with
  | connect savedSsid ap_SSID => exact h.connect hstep
  | callback created => exact h.callbackStep hcalm.1 hcalm.2 hstep
  | announce deviceInfoLength waiter => exact h.evtHandler hstep
  | collector i answer => exact h.getAPMakeAndModel hcalm hstep

theorem sought_init : Sought .init := ⟨nofun, nofun, nofun, nofun, fun _ h => absurd rfl h⟩

theorem sought_run (hcalm : StepsMeet (Discovery.step lafIsLnfssid) Calm .init happenings)
    (h : run (Discovery.step lafIsLnfssid) .init happenings = some t) : Sought t := by
  have hinv : ∀ s e t, Sought s → Calm s e → s.step lafIsLnfssid e = some t → Sought t :=
    fun _ _ _ hs hc hstep => hs.step hc hstep
  rw [← List.append_nil happenings] at hcalm
  exact (StepsMeet.invariant hinv hcalm sought_init h).1

/-- The answer names the model and the make of a gateway. -/
def Answer.Names : Answer → Prop
  | .devices (some rootJson) => ∃ g model make, xbGateway rootJson = some g ∧
      g.text "modelClass" = some model ∧ g.text "make" = some make ∧
      (model ≠ [] ∧ model.length < 32) ∧ make ≠ [] ∧ make.length < 32
  | _ => False

theorem getAPDetails_names (h : answer.Names) (d : Details) :
    (getAPDetails answer d).2.Known := by
  cases answer with
  | noMemory => exact h.elim
  | devices array =>
    cases array with
    | none => exact h.elim
    | some rootJson =>
      obtain ⟨g, model, make, hg, hmodel, hmake, ⟨hmodelne, hmodelfits⟩, hmakene, hmakefits⟩ := h
      rw [getAPDetails, parseAPDetails_some, hg]
      have hstore : ∀ {old value}, value.length < 32 → value ≠ [] →
          (store old (some value)).str ≠ [] := by
        intro old value hfits hne
        rw [store, strcpyS_str hfits]
        exact hne
      apply And.intro
      · change (store d.deviceModel (g.text "modelClass")).str ≠ []
        rw [hmodel]
        exact hstore hmodelfits hmodelne
      · change (store d.deviceMake (g.text "make")).str ≠ []
        rw [hmake]
        exact hstore hmakefits hmakene

section
variable {lafIsLnfssid : CStr → Bool}

theorem run_replicate_succ {s : Discovery} (hstep : s.step lafIsLnfssid e = some t) (k : Nat) :
    run (Discovery.step lafIsLnfssid) s (List.replicate (k + 1) e) =
      run (Discovery.step lafIsLnfssid) t (List.replicate k e) := by
  rw [List.replicate_succ, run_cons, hstep]
  rfl

theorem test_known {s : Discovery} (hfree : s.mutexFree = true)
    (hflag : s.bsignalAPDetailsReady = true)
    (hi : s.collectors[i]? = some .loop ∨ s.collectors[i]? = some .woken)
    (hanswer : answer.Names) : ∃ t,
    run (Discovery.step lafIsLnfssid) s (List.replicate 2 (.collector i answer)) = some t ∧
      t.details.Known := by
  have hlt : i < s.collectors.length := by
    rcases hi with hi | hi
    · exact (List.getElem?_eq_some_iff.1 hi).1
    · exact (List.getElem?_eq_some_iff.1 hi).1
  have hcall : s.step lafIsLnfssid (.collector i answer) = some { s with
      bsignalAPDetailsReady := false
      collectors := s.collectors.set i (.fetching answer) } := by
    rw [Discovery.step, Discovery.getAPMakeAndModel]
    rcases hi with hi | hi
    · rw [hi, Discovery.test, hfree, hflag]
      rfl
    · rw [hi, Discovery.test, hfree, hflag]
      rfl
  have hcopy : Discovery.step lafIsLnfssid { s with
      bsignalAPDetailsReady := false
      collectors := s.collectors.set i (.fetching answer) } (.collector i answer) = some { s with
      bsignalAPDetailsReady := false
      details := (getAPDetails answer s.details).2
      collectors := (s.collectors.set i (.fetching answer)).set i
        (.fetched (getAPDetails answer s.details).1) } := by
    rw [Discovery.step, Discovery.getAPMakeAndModel, List.getElem?_set_self hlt]
  have hknown := getAPDetails_names hanswer s.details
  refine ⟨_, (run_replicate_succ hcall 1).trans ((run_replicate_succ hcopy 0).trans rfl), ?_⟩
  exact hknown

theorem fetch_known {s : Discovery} (hfree : s.mutexFree = true)
    (hflag : s.bsignalAPDetailsReady = true) (hunknown : ¬s.details.Known)
    (hi : s.collectors[i]? = some c) (hlive : c.live = true) (hawake : c ≠ .asleep)
    (hanswer : answer.Names) : ∃ k t,
    run (Discovery.step lafIsLnfssid) s (List.replicate k (.collector i answer)) = some t ∧
      t.details.Known := by
  cases c with
  | loop => exact ⟨2, test_known hfree hflag (.inl hi) hanswer⟩
  | asleep => exact absurd rfl hawake
  | woken => exact ⟨2, test_known hfree hflag (.inr hi) hanswer⟩
  | fetching held =>
    exact absurd (List.mem_of_getElem? hi) (Discovery.mutexFree_iff.1 hfree held)
  | fetched ret =>
    have hback : s.step lafIsLnfssid (.collector i answer) =
        some { s with collectors := s.collectors.set i .loop } := by
      rw [Discovery.step, Discovery.getAPMakeAndModel, hi]
      dsimp only
      rw [if_neg fun h => hunknown h.2]
    have hfree' : { s with collectors := s.collectors.set i .loop }.mutexFree = true := by
      apply Discovery.mutexFree_iff.2
      intro a hmem
      rcases List.mem_or_eq_of_mem_set hmem with hold | hnew
      · exact Discovery.mutexFree_iff.1 hfree a hold
      · cases hnew
    have hself : (s.collectors.set i .loop)[i]? = some .loop :=
      List.getElem?_set_self (List.getElem?_eq_some_iff.1 hi).1
    have htest : ∃ t, run (Discovery.step lafIsLnfssid)
        { s with collectors := s.collectors.set i .loop }
        (List.replicate 2 (.collector i answer)) = some t ∧ t.details.Known :=
      test_known hfree' hflag (.inl hself) hanswer
    obtain ⟨t, ht, hknown⟩ := htest
    exact ⟨3, t, (run_replicate_succ hback 2).trans ht, hknown⟩
  | leaving => cases hlive
  | exited => cases hlive

theorem evtHandler_total {s : Discovery} (hfree : s.mutexFree = true) (deviceInfoLength : Int) :
    ∃ waiter t, s.evtHandler deviceInfoLength waiter = some t := by
  simp only [Discovery.evtHandler, hfree, Bool.not_true, Bool.false_eq_true, if_false]
  by_cases hasleep : s.collectors.any Collector.waits = true
  · obtain ⟨c, hc, hwaits⟩ := List.any_eq_true.1 hasleep
    obtain ⟨waiter, hwaiter⟩ := List.mem_iff_getElem?.1 hc
    refine ⟨waiter, _, if_pos ?_⟩
    rw [hwaiter]
    exact hwaits
  · refine ⟨s.collectors.length, _, (if_neg ?_).trans (if_neg hasleep)⟩
    rw [List.getElem?_eq_none (Nat.le_refl _)]
    exact Bool.false_ne_true

theorem evtHandler_keeps {s : Discovery} (h : s.evtHandler deviceInfoLength waiter = some t) :
    t.bsignalAPDetailsReady = true ∧ t.details = s.details ∧ t.callback = s.callback ∧
      t.collectors.length = s.collectors.length ∧ s.mutexFree = true ∧
      ∀ c ∈ t.collectors, c ∈ s.collectors ∨ c = .woken := by
  rw [Discovery.evtHandler] at h
  split at h
  case isTrue => cases h
  case isFalse hfree =>
    have hfree : s.mutexFree = true := by simpa using hfree
    split at h
    · cases h
      exact ⟨rfl, rfl, rfl, List.length_set, hfree, fun c => List.mem_or_eq_of_mem_set⟩
    · split at h
      · cases h
      · cases h
        exact ⟨rfl, rfl, rfl, rfl, hfree, fun c => Or.inl⟩

theorem Sought.up {s : Discovery} (h : Sought s) (hidle : s.callback = .idle)
    (hcollectors : s.collectors ≠ []) (hunknown : ¬s.details.Known)
    (hflag : s.bsignalAPDetailsReady = true) :
    ∃ c ∈ s.collectors, c.live = true ∧ c ≠ .asleep := by
  obtain ⟨_, c, hc, hlive⟩ := h.idle hidle hcollectors hunknown
  by_cases hasleep : c = .asleep
  · rw [hasleep] at hc
    rcases h.awake hflag hc with hloop | hwoken
    · exact ⟨.loop, hloop, rfl, nofun⟩
    · exact ⟨.woken, hwoken, rfl, nofun⟩
  · exact ⟨c, hc, hlive, hasleep⟩

/-- As long as the model or the make of the gateway of a newly joined network is not known, the
handler is registered, and a collector can fetch them as soon as a gateway is announced, whichever
collector the announcement wakes. An announcement has to wait for the mutex at most. -/
theorem details_sought (lafIsLnfssid : CStr → Bool) (happenings : List Happening) (s : Discovery)
    (hcalm : StepsMeet (Discovery.step lafIsLnfssid) Calm .init happenings)
    (h : run (Discovery.step lafIsLnfssid) .init happenings = some s) (hidle : s.callback = .idle)
    (hcollectors : s.collectors ≠ []) (hunknown : ¬s.details.Known) (deviceInfoLength : Int) :
    s.registered = true ∧
      (s.mutexFree = true → ∃ waiter t,
        s.step lafIsLnfssid (.announce deviceInfoLength waiter) = some t) ∧
      ∀ waiter t, s.step lafIsLnfssid (.announce deviceInfoLength waiter) = some t →
        ∀ answer : Answer, answer.Names → ∃ i k u,
          run (Discovery.step lafIsLnfssid) t (List.replicate k (.collector i answer)) =
            some u ∧ u.details.Known := by
  have hs : Sought s := sought_run hcalm h
  refine ⟨(hs.idle hidle hcollectors hunknown).1,
    fun hfree => evtHandler_total hfree deviceInfoLength, ?_⟩
  intro waiter t ht answer hanswer
  obtain ⟨hflag, hdetails, hcallback, hlength, hfree, hsame⟩ := evtHandler_keeps ht
  have hne : t.collectors ≠ [] := by
    intro hnil
    rw [hnil] at hlength
    exact hcollectors (List.length_eq_zero_iff.1 hlength.symm)
  have hfree' : t.mutexFree = true := by
    apply Discovery.mutexFree_iff.2
    intro a hmem
    rcases hsame _ hmem with hold | hnew
    · exact Discovery.mutexFree_iff.1 hfree a hold
    · cases hnew
  rw [← hdetails] at hunknown
  obtain ⟨c, hc, hlive, hawake⟩ :=
    (hs.evtHandler ht).up (hcallback.trans hidle) hne hunknown hflag
  obtain ⟨i, hi⟩ := List.mem_iff_getElem?.1 hc
  exact ⟨i, fetch_known hfree' hflag hunknown hi hlive hawake hanswer⟩

end

/-- The network of the LNF service. -/
def lnfOnly (ssid : CStr) : Bool := ssid = "lnf".toList

/-- A first fetch gets nothing. -/
def joinNothing : List Happening :=
  [.connect "home".toList "office".toList, .callback true, .callback true,
    .collector 0 .noMemory, .collector 0 .noMemory, .connect "office".toList "lnf".toList]

def joined : Discovery where
  details := .clear
  bsignalAPDetailsReady := false
  apDetailsBuffLength := 0
  registered := true
  callback := .idle
  collectors := [.fetched false]

theorem calm_joinNothing :
    StepsMeet (Discovery.step lnfOnly) Calm .init joinNothing := by
  refine ⟨trivial, fun _ hconnect => ?_⟩
  cases hconnect
  refine ⟨⟨fun _ => rfl, nofun⟩, fun _ hcollect => ?_⟩
  cases hcollect
  refine ⟨⟨nofun, fun _ h => (by simp [Discovery.init] at h)⟩, fun _ hregister => ?_⟩
  cases hregister
  refine ⟨trivial, fun _ hcall => ?_⟩
  cases hcall
  refine ⟨trivial, fun _ hstore => ?_⟩
  cases hstore
  exact ⟨trivial, fun _ _ => trivial⟩

theorem details_sought_joined :
    joined.registered = true ∧
      (joined.mutexFree = true → ∃ waiter t,
        joined.step lnfOnly (.announce 10 waiter) = some t) ∧
      ∀ waiter t, joined.step lnfOnly (.announce 10 waiter) = some t → ∀ answer : Answer,
        answer.Names → ∃ i k u,
          run (Discovery.step lnfOnly) t (List.replicate k (.collector i answer)) = some u ∧
            u.details.Known :=
  details_sought lnfOnly joinNothing joined calm_joinNothing rfl rfl (List.cons_ne_nil _ _)
    (by decide) 10

/-- The devices that a collector was told of and has not copied from yet. -/
def Collector.told : Collector → Option CJSON
  | fetching (.devices array) => array
  | _ => none

def Discovery.told (s : Discovery) : List CJSON := s.collectors.filterMap Collector.told

/-- The collector calls for the devices in its next step. -/
def Discovery.calls (s : Discovery) (i : Nat) : Bool :=
  s.mutexFree && s.bsignalAPDetailsReady &&
    match s.collectors[i]? with
    | some .loop | some .woken => true
    | _ => false

section
variable (lafIsLnfssid : CStr → Bool)

/-- What collectors were told, from the last connection to another network on; what one of them has
not copied from by then is part of it. -/
def seen (s : Discovery) (roots : List CJSON) : Happening → List CJSON
  | .connect savedSsid ap_SSID => if clears lafIsLnfssid savedSsid ap_SSID then s.told else roots
  | .collector i (.devices (some rootJson)) => if s.calls i then roots ++ [rootJson] else roots
  | _ => roots

def seenIn (s : Discovery) (roots : List CJSON) : List Happening → List CJSON
  | [] => roots
  | e :: happenings =>
    match s.step lafIsLnfssid e with
    | none => roots
    | some t => seenIn t (seen lafIsLnfssid s roots e) happenings

end

/-- A detail is one of the first XB gateway of something that was seen. -/
def Announced (roots : List CJSON) (key : String) (detail : CharArray 32) : Prop :=
  detail.str ≠ [] → ∃ rootJson ∈ roots, ∃ g value,
    xbGateway rootJson = some g ∧ g.text key = some value ∧ detail = strcpyS value

structure Details.Announced (d : Details) (roots : List CJSON) : Prop where
  model : ApDetails.Announced roots "modelClass" d.deviceModel
  make : ApDetails.Announced roots "make" d.deviceMake
  mac : ApDetails.Announced roots "bcastMacAddress" d.deviceMACAddr

theorem Announced.mono (h : Announced roots key detail) (hsub : roots ⊆ roots') :
    Announced roots' key detail := by
  intro hne
  obtain ⟨rootJson, hmem, hg⟩ := h hne
  exact ⟨rootJson, hsub hmem, hg⟩

theorem Announced.store (h : Announced roots key old) (hmem : rootJson ∈ roots)
    (hg : xbGateway rootJson = some g) : Announced roots key (store old (g.text key)) := by
  cases hvalue : g.text key with
  | none => exact h
  | some value =>
    intro _
    exact ⟨rootJson, hmem, g, value, hg, hvalue, rfl⟩

theorem Details.Announced.mono {d : Details} (h : d.Announced roots) (hsub : roots ⊆ roots') :
    d.Announced roots' :=
  ⟨h.model.mono hsub, h.make.mono hsub, h.mac.mono hsub⟩

theorem announced_clear (roots : List CJSON) : Details.clear.Announced roots :=
  ⟨fun hne => absurd rfl hne, fun hne => absurd rfl hne, fun hne => absurd rfl hne⟩

theorem Details.Announced.copy {d : Details} (h : d.Announced roots)
    (htold : ∀ rootJson ∈ (Collector.fetching answer).told, rootJson ∈ roots) :
    (getAPDetails answer d).2.Announced roots := by
  rcases getAPDetails_cases answer d with hsame | ⟨rootJson, g, rfl, hg, htake⟩
  · rw [hsame]
    exact h
  · have hmem : rootJson ∈ roots := htold rootJson rfl
    rw [htake]
    exact ⟨h.model.store hmem hg, h.make.store hmem hg, h.mac.store hmem hg⟩

/-- What is known and what is about to be copied was seen. -/
structure Seen (s : Discovery) (roots : List CJSON) : Prop where
  known : s.details.Announced roots
  told : s.told ⊆ roots

theorem told_of_mem {s : Discovery} (hc : c ∈ s.collectors) (h : c.told = some rootJson) :
    rootJson ∈ s.told := List.mem_filterMap.2 ⟨c, hc, h⟩

theorem told_subset {s t : Discovery}
    (h : ∀ c ∈ t.collectors, c ∈ s.collectors ∨ c.told = none) : t.told ⊆ s.told := by
  intro rootJson hmem
  obtain ⟨c, hc, htold⟩ := List.mem_filterMap.1 hmem
  rcases h c hc with hold | hnone
  · exact told_of_mem hold htold
  · rw [hnone] at htold
    cases htold

theorem told_set {s t : Discovery} (hcollectors : t.collectors = s.collectors.set i c')
    (hc' : c'.told = none) : t.told ⊆ s.told := by
  apply told_subset
  intro c hc
  rw [hcollectors] at hc
  rcases List.mem_or_eq_of_mem_set hc with hold | rfl
  · exact Or.inl hold
  · exact Or.inr hc'

theorem roots_subset_seen (lafIsLnfssid : CStr → Bool) (s : Discovery) (roots : List CJSON)
    (i : Nat) (answer : Answer) :
    roots ⊆ seen lafIsLnfssid s roots (.collector i answer) := by
  cases answer with
  | noMemory => exact List.Subset.refl roots
  | devices array =>
    cases array with
    | none => exact List.Subset.refl roots
    | some rootJson =>
      rw [seen]
      split
      · exact List.subset_append_left _ _
      · exact List.Subset.refl roots

theorem Seen.test {s : Discovery} (h : Seen s roots)
    (hi : s.collectors[i]? = some .loop ∨ s.collectors[i]? = some .woken)
    (hstep : s.test i answer = some t) :
    Seen t (seen lafIsLnfssid s roots (.collector i answer)) := by
  have hsub := roots_subset_seen lafIsLnfssid s roots i answer
  rw [Discovery.test] at hstep
  split at hstep
  case isTrue => cases hstep
  case isFalse hfree =>
    split at hstep
    case isTrue hflag =>
      cases hstep
      have hcalls : s.calls i = true := by
        have hfree : s.mutexFree = true := by simpa using hfree
        rw [Discovery.calls, hfree, hflag]
        rcases hi with hi | hi
        · rw [hi]
          rfl
        · rw [hi]
          rfl
      refine ⟨h.known.mono hsub, fun rootJson hmem => ?_⟩
      obtain ⟨c, hc, htold⟩ := List.mem_filterMap.1 hmem
      rcases List.mem_or_eq_of_mem_set hc with hold | rfl
      · exact hsub (h.told (told_of_mem hold htold))
      · cases answer with
        | noMemory => cases htold
        | devices array =>
          cases htold
          rw [seen, if_pos hcalls]
          exact List.mem_append_right _ List.mem_cons_self
    case isFalse =>
      cases hstep
      exact ⟨h.known.mono hsub, fun _ hmem => hsub (h.told (told_set rfl rfl hmem))⟩

theorem Seen.step {s : Discovery} (h : Seen s roots) (hstep : s.step lafIsLnfssid e = some t) :
    Seen t (seen lafIsLnfssid s roots e) := by
  cases e with
  | connect savedSsid ap_SSID =>
    rw [Discovery.step, Discovery.connect] at hstep
    rw [seen]
    split at hstep
    case isTrue =>
      split at hstep
      case isTrue hclears =>
        cases hstep
        rw [if_pos hclears]
        exact ⟨announced_clear _, List.Subset.refl _⟩
      case isFalse hclears =>
        cases hstep
        rw [if_neg hclears]
        exact h
    case isFalse => cases hstep
  | callback created =>
    rw [Discovery.step, Discovery.callbackStep] at hstep
    split at hstep
    · cases hstep
    · cases hstep
      refine ⟨h.known, fun _ hmem => h.told (told_subset ?_ hmem)⟩
      intro c hc
      dsimp only at hc
      split at hc
      · rcases List.mem_append.1 hc with hold | hnew
        · exact Or.inl hold
        · rw [List.mem_singleton.1 hnew]
          exact Or.inr rfl
      · exact Or.inl hc
    · cases hstep
      exact ⟨h.known, h.told⟩
  | announce deviceInfoLength waiter =>
    obtain ⟨_, hdetails, _, _, _, hsame⟩ := evtHandler_keeps hstep
    refine ⟨hdetails ▸ h.known, fun _ hmem => h.told (told_subset ?_ hmem)⟩
    intro c hc
    rcases hsame c hc with hold | rfl
    · exact Or.inl hold
    · exact Or.inr rfl
  | collector i answer =>
    have hsub := roots_subset_seen lafIsLnfssid s roots i answer
    rw [Discovery.step, Discovery.getAPMakeAndModel] at hstep
    cases hi : s.collectors[i]? with
    | none =>
      rw [hi] at hstep
      cases hstep
    | some c =>
      rw [hi] at hstep
      cases c with
      | loop => exact h.test (.inl hi) hstep
      | woken => exact h.test (.inr hi) hstep
      | asleep =>
        cases hstep
        exact ⟨h.known.mono hsub, fun _ hmem => hsub (h.told (told_set rfl rfl hmem))⟩
      | fetching held =>
        cases hstep
        have hheld : ∀ rootJson ∈ (Collector.fetching held).told, rootJson ∈ roots :=
          fun rootJson htold => h.told (told_of_mem (List.mem_of_getElem? hi) htold)
        exact ⟨(h.known.copy hheld).mono hsub,
          fun _ hmem => hsub (h.told (told_set rfl rfl hmem))⟩
      | fetched ret =>
        cases hstep
        refine ⟨h.known.mono hsub, fun _ hmem => hsub (h.told (told_set rfl ?_ hmem))⟩
        split
        · rfl
        · rfl
      | leaving =>
        cases hstep
        exact ⟨h.known.mono hsub, fun _ hmem => hsub (h.told (told_set rfl rfl hmem))⟩
      | exited => cases hstep

theorem Seen.run {s : Discovery} (h : Seen s roots)
    (hrun : run (Discovery.step lafIsLnfssid) s happenings = some t) :
    Seen t (seenIn lafIsLnfssid s roots happenings) := by
  induction happenings generalizing s roots with
  | nil =>
    cases hrun
    exact h
  | cons e happenings ih =>
    obtain ⟨u, hu, hrest⟩ := Option.bind_eq_some_iff.1 hrun
    rw [seenIn, hu]
    exact ih (h.step hu) hrest

/-- The details that are known are those of the first XB gateway of something that a collector was
told since the last connection to another network, or was about to copy then. -/
theorem details_announced (lafIsLnfssid : CStr → Bool) (happenings : List Happening)
    (s : Discovery) (h : run (Discovery.step lafIsLnfssid) .init happenings = some s) :
    s.details.Announced (seenIn lafIsLnfssid .init [] happenings) := by
  have hinit : Seen .init [] := ⟨announced_clear [], List.Subset.refl _⟩
  exact (hinit.run h).known

def gateway (model make : String) : Answer :=
  .devices (some (.item none none [.item (some "xmediagateways".toList) none
    [.item none none [.member "DevType" "XB6", .member "modelClass" model,
      .member "make" make]]]))

/-- The details of one gateway are copied; of the next network, the ones of another. -/
def twoGateways : List Happening :=
  [.connect "home".toList "office".toList, .callback true, .callback true,
    .collector 0 (gateway "TG1682" "ARRIS"), .collector 0 .noMemory,
    .connect "office".toList "shop".toList, .callback true, .callback true, .announce 10 0,
    .collector 1 (gateway "CGM4140" "Technicolor"), .collector 1 .noMemory]

theorem details_announced_twoGateways : ∃ s,
    run (Discovery.step lnfOnly) .init twoGateways = some s ∧
      s.details.deviceModel = strcpyS "CGM4140".toList ∧
      s.details.Announced (seenIn lnfOnly .init [] twoGateways) :=
  ⟨_, rfl, rfl, details_announced lnfOnly twoGateways _ rfl⟩

end NetSrvMgr.ApDetails
