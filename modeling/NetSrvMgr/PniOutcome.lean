import NetSrvMgr.PniController

namespace NetSrvMgr.Pni
open CString Script
set_option autoImplicit true

def Names.other (n : Names) (dev : CStr) : CStr := if dev = n.ethernet then n.wifi else n.ethernet

theorem Names.other_ethernet (n : Names) : n.other n.ethernet = n.wifi := if_pos rfl

theorem Names.other_wifi (n : Names) : n.other n.wifi = n.ethernet := if_neg n.distinct.symm

theorem Names.other_mem (n : Names) (dev : CStr) :
    n.other dev = n.ethernet ∨ n.other dev = n.wifi := by
  rw [Names.other]
  split
  · exact .inr rfl
  · exact .inl rfl

theorem Names.other_ne (n : Names) (hdev : dev = n.ethernet ∨ dev = n.wifi) :
    n.other dev ≠ dev := by
  rcases hdev with rfl | rfl
  · rw [Names.other, if_pos rfl]
    exact n.distinct.symm
  · rw [Names.other, if_neg n.distinct.symm]
    exact n.distinct

/-- No DHCP client was left started on the interface, and no IPv4 address unflushed. -/
def Idle (dev : CStr) (s : Asked) : Prop := s.dhcp dev = false ∧ s.address dev = false

/-- The command asks for an IPv4 address on the interface. -/
def Command.configures (dev : CStr) : Command → Prop
  | .systemctlStart _ d => d = dev
  | .ifconfig d _ _ _ => d = dev
  | _ => False

theorem Idle.update_false {f : CStr → Bool} (d : CStr) (h : f dev = false) :
    Function.update f d false dev = false := by
  rw [Function.update_apply]
  split
  · rfl
  · exact h

theorem Idle.note (hs : Idle dev s) (hc : ¬c.configures dev) : Idle dev (s.note c) := by
  obtain ⟨hdhcp, haddress⟩ := hs
  cases c with
  | systemctlStop unit d => exact ⟨Idle.update_false d hdhcp, haddress⟩
  | systemctlStart unit d =>
    have hd : dev ≠ d := fun h => hc h.symm
    exact ⟨(Function.update_of_ne hd _ _).trans hdhcp,
      (Function.update_of_ne hd _ _).trans haddress⟩
  | ipAddrFlush family d =>
    rw [Asked.note]
    split
    · exact ⟨hdhcp, Idle.update_false d haddress⟩
    · exact ⟨hdhcp, haddress⟩
  | ifconfig d interface ip netmask =>
    have hd : dev ≠ d := fun h => hc h.symm
    exact ⟨hdhcp, (Function.update_of_ne hd _ _).trans haddress⟩
  | _ => exact ⟨hdhcp, haddress⟩

section

variable (n : Names) (e : Setup)

theorem ipv4ConfigureInterface_apply (dev : CStr) (sh : Shell) :
    ∃ v, ipv4ConfigureInterface n e dev sh =
      (if e.manualIPSettingsEnable && (ipSettingsFile n e dev).any (!·.isEmpty) then
        applyManualip n e dev v
      else ipv4ConfigureDhcpip n e dev, some ((), ⟨v, sh.tests⟩)) := by
  rw [ipv4ConfigureInterface]
  cases e.manualIPSettingsEnable with
  | false => exact ⟨sh.vars, rfl⟩
  | true =>
    rw [if_pos rfl, Bool.true_and, ipv4ConfigureManualip]
    cases hfile : ipSettingsFile n e dev with
    | none => exact ⟨sh.vars, rfl⟩
    | some file =>
      cases file with
      | nil => exact ⟨sh.vars, rfl⟩
      | cons c file => exact ⟨sh.vars.readFile (c :: file), rfl⟩

/-- Whether an attempt has to wait for the outcome of a connectivity test. -/
def needsTest (pniEnabled : Bool) : Bool := pniEnabled && !e.configDisableConnectivityTest

def configureCommands (pniEnabled : Bool) (dev : CStr) (v : Vars) : List Command :=
  ipv6ConfigureInterface dev ++
    ((if e.manualIPSettingsEnable && (ipSettingsFile n e dev).any (!·.isEmpty) then
        applyManualip n e dev v
      else ipv4ConfigureDhcpip n e dev) ++
      ((if e.runLinkLocalServices then [.restartLinkLocalServices dev] else []) ++
        if needsTest e pniEnabled then [.testConnectivity dev 2000 15] else []))

/-- How an attempt ends: by the next outcome, where it has to wait for one. -/
def attemptResult (pniEnabled : Bool) (v : Vars) (tests : List Bool) : Option (Bool × Shell) :=
  if needsTest e pniEnabled then tests.head?.map fun passed => (passed, ⟨v, tests.tail⟩)
  else some (true, ⟨v, tests⟩)

theorem testConnectivity_apply (dev : CStr) (v : Vars) (tests : List Bool) :
    testConnectivity dev 2000 15 ⟨v, tests⟩ =
      ([.testConnectivity dev 2000 15],
        tests.head?.map fun passed => (passed, ⟨v, tests.tail⟩)) := by
  cases tests with
  | nil => rfl
  | cons passed tests => rfl

theorem configureInterface_apply (pniEnabled : Bool) (dev : CStr) (sh : Shell) :
    ∃ v, configureInterface n e pniEnabled dev sh =
      (configureCommands n e pniEnabled dev v, attemptResult e pniEnabled v sh.tests) := by
  obtain ⟨v, hv⟩ := ipv4ConfigureInterface_apply n e dev sh
  refine ⟨v, ?_⟩
  rw [configureInterface, issue_bind, bind_of_some hv, issue_bind, configureCommands,
    attemptResult, needsTest]
  cases pniEnabled with
  | false => rfl
  | true =>
    cases e.configDisableConnectivityTest with
    | true => rfl
    | false =>
      simp only [Bool.not_true, Bool.false_or, Bool.true_and, Bool.not_false, if_true,
        Bool.false_eq_true, if_false, testConnectivity_apply]

theorem not_configures_of_mem (hd : dev ≠ d) :
    ∀ c ∈ configureCommands n e pniEnabled dev v, ¬c.configures d := by
  have hmanual : ∀ c ∈ applyManualip n e dev v, ¬c.configures d := by
    simp [applyManualip, ipv4DeconfigureDhcpip, Command.configures, hd]
  have hdhcp : ∀ c ∈ ipv4ConfigureDhcpip n e dev, ¬c.configures d := by
    simp [ipv4ConfigureDhcpip, Command.configures, hd]
  intro c hc
  simp only [configureCommands, List.mem_append] at hc
  rcases hc with hc | hc | hc | hc
  · cases List.mem_singleton.1 hc
    exact id
  · split at hc
    · exact hmanual c hc
    · exact hdhcp c hc
  · split at hc
    · cases List.mem_singleton.1 hc
      exact id
    · cases hc
  · split at hc
    · cases List.mem_singleton.1 hc
      exact id
    · cases hc

/-- The same was asked for, but for one interface. -/
structure SameOff (dev : CStr) (s t : Asked) : Prop where
  files : t.files = s.files
  link : ∀ d, d ≠ dev → t.link d = s.link d
  wifiEnabled : t.wifiEnabled = s.wifiEnabled
  dhcp : ∀ d, d ≠ dev → t.dhcp d = s.dhcp d
  address : ∀ d, d ≠ dev → t.address d = s.address d
  ipv6Disabled : ∀ d, d ≠ dev → t.ipv6Disabled d = s.ipv6Disabled d

theorem configureCommands_state (pniEnabled : Bool) (dev : CStr) (v : Vars) (s : Asked) :
    SameOff dev s ((configureCommands n e pniEnabled dev v).foldl Asked.note s) ∧
      (s.link dev = some true →
        ((configureCommands n e pniEnabled dev v).foldl Asked.note s).link dev = some true) ∧
      ((configureCommands n e pniEnabled dev v).foldl Asked.note s).address dev = true ∧
      ((configureCommands n e pniEnabled dev v).foldl Asked.note s).ipv6Disabled dev =
        some false := by
  rw [configureCommands, ipv6ConfigureInterface, applyManualip, ipv4DeconfigureDhcpip,
    ipv4ConfigureDhcpip]
  split_ifs <;> simp [Asked.note] <;> constructor <;> simp +contextual

theorem deconfigureInterface_state (dev : CStr) (s : Asked) :
    SameOff dev s ((deconfigureInterface n e dev).foldl Asked.note s) ∧
      ((deconfigureInterface n e dev).foldl Asked.note s).link = s.link ∧
      Idle dev ((deconfigureInterface n e dev).foldl Asked.note s) ∧
      ((deconfigureInterface n e dev).foldl Asked.note s).ipv6Disabled dev = some true := by
  rw [deconfigureInterface, ipv4DeconfigureInterface, ipv4DeconfigureDhcpip,
    flushRoutesAndAddresses, ipv6DeconfigureInterface]
  simp [Asked.note, Idle]
  constructor <;> simp +contextual

/-- What leads up to the configuration of an interface. -/
def prelude (dev : CStr) : List Command :=
  if dev = n.ethernet then
    [.rmTmp "ani_wifi".toList, .rmTmp "wifi-on".toList] ++ setInterfaceState n.ethernet true ++
      deconfigureInterface n e n.wifi
  else
    [.touchTmp "ani_wifi".toList, .touchTmp "wifi-on".toList] ++ setWifiState n true ++
      deconfigureInterface n e n.ethernet

/-- What follows on an attempt that passed. -/
def postlude (pniEnabled : Bool) (dev : CStr) : List Command :=
  if dev = n.ethernet then
    if !pniEnabled || !e.configAllowPniToDisableWifi then [] else setWifiState n false
  else []

def attemptCommands (pniEnabled : Bool) (dev : CStr) (v : Vars) (tests : List Bool) :
    List Command :=
  prelude n e dev ++ (configureCommands n e pniEnabled dev v ++
    if (attemptResult e pniEnabled v tests).any Prod.fst then postlude n e pniEnabled dev else [])

theorem tryInterface_apply (pniEnabled : Bool) (hdev : dev = n.ethernet ∨ dev = n.wifi)
    (sh : Shell) : ∃ v, tryInterface n e pniEnabled dev sh =
      (attemptCommands n e pniEnabled dev v sh.tests,
        attemptResult e pniEnabled v sh.tests) := by
  obtain ⟨v, hv⟩ := configureInterface_apply n e pniEnabled dev sh
  refine ⟨v, ?_⟩
  rw [tryInterface, attemptCommands, prelude, postlude]
  rcases hdev with rfl | rfl
  · simp only [if_true, tryEthernet, issue_bind]
    rcases hres : attemptResult e pniEnabled v sh.tests with _ | ⟨passed, sh'⟩
    · rw [hres] at hv
      rw [bind_of_none hv]
      simp
    · rw [hres] at hv
      rw [bind_of_some hv]
      cases passed with
      | false => simp [pure_apply]
      | true => simp [pure_apply]
  · simp only [if_neg n.distinct.symm, tryWifi, issue_bind, hv, ite_self, List.append_nil]

/-- What was asked for before an interface is configured. -/
structure Prepared (n : Names) (dev : CStr) (s t : Asked) : Prop where
  up : t.link dev = some true
  otherUp : t.link (n.other dev) = s.link (n.other dev)
  otherIdle : Idle (n.other dev) t
  otherIpv6 : t.ipv6Disabled (n.other dev) = some true
  marker : t.files.tmp "ani_wifi".toList = decide (dev = n.wifi)
  wifiEnabled : t.wifiEnabled = (decide (dev = n.wifi) || s.wifiEnabled)

theorem prelude_state (hdev : dev = n.ethernet ∨ dev = n.wifi) (s : Asked) :
    Prepared n dev s ((prelude n e dev).foldl Asked.note s) := by
  rcases hdev with rfl | rfl
  · obtain ⟨hoff, hlink, hidle, hipv6⟩ := deconfigureInterface_state n e n.wifi
      (([Command.rmTmp "ani_wifi".toList, .rmTmp "wifi-on".toList] ++
        setInterfaceState n.ethernet true).foldl Asked.note s)
    rw [prelude, if_pos rfl, List.foldl_append]
    have hother : n.other n.ethernet = n.wifi := if_pos rfl
    constructor
    · rw [hlink]
      simp [setInterfaceState, Asked.note]
    · rw [hlink, hother]
      simp [setInterfaceState, Asked.note, n.distinct.symm]
    · rw [hother]
      exact hidle
    · rw [hother]
      exact hipv6
    · rw [hoff.files]
      simp [setInterfaceState, Asked.note, n.distinct]
    · rw [hoff.wifiEnabled]
      simp [setInterfaceState, Asked.note, n.distinct]
  · obtain ⟨hoff, hlink, hidle, hipv6⟩ := deconfigureInterface_state n e n.ethernet
      (([Command.touchTmp "ani_wifi".toList, .touchTmp "wifi-on".toList] ++
        setWifiState n true).foldl Asked.note s)
    rw [prelude, if_neg n.distinct.symm, List.foldl_append]
    have hother : n.other n.wifi = n.ethernet := if_neg n.distinct.symm
    constructor
    · rw [hlink]
      simp [setWifiState, setInterfaceState, wpaSupplicantEnable, Asked.note]
    · rw [hlink, hother]
      simp [setWifiState, setInterfaceState, wpaSupplicantEnable, Asked.note, n.distinct]
    · rw [hother]
      exact hidle
    · rw [hother]
      exact hipv6
    · rw [hoff.files]
      simp [setWifiState, setInterfaceState, wpaSupplicantEnable, Asked.note]
    · rw [hoff.wifiEnabled]
      simp [setWifiState, setInterfaceState, wpaSupplicantEnable, Asked.note]

/-- The commands have put an interface into use, and the other one out of it. -/
structure InUse (n : Names) (dev : CStr) (s : Asked) : Prop where
  up : s.link dev = some true
  configured : ¬Idle dev s
  ipv6 : s.ipv6Disabled dev = some false
  otherIdle : Idle (n.other dev) s
  otherIpv6 : s.ipv6Disabled (n.other dev) = some true
  marker : s.files.tmp "ani_wifi".toList = decide (dev = n.wifi)

theorem configured_state (hdev : dev = n.ethernet ∨ dev = n.wifi) (pniEnabled : Bool) (v : Vars)
    (h : Prepared n dev s t) :
    InUse n dev ((configureCommands n e pniEnabled dev v).foldl Asked.note t) ∧
      ((configureCommands n e pniEnabled dev v).foldl Asked.note t).link (n.other dev) =
        t.link (n.other dev) ∧
      ((configureCommands n e pniEnabled dev v).foldl Asked.note t).wifiEnabled =
        t.wifiEnabled := by
  obtain ⟨hoff, hup, haddress, hipv6⟩ := configureCommands_state n e pniEnabled dev v t
  have hne := n.other_ne hdev
  refine ⟨?_, hoff.link _ hne, hoff.wifiEnabled⟩
  constructor
  · exact hup h.up
  · intro hidle
    exact Bool.noConfusion (haddress.symm.trans hidle.2)
  · exact hipv6
  · exact ⟨(hoff.dhcp _ hne).trans h.otherIdle.1, (hoff.address _ hne).trans h.otherIdle.2⟩
  · exact (hoff.ipv6Disabled _ hne).trans h.otherIpv6
  · rw [hoff.files, h.marker]

/-- Whether an attempt ends with WiFi switched off. -/
def switchesOff (pniEnabled : Bool) (dev : CStr) (tests : List Bool) : Bool :=
  decide (dev = n.ethernet) && pniEnabled && e.configAllowPniToDisableWifi &&
    (!needsTest e pniEnabled || tests.head? = some true)

theorem attemptResult_passed (pniEnabled : Bool) (v : Vars) (tests : List Bool) :
    (attemptResult e pniEnabled v tests).any Prod.fst =
      (!needsTest e pniEnabled || tests.head? = some true) := by
  rw [attemptResult]
  cases needsTest e pniEnabled with
  | false => rfl
  | true =>
    cases tests with
    | nil => rfl
    | cons passed tests => cases passed <;> rfl

theorem postlude_eq (pniEnabled : Bool) (dev : CStr) (v : Vars) (tests : List Bool) :
    (if (attemptResult e pniEnabled v tests).any Prod.fst then postlude n e pniEnabled dev
      else []) =
    if switchesOff n e pniEnabled dev tests then setWifiState n false else [] := by
  rw [attemptResult_passed, postlude, switchesOff]
  by_cases hdev : dev = n.ethernet
  · cases pniEnabled with
    | false => simp
    | true => cases e.configAllowPniToDisableWifi <;> simp [hdev]
  · simp [hdev]

theorem InUse.setWifiState_false (h : InUse n n.ethernet s) :
    InUse n n.ethernet ((setWifiState n false).foldl Asked.note s) where
  up := (Function.update_of_ne n.distinct _ _).trans h.up
  configured := h.configured
  ipv6 := h.ipv6
  otherIdle := h.otherIdle
  otherIpv6 := h.otherIpv6
  marker := h.marker

/-- An attempt leaves the interface in use; with the feature on, one on Ethernet that passes may
end with WiFi switched off. -/
theorem attempt_state (hdev : dev = n.ethernet ∨ dev = n.wifi) (pniEnabled : Bool) (v : Vars)
    (tests : List Bool) (s : Asked) :
    InUse n dev ((attemptCommands n e pniEnabled dev v tests).foldl Asked.note s) ∧
      ((attemptCommands n e pniEnabled dev v tests).foldl Asked.note s).wifiEnabled =
        ((decide (dev = n.wifi) || s.wifiEnabled) && !switchesOff n e pniEnabled dev tests) ∧
      (pniEnabled = false →
        ((attemptCommands n e pniEnabled dev v tests).foldl Asked.note s).link (n.other dev) =
          s.link (n.other dev)) := by
  have hprep := prelude_state n e hdev s
  obtain ⟨huse, hlink, hwifi⟩ := configured_state n e hdev pniEnabled v hprep
  rw [attemptCommands, List.foldl_append, List.foldl_append, postlude_eq]
  cases hoff : switchesOff n e pniEnabled dev tests with
  | false =>
    refine ⟨huse, ?_, fun _ => ?_⟩
    · rw [Bool.not_false, Bool.and_true, ← hprep.wifiEnabled]
      exact hwifi
    · rw [← hprep.otherUp]
      exact hlink
  | true =>
    rw [switchesOff] at hoff
    simp only [Bool.and_eq_true, decide_eq_true_eq] at hoff
    obtain ⟨⟨⟨rfl, hpni⟩, _⟩, _⟩ := hoff
    refine ⟨huse.setWifiState_false, ?_, fun hfalse => ?_⟩
    · rw [Bool.not_true, Bool.and_false]
      rfl
    · rw [hpni] at hfalse
      cases hfalse

/-- Which interface the loop ends with, by the first outcome that is a success. -/
def loopChoice (pni nonpni : CStr) (tests : List Bool) : Option CStr :=
  if needsTest e true then
    (tests.findIdx? id).map fun i => if i % 2 = 0 then pni else nonpni
  else some pni

theorem loopChoice_cons_cons (pni nonpni : CStr) (tests : List Bool)
    (h : needsTest e true = true) :
    loopChoice e pni nonpni (false :: false :: tests) = loopChoice e pni nonpni tests := by
  rw [loopChoice, loopChoice, if_pos h, if_pos h, List.findIdx?_cons, List.findIdx?_cons]
  simp only [id, Bool.false_eq_true, if_false, Option.map_map]
  congr 1
  funext i
  simp only [Function.comp_apply]
  have hmod : (i + 1 + 1) % 2 = i % 2 := by omega
  simp only [hmod]

theorem pniLoop_succ_passed {sh' : Shell} (nonpni : CStr) (rounds : Nat)
    (h : tryInterface n e true pni sh = (cs, some (true, sh'))) :
    pniLoop n e pni nonpni (rounds + 1) sh = (cs, some ((), sh')) := by
  rw [pniLoop, bind_of_some h, if_pos rfl, pure_apply, List.append_nil]

theorem pniLoop_succ_second {sh' sh'' : Shell} (rounds : Nat)
    (h : tryInterface n e true pni sh = (cs, some (false, sh')))
    (h' : tryInterface n e true nonpni sh' = (ds, some (true, sh''))) :
    pniLoop n e pni nonpni (rounds + 1) sh = (cs ++ ds, some ((), sh'')) := by
  rw [pniLoop, bind_of_some h, if_neg Bool.false_ne_true, bind_of_some h', if_pos rfl, pure_apply,
    List.append_nil]

theorem pniLoop_succ_failed {sh' sh'' : Shell} (rounds : Nat)
    (h : tryInterface n e true pni sh = (cs, some (false, sh')))
    (h' : tryInterface n e true nonpni sh' = (ds, some (false, sh''))) :
    pniLoop n e pni nonpni (rounds + 1) sh =
      (cs ++ (ds ++ ([.sleep 10] ++ (pniLoop n e pni nonpni rounds sh'').1)),
        (pniLoop n e pni nonpni rounds sh'').2) := by
  rw [pniLoop, bind_of_some h, if_neg Bool.false_ne_true, bind_of_some h',
    if_neg Bool.false_ne_true, issue_bind]

theorem pniLoop_succ_blocked (nonpni : CStr) (rounds : Nat)
    (h : tryInterface n e true pni sh = (cs, none)) :
    pniLoop n e pni nonpni (rounds + 1) sh = (cs, none) := by
  rw [pniLoop, bind_of_none h]

theorem pniLoop_succ_blocked_second {sh' : Shell} (rounds : Nat)
    (h : tryInterface n e true pni sh = (cs, some (false, sh')))
    (h' : tryInterface n e true nonpni sh' = (ds, none)) :
    pniLoop n e pni nonpni (rounds + 1) sh = (cs ++ ds, none) := by
  rw [pniLoop, bind_of_some h, if_neg Bool.false_ne_true, bind_of_none h']

theorem tryInterface_tested (hdev : dev = n.ethernet ∨ dev = n.wifi)
    (h : needsTest e true = true) (w : Vars) (passed : Bool) (tests : List Bool) :
    ∃ v, tryInterface n e true dev ⟨w, passed :: tests⟩ =
      (attemptCommands n e true dev v (passed :: tests), some (passed, ⟨v, tests⟩)) := by
  obtain ⟨v, hv⟩ := tryInterface_apply n e true hdev ⟨w, passed :: tests⟩
  refine ⟨v, hv.trans ?_⟩
  rw [attemptResult, if_pos h]
  rfl

theorem tryInterface_waiting (hdev : dev = n.ethernet ∨ dev = n.wifi)
    (h : needsTest e true = true) (w : Vars) :
    ∃ cs, tryInterface n e true dev ⟨w, []⟩ = (cs, none) := by
  obtain ⟨v, hv⟩ := tryInterface_apply n e true hdev ⟨w, []⟩
  refine ⟨attemptCommands n e true dev v [], hv.trans ?_⟩
  rw [attemptResult, if_pos h]
  rfl

theorem wifiEnabled_of_wifi (w : Bool) (tests : List Bool) :
    ((decide (n.wifi = n.wifi) || w) && !switchesOff n e true n.wifi tests) = true := by
  rw [switchesOff]
  simp [n.distinct.symm]

theorem attempt_wifiEnabled (hdev : dev = n.ethernet ∨ dev = n.wifi) (tests : List Bool)
    (hpassed : (!needsTest e true || tests.head? = some true) = true)
    (hs : e.configAllowPniToDisableWifi = false → dev = n.ethernet → w = true) :
    ((decide (dev = n.wifi) || w) && !switchesOff n e true dev tests) =
      (decide (dev = n.wifi) || !e.configAllowPniToDisableWifi) := by
  rw [switchesOff, hpassed]
  rcases hdev with rfl | rfl
  · cases hallow : e.configAllowPniToDisableWifi with
    | false => simp [hs hallow rfl]
    | true => simp [n.distinct]
  · simp [n.distinct.symm]

theorem pniLoop_state (rounds : Nat) (hpni : pni = n.ethernet ∨ pni = n.wifi) (sh : Shell)
    (hrounds : sh.tests.length < 2 * rounds) (s : Asked)
    (hs : e.configAllowPniToDisableWifi = false → pni = n.ethernet → s.wifiEnabled = true) :
    (pniLoop n e pni (n.other pni) rounds sh).2.isSome =
        (loopChoice e pni (n.other pni) sh.tests).isSome ∧
      ∀ dev ∈ loopChoice e pni (n.other pni) sh.tests,
        InUse n dev ((pniLoop n e pni (n.other pni) rounds sh).1.foldl Asked.note s) ∧
        ((pniLoop n e pni (n.other pni) rounds sh).1.foldl Asked.note s).wifiEnabled =
          (decide (dev = n.wifi) || !e.configAllowPniToDisableWifi) := by
  have hother := n.other_mem pni
  induction rounds generalizing sh s with
  | zero => omega
  | succ rounds ih =>
    obtain ⟨w, tests⟩ := sh
    cases hneeds : needsTest e true with
    | false =>
      obtain ⟨v, hv⟩ := tryInterface_apply n e true hpni ⟨w, tests⟩
      rw [attemptResult, hneeds] at hv
      rw [pniLoop_succ_passed n e _ rounds hv, loopChoice, hneeds]
      refine ⟨rfl, fun dev hdev => ?_⟩
      cases hdev
      obtain ⟨huse, hwifi, _⟩ := attempt_state n e hpni true v tests s
      exact ⟨huse, hwifi.trans (attempt_wifiEnabled n e hpni tests (by rw [hneeds]; rfl) hs)⟩
    | true =>
      rcases tests with _ | ⟨first, tests⟩
      · obtain ⟨cs, hcs⟩ := tryInterface_waiting n e hpni hneeds w
        rw [pniLoop_succ_blocked n e _ rounds hcs, loopChoice, if_pos hneeds]
        refine ⟨rfl, fun dev hdev => ?_⟩
        cases hdev
      obtain ⟨v, hv⟩ := tryInterface_tested n e hpni hneeds w first tests
      obtain ⟨huse, hwifi, _⟩ := attempt_state n e hpni true v (first :: tests) s
      cases first with
      | true =>
        rw [pniLoop_succ_passed n e _ rounds hv, loopChoice, if_pos hneeds]
        refine ⟨rfl, fun dev hdev => ?_⟩
        cases hdev
        refine ⟨huse, hwifi.trans (attempt_wifiEnabled n e hpni _ ?_ hs)⟩
        rw [hneeds]
        rfl
      | false =>
        generalize attemptCommands n e true pni v (false :: tests) = cs at hv huse hwifi
        rcases tests with _ | ⟨second, tests⟩
        · obtain ⟨ds, hds⟩ := tryInterface_waiting n e hother hneeds v
          rw [pniLoop_succ_blocked_second n e rounds hv hds, loopChoice, if_pos hneeds]
          refine ⟨rfl, fun dev hdev => ?_⟩
          cases hdev
        obtain ⟨v', hv'⟩ := tryInterface_tested n e hother hneeds v second tests
        obtain ⟨huse', hwifi', _⟩ :=
          attempt_state n e hother true v' (second :: tests) (cs.foldl Asked.note s)
        cases second with
        | true =>
          rw [pniLoop_succ_second n e rounds hv hv', loopChoice, if_pos hneeds]
          refine ⟨rfl, fun dev hdev => ?_⟩
          cases hdev
          rw [List.foldl_append]
          refine ⟨huse', hwifi'.trans (attempt_wifiEnabled n e hother _ ?_ ?_)⟩
          · rw [hneeds]
            rfl
          · intro _ heth
            rcases hpni with rfl | rfl
            · exact absurd heth (n.other_ne (.inl rfl))
            · exact hwifi.trans (wifiEnabled_of_wifi n e _ _)
        | false =>
          generalize attemptCommands n e true (n.other pni) v' (false :: tests) = ds
            at hv' huse' hwifi'
          rw [pniLoop_succ_failed n e rounds hv hv', loopChoice_cons_cons e _ _ _ hneeds]
          have htests : tests.length < 2 * rounds := by
            simp only [List.length_cons] at hrounds
            omega
          simp only [List.foldl_append]
          apply ih ⟨v', tests⟩ htests
          intro _ heth
          have hwifi_other : n.other pni = n.wifi := by
            rw [heth]
            exact if_pos rfl
          rw [hwifi_other] at hwifi'
          exact hwifi'.trans (wifiEnabled_of_wifi n e _ _)

/-- The interface that the attempts end with; none where they never end. -/
def choice (files : Iface.Files) (tests : List Bool) : Option CStr :=
  if files.tmp Iface.Marker.wifi_disallowed.filename then some n.ethernet
  else if files.tmp Iface.Marker.ethernet_disallowed.filename then some n.wifi
  else if !e.carrier then some n.wifi
  else if pniFeatureOff e then some n.ethernet
  else if files.tmp Iface.Marker.pni_wifi.filename then loopChoice e n.wifi n.ethernet tests
  else loopChoice e n.ethernet n.wifi tests

/-- Whether WiFi is enabled after the attempts. -/
def wifiWanted (files : Iface.Files) (dev : CStr) : Bool :=
  decide (dev = n.wifi) || !files.tmp Iface.Marker.wifi_disallowed.filename &&
    (pniFeatureOff e || !e.configAllowPniToDisableWifi)

theorem tryOnce_state (hdev : dev = n.ethernet ∨ dev = n.wifi) (cs : List Command) (sh : Shell)
    (s : Asked) :
    let r := (do issue cs; let _ ← tryInterface n e false dev : Script Command Shell Unit) sh
    let t := r.1.foldl Asked.note s
    r.2.isSome = true ∧ InUse n dev t ∧
      t.wifiEnabled = (decide (dev = n.wifi) || (cs.foldl Asked.note s).wifiEnabled) ∧
      t.link (n.other dev) = (cs.foldl Asked.note s).link (n.other dev) := by
  obtain ⟨v, hv⟩ := tryInterface_apply n e false hdev sh
  obtain ⟨huse, hwifi, hlink⟩ :=
    attempt_state n e hdev false v sh.tests (cs.foldl Asked.note s)
  have hres : attemptResult e false v sh.tests = some (true, ⟨v, sh.tests⟩) := rfl
  rw [hres] at hv
  dsimp only
  rw [issue_bind, bind_of_some hv, pure_apply, List.append_nil, List.foldl_append]
  refine ⟨rfl, huse, ?_, hlink rfl⟩
  rw [hwifi, switchesOff]
  simp

theorem setWifiState_state (up : Bool) (s : Asked) :
    ((setWifiState n up).foldl Asked.note s).link n.wifi = some up ∧
      ((setWifiState n up).foldl Asked.note s).wifiEnabled = up :=
  ⟨Function.update_self _ _ _, rfl⟩

/-- How the loop over both interfaces ends, whatever the rounds before the last one. -/
theorem runPniLoop_state (hpni : pni = n.ethernet ∨ pni = n.wifi) (sh : Shell) (s : Asked)
    (hs : e.configAllowPniToDisableWifi = false → pni = n.ethernet → s.wifiEnabled = true) :
    (runPniLoop n e pni (n.other pni) sh).2.isSome =
        (loopChoice e pni (n.other pni) sh.tests).isSome ∧
      ∀ dev ∈ loopChoice e pni (n.other pni) sh.tests,
        InUse n dev ((runPniLoop n e pni (n.other pni) sh).1.foldl Asked.note s) ∧
        ((runPniLoop n e pni (n.other pni) sh).1.foldl Asked.note s).wifiEnabled =
          (decide (dev = n.wifi) || !e.configAllowPniToDisableWifi) := by
  have hrounds : sh.tests.length < 2 * (sh.tests.length + 1) := by omega
  exact pniLoop_state n e (sh.tests.length + 1) hpni sh hrounds s hs

/-- What the markers and the settings ask for. -/
structure Outcome (files : Iface.Files) (tests : List Bool) (t : Asked) : Prop where
  wifiDown : files.tmp Iface.Marker.wifi_disallowed.filename = true →
    t.link n.wifi = some false ∧ t.wifiEnabled = false
  ethernetDown : files.tmp Iface.Marker.ethernet_disallowed.filename = true →
    t.link n.ethernet = some false
  inUse : (files.tmp Iface.Marker.ethernet_disallowed.filename &&
      files.tmp Iface.Marker.wifi_disallowed.filename) = false →
    ∃ dev ∈ choice n e files tests, InUse n dev t ∧ t.wifiEnabled = wifiWanted n e files dev

theorem tryOnce_outcome (hdev : dev = n.ethernet ∨ dev = n.wifi) {files : Iface.Files}
    (hchoice : ∀ tests, choice n e files tests = some dev) (cs : List Command) (sh : Shell)
    (s : Asked)
    (hwifi : files.tmp Iface.Marker.wifi_disallowed.filename = true → dev = n.ethernet ∧
      (cs.foldl Asked.note s).link n.wifi = some false ∧
        (cs.foldl Asked.note s).wifiEnabled = false)
    (hethernet : files.tmp Iface.Marker.ethernet_disallowed.filename = true → dev = n.wifi ∧
      (cs.foldl Asked.note s).link n.ethernet = some false)
    (hwanted : (decide (dev = n.wifi) || (cs.foldl Asked.note s).wifiEnabled) =
      wifiWanted n e files dev) :
    let r := (do issue cs; let _ ← tryInterface n e false dev : Script Command Shell Unit) sh
    r.2.isSome = (choice n e files sh.tests).isSome ∧
      (r.2.isSome = true → Outcome n e files sh.tests (r.1.foldl Asked.note s)) := by
  obtain ⟨hsome, huse, hen, hlink⟩ := tryOnce_state n e hdev cs sh s
  rw [hchoice]
  refine ⟨hsome, fun _ => ?_⟩
  constructor
  · intro hmarked
    obtain ⟨rfl, hdown, hoff⟩ := hwifi hmarked
    rw [n.other_ethernet, hdown] at hlink
    rw [hoff, decide_eq_false n.distinct] at hen
    exact ⟨hlink, hen⟩
  · intro hmarked
    obtain ⟨rfl, hdown⟩ := hethernet hmarked
    rw [n.other_wifi, hdown] at hlink
    exact hlink
  · intro _
    exact ⟨dev, hchoice _, huse, hen.trans hwanted⟩

theorem runPniLoop_outcome (hpni : pni = n.ethernet ∨ pni = n.wifi) {files : Iface.Files}
    (hchoice : ∀ tests, choice n e files tests = loopChoice e pni (n.other pni) tests)
    (hwifi : files.tmp Iface.Marker.wifi_disallowed.filename = false)
    (hethernet : files.tmp Iface.Marker.ethernet_disallowed.filename = false)
    (hfeature : pniFeatureOff e = false) (sh : Shell) (s : Asked)
    (hs : e.configAllowPniToDisableWifi = false → pni = n.ethernet → s.wifiEnabled = true) :
    (runPniLoop n e pni (n.other pni) sh).2.isSome = (choice n e files sh.tests).isSome ∧
      ((runPniLoop n e pni (n.other pni) sh).2.isSome = true →
        Outcome n e files sh.tests
          ((runPniLoop n e pni (n.other pni) sh).1.foldl Asked.note s)) := by
  obtain ⟨hsome, hstate⟩ := runPniLoop_state n e hpni sh s hs
  rw [hchoice]
  refine ⟨hsome, fun hends => ?_⟩
  obtain ⟨dev, hdev⟩ := Option.isSome_iff_exists.1 (hsome.symm.trans hends)
  obtain ⟨huse, hen⟩ := hstate dev hdev
  constructor
  · intro hmarked
    rw [hwifi] at hmarked
    cases hmarked
  · intro hmarked
    rw [hethernet] at hmarked
    cases hmarked
  · intro _
    refine ⟨dev, (hchoice _).trans hdev, huse, hen.trans ?_⟩
    rw [wifiWanted, hwifi, hfeature]
    rfl

theorem attempts_outcome (files : Iface.Files) (sh : Shell) (s : Asked)
    (hnot : (files.tmp Iface.Marker.ethernet_disallowed.filename &&
      files.tmp Iface.Marker.wifi_disallowed.filename) = false) :
    (attempts n e files sh).2.isSome = (choice n e files sh.tests).isSome ∧
      ((attempts n e files sh).2.isSome = true →
        Outcome n e files sh.tests ((attempts n e files sh).1.foldl Asked.note s)) := by
  have hethernet : (n.ethernet = n.ethernet ∨ n.ethernet = n.wifi) := .inl rfl
  have hwifi : (n.wifi = n.ethernet ∨ n.wifi = n.wifi) := .inr rfl
  rw [attempts]
  dsimp only
  by_cases hw : files.tmp Iface.Marker.wifi_disallowed.filename = true
  · rw [hw, Bool.and_true] at hnot
    have hoff := setWifiState_state n false s
    have hchoice : ∀ tests, choice n e files tests = some n.ethernet := fun tests => by
      rw [choice, if_pos hw]
    rw [if_pos hw]
    apply tryOnce_outcome n e hethernet hchoice
    · exact fun _ => ⟨rfl, hoff⟩
    · intro he
      rw [hnot] at he
      cases he
    · rw [hoff.2, wifiWanted, hw]
      rfl
  rw [if_neg hw]
  by_cases he : files.tmp Iface.Marker.ethernet_disallowed.filename = true
  · have hchoice : ∀ tests, choice n e files tests = some n.wifi := fun tests => by
      rw [choice, if_neg hw, if_pos he]
    rw [if_pos he]
    apply tryOnce_outcome n e hwifi hchoice
    · exact fun h => absurd h hw
    · exact fun _ => ⟨rfl, Function.update_self _ _ _⟩
    · simp [wifiWanted]
  rw [if_neg he]
  by_cases hcarrier : (!e.carrier) = true
  · have hchoice : ∀ tests, choice n e files tests = some n.wifi := fun tests => by
      rw [choice, if_neg hw, if_neg he, if_pos hcarrier]
    rw [if_pos hcarrier]
    apply tryOnce_outcome n e hwifi hchoice []
    · exact fun h => absurd h hw
    · exact fun h => absurd h he
    · simp [wifiWanted]
  rw [if_neg hcarrier]
  by_cases hfeature : pniFeatureOff e = true
  · have hchoice : ∀ tests, choice n e files tests = some n.ethernet := fun tests => by
      rw [choice, if_neg hw, if_neg he, if_neg hcarrier, if_pos hfeature]
    rw [if_pos hfeature]
    apply tryOnce_outcome n e hethernet hchoice
    · exact fun h => absurd h hw
    · exact fun h => absurd h he
    · rw [List.foldl_append, List.foldl_append, (setWifiState_state n true _).2, wifiWanted,
        hfeature, Bool.eq_false_iff.2 hw, Bool.or_true]
      simp
  rw [if_neg hfeature]
  rw [Bool.not_eq_true] at hw he hfeature
  by_cases hpni : files.tmp Iface.Marker.pni_wifi.filename = true
  · have hchoice : ∀ tests, choice n e files tests =
        loopChoice e n.wifi (n.other n.wifi) tests := fun tests => by
      rw [choice, hw, he, hfeature, if_neg Bool.false_ne_true, if_neg Bool.false_ne_true,
        if_neg hcarrier, if_neg Bool.false_ne_true, if_pos hpni, n.other_wifi]
    rw [if_pos hpni, ← n.other_wifi]
    apply runPniLoop_outcome n e hwifi hchoice hw he hfeature
    exact fun _ h => absurd h.symm n.distinct
  · have hchoice : ∀ tests, choice n e files tests =
        loopChoice e n.ethernet (n.other n.ethernet) tests := fun tests => by
      rw [choice, hw, he, hfeature, if_neg Bool.false_ne_true, if_neg Bool.false_ne_true,
        if_neg hcarrier, if_neg Bool.false_ne_true, if_neg hpni, n.other_ethernet]
    rw [if_neg hpni, issue_bind, List.foldl_append, ← n.other_ethernet]
    apply runPniLoop_outcome n e hethernet hchoice hw he hfeature
    intro hallow _
    rw [hallow]
    exact (setWifiState_state n true s).2

/-- The run ends unless it waits for an outcome for ever, and has then asked for what the markers
and the settings want. -/
theorem controller_outcome (files : Iface.Files) (sh : Shell) (s : Asked) :
    (controller n e files sh).2.isSome = (choice n e files sh.tests).isSome ∧
      ((controller n e files sh).2.isSome = true →
        Outcome n e files sh.tests ((controller n e files sh).1.foldl Asked.note s)) := by
  rw [controller]
  cases hboth : (files.tmp Iface.Marker.ethernet_disallowed.filename &&
      files.tmp Iface.Marker.wifi_disallowed.filename) with
  | true =>
    rw [Bool.and_eq_true] at hboth
    rw [if_pos rfl, issue_apply, choice, if_pos hboth.2]
    refine ⟨rfl, fun _ => ?_⟩
    constructor
    · exact fun _ => setWifiState_state n false _
    · intro _
      exact (Function.update_of_ne n.distinct _ _).trans (Function.update_self _ _ _)
    · intro hnot
      rw [hboth.1, hboth.2] at hnot
      cases hnot
  | false =>
    obtain ⟨hsome, houtcome⟩ := attempts_outcome n e files sh s hboth
    rw [if_neg Bool.false_ne_true]
    rcases hr : attempts n e files sh with ⟨cs, _ | ⟨u, sh'⟩⟩
    · rw [bind_of_none hr]
      rw [hr] at hsome houtcome
      exact ⟨hsome, houtcome⟩
    · rw [bind_of_some hr]
      rw [hr] at hsome houtcome
      refine ⟨hsome, fun _ => ?_⟩
      rw [issue_apply, List.foldl_append]
      exact houtcome rfl

theorem InUse.unique (h : InUse n dev s) (hd : InUse n d s)
    (hdev : dev = n.ethernet ∨ dev = n.wifi) (hmem : d = n.ethernet ∨ d = n.wifi) : dev = d := by
  rcases hdev with rfl | rfl
  · rcases hmem with rfl | rfl
    · rfl
    · have hidle := h.otherIdle
      rw [n.other_ethernet] at hidle
      exact absurd hidle hd.configured
  · rcases hmem with rfl | rfl
    · have hidle := h.otherIdle
      rw [n.other_wifi] at hidle
      exact absurd hidle hd.configured
    · rfl

theorem choice_mem {files : Iface.Files} (h : choice n e files tests = some dev) :
    dev = n.ethernet ∨ dev = n.wifi := by
  have hloop {pni nonpni : CStr} (hpni : pni = n.ethernet ∨ pni = n.wifi)
      (hnonpni : nonpni = n.ethernet ∨ nonpni = n.wifi)
      (hsome : loopChoice e pni nonpni tests = some dev) : dev = n.ethernet ∨ dev = n.wifi := by
    rw [loopChoice] at hsome
    split at hsome
    · obtain ⟨i, _, hi⟩ := Option.map_eq_some_iff.1 hsome
      split at hi
      · cases hi
        exact hpni
      · cases hi
        exact hnonpni
    · cases hsome
      exact hpni
  rw [choice] at h
  split_ifs at h
  · exact .inl (Option.some.inj h).symm
  · exact .inr (Option.some.inj h).symm
  · exact .inr (Option.some.inj h).symm
  · exact .inl (Option.some.inj h).symm
  · exact hloop (.inr rfl) (.inl rfl) h
  · exact hloop (.inl rfl) (.inr rfl) h

/-- The run ends with an interface in use, and WiFi as wanted with it, exactly when that is the
one the markers, the carrier, the settings and the connectivity tests choose. -/
theorem controller_uses_iff (files : Iface.Files) (sh : Shell) (s : Asked)
    (hnot : (files.tmp Iface.Marker.ethernet_disallowed.filename &&
      files.tmp Iface.Marker.wifi_disallowed.filename) = false)
    (hdev : dev = n.ethernet ∨ dev = n.wifi) :
    ((controller n e files sh).2.isSome = true ∧
      InUse n dev ((controller n e files sh).1.foldl Asked.note s) ∧
      ((controller n e files sh).1.foldl Asked.note s).wifiEnabled = wifiWanted n e files dev) ↔
      choice n e files sh.tests = some dev := by
  obtain ⟨hsome, houtcome⟩ := controller_outcome n e files sh s
  apply Iff.intro
  · intro h
    obtain ⟨hends, huse, _⟩ := h
    obtain ⟨d, hd, hdUse, _⟩ := (houtcome hends).inUse hnot
    rw [huse.unique n hdUse hdev (choice_mem n e hd)]
    exact hd
  · intro hchoice
    have hends : (controller n e files sh).2.isSome = true := by
      rw [hsome, hchoice]
      rfl
    obtain ⟨d, hd, huse, hwifi⟩ := (houtcome hends).inUse hnot
    cases hchoice.symm.trans hd
    exact ⟨hends, huse, hwifi⟩

end

def ethernetAndWifi : Names where
  ethernet := "eth0".toList
  wifi := "wlan0".toList
  distinct := by decide
  plain := by
    have hall : ∀ dev ∈ ["eth0".toList, "wlan0".toList],
        (dev.all fun c => c.isAlphanum || c = '_') = true := by decide
    intro dev hdev c hc
    have hplain := List.all_eq_true.1 (hall dev hdev) c hc
    rwa [Bool.or_eq_true, decide_eq_true_iff] at hplain

/-- WiFi is preferred, but does not pass the first of the connectivity tests; Ethernet does. -/
theorem controller_uses_nonpni :
    InUse ethernetAndWifi ethernetAndWifi.ethernet
      ((controller ethernetAndWifi ⟨false, false, false, true, true, false, true, none, none⟩
        ⟨fun filename => filename = Iface.Marker.pni_wifi.filename, fun _ => false⟩
        ⟨⟨[], [], [], [], []⟩, [false, true]⟩).1.foldl Asked.note
          (Asked.boot ⟨fun _ => false, fun _ => false⟩)) :=
  ((controller_uses_iff ethernetAndWifi _ _ _ _ rfl (.inl rfl)).2 rfl).2.1

end NetSrvMgr.Pni
