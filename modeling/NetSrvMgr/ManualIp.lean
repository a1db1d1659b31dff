import NetSrvMgr.IpSettingsFailures
import NetSrvMgr.LastWrite
import NetSrvMgr.PniOutcome

namespace NetSrvMgr.Ip
open CString Inet LastWrite Pni Script
set_option autoImplicit true

structure SettingsCall where
  env : IpEnv
  param : IfaceSettings

def SettingsCall.ethernet (c : SettingsCall) : Bool :=
  !strcaseeq c.param.interface.str "WIFI".toList

/-- What is written reaches the file, or the file cannot be opened for writing but removed. -/
def SettingsCall.Lands (c : SettingsCall) : Prop :=
  c.env.ops.writeLimit = none ∧ (c.env.ops.writable = true ∨ c.env.ops.removable = true)

/-- A call with its result, and whether it started `ipv4_reconfigure_interface`. -/
structure SettingsEntry where
  call : SettingsCall
  ok : Bool
  reconfigured : Bool

/-- The settings files, and how the call went. -/
def SettingsCall.handle (c : SettingsCall) (fs : Bool → Option CStr) :
    Option ((Bool → Option CStr) × SettingsEntry) :=
  (setIPSettings c.env c.param ⟨fs c.ethernet, 0⟩).map fun r =>
    (Function.update fs c.ethernet r.2.1.settingsFile,
      ⟨c, r.2.2, decide (r.2.1.reconfigured ≠ 0)⟩)

/-- How the calls went, as long as they return. -/
def handleAll (fs : Bool → Option CStr) :
    List SettingsCall → Option ((Bool → Option CStr) × List SettingsEntry)
  | [] => some (fs, [])
  | c :: calls =>
    (c.handle fs).bind fun r => (handleAll r.1 calls).map fun q => (q.1, r.2 :: q.2)

/-- What a call brings about for an interface: manual settings, or automatic configuration, which
a call that fails after it has reconfigured the interface falls back on. -/
def asks (ethernet : Bool) (entry : SettingsEntry) : Option (Option IfaceSettings) :=
  if entry.call.ethernet = ethernet then
    if entry.ok then some (if entry.call.param.autoconfig then none else some entry.call.param)
    else if entry.reconfigured then some none
    else none
  else none

/-- The last word on an interface, which is configured automatically at first. -/
def inForce (ethernet : Bool) (log : List SettingsEntry) : Option IfaceSettings :=
  lastWrite (asks ethernet) log none

/-- What `getIPSettings` reports for a settings file. -/
def autoconfig (file : Option CStr) : Bool :=
  match file with
  | none => true
  | some text => text.isEmpty

theorem settingsText_congr (h : ipSettingsCompare s t = true) :
    settingsText s = settingsText t := by
  simp only [ipSettingsCompare, Bool.and_eq_true, decide_eq_true_eq] at h
  obtain ⟨⟨⟨⟨hip, hmask⟩, hgw⟩, hdns⟩, hdns2⟩ := h
  rw [settingsText, settingsText, settingsLines, settingsLines, hip, hmask, hgw, hdns, hdns2]

theorem setIPSettings_file {old : Option IfaceSettings} (hold : ∀ q ∈ old, validManual q = true)
    {c : SettingsCall} (hlands : c.Lands)
    (h : setIPSettings c.env c.param ⟨old.map settingsText, 0⟩ = some (reply, st, ok)) :
    (ok = false → st.settingsFile = if st.reconfigured = 0 then old.map settingsText else none) ∧
      (ok = true → c.param.autoconfig = true → st.settingsFile = none) ∧
      (ok = true → c.param.autoconfig = false →
        validManual c.param = true ∧ st.settingsFile = some (settingsText c.param)) := by
  cases hauto : c.param.autoconfig with
  | true =>
    obtain ⟨_, st', _, hcall, htrue, hfalse⟩ :=
      setIPSettings_auto (e := c.env) hauto ⟨old.map settingsText, 0⟩
    cases hcall.symm.trans h
    refine ⟨fun hok => ?_, fun h _ => htrue h, fun _ h => Bool.noConfusion h⟩
    rw [hfalse hok]
    rfl
  | false =>
    by_cases haccepted : Accepted c.env c.param
    · have hvalid := haccepted.valid
      rw [setIPSettings_accepted haccepted] at h
      obtain ⟨same, hsame, hr⟩ := Option.map_eq_some_iff.1 h
      cases same with
      | false =>
        obtain ⟨hlimit, hopen⟩ := hlands
        have hstored : c.env.ops.stored (settingsText c.param) = settingsText c.param := by
          rw [FileOps.stored, hlimit]
        rw [if_neg Bool.false_ne_true, hstored] at hr
        cases hwritable : c.env.ops.writable with
        | true =>
          rw [hwritable, if_pos rfl] at hr
          cases hr
          exact ⟨Bool.noConfusion, fun _ => Bool.noConfusion, fun _ _ => ⟨hvalid, rfl⟩⟩
        | false =>
          have hremovable : c.env.ops.removable = true :=
            hopen.resolve_left (by rw [hwritable]; exact Bool.false_ne_true)
          rw [hwritable, if_neg Bool.false_ne_true, hremovable, if_pos rfl] at hr
          cases hr
          exact ⟨fun _ => rfl, Bool.noConfusion, Bool.noConfusion⟩
      | true =>
        cases hr
        refine ⟨Bool.noConfusion, fun _ => Bool.noConfusion, fun _ _ => ⟨hvalid, ?_⟩⟩
        -- what is read from the file in force compares equal
        obtain ⟨t, hread, hcompare⟩ := readsBack_of_same hsame
        cases old with
        | none => cases hread
        | some q =>
          dsimp only [Option.map_some] at hread ⊢
          have hq := validManual_plain (hold q rfl)
          rw [fileRead_written hq, readRequired_eq] at hread
          obtain ⟨v, hv, ht⟩ := Option.map_eq_some_iff.1 hread
          cases ht
          rw [entryValue] at hv
          split at hv
          · cases hv
          · cases hv
            have hstr : AddrArray.snprintf q.secondarydns.str = q.secondarydns :=
              CharArray.snprintf_str (by decide) _
            rw [hstr] at hcompare
            rw [← settingsText_congr hcompare]
            rfl
    · obtain ⟨_, hcall⟩ := setIPSettings_refused hauto haccepted ⟨old.map settingsText, 0⟩
      cases hcall.symm.trans h
      exact ⟨fun _ => rfl, Bool.noConfusion, Bool.noConfusion⟩

theorem handle_inForce {old : Bool → Option IfaceSettings}
    (hold : ∀ ethernet, ∀ q ∈ old ethernet, validManual q = true)
    (hfs : ∀ ethernet, fs ethernet = (old ethernet).map settingsText) {c : SettingsCall}
    (hlands : c.Lands) (h : c.handle fs = some (fs', entry)) (ethernet : Bool) :
    (∀ q ∈ (asks ethernet entry).getD (old ethernet), validManual q = true) ∧
      fs' ethernet = ((asks ethernet entry).getD (old ethernet)).map settingsText := by
  obtain ⟨⟨reply, st, ok⟩, hcall, hr⟩ := Option.map_eq_some_iff.1 h
  cases hr
  rw [hfs] at hcall
  obtain ⟨hfailed, hauto, hmanual⟩ := setIPSettings_file (hold _) hlands hcall
  rw [asks]
  dsimp only
  by_cases heth : c.ethernet = ethernet
  · subst heth
    rw [Function.update_self, if_pos rfl]
    cases ok with
    | false =>
      rw [hfailed rfl, if_neg Bool.false_ne_true]
      by_cases hzero : st.reconfigured = 0
      · rw [if_pos hzero, if_neg (by simpa using hzero)]
        exact ⟨hold _, rfl⟩
      · rw [if_neg hzero, if_pos (decide_eq_true hzero)]
        exact ⟨by rintro q ⟨⟩, rfl⟩
    | true =>
      rw [if_pos rfl]
      cases ha : c.param.autoconfig with
      | true => exact ⟨by rintro q ⟨⟩, hauto rfl ha⟩
      | false =>
        obtain ⟨hvalid, hfile⟩ := hmanual rfl ha
        refine ⟨?_, hfile⟩
        rintro q ⟨⟩
        exact hvalid
  · rw [Function.update_of_ne (Ne.symm heth), if_neg heth]
    exact ⟨hold ethernet, hfs ethernet⟩

theorem handleAll_inForce (calls : List SettingsCall) (hlands : ∀ c ∈ calls, c.Lands)
    {old : Bool → Option IfaceSettings}
    (hold : ∀ ethernet, ∀ q ∈ old ethernet, validManual q = true)
    (hfs : ∀ ethernet, fs ethernet = (old ethernet).map settingsText)
    (h : handleAll fs calls = some (fs', log)) (ethernet : Bool) :
    (∀ q ∈ lastWrite (asks ethernet) log (old ethernet), validManual q = true) ∧
      fs' ethernet = (lastWrite (asks ethernet) log (old ethernet)).map settingsText := by
  induction calls generalizing fs old log with
  | nil =>
    cases h
    exact ⟨hold ethernet, hfs ethernet⟩
  | cons c calls ih =>
    obtain ⟨⟨fs₁, entry⟩, hcall, hrest⟩ := Option.bind_eq_some_iff.1 h
    obtain ⟨⟨fs₂, log'⟩, hcalls, hr⟩ := Option.map_eq_some_iff.1 hrest
    cases hr
    have hstep := handle_inForce hold hfs (hlands c List.mem_cons_self) hcall
    rw [lastWrite_cons]
    exact ih (fun c hc => hlands c (List.mem_cons_of_mem _ hc)) (fun e => (hstep e).1)
      (fun e => (hstep e).2) hcalls

theorem readKeyVal_entryLine (hk : PlainText key) (hv : PlainText v) :
    readKeyVal (entryLine (key, v)) = (key, v) := by
  have hne {s : CStr} (hs : PlainText s) : ∀ c ∈ s, decide (c ≠ '=') = true := by
    intro c hc
    apply decide_eq_true
    rintro rfl
    exact (hs _ hc).1 (by decide)
  have hsep : ∀ rest : CStr, ('=' :: rest).takeWhile (fun c => decide (c ≠ '=')) = [] ∧
      ('=' :: rest).dropWhile (fun c => decide (c ≠ '=')) = '=' :: rest :=
    fun _ => ⟨rfl, rfl⟩
  have hself : v.takeWhile (fun c => decide (c ≠ '=')) = v := List.takeWhile_eq_self_iff.2 (hne hv)
  rw [readKeyVal, entryLine]
  simp only [List.takeWhile_append_of_pos (hne hk), List.dropWhile_append_of_pos (hne hk),
    (hsep v).1, (hsep v).2, List.append_nil, List.drop_succ_cons, List.drop_zero, hself]
  rw [if_neg (by simp)]

theorem settingsLine_plain (h : PlainSettings s) (hline : line ∈ settingsLines s) :
    '\n' ∉ line ∧ '\x00' ∉ line := by
  rw [settingsLines_eq] at hline
  obtain ⟨e, he, rfl⟩ := List.mem_map.1 hline
  have hkey := (settingsKeys_plain (settingsEntries_key he)).2
  have hvalue := (settingsEntries_short h he).1
  have hmem {c : Char} (hc : c ∈ entryLine e) : c ∈ e.1 ∨ c = '=' ∨ c ∈ e.2 := by
    rw [entryLine, List.mem_append, List.mem_cons] at hc
    exact hc
  apply And.intro
  · intro hc
    rcases hmem hc with hc | hc | hc
    · exact (hkey _ hc).1 (by decide)
    · cases hc
    · exact (hvalue _ hc).1 (by decide)
  · intro hc
    rcases hmem hc with hc | hc | hc
    · exact (hkey _ hc).2 rfl
    · cases hc
    · exact (hvalue _ hc).2 rfl

/-- The script reads the values that were written, a second DNS server or not. -/
theorem readFile_settingsText (h : PlainSettings s) (v : Vars) :
    v.readFile (settingsText s) = ⟨s.ipaddress.str, s.netmask.str, s.gateway.str,
      s.primarydns.str, s.secondarydns.str⟩ := by
  have hnul : (settingsText s).filter (· ≠ '\x00') = settingsText s := by
    apply List.filter_eq_self.2
    intro c hc
    obtain ⟨line, hline, hc⟩ := List.mem_flatMap.1 hc
    apply decide_eq_true
    rintro rfl
    rcases List.mem_append.1 hc with hc | hc
    · exact (settingsLine_plain h hline).2 hc
    · cases List.mem_singleton.1 hc
  have hread {key value : CStr} (he : (key, value) ∈ settingsEntries s) :
      readKeyVal (entryLine (key, value)) = (key, value) :=
    readKeyVal_entryLine (settingsKeys_plain (settingsEntries_key he)).2
      (settingsEntries_short h he).1
  have hline {key value : CStr} (he : (key, value) ∈ settingsEntries s) (v : Vars) :
      v.readLine (entryLine (key, value)) =
        if key.head? = some '#' then v
        else if key = "ipaddress".toList then { v with ip := value }
        else if key = "netmask".toList then { v with mask := value }
        else if key = "gateway".toList then { v with gw := value }
        else if key = "primarydns".toList then { v with dns1 := value }
        else if key = "secondarydns".toList then { v with dns2 := value }
        else v := by
    rw [Vars.readLine, hread he]
  rw [Vars.readFile, hnul, settingsText,
    splitOn_lines fun line hline => (settingsLine_plain h hline).1, List.dropLast_concat,
    settingsLines_eq]
  simp only [settingsEntries, requiredEntries, List.cons_append, List.nil_append, List.map_cons,
    List.map_nil, List.foldl_cons, List.foldl_nil]
  rw [hline (by simp [settingsEntries, requiredEntries]),
    hline (by simp [settingsEntries, requiredEntries]),
    hline (by simp [settingsEntries, requiredEntries]),
    hline (by simp [settingsEntries, requiredEntries]),
    hline (by simp [settingsEntries, requiredEntries])]
  rfl

/-- What the script should issue for an interface with such settings in force. -/
def wantedCommands (n : Names) (e : Setup) (dev : CStr) : Option IfaceSettings → List Command
  | none => ipv4ConfigureDhcpip n e dev
  | some s => applyManualip n e dev ⟨s.ipaddress.str, s.netmask.str, s.gateway.str,
      s.primarydns.str, s.secondarydns.str⟩

/-- After any calls from the first boot, the files hold the settings in force, which are valid. -/
theorem handleAll_files (calls : List SettingsCall) (hlands : ∀ c ∈ calls, c.Lands)
    (h : handleAll (fun _ => none) calls = some (fs, log)) (ethernet : Bool) :
    (∀ q ∈ inForce ethernet log, validManual q = true) ∧
      fs ethernet = (inForce ethernet log).map settingsText := by
  have hnone : ∀ ethernet : Bool, ∀ q ∈ (none : Option IfaceSettings), validManual q = true := by
    rintro _ q ⟨⟩
  exact handleAll_inForce calls hlands hnone (fun _ => rfl) h ethernet

theorem autoconfig_settings {file : Option CStr} {q : Option IfaceSettings}
    (h : file = q.map settingsText) : autoconfig file = q.isNone := by
  subst h
  cases q with
  | none => rfl
  | some s => rfl

theorem ipv4ConfigureInterface_settings {fs : Bool → Option CStr} {dev : CStr}
    {q : Option IfaceSettings} (hvalid : ∀ s ∈ q, validManual s = true)
    (hfile : fs (decide (dev ≠ n.wifi)) = q.map settingsText) {e : Setup}
    (hmanual : e.manualIPSettingsEnable = true) (heth : e.ipEth = fs true)
    (hwifi : e.ipWifi = fs false) (sh : Shell) :
    (ipv4ConfigureInterface n e dev sh).1 = wantedCommands n e dev q := by
  have hsettings : ipSettingsFile n e dev = fs (decide (dev ≠ n.wifi)) := by
    rw [ipSettingsFile]
    by_cases hdev : dev = n.wifi
    · rw [if_pos hdev, decide_eq_false (not_not_intro hdev)]
      exact hwifi
    · rw [if_neg hdev, decide_eq_true hdev]
      exact heth
  rw [ipv4ConfigureInterface, hmanual, if_pos rfl, ipv4ConfigureManualip, hsettings, hfile]
  cases q with
  | none => rfl
  | some s =>
    have hread := readFile_settingsText (validManual_plain (hvalid s rfl))
    rw [Option.map_some]
    cases htext : settingsText s with
    | nil => cases htext
    | cons c text =>
      rw [htext] at hread
      rw [wantedCommands, ← hread sh.vars]
      rfl

/-- After any calls that return, the script configures each interface by the last word on it, and
the daemon reports the interface as configured that way. -/
theorem settings_in_force_applied (calls : List SettingsCall) (hlands : ∀ c ∈ calls, c.Lands)
    (fs : Bool → Option CStr) (log : List SettingsEntry)
    (h : handleAll (fun _ => none) calls = some (fs, log)) (n : Names) (e : Setup)
    (hmanual : e.manualIPSettingsEnable = true) (heth : e.ipEth = fs true)
    (hwifi : e.ipWifi = fs false) (dev : CStr) (sh : Shell) :
    let ethernet := decide (dev ≠ n.wifi)
    (ipv4ConfigureInterface n e dev sh).1 = wantedCommands n e dev (inForce ethernet log) ∧
      autoconfig (fs ethernet) = (inForce ethernet log).isNone := by
  intro ethernet
  obtain ⟨hvalid, hfile⟩ := handleAll_files calls hlands h ethernet
  apply And.intro
  · exact ipv4ConfigureInterface_settings hvalid hfile hmanual heth hwifi sh
  · exact autoconfig_settings hfile

def workingEnv : IpEnv := ⟨true, true, true, .working⟩

def manualCall : SettingsCall := ⟨workingEnv, manualSettings "8.8.4.4".toList⟩

/-- The same for the address 192.168.1.21, with a file that cannot be opened for writing. -/
def readOnlyCall : SettingsCall :=
  ⟨{ workingEnv with ops := { FileOps.working with writable := false } },
    { manualSettings "8.8.4.4".toList with ipaddress := .snprintf "192.168.1.21".toList }⟩

def manualText : CStr := settingsText (manualSettings "8.8.4.4".toList)

/-- The settings fall away with the request that fails, and are set again. -/
theorem settings_in_force_applied_manual :
    (ipv4ConfigureInterface ethernetAndWifi
        ⟨false, false, false, true, true, true, true, none, some manualText⟩
        "wlan0".toList ⟨⟨[], [], [], [], []⟩, []⟩).1 =
      [.systemctlStop "udhcpc@wlan0.service".toList "wlan0".toList,
        .ifconfig "wlan0".toList "wlan0".toList "192.168.1.20".toList "255.255.255.0".toList,
        .routeAddDefault "192.168.1.1".toList "wlan0".toList,
        .writeNameservers ["8.8.8.8".toList, "8.8.4.4".toList]] := by
  have hlands : ∀ c ∈ [manualCall, readOnlyCall, manualCall], c.Lands := by
    intro c hc
    simp only [List.mem_cons, List.not_mem_nil, or_false] at hc
    rcases hc with rfl | rfl | rfl
    · exact ⟨rfl, .inl rfl⟩
    · exact ⟨rfl, .inr rfl⟩
    · exact ⟨rfl, .inl rfl⟩
  exact (settings_in_force_applied _ hlands
    (Function.update (Function.update (Function.update (fun _ => none) false (some manualText))
      false none) false (some manualText))
    [⟨manualCall, true, true⟩, ⟨readOnlyCall, false, true⟩, ⟨manualCall, true, true⟩] rfl
    ethernetAndWifi ⟨false, false, false, true, true, true, true, none, some manualText⟩ rfl rfl
    rfl "wlan0".toList ⟨⟨[], [], [], [], []⟩, []⟩).1

end NetSrvMgr.Ip
