import NetSrvMgr.IpSettingsFile

namespace NetSrvMgr.Ip
open CString Inet
set_option autoImplicit true

/-- Read back, the file holds the settings. -/
def ReadsBack (file : Option CStr) (s : IfaceSettings) : Prop :=
  ∃ t, ipSettingsFileRead .working file .zero = some (t, true) ∧ ipSettingsCompare t s = true

/-- A request for manual configuration passes every check up to the comparison with the file. -/
structure Accepted (e : IpEnv) (param : IfaceSettings) : Prop where
  known : knownInterface e param = true
  manual : param.autoconfig = false
  enabled : e.manualIPEnabled = true
  ipversion : strcaseeq param.ipversion.str "ipv4".toList = true
  valid : validManual param = true

/-- How many characters of a text reach the file. -/
def FileOps.landed (ops : FileOps) (text : CStr) : Nat := ops.writeLimit.getD text.length

def IfaceSettings.field (s : IfaceSettings) (key : CStr) : CStr :=
  if key = "ipaddress".toList then s.ipaddress.str
  else if key = "netmask".toList then s.netmask.str
  else if key = "gateway".toList then s.gateway.str
  else if key = "primarydns".toList then s.primarydns.str
  else s.secondarydns.str

def textOf (es : List (CStr × CStr)) : CStr := es.flatMap (entryLine · ++ ['\n'])

theorem readEntry_other (hkey : key ∉ settingsKeys)
    (htok : strtok entryDelims (cstr entry) = some (key, rest)) (s : IfaceSettings) :
    readEntry entry s = some s := by
  simp only [settingsKeys, List.mem_cons, List.not_mem_nil, or_false, not_or] at hkey
  obtain ⟨hip, hmask, hgw, hdns, hdns2⟩ := hkey
  rw [readEntry, htok]
  dsimp only
  rw [if_neg hip, if_neg hmask, if_neg hgw, if_neg hdns, if_neg hdns2]

theorem PlainText.take (h : PlainText s) (m : Nat) : PlainText (s.take m) :=
  fun c hc => h c (List.mem_of_mem_take hc)

theorem PlainText.strtok_eq (h : PlainText s) (hs : s ≠ []) :
    strtok entryDelims s = some (s, []) :=
  strtok_unterminated hs fun c hc => (h c hc).1

theorem field_setField_ne (hkey : key ∈ settingsKeys) (hk : k ∈ settingsKeys) (hne : k ≠ key)
    (v : CStr) (s : IfaceSettings) : (setField key v s).field k = s.field k := by
  simp only [settingsKeys, List.mem_cons, List.not_mem_nil, or_false] at hkey hk
  rcases hkey with rfl | rfl | rfl | rfl | rfl <;> rcases hk with rfl | rfl | rfl | rfl | rfl
  all_goals first | rfl | exact absurd rfl hne

theorem field_zero (key : CStr) : IfaceSettings.zero.field key = [] := by
  rw [IfaceSettings.field]
  repeat' split
  all_goals rfl

/-- The current file is the same only where it is read, and then it is read by anyone. -/
theorem readsBack_of_same (h : sameSettings ops file s = some true) : ReadsBack file s := by
  cases file with
  | none => cases h
  | some text =>
    rw [sameSettings] at h
    obtain ⟨r, hread, hsame⟩ := Option.map_eq_some_iff.1 h
    rw [Bool.and_eq_true] at hsame
    rw [ipSettingsFileRead] at hread
    cases hops : ops.readable with
    | false =>
      rw [hops] at hread
      cases hread
      cases hsame.1
    | true =>
      rw [hops] at hread
      obtain ⟨t, ht, hr⟩ := Option.map_eq_some_iff.1 hread
      cases hr
      refine ⟨t, ?_, hsame.2⟩
      rw [ipSettingsFileRead, ht]
      rfl

theorem setIPSettings_refused (hm : param.autoconfig = false) (h : ¬ Accepted e param)
    (st : IpState) : ∃ reply, setIPSettings e param st = some (reply, st, false) := by
  rw [setIPSettings]
  cases hknown : knownInterface e param with
  | false => exact ⟨_, rfl⟩
  | true =>
    rw [hm]
    cases henabled : e.manualIPEnabled with
    | false => exact ⟨_, rfl⟩
    | true =>
      cases hversion : strcaseeq param.ipversion.str "ipv4".toList with
      | false => exact ⟨_, rfl⟩
      | true =>
        cases hvalid : validManual param with
        | false => exact ⟨_, rfl⟩
        | true => exact absurd ⟨hknown, hm, henabled, hversion, hvalid⟩ h

theorem setIPSettings_accepted (h : Accepted e param) (st : IpState) :
    setIPSettings e param st = (sameSettings e.ops st.settingsFile param).map fun same =>
      if same then (param, st, true)
      else if e.ops.writable then
        (param, st.reconfigure (some (e.ops.stored (settingsText param))), true)
      else
        (param, st.reconfigure (if e.ops.removable then none else st.settingsFile), false) := by
  rw [setIPSettings, h.known, h.manual, h.enabled, h.ipversion, h.valid]
  apply congrArg (Option.map · (sameSettings e.ops st.settingsFile param))
  funext same
  rw [ipSettingsFileWrite]
  cases e.ops.writable with
  | true => rfl
  | false => rfl

theorem setIPSettings_auto (hm : param.autoconfig = true) (st : IpState) :
    ∃ reply st' result, setIPSettings e param st = some (reply, st', result) ∧
      (result = true → st'.settingsFile = none) ∧ (result = false → st' = st) := by
  rw [setIPSettings, hm]
  cases knownInterface e param with
  | false => exact ⟨_, _, _, rfl, Bool.noConfusion, fun _ => rfl⟩
  | true =>
    cases hfile : st.settingsFile with
    | none => exact ⟨_, st, _, rfl, fun _ => hfile, Bool.noConfusion⟩
    | some text =>
      cases e.ops.removable with
      | false => exact ⟨_, st, _, rfl, Bool.noConfusion, fun _ => rfl⟩
      | true => exact ⟨_, _, _, rfl, fun _ => rfl, Bool.noConfusion⟩

/-- The file system is full: the settings file is opened, and nothing reaches it. -/
def fullDisk : IpEnv where
  hasEthernetInterface := true
  hasWifiInterface := true
  manualIPEnabled := true
  ops := { FileOps.working with writeLimit := some 0 }

end NetSrvMgr.Ip
