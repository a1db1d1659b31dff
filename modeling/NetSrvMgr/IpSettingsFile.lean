import NetSrvMgr.IpSettings

namespace NetSrvMgr.Ip
open CString Inet
set_option autoImplicit true

/-- A text that the reader of the settings file takes as one token. -/
def PlainText (s : CStr) : Prop := ∀ c ∈ s, c ∉ entryDelims ∧ c ≠ '\x00'

/-- Read back into a zeroed structure, the written settings compare equal. -/
def RoundTrips (s : IfaceSettings) : Prop :=
  ∃ t, ipSettingsFileRead .working (ipSettingsFileWrite .working s none).1 .zero = some (t, true) ∧
    ipSettingsCompare t s = true

/-- After a call that succeeds, the same call changes nothing. -/
def SecondCallIdle (s : IfaceSettings) : Prop :=
  ∀ e st p st', e.ops = .working → setIPSettings e s st = some (p, st', true) →
    setIPSettings e s st' = some (p, st', true)

/-- Settings for manual configuration that pass every check of `setIPSettings`. -/
structure AcceptedManual (s : IfaceSettings) : Prop where
  manual : s.autoconfig = false
  interface : strcaseeq s.interface.str "WIFI".toList ∨ strcaseeq s.interface.str "ETHERNET".toList
  ipversion : strcaseeq s.ipversion.str "ipv4".toList
  valid : validManual s = true

theorem isDotted_plain {s : CStr} (h : ∀ c ∈ s, isDotted c = true) : PlainText s := by
  intro c hc
  have hdot := h c hc
  apply And.intro
  · intro hd
    rcases List.mem_cons.1 hd with rfl | hd
    · exact absurd hdot (by decide)
    · cases List.mem_singleton.1 hd
      exact absurd hdot (by decide)
  · rintro rfl
    exact absurd hdot (by decide)

theorem inetPton4_plain (h : (inetPton4 s).isSome = true) : PlainText s ∧ s ≠ [] := by
  obtain ⟨a, ha⟩ := Option.isSome_iff_exists.1 h
  exact ⟨isDotted_plain (inetPton4_isDotted ha), inetPton4_ne_nil ha⟩

structure PlainSettings (s : IfaceSettings) : Prop where
  ipaddress : PlainText s.ipaddress.str ∧ s.ipaddress.str ≠ []
  netmask : PlainText s.netmask.str ∧ s.netmask.str ≠ []
  gateway : PlainText s.gateway.str ∧ s.gateway.str ≠ []
  primarydns : PlainText s.primarydns.str ∧ s.primarydns.str ≠ []
  secondarydns : PlainText s.secondarydns.str

theorem validManual_plain (h : validManual s = true) : PlainSettings s := by
  rw [validManual, Bool.and_eq_true, Bool.and_eq_true, Bool.and_eq_true, Bool.and_eq_true] at h
  obtain ⟨⟨⟨⟨hip, hmask⟩, hgw⟩, hdns⟩, hdns2⟩ := h
  have hmask' : (inetPton4 s.netmask.str).isSome = true := by
    cases hm : inetPton4 s.netmask.str with
    | none =>
      rw [hm] at hmask
      cases hmask
    | some mask => rfl
  refine ⟨inetPton4_plain hip, inetPton4_plain hmask', inetPton4_plain hgw, inetPton4_plain hdns,
    ?_⟩
  rw [Bool.or_eq_true] at hdns2
  rcases hdns2 with hempty | hdns2
  · rw [List.isEmpty_iff] at hempty
    rw [hempty]
    intro c hc
    cases hc
  · exact (inetPton4_plain hdns2).1

/-- The value token of an entry: there is none where the value is empty. -/
def entryValue (v : CStr) : Option CStr := if v = [] then none else some v

theorem strtok_entry {key v : CStr} (hne : key ≠ []) (hkey : PlainText key) (hv : PlainText v) :
    strtok entryDelims (cstr (key ++ '=' :: v ++ ['\n'])) = some (key, v ++ ['\n']) ∧
      (strtok entryDelims (v ++ ['\n'])).map Prod.fst = entryValue v := by
  have hnul : '\x00' ∉ key ++ '=' :: v ++ ['\n'] := by
    intro hm
    rcases List.mem_append.1 hm with hm | hm
    · rcases List.mem_append.1 hm with hm | hm
      · exact (hkey _ hm).2 rfl
      · rcases List.mem_cons.1 hm with hm | hm
        · exact absurd hm (by decide)
        · exact (hv _ hm).2 rfl
    · exact absurd hm (by decide)
  apply And.intro
  · rw [cstr_eq_self hnul, List.append_assoc, List.cons_append]
    exact strtok_append hne (fun c hc => (hkey c hc).1) (by decide)
  · rw [entryValue]
    split
    · next hnil =>
      have hnl : ∀ c ∈ ['\n'], c ∈ entryDelims := by
        intro c hc
        cases List.mem_singleton.1 hc
        decide
      rw [hnil, List.nil_append, strtok_delims hnl]
      rfl
    · next hnil =>
      rw [strtok_append hnil (fun c hc => (hv c hc).1) (by decide)]
      rfl

def settingsKeys : List CStr :=
  ["ipaddress".toList, "netmask".toList, "gateway".toList, "primarydns".toList,
    "secondarydns".toList]

def setField (key v : CStr) (s : IfaceSettings) : IfaceSettings :=
  if key = "ipaddress".toList then { s with ipaddress := .snprintf v }
  else if key = "netmask".toList then { s with netmask := .snprintf v }
  else if key = "gateway".toList then { s with gateway := .snprintf v }
  else if key = "primarydns".toList then { s with primarydns := .snprintf v }
  else if key = "secondarydns".toList then { s with secondarydns := .snprintf v }
  else s

def entryLine (e : CStr × CStr) : CStr := e.1 ++ '=' :: e.2

theorem entryLine_length (e : CStr × CStr) :
    (entryLine e).length = e.1.length + (e.2.length + 1) := by
  rw [entryLine, List.length_append, List.length_cons]

theorem settingsKeys_plain (hkey : key ∈ settingsKeys) : key ≠ [] ∧ PlainText key := by
  have hall : (settingsKeys.all fun key => !key.isEmpty &&
      key.all fun c => decide (c ∉ entryDelims ∧ c ≠ '\x00')) = true := by
    decide
  have hplain := List.all_eq_true.1 hall key hkey
  rw [Bool.and_eq_true, List.all_eq_true] at hplain
  obtain ⟨hne, hchars⟩ := hplain
  apply And.intro
  · rintro rfl
    cases hne
  · intro c hc
    exact of_decide_eq_true (hchars c hc)

theorem readEntry_key (hkey : key ∈ settingsKeys)
    (htok : strtok entryDelims (cstr entry) = some (key, rest)) (s : IfaceSettings) :
    readEntry entry s =
      ((strtok entryDelims rest).map Prod.fst).map fun v => setField key v s := by
  rw [readEntry, htok]
  simp only [settingsKeys, List.mem_cons, List.not_mem_nil, or_false] at hkey
  rcases hkey with rfl | rfl | rfl | rfl | rfl <;> rfl

theorem readEntry_line (hkey : key ∈ settingsKeys) (hv : PlainText v) (s : IfaceSettings) :
    readEntry (entryLine (key, v) ++ ['\n']) s = (entryValue v).map fun v => setField key v s := by
  obtain ⟨hne, hplain⟩ := settingsKeys_plain hkey
  obtain ⟨htok, hvalue⟩ := strtok_entry hne hplain hv
  have hread : readEntry (entryLine (key, v) ++ ['\n']) s = _ := readEntry_key hkey htok s
  rw [hread, hvalue]

theorem readEntries_lines (es : List (CStr × CStr))
    (h : ∀ e ∈ es, e.1 ∈ settingsKeys ∧ PlainText e.2 ∧ e.2 ≠ []) (rest : List CStr)
    (s : IfaceSettings) :
    readEntries (es.map (entryLine · ++ ['\n']) ++ rest) s =
      readEntries rest (es.foldl (fun s e => setField e.1 e.2 s) s) := by
  induction es generalizing s with
  | nil => rfl
  | cons e es ih =>
    obtain ⟨hkey, hplain, hne⟩ := h e List.mem_cons_self
    have hread : readEntry (entryLine e ++ ['\n']) s = some (setField e.1 e.2 s) := by
      rw [readEntry_line hkey hplain, entryValue, if_neg hne, Option.map_some]
    rw [List.map_cons, List.cons_append, readEntries, hread, Option.bind_some,
      ih (fun e he => h e (List.mem_cons_of_mem _ he)), List.foldl_cons]

/-- The entries of a settings file that always have a value. -/
def requiredEntries (s : IfaceSettings) : List (CStr × CStr) :=
  [("ipaddress".toList, s.ipaddress.str), ("netmask".toList, s.netmask.str),
    ("gateway".toList, s.gateway.str), ("primarydns".toList, s.primarydns.str)]

def settingsEntries (s : IfaceSettings) : List (CStr × CStr) :=
  requiredEntries s ++ [("secondarydns".toList, s.secondarydns.str)]

theorem settingsLines_eq (s : IfaceSettings) :
    settingsLines s = (settingsEntries s).map entryLine := rfl

theorem settingsEntries_keys (s : IfaceSettings) :
    (settingsEntries s).map Prod.fst = settingsKeys := rfl

theorem settingsEntries_key (he : e ∈ settingsEntries s) : e.1 ∈ settingsKeys := by
  rw [← settingsEntries_keys s]
  exact List.mem_map_of_mem he

theorem requiredEntries_plain (h : PlainSettings s) (he : e ∈ requiredEntries s) :
    e.1 ∈ settingsKeys ∧ PlainText e.2 ∧ e.2 ≠ [] := by
  apply And.intro (settingsEntries_key (s := s) (List.mem_append_left _ he))
  simp only [requiredEntries, List.mem_cons, List.not_mem_nil, or_false] at he
  rcases he with rfl | rfl | rfl | rfl
  · exact h.ipaddress
  · exact h.netmask
  · exact h.gateway
  · exact h.primarydns

theorem settingsEntries_short (h : PlainSettings s) (he : e ∈ settingsEntries s) :
    PlainText e.2 ∧ e.2.length < inet6Addrstrlen := by
  simp only [settingsEntries, requiredEntries, List.cons_append, List.nil_append, List.mem_cons,
    List.not_mem_nil, or_false] at he
  rcases he with rfl | rfl | rfl | rfl | rfl
  · exact ⟨h.ipaddress.1, s.ipaddress.fits⟩
  · exact ⟨h.netmask.1, s.netmask.fits⟩
  · exact ⟨h.gateway.1, s.gateway.fits⟩
  · exact ⟨h.primarydns.1, s.primarydns.fits⟩
  · exact ⟨h.secondarydns, s.secondarydns.fits⟩

theorem entryLine_short (hkey : e.1 ∈ settingsKeys) (hv : PlainText e.2)
    (hlen : e.2.length < inet6Addrstrlen) :
    '\n' ∉ entryLine e ∧ (entryLine e).length < nameValueEntrySize - 1 := by
  have hkeylen : ∀ key ∈ settingsKeys, key.length < 14 := by decide
  apply And.intro
  · intro hm
    rcases List.mem_append.1 hm with hm | hm
    · exact ((settingsKeys_plain hkey).2 _ hm).1 (by decide)
    · rcases List.mem_cons.1 hm with hm | hm
      · exact absurd hm (by decide)
      · exact (hv _ hm).1 (by decide)
  · have hklen := hkeylen e.1 hkey
    rw [entryLine_length, nameValueEntrySize]
    rw [inet6Addrstrlen] at hlen
    omega

theorem fgetsAll_settingsText (h : PlainSettings s) :
    fgetsAll nameValueEntrySize (settingsText s) =
      (requiredEntries s).map (entryLine · ++ ['\n']) ++
        [entryLine ("secondarydns".toList, s.secondarydns.str) ++ ['\n']] := by
  rw [settingsText, fgetsAll_lines, settingsLines_eq, List.map_map, settingsEntries,
    List.map_append]
  · rfl
  · intro line hline
    rw [settingsLines_eq] at hline
    obtain ⟨e, he, rfl⟩ := List.mem_map.1 hline
    obtain ⟨hplain, hlen⟩ := settingsEntries_short h he
    exact entryLine_short (settingsEntries_key he) hplain hlen

def readRequired (s : IfaceSettings) : IfaceSettings :=
  (requiredEntries s).foldl (fun s e => setField e.1 e.2 s) .zero

theorem readRequired_eq (s : IfaceSettings) :
    readRequired s = { IfaceSettings.zero with
      ipaddress := s.ipaddress
      netmask := s.netmask
      gateway := s.gateway
      primarydns := s.primarydns } := by
  have hstr : ∀ a : AddrArray, AddrArray.snprintf a.str = a := CharArray.snprintf_str (by decide)
  have hfold : readRequired s = { IfaceSettings.zero with
      ipaddress := .snprintf s.ipaddress.str
      netmask := .snprintf s.netmask.str
      gateway := .snprintf s.gateway.str
      primarydns := .snprintf s.primarydns.str } := rfl
  rw [hfold, hstr, hstr, hstr, hstr]

/-- What reading the written file gives: all is decided by the last entry. -/
theorem fileRead_written (h : PlainSettings s) :
    ipSettingsFileRead .working (some (settingsText s)) .zero =
      (entryValue s.secondarydns.str).map fun v =>
        ({ readRequired s with secondarydns := .snprintf v }, true) := by
  have hkey : "secondarydns".toList ∈ settingsKeys := by decide
  have hlast := readEntry_line hkey h.secondarydns (readRequired s)
  have hreadable : FileOps.working.readable = true := rfl
  rw [ipSettingsFileRead]
  dsimp only
  rw [if_pos hreadable, fgetsAll_settingsText h,
    readEntries_lines _ (fun e he => requiredEntries_plain h he), readEntries, ← readRequired,
    hlast]
  cases entryValue s.secondarydns.str with
  | none => rfl
  | some v => rfl

theorem fileWrite_working (s : IfaceSettings) (file : Option CStr) :
    ipSettingsFileWrite .working s file = (some (settingsText s), true) := rfl

theorem roundTrips_iff (h : PlainSettings s) : RoundTrips s ↔ s.secondarydns.str ≠ [] := by
  rw [RoundTrips, fileWrite_working, fileRead_written h]
  apply Iff.intro
  · rintro ⟨t, hread, _⟩ hempty
    rw [hempty] at hread
    cases hread
  · intro hne
    have hstr : AddrArray.snprintf s.secondarydns.str = s.secondarydns :=
      CharArray.snprintf_str (by decide) _
    refine ⟨{ readRequired s with secondarydns := s.secondarydns }, ?_, ?_⟩
    · rw [entryValue, if_neg hne, Option.map_some, hstr]
    · rw [readRequired_eq]
      simp only [ipSettingsCompare, decide_true, Bool.and_self]

theorem setIPSettings_manual (hs : AcceptedManual s) (hknown : knownInterface e s = true)
    (henabled : e.manualIPEnabled = true) (hops : e.ops = .working) (st : IpState) :
    setIPSettings e s st = (sameSettings .working st.settingsFile s).map fun same =>
      if same then (s, st, true) else (s, st.reconfigure (some (settingsText s)), true) := by
  simp only [setIPSettings, hknown, hs.manual, henabled, hs.ipversion, hs.valid, hops,
    Bool.not_true, Bool.or_self, Bool.false_eq_true, if_false]
  rfl

theorem setIPSettings_known (h : setIPSettings e s st = some (p, st', true)) :
    knownInterface e s = true := by
  cases hknown : knownInterface e s with
  | true => rfl
  | false =>
    rw [setIPSettings, hknown] at h
    cases h

theorem setIPSettings_enabled (hs : AcceptedManual s)
    (h : setIPSettings e s st = some (p, st', true)) : e.manualIPEnabled = true := by
  cases henabled : e.manualIPEnabled with
  | true => rfl
  | false =>
    have hknown := setIPSettings_known h
    simp only [setIPSettings, hknown, hs.manual, henabled, Bool.not_true, Bool.not_false,
      Bool.true_or, Bool.false_eq_true, if_false, if_true] at h
    cases h

theorem sameSettings_of_roundTrips (h : RoundTrips s) :
    sameSettings .working (some (settingsText s)) s = some true := by
  obtain ⟨t, hread, hcompare⟩ := h
  rw [fileWrite_working] at hread
  rw [sameSettings, hread, Option.map_some, hcompare]
  rfl

theorem secondCallIdle_of_roundTrips (hs : AcceptedManual s) (h : RoundTrips s) :
    SecondCallIdle s := by
  intro e st p st' hops hfirst
  have hknown := setIPSettings_known hfirst
  have henabled := setIPSettings_enabled hs hfirst
  rw [setIPSettings_manual hs hknown henabled hops] at hfirst ⊢
  obtain ⟨same, hsame, hresult⟩ := Option.map_eq_some_iff.1 hfirst
  cases same with
  | true =>
    cases hresult
    rw [hsame]
    rfl
  | false =>
    cases hresult
    dsimp only [IpState.reconfigure]
    rw [sameSettings_of_roundTrips h]
    rfl

/-- Accepted settings survive the file exactly when there is a second DNS server. -/
theorem settings_file_roundtrips_iff (s : IfaceSettings) (hs : AcceptedManual s) :
    (RoundTrips s ∧ SecondCallIdle s) ↔ s.secondarydns.str ≠ [] := by
  have hplain := validManual_plain hs.valid
  apply Iff.intro
  · rintro ⟨htrips, _⟩
    exact (roundTrips_iff hplain).1 htrips
  · intro hne
    have htrips := (roundTrips_iff hplain).2 hne
    exact ⟨htrips, secondCallIdle_of_roundTrips hs htrips⟩

def manualSettings (secondarydns : CStr) : IfaceSettings where
  interface := .snprintf "WIFI".toList
  ipversion := .snprintf "IPV4".toList
  autoconfig := false
  ipaddress := .snprintf "192.168.1.20".toList
  netmask := .snprintf "255.255.255.0".toList
  gateway := .snprintf "192.168.1.1".toList
  primarydns := .snprintf "8.8.8.8".toList
  secondarydns := .snprintf secondarydns
  isSupported := false

theorem settings_file_roundtrips_two_dns :
    (RoundTrips (manualSettings "8.8.4.4".toList) ∧
        SecondCallIdle (manualSettings "8.8.4.4".toList)) ↔
      (manualSettings "8.8.4.4".toList).secondarydns.str ≠ [] :=
  settings_file_roundtrips_iff (manualSettings "8.8.4.4".toList)
    ⟨rfl, Or.inl (by decide), by decide, by decide⟩

/-- Without a second DNS server the last line has a key only. -/
theorem settings_file_loses_empty_dns :
    ¬ ∀ s, AcceptedManual s → RoundTrips s ∧ SecondCallIdle s := by
  intro h
  obtain ⟨⟨t, hread, _⟩, _⟩ := h (manualSettings []) ⟨rfl, Or.inl (by decide), by decide, by decide⟩
  have hnull : ipSettingsFileRead .working
      (ipSettingsFileWrite .working (manualSettings []) none).1 .zero = none := by
    decide
  rw [hnull] at hread
  cases hread

end NetSrvMgr.Ip
