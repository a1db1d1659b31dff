import NetSrvMgr.SecurityModes

namespace NetSrvMgr.Wifi
open CString
set_option autoImplicit true

def lnfNonSecureSsid : CStr := "A16746DF2466410CA2ED9FB2E32FE7D9".toList

def lnfSecureSsid : CStr := "D375C1D9F8B041E2A1995B784064977B".toList

structure NeighborAp where
  ap_SSID : CStr
  ap_SignalStrength : Int
  ap_OperatingFrequencyBand : CStr
  ap_SecurityModeEnabled : CStr
  ap_EncryptionMode : CStr
  deriving DecidableEq

/-- What a scan function of the HAL leaves: the return code and the array (empty for NULL). -/
structure HalScan where
  ret : Int
  ap_array : List NeighborAp

inductive WifiHalFreqBand
  | none | band24GHz | band5GHz
  deriving DecidableEq

structure ScanElement where
  ssid : CStr
  security : SsidSecurity
  signalStrength : Int
  frequency : ℚ
  deriving DecidableEq

/-- The JSON object of a scan: one array under one name. -/
structure ScanList where
  name : CStr
  elements : List ScanElement
  deriving DecidableEq

def listed (ssid : CStr) : Bool :=
  ssid ≠ [] && ssid ≠ lnfNonSecureSsid && ssid ≠ lnfSecureSsid

def encrptType (wifiHALVer : CStr) (ap : NeighborAp) : Option SsidSecurity :=
  if wifiHALVer = wifiHalVersion then
    getWifiSecurityModeFromString wifiHALVer (some ap.ap_EncryptionMode) none
  else
    getWifiSecurityModeFromString wifiHALVer (some ap.ap_SecurityModeEnabled)
      (some ap.ap_EncryptionMode)

section Scan

variable (wifiHALVer : CStr) (strtod : CStr → ℚ)

/-- The loop over the array; `none` where a table is read outside its bounds. -/
def scanArray : List NeighborAp → Option (List ScanElement)
  | [] => some []
  | ap :: aps =>
    if listed ap.ap_SSID then
      match encrptType wifiHALVer ap with
      | none => none
      | some security =>
        (scanArray aps).map fun elements =>
          ⟨ap.ap_SSID, security, ap.ap_SignalStrength, strtod ap.ap_OperatingFrequencyBand⟩ ::
            elements
    else scanArray aps

/-- `some none` where the function returns false. -/
def scanWith (name : CStr) (hal : HalScan) : Option (Option ScanList) :=
  if hal.ret ≠ 0 ∧ hal.ap_array.length = 0 then some none
  else
    match scanArray wifiHALVer strtod hal.ap_array with
    | none => none
    | some elements => some (some ⟨name, elements⟩)

def scanNeighboringWifiAP (hal : HalScan) : Option (Option ScanList) :=
  scanWith wifiHALVer strtod "getAvailableSSIDs".toList hal

def freqBand (freq_in : ℚ) : Option WifiHalFreqBand :=
  if freq_in = 2.4 then some .band24GHz
  else if freq_in = 5 then some .band5GHz
  else if freq_in = 0 then some .none
  else none

def scanSpecificSSIDWifiAP (wifi_getSpecificSSIDInfo : CStr → WifiHalFreqBand → HalScan)
    (ssid : CStr) (freq_in : ℚ) : Option (Option ScanList) :=
  match freqBand freq_in with
  | none => some none
  | some band =>
    scanWith wifiHALVer strtod "getAvailableSSIDsWithName".toList
      (wifi_getSpecificSSIDInfo ssid band)

end Scan

def HalScan.delivered (hal : HalScan) : Option (List NeighborAp) :=
  if hal.ret ≠ 0 ∧ hal.ap_array = [] then none else some hal.ap_array

/-- The array a scan for one SSID has to report. -/
def deliveredFor (wifi_getSpecificSSIDInfo : CStr → WifiHalFreqBand → HalScan) (ssid : CStr)
    (freq_in : ℚ) : Option (List NeighborAp) :=
  (freqBand freq_in).bind fun band => (wifi_getSpecificSSIDInfo ssid band).delivered

def securityTable (wifiHALVer : CStr) : List WifiSecurityModes :=
  if wifiHALVer = wifiHalVersion then wifiSecurityModesMapNetapp else wifiSecurityModesMap

def NeighborAp.advertised (wifiHALVer : CStr) (ap : NeighborAp) : CStr :=
  if wifiHALVer = wifiHalVersion then ap.ap_EncryptionMode else ap.ap_SecurityModeEnabled

def namesSecured (table : List WifiSecurityModes) (s : CStr) : Prop :=
  ∃ e ∈ table, e.securityMode ≠ .none ∧ e.securityMode ≠ .notSupported ∧
    strcasestr s e.modeString = true

def ReportedAs (wifiHALVer : CStr) (strtod : CStr → ℚ) (ap : NeighborAp)
    (element : ScanElement) : Prop :=
  element.ssid = ap.ap_SSID ∧ element.signalStrength = ap.ap_SignalStrength ∧
    element.frequency = strtod ap.ap_OperatingFrequencyBand ∧
    (namesSecured (securityTable wifiHALVer) (ap.advertised wifiHALVer) → element.security ≠ .none)

/-- One element for each listed access point, in their order; nothing where no array came. -/
def Reports (wifiHALVer : CStr) (strtod : CStr → ℚ) (aps : Option (List NeighborAp))
    (result : Option (Option ScanList)) : Prop :=
  match aps with
  | none => result = some none
  | some aps => ∃ scan, result = some (some scan) ∧
      List.Forall₂ (ReportedAs wifiHALVer strtod) (aps.filter fun ap => listed ap.ap_SSID)
        scan.elements

/-- HAL 1.0.0 takes every access point for an open one; the other reads the table before its
start where the last name is that of the first entry and the cipher is not AES. -/
def Classifiable (wifiHALVer : CStr) (ap : NeighborAp) : Prop :=
  if wifiHALVer = wifiHalVersion then
    ¬ namesSecured wifiSecurityModesMapNetapp ap.ap_EncryptionMode
  else
    ∀ e, lastNamed ap.ap_SecurityModeEnabled = some e → e.securityMode = .none →
      strcasestr ap.ap_EncryptionMode "AES".toList = true

def Classified (wifiHALVer : CStr) (ap : NeighborAp) : Prop :=
  ∃ security, encrptType wifiHALVer ap = some security ∧
    (namesSecured (securityTable wifiHALVer) (ap.advertised wifiHALVer) → security ≠ .none)

theorem occursAt_of_mem (h : e ∈ wifiSecurityModesMap)
    (hocc : strcasestr sec e.modeString = true) :
    ∃ i, i < wifiSecurityModesMap.length ∧ wifiSecurityModesMap[i]? = some e ∧
      occursAt sec i = true := by
  obtain ⟨i, hi, hget⟩ := List.getElem_of_mem h
  have he : wifiSecurityModesMap[i]? = some e := List.getElem?_eq_some_iff.mpr ⟨hi, hget⟩
  refine ⟨i, hi, he, ?_⟩
  rw [occursAt, he]
  exact hocc

theorem not_namesSecured_nil : ¬ namesSecured wifiSecurityModesMap [] := by
  rintro ⟨e, he, -, -, hocc⟩
  have hno : ∀ e ∈ wifiSecurityModesMap, strcasestr [] e.modeString = false := by decide
  rw [hno e he] at hocc
  cases hocc

theorem not_namesSecured_of_first (h : lastIndex sec wifiSecurityModesMap.length = some 0) :
    ¬ namesSecured wifiSecurityModesMap sec := by
  rintro ⟨e, he, hmode, -, hocc⟩
  obtain ⟨i, hi, hget, hyes⟩ := occursAt_of_mem he hocc
  cases i with
  | zero =>
    cases hget
    exact hmode rfl
  | succ j =>
    rw [occursAt_above h j.succ_pos hi] at hyes
    cases hyes

theorem no_wep_of_first (h : lastIndex sec wifiSecurityModesMap.length = some 0) :
    strcasestr sec "WEP".toList = false :=
  occursAt_above h Nat.one_pos (by decide)

/-- What is read above the first entry is never the mode for none. -/
theorem readAt_above : ∀ i : Fin wifiSecurityModesMap.length, i.val ≠ 0 → ∀ aes wep : Bool,
    ((wifiSecurityModesMap.get i).modeString = "WEP".toList → wep = true) →
    (readAt i aes wep).any (fun mode => mode ≠ .none) = true := by
  decide

theorem first_of_mode_none : ∀ i : Fin wifiSecurityModesMap.length,
    (wifiSecurityModesMap.get i).securityMode = .none → i.val = 0 := by
  decide

theorem classified_netapp (hver : wifiHALVer = wifiHalVersion) (ap : NeighborAp) :
    Classified wifiHALVer ap ↔ Classifiable wifiHALVer ap := by
  have htype : encrptType wifiHALVer ap = some .none := by
    rw [encrptType, if_pos hver]
    rfl
  rw [Classified, Classifiable, securityTable, NeighborAp.advertised, if_pos hver, if_pos hver,
    if_pos hver, htype]
  apply Iff.intro
  · rintro ⟨security, hsec, h⟩ hnames
    cases hsec
    exact h hnames rfl
  · intro h
    exact ⟨.none, rfl, fun hnames => absurd hnames h⟩

theorem classified_table (hver : wifiHALVer ≠ wifiHalVersion) (ap : NeighborAp) :
    Classified wifiHALVer ap ↔ Classifiable wifiHALVer ap := by
  rw [Classified, Classifiable, securityTable, NeighborAp.advertised, encrptType, if_neg hver,
    if_neg hver, if_neg hver, if_neg hver]
  obtain ⟨-, -, -, sec, enc⟩ := ap
  dsimp only
  by_cases hempty : sec = [] ∧ enc = []
  · obtain ⟨rfl, rfl⟩ := hempty
    apply iff_of_true
    · exact ⟨.none, rfl, fun hnames => absurd hnames not_namesSecured_nil⟩
    · intro e he
      cases he
  rw [fromString_table hver hempty, lastNamed_eq]
  cases hi : lastIndex sec wifiSecurityModesMap.length with
  | none => exact iff_of_true ⟨.notSupported, rfl, fun _ h => by cases h⟩ (fun e he => by cases he)
  | some i =>
    obtain ⟨e, he, hocc⟩ := entry_of_occursAt (occursAt_of_lastIndex hi)
    obtain ⟨hlt, hget⟩ := List.getElem?_eq_some_iff.mp he
    dsimp only [Option.bind_some]
    rw [he]
    cases i with
    | zero =>
      cases he
      rw [no_wep_of_first hi]
      cases strcasestr enc "AES".toList with
      | true =>
        exact iff_of_true ⟨.none, rfl, fun h => absurd h (not_namesSecured_of_first hi)⟩
          (fun _ _ _ => rfl)
      | false =>
        apply iff_of_false
        · rintro ⟨security, hread, -⟩
          cases hread
        · intro h
          cases h _ rfl rfl
    | succ j =>
      apply iff_of_true
      · have hread := readAt_above ⟨j + 1, hlt⟩ (Nat.succ_ne_zero j)
          (strcasestr enc "AES".toList) (strcasestr sec "WEP".toList)
          (fun hname => by
            rw [List.get_eq_getElem, hget] at hname
            rw [← hname]
            exact hocc)
        obtain ⟨mode, hmode, hne⟩ := Option.any_eq_true _ _ |>.mp hread
        exact ⟨mode, hmode, fun _ => of_decide_eq_true hne⟩
      · intro e' he' hmode
        cases he'
        have hfirst := first_of_mode_none ⟨j + 1, hlt⟩ (by
          rw [List.get_eq_getElem, hget]
          exact hmode)
        cases hfirst

theorem classified_iff (wifiHALVer : CStr) (ap : NeighborAp) :
    Classified wifiHALVer ap ↔ Classifiable wifiHALVer ap := by
  by_cases hver : wifiHALVer = wifiHalVersion
  · exact classified_netapp hver ap
  · exact classified_table hver ap

theorem scanArray_iff (wifiHALVer : CStr) (strtod : CStr → ℚ) (aps : List NeighborAp) :
    (∃ elements, scanArray wifiHALVer strtod aps = some elements ∧
      List.Forall₂ (ReportedAs wifiHALVer strtod) (aps.filter fun ap => listed ap.ap_SSID)
        elements) ↔
      ∀ ap ∈ aps, listed ap.ap_SSID = true → Classified wifiHALVer ap := by
  induction aps with
  | nil => exact iff_of_true ⟨[], rfl, .nil⟩ (fun ap hap => by cases hap)
  | cons ap aps ih =>
    rw [List.forall_mem_cons, ← ih, scanArray, List.filter_cons]
    by_cases hlist : listed ap.ap_SSID = true
    · rw [if_pos hlist, if_pos hlist]
      apply Iff.intro
      · rintro ⟨elements, hscan, hall⟩
        cases hall with
        | cons helem hrest =>
          rename_i element rest
          cases htype : encrptType wifiHALVer ap with
          | none =>
            rw [htype] at hscan
            cases hscan
          | some security =>
            rw [htype] at hscan
            obtain ⟨rest', hrest', hcons⟩ := Option.map_eq_some_iff.mp hscan
            cases hcons
            exact ⟨fun _ => ⟨security, htype, helem.2.2.2⟩, rest, hrest', hrest⟩
      · rintro ⟨hap, rest, hrest, hall⟩
        obtain ⟨security, htype, hsec⟩ := hap hlist
        rw [htype, hrest]
        exact ⟨_, rfl, .cons ⟨rfl, rfl, rfl, hsec⟩ hall⟩
    · rw [if_neg hlist, if_neg hlist]
      apply Iff.intro
      · intro h
        exact ⟨fun h' => absurd h' hlist, h⟩
      · intro h
        exact h.2

theorem scanWith_reports_iff (wifiHALVer : CStr) (strtod : CStr → ℚ) (name : CStr)
    (hal : HalScan) :
    Reports wifiHALVer strtod hal.delivered (scanWith wifiHALVer strtod name hal) ↔
      ∀ aps, hal.delivered = some aps →
        ∀ ap ∈ aps, listed ap.ap_SSID = true → Classifiable wifiHALVer ap := by
  have hlen : hal.ret ≠ 0 ∧ hal.ap_array.length = 0 ↔ hal.ret ≠ 0 ∧ hal.ap_array = [] :=
    and_congr_right' List.length_eq_zero_iff
  rw [HalScan.delivered, scanWith]
  by_cases hfail : hal.ret ≠ 0 ∧ hal.ap_array = []
  · rw [if_pos hfail, if_pos (hlen.mpr hfail)]
    exact iff_of_true rfl (fun aps haps => by cases haps)
  · rw [if_neg hfail, if_neg (mt hlen.mp hfail)]
    have hloop := scanArray_iff wifiHALVer strtod hal.ap_array
    simp only [classified_iff] at hloop
    apply Iff.intro
    · rintro ⟨scan, hscan, hall⟩ aps haps
      cases haps
      apply hloop.mp
      cases helems : scanArray wifiHALVer strtod hal.ap_array with
      | none =>
        rw [helems] at hscan
        cases hscan
      | some elements =>
        rw [helems] at hscan
        cases hscan
        exact ⟨elements, rfl, hall⟩
    · intro h
      obtain ⟨elements, helems, hall⟩ := hloop.mpr (h _ rfl)
      rw [helems]
      exact ⟨⟨name, elements⟩, rfl, hall⟩

theorem scans_report_iff (wifiHALVer : CStr) (strtod : CStr → ℚ) :
    (∀ hal, Reports wifiHALVer strtod hal.delivered (scanNeighboringWifiAP wifiHALVer strtod hal) ↔
      ∀ aps, hal.delivered = some aps →
        ∀ ap ∈ aps, listed ap.ap_SSID = true → Classifiable wifiHALVer ap) ∧
    ∀ wifi_getSpecificSSIDInfo ssid freq_in,
      Reports wifiHALVer strtod (deliveredFor wifi_getSpecificSSIDInfo ssid freq_in)
        (scanSpecificSSIDWifiAP wifiHALVer strtod wifi_getSpecificSSIDInfo ssid freq_in) ↔
      ∀ aps, deliveredFor wifi_getSpecificSSIDInfo ssid freq_in = some aps →
        ∀ ap ∈ aps, listed ap.ap_SSID = true → Classifiable wifiHALVer ap := by
  apply And.intro
  · intro hal
    exact scanWith_reports_iff wifiHALVer strtod _ hal
  · intro wifi_getSpecificSSIDInfo ssid freq_in
    rw [deliveredFor, scanSpecificSSIDWifiAP]
    cases freqBand freq_in with
    | none => exact iff_of_true rfl (fun aps haps => by cases haps)
    | some band => exact scanWith_reports_iff wifiHALVer strtod _ _

/-- With HAL 1.0.0 a network with WPA2 and AES is reported as open. -/
theorem scanNeighboring_wpa2 : ¬ ∀ wifiHALVer strtod hal, Reports wifiHALVer strtod hal.delivered
    (scanNeighboringWifiAP wifiHALVer strtod hal) := by
  intro h
  obtain ⟨scan, hscan, hall⟩ := h "1.0.0".toList (fun _ => 0)
    ⟨0, [⟨"home".toList, -50, "2.4".toList, [], "WPA2-Personal, AES encryp.".toList⟩]⟩
  cases hscan
  cases hall with
  | cons helem _ =>
    refine helem.2.2.2 ⟨⟨.wpa2PskAes, "WPA2-Personal, AES encryp.".toList⟩, ?_, ?_, ?_, ?_⟩ rfl
      <;> decide

end NetSrvMgr.Wifi
