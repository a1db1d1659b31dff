import NetSrvMgr.WifiConnect

namespace NetSrvMgr.Wifi
open CString
set_option autoImplicit true

structure WifiSecurityModes where
  securityMode : SsidSecurity
  modeString : CStr
  deriving DecidableEq

def wifiSecurityModesMapNetapp : List WifiSecurityModes := [
  ⟨.none, "No Security".toList⟩,
  ⟨.wep64, "WEP (Open & Shared)".toList⟩,
  ⟨.wpaPskAes, "WPA-Personal, AES encryp.".toList⟩,
  ⟨.wpaPskTkip, "WPA-Personal, TKIP encryp.".toList⟩,
  ⟨.wpa2PskAes, "WPA2-Personal, AES encryp.".toList⟩,
  ⟨.wpa2PskTkip, "WPA2-Personal, TKIP encryp.".toList⟩,
  ⟨.wpaEnterpriseTkip, "WPA-ENTERPRISE, TKIP".toList⟩,
  ⟨.wpaEnterpriseAes, "WPA-ENTERPRISE, AES".toList⟩,
  ⟨.wpa2EnterpriseTkip, "WPA2-ENTERPRISE, TKIP".toList⟩,
  ⟨.wpa2EnterpriseAes, "WPA2-ENTERPRISE, AES".toList⟩,
  ⟨.wpaWpa2Psk, "WPA-WPA2-Personal".toList⟩,
  ⟨.wpaWpa2Enterprise, "WPA-WPA2-ENTERPRISE".toList⟩,
  ⟨.wpa3Sae, "WPA3".toList⟩,
  ⟨.wpa3PskAes, "WPA2-WPA3".toList⟩,
  ⟨.notSupported, "Security format not supported".toList⟩]

def wifiSecurityModesMap : List WifiSecurityModes := [
  ⟨.none, "None".toList⟩,
  ⟨.wep64, "WEP".toList⟩,
  ⟨.wpaPskTkip, "WPA".toList⟩,
  ⟨.wpaPskAes, "WPA".toList⟩,
  ⟨.wpa2PskTkip, "WPA2".toList⟩,
  ⟨.wpa2PskAes, "WPA2".toList⟩,
  ⟨.wpaEnterpriseTkip, "WPA-ENTERPRISE".toList⟩,
  ⟨.wpaEnterpriseAes, "WPA-ENTERPRISE".toList⟩,
  ⟨.wpa2EnterpriseTkip, "WPA2-ENTERPRISE".toList⟩,
  ⟨.wpa2EnterpriseAes, "WPA2-ENTERPRISE".toList⟩,
  ⟨.wpaWpa2Psk, "WPA-WPA2".toList⟩,
  ⟨.wpaWpa2Enterprise, "WPA-WPA2-ENTERPRISE".toList⟩,
  ⟨.wpa3Sae, "WPA3".toList⟩,
  ⟨.wpa3PskAes, "WPA2-WPA3".toList⟩,
  ⟨.notSupported, "Security format not supported".toList⟩]

def wifiHalVersion : CStr := "1.0.0".toList

/-- `wifi_securityModesMap[i].securityMode`; `none` where the index is outside the table. -/
def readMode (i : Int) : Option SsidSecurity :=
  if i < 0 then none else (wifiSecurityModesMap[i.toNat]?).map WifiSecurityModes.securityMode

def occursAt (secModeString : CStr) (i : Nat) : Bool :=
  (wifiSecurityModesMap[i]?).any fun e => strcasestr secModeString e.modeString

/-- The loop that goes down through the table, with the first `n` entries left. -/
def searchBack (secModeString encryptionType : CStr) : Nat → Option SsidSecurity
  | 0 => some .notSupported
  | i + 1 =>
    if occursAt secModeString i then
      if strcasestr encryptionType "AES".toList || strcasestr secModeString "WEP".toList then
        readMode i
      else readMode ((i : Int) - 1)
    else searchBack secModeString encryptionType i

/-- `none` where the table is read outside its bounds; the arguments may be null pointers. -/
def getWifiSecurityModeFromString (wifiHALVer : CStr) (secModeString encryptionType : Option CStr) :
    Option SsidSecurity :=
  match secModeString, encryptionType with
  | some secModeString, some encryptionType =>
    if secModeString.length = 0 ∧ encryptionType.length = 0 then some .none
    else if wifiHALVer = wifiHalVersion then
      match wifiSecurityModesMapNetapp.find? fun e => strcasestr secModeString e.modeString with
      | some e => some e.securityMode
      | none => some .notSupported
    else searchBack secModeString encryptionType wifiSecurityModesMap.length
  | _, _ => some .none

def SsidSecurity.isTkip : SsidSecurity → Bool
  | wpaPskTkip | wpa2PskTkip | wpaEnterpriseTkip | wpa2EnterpriseTkip => true
  | _ => false

/-- The last entry whose name occurs in the string. -/
def lastNamed (secModeString : CStr) : Option WifiSecurityModes :=
  wifiSecurityModesMap.reverse.find? fun e => strcasestr secModeString e.modeString

def modesNamed (name : CStr) : List SsidSecurity :=
  (wifiSecurityModesMap.filter fun e => e.modeString = name).map WifiSecurityModes.securityMode

/-- The mode of an entry with the name: the AES or only one with AES or for WEP, else the TKIP
one if there is one. -/
def modeNamed (name : CStr) (aes : Bool) : SsidSecurity :=
  let mode :=
    if aes || name = "WEP".toList then (modesNamed name).find? fun mode => !mode.isTkip
    else ((modesNamed name).find? SsidSecurity.isTkip).or (modesNamed name).head?
  mode.getD .notSupported

def wantedSecurityMode (secModeString encryptionType : CStr) : SsidSecurity :=
  if secModeString = [] ∧ encryptionType = [] then .none
  else
    match lastNamed secModeString with
    | none => .notSupported
    | some e => modeNamed e.modeString (strcasestr encryptionType "AES".toList)

def comesInPair (name : CStr) : Bool := (modesNamed name).length = 2

/-- The cipher is AES, or the last name that occurs comes with a neighbour exactly where "WEP"
does not occur. -/
def PicksRightEntry (secModeString encryptionType : CStr) : Prop :=
  (secModeString = [] ∧ encryptionType = []) ∨ strcasestr encryptionType "AES".toList = true ∨
    ∀ e, lastNamed secModeString = some e →
      comesInPair e.modeString = !strcasestr secModeString "WEP".toList

/-- The index the loop stops at. -/
def lastIndex (secModeString : CStr) : Nat → Option Nat
  | 0 => none
  | i + 1 => if occursAt secModeString i then some i else lastIndex secModeString i

/-- What is read once the loop has stopped at `i`. -/
def readAt (i : Nat) (aes wep : Bool) : Option SsidSecurity :=
  if aes || wep then readMode i else readMode ((i : Int) - 1)

theorem searchBack_eq (secModeString encryptionType : CStr) (n : Nat) :
    searchBack secModeString encryptionType n =
      match lastIndex secModeString n with
      | none => some .notSupported
      | some i => readAt i (strcasestr encryptionType "AES".toList)
          (strcasestr secModeString "WEP".toList) := by
  induction n with
  | zero => rfl
  | succ i ih =>
    rw [searchBack, lastIndex]
    cases occursAt secModeString i with
    | true => rfl
    | false => exact ih

theorem occursAt_of_lastIndex (h : lastIndex secModeString n = some i) :
    occursAt secModeString i = true := by
  induction n with
  | zero => cases h
  | succ j ih =>
    rw [lastIndex] at h
    split at h
    · rename_i hj
      cases h
      exact hj
    · exact ih h

theorem entry_of_occursAt (h : occursAt secModeString i = true) :
    ∃ e, wifiSecurityModesMap[i]? = some e ∧ strcasestr secModeString e.modeString = true := by
  rw [occursAt, Option.any_eq_true] at h
  exact h

theorem find_reverse_take (secModeString : CStr) (n : Nat) :
    ((wifiSecurityModesMap.take n).reverse.find? fun e => strcasestr secModeString e.modeString) =
      (lastIndex secModeString n).bind (wifiSecurityModesMap[·]?) := by
  induction n with
  | zero => rfl
  | succ i ih =>
    rw [List.take_add_one, List.reverse_append, List.find?_append, ih, lastIndex, occursAt]
    cases hi : wifiSecurityModesMap[i]? with
    | none => rfl
    | some e =>
      simp only [Option.toList_some, List.reverse_singleton, List.find?_singleton, Option.any_some]
      by_cases he : strcasestr secModeString e.modeString = true
      · rw [if_pos he, if_pos he]
        exact hi.symm
      · rw [if_neg he, if_neg he]
        rfl

theorem lastNamed_eq (secModeString : CStr) :
    lastNamed secModeString =
      (lastIndex secModeString wifiSecurityModesMap.length).bind (wifiSecurityModesMap[·]?) := by
  rw [← find_reverse_take, List.take_length]
  rfl

theorem occursAt_above (h : lastIndex secModeString n = some i) (hij : i < j) (hj : j < n) :
    occursAt secModeString j = false := by
  induction n with
  | zero => cases h
  | succ k ih =>
    rw [lastIndex] at h
    split at h
    · cases h
      omega
    · rename_i hk
      rcases Nat.lt_succ_iff_lt_or_eq.mp hj with hlt | rfl
      · exact ih h hlt
      · exact Bool.eq_false_iff.mpr hk

/-- The entry the loop stops at is the last one of its name. -/
theorem next_name_ne (h : lastIndex secModeString wifiSecurityModesMap.length = some i)
    (he : wifiSecurityModesMap[i]? = some e) :
    (wifiSecurityModesMap[i + 1]?).map WifiSecurityModes.modeString ≠ some e.modeString := by
  intro hname
  obtain ⟨e', he', hsame⟩ := Option.map_eq_some_iff.mp hname
  obtain ⟨hj, -⟩ := List.getElem?_eq_some_iff.mp he'
  have hno := occursAt_above h (Nat.lt_succ_self i) hj
  have hyes := occursAt_of_lastIndex h
  rw [occursAt, he'] at hno
  rw [occursAt, he] at hyes
  rw [Option.any_some, hsame] at hno
  rw [Option.any_some, hno] at hyes
  cases hyes

/-- Entry by entry; the one for WEP is only reached with "WEP" in the string. -/
theorem readAt_iff : ∀ i : Fin wifiSecurityModesMap.length, ∀ aes wep : Bool,
    (wifiSecurityModesMap[i.val + 1]?).map WifiSecurityModes.modeString ≠
      some (wifiSecurityModesMap.get i).modeString →
    ((wifiSecurityModesMap.get i).modeString = "WEP".toList → wep = true) →
    (readAt i aes wep = some (modeNamed (wifiSecurityModesMap.get i).modeString aes) ↔
      aes = true ∨ comesInPair (wifiSecurityModesMap.get i).modeString = !wep) := by
  decide

theorem fromString_table (hver : halVer ≠ wifiHalVersion) (hempty : ¬ (sec = [] ∧ enc = [])) :
    getWifiSecurityModeFromString halVer (some sec) (some enc) =
      match lastIndex sec wifiSecurityModesMap.length with
      | none => some .notSupported
      | some i => readAt i (strcasestr enc "AES".toList) (strcasestr sec "WEP".toList) := by
  have hlen : ¬ (sec.length = 0 ∧ enc.length = 0) := by
    rw [List.length_eq_zero_iff, List.length_eq_zero_iff]
    exact hempty
  rw [getWifiSecurityModeFromString, if_neg hlen, if_neg hver]
  exact searchBack_eq sec enc wifiSecurityModesMap.length

theorem securityMode_wanted_iff (hver : halVer ≠ wifiHalVersion) (sec enc : CStr) :
    getWifiSecurityModeFromString halVer (some sec) (some enc) = some (wantedSecurityMode sec enc) ↔
      PicksRightEntry sec enc := by
  by_cases hempty : sec = [] ∧ enc = []
  · obtain ⟨rfl, rfl⟩ := hempty
    exact iff_of_true rfl (Or.inl (And.intro rfl rfl))
  rw [fromString_table hver hempty, wantedSecurityMode, if_neg hempty, lastNamed_eq,
    PicksRightEntry, or_iff_right hempty, lastNamed_eq]
  cases hi : lastIndex sec wifiSecurityModesMap.length with
  | none => exact iff_of_true rfl (Or.inr (fun e he => by cases he))
  | some i =>
    obtain ⟨e, he, hocc⟩ := entry_of_occursAt (occursAt_of_lastIndex hi)
    obtain ⟨hlt, hget⟩ := List.getElem?_eq_some_iff.mp he
    have hwep : e.modeString = "WEP".toList → strcasestr sec "WEP".toList = true := by
      intro hname
      rw [← hname]
      exact hocc
    have hread := readAt_iff ⟨i, hlt⟩ (strcasestr enc "AES".toList) (strcasestr sec "WEP".toList)
    rw [List.get_eq_getElem] at hread
    rw [hget] at hread
    dsimp only [Option.bind_some]
    rw [he]
    dsimp only
    rw [hread (next_name_ne hi he) hwep]
    apply or_congr Iff.rfl
    apply Iff.intro
    · intro h e' he'
      cases he'
      exact h
    · intro h
      exact h e rfl

theorem securityMode_wanted_wpa2Tkip :
    getWifiSecurityModeFromString [] (some "WPA2".toList) (some "TKIP".toList) =
        some (wantedSecurityMode "WPA2".toList "TKIP".toList) ↔
      PicksRightEntry "WPA2".toList "TKIP".toList :=
  securityMode_wanted_iff (by decide) "WPA2".toList "TKIP".toList

/-- WPA3 with another cipher is taken for the mixed enterprise mode before it. -/
theorem securityMode_wpa3Tkip : ¬ ∀ halVer sec enc, halVer ≠ wifiHalVersion →
    getWifiSecurityModeFromString halVer (some sec) (some enc) =
      some (wantedSecurityMode sec enc) := by
  intro h
  have h3 := h [] "WPA3".toList "TKIP".toList (by decide)
  revert h3
  decide

end NetSrvMgr.Wifi
