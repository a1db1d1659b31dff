import NetSrvMgr.IfaceAddress

namespace NetSrvMgr.Ip
open CString Inet
set_option autoImplicit true

/-- The address passes the filters: no unique local one, none made from the MAC address when there
are more, no link-local one and no IPv4 one for documentation. -/
def passes (many : Bool) (macAddr : CStr) (s : IfaceAddr family) : Bool :=
  !checkGlobalV6UlaAddress s.text &&
    !(many && checkGlobalV6BasedMacaddress s.text macAddr = some true) &&
    !chkIpaddrLinklocal s.ip.str family &&
    !(family = .inet && isIPv4AddressScopeDocumentation s.ip.str)

/-- The last passing address in the buffer, or the buffer as it was. -/
def lastPassing (pass : IfaceAddr family → Bool) (ipAddr : List (IfaceAddr family))
    (buffer : AddrArray) : AddrArray × Bool :=
  match (ipAddr.filter pass).getLast? with
  | none => (buffer, false)
  | some s => (s.ip, true)

def IfaceEnv.passing (e : IfaceEnv) (ifName : CStr) (family : Family) : IfaceAddr family → Bool :=
  passes (decide (1 < (e.getIpaddr ifName family).length)) (getMacAddressIfName (e.hwaddr ifName))

def IfaceEnv.lastPassing (e : IfaceEnv) (ifName : CStr) (family : Family) (buffer : AddrArray) :
    AddrArray × Bool :=
  Ip.lastPassing (e.passing ifName family) (e.getIpaddr ifName family) buffer

/-- The addresses of an interface are usable, or there are none. -/
def IfaceEnv.Usable (e : IfaceEnv) (ifName : CStr) (family : Family) : Prop :=
  e.getIpaddr ifName family = [] ∨
    ∃ s ∈ e.getIpaddr ifName family, e.passing ifName family s = true

/-- Both functions store the last passing address and return whether there is one, and without a
passing IPv6 address the settings have the IPv4 one. -/
structure Agree (e : IfaceEnv) (ifName : CStr) : Prop where
  interfaceConfig : ∀ family interfaceIp netMask, ∃ netMask',
    getInterfaceConfig e ifName family interfaceIp netMask =
      some ((e.lastPassing ifName family interfaceIp).1, netMask',
        (e.lastPassing ifName family interfaceIp).2)
  stbipFamily : ∀ text family stbip, familyOf text = some family →
    getSTBipFamily e stbip text = some (e.lastPassing ifName family stbip)
  fallsBack : ∀ param : IfaceSettings, strcaseeq param.ipversion.str "IPV6".toList = false →
    strcaseeq param.ipversion.str "IPV4".toList = false →
    (e.lastPassing ifName .inet6 param.ipaddress).2 = false →
    ∃ netmask, getIPSettingsFamily e ifName param =
      let r := e.lastPassing ifName .inet param.ipaddress
      let param := { param with ipaddress := r.1, netmask := netmask }
      some (if r.2 then (param.setVersion "IPV4".toList, some .inet) else (param, none))

theorem eraseColons_append (s t : CStr) :
    eraseColons (s ++ t) = eraseColons s ++ eraseColons t := by
  rw [eraseColons, List.map_append, List.filter_append]
  rfl

theorem eraseColons_byteText_length (b : BitVec 8) : (eraseColons (byteText b)).length = 2 := by
  have hdigit : ∀ n < 16, (hexDigit n).toLower ≠ ':' := by decide
  have hhigh := hdigit (b.toNat / 16) (by omega)
  have hlow := hdigit (b.toNat % 16) (by omega)
  simp only [eraseColons, byteText, List.map_cons, List.map_nil, List.filter_cons, decide_true,
    if_true, List.filter_nil, List.length_cons, List.length_nil, ne_eq, hhigh, hlow,
    not_false_eq_true]

theorem eraseColons_colon (s : CStr) : eraseColons (':' :: s) = eraseColons s := rfl

theorem eraseColons_macText_length (mac : Mac) : (eraseColons (macText mac)).length = 12 := by
  simp only [macText, eraseColons_append, eraseColons_colon, List.length_append,
    eraseColons_byteText_length]

theorem checkGlobalV6BasedMacaddress_isSome (ipv6Addr : CStr) (hwaddr : Option Mac) :
    (checkGlobalV6BasedMacaddress ipv6Addr (getMacAddressIfName hwaddr)).isSome = true := by
  rw [checkGlobalV6BasedMacaddress]
  by_cases hempty : (ipv6Addr.isEmpty && (getMacAddressIfName hwaddr).isEmpty) = true
  · rw [if_pos hempty]
    rfl
  · rw [if_neg hempty]
    cases hwaddr with
    | none => rfl
    | some mac =>
      by_cases hshort : (getMacAddressIfName (some mac)).length < 12
      · rw [if_pos hshort]
        rfl
      · have hlen : ¬ (eraseColons (getMacAddressIfName (some mac))).length < 6 := by
          rw [getMacAddressIfName, eraseColons_macText_length]
          decide
        rw [if_neg hshort]
        dsimp only
        rw [if_neg hlen]
        rfl

theorem stores_eq (h : (checkGlobalV6BasedMacaddress s.text macAddr).isSome = true) (many : Bool) :
    stores many macAddr s = some (passes many macAddr s) := by
  obtain ⟨macBased, hmac⟩ := Option.isSome_iff_exists.1 h
  rw [stores, passes, hmac]
  by_cases hula : checkGlobalV6UlaAddress s.text = true
  · rw [if_pos hula, hula]
    rfl
  · rw [if_neg hula, Bool.eq_false_iff.2 hula]
    cases many with
    | false => rfl
    | true => cases macBased with
      | false => rfl
      | true => rfl

theorem lastPassing_nil (pass : IfaceAddr family → Bool) (buffer : AddrArray) :
    lastPassing pass [] buffer = (buffer, false) := rfl

theorem lastPassing_pos {pass : IfaceAddr family → Bool} (hs : pass s = true)
    (ipAddr : List (IfaceAddr family)) (buffer : AddrArray) :
    lastPassing pass (s :: ipAddr) buffer = ((lastPassing pass ipAddr s.ip).1, true) := by
  rw [lastPassing, List.filter_cons_of_pos hs, List.getLast?_cons, lastPassing]
  cases (ipAddr.filter pass).getLast? with
  | none => rfl
  | some t => rfl

theorem lastPassing_neg {pass : IfaceAddr family → Bool} (hs : ¬ pass s = true)
    (ipAddr : List (IfaceAddr family)) (buffer : AddrArray) :
    lastPassing pass (s :: ipAddr) buffer = lastPassing pass ipAddr buffer := by
  rw [lastPassing, List.filter_cons_of_neg hs, lastPassing]

theorem walkAddresses_eq (many : Bool) (hwaddr : Option Mac) (ipAddr : List (IfaceAddr family))
    (buffer : AddrArray) :
    walkAddresses many (getMacAddressIfName hwaddr) ipAddr buffer =
      some (lastPassing (passes many (getMacAddressIfName hwaddr)) ipAddr buffer) := by
  induction ipAddr generalizing buffer with
  | nil => rfl
  | cons s ipAddr ih =>
    have hstores := stores_eq (checkGlobalV6BasedMacaddress_isSome s.text hwaddr) many
    rw [walkAddresses, hstores, Option.bind_some]
    by_cases hs : passes many (getMacAddressIfName hwaddr) s = true
    · rw [if_pos hs, ih, lastPassing_pos hs]
      rfl
    · rw [if_neg hs, ih, lastPassing_neg hs]

theorem lastPassing_snd (pass : IfaceAddr family → Bool) (ipAddr : List (IfaceAddr family))
    (buffer : AddrArray) :
    (lastPassing pass ipAddr buffer).2 = true ↔ ∃ s ∈ ipAddr, pass s = true := by
  induction ipAddr generalizing buffer with
  | nil =>
    apply iff_of_false (by rw [lastPassing_nil]; exact Bool.false_ne_true)
    rintro ⟨s, hs, _⟩
    cases hs
  | cons s ipAddr ih =>
    by_cases hs : pass s = true
    · rw [lastPassing_pos hs]
      exact iff_of_true rfl ⟨s, List.mem_cons_self, hs⟩
    · rw [lastPassing_neg hs, ih]
      apply Iff.intro
      · rintro ⟨t, ht, hpass⟩
        exact ⟨t, List.mem_cons_of_mem s ht, hpass⟩
      · rintro ⟨t, ht, hpass⟩
        rcases List.mem_cons.1 ht with rfl | ht
        · exact absurd hpass hs
        · exact ⟨t, ht, hpass⟩

theorem getSTBipFamily_eq (hfound : e.stbInterface = some ifName)
    (hfamily : familyOf text = some family) (stbip : AddrArray) :
    getSTBipFamily e stbip text = some (e.lastPassing ifName family stbip) := by
  rw [getSTBipFamily, hfamily]
  dsimp only
  rw [hfound]
  dsimp only
  rw [walkAddresses_eq, IfaceEnv.lastPassing, IfaceEnv.passing]
  split
  · next hempty =>
    rw [List.isEmpty_iff.1 hempty]
    rfl
  · rfl

/-- The result does not say whether an address was stored. -/
theorem getInterfaceConfig_eq (e : IfaceEnv) (ifName : CStr) (family : Family)
    (interfaceIp netMask : AddrArray) :
    ∃ netMask', getInterfaceConfig e ifName family interfaceIp netMask =
      some ((e.lastPassing ifName family interfaceIp).1, netMask',
        !(e.getIpaddr ifName family).isEmpty) := by
  rw [getInterfaceConfig]
  rw [walkAddresses_eq, IfaceEnv.lastPassing, IfaceEnv.passing]
  split
  · next hempty =>
    rw [List.isEmpty_iff.1 hempty]
    exact ⟨netMask, rfl⟩
  · next hempty =>
    rw [Bool.eq_false_iff.2 hempty]
    exact ⟨_, rfl⟩

theorem usable_iff (e : IfaceEnv) (ifName : CStr) (family : Family) (buffer : AddrArray) :
    e.Usable ifName family ↔
      (!(e.getIpaddr ifName family).isEmpty) = (e.lastPassing ifName family buffer).2 := by
  have hlast := lastPassing_snd (e.passing ifName family) (e.getIpaddr ifName family) buffer
  rw [IfaceEnv.Usable, ← hlast, IfaceEnv.lastPassing]
  cases e.getIpaddr ifName family with
  | nil => exact iff_of_true (Or.inl rfl) rfl
  | cons s ipAddr =>
    apply Iff.intro
    · rintro (hnil | hpass)
      · cases hnil
      · rw [hpass]
        rfl
    · intro hpass
      exact Or.inr hpass.symm

theorem getInterfaceConfig_usable (h : e.Usable ifName family) (interfaceIp netMask : AddrArray) :
    ∃ netMask', getInterfaceConfig e ifName family interfaceIp netMask =
      some ((e.lastPassing ifName family interfaceIp).1, netMask',
        (e.lastPassing ifName family interfaceIp).2) := by
  rw [← (usable_iff e ifName family interfaceIp).1 h]
  exact getInterfaceConfig_eq e ifName family interfaceIp netMask

theorem getIPSettingsFamily_unspecified (h : ∀ family, e.Usable ifName family)
    (h6 : strcaseeq param.ipversion.str "IPV6".toList = false)
    (h4 : strcaseeq param.ipversion.str "IPV4".toList = false)
    (hnone : (e.lastPassing ifName .inet6 param.ipaddress).2 = false) :
    ∃ netmask, getIPSettingsFamily e ifName param =
      let r := e.lastPassing ifName .inet param.ipaddress
      let param := { param with ipaddress := r.1, netmask := netmask }
      some (if r.2 then (param.setVersion "IPV4".toList, some .inet) else (param, none)) := by
  obtain ⟨mask6, hconfig6⟩ := getInterfaceConfig_usable (h .inet6) param.ipaddress param.netmask
  have hkeep : (e.lastPassing ifName .inet6 param.ipaddress).1 = param.ipaddress := by
    rw [IfaceEnv.lastPassing, lastPassing] at hnone ⊢
    split
    · rfl
    · next s hs =>
      rw [hs] at hnone
      cases hnone
  obtain ⟨mask4, hconfig4⟩ := getInterfaceConfig_usable (h .inet) param.ipaddress mask6
  refine ⟨mask4, ?_⟩
  simp only [getIPSettingsFamily, h6, h4, IfaceSettings.getInterfaceConfig, hconfig6, hnone, hkeep,
    hconfig4, Option.map_some, Option.bind_some, Bool.false_eq_true, if_false]

/-- The two functions agree exactly when no family has addresses of which none passes. -/
theorem interface_address_agree_iff (e : IfaceEnv) (ifName : CStr)
    (hfound : e.stbInterface = some ifName) :
    Agree e ifName ↔ ∀ family, e.getIpaddr ifName family = [] ∨
      ∃ s ∈ e.getIpaddr ifName family, e.passing ifName family s = true := by
  apply Iff.intro
  · intro h family
    have buffer : AddrArray := .snprintf []
    obtain ⟨mask, hagree⟩ := h.interfaceConfig family buffer buffer
    obtain ⟨mask', hcode⟩ := getInterfaceConfig_eq e ifName family buffer buffer
    rw [hcode, Option.some.injEq, Prod.mk.injEq, Prod.mk.injEq] at hagree
    exact (usable_iff e ifName family buffer).2 hagree.2.2
  · intro h
    exact
      { interfaceConfig := fun family => getInterfaceConfig_usable (h family)
        stbipFamily := fun text family stbip hfamily => getSTBipFamily_eq hfound hfamily stbip
        fallsBack := fun param h6 h4 hnone => getIPSettingsFamily_unspecified h h6 h4 hnone }

/-- An interface with one address of a family, and no others. -/
def oneAddress (family : Family) (s : IfaceAddr family) : IfaceEnv where
  getIpaddr := fun _ other => if h : family = other then [h ▸ s] else []
  hwaddr := fun _ => some fun _ => 0xab
  netMask := fun _ _ => none
  routeInterface := some "eth0".toList
  currentActiveInterface := none

def publicAddress : IfaceAddr .inet := ⟨"10.0.0.5/24".toList, by decide, by decide⟩

def uniqueLocalAddress : IfaceAddr .inet6 := ⟨"fd00::5/64".toList, by decide, by decide⟩

theorem interface_address_agree_public :
    Agree (oneAddress .inet publicAddress) "eth0".toList ↔
      ∀ family, (oneAddress .inet publicAddress).getIpaddr "eth0".toList family = [] ∨
        ∃ s ∈ (oneAddress .inet publicAddress).getIpaddr "eth0".toList family,
          (oneAddress .inet publicAddress).passing "eth0".toList family s = true :=
  interface_address_agree_iff (oneAddress .inet publicAddress) "eth0".toList rfl

/-- With a unique local address only, `getInterfaceConfig` returns true. -/
theorem uniqueLocal_not_agree :
    ¬ ∀ e ifName, e.stbInterface = some ifName → Agree e ifName := by
  intro h
  have hagree := h (oneAddress .inet6 uniqueLocalAddress) "eth0".toList rfl
  obtain ⟨mask, hcode⟩ := hagree.interfaceConfig .inet6 (.snprintf []) (.snprintf [])
  have hret : (getInterfaceConfig (oneAddress .inet6 uniqueLocalAddress) "eth0".toList .inet6
      (.snprintf []) (.snprintf [])).map (·.2.2) = some true := by decide
  have hnone : ((oneAddress .inet6 uniqueLocalAddress).lastPassing "eth0".toList .inet6
      (.snprintf [])).2 = false := by decide
  rw [hcode, Option.map_some, hnone] at hret
  cases hret

end NetSrvMgr.Ip
