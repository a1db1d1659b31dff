import NetSrvMgr.RouteManager

namespace NetSrvMgr.Route
open CString
set_option autoImplicit true

section
variable (h : Host)

def Host.accepts (s : CStr) : Bool := h.inetPton4 s || h.inetPton6 s

/-- `inet_pton` accepts neither the empty string nor one with blanks around it. -/
def Host.PlainAddresses : Prop := ∀ s, h.accepts s = true → gStrstrip s = s ∧ s ≠ []

/-- There is no value: the string is empty or contains "null". -/
def noValue (s : CStr) : Bool := gStrrstr s "null".toList || s.isEmpty

/-- What an address is to be, blanks around it aside. -/
def addressWanted (s : CStr) : Bool := noValue (gStrstrip s) || h.accepts (gStrstrip s)

def dnsTokens (s : CStr) : List CStr := gStrsplitSet (gStrstrip s) " ;\n".toList

/-- What the DNS servers are to be. -/
def dnsWanted (s : CStr) : Bool :=
  noValue (gStrstrip s) || (dnsTokens s).any fun token => !token.isEmpty && h.accepts token

end

/-- The four strings of an array element that decide about it. -/
structure GatewayStrings where
  isgateway : CStr
  dnsConfig : CStr
  gatewayIp : CStr
  gatewayIpV6 : CStr

/-- `none` where one of them is missing. -/
def CJSON.gatewayStrings (gwData : CJSON) : Option GatewayStrings :=
  match gwData.text "isgateway", gwData.text "dnsconfig", gwData.text "gatewayip",
    gwData.text "gatewayipv6" with
  | some isgateway, some dnsConfig, some gatewayIp, some gatewayIpV6 =>
    some ⟨isgateway, dnsConfig, gatewayIp, gatewayIpV6⟩
  | _, _, _, _ => none

/-- The entry for an array element. -/
def CJSON.gatewayEntry (gwData : CJSON) (x : GatewayStrings) : GwyDeviceData where
  serialNum := (gwData.text "sno").getD []
  gwyip := .of x.gatewayIp
  gwyipv6 := .of x.gatewayIpV6
  ipv6prefix := (gwData.text "ipv6Prefix").getD []
  devicetype := (gwData.text "DevType").getD []
  dnsconfig := .of x.dnsConfig
  isRouteSet := false

def GatewayStrings.isYes (x : GatewayStrings) : Bool :=
  gStrrstr (gStrstrip x.isgateway) "yes".toList

section
variable (h : Host)

def GatewayStrings.accepted (x : GatewayStrings) : Bool :=
  x.isYes && checkvalidhostname h x.dnsConfig && checkvalidip h x.gatewayIp &&
    checkvalidip h x.gatewayIpV6

def GatewayStrings.wanted (x : GatewayStrings) : Bool :=
  x.isYes && dnsWanted h x.dnsConfig && addressWanted h x.gatewayIp &&
    addressWanted h x.gatewayIpV6

def wantedGateway (gwData : CJSON) : Option GwyDeviceData :=
  gwData.gatewayStrings.bind fun x => if x.wanted h then some (gwData.gatewayEntry x) else none

/-- An address that is valid but for blanks around it. -/
def Padded (s : CStr) : Bool :=
  !noValue (gStrstrip s) && h.accepts (gStrstrip s) && gStrstrip s ≠ s

/-- Nothing but blanks stands between two separators, or at the end after one. -/
def hasBlankToken (s : CStr) : Bool := (dnsTokens s).any fun token => (gStrstrip token).isEmpty

/-- An element that is wanted has no blanks around its addresses, and one that is unwanted for
its DNS servers only has no blank token among them. -/
def GatewayStrings.Clear (x : GatewayStrings) : Prop :=
  (x.wanted h = true → Padded h x.gatewayIp = false ∧ Padded h x.gatewayIpV6 = false) ∧
  (x.isYes = true → dnsWanted h x.dnsConfig = false → hasBlankToken x.dnsConfig = true →
    checkvalidip h x.gatewayIp = true → checkvalidip h x.gatewayIpV6 = false)

theorem acceptGateway_eq (gwData : CJSON) :
    acceptGateway h gwData = gwData.gatewayStrings.bind fun x =>
      if x.accepted h then some (gwData.gatewayEntry x) else none := by
  rw [acceptGateway, CJSON.gatewayStrings]
  cases gwData.text "isgateway" with
  | none => rfl
  | some isgateway =>
    cases gwData.text "dnsconfig" with
    | none => rfl
    | some dnsConfig =>
      cases gwData.text "gatewayip" with
      | none => rfl
      | some gatewayIp =>
        cases gwData.text "gatewayipv6" with
        | none => rfl
        | some gatewayIpV6 => rfl

end

theorem isInfix_of_mem_dnsTokens (ht : token ∈ dnsTokens s) : token <:+: gStrstrip s := by
  rw [dnsTokens, gStrsplitSet] at ht
  split at ht
  · cases ht
  · exact (mem_splitOnP ht).1

variable {h : Host}

theorem checkvalidip_raw (s : CStr) :
    checkvalidip h s = (noValue (gStrstrip s) || h.accepts s) := by
  rw [checkvalidip, noValue, Host.accepts]
  cases gStrrstr (gStrstrip s) "null".toList || (gStrstrip s).isEmpty <;> rfl

theorem checkvalidip_eq (hplain : h.PlainAddresses) (s : CStr) :
    checkvalidip h s = (addressWanted h s && !Padded h s) := by
  rw [checkvalidip_raw, addressWanted, Padded]
  cases noValue (gStrstrip s) with
  | true => rfl
  | false =>
    rw [Bool.false_or, Bool.false_or, Bool.not_false, Bool.true_and]
    by_cases hs : gStrstrip s = s
    · rw [hs, decide_eq_false (not_not.2 rfl), Bool.and_false, Bool.not_false, Bool.and_true]
    · have hrej : h.accepts s = false := by
        rw [← Bool.not_eq_true]
        intro hacc
        exact hs (hplain s hacc).1
      rw [decide_eq_true hs, hrej, Bool.and_true, Bool.and_not_self]

theorem noValue_token (hs : noValue (gStrstrip s) = false) (ht : token ∈ dnsTokens s) :
    noValue (gStrstrip token) = (gStrstrip token).isEmpty := by
  rw [noValue, Bool.or_eq_false_iff] at hs
  have hnull : gStrrstr (gStrstrip token) "null".toList = false := by
    apply decide_eq_false
    intro hin
    have hpart := (gStrstrip_part token).trans (isInfix_of_mem_dnsTokens ht)
    exact of_decide_eq_false hs.1 (hin.trans hpart)
  rw [noValue, hnull, Bool.false_or]

theorem checkvalidhostname_eq (hplain : h.PlainAddresses) (s : CStr) :
    checkvalidhostname h s = (dnsWanted h s || hasBlankToken s) := by
  have hcheck : checkvalidhostname h s =
      (noValue (gStrstrip s) || (dnsTokens s).any fun token => checkvalidip h token) := by
    rw [checkvalidhostname, noValue, dnsTokens]
    cases gStrrstr (gStrstrip s) "null".toList || (gStrstrip s).isEmpty <;> rfl
  rw [hcheck, dnsWanted, hasBlankToken]
  cases hs : noValue (gStrstrip s) with
  | true => rfl
  | false =>
    have htoken : ∀ token ∈ dnsTokens s, checkvalidip h token = true ↔
        (!token.isEmpty && h.accepts token) = true ∨ (gStrstrip token).isEmpty = true := by
      intro token ht
      rw [checkvalidip_raw, noValue_token hs ht, Bool.or_eq_true, Bool.and_eq_true]
      apply Iff.intro
      · intro hv
        rcases hv with hv | hv
        · exact Or.inr hv
        · have hne : token.isEmpty = false := List.isEmpty_eq_false_iff.2 (hplain token hv).2
          exact Or.inl ⟨by rw [hne]; rfl, hv⟩
      · intro hv
        rcases hv with hv | hv
        · exact Or.inr hv.2
        · exact Or.inl hv
    rw [Bool.false_or, Bool.false_or, Bool.eq_iff_iff, Bool.or_eq_true, List.any_eq_true,
      List.any_eq_true, List.any_eq_true]
    apply Iff.intro
    · intro hex
      obtain ⟨token, ht, hv⟩ := hex
      rcases (htoken token ht).1 hv with hv | hv
      · exact Or.inl ⟨token, ht, hv⟩
      · exact Or.inr ⟨token, ht, hv⟩
    · intro hex
      rcases hex with ⟨token, ht, hv⟩ | ⟨token, ht, hv⟩
      · exact ⟨token, ht, (htoken token ht).2 (Or.inl hv)⟩
      · exact ⟨token, ht, (htoken token ht).2 (Or.inr hv)⟩

theorem accepted_eq_wanted_bool : ∀ yes dns blank ip ipPad ip6 ip6Pad : Bool,
    (yes && (dns || blank) && (ip && !ipPad) && (ip6 && !ip6Pad)) = (yes && dns && ip && ip6) ↔
      ((yes && dns && ip && ip6) = true → ipPad = false ∧ ip6Pad = false) ∧
      (yes = true → dns = false → blank = true → (ip && !ipPad) = true →
        (ip6 && !ip6Pad) = false) := by
  decide

theorem GatewayStrings.accepted_eq_wanted_iff (hplain : h.PlainAddresses) (x : GatewayStrings) :
    x.accepted h = x.wanted h ↔ x.Clear h := by
  rw [GatewayStrings.accepted, GatewayStrings.Clear, GatewayStrings.wanted,
    checkvalidhostname_eq hplain, checkvalidip_eq hplain, checkvalidip_eq hplain]
  exact accepted_eq_wanted_bool _ _ _ _ _ _ _

@[simp] theorem checkRemoveRouteInfo_gwList (ip : Stripped) (isIPv4 : Bool) (s : RouteState) :
    (checkRemoveRouteInfo ip isIPv4 s).gwList = s.gwList := by
  simp only [checkRemoveRouteInfo]
  split
  · split <;> rfl
  · rfl

theorem delRouteListLoop_gwList (n : Nat) (s : RouteState) :
    (delRouteListLoop n s).gwList = s.gwList := by
  induction n generalizing s with
  | zero => rfl
  | succ n ih =>
    rw [delRouteListLoop]
    split
    · rfl
    · rw [ih]
      exact checkRemoveRouteInfo_gwList _ _ s

theorem delRouteList_gwList (s : RouteState) : (delRouteList s).gwList = s.gwList := by
  simp only [delRouteList]
  split
  · exact delRouteListLoop_gwList _ _
  · rfl

theorem parseStoreGatewayData_gwList (hroot : CJSON.getObjectItem rootJson "xmediagateways".toList =
    some gwFullData) (s : RouteState) : ∃ t ok,
      parseStoreGatewayData h (some rootJson) s = some (t, ok) ∧
        t.gwList = acceptGateways h gwFullData := by
  rw [parseStoreGatewayData]
  dsimp only
  rw [hroot]
  dsimp only
  split
  · exact ⟨_, _, rfl, delRouteList_gwList _⟩
  · exact ⟨_, _, rfl, rfl⟩

/-- What is wanted of an element depends on its entry only, but for `isgateway`. -/
theorem GatewayStrings.wanted_congr {gw gw' : CJSON} {x y : GatewayStrings}
    (he : gw.gatewayEntry x = gw'.gatewayEntry y) (hx : x.isYes = true) (hy : y.wanted h = true) :
    x.wanted h = true := by
  rw [CJSON.gatewayEntry, CJSON.gatewayEntry, GwyDeviceData.mk.injEq] at he
  obtain ⟨_, hip, hip6, _, _, hdns, _⟩ := he
  have hstrip : ∀ {a b : CStr}, Stripped.of a = Stripped.of b → gStrstrip a = gStrstrip b :=
    fun hab => congrArg Stripped.str hab
  rw [GatewayStrings.wanted, addressWanted, addressWanted, dnsWanted, dnsTokens] at hy ⊢
  rw [hstrip hip, hstrip hip6, hstrip hdns, hx, Bool.true_and]
  simp only [Bool.and_eq_true] at hy ⊢
  exact ⟨⟨hy.1.1.2, hy.1.2⟩, hy.2⟩

theorem length_filterMap_le {f g : α → Option β} {l : List α}
    (hle : ∀ a ∈ l, ∀ b, f a = some b → g a = some b) :
    (l.filterMap f).length ≤ (l.filterMap g).length := by
  induction l with
  | nil => exact Nat.le_refl 0
  | cons a l ih =>
    have htail := ih fun c hc => hle c (List.mem_cons_of_mem a hc)
    rw [List.filterMap_cons, List.filterMap_cons]
    cases hf : f a with
    | some b =>
      rw [hle a List.mem_cons_self b hf, List.length_cons, List.length_cons]
      exact Nat.succ_le_succ htail
    | none =>
      cases g a with
      | none => exact htail
      | some b => exact Nat.le_succ_of_le htail

theorem eq_of_length_filterMap {f g : α → Option β} {l : List α}
    (hle : ∀ a ∈ l, ∀ b, f a = some b → g a = some b)
    (hlen : (l.filterMap f).length = (l.filterMap g).length) : ∀ a ∈ l, f a = g a := by
  induction l with
  | nil =>
    intro a ha
    cases ha
  | cons c l ih =>
    have hle' : ∀ a ∈ l, ∀ b, f a = some b → g a = some b :=
      fun a ha => hle a (List.mem_cons_of_mem c ha)
    rw [List.filterMap_cons, List.filterMap_cons] at hlen
    have hhead : f c = g c ∧ (l.filterMap f).length = (l.filterMap g).length := by
      cases hf : f c with
      | some b =>
        have hg := hle c List.mem_cons_self b hf
        rw [hf, hg, List.length_cons, List.length_cons] at hlen
        exact ⟨hg.symm, Nat.succ.inj hlen⟩
      | none =>
        rw [hf] at hlen
        cases hg : g c with
        | none =>
          rw [hg] at hlen
          exact ⟨rfl, hlen⟩
        | some b =>
          have htail := length_filterMap_le hle'
          rw [hg, List.length_cons] at hlen
          dsimp only at hlen
          omega
    intro a ha
    rcases List.mem_cons.1 ha with rfl | ha
    · exact hhead.1
    · exact ih hle' hhead.2 a ha

theorem wantedGateway_eq_some (hw : wantedGateway h gwData = some gw) :
    ∃ x, gwData.gatewayStrings = some x ∧ x.wanted h = true ∧ gwData.gatewayEntry x = gw := by
  obtain ⟨x, hx, hif⟩ := Option.bind_eq_some_iff.1 hw
  split at hif
  · rename_i hwanted
    exact ⟨x, hx, hwanted, Option.some.inj hif⟩
  · cases hif

theorem acceptGateway_eq_some (ha : acceptGateway h gwData = some gw) :
    ∃ x, gwData.gatewayStrings = some x ∧ x.accepted h = true ∧ gwData.gatewayEntry x = gw := by
  rw [acceptGateway_eq] at ha
  obtain ⟨x, hx, hif⟩ := Option.bind_eq_some_iff.1 ha
  split at hif
  · rename_i haccepted
    exact ⟨x, hx, haccepted, Option.some.inj hif⟩
  · cases hif

theorem acceptGateway_eq_wantedGateway_iff (hx : CJSON.gatewayStrings gwData = some x) :
    acceptGateway h gwData = wantedGateway h gwData ↔ x.accepted h = x.wanted h := by
  rw [acceptGateway_eq, wantedGateway, hx, Option.bind_some, Option.bind_some]
  cases x.accepted h <;> cases x.wanted h <;> simp

/-- The list that the parser leaves is the wanted one exactly where every element is clear. -/
theorem gateways_wanted_iff (h : Host) (hplain : h.PlainAddresses) (rootJson gwFullData : CJSON)
    (hroot : rootJson.getObjectItem "xmediagateways".toList = some gwFullData) (s : RouteState) :
    (∃ t ok, parseStoreGatewayData h (some rootJson) s = some (t, ok) ∧
      t.gwList = gwFullData.child.filterMap (wantedGateway h)) ↔
      ∀ gwData ∈ gwFullData.child, ∀ x, gwData.gatewayStrings = some x → x.Clear h := by
  obtain ⟨t, ok, hparse, hlist⟩ := parseStoreGatewayData_gwList (h := h) hroot s
  apply Iff.intro
  · intro hex
    obtain ⟨t', ok', hparse', hlist'⟩ := hex
    cases hparse.symm.trans hparse'
    rw [hlist, acceptGateways] at hlist'
    -- an entry that the code makes is one of the wanted, so its element is wanted
    have hle : ∀ gwData ∈ gwFullData.child, ∀ gw, acceptGateway h gwData = some gw →
        wantedGateway h gwData = some gw := by
      intro gwData hmem gw ha
      have hin : gw ∈ gwFullData.child.filterMap (wantedGateway h) := by
        rw [← hlist']
        exact List.mem_filterMap.2 ⟨gwData, hmem, ha⟩
      obtain ⟨gwData', _, hw⟩ := List.mem_filterMap.1 hin
      obtain ⟨x, hx, haccepted, hentry⟩ := acceptGateway_eq_some ha
      obtain ⟨y, _, hwanted, hentry'⟩ := wantedGateway_eq_some hw
      have hyes : x.isYes = true := by
        rw [GatewayStrings.accepted] at haccepted
        simp only [Bool.and_eq_true] at haccepted
        exact haccepted.1.1.1
      rw [wantedGateway, hx, Option.bind_some,
        if_pos (GatewayStrings.wanted_congr (hentry.trans hentry'.symm) hyes hwanted), hentry]
    intro gwData hmem x hx
    have heq := eq_of_length_filterMap hle (congrArg List.length hlist') gwData hmem
    exact (x.accepted_eq_wanted_iff hplain).1 ((acceptGateway_eq_wantedGateway_iff hx).1 heq)
  · intro hclear
    refine ⟨t, ok, hparse, ?_⟩
    rw [hlist, acceptGateways]
    apply List.filterMap_congr
    intro gwData hmem
    cases hx : gwData.gatewayStrings with
    | none => rw [acceptGateway_eq, wantedGateway, hx]; rfl
    | some x =>
      apply (acceptGateway_eq_wantedGateway_iff hx).2
      exact (x.accepted_eq_wanted_iff hplain).2 (hclear gwData hmem x hx)

theorem sample_plainAddresses : Host.sample.PlainAddresses := by
  intro s hs
  rcases Bool.or_eq_true_iff.1 hs with hs | hs
  · have he : s = "169.254.1.1".toList := of_decide_eq_true hs
    rw [he]
    decide
  · have he : s = "fe80::1".toList := of_decide_eq_true hs
    rw [he]
    decide

def gatewayWith (dnsconfig gatewayip : String) : CJSON :=
  .item none none [.member "isgateway" "yes", .member "dnsconfig" dnsconfig,
    .member "gatewayip" gatewayip, .member "gatewayipv6" "null"]

def xmediagateways (gws : List CJSON) : CJSON :=
  .item (some "xmediagateways".toList) none gws

theorem gateways_wanted_iff_plain : ∃ t ok, parseStoreGatewayData Host.sample
    (some (.item none none [xmediagateways [gatewayWith "fe80::1;abc" "169.254.1.1"]])) .init =
      some (t, ok) ∧ t.gwList = [gatewayWith "fe80::1;abc" "169.254.1.1"].filterMap
        (wantedGateway Host.sample) := by
  apply (gateways_wanted_iff Host.sample sample_plainAddresses
    (.item none none [xmediagateways [gatewayWith "fe80::1;abc" "169.254.1.1"]])
    (xmediagateways [gatewayWith "fe80::1;abc" "169.254.1.1"]) rfl .init).2
  intro gwData hmem x hx
  rw [List.mem_singleton.1 hmem] at hx
  cases hx
  apply And.intro
  · intro _
    decide
  · intro _ hdns
    exact absurd hdns (by decide)

/-- A separator at the end of a DNS entry without an address makes it acceptable. -/
theorem gateways_unwanted : ¬∀ h : Host, h.PlainAddresses → ∀ rootJson gwFullData : CJSON,
    rootJson.getObjectItem "xmediagateways".toList = some gwFullData → ∀ s : RouteState,
      ∃ t ok, parseStoreGatewayData h (some rootJson) s = some (t, ok) ∧
        t.gwList = gwFullData.child.filterMap (wantedGateway h) := by
  intro hall
  obtain ⟨t, ok, hparse, hlist⟩ := hall Host.sample sample_plainAddresses
    (.item none none [xmediagateways [gatewayWith "abc;" "169.254.1.1"]])
    (xmediagateways [gatewayWith "abc;" "169.254.1.1"]) rfl .init
  have hlen : (parseStoreGatewayData Host.sample
      (some (.item none none [xmediagateways [gatewayWith "abc;" "169.254.1.1"]])) .init).map
        (fun r => r.1.gwList.length) = some 1 := by
    decide
  rw [hparse, Option.map_some, hlist] at hlen
  exact absurd hlen (by decide)

end NetSrvMgr.Route
