import NetSrvMgr.RouteTracking
import NetSrvMgr.Transition

namespace NetSrvMgr.Route
open CString Transition Shell
set_option autoImplicit true

/-- The line is one simple command with the intended arguments; nothing in double quotes keeps a
meaning there, and nothing outside them is a blank or a metacharacter. -/
def SystemCall.Parses (c : SystemCall) : Prop :=
  Shell.argv c.line = some c.argv ∧ (∀ s ∈ c.quoted, QuoteSafe s) ∧ ∀ s ∈ c.unquoted, Plain s

def AddressSafe (ip : Stripped) : Prop := Plain ip.str ∧ ip.str ≠ []

theorem gwSetup_parses_iff :
    (SystemCall.gwSetup gwyip dnsconfig routeIf ipv6prefix gwyipv6 devicetype).Parses ↔
      ∀ s ∈ [gwyip.str, dnsconfig.str, routeIf, routePriority, ipv6prefix, gwyipv6.str,
        devicetype], QuoteSafe s := by
  apply Iff.intro
  · intro h
    exact h.2.1
  · intro h
    refine ⟨?_, h, fun s hs => absurd hs List.not_mem_nil⟩
    exact argv_dquotes (by decide) (by decide) h

theorem routeDel_argv (isIPv4 : Bool) (ip : Stripped) :
    Shell.argv (SystemCall.routeDel isIPv4 ip).line =
      (Shell.argv ip.str).map (SystemCall.routeDelWords isIPv4 ++ ·) := by
  rw [SystemCall.line, SystemCall.routeDelCommand_eq]
  exact argv_plain_words (SystemCall.routeDelWords_plain isIPv4)

theorem routeDel_parses_iff : (SystemCall.routeDel isIPv4 ip).Parses ↔ AddressSafe ip := by
  rw [SystemCall.Parses, routeDel_argv]
  apply Iff.intro
  · intro h
    obtain ⟨hparse, _, hunquoted⟩ := h
    refine ⟨hunquoted _ List.mem_cons_self, ?_⟩
    -- a line that ends in a blank has one argument less
    intro hnil
    have hblank : Shell.argv [] = some [] := rfl
    rw [hnil, hblank, Option.map_some, SystemCall.argv, hnil, Option.some.injEq,
      List.append_right_inj] at hparse
    cases hparse
  · intro h
    obtain ⟨hip, hne⟩ := h
    refine ⟨?_, (fun s hs => absurd hs List.not_mem_nil), ?_⟩
    · rw [argv_plain hip hne, Option.map_some]
      rfl
    · intro s hs
      rw [List.mem_singleton.1 hs]
      exact hip

/-- The strings of a gateway that are put in double quotes have no character that keeps a
meaning there, and the address it is reached by may stand in a command line as it is. -/
structure GwyDeviceData.Safe (gw : GwyDeviceData) : Prop where
  gwyip : QuoteSafe gw.gwyip.str
  dnsconfig : QuoteSafe gw.dnsconfig.str
  ipv6prefix : QuoteSafe gw.ipv6prefix
  gwyipv6 : QuoteSafe gw.gwyipv6.str
  devicetype : QuoteSafe gw.devicetype
  route : AddressSafe gw.route.ipStr

/-- The gateways accepted from a JSON text are safe and, if there are any, so are the names of
the interfaces. -/
def SafeJson (h : Host) (rootJson : CJSON) : Prop :=
  ∀ gwFullData, rootJson.getObjectItem "xmediagateways".toList = some gwFullData →
    ∀ gw ∈ acceptGateways h gwFullData, gw.Safe ∧ QuoteSafe h.mocaIf ∧ QuoteSafe h.wifiIf

/-- What is handed to `system` so far parses, and what is stored can be handed to it. -/
structure RouteState.Safe (s : RouteState) : Prop where
  gwList : ∀ gw ∈ s.gwList, gw.Safe
  routes : ∀ r ∈ s.routes, AddressSafe r.ipStr
  routeIf : QuoteSafe s.routeIf
  commands : ∀ c ∈ s.commands, c.Parses

theorem quoteSafe_gStrstrip (h : QuoteSafe s) : QuoteSafe (gStrstrip s) :=
  fun c hc => h c ((gStrstrip_sublist s).mem hc)

theorem GwyDeviceData.Safe.strip {gw gw' : GwyDeviceData} (h : gw.Safe)
    (haddr : gw'.addressing = gw.addressing) (hdns : gw'.dnsconfig = gw.dnsconfig)
    (hdev : gw'.devicetype = gw.devicetype) (hpfx : QuoteSafe gw'.ipv6prefix) : gw'.Safe := by
  have hroute : gw'.route = gw.route := by
    rw [gw'.route_eq, gw.route_eq, haddr]
  rw [GwyDeviceData.addressing, GwyDeviceData.addressing, Prod.mk.injEq, Prod.mk.injEq] at haddr
  obtain ⟨hip, hip6, _⟩ := haddr
  refine ⟨?_, ?_, hpfx, ?_, ?_, ?_⟩
  · rw [hip]
    exact h.gwyip
  · rw [hdns]
    exact h.dnsconfig
  · rw [hip6]
    exact h.gwyipv6
  · rw [hdev]
    exact h.devicetype
  · rw [hroute]
    exact h.route

theorem GwyDeviceData.Safe.stripPrefix {gw : GwyDeviceData} (h : gw.Safe) :
    gw.stripPrefix.Safe := by
  refine h.strip ?_ rfl rfl (quoteSafe_gStrstrip h.ipv6prefix)
  exact gw.stripPrefix_addressing

theorem stripPrefixOf_safe {gws : List GwyDeviceData} (h : ∀ gw ∈ gws, gw.Safe)
    (ip : Stripped) : ∀ gw ∈ stripPrefixOf ip gws, gw.Safe := by
  induction gws with
  | nil => exact h
  | cons gw gws ih =>
    have hgw := h gw List.mem_cons_self
    have hgws : ∀ gw ∈ gws, gw.Safe := fun g hg => h g (List.mem_cons_of_mem gw hg)
    rw [stripPrefixOf]
    intro g hg
    split at hg
    · rcases List.mem_cons.1 hg with rfl | hg
      · exact hgw.stripPrefix
      · exact hgws g hg
    · rcases List.mem_cons.1 hg with rfl | hg
      · exact hgw
      · exact ih hgws g hg

theorem RouteState.Safe.noRoutes {s : RouteState} (h : s.Safe) :
    RouteState.Safe { s with gwRouteInfo := .null } :=
  ⟨h.gwList, (fun _ hr => absurd hr List.not_mem_nil), h.routeIf, h.commands⟩

theorem RouteState.Safe.toFirst {s : RouteState} (h : s.Safe) : s.toFirst.Safe := by
  refine ⟨h.gwList, ?_, h.routeIf, h.commands⟩
  rw [RouteState.routes_toFirst]
  exact h.routes

theorem RouteState.Safe.deleteRoute {s : RouteState} (h : s.Safe) (hip : AddressSafe ip)
    (isIPv4 : Bool) : (s.deleteRoute ip isIPv4).Safe := by
  refine ⟨h.gwList, ?_, h.routeIf, ?_⟩
  · rw [RouteState.deleteRoute_routes]
    exact fun r hr => h.routes r (List.mem_of_mem_eraseP hr)
  · rw [RouteState.deleteRoute_commands]
    intro c hc
    rcases List.mem_append.1 hc with hc | hc
    · exact h.commands c hc
    · rw [List.mem_singleton.1 hc]
      exact routeDel_parses_iff.2 hip

theorem RouteState.Safe.checkRemoveRouteInfo {s : RouteState} (h : s.Safe)
    (hip : AddressSafe ip) (isIPv4 : Bool) : (checkRemoveRouteInfo ip isIPv4 s).Safe := by
  rw [checkRemoveRouteInfo_eq]
  split
  · exact h.deleteRoute hip isIPv4
  · exact h.noRoutes

theorem RouteState.routes_toNext_subset (s : RouteState) : s.toNext.routes ⊆ s.routes := by
  intro r hr
  rw [RouteState.routes, RouteState.toNext] at hr
  rw [RouteState.routes]
  cases hptr : s.gwRouteInfo with
  | null =>
    rw [hptr] at hr
    cases hr
  | node prev x xs =>
    rw [hptr] at hr
    cases xs with
    | nil => cases hr
    | cons y ys =>
      rw [GList.next, GList.toList, List.reverse_cons, List.append_assoc] at hr
      exact hr

theorem RouteState.Safe.toNext {s : RouteState} (h : s.Safe) : s.toNext.Safe :=
  ⟨h.gwList, fun r hr => h.routes r (s.routes_toNext_subset hr), h.routeIf, h.commands⟩

theorem RouteState.Safe.delRouteListLoop {s : RouteState} (h : s.Safe) :
    (delRouteListLoop n s).Safe := by
  induction n generalizing s with
  | zero => exact h
  | succ n ih =>
    cases hptr : s.gwRouteInfo with
    | null =>
      rw [delRouteListLoop_null hptr]
      exact h
    | node prev r next =>
      have hr : r ∈ s.routes := by
        rw [RouteState.routes, hptr]
        exact List.mem_append_right _ List.mem_cons_self
      rw [delRouteListLoop_node hptr]
      exact ih (h.deleteRoute (h.routes r hr) r.isIPv4).toNext

theorem RouteState.Safe.delRouteList {s : RouteState} (h : s.Safe) : (delRouteList s).Safe := by
  rw [NetSrvMgr.Route.delRouteList]
  split
  · exact h.toFirst.delRouteListLoop.noRoutes
  · exact h.toFirst

theorem RouteState.Safe.checkExistingRoutes {s : RouteState} (h : s.Safe)
    (hrs : ∀ r ∈ rs, AddressSafe r.ipStr) (ht : checkExistingRoutes rs s = some t) : t.Safe := by
  induction rs generalizing s with
  | nil =>
    cases ht
    exact h
  | cons r rs ih =>
    have hip := hrs r List.mem_cons_self
    have hrs' : ∀ r ∈ rs, AddressSafe r.ipStr :=
      fun x hx => hrs x (List.mem_cons_of_mem r hx)
    rw [NetSrvMgr.Route.checkExistingRoutes] at ht
    split at ht
    · split at ht
      · exact ih (h.checkRemoveRouteInfo hip _) hrs' ht
      · split at ht
        · exact ih h hrs' ht
        · have hstrip : RouteState.Safe { s with gwList := stripPrefixOf r.ipStr s.gwList } :=
            ⟨stripPrefixOf_safe h.gwList r.ipStr, h.routes, h.routeIf, h.commands⟩
          split at ht
          · exact ih (hstrip.checkRemoveRouteInfo hip _) hrs' ht
          · exact ih hstrip hrs' ht
    · cases ht

theorem RouteState.Safe.checkExistingRouteValid {s : RouteState} (h : s.Safe)
    (ht : checkExistingRouteValid s = some (t, valid)) : t.Safe := by
  rw [NetSrvMgr.Route.checkExistingRouteValid, Option.map_eq_some_iff] at ht
  obtain ⟨u, hu, he⟩ := ht
  cases he
  exact h.toFirst.checkExistingRoutes h.toFirst.routes hu

theorem addRoute_subset (h : x ∈ addRoute rs r) : x = r ∨ x ∈ rs := by
  rcases addRoute_eq rs r with he | he
  · rw [he] at h
    exact List.mem_cons.1 h
  · rw [he] at h
    exact Or.inr h

theorem RouteState.Safe.addGatewayRoute {s : RouteState} (h : s.Safe) (hgw : gw.Safe) :
    (addGatewayRoute gw s).Safe := by
  obtain ⟨hgws, hcmd, hif⟩ := addGatewayRoute_frame gw s
  refine ⟨?_, ?_, ?_, ?_⟩
  · rw [hgws]
    exact h.gwList
  · rw [addGatewayRoute_routes]
    intro r hr
    rcases addRoute_subset hr with rfl | hr
    · exact hgw.route
    · exact h.routes r hr
  · rw [hif]
    exact h.routeIf
  · rw [hcmd]
    exact h.commands

theorem RouteState.Safe.runGwSetup {s : RouteState} (h : s.Safe) (hgw : gw.Safe) :
    (runGwSetup gw s).Safe := by
  refine ⟨h.gwList, h.routes, h.routeIf, ?_⟩
  intro c hc
  rcases List.mem_append.1 hc with hc | hc
  · exact h.commands c hc
  · rw [List.mem_singleton.1 hc, GwyDeviceData.gwSetup, gwSetup_parses_iff]
    intro s hs
    simp only [List.mem_cons, List.not_mem_nil, or_false] at hs
    rcases hs with rfl | rfl | rfl | rfl | rfl | rfl | rfl
    · exact hgw.gwyip
    · exact hgw.dnsconfig
    · exact h.routeIf
    · decide
    · exact hgw.ipv6prefix
    · exact hgw.gwyipv6
    · exact hgw.devicetype

theorem RouteState.Safe.setRouteLoop {s : RouteState} (h : s.Safe) (hv : v.Selects)
    (hgws : ∀ gw ∈ gws, gw.Safe) (a : Announcement) (i : Nat) :
    (setRouteLoop a i v gws s).2.2.Safe ∧ ∀ gw ∈ (setRouteLoop a i v gws s).1, gw.Safe := by
  induction gws generalizing i v s with
  | nil => exact ⟨h, hgws⟩
  | cons gw gws ih =>
    have hgw := hgws gw List.mem_cons_self
    have hgws' : ∀ gw ∈ gws, gw.Safe := fun g hg => hgws g (List.mem_cons_of_mem gw hg)
    obtain ⟨w, hw, heq⟩ := setRouteLoop_cons hv a i gw gws s
    rw [heq]
    split
    · obtain ⟨hs, hrest⟩ := ih ((h.runGwSetup hgw).addGatewayRoute hgw) hw hgws' (i + 1)
      refine ⟨hs, ?_⟩
      intro g hg
      rcases List.mem_cons.1 hg with rfl | hg
      · exact hgw.strip gw.stripPrefix_addressing rfl rfl (quoteSafe_gStrstrip hgw.ipv6prefix)
      · exact hrest g hg
    · obtain ⟨hs, hrest⟩ := ih (h.runGwSetup hgw) hw hgws' (i + 1)
      refine ⟨hs, ?_⟩
      intro g hg
      rcases List.mem_cons.1 hg with rfl | hg
      · exact hgw
      · exact hrest g hg

theorem RouteState.Safe.getRouteInterface {s : RouteState} (hs : s.Safe)
    (hif : QuoteSafe h.mocaIf ∧ QuoteSafe h.wifiIf) (a : Announcement) :
    (getRouteInterface h a s).Safe := by
  obtain ⟨hmoca, hwifi⟩ := hif
  rw [NetSrvMgr.Route.getRouteInterface]
  split
  · exact ⟨hs.gwList, hs.routes, hmoca, hs.commands⟩
  · split
    · exact ⟨hs.gwList, hs.routes, hwifi, hs.commands⟩
    · exact hs

theorem RouteState.Safe.setRoute {s : RouteState} (hs : s.Safe)
    (hif : QuoteSafe h.mocaIf ∧ QuoteSafe h.wifiIf) (a : Announcement) :
    (setRoute h a s).1.Safe := by
  have hget := hs.getRouteInterface hif a
  obtain ⟨hloop, hgws⟩ := hget.setRouteLoop (v := .init) (Or.inr ⟨rfl, rfl⟩) hget.gwList a 0
  exact ⟨hgws, hloop.routes, hloop.routeIf, hloop.commands⟩

theorem RouteState.Safe.updateRoutes {s : RouteState} (hs : s.Safe)
    (hif : stored = true → QuoteSafe h.mocaIf ∧ QuoteSafe h.wifiIf)
    (ht : updateRoutes h a s stored = some t) : t.Safe := by
  rw [NetSrvMgr.Route.updateRoutes] at ht
  split at ht
  · next hstored =>
    rw [Option.map_eq_some_iff] at ht
    obtain ⟨⟨u, valid⟩, hu, rfl⟩ := ht
    have hus := hs.checkExistingRouteValid hu
    have hset := hus.setRoute (hif hstored) a
    dsimp only
    split
    · split
      · exact ⟨hset.gwList, hset.routes, hset.routeIf, hset.commands⟩
      · exact hset
    · exact hus
  · cases ht
    exact hs.delRouteList

theorem RouteState.Safe.storeRouteDetails {s : RouteState} (hs : s.Safe)
    (ha : ∀ j, a.fetched = some (some j) → SafeJson h j)
    (ht : storeRouteDetails h a s = some (t, stored)) :
    t.Safe ∧ (stored = true → QuoteSafe h.mocaIf ∧ QuoteSafe h.wifiIf) := by
  have hdel : (delGatewayList s).Safe :=
    ⟨(fun _ hgw => absurd hgw List.not_mem_nil), hs.routes, hs.routeIf, hs.commands⟩
  rw [NetSrvMgr.Route.storeRouteDetails] at ht
  split at ht
  · next upnpResults hfetched =>
    cases upnpResults with
    | none =>
      cases ht
      exact ⟨hdel, (fun hst => absurd hst Bool.false_ne_true)⟩
    | some rootJson =>
      have hjson := ha rootJson hfetched
      rw [parseStoreGatewayData] at ht
      split at ht
      · next gwFullData hitem =>
        have hgws : RouteState.Safe
            { delGatewayList s with gwList := acceptGateways h gwFullData } :=
          ⟨fun gw hgw => (hjson gwFullData hitem gw hgw).1, hdel.routes, hdel.routeIf,
            hdel.commands⟩
        dsimp only at ht
        split at ht
        · cases ht
          exact ⟨hgws.delRouteList, (fun hst => absurd hst Bool.false_ne_true)⟩
        · next hlen =>
          cases ht
          refine ⟨hgws, fun _ => ?_⟩
          obtain ⟨gw, hgw⟩ := List.exists_mem_of_length_pos (Nat.pos_of_ne_zero hlen)
          exact (hjson gwFullData hitem gw hgw).2
      · rw [Option.map_eq_some_iff] at ht
        obtain ⟨⟨u, valid⟩, hu, he⟩ := ht
        cases he
        exact ⟨hdel.checkExistingRouteValid hu, (fun hst => absurd hst Bool.false_ne_true)⟩
  · cases ht
    exact ⟨hs, (fun hst => absurd hst Bool.false_ne_true)⟩

theorem RouteState.Safe.step {s : RouteState} (hs : s.Safe)
    (ha : ∀ j, a.fetched = some (some j) → SafeJson h j)
    (ht : gatewayRouteDataStep h s a = some t) : t.Safe := by
  rw [gatewayRouteDataStep, Option.bind_eq_some_iff] at ht
  obtain ⟨⟨u, stored⟩, hu, ht⟩ := ht
  rw [Option.map_eq_some_iff] at ht
  obtain ⟨v, hv, rfl⟩ := ht
  obtain ⟨hus, hif⟩ := hs.storeRouteDetails ha hu
  have hvs := (hus.updateRoutes hif hv).toFirst
  rw [renewDhcp]
  split
  · exact ⟨hvs.gwList, hvs.routes, hvs.routeIf, hvs.commands⟩
  · exact hvs

theorem RouteState.init_safe : RouteState.init.Safe :=
  ⟨(fun _ hgw => absurd hgw List.not_mem_nil), (fun _ hr => absurd hr List.not_mem_nil),
    (fun _ hc => absurd hc List.not_mem_nil), (fun _ hc => absurd hc List.not_mem_nil)⟩

theorem addedRoutes_none (h : ∀ n, i ≤ n → a.gwSetupStatus n ≠ systemCommandShellSuccess) :
    addedRoutes a i gws = [] := by
  induction gws generalizing i with
  | nil => rfl
  | cons gw gws ih =>
    rw [addedRoutes, if_neg (h i (Nat.le_refl i))]
    exact ih fun n hn => h n (Nat.le_of_succ_le hn)

theorem addedRoutes_single
    (h : ∀ n, a.gwSetupStatus n = systemCommandShellSuccess ↔ n = i + ys.length) :
    addedRoutes a i (ys ++ gw :: zs) = [gw.route] := by
  induction ys generalizing i with
  | nil =>
    rw [List.nil_append, addedRoutes, if_pos ((h i).2 rfl), addedRoutes_none]
    intro n hn hst
    have := (h n).1 hst
    rw [List.length_nil] at this
    omega
  | cons y ys ih =>
    have hi : ¬a.gwSetupStatus i = systemCommandShellSuccess := by
      intro hst
      have := (h i).1 hst
      rw [List.length_cons] at this
      omega
    rw [List.cons_append, addedRoutes, if_neg hi]
    apply ih
    intro n
    rw [h n, List.length_cons]
    apply Iff.intro
    · intro hn
      omega
    · intro hn
      omega

theorem step_init (hfetched : a.fetched = some (some rootJson))
    (hitem : rootJson.getObjectItem "xmediagateways".toList = some gwFullData)
    (hgws : acceptGateways h gwFullData = gws) (hne : gws ≠ []) :
    ∃ t, gatewayRouteDataStep h .init a = some t ∧
      t.routes = (addedRoutes a 0 gws).foldl addRoute [] ∧
      t.commands = gws.map (GwyDeviceData.gwSetup (getRouteInterface h a .init).routeIf) := by
  have hstore : storeRouteDetails h a .init =
      some ({ RouteState.init with gwList := gws }, true) := by
    rw [NetSrvMgr.Route.storeRouteDetails, hfetched]
    dsimp only
    rw [parseStoreGatewayData, hitem]
    dsimp only
    rw [hgws, if_neg (fun hlen => hne (List.length_eq_zero_iff.1 hlen))]
    rfl
  have hcheck : checkExistingRouteValid { RouteState.init with gwList := gws } =
      some ({ RouteState.init with gwList := gws }, true) := rfl
  obtain ⟨hroutes, hcommands, _⟩ := setRoute_spec h a { RouteState.init with gwList := gws }
  have hif : (getRouteInterface h a { RouteState.init with gwList := gws }).routeIf =
      (getRouteInterface h a .init).routeIf := by
    rw [getRouteInterface, getRouteInterface]
    split
    · rfl
    · split
      · rfl
      · rfl
  rw [gatewayRouteDataStep, hstore, Option.bind_some]
  dsimp only
  rw [NetSrvMgr.Route.updateRoutes, if_pos rfl, hcheck, Option.map_some, Option.map_some]
  refine ⟨_, rfl, ?_, ?_⟩
  · rw [renewDhcp_routes]
    dsimp only
    rw [if_pos rfl]
    split
    · exact hroutes
    · exact hroutes
  · rw [renewDhcp_commands, ← hif]
    dsimp only
    rw [if_pos rfl]
    split
    · exact hcommands
    · exact hcommands

/-- A JSON text fetched while one interface has an address; the script sets the route of
gateway `n` only. -/
def probe (rootJson : CJSON) (moca : Bool) (n : Nat) : Announcement where
  fetched := some (some rootJson)
  gwSetupStatus i := if i = n then systemCommandShellSuccess else 0
  mocaHasIPv4 := moca
  wifiHasIPv4 := true
  usingDhcp := true

def fetchFailure : Announcement where
  fetched := none
  gwSetupStatus _ := 0
  mocaHasIPv4 := true
  wifiHasIPv4 := true
  usingDhcp := true

theorem probe_gwSetupStatus (n i : Nat) :
    (probe rootJson moca n).gwSetupStatus i = systemCommandShellSuccess ↔ i = n := by
  rw [probe]
  dsimp only
  split
  · next hi => exact iff_of_true rfl hi
  · next hi => exact iff_of_false (by decide) hi

theorem step_fetchFailure (h : Host) (hs : s.routes = [r]) :
    ∃ t, gatewayRouteDataStep h s fetchFailure = some t ∧
      t.commands = s.commands ++ [r.delCommand] := by
  refine ⟨_, rfl, ?_⟩
  rw [renewDhcp_commands]
  exact delRouteList_singleton hs

section
-- the JSON texts that gateways on the LAN can announce
variable (h : Host) (A : CJSON → Prop)

def CommandsParse : Prop :=
  ∀ as, (∀ a ∈ as, ∀ j, a.fetched = some (some j) → A j) →
    ∀ t, run (gatewayRouteDataStep h) .init as = some t → ∀ c ∈ t.commands, c.Parses

variable {h A}

theorem CommandsParse.gwSetup (hp : CommandsParse h A) (hA : A rootJson)
    (hitem : rootJson.getObjectItem "xmediagateways".toList = some gwFullData)
    (hgw : gw ∈ acceptGateways h gwFullData) (moca : Bool) :
    (gw.gwSetup (if moca then h.mocaIf else h.wifiIf)).Parses := by
  obtain ⟨t, ht, _, hcommands⟩ := step_init (a := probe rootJson moca 0) rfl hitem rfl
    (List.ne_nil_of_mem hgw)
  have hif : (getRouteInterface h (probe rootJson moca 0) .init).routeIf =
      if moca then h.mocaIf else h.wifiIf := by
    cases moca with
    | true => rfl
    | false => rfl
  refine hp [probe rootJson moca 0] ?_ t ?_ _ ?_
  · intro a ha j hj
    rw [List.mem_singleton.1 ha] at hj
    cases hj
    exact hA
  · rw [run_cons, ht, Option.bind_some, run_nil]
  · rw [hcommands, hif]
    exact List.mem_map_of_mem hgw

theorem CommandsParse.routeDel (hp : CommandsParse h A) (hA : A rootJson)
    (hitem : rootJson.getObjectItem "xmediagateways".toList = some gwFullData)
    (hgw : gw ∈ acceptGateways h gwFullData) : gw.route.delCommand.Parses := by
  obtain ⟨ys, zs, hsplit⟩ := List.append_of_mem hgw
  obtain ⟨t, ht, hroutes, _⟩ := step_init (a := probe rootJson true ys.length) rfl hitem rfl
    (List.ne_nil_of_mem hgw)
  have hadded : addedRoutes (probe rootJson true ys.length) 0 (ys ++ gw :: zs) = [gw.route] := by
    apply addedRoutes_single
    intro n
    rw [probe_gwSetupStatus, Nat.zero_add]
  rw [hsplit, hadded] at hroutes
  obtain ⟨u, hu, hcommands⟩ := step_fetchFailure h hroutes
  refine hp [probe rootJson true ys.length, fetchFailure] ?_ u ?_ _ ?_
  · intro a ha j hj
    rcases List.mem_cons.1 ha with rfl | ha
    · cases hj
      exact hA
    · rw [List.mem_singleton.1 ha] at hj
      cases hj
  · rw [run_cons, ht, Option.bind_some, run_cons, hu, Option.bind_some, run_nil]
  · rw [hcommands]
    exact List.mem_append_right _ List.mem_cons_self

end

/-- Every command handed to `system` parses as intended, in every run on announcements of a
kind, exactly when every announcement of that kind is safe. -/
theorem commands_parse_iff (h : Host) (A : CJSON → Prop) :
    CommandsParse h A ↔ ∀ rootJson, A rootJson → SafeJson h rootJson := by
  apply Iff.intro
  · intro hp rootJson hA gwFullData hitem gw hgw
    have hmoca := gwSetup_parses_iff.1 (hp.gwSetup hA hitem hgw true)
    have hwifi := gwSetup_parses_iff.1 (hp.gwSetup hA hitem hgw false)
    have hroute := routeDel_parses_iff.1 (hp.routeDel hA hitem hgw)
    simp only [List.forall_mem_cons] at hmoca hwifi
    obtain ⟨hip, hdns, hmoca, _, hpfx, hip6, hdev, _⟩ := hmoca
    exact ⟨⟨hip, hdns, hpfx, hip6, hdev, hroute⟩, hmoca, hwifi.2.2.1⟩
  · intro hsafe as has t ht
    have hts : t.Safe := run_invariant
      (fun s a ha t hs hstep => hs.step (fun j hj => hsafe j (has a ha j hj)) hstep) ht
      RouteState.init_safe
    exact hts.commands

def substitutionJson : CJSON :=
  .item none none [.item (some "xmediagateways".toList) none
    [.gateway "169.254.1.1" "fe80::1" "$(reboot)" "XG1"]]

theorem substitutionJson_not_parse : ¬CommandsParse .sample (· = substitutionJson) := by
  intro hp
  have hparse := hp [⟨some (some substitutionJson), fun _ => 0, true, false, false⟩]
    (fun a ha j hj => by
      rw [List.mem_singleton.1 ha] at hj
      cases hj
      rfl) _ rfl
    (.gwSetup (.of "169.254.1.1".toList) (.of []) "eth1".toList "$(reboot)".toList
      (.of "fe80::1".toList) "XG1".toList) (by decide)
  have hsafe := gwSetup_parses_iff.1 hparse "$(reboot)".toList (by decide)
  exact absurd hsafe (by decide)

end NetSrvMgr.Route
