import NetSrvMgr.RouteRound
import NetSrvMgr.Transition

namespace NetSrvMgr.Route
open CString Transition
set_option autoImplicit true

/-- A gateway has the address of the route and, for a v6 route, one with that address has its
prefix. -/
def Served (gws : List GwyDeviceData) (r : RouteInfo) : Prop :=
  (∃ gw ∈ gws, gListFindGw r.ipStr gw = true) ∧
    (r.isIPv4 = false → ∃ gw ∈ gws, gListFindGw r.ipStr gw = true ∧ gw.prefixStr = r.ipv6Pfix)

/-- The tracked routes have distinct addresses and are those of current gateways. -/
structure RouteState.Consistent (s : RouteState) : Prop where
  nodup : (s.routes.map RouteInfo.ipStr).Nodup
  served : ∀ r ∈ s.routes, Served s.gwList r

/-- Every v6 route that is added has the prefix of the first route with its address, among the
tracked routes and then those added. -/
def Compatible (rs added : List RouteInfo) : Prop :=
  ∀ r ∈ added, r.isIPv4 = false → ∀ e, (rs ++ added).find? (gListFindIp r.ipStr) = some e →
    e.ipv6Pfix = r.ipv6Pfix

def GatewaysClean (s : RouteState) (a : Announcement) (gws : List GwyDeviceData) : Prop :=
  AddressesFit s ∧
    ((s.routes.filter (routeValid gws)).length = 0 ∨
        (s.routes.filter (routeValid gws)).length = s.routes.length →
      Compatible (s.routes.filter (routeValid gws)) (addedRoutes a 0 gws))

/-- An announcement whose addresses fit the buffer and whose routes to be set agree on the
prefix of each v6 address, with one another and with the routes that are kept. -/
def Clean (h : Host) (s : RouteState) (a : Announcement) : Prop :=
  match a.fetched with
  | some (some rootJson) =>
    match rootJson.getObjectItem "xmediagateways".toList with
    | some gwFullData =>
      acceptGateways h gwFullData ≠ [] → GatewaysClean s a (acceptGateways h gwFullData)
    | none => AddressesFit s
  | _ => True

theorem served_congr {gws gws' : List GwyDeviceData}
    (h : gws'.map GwyDeviceData.addressing = gws.map GwyDeviceData.addressing) (r : RouteInfo) :
    Served gws' r ↔ Served gws r := by
  have hserved : ∀ gws : List GwyDeviceData, Served gws r ↔
      (∃ k ∈ gws.map GwyDeviceData.addressing, k.1 = r.ipStr ∨ k.2.1 = r.ipStr) ∧
      (r.isIPv4 = false → ∃ k ∈ gws.map GwyDeviceData.addressing,
        (k.1 = r.ipStr ∨ k.2.1 = r.ipStr) ∧ k.2.2 = r.ipv6Pfix) := by
    intro gws
    simp only [Served, gListFindGw, List.mem_map, exists_exists_and_eq_and,
      GwyDeviceData.addressing, Bool.or_eq_true, decide_eq_true_eq]
  rw [hserved, hserved, h]

theorem routeValid_served (h : routeValid gws r = true) : Served gws r := by
  rw [routeValid] at h
  split at h
  · cases h
  · next gw hf =>
    have hmem := List.mem_of_find?_eq_some hf
    have hfind := List.find?_some hf
    refine ⟨⟨gw, hmem, hfind⟩, fun hip => ⟨gw, hmem, hfind, ?_⟩⟩
    rw [hip, Bool.false_or] at h
    exact (of_decide_eq_true h).symm

theorem GwyDeviceData.route_served {gws : List GwyDeviceData} (h : gw ∈ gws) :
    Served gws gw.route := by
  rw [GwyDeviceData.route]
  split
  · have hfind : gListFindGw gw.gwyipv6 gw = true := by
      rw [gListFindGw, decide_eq_true rfl, Bool.or_true]
    exact ⟨⟨gw, h, hfind⟩, fun _ => ⟨gw, h, hfind, rfl⟩⟩
  · have hfind : gListFindGw gw.gwyip gw = true := by
      rw [gListFindGw, decide_eq_true rfl, Bool.true_or]
    exact ⟨⟨gw, h, hfind⟩, fun hip => Bool.noConfusion hip⟩

theorem addedRoutes_subset (h : r ∈ addedRoutes a i gws) :
    ∃ gw ∈ gws, r = GwyDeviceData.route gw := by
  induction gws generalizing i with
  | nil => cases h
  | cons gw gws ih =>
    rw [addedRoutes] at h
    split at h
    · rcases List.mem_cons.1 h with rfl | h
      · exact ⟨gw, List.mem_cons_self, rfl⟩
      · obtain ⟨gw', hgw, hr⟩ := ih h
        exact ⟨gw', List.mem_cons_of_mem gw hgw, hr⟩
    · obtain ⟨gw', hgw, hr⟩ := ih h
      exact ⟨gw', List.mem_cons_of_mem gw hgw, hr⟩

theorem mem_foldl_addRoute {rs added : List RouteInfo} (h : x ∈ added.foldl addRoute rs) :
    x ∈ rs ∨ x ∈ added := by
  induction added generalizing rs with
  | nil => exact Or.inl h
  | cons r added ih =>
    rcases ih h with h | h
    · rcases addRoute_eq rs r with he | he
      · rw [he] at h
        rcases List.mem_cons.1 h with rfl | h
        · exact Or.inr List.mem_cons_self
        · exact Or.inl h
      · rw [he] at h
        exact Or.inl h
    · exact Or.inr (List.mem_cons_of_mem r h)

theorem find_gListFindIp_eq_none_iff {rs : List RouteInfo} :
    rs.find? (gListFindIp ip) = none ↔ ip ∉ rs.map RouteInfo.ipStr := by
  rw [List.find?_eq_none, List.mem_map]
  apply Iff.intro
  · intro h hex
    obtain ⟨r, hr, hip⟩ := hex
    exact h r hr (gListFindIp_iff.2 hip)
  · intro h r hr hip
    exact h ⟨r, hr, gListFindIp_iff.1 hip⟩

theorem find_cons_append (hnone : rs.find? (gListFindIp r.ipStr) = none) (ip : Stripped) :
    (r :: rs ++ added).find? (gListFindIp ip) = (rs ++ r :: added).find? (gListFindIp ip) := by
  rw [List.cons_append, List.find?_cons, List.find?_append, List.find?_append, List.find?_cons]
  cases hip : gListFindIp ip r with
  | true =>
    rw [gListFindIp_iff] at hip
    rw [← hip, hnone]
    rfl
  | false => rfl

theorem find_append_cons (hsome : rs.find? (gListFindIp r.ipStr) = some e) (ip : Stripped) :
    (rs ++ r :: added).find? (gListFindIp ip) = (rs ++ added).find? (gListFindIp ip) := by
  rw [List.find?_append, List.find?_append, List.find?_cons]
  cases hip : gListFindIp ip r with
  | true =>
    rw [gListFindIp_iff] at hip
    rw [← hip, hsome]
    rfl
  | false => rfl

theorem foldl_addRoute_nodup_iff (hrs : (rs.map RouteInfo.ipStr).Nodup) :
    ((added.foldl addRoute rs).map RouteInfo.ipStr).Nodup ↔ Compatible rs added := by
  induction added generalizing rs with
  | nil =>
    apply Iff.intro
    · intro _ r hr
      cases hr
    · intro _
      exact hrs
  | cons r added ih =>
    rw [List.foldl_cons]
    cases hf : rs.find? (gListFindIp r.ipStr) with
    | none =>
      have hnodup : ((r :: rs).map RouteInfo.ipStr).Nodup :=
        List.nodup_cons.2 ⟨find_gListFindIp_eq_none_iff.1 hf, hrs⟩
      rw [addRoute_of_new hf, ih hnodup]
      apply Iff.intro
      · intro hc x hx hip e he
        rw [← find_cons_append hf] at he
        rcases List.mem_cons.1 hx with rfl | hx
        · rw [List.cons_append, List.find?_cons, gListFindIp_iff.2 rfl] at he
          cases he
          rfl
        · exact hc x hx hip e he
      · intro hc x hx hip e he
        rw [find_cons_append hf] at he
        exact hc x (List.mem_cons_of_mem r hx) hip e he
    | some e =>
      have hfirst : (rs ++ r :: added).find? (gListFindIp r.ipStr) = some e := by
        rw [List.find?_append, hf, Option.some_or]
      rw [addRoute_of_known hf]
      by_cases hconf : r.isIPv4 = false ∧ e.ipv6Pfix ≠ r.ipv6Pfix
      · rw [if_pos hconf]
        obtain ⟨hip, hpfx⟩ := hconf
        apply Iff.intro
        · intro hn
          have hsuf := (suffix_foldl_addRoute (r :: rs) added).sublist.map RouteInfo.ipStr
          have hmem := (List.nodup_cons.1 (hn.sublist hsuf)).1
          rw [← find_gListFindIp_eq_none_iff, hf] at hmem
          cases hmem
        · intro hc
          exact absurd (hc r List.mem_cons_self hip e hfirst) hpfx
      · rw [if_neg hconf, ih hrs]
        apply Iff.intro
        · intro hc x hx hip e' he
          rcases List.mem_cons.1 hx with rfl | hx
          · cases hfirst.symm.trans he
            exact Classical.byContradiction fun hpfx => hconf ⟨hip, hpfx⟩
          · rw [find_append_cons hf] at he
            exact hc x hx hip e' he
        · intro hc x hx hip e' he
          rw [← find_append_cons hf] at he
          exact hc x (List.mem_cons_of_mem r hx) hip e' he

theorem consistent_of_no_routes (h : RouteState.routes s = []) : s.Consistent := by
  refine ⟨?_, ?_⟩
  · rw [h]
    exact List.nodup_nil
  · rw [h]
    intro r hr
    cases hr

theorem renewDhcp_consistent_iff (h : Host) (a : Announcement) (s : RouteState) :
    (renewDhcp h a s.toFirst).Consistent ↔ s.Consistent := by
  have hroutes := renewDhcp_routes h a s
  have hgw := renewDhcp_gwList h a s
  apply Iff.intro
  · intro hc
    obtain ⟨hn, hs⟩ := hc
    rw [hroutes] at hn hs
    rw [hgw] at hs
    exact ⟨hn, hs⟩
  · intro hc
    obtain ⟨hn, hs⟩ := hc
    refine ⟨?_, ?_⟩
    · rw [hroutes]
      exact hn
    · rw [hroutes, hgw]
      exact hs

theorem updateRoutes_consistent_iff (h : Host) (a : Announcement)
    (hn : (s.routes.map RouteInfo.ipStr).Nodup) :
    GatewaysClean s a s.gwList ↔ ∃ t, updateRoutes h a s true = some t ∧ t.Consistent := by
  have hkept : ((s.routes.filter (routeValid s.gwList)).map RouteInfo.ipStr).Nodup :=
    hn.sublist (List.filter_sublist.map _)
  have hserved : ∀ r ∈ s.routes.filter (routeValid s.gwList), Served s.gwList r :=
    fun r hr => routeValid_served (List.mem_filter.1 hr).2
  apply Iff.intro
  · intro hclean
    obtain ⟨hfit, hcomp⟩ := hclean
    obtain ⟨u, hu, hg, hroutes⟩ := updateRoutes_routes h a hfit
    rw [survivors_of_nodup s.gwList hn] at hroutes
    refine ⟨u, hu, ?_, ?_⟩
    · rw [hroutes]
      split
      · next hall => exact (foldl_addRoute_nodup_iff hkept).2 (hcomp hall)
      · exact hkept
    · intro r hr
      rw [served_congr hg]
      rw [hroutes] at hr
      split at hr
      · rcases mem_foldl_addRoute hr with hr | hr
        · exact hserved r hr
        · obtain ⟨gw, hgw, rfl⟩ := addedRoutes_subset hr
          exact GwyDeviceData.route_served hgw
      · exact hserved r hr
  · intro hex
    obtain ⟨t, ht, hc⟩ := hex
    have hfit := updateRoutes_fits ht
    obtain ⟨u, hu, _, hroutes⟩ := updateRoutes_routes h a hfit
    cases hu.symm.trans ht
    apply And.intro hfit
    intro (hall : AllOrNone s.gwList s.routes)
    have hnodup := hc.nodup
    rw [survivors_of_nodup s.gwList hn] at hroutes
    rw [hroutes, if_pos hall] at hnodup
    exact (foldl_addRoute_nodup_iff hkept).1 hnodup

theorem clean_iff (h : Host) (s : RouteState) (a : Announcement) (hs : s.Consistent) :
    Clean h s a ↔ ∃ t, gatewayRouteDataStep h s a = some t ∧ t.Consistent :=
  withGateways_iff h s a (fun _ => consistent_of_no_routes) (renewDhcp_consistent_iff h a)
    fun gws => updateRoutes_consistent_iff h a (s := { s with gwList := gws }) hs.nodup

theorem init_consistent : RouteState.init.Consistent := consistent_of_no_routes rfl

/-- After every announcement of a run the tracked routes are consistent, exactly when each
announcement is clean in the state it meets. -/
theorem routes_consistent_iff (h : Host) (as : List Announcement) :
    StepsMeet (gatewayRouteDataStep h) (Clean h) .init as ↔
      ∀ pre, pre <+: as →
        ∃ t, run (gatewayRouteDataStep h) .init pre = some t ∧ t.Consistent :=
  stepsMeet_iff (fun s a hs => clean_iff h s a hs) init_consistent

/-- Two gateways with one link-local address and different prefixes, both set up: the address is
tracked twice. -/
def sharedLinkLocal : Announcement :=
  .ofGateways [.gateway "" "fe80::1" "2001:db8:1::/64" "XG1",
    .gateway "" "fe80::1" "2001:db8:2::/64" "XG2"] (fun _ => 23)

theorem sharedLinkLocal_inconsistent :
    ¬∀ pre, pre <+: [sharedLinkLocal] →
      ∃ t, run (gatewayRouteDataStep .sample) .init pre = some t ∧ t.Consistent := by
  intro h
  obtain ⟨t, ht, hc⟩ := h [sharedLinkLocal] (List.prefix_refl _)
  have hroutes : (run (gatewayRouteDataStep .sample) .init [sharedLinkLocal]).map
      (fun t => decide (t.routes.map RouteInfo.ipStr).Nodup) = some false := by decide
  rw [ht, Option.map_some, decide_eq_true hc.nodup] at hroutes
  cases hroutes

end NetSrvMgr.Route
