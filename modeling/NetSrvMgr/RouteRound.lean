import NetSrvMgr.RouteTracking

namespace NetSrvMgr.Route
open CString
set_option autoImplicit true

def AddressesFit (s : RouteState) : Prop := ∀ r ∈ s.routes, r.ipStr.str.length < ipSize

/-- Of the tracked routes none is valid, or all are. -/
def AllOrNone (gws : List GwyDeviceData) (rs : List RouteInfo) : Prop :=
  (rs.filter (routeValid gws)).length = 0 ∨ (rs.filter (routeValid gws)).length = rs.length

instance (gws : List GwyDeviceData) (rs : List RouteInfo) : Decidable (AllOrNone gws rs) :=
  inferInstanceAs (Decidable (_ ∨ _))

/-- The gateways that a round takes from its announcement. -/
def Announcement.gateways (h : Host) (a : Announcement) : List GwyDeviceData :=
  match a.fetched with
  | some (some rootJson) =>
    match rootJson.getObjectItem "xmediagateways".toList with
    | some gwFullData => acceptGateways h gwFullData
    | none => []
  | _ => []

/-- A condition on the gateways of an announcement, where it has any; where it has no array of
gateways the routes are walked before they are deleted. -/
def WithGateways (h : Host) (s : RouteState) (a : Announcement)
    (G : List GwyDeviceData → Prop) : Prop :=
  match a.fetched with
  | some (some rootJson) =>
    match rootJson.getObjectItem "xmediagateways".toList with
    | some gwFullData =>
      acceptGateways h gwFullData ≠ [] → G (acceptGateways h gwFullData)
    | none => AddressesFit s
  | _ => True

theorem checkExistingRouteValid_spec (hfit : AddressesFit s) :
    ∃ t, t.routes = survivors s.gwList s.routes ∧
      t.gwList.map GwyDeviceData.addressing = s.gwList.map GwyDeviceData.addressing ∧
      t.lastRouteSetV4 = s.lastRouteSetV4 ∧
      checkExistingRouteValid s = some (t, decide (AllOrNone s.gwList s.routes)) := by
  obtain ⟨t, ht, hkept, hg, hlast⟩ := checkExistingRoutes_spec (s := s.toFirst) [] s.routes
    (RouteState.toFirst_gwRouteInfo s) hfit
  have hlen := length_survivors s.gwList s.routes
  rw [survivors] at hlen
  refine ⟨t, RouteState.routes_of_ofList hkept, hg, hlast, ?_⟩
  have htoList : s.toFirst.gwRouteInfo.toList = s.routes := RouteState.routes_toFirst s
  rw [checkExistingRouteValid, htoList, ht, Option.map_some, hkept,
    RouteState.toFirst_gwRouteInfo, GList.length_ofList, GList.length_ofList, List.nil_append]
  have hgw : s.toFirst.gwList = s.gwList := rfl
  rw [hgw, hlen]
  simp only [ne_eq, decide_not, Bool.not_and, Bool.not_not]
  exact congrArg (fun valid => some (t, valid)) (Bool.decide_or _ _).symm

theorem checkExistingRouteValid_fits (h : checkExistingRouteValid s = some r) :
    AddressesFit s := by
  rw [checkExistingRouteValid, Option.map_eq_some_iff] at h
  obtain ⟨t, ht, _⟩ := h
  have hfit := checkExistingRoutes_fits ht
  rw [show s.toFirst.gwRouteInfo.toList = s.routes from RouteState.routes_toFirst s] at hfit
  exact hfit

/-- With gateways in place, the routes are set only where the walk has kept all routes or
none. -/
theorem updateRoutes_gateways (h : Host) (a : Announcement) (hfit : AddressesFit s) :
    ∃ t, t.routes = survivors s.gwList s.routes ∧
      t.gwList.map GwyDeviceData.addressing = s.gwList.map GwyDeviceData.addressing ∧
      t.lastRouteSetV4 = s.lastRouteSetV4 ∧
      updateRoutes h a s true = some (if AllOrNone s.gwList s.routes then
        if (setRoute h a t).2 then sendCurrentRouteData (setRoute h a t).1
        else (setRoute h a t).1
      else t) := by
  obtain ⟨t, hroutes, hg, hlast, hcheck⟩ := checkExistingRouteValid_spec hfit
  refine ⟨t, hroutes, hg, hlast, ?_⟩
  rw [updateRoutes, if_pos rfl, hcheck, Option.map_some]
  dsimp only
  by_cases hall : AllOrNone s.gwList s.routes
  · rw [if_pos (decide_eq_true hall), if_pos hall]
  · rw [if_neg (fun hd => hall (of_decide_eq_true hd)), if_neg hall]

theorem updateRoutes_routes (h : Host) (a : Announcement) (hfit : AddressesFit s) :
    ∃ u, updateRoutes h a s true = some u ∧
      u.gwList.map GwyDeviceData.addressing = s.gwList.map GwyDeviceData.addressing ∧
      u.routes = if AllOrNone s.gwList s.routes
        then (addedRoutes a 0 s.gwList).foldl addRoute (survivors s.gwList s.routes)
        else survivors s.gwList s.routes := by
  obtain ⟨t, hroutes, hg, _, hup⟩ := updateRoutes_gateways h a hfit
  obtain ⟨hset, _, hgset⟩ := setRoute_spec h a t
  rw [addedRoutes_congr a 0 hg, hroutes] at hset
  refine ⟨_, hup, ?_⟩
  split
  · split
    · exact ⟨hgset.trans hg, hset⟩
    · exact ⟨hgset.trans hg, hset⟩
  · exact ⟨hg, hroutes⟩

theorem updateRoutes_fits (h : updateRoutes host a s true = some t) : AddressesFit s := by
  rw [updateRoutes, if_pos rfl, Option.map_eq_some_iff] at h
  obtain ⟨r, hr, _⟩ := h
  exact checkExistingRouteValid_fits hr

theorem updateRoutes_deleted (h : Host) (a : Announcement) (s : RouteState) :
    ∃ t, updateRoutes h a s false = some t ∧ t.routes = [] :=
  ⟨delRouteList s, rfl, delRouteList_routes s⟩

theorem gatewayRouteDataStep_map (h : Host) (s : RouteState) (a : Announcement) :
    gatewayRouteDataStep h s a =
      ((storeRouteDetails h a s).bind fun r => updateRoutes h a r.1 r.2).map
        fun t => renewDhcp h a t.toFirst := by
  rw [gatewayRouteDataStep, Option.map_bind]
  rfl

section
variable {P : RouteState → Prop}

theorem not_stored_iff (h : Host) (a : Announcement) (hnil : ∀ t, t.routes = [] → P t)
    (o : Option RouteState) :
    (∃ t, ((o.map fun u => (u, false)).bind fun r => updateRoutes h a r.1 r.2) = some t ∧ P t) ↔
      ∃ u, o = some u := by
  cases o with
  | none =>
    apply Iff.intro
    · intro hex
      obtain ⟨t, ht, _⟩ := hex
      cases ht
    · intro hex
      obtain ⟨u, hu⟩ := hex
      cases hu
  | some u =>
    obtain ⟨t, ht, hroutes⟩ := updateRoutes_deleted h a u
    exact iff_of_true ⟨t, ht, hnil t hroutes⟩ ⟨u, rfl⟩

/-- A round is defined and ends as `P` wants, for a `P` that looks at neither the list pointer
nor the DHCP renewals and holds without routes, exactly where the update does so for the
gateways of the announcement. -/
theorem withGateways_iff {G : List GwyDeviceData → Prop} (h : Host) (s : RouteState)
    (a : Announcement) (hnil : ∀ t, t.routes = [] → P t)
    (hrenew : ∀ t, P (renewDhcp h a t.toFirst) ↔ P t)
    (hset : ∀ gws, G gws ↔ ∃ t, updateRoutes h a { s with gwList := gws } true = some t ∧ P t) :
    WithGateways h s a G ↔ ∃ t, gatewayRouteDataStep h s a = some t ∧ P t := by
  have hstep : (∃ t, gatewayRouteDataStep h s a = some t ∧ P t) ↔
      ∃ t, ((storeRouteDetails h a s).bind fun r => updateRoutes h a r.1 r.2) = some t ∧
        P t := by
    rw [gatewayRouteDataStep_map]
    simp only [Option.map_eq_some_iff, exists_exists_and_eq_and, hrenew]
  rw [hstep, WithGateways, storeRouteDetails]
  have hdeleted := fun u => (not_stored_iff h a hnil (some u)).2 ⟨u, rfl⟩
  cases a.fetched with
  | none => exact iff_of_true trivial (hdeleted s)
  | some upnpResults =>
    cases upnpResults with
    | none => exact iff_of_true trivial (hdeleted (delGatewayList s))
    | some rootJson =>
      dsimp only
      rw [parseStoreGatewayData]
      cases rootJson.getObjectItem "xmediagateways".toList with
      | none =>
        dsimp only
        have hfst : (checkExistingRouteValid (delGatewayList s)).map (fun r => (r.1, false)) =
            ((checkExistingRouteValid (delGatewayList s)).map Prod.fst).map
              fun s => (s, false) := by
          rw [Option.map_map]
          rfl
        rw [hfst, not_stored_iff h a hnil]
        apply Iff.intro
        · intro hfit
          obtain ⟨t, _, _, _, hcheck⟩ := checkExistingRouteValid_spec (s := delGatewayList s) hfit
          exact ⟨t, by rw [hcheck, Option.map_some]⟩
        · intro hex
          obtain ⟨t, ht⟩ := hex
          obtain ⟨r, hr, _⟩ := Option.map_eq_some_iff.1 ht
          exact checkExistingRouteValid_fits (s := delGatewayList s) hr
      | some gwFullData =>
        dsimp only
        by_cases hgws : acceptGateways h gwFullData = []
        · rw [hgws]
          exact iff_of_true (fun hne => absurd rfl hne) (hdeleted _)
        · rw [if_neg (fun hlen => hgws (List.length_eq_zero_iff.1 hlen))]
          exact (imp_iff_right hgws).trans (hset (acceptGateways h gwFullData))

end

theorem gatewayRouteDataStep_gateways {h : Host} {a : Announcement} (s : RouteState)
    (hne : a.gateways h ≠ []) :
    gatewayRouteDataStep h s a = (updateRoutes h a { s with gwList := a.gateways h } true).map
      fun t => renewDhcp h a t.toFirst := by
  have hstore : storeRouteDetails h a s = some ({ s with gwList := a.gateways h }, true) := by
    rw [Announcement.gateways] at hne ⊢
    rw [storeRouteDetails]
    cases hf : a.fetched with
    | none =>
      rw [hf] at hne
      exact absurd rfl hne
    | some upnpResults =>
      rw [hf] at hne
      cases upnpResults with
      | none => exact absurd rfl hne
      | some rootJson =>
        dsimp only at hne ⊢
        rw [parseStoreGatewayData]
        cases hg : rootJson.getObjectItem "xmediagateways".toList with
        | none =>
          rw [hg] at hne
          exact absurd rfl hne
        | some gwFullData =>
          rw [hg] at hne
          exact if_neg fun hlen => hne (List.length_eq_zero_iff.1 hlen)
  rw [gatewayRouteDataStep_map, hstore, Option.bind_some]

end NetSrvMgr.Route
