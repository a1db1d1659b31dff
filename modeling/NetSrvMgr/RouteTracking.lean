import NetSrvMgr.RouteDelete

namespace NetSrvMgr.Route
open CString
set_option autoImplicit true

/-- The tracked routes after a route has been added: a new entry goes in front where no entry has
its address, or the first that has it has another prefix. -/
def addRoute (rs : List RouteInfo) (r : RouteInfo) : List RouteInfo :=
  match rs.find? (gListFindIp r.ipStr) with
  | none => r :: rs
  | some e => if !r.isIPv4 && e.ipv6Pfix ≠ r.ipv6Pfix then r :: rs else rs

def GwyDeviceData.route (gw : GwyDeviceData) : RouteInfo :=
  if checkIpMode gw.ipv6prefix then ⟨false, gw.gwyipv6, gw.prefixStr⟩
  else ⟨true, gw.gwyip, gw.prefixStr⟩

def addedRoutes (a : Announcement) : Nat → List GwyDeviceData → List RouteInfo
  | _, [] => []
  | i, gw :: gws =>
    if a.gwSetupStatus i = systemCommandShellSuccess then gw.route :: addedRoutes a (i + 1) gws
    else addedRoutes a (i + 1) gws

/-- What the walk over the tracked routes compares a gateway by. -/
def GwyDeviceData.addressing (gw : GwyDeviceData) : Stripped × Stripped × Stripped :=
  (gw.gwyip, gw.gwyipv6, gw.prefixStr)

theorem GwyDeviceData.stripPrefix_addressing (gw : GwyDeviceData) :
    gw.stripPrefix.addressing = gw.addressing := by
  rw [GwyDeviceData.addressing, GwyDeviceData.addressing, GwyDeviceData.prefixStr,
    GwyDeviceData.prefixStr]
  simp only [GwyDeviceData.stripPrefix, Prod.mk.injEq, true_and]
  exact Stripped.ext (gStrstrip_idem _)

/-- The first gateway with the address of the route has, for a v6 route, its prefix. -/
def routeValid (gws : List GwyDeviceData) (r : RouteInfo) : Bool :=
  match gws.find? (gListFindGw r.ipStr) with
  | none => false
  | some gw => r.isIPv4 || decide (r.ipv6Pfix = gw.prefixStr)

theorem addRoute_of_new (h : rs.find? (gListFindIp r.ipStr) = none) :
    addRoute rs r = r :: rs := by
  rw [addRoute, h]

theorem addRoute_of_known (h : rs.find? (gListFindIp r.ipStr) = some e) :
    addRoute rs r = if r.isIPv4 = false ∧ e.ipv6Pfix ≠ r.ipv6Pfix then r :: rs else rs := by
  rw [addRoute, h]
  simp only [Bool.and_eq_true, Bool.not_eq_true', decide_eq_true_eq]

theorem addRoute_eq (rs : List RouteInfo) (r : RouteInfo) :
    addRoute rs r = r :: rs ∨ addRoute rs r = rs := by
  cases hf : rs.find? (gListFindIp r.ipStr) with
  | none => exact Or.inl (addRoute_of_new hf)
  | some e =>
    rw [addRoute_of_known hf]
    split
    · exact Or.inl rfl
    · exact Or.inr rfl

theorem suffix_foldl_addRoute (rs added : List RouteInfo) : rs <:+ added.foldl addRoute rs := by
  induction added generalizing rs with
  | nil => exact List.suffix_refl rs
  | cons r added ih =>
    rw [List.foldl_cons]
    refine List.IsSuffix.trans ?_ (ih (addRoute rs r))
    rcases addRoute_eq rs r with h | h
    · rw [h]
      exact List.suffix_cons r rs
    · rw [h]

theorem checkAddRouteInfo_routes (ip : Stripped) (isIPv4 : Bool) (pfx : Stripped)
    (s : RouteState) :
    (checkAddRouteInfo ip isIPv4 pfx s).routes = addRoute s.routes ⟨isIPv4, ip, pfx⟩ := by
  rw [checkAddRouteInfo, addRoute]
  dsimp only
  rw [RouteState.toFirst_gwRouteInfo, GList.findCustom_ofList]
  cases hf : s.routes.find? (gListFindIp ip) with
  | none =>
    rw [GList.findFrom_of_find_none hf]
    exact (congrArg GList.toList (GList.prepend_ofList s.routes _)).trans
      (GList.toList_ofList _)
  | some e =>
    obtain ⟨ys, zs, _, hfrom, _, _⟩ := GList.findFrom_of_find_some [] hf
    rw [hfrom]
    dsimp only
    split
    · exact (congrArg GList.toList (GList.prepend_ofList s.routes _)).trans
        (GList.toList_ofList _)
    · exact RouteState.routes_toFirst s

theorem checkAddRouteInfo_frame (ip : Stripped) (isIPv4 : Bool) (pfx : Stripped)
    (s : RouteState) :
    (checkAddRouteInfo ip isIPv4 pfx s).gwList = s.gwList ∧
      (checkAddRouteInfo ip isIPv4 pfx s).commands = s.commands ∧
      (checkAddRouteInfo ip isIPv4 pfx s).routeIf = s.routeIf := by
  rw [checkAddRouteInfo]
  split
  · exact ⟨rfl, rfl, rfl⟩
  · split
    · exact ⟨rfl, rfl, rfl⟩
    · exact ⟨rfl, rfl, rfl⟩

theorem addGatewayRoute_routes (gw : GwyDeviceData) (s : RouteState) :
    (addGatewayRoute gw s).routes = addRoute s.routes gw.route := by
  rw [addGatewayRoute, GwyDeviceData.route]
  split
  · exact checkAddRouteInfo_routes _ _ _ s
  · exact checkAddRouteInfo_routes _ _ _ s

theorem addGatewayRoute_frame (gw : GwyDeviceData) (s : RouteState) :
    (addGatewayRoute gw s).gwList = s.gwList ∧
      (addGatewayRoute gw s).commands = s.commands ∧
      (addGatewayRoute gw s).routeIf = s.routeIf := by
  rw [addGatewayRoute]
  split
  · exact checkAddRouteInfo_frame _ _ _ s
  · exact checkAddRouteInfo_frame _ _ _ s

@[simp] theorem runGwSetup_routes (gw : GwyDeviceData) (s : RouteState) :
    (runGwSetup gw s).routes = s.routes := rfl

def SetRouteVars.Selects (v : SetRouteVars) : Prop :=
  v.setRoute = true ∨ (v.firstXG1GwData = true ∧ v.firstXG2GwData = true)

theorem SetRouteVars.Selects.select {v : SetRouteVars} (hv : v.Selects) (gw : GwyDeviceData) :
    (v.select gw).setRoute = true := by
  rw [SetRouteVars.select]
  rcases hv with hv | ⟨h₁, h₂⟩
  · split
    · split
      · rfl
      · exact hv
    · split
      · rfl
      · exact hv
  · rw [h₁, h₂]
    split
    · rfl
    · rfl

theorem setRouteLoop_cons (hv : v.Selects) (a : Announcement) (i : Nat) (gw : GwyDeviceData)
    (gws : List GwyDeviceData) (s : RouteState) :
    ∃ w : SetRouteVars, w.Selects ∧ setRouteLoop a i v (gw :: gws) s =
      if a.gwSetupStatus i = systemCommandShellSuccess then
        let r := setRouteLoop a (i + 1) w gws (addGatewayRoute gw (runGwSetup gw s))
        (gw.setRoute :: r.1, r.2)
      else
        let r := setRouteLoop a (i + 1) w gws (runGwSetup gw s)
        (gw :: r.1, r.2) := by
  have hs := hv.select gw
  by_cases hret : a.gwSetupStatus i = systemCommandShellSuccess
  · refine ⟨{ v.select gw with retType := some (a.gwSetupStatus i), retVal := true },
      Or.inl hs, ?_⟩
    rw [setRouteLoop]
    simp only [hs, if_true, hret]
  · refine ⟨{ v.select gw with retType := some (a.gwSetupStatus i) }, Or.inl hs, ?_⟩
    rw [setRouteLoop]
    simp only [hs, if_true, hret, if_false, Option.some.injEq]

theorem setRouteLoop_spec (hv : v.Selects) (a : Announcement) (i : Nat)
    (gws : List GwyDeviceData) (s : RouteState) :
    (setRouteLoop a i v gws s).2.2.routes = (addedRoutes a i gws).foldl addRoute s.routes ∧
      (setRouteLoop a i v gws s).2.2.commands =
        s.commands ++ gws.map (GwyDeviceData.gwSetup s.routeIf) ∧
      (setRouteLoop a i v gws s).1.map GwyDeviceData.addressing =
        gws.map GwyDeviceData.addressing := by
  induction gws generalizing i v s with
  | nil => exact ⟨rfl, (List.append_nil s.commands).symm, rfl⟩
  | cons gw gws ih =>
    obtain ⟨w, hw, heq⟩ := setRouteLoop_cons hv a i gw gws s
    rw [heq, addedRoutes]
    split
    · obtain ⟨hr, hc, hg⟩ := ih hw (i + 1) (addGatewayRoute gw (runGwSetup gw s))
      obtain ⟨_, hcmd, hif⟩ := addGatewayRoute_frame gw (runGwSetup gw s)
      refine ⟨?_, ?_, ?_⟩
      · rw [hr, addGatewayRoute_routes, runGwSetup_routes, List.foldl_cons]
      · rw [hc, hcmd, hif, runGwSetup, List.append_assoc]
        rfl
      · rw [List.map_cons, List.map_cons, hg]
        exact congrArg (· :: _) gw.stripPrefix_addressing
    · obtain ⟨hr, hc, hg⟩ := ih hw (i + 1) (runGwSetup gw s)
      refine ⟨?_, ?_, ?_⟩
      · rw [hr, runGwSetup_routes]
      · rw [hc, runGwSetup, List.append_assoc]
        rfl
      · rw [List.map_cons, List.map_cons, hg]

theorem getRouteInterface_frame (h : Host) (a : Announcement) (s : RouteState) :
    (getRouteInterface h a s).gwList = s.gwList ∧
      (getRouteInterface h a s).routes = s.routes ∧
      (getRouteInterface h a s).commands = s.commands := by
  rw [getRouteInterface]
  split
  · exact ⟨rfl, rfl, rfl⟩
  · split
    · exact ⟨rfl, rfl, rfl⟩
    · exact ⟨rfl, rfl, rfl⟩

theorem setRoute_spec (h : Host) (a : Announcement) (s : RouteState) :
    (setRoute h a s).1.routes = (addedRoutes a 0 s.gwList).foldl addRoute s.routes ∧
      (setRoute h a s).1.commands =
        s.commands ++ s.gwList.map (GwyDeviceData.gwSetup (getRouteInterface h a s).routeIf) ∧
      (setRoute h a s).1.gwList.map GwyDeviceData.addressing =
        s.gwList.map GwyDeviceData.addressing := by
  obtain ⟨hg, hr, hc⟩ := getRouteInterface_frame h a s
  have hspec := setRouteLoop_spec (v := .init) (Or.inr ⟨rfl, rfl⟩) a 0
    (getRouteInterface h a s).gwList (getRouteInterface h a s)
  rw [hg, hr, hc] at hspec
  rw [setRoute, hg]
  exact hspec

theorem routeValid_eq (gws : List GwyDeviceData) (r : RouteInfo) :
    routeValid gws r =
      match (gws.map GwyDeviceData.addressing).find? fun k =>
        decide (k.1 = r.ipStr) || decide (k.2.1 = r.ipStr) with
      | none => false
      | some k => r.isIPv4 || decide (r.ipv6Pfix = k.2.2) := by
  have hp : (fun k : Stripped × Stripped × Stripped =>
      decide (k.1 = r.ipStr) || decide (k.2.1 = r.ipStr)) ∘ GwyDeviceData.addressing =
      gListFindGw r.ipStr := rfl
  rw [routeValid, List.find?_map, hp]
  cases gws.find? (gListFindGw r.ipStr) with
  | none => rfl
  | some gw => rfl

theorem routeValid_congr {gws gws' : List GwyDeviceData}
    (h : gws'.map GwyDeviceData.addressing = gws.map GwyDeviceData.addressing) :
    routeValid gws' = routeValid gws := by
  funext r
  rw [routeValid_eq, routeValid_eq, h]

theorem GwyDeviceData.route_eq (gw : GwyDeviceData) :
    gw.route = if checkIpMode gw.addressing.2.2.str
      then ⟨false, gw.addressing.2.1, gw.addressing.2.2⟩
      else ⟨true, gw.addressing.1, gw.addressing.2.2⟩ := by
  have hmode : checkIpMode gw.prefixStr.str = checkIpMode gw.ipv6prefix := by
    rw [checkIpMode, checkIpMode, gw.prefixStr.stripped]
    rfl
  rw [GwyDeviceData.addressing, hmode]
  rfl

theorem addedRoutes_congr (a : Announcement) (i : Nat) {gws gws' : List GwyDeviceData}
    (h : gws'.map GwyDeviceData.addressing = gws.map GwyDeviceData.addressing) :
    addedRoutes a i gws' = addedRoutes a i gws := by
  induction gws generalizing i gws' with
  | nil =>
    rw [List.map_nil, List.map_eq_nil_iff] at h
    rw [h]
  | cons gw gws ih =>
    cases gws' with
    | nil => cases h
    | cons gw' gws' =>
      rw [List.map_cons, List.map_cons, List.cons.injEq] at h
      obtain ⟨hgw, hgws⟩ := h
      rw [addedRoutes, addedRoutes, ih (i + 1) hgws, gw'.route_eq, gw.route_eq, hgw]

theorem stripPrefixOf_addressing (ip : Stripped) (gws : List GwyDeviceData) :
    (stripPrefixOf ip gws).map GwyDeviceData.addressing =
      gws.map GwyDeviceData.addressing := by
  induction gws with
  | nil => rfl
  | cons gw gws ih =>
    rw [stripPrefixOf]
    split
    · rw [List.map_cons, List.map_cons, gw.stripPrefix_addressing]
    · rw [List.map_cons, List.map_cons, ih]

theorem checkExistingRoutes_cons (rs : List RouteInfo) (hlen : r.ipStr.str.length < ipSize)
    (hr : r ∈ s.routes) :
    ∃ gws, gws.map GwyDeviceData.addressing = s.gwList.map GwyDeviceData.addressing ∧
      checkExistingRoutes (r :: rs) s =
        (let s := { s with gwList := gws }
        checkExistingRoutes rs (if routeValid gws r then s
          else s.deleteRoute r.ipStr r.isIPv4)) := by
  rw [checkExistingRoutes, if_pos hlen]
  cases hf : s.gwList.find? (gListFindGw r.ipStr) with
  | none =>
    have hv : routeValid s.gwList r = false := by
      rw [routeValid, hf]
    refine ⟨s.gwList, rfl, ?_⟩
    dsimp only
    rw [hv, if_neg Bool.false_ne_true, checkRemoveRouteInfo_of_mem hr]
  | some gw =>
    dsimp only
    cases hip : r.isIPv4 with
    | true =>
      have hv : routeValid s.gwList r = true := by
        rw [routeValid, hf]
        dsimp only
        rw [hip, Bool.true_or]
      refine ⟨s.gwList, rfl, ?_⟩
      rw [hv, if_pos rfl, if_pos rfl]
    | false =>
      have haddr := stripPrefixOf_addressing r.ipStr s.gwList
      have hv : routeValid (stripPrefixOf r.ipStr s.gwList) r =
          decide (r.ipv6Pfix = gw.prefixStr) := by
        rw [routeValid_congr haddr, routeValid, hf]
        dsimp only
        rw [hip, Bool.false_or]
      have hr' : r ∈ RouteState.routes { s with gwList := stripPrefixOf r.ipStr s.gwList } := hr
      refine ⟨_, haddr, ?_⟩
      rw [hv, if_neg Bool.false_ne_true]
      by_cases hpfx : r.ipv6Pfix = gw.prefixStr
      · rw [if_neg (not_not_intro hpfx), decide_eq_true hpfx, if_pos rfl]
      · rw [if_pos hpfx, decide_eq_false hpfx, if_neg Bool.false_ne_true,
          checkRemoveRouteInfo_of_mem hr']

theorem RouteState.routes_of_ofList {s : RouteState} (hs : s.gwRouteInfo = .ofList rs) :
    s.routes = rs := by
  rw [RouteState.routes, hs, GList.toList_ofList]

/-- What the walk does at a tracked route, to the list as it then is. -/
def dropInvalid (gws : List GwyDeviceData) (kept : List RouteInfo) (r : RouteInfo) :
    List RouteInfo :=
  if routeValid gws r then kept else kept.eraseP (gListFindIp r.ipStr)

/-- The tracked routes after the walk: each route that is not valid has taken out the first
entry with its address. -/
def survivors (gws : List GwyDeviceData) (rs : List RouteInfo) : List RouteInfo :=
  rs.foldl (dropInvalid gws) rs

/-- The walk goes on in what is left of the list: the entry it drops is at or before the one it
stands at. -/
theorem dropInvalid_append (gws : List GwyDeviceData) (xs : List RouteInfo) (r : RouteInfo)
    (rs : List RouteInfo) :
    ∃ ys, dropInvalid gws (xs ++ r :: rs) r = ys ++ rs ∧
      ys.length = xs.length + if routeValid gws r then 1 else 0 := by
  rw [dropInvalid]
  cases hv : routeValid gws r with
  | true => exact ⟨xs ++ [r], by rw [if_pos rfl, List.append_cons], List.length_append⟩
  | false =>
    rw [if_neg Bool.false_ne_true, if_neg Bool.false_ne_true]
    have hr : gListFindIp r.ipStr r = true := gListFindIp_iff.2 rfl
    by_cases hx : ∃ x ∈ xs, gListFindIp r.ipStr x = true
    · obtain ⟨x, hx, hip⟩ := hx
      have hlen := List.length_eraseP_of_mem hx hip
      have hpos := List.length_pos_of_mem hx
      refine ⟨xs.eraseP (gListFindIp r.ipStr) ++ [r], ?_, ?_⟩
      · rw [List.eraseP_append_left hip _ hx, List.append_cons]
      · rw [List.length_append, hlen, List.length_singleton]
        omega
    · have hxs : ∀ x ∈ xs, ¬gListFindIp r.ipStr x = true := fun x hm hip => hx ⟨x, hm, hip⟩
      refine ⟨xs, ?_, rfl⟩
      rw [List.eraseP_append_right _ hxs, List.eraseP_cons_of_pos hr]

theorem length_foldl_dropInvalid (gws : List GwyDeviceData) (xs rs : List RouteInfo) :
    (rs.foldl (dropInvalid gws) (xs ++ rs)).length =
      xs.length + (rs.filter (routeValid gws)).length := by
  induction rs generalizing xs with
  | nil => rw [List.append_nil]; rfl
  | cons r rs ih =>
    obtain ⟨ys, hys, hlen⟩ := dropInvalid_append gws xs r rs
    rw [List.foldl_cons, hys, ih, hlen, List.filter_cons]
    split
    · rw [List.length_cons]
      omega
    · rfl

theorem length_survivors (gws : List GwyDeviceData) (rs : List RouteInfo) :
    (survivors gws rs).length = (rs.filter (routeValid gws)).length := by
  have h := length_foldl_dropInvalid gws [] rs
  rw [List.nil_append, List.length_nil, Nat.zero_add] at h
  exact h

theorem foldl_dropInvalid_of_nodup (gws : List GwyDeviceData) (xs rs : List RouteInfo)
    (h : ((xs ++ rs).map RouteInfo.ipStr).Nodup) :
    rs.foldl (dropInvalid gws) (xs ++ rs) = xs ++ rs.filter (routeValid gws) := by
  induction rs generalizing xs with
  | nil => rfl
  | cons r rs ih =>
    rw [List.foldl_cons, dropInvalid]
    cases hv : routeValid gws r with
    | true =>
      rw [if_pos rfl, List.filter_cons_of_pos hv, List.append_cons, ih, List.append_assoc]
      · rfl
      · rw [← List.append_cons]
        exact h
    | false =>
      have hsub : ((xs ++ rs).map RouteInfo.ipStr).Nodup :=
        h.sublist ((List.Sublist.append_left (List.sublist_cons_self r rs) xs).map _)
      have herase : (xs ++ r :: rs).eraseP (gListFindIp r.ipStr) = xs ++ rs := by
        rw [List.map_append, List.map_cons, List.nodup_append] at h
        obtain ⟨_, _, hne⟩ := h
        have hxs : ∀ x ∈ xs, ¬gListFindIp r.ipStr x = true := by
          intro x hx hip
          exact hne _ (List.mem_map_of_mem hx) _ List.mem_cons_self (gListFindIp_iff.1 hip)
        rw [List.eraseP_append_right _ hxs, List.eraseP_cons_of_pos (gListFindIp_iff.2 rfl)]
      rw [if_neg Bool.false_ne_true, herase, ih xs hsub, List.filter_cons_of_neg]
      rw [hv]
      exact Bool.false_ne_true

theorem survivors_of_nodup (gws : List GwyDeviceData) (h : (rs.map RouteInfo.ipStr).Nodup) :
    survivors gws rs = rs.filter (routeValid gws) :=
  foldl_dropInvalid_of_nodup gws [] rs h

/-- With addresses that fit the buffer, the walk leaves the survivors and touches neither the
gateways' addressing nor the family of the last route. -/
theorem checkExistingRoutes_spec (xs rs : List RouteInfo)
    (hs : s.gwRouteInfo = .ofList (xs ++ rs)) (hlen : ∀ r ∈ rs, r.ipStr.str.length < ipSize) :
    ∃ t, checkExistingRoutes rs s = some t ∧
      t.gwRouteInfo = .ofList (rs.foldl (dropInvalid s.gwList) (xs ++ rs)) ∧
      t.gwList.map GwyDeviceData.addressing = s.gwList.map GwyDeviceData.addressing ∧
      t.lastRouteSetV4 = s.lastRouteSetV4 := by
  induction rs generalizing s xs with
  | nil => exact ⟨s, rfl, hs, rfl, rfl⟩
  | cons r rs ih =>
    have hroutes := RouteState.routes_of_ofList hs
    have hr : r ∈ s.routes := by
      rw [hroutes]
      exact List.mem_append_right _ List.mem_cons_self
    have hlen' : ∀ r ∈ rs, r.ipStr.str.length < ipSize :=
      fun x hx => hlen x (List.mem_cons_of_mem r hx)
    obtain ⟨gws, hgws, heq⟩ := checkExistingRoutes_cons rs (hlen r List.mem_cons_self) hr
    have hdrop : dropInvalid s.gwList = dropInvalid gws := by
      funext kept r
      rw [dropInvalid, dropInvalid, routeValid_congr hgws]
    obtain ⟨ys, hys, _⟩ := dropInvalid_append gws xs r rs
    rw [heq, hdrop, List.foldl_cons, hys]
    rw [dropInvalid, ← hroutes] at hys
    dsimp only
    cases hv : routeValid gws r with
    | true =>
      rw [hv, if_pos rfl, hroutes] at hys
      rw [if_pos rfl]
      have hs' : RouteState.gwRouteInfo { s with gwList := gws } = .ofList (ys ++ rs) := by
        rw [← hys]
        exact hs
      obtain ⟨t, ht, hkept, hg, hlast⟩ := ih ys hs' hlen'
      exact ⟨t, ht, hkept, hg.trans hgws, hlast⟩
    | false =>
      rw [hv, if_neg Bool.false_ne_true] at hys
      rw [if_neg Bool.false_ne_true]
      have hs' : (RouteState.deleteRoute r.ipStr r.isIPv4 { s with gwList := gws }).gwRouteInfo =
          .ofList (ys ++ rs) := congrArg GList.ofList hys
      obtain ⟨t, ht, hkept, hg, hlast⟩ := ih ys hs' hlen'
      exact ⟨t, ht, hkept, hg.trans hgws, hlast⟩

theorem checkExistingRoutes_fits (h : checkExistingRoutes rs s = some t) :
    ∀ r ∈ rs, r.ipStr.str.length < ipSize := by
  induction rs generalizing s with
  | nil =>
    intro r hr
    cases hr
  | cons r rs ih =>
    rw [checkExistingRoutes] at h
    split at h
    · next hlen =>
      have hrs : ∀ r ∈ rs, r.ipStr.str.length < ipSize := by
        split at h
        · exact ih h
        · split at h
          · exact ih h
          · split at h
            · exact ih h
            · exact ih h
      intro x hx
      rcases List.mem_cons.1 hx with rfl | hx
      · exact hlen
      · exact hrs x hx
    · cases h

theorem renewDhcp_routes (h : Host) (a : Announcement) (s : RouteState) :
    (renewDhcp h a s.toFirst).routes = s.routes := by
  rw [renewDhcp]
  split
  · exact RouteState.routes_toFirst s
  · exact RouteState.routes_toFirst s

theorem renewDhcp_gwList (h : Host) (a : Announcement) (s : RouteState) :
    (renewDhcp h a s.toFirst).gwList = s.gwList := by
  rw [renewDhcp]
  split
  · rfl
  · rfl

theorem renewDhcp_commands (h : Host) (a : Announcement) (s : RouteState) :
    (renewDhcp h a s.toFirst).commands = s.commands := by
  rw [renewDhcp]
  split
  · rfl
  · rfl

end NetSrvMgr.Route
