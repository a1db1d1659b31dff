import NetSrvMgr.RouteRound
import NetSrvMgr.Transition

namespace NetSrvMgr.Route
open CString Transition
set_option autoImplicit true

/-- What the worker does to the IPv6 configuration of an interface and to the DNS file. -/
inductive ReactionEffect
  | disableIpv6Autoconf (ifc : CStr)
  | enableIpv6Autoconf (ifc : CStr)
  | deleteinterfaceip (ifc : CStr)
  | deleteinterfaceroutes (ifc : CStr)
  | clearDnsFile
  deriving DecidableEq

structure Reaction where
  gwSelected : Bool
  effects : List ReactionEffect
  deriving DecidableEq

def Reaction.init : Reaction := ⟨false, []⟩

/-- The interfaces of the environment variables `WIFI_INTERFACE` and `MOCA_INTERFACE`. -/
def ifcList (wifiInterface mocaInterface : Option CStr) : List CStr :=
  (wifiInterface.toList ++ mocaInterface.toList).filter (!·.isEmpty)

def ReactionEffect.slaacOff (i : CStr) : List ReactionEffect :=
  [.disableIpv6Autoconf i, .deleteinterfaceip i, .deleteinterfaceroutes i]

def ReactionEffect.slaacOn (i : CStr) : List ReactionEffect :=
  [.deleteinterfaceip i, .deleteinterfaceroutes i, .enableIpv6Autoconf i]

section
variable (h : Host) (ifcs : List CStr)

def selectGateway (x : Reaction) : Reaction :=
  if !x.gwSelected && !h.xb3Selected then
    { gwSelected := true, effects := x.effects ++ ifcs.flatMap ReactionEffect.slaacOff }
  else x

/-- The loop of `setRoute`, for what comes before the script. -/
def setRouteReaction : SetRouteVars → List GwyDeviceData → Reaction → Reaction
  | _, [], x => x
  | v, gwdata :: element, x =>
    let v := v.select gwdata
    setRouteReaction v element (if v.setRoute then selectGateway h ifcs x else x)

def updateReaction (s : RouteState) (stored : Bool) (x : Reaction) : Reaction :=
  if stored then
    match checkExistingRouteValid s with
    | some (s, true) => setRouteReaction h ifcs .init s.gwList x
    | _ => x
  else x

def loseGateway (a : Announcement) (s : RouteState) (x : Reaction) : Reaction :=
  if s.gwRouteInfo.length = 0 && !a.usingDhcp then
    let x : Reaction := { x with effects := x.effects ++ [.clearDnsFile] }
    if x.gwSelected then
      { gwSelected := false, effects := x.effects ++ ifcs.flatMap ReactionEffect.slaacOn }
    else x
  else x

/-- One round of `getGatewayRouteDataThrd`, with the netlink monitor built in. -/
def reactionStep (st : RouteState × Reaction) (a : Announcement) :
    Option (RouteState × Reaction) :=
  (storeRouteDetails h a st.1).bind fun (s, stored) =>
    (updateRoutes h a s stored).map fun t =>
      (renewDhcp h a t.toFirst, loseGateway ifcs a t.toFirst (updateReaction h ifcs s stored st.2))

end

/-- The reaction leaves the routes alone: a round is one of the worker without the monitor. -/
theorem reactionStep_fst (h : Host) (ifcs : List CStr) (st : RouteState × Reaction)
    (a : Announcement) :
    (reactionStep h ifcs st a).map Prod.fst = gatewayRouteDataStep h st.1 a := by
  rw [reactionStep, gatewayRouteDataStep, Option.map_bind]
  congr 1
  funext r
  rw [Function.comp_apply, Option.map_map]
  rfl

def SystemCall.isGwSetup : SystemCall → Bool
  | .gwSetup .. => true
  | .routeDel .. => false

/-- How often the gateway script was called. -/
def RouteState.setups (s : RouteState) : Nat := s.commands.countP SystemCall.isGwSetup

/-- Two states between which no gateway was set up. -/
structure SameSignals (s t : RouteState) : Prop where
  upnpGwyLost : t.upnpGwyLost = s.upnpGwyLost
  dhcpRenewals : t.dhcpRenewals = s.dhcpRenewals
  setups : t.setups = s.setups

theorem SameSignals.refl (s : RouteState) : SameSignals s s := ⟨rfl, rfl, rfl⟩

theorem SameSignals.trans (h : SameSignals s t) (h' : SameSignals t u) : SameSignals s u :=
  ⟨h'.upnpGwyLost.trans h.upnpGwyLost, h'.dhcpRenewals.trans h.dhcpRenewals,
    h'.setups.trans h.setups⟩

theorem checkRemoveRouteInfo_signals (ip : Stripped) (isIPv4 : Bool) (s : RouteState) :
    SameSignals s (checkRemoveRouteInfo ip isIPv4 s) := by
  rw [checkRemoveRouteInfo_eq]
  split
  · refine ⟨rfl, rfl, ?_⟩
    rw [RouteState.setups, RouteState.deleteRoute_commands, List.countP_append]
    rfl
  · exact ⟨rfl, rfl, rfl⟩

theorem delRouteListLoop_signals (n : Nat) (s : RouteState) :
    SameSignals s (delRouteListLoop n s) := by
  induction n generalizing s with
  | zero => exact .refl s
  | succ n ih =>
    rw [delRouteListLoop]
    split
    · exact .refl s
    · rename_i gwdata _ _
      have hnext := ih (checkRemoveRouteInfo gwdata.ipStr gwdata.isIPv4 s).toNext
      have hremove := checkRemoveRouteInfo_signals gwdata.ipStr gwdata.isIPv4 s
      exact hremove.trans ⟨hnext.upnpGwyLost, hnext.dhcpRenewals, hnext.setups⟩

theorem delRouteList_signals (s : RouteState) : SameSignals s (delRouteList s) := by
  rw [delRouteList]
  dsimp only
  split
  · have hloop := delRouteListLoop_signals s.toFirst.gwRouteInfo.length s.toFirst
    exact ⟨hloop.upnpGwyLost, hloop.dhcpRenewals, hloop.setups⟩
  · exact ⟨rfl, rfl, rfl⟩

theorem checkExistingRoutes_signals (rs : List RouteInfo)
    (h : checkExistingRoutes rs s = some t) : SameSignals s t := by
  induction rs generalizing s with
  | nil =>
    cases h
    exact .refl _
  | cons r rs ih =>
    have hremove (s : RouteState) := checkRemoveRouteInfo_signals r.ipStr r.isIPv4 s
    rw [checkExistingRoutes] at h
    split at h
    · split at h
      · exact (hremove s).trans (ih h)
      · split at h
        · exact ih h
        · dsimp only at h
          split at h
          · have hrest := (hremove _).trans (ih h)
            exact ⟨hrest.upnpGwyLost, hrest.dhcpRenewals, hrest.setups⟩
          · have hrest := ih h
            exact ⟨hrest.upnpGwyLost, hrest.dhcpRenewals, hrest.setups⟩
    · cases h

theorem checkExistingRouteValid_signals (h : checkExistingRouteValid s = some (t, valid)) :
    SameSignals s t ∧ (s.routes = [] → t.routes = []) := by
  obtain ⟨u, hroutes, _, _, hspec⟩ := checkExistingRouteValid_spec (checkExistingRouteValid_fits h)
  obtain ⟨hu, _⟩ := Prod.mk.inj (Option.some.inj (hspec.symm.trans h))
  obtain ⟨v, hv, hr⟩ := Option.map_eq_some_iff.1 h
  obtain ⟨hvt, _⟩ := Prod.mk.inj hr
  have hwalk := checkExistingRoutes_signals _ hv
  subst hu hvt
  refine ⟨⟨hwalk.upnpGwyLost, hwalk.dhcpRenewals, hwalk.setups⟩, fun hnil => ?_⟩
  rw [hroutes, hnil]
  rfl

theorem storeRouteDetails_signals (h : storeRouteDetails host a s = some (t, stored)) :
    SameSignals s t ∧ (s.routes = [] → t.routes = []) := by
  rw [storeRouteDetails] at h
  split at h
  · rename_i upnpResults _
    rw [parseStoreGatewayData.eq_def] at h
    dsimp only at h
    split at h
    · cases h
      exact ⟨⟨rfl, rfl, rfl⟩, id⟩
    · split at h
      · split at h
        · rename_i gwFullData _ _
          cases h
          have hdel := delRouteList_signals
            { delGatewayList s with gwList := acceptGateways host gwFullData }
          exact ⟨⟨hdel.upnpGwyLost, hdel.dhcpRenewals, hdel.setups⟩,
            fun _ => delRouteList_routes _⟩
        · cases h
          exact ⟨⟨rfl, rfl, rfl⟩, id⟩
      · obtain ⟨⟨u, valid⟩, hu, hr⟩ := Option.map_eq_some_iff.1 h
        cases hr
        obtain ⟨hcheck, hnil⟩ := checkExistingRouteValid_signals hu
        exact ⟨⟨hcheck.upnpGwyLost, hcheck.dhcpRenewals, hcheck.setups⟩, hnil⟩
  · cases h
    exact ⟨.refl s, id⟩

theorem setRouteLoop_signals (hv : v.Selects) (a : Announcement) (i : Nat)
    (gws : List GwyDeviceData) (s : RouteState) :
    (setRouteLoop a i v gws s).2.2.upnpGwyLost = (s.upnpGwyLost && gws.isEmpty) ∧
      (setRouteLoop a i v gws s).2.2.dhcpRenewals = s.dhcpRenewals := by
  have hadd (gw : GwyDeviceData) (s : RouteState) :
      (addGatewayRoute gw s).upnpGwyLost = s.upnpGwyLost ∧
        (addGatewayRoute gw s).dhcpRenewals = s.dhcpRenewals := by
    have hcheck (ip : Stripped) (isIPv4 : Bool) (pfx : Stripped) :
        (checkAddRouteInfo ip isIPv4 pfx s).upnpGwyLost = s.upnpGwyLost ∧
          (checkAddRouteInfo ip isIPv4 pfx s).dhcpRenewals = s.dhcpRenewals := by
      rw [checkAddRouteInfo]
      split
      · exact ⟨rfl, rfl⟩
      · split
        · exact ⟨rfl, rfl⟩
        · exact ⟨rfl, rfl⟩
    rw [addGatewayRoute]
    split
    · exact hcheck _ _ _
    · exact hcheck _ _ _
  induction gws generalizing i v s with
  | nil => exact ⟨(Bool.and_true _).symm, rfl⟩
  | cons gw gws ih =>
    obtain ⟨w, hw, heq⟩ := setRouteLoop_cons hv a i gw gws s
    rw [heq, List.isEmpty_cons, Bool.and_false]
    split
    · obtain ⟨hlost, hrenewals⟩ := ih hw (i + 1) (addGatewayRoute gw (runGwSetup gw s))
      refine ⟨?_, hrenewals.trans (hadd gw _).2⟩
      rw [hlost, (hadd gw _).1]
      rfl
    · exact ih hw (i + 1) (runGwSetup gw s)

theorem setRoute_signals (h : Host) (a : Announcement) (s : RouteState) :
    (setRoute h a s).1.upnpGwyLost = (s.upnpGwyLost && s.gwList.isEmpty) ∧
      (setRoute h a s).1.dhcpRenewals = s.dhcpRenewals ∧
      (setRoute h a s).1.setups = s.setups + s.gwList.length := by
  obtain ⟨_, hcommands, _⟩ := setRoute_spec h a s
  have hloop := setRouteLoop_signals (v := .init) (Or.inr ⟨rfl, rfl⟩) a 0
    (getRouteInterface h a s).gwList (getRouteInterface h a s)
  have hif : (getRouteInterface h a s).gwList = s.gwList ∧
      (getRouteInterface h a s).upnpGwyLost = s.upnpGwyLost ∧
      (getRouteInterface h a s).dhcpRenewals = s.dhcpRenewals := by
    rw [getRouteInterface]
    split
    · exact ⟨rfl, rfl, rfl⟩
    · split
      · exact ⟨rfl, rfl, rfl⟩
      · exact ⟨rfl, rfl, rfl⟩
  rw [hif.1, hif.2.1, hif.2.2] at hloop
  refine ⟨?_, ?_, ?_⟩
  · rw [setRoute, hif.1]
    exact hloop.1
  · rw [setRoute, hif.1]
    exact hloop.2
  · rw [RouteState.setups, hcommands, List.countP_append, List.countP_map]
    have hall : s.gwList.countP (SystemCall.isGwSetup ∘
        GwyDeviceData.gwSetup (getRouteInterface h a s).routeIf) = s.gwList.length :=
      List.countP_eq_length.2 fun _ _ => rfl
    rw [hall, RouteState.setups]

theorem selectGateway_idem (h : Host) (ifcs : List CStr) (x : Reaction) :
    selectGateway h ifcs (selectGateway h ifcs x) = selectGateway h ifcs x := by
  obtain ⟨gwSelected, effects⟩ := x
  cases hxb3 : h.xb3Selected with
  | true => simp [selectGateway, hxb3]
  | false => cases gwSelected <;> simp [selectGateway, hxb3]

/-- SLAAC support goes at the first gateway, and stays so for the others. -/
theorem setRouteReaction_eq (h : Host) (ifcs : List CStr) (hv : v.Selects)
    (gws : List GwyDeviceData) (x : Reaction) :
    setRouteReaction h ifcs v gws x = if gws.isEmpty then x else selectGateway h ifcs x := by
  induction gws generalizing v x with
  | nil => rfl
  | cons gw gws ih =>
    have hselect := hv.select gw
    rw [setRouteReaction]
    rw [if_pos hselect, ih (Or.inl hselect), selectGateway_idem, ite_self]
    rfl

/-- What a round does before it looks for routes that are left: with `setUp` gateways were set
up. -/
structure Updated (h : Host) (ifcs : List CStr) (s t : RouteState) (x y : Reaction)
    (setUp : Bool) : Prop where
  upnpGwyLost : t.upnpGwyLost = (s.upnpGwyLost && !setUp)
  dhcpRenewals : t.dhcpRenewals = s.dhcpRenewals
  setups : s.setups + setUp.toNat ≤ t.setups
  routes : setUp = false → s.routes = [] → t.routes = []
  reaction : y = if setUp then selectGateway h ifcs x else x

theorem updateRoutes_updated {h : Host} (ifcs : List CStr) (x : Reaction)
    (hup : updateRoutes h a s stored = some t) :
    ∃ setUp, Updated h ifcs s t x (updateReaction h ifcs s stored x) setUp := by
  cases stored with
  | false =>
    cases hup
    have hdel := delRouteList_signals s
    refine ⟨false, ?_, hdel.dhcpRenewals, hdel.setups.ge, fun _ _ => delRouteList_routes s, rfl⟩
    rw [Bool.not_false, Bool.and_true]
    exact hdel.upnpGwyLost
  | true =>
    obtain ⟨⟨u, valid⟩, hu, hr⟩ := Option.map_eq_some_iff.1 hup
    obtain ⟨hsame, hnil⟩ := checkExistingRouteValid_signals hu
    rw [updateReaction, if_pos rfl, hu]
    dsimp only at hr
    cases valid with
    | false =>
      cases hr
      refine ⟨false, ?_, hsame.dhcpRenewals, hsame.setups.ge, fun _ => hnil, rfl⟩
      rw [Bool.not_false, Bool.and_true]
      exact hsame.upnpGwyLost
    | true =>
      obtain ⟨hlost, hrenewals, hsetups⟩ := setRoute_signals h a u
      obtain ⟨hroutes, _, _⟩ := setRoute_spec h a u
      have hr' : t.upnpGwyLost = (setRoute h a u).1.upnpGwyLost ∧
          t.dhcpRenewals = (setRoute h a u).1.dhcpRenewals ∧
          t.setups = (setRoute h a u).1.setups ∧ t.routes = (setRoute h a u).1.routes := by
        rw [if_pos rfl] at hr
        split at hr
        · cases hr
          exact ⟨rfl, rfl, rfl, rfl⟩
        · cases hr
          exact ⟨rfl, rfl, rfl, rfl⟩
      obtain ⟨hlost', hrenewals', hsetups', hroutes'⟩ := hr'
      refine ⟨!u.gwList.isEmpty, ?_, ?_, ?_, ?_, ?_⟩
      · rw [hlost', hlost, hsame.upnpGwyLost, Bool.not_not]
      · rw [hrenewals', hrenewals, hsame.dhcpRenewals]
      · rw [hsetups', hsetups, hsame.setups]
        cases u.gwList with
        | nil => exact Nat.le_refl _
        | cons gw gws => exact Nat.add_le_add_left (Nat.le_add_left 1 _) _
      · intro hempty hs
        rw [Bool.not_eq_false', List.isEmpty_iff] at hempty
        rw [hroutes', hroutes, hempty, hnil hs]
        rfl
      · dsimp only
        rw [setRouteReaction_eq h ifcs (Or.inr ⟨rfl, rfl⟩)]
        cases u.gwList with
        | nil => rfl
        | cons gw gws => rfl

theorem reactionStep_cases (h : reactionStep host ifcs (s, x) a = some (t, y)) :
    ∃ u x' setUp, Updated host ifcs s u x x' setUp ∧ t = renewDhcp host a u.toFirst ∧
      y = loseGateway ifcs a u.toFirst x' := by
  obtain ⟨⟨v, stored⟩, hstore, hrest⟩ := Option.bind_eq_some_iff.1 h
  obtain ⟨u, hup, hr⟩ := Option.map_eq_some_iff.1 hrest
  cases hr
  obtain ⟨hsame, hnil⟩ := storeRouteDetails_signals hstore
  obtain ⟨setUp, hupdated⟩ := updateRoutes_updated ifcs x hup
  refine ⟨u, _, setUp, ⟨?_, ?_, ?_, ?_, hupdated.reaction⟩, rfl, rfl⟩
  · rw [hupdated.upnpGwyLost, hsame.upnpGwyLost]
  · rw [hupdated.dhcpRenewals, hsame.dhcpRenewals]
  · rw [← hsame.setups]
    exact hupdated.setups
  · exact fun hset hs => hupdated.routes hset (hnil hs)

/-- What is left of the renewals that were paid for by a gateway that was set up. -/
def RouteState.credit (s : RouteState) : Nat := (!s.upnpGwyLost).toNat

theorem renewDhcp_credit (h : Host) (a : Announcement) (s : RouteState) :
    (renewDhcp h a s).dhcpRenewals + (renewDhcp h a s).credit = s.dhcpRenewals + s.credit ∧
      (renewDhcp h a s).setups = s.setups := by
  rw [renewDhcp]
  split
  · rename_i hlose
    simp only [Bool.and_eq_true, Bool.not_eq_true'] at hlose
    rw [RouteState.credit, RouteState.credit, hlose.1.2]
    exact ⟨rfl, rfl⟩
  · exact ⟨rfl, rfl⟩

/-- However a run goes on, it renews the DHCP lease at most once for each gateway that it sets
up, and once more where one was set up before and not lost since. -/
theorem renewals_le_setups (h : Host) (as : List Announcement) (s t : RouteState)
    (hrun : run (gatewayRouteDataStep h) s as = some t) :
    t.dhcpRenewals + t.credit + s.setups ≤ s.dhcpRenewals + s.credit + t.setups := by
  induction as generalizing s with
  | nil =>
    cases hrun
    exact Nat.le_refl _
  | cons a as ih =>
    obtain ⟨u, hu, hrest⟩ := Option.bind_eq_some_iff.1 hrun
    have hpair := reactionStep_fst h [] (s, .init) a
    rw [hu] at hpair
    obtain ⟨⟨u', y⟩, hstep, hfst⟩ := Option.map_eq_some_iff.1 hpair
    cases hfst
    obtain ⟨v, _, setUp, hupdated, rfl, _⟩ := reactionStep_cases hstep
    obtain ⟨hcredit, hsetups⟩ := renewDhcp_credit h a v.toFirst
    have hrest := ih _ hrest
    rw [hcredit, hsetups] at hrest
    have hv : v.credit ≤ s.credit + setUp.toNat := by
      rw [RouteState.credit, RouteState.credit, hupdated.upnpGwyLost]
      cases s.upnpGwyLost <;> cases setUp <;> decide
    have hrenewals := hupdated.dhcpRenewals
    have hpaid := hupdated.setups
    change t.dhcpRenewals + t.credit + v.setups ≤ v.dhcpRenewals + v.credit + t.setups at hrest
    omega

/-- A gateway is set up, and then no longer announced. -/
def gatewayComesAndGoes : List Announcement :=
  [.ofGateways [.gateway "169.254.1.1" "" "" "XG1"] fun _ => systemCommandShellSuccess,
    .ofGateways [] fun _ => 0]

theorem renewals_le_setups_comesAndGoes :
    ∃ t, run (gatewayRouteDataStep .sample) .init gatewayComesAndGoes = some t ∧
      t.dhcpRenewals = 1 ∧ t.dhcpRenewals + t.credit + 0 ≤ 0 + 0 + t.setups :=
  ⟨_, rfl, rfl, renewals_le_setups .sample gatewayComesAndGoes .init _ rfl⟩

/-- Whether SLAAC support was enabled for an interface, by the last script called for it. -/
def ReactionEffect.autoconf (i : CStr) : ReactionEffect → Option Bool
  | .enableIpv6Autoconf j => if j = i then some true else none
  | .disableIpv6Autoconf j => if j = i then some false else none
  | _ => none

def lastAutoconf (i : CStr) (effects : List ReactionEffect) : Option Bool :=
  (effects.filterMap (ReactionEffect.autoconf i)).getLast?

theorem lastAutoconf_append (i : CStr) (es fs : List ReactionEffect) :
    lastAutoconf i (es ++ fs) = (lastAutoconf i fs).or (lastAutoconf i es) := by
  rw [lastAutoconf, List.filterMap_append, List.getLast?_append]
  rfl

theorem lastAutoconf_flatMap {ifcs : List CStr} {script : CStr → List ReactionEffect}
    (hscript : ∀ j, (script j).filterMap (ReactionEffect.autoconf i) =
      if j = i then [enabled] else []) (hi : i ∈ ifcs) :
    lastAutoconf i (ifcs.flatMap script) = some enabled := by
  induction ifcs with
  | nil => cases hi
  | cons j ifcs ih =>
    have hhead : lastAutoconf i (script j) = if j = i then some enabled else none := by
      rw [lastAutoconf, hscript]
      split <;> rfl
    rw [List.flatMap_cons, lastAutoconf_append]
    by_cases hmem : i ∈ ifcs
    · rw [ih hmem]
      rfl
    · rcases List.mem_cons.1 hi with rfl | hi
      · rw [hhead, if_pos rfl]
        cases hrest : lastAutoconf i (ifcs.flatMap script) with
        | none => rfl
        | some b =>
          -- scripts for other interfaces only
          obtain ⟨e, he, hauto⟩ := List.mem_filterMap.1 (List.mem_of_getLast? hrest)
          obtain ⟨j, hj, hej⟩ := List.mem_flatMap.1 he
          have hb : b ∈ (script j).filterMap (ReactionEffect.autoconf i) :=
            List.mem_filterMap.2 ⟨e, hej, hauto⟩
          have hne : j ≠ i := by
            rintro rfl
            exact hmem hj
          rw [hscript, if_neg hne] at hb
          cases hb
      · exact absurd hi hmem

theorem slaacOff_autoconf (i j : CStr) :
    (ReactionEffect.slaacOff j).filterMap (ReactionEffect.autoconf i) =
      if j = i then [false] else [] := by
  have hauto : (ReactionEffect.slaacOff j).filterMap (ReactionEffect.autoconf i) =
      ((if j = i then some false else none) : Option Bool).toList := by
    rw [ReactionEffect.slaacOff]
    simp only [List.filterMap_cons, ReactionEffect.autoconf, List.filterMap_nil]
    cases (if j = i then some false else none : Option Bool) <;> rfl
  rw [hauto]
  split <;> rfl

theorem slaacOn_autoconf (i j : CStr) :
    (ReactionEffect.slaacOn j).filterMap (ReactionEffect.autoconf i) =
      if j = i then [true] else [] := by
  have hauto : (ReactionEffect.slaacOn j).filterMap (ReactionEffect.autoconf i) =
      ((if j = i then some true else none) : Option Bool).toList := by
    rw [ReactionEffect.slaacOn]
    simp only [List.filterMap_cons, ReactionEffect.autoconf, List.filterMap_nil]
    cases (if j = i then some true else none : Option Bool) <;> rfl
  rw [hauto]
  split <;> rfl

/-- The worker follows the gateways, unless an XB3 is preferred. -/
structure Follows (h : Host) (ifcs : List CStr) (s : RouteState) (x : Reaction) : Prop where
  lost : s.routes ≠ [] → s.upnpGwyLost = false
  selected : h.xb3Selected = false → x.gwSelected = !s.upnpGwyLost
  off : ∀ i ∈ ifcs, lastAutoconf i x.effects = some false ↔ x.gwSelected = true
  xb3 : h.xb3Selected = true → x.gwSelected = false ∧ s.dhcpRenewals = 0 ∧
    ∀ i, lastAutoconf i x.effects = none

theorem Follows.updated (hs : Follows h ifcs s x) (hup : Updated h ifcs s u x y setUp) :
    Follows h ifcs u y := by
  obtain ⟨hlost, hrenewals, _, hroutes, hreaction⟩ := hup
  cases setUp with
  | false =>
    rw [Bool.not_false, Bool.and_true] at hlost
    rw [if_neg Bool.false_ne_true] at hreaction
    subst hreaction
    constructor
    · intro hne
      rw [hlost]
      exact hs.lost fun hnil => hne (hroutes rfl hnil)
    · rw [hlost]
      exact hs.selected
    · exact hs.off
    · rw [hrenewals]
      exact hs.xb3
  | true =>
    rw [Bool.not_true, Bool.and_false] at hlost
    rw [if_pos rfl] at hreaction
    subst hreaction
    cases hxb3 : h.xb3Selected with
    | true =>
      have hsame : selectGateway h ifcs x = x := by
        rw [selectGateway, hxb3]
        simp
      rw [hsame]
      refine ⟨fun _ => hlost, fun h => Bool.noConfusion (hxb3.symm.trans h), hs.off, ?_⟩
      rw [hrenewals]
      exact hs.xb3
    | false =>
      have hon : (selectGateway h ifcs x).gwSelected = true ∧ ∀ i ∈ ifcs,
          lastAutoconf i (selectGateway h ifcs x).effects = some false := by
        rw [selectGateway, hxb3, Bool.not_false, Bool.and_true]
        cases hselected : x.gwSelected with
        | true => exact ⟨hselected, fun i hi => (hs.off i hi).2 hselected⟩
        | false =>
          refine ⟨rfl, fun i hi => ?_⟩
          rw [Bool.not_false, if_pos rfl, lastAutoconf_append,
            lastAutoconf_flatMap (slaacOff_autoconf i) hi]
          rfl
      refine ⟨fun _ => hlost, fun _ => ?_, fun i hi => ?_, fun h => ?_⟩
      · rw [hon.1, hlost]
        rfl
      · exact iff_of_true (hon.2 i hi) hon.1
      · rw [hxb3] at h
        cases h

theorem Follows.lose (hs : Follows h ifcs s x) (a : Announcement)
    (hlength : s.gwRouteInfo.length = s.routes.length) :
    Follows h ifcs (renewDhcp h a s) (loseGateway ifcs a s x) := by
  have hclear (i : CStr) :
      lastAutoconf i (x.effects ++ [.clearDnsFile]) = lastAutoconf i x.effects := by
    rw [lastAutoconf_append]
    rfl
  cases hgone : decide (s.gwRouteInfo.length = 0) && !a.usingDhcp with
  | false =>
    rw [renewDhcp, loseGateway, hgone]
    exact hs
  | true =>
    have hempty : s.routes = [] := by
      rw [Bool.and_eq_true, decide_eq_true_eq, hlength] at hgone
      exact List.length_eq_zero_iff.1 hgone.1
    cases hxb3 : h.xb3Selected with
    | true =>
      obtain ⟨hselected, hrenewals, hnone⟩ := hs.xb3 hxb3
      have hrenew : renewDhcp h a s = s := by
        rw [renewDhcp, hxb3, Bool.not_true, Bool.and_false]
        rfl
      have hlose : loseGateway ifcs a s x =
          { x with effects := x.effects ++ [.clearDnsFile] } := by
        rw [loseGateway, hgone]
        simp only [if_true, hselected, Bool.false_eq_true, if_false]
      rw [hrenew, hlose]
      refine ⟨hs.lost, hs.selected, fun i hi => ?_, fun _ => ⟨hselected, hrenewals, fun i => ?_⟩⟩
      · rw [hclear]
        exact hs.off i hi
      · exact (hclear i).trans (hnone i)
    | false =>
      have hselected := hs.selected hxb3
      have hnot : ∀ P : Prop, h.xb3Selected = true → P := fun P h => by
        rw [hxb3] at h
        cases h
      cases hlost : s.upnpGwyLost with
      | true =>
        rw [hlost, Bool.not_true] at hselected
        have hrenew : renewDhcp h a s = s := by
          rw [renewDhcp, hgone, hlost]
          rfl
        have hlose : loseGateway ifcs a s x =
            { x with effects := x.effects ++ [.clearDnsFile] } := by
          rw [loseGateway, hgone]
          simp only [if_true, hselected, Bool.false_eq_true, if_false]
        rw [hrenew, hlose]
        refine ⟨hs.lost, hs.selected, fun i hi => ?_, hnot _⟩
        rw [hclear]
        exact hs.off i hi
      | false =>
        rw [hlost, Bool.not_false] at hselected
        have hrenew : renewDhcp h a s =
            { s with dhcpRenewals := s.dhcpRenewals + 1, upnpGwyLost := true } := by
          rw [renewDhcp, hgone, hlost, hxb3]
          rfl
        have hlose : loseGateway ifcs a s x = { gwSelected := false, effects :=
            x.effects ++ [.clearDnsFile] ++ ifcs.flatMap ReactionEffect.slaacOn } := by
          rw [loseGateway, hgone]
          simp only [if_true, hselected]
        rw [hrenew, hlose]
        refine ⟨fun hne => absurd hempty hne, fun _ => rfl, fun i hi => ?_, hnot _⟩
        rw [lastAutoconf_append, lastAutoconf_flatMap (slaacOn_autoconf i) hi]
        exact iff_of_false (fun h => Bool.noConfusion (Option.some.inj h)) Bool.false_ne_true

/-- In every run the DHCP lease is renewed and SLAAC support is switched on and off as gateways
come and go: never while a route is tracked, and with a preferred XB3 not at all. -/
theorem reaction_follows_gateways (h : Host) (ifcs : List CStr) (as : List Announcement)
    (t : RouteState) (y : Reaction)
    (hrun : run (reactionStep h ifcs) (.init, .init) as = some (t, y)) :
    (t.routes ≠ [] → t.upnpGwyLost = false) ∧
      (h.xb3Selected = false → ∀ i ∈ ifcs,
        lastAutoconf i y.effects = some false ↔ t.upnpGwyLost = false) ∧
      (h.xb3Selected = true → t.dhcpRenewals = 0 ∧ ∀ i, lastAutoconf i y.effects = none) := by
  have hinit : Follows h ifcs .init .init := by
    constructor
    · exact fun hne => absurd rfl hne
    · exact fun _ => rfl
    · exact fun _ _ => iff_of_false (fun h => by cases h) Bool.false_ne_true
    · exact fun _ => ⟨rfl, rfl, fun _ => rfl⟩
  have hfollows : Follows h ifcs t y := by
    apply run_invariant (P := fun st => Follows h ifcs st.1 st.2) _ hrun hinit
    rintro ⟨s, x⟩ a _ ⟨t, y⟩ hs hstep
    obtain ⟨u, x', setUp, hup, rfl, rfl⟩ := reactionStep_cases hstep
    have hfirst := hs.updated hup
    have hlost : u.toFirst.routes ≠ [] → u.toFirst.upnpGwyLost = false := by
      rw [RouteState.routes_toFirst]
      exact hfirst.lost
    have hu : Follows h ifcs u.toFirst x' := ⟨hlost, hfirst.selected, hfirst.off, hfirst.xb3⟩
    apply hu.lose a
    rw [RouteState.toFirst_gwRouteInfo, GList.length_ofList, RouteState.routes_toFirst]
  refine ⟨hfollows.lost, fun hxb3 i hi => ?_, fun hxb3 => (hfollows.xb3 hxb3).2⟩
  rw [hfollows.off i hi, hfollows.selected hxb3, Bool.not_eq_true']

theorem reaction_follows_gateways_comesAndGoes :
    ∃ t y, run (reactionStep .sample (ifcList (some "wlan0".toList) (some "eth1".toList)))
        (.init, .init) gatewayComesAndGoes = some (t, y) ∧
      t.upnpGwyLost = true ∧
      ∀ i ∈ ["wlan0".toList, "eth1".toList],
        lastAutoconf i y.effects = some false ↔ t.upnpGwyLost = false :=
  ⟨_, _, rfl, rfl, (reaction_follows_gateways .sample ["wlan0".toList, "eth1".toList]
    gatewayComesAndGoes _ _ rfl).2.1 rfl⟩

end NetSrvMgr.Route
