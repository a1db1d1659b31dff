import NetSrvMgr.RouteRound
import NetSrvMgr.Transition

namespace NetSrvMgr.Route
open CString Transition
set_option autoImplicit true

def GwyDeviceData.isXG2 (gw : GwyDeviceData) : Bool := gw.devicetype = "XG2".toList

/-- The first gateway of type XG2 or the first of any other type. -/
def FirstOfKind (gws : List GwyDeviceData) (gw : GwyDeviceData) : Prop :=
  gws.find? (fun gw => gw.isXG2) = some gw ∨ gws.find? (fun gw => !gw.isXG2) = some gw

/-- The first gateway of either kind has an entry with the address its route is set by. -/
def HaveEntries (rs : List RouteInfo) (gws : List GwyDeviceData) : Prop :=
  ∀ gw, FirstOfKind gws gw → ∃ r ∈ rs, r.ipStr = gw.route.ipStr

/-- Where the setup script succeeds for every gateway of the announcement, its first gateways
have entries after the round. -/
def SetsUp (h : Host) (s : RouteState) (a : Announcement) : Prop :=
  a.gateways h ≠ [] → (∀ i, a.gwSetupStatus i = systemCommandShellSuccess) →
    ∃ t, gatewayRouteDataStep h s a = some t ∧ HaveEntries t.routes (a.gateways h)

/-- The addresses fit the buffer and the walk keeps all routes, none, or such as the first
gateways need. -/
def ReachesSetup (h : Host) (s : RouteState) (a : Announcement) : Prop :=
  a.gateways h ≠ [] → (∀ i, a.gwSetupStatus i = systemCommandShellSuccess) →
    AddressesFit s ∧ (AllOrNone (a.gateways h) s.routes ∨
      HaveEntries (survivors (a.gateways h) s.routes) (a.gateways h))

theorem FirstOfKind.mem (h : FirstOfKind gws gw) : gw ∈ gws := by
  rcases h with h | h
  · exact List.mem_of_find?_eq_some h
  · exact List.mem_of_find?_eq_some h

theorem addedRoutes_of_success (i : Nat) (gws : List GwyDeviceData)
    (h : ∀ i, Announcement.gwSetupStatus a i = systemCommandShellSuccess) :
    addedRoutes a i gws = gws.map GwyDeviceData.route := by
  induction gws generalizing i with
  | nil => rfl
  | cons gw gws ih => rw [addedRoutes, if_pos (h i), ih, List.map_cons]

theorem addRoute_has (rs : List RouteInfo) (r : RouteInfo) :
    ∃ e ∈ addRoute rs r, e.ipStr = r.ipStr := by
  cases he : rs.find? (gListFindIp r.ipStr) with
  | none =>
    rw [addRoute_of_new he]
    exact ⟨r, List.mem_cons_self, rfl⟩
  | some e =>
    rw [addRoute_of_known he]
    split
    · exact ⟨r, List.mem_cons_self, rfl⟩
    · exact ⟨e, List.mem_of_find?_eq_some he, gListFindIp_iff.1 (List.find?_some he)⟩

theorem foldl_addRoute_has {rs added : List RouteInfo} (hr : r ∈ added) :
    ∃ e ∈ added.foldl addRoute rs, e.ipStr = r.ipStr := by
  induction added generalizing rs with
  | nil => cases hr
  | cons x added ih =>
    rw [List.foldl_cons]
    rcases List.mem_cons.1 hr with rfl | hr
    · obtain ⟨e, he, hip⟩ := addRoute_has rs r
      exact ⟨e, (suffix_foldl_addRoute _ added).subset he, hip⟩
    · exact ih hr

theorem setsUp_iff (h : Host) (s : RouteState) (a : Announcement) :
    ReachesSetup h s a ↔ SetsUp h s a := by
  rw [ReachesSetup, SetsUp]
  apply imp_congr_right
  intro hne
  apply imp_congr_right
  intro hok
  rw [gatewayRouteDataStep_gateways s hne]
  have hup : AddressesFit s → ((∃ t, (updateRoutes h a { s with gwList := a.gateways h }
      true).map (fun t => renewDhcp h a t.toFirst) = some t ∧
        HaveEntries t.routes (a.gateways h)) ↔
      AllOrNone (a.gateways h) s.routes ∨
        HaveEntries (survivors (a.gateways h) s.routes) (a.gateways h)) := by
    intro hfit
    obtain ⟨u, hu, _, hroutes⟩ := updateRoutes_routes h a
      (s := { s with gwList := a.gateways h }) hfit
    rw [hu, Option.map_some]
    simp only [Option.some_inj, exists_eq_left', renewDhcp_routes, hroutes]
    split
    · next hall =>
      apply iff_of_true _ (Or.inl hall)
      intro gw hgw
      apply foldl_addRoute_has
      rw [addedRoutes_of_success 0 _ hok]
      exact List.mem_map_of_mem hgw.mem
    · next hall => exact (or_iff_right hall).symm
  apply Iff.intro
  · intro hr
    exact (hup hr.1).2 hr.2
  · intro hex
    obtain ⟨t, ht, _⟩ := id hex
    obtain ⟨u, hu, _⟩ := Option.map_eq_some_iff.1 ht
    have hfit : AddressesFit { s with gwList := a.gateways h } := updateRoutes_fits hu
    exact ⟨hfit, (hup hfit).1 hex⟩

/-- In every state a run reaches, the next announcement has its first gateways set up exactly
when it meets the condition there. -/
theorem first_gateways_set_up_iff (h : Host) (as : List Announcement) :
    StepsMeet (gatewayRouteDataStep h) (ReachesSetup h) .init as ↔
      ∀ pre a s, pre ++ [a] <+: as → run (gatewayRouteDataStep h) .init pre = some s →
        SetsUp h s a := by
  simp only [stepsMeet_iff_reached, setsUp_iff]

def threeGateways : Host :=
  { Host.sample with
    inetPton4 := fun s => s ∈ ["169.254.1.1".toList, "169.254.1.2".toList, "169.254.1.3".toList] }

/-- The second announcement has the first gateway still and another in place of the second. -/
def secondReplaced (first : Bool) : Announcement :=
  if first then
    .ofGateways [.gateway "169.254.1.1" "" "" "XG1", .gateway "169.254.1.2" "" "" "XG2"]
      (fun _ => 23)
  else
    .ofGateways [.gateway "169.254.1.1" "" "" "XG1", .gateway "169.254.1.3" "" "" "XG2"]
      (fun _ => 23)

theorem secondReplaced_not_set_up :
    ¬∀ pre a s, pre ++ [a] <+: [secondReplaced true, secondReplaced false] →
      run (gatewayRouteDataStep threeGateways) .init pre = some s →
        SetsUp threeGateways s a := by
  intro h
  have hfirst : (run (gatewayRouteDataStep threeGateways) .init
      [secondReplaced true]).isSome = true := by decide
  obtain ⟨s, hs⟩ := Option.isSome_iff_exists.1 hfirst
  obtain ⟨t, ht, hentries⟩ := h [secondReplaced true] (secondReplaced false) s
    (List.prefix_refl _) hs (by decide) (fun _ => rfl)
  have hgw : (((secondReplaced false).gateways threeGateways).find? fun gw => gw.isXG2).map
      (fun gw => gw.route.ipStr) = some (.of "169.254.1.3".toList) := by decide
  obtain ⟨gw, hfind, hip⟩ := Option.map_eq_some_iff.1 hgw
  obtain ⟨r, hr, heq⟩ := hentries gw (Or.inl hfind)
  have hroutes : (run (gatewayRouteDataStep threeGateways) .init
      ([secondReplaced true] ++ [secondReplaced false])).map (fun t => t.routes.map
        RouteInfo.ipStr) = some [.of "169.254.1.1".toList] := by decide
  rw [run_concat_eq_some_iff.2 ⟨s, hs, ht⟩, Option.map_some, Option.some_inj] at hroutes
  have hmem := List.mem_map_of_mem (f := RouteInfo.ipStr) hr
  rw [hroutes, heq, hip] at hmem
  exact absurd hmem (by decide)

end NetSrvMgr.Route
