import NetSrvMgr.RouteRound
import NetSrvMgr.Transition

namespace NetSrvMgr.Route
open CString Transition
set_option autoImplicit true

/-- The family that is queried is that of the most recently added route that is still tracked:
routes are added in front, and removals keep the order. -/
def RouteState.FamilyTracked (s : RouteState) : Prop :=
  ∀ r ∈ s.routes.head?, s.lastRouteSetV4 = r.isIPv4

/-- The addresses fit the buffer and, where some routes are kept but not all, the newest of those
kept has the family of the newest of all. -/
def GatewaysKeepFamily (s : RouteState) (gws : List GwyDeviceData) : Prop :=
  AddressesFit s ∧ (¬AllOrNone gws s.routes →
    (survivors gws s.routes).head?.map RouteInfo.isIPv4 = s.routes.head?.map RouteInfo.isIPv4)

def KeepsFamily (h : Host) (s : RouteState) (a : Announcement) : Prop :=
  WithGateways h s a (GatewaysKeepFamily s)

theorem familyTracked_of_no_routes (h : RouteState.routes s = []) : s.FamilyTracked := by
  intro r hr
  rw [h] at hr
  cases hr

theorem familyTracked_congr (hr : s.routes = t.routes) (hl : s.lastRouteSetV4 = t.lastRouteSetV4) :
    RouteState.FamilyTracked s ↔ RouteState.FamilyTracked t := by
  rw [RouteState.FamilyTracked, RouteState.FamilyTracked, hr, hl]

theorem RouteState.FamilyTracked.checkAddRouteInfo {s : RouteState} (hs : s.FamilyTracked)
    (ip : Stripped) (isIPv4 : Bool) (pfx : Stripped) :
    (checkAddRouteInfo ip isIPv4 pfx s).FamilyTracked := by
  have hadded : (addRouteToList ip isIPv4 pfx
      { s.toFirst with lastRouteSetV4 := isIPv4 }).FamilyTracked := by
    have hroutes : (addRouteToList ip isIPv4 pfx
        { s.toFirst with lastRouteSetV4 := isIPv4 }).routes = ⟨isIPv4, ip, pfx⟩ :: s.routes :=
      (congrArg GList.toList (GList.prepend_ofList s.routes _)).trans (GList.toList_ofList _)
    intro r hr
    rw [hroutes, List.head?_cons] at hr
    cases hr
    rfl
  rw [Route.checkAddRouteInfo]
  split
  · exact hadded
  · split
    · exact hadded
    · exact (familyTracked_congr (RouteState.routes_toFirst s) rfl).2 hs

theorem RouteState.FamilyTracked.addGatewayRoute {s : RouteState} (hs : s.FamilyTracked)
    (gw : GwyDeviceData) : (addGatewayRoute gw s).FamilyTracked := by
  rw [Route.addGatewayRoute]
  split
  · exact hs.checkAddRouteInfo _ _ _
  · exact hs.checkAddRouteInfo _ _ _

/-- Setting routes keeps the family of the newest one, as every route that is added sets it. -/
theorem RouteState.FamilyTracked.setRouteLoop {s : RouteState} (hs : s.FamilyTracked)
    (hv : v.Selects) (a : Announcement) (i : Nat) (gws : List GwyDeviceData) :
    (setRouteLoop a i v gws s).2.2.FamilyTracked := by
  induction gws generalizing i v s with
  | nil => exact hs
  | cons gw gws ih =>
    obtain ⟨w, hw, heq⟩ := setRouteLoop_cons hv a i gw gws s
    have hrun : (runGwSetup gw s).FamilyTracked := hs
    rw [heq]
    split
    · exact ih (hrun.addGatewayRoute gw) hw (i + 1)
    · exact ih hrun hw (i + 1)

theorem RouteState.FamilyTracked.setRoute {s : RouteState} (hs : s.FamilyTracked) (h : Host)
    (a : Announcement) : (setRoute h a s).1.FamilyTracked := by
  have hif : (getRouteInterface h a s).FamilyTracked := by
    rw [getRouteInterface]
    split
    · exact hs
    · split
      · exact hs
      · exact hs
  exact hif.setRouteLoop (v := .init) (Or.inr ⟨rfl, rfl⟩) a 0 _

theorem foldl_dropInvalid_of_all_valid (gws : List GwyDeviceData) (kept rs : List RouteInfo)
    (h : (rs.filter (routeValid gws)).length = rs.length) :
    rs.foldl (dropInvalid gws) kept = kept := by
  rw [List.length_filter_eq_length_iff] at h
  induction rs with
  | nil => rfl
  | cons r rs ih =>
    rw [List.foldl_cons, dropInvalid, if_pos (h r List.mem_cons_self)]
    exact ih fun x hx => h x (List.mem_cons_of_mem r hx)

theorem familyTracked_iff (hne : RouteState.routes s ≠ []) :
    s.FamilyTracked ↔ s.routes.head?.map RouteInfo.isIPv4 = some s.lastRouteSetV4 := by
  rw [RouteState.FamilyTracked]
  cases hr : s.routes with
  | nil => exact absurd hr hne
  | cons r rs =>
    rw [List.head?_cons, Option.map_some, Option.some_inj]
    apply Iff.intro
    · intro h
      exact (h r rfl).symm
    · intro h x hx
      cases hx
      exact h.symm

theorem survivors_familyTracked {s t : RouteState} (hs : s.FamilyTracked)
    (hall : AllOrNone gws s.routes) (hroutes : t.routes = survivors gws s.routes)
    (hlast : t.lastRouteSetV4 = s.lastRouteSetV4) : t.FamilyTracked := by
  rcases hall with hnone | hall
  · rw [← length_survivors, ← hroutes] at hnone
    exact familyTracked_of_no_routes (List.length_eq_zero_iff.1 hnone)
  · rw [survivors, foldl_dropInvalid_of_all_valid gws _ _ hall] at hroutes
    exact (familyTracked_congr hroutes hlast).2 hs

theorem survivors_familyTracked_iff {s t : RouteState} (hs : s.FamilyTracked)
    (hall : ¬AllOrNone gws s.routes) (hroutes : t.routes = survivors gws s.routes)
    (hlast : t.lastRouteSetV4 = s.lastRouteSetV4) :
    t.FamilyTracked ↔ (survivors gws s.routes).head?.map RouteInfo.isIPv4 =
      s.routes.head?.map RouteInfo.isIPv4 := by
  have hkept : t.routes ≠ [] := by
    intro hnil
    rw [hroutes, ← List.length_eq_zero_iff, length_survivors] at hnil
    exact hall (Or.inl hnil)
  have hne : s.routes ≠ [] := by
    intro hnil
    rw [hnil] at hall
    exact hall (Or.inl rfl)
  rw [familyTracked_iff hkept, hroutes, hlast, (familyTracked_iff hne).1 hs]

theorem updateRoutes_family_iff (h : Host) (a : Announcement) {s : RouteState}
    (hs : s.FamilyTracked) :
    GatewaysKeepFamily s s.gwList ↔
      ∃ t, updateRoutes h a s true = some t ∧ t.FamilyTracked := by
  have hiff : AddressesFit s → ((∃ t, updateRoutes h a s true = some t ∧ t.FamilyTracked) ↔
      (¬AllOrNone s.gwList s.routes → (survivors s.gwList s.routes).head?.map RouteInfo.isIPv4 =
        s.routes.head?.map RouteInfo.isIPv4)) := by
    intro hfit
    obtain ⟨t, hroutes, _, hlast, hup⟩ := updateRoutes_gateways h a hfit
    rw [hup]
    by_cases hall : AllOrNone s.gwList s.routes
    · have ht := (survivors_familyTracked hs hall hroutes hlast).setRoute h a
      apply iff_of_true _ (fun hn => absurd hall hn)
      refine ⟨_, rfl, ?_⟩
      rw [if_pos hall]
      split
      · exact ht
      · exact ht
    · rw [if_neg hall, imp_iff_right hall, ← survivors_familyTracked_iff hs hall hroutes hlast]
      simp only [Option.some_inj, exists_eq_left']
  apply Iff.intro
  · intro hk
    exact (hiff hk.1).2 hk.2
  · intro hex
    obtain ⟨t, ht, _⟩ := id hex
    have hfit := updateRoutes_fits ht
    exact ⟨hfit, (hiff hfit).1 hex⟩

theorem keepsFamily_iff (h : Host) (s : RouteState) (a : Announcement) (hs : s.FamilyTracked) :
    KeepsFamily h s a ↔ ∃ t, gatewayRouteDataStep h s a = some t ∧ t.FamilyTracked := by
  have hrenew : ∀ t : RouteState, (renewDhcp h a t.toFirst).FamilyTracked ↔ t.FamilyTracked := by
    intro t
    have hlast : (renewDhcp h a t.toFirst).lastRouteSetV4 = t.lastRouteSetV4 := by
      rw [renewDhcp]
      split
      · rfl
      · rfl
    exact familyTracked_congr (renewDhcp_routes h a t) hlast
  exact withGateways_iff h s a (fun _ => familyTracked_of_no_routes) hrenew
    fun gws => updateRoutes_family_iff h a (s := { s with gwList := gws }) hs

/-- After every announcement of a run the family that is queried is that of the newest tracked
route, exactly when each announcement keeps the family in the state it meets. -/
theorem family_tracked_iff (h : Host) (as : List Announcement) :
    StepsMeet (gatewayRouteDataStep h) (KeepsFamily h) .init as ↔
      ∀ pre, pre <+: as →
        ∃ t, run (gatewayRouteDataStep h) .init pre = some t ∧ t.FamilyTracked :=
  stepsMeet_iff (fun s a hs => keepsFamily_iff h s a hs) (familyTracked_of_no_routes rfl)

/-- An IPv4 and then an IPv6 gateway are set up; the second announcement has the first alone. -/
def newestVanishes : List Announcement :=
  [.ofGateways [.gateway "169.254.1.1" "" "" "XG1",
      .gateway "" "fe80::1" "2001:db8:1::/64" "XG2"] (fun _ => 23),
    .ofGateways [.gateway "169.254.1.1" "" "" "XG1"] (fun _ => 23)]

theorem newestVanishes_not_tracked :
    ¬∀ pre, pre <+: newestVanishes →
      ∃ t, run (gatewayRouteDataStep .sample) .init pre = some t ∧ t.FamilyTracked := by
  intro h
  obtain ⟨t, ht, hf⟩ := h newestVanishes (List.prefix_refl _)
  have hhead : (run (gatewayRouteDataStep .sample) .init newestVanishes).map
      (fun t => (t.routes.head?.map RouteInfo.isIPv4, t.lastRouteSetV4)) =
        some (some true, false) := by decide
  rw [ht, Option.map_some, Option.some_inj, Prod.mk.injEq] at hhead
  obtain ⟨hhead, hlast⟩ := hhead
  have hne : t.routes ≠ [] := by
    intro hnil
    rw [hnil] at hhead
    cases hhead
  rw [familyTracked_iff hne, hhead, hlast] at hf
  cases hf

end NetSrvMgr.Route
