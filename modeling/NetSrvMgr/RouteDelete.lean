import NetSrvMgr.RouteManager

namespace NetSrvMgr.Route
open CString
set_option autoImplicit true

def RouteState.routes (s : RouteState) : List RouteInfo := s.gwRouteInfo.toList

def RouteInfo.delCommand (r : RouteInfo) : SystemCall := .routeDel r.isIPv4 r.ipStr

@[simp] theorem RouteState.routes_toFirst (s : RouteState) : s.toFirst.routes = s.routes :=
  GList.toList_first s.gwRouteInfo

theorem RouteState.toFirst_gwRouteInfo (s : RouteState) :
    s.toFirst.gwRouteInfo = .ofList s.routes := rfl

theorem gListFindIp_iff : gListFindIp ip r = true ↔ RouteInfo.ipStr r = ip := decide_eq_true_iff

def RouteState.deleteRoute (ip : Stripped) (isIPv4 : Bool) (s : RouteState) : RouteState :=
  { s with
    gwRouteInfo := .ofList (s.routes.eraseP (gListFindIp ip))
    commands := s.commands ++ [.routeDel isIPv4 ip]
    routeQueries := s.routeQueries ++ [⟨s.lastRouteSetV4, s.routeIf⟩] }

@[simp] theorem RouteState.deleteRoute_routes (ip : Stripped) (isIPv4 : Bool) (s : RouteState) :
    (s.deleteRoute ip isIPv4).routes = s.routes.eraseP (gListFindIp ip) :=
  GList.toList_ofList _

@[simp] theorem RouteState.deleteRoute_commands (ip : Stripped) (isIPv4 : Bool)
    (s : RouteState) :
    (s.deleteRoute ip isIPv4).commands = s.commands ++ [.routeDel isIPv4 ip] := rfl

/-- The first entry with the address is deleted; without one, the list pointer is lost. -/
theorem checkRemoveRouteInfo_eq (ip : Stripped) (isIPv4 : Bool) (s : RouteState) :
    checkRemoveRouteInfo ip isIPv4 s =
      if (s.routes.find? (gListFindIp ip)).isSome then s.deleteRoute ip isIPv4
      else { s with gwRouteInfo := .null } := by
  have hfind : s.toFirst.gwRouteInfo.findCustom (gListFindIp ip) =
      GList.findFrom (gListFindIp ip) [] s.routes := by
    rw [RouteState.toFirst_gwRouteInfo, GList.findCustom_ofList]
  rw [checkRemoveRouteInfo]
  dsimp only
  cases hf : s.routes.find? (gListFindIp ip) with
  | none =>
    rw [Option.isSome_none, if_neg Bool.false_ne_true, hfind, GList.findFrom_of_find_none hf]
    split
    · rfl
    · next hlen =>
      rw [RouteState.toFirst_gwRouteInfo, GList.length_ofList] at hlen
      have hnil := List.length_eq_zero_iff.1 (Nat.eq_zero_of_not_pos hlen)
      rw [RouteState.toFirst, GList.first]
      exact congrArg (fun l => { s with gwRouteInfo := GList.ofList l }) hnil
  | some x =>
    have hpos : s.toFirst.gwRouteInfo.length > 0 := by
      rw [RouteState.toFirst_gwRouteInfo, GList.length_ofList]
      exact List.length_pos_of_mem (List.mem_of_find?_eq_some hf)
    obtain ⟨ys, zs, _, hfrom, _, _⟩ := GList.findFrom_of_find_some [] hf
    have hrem := GList.removeData_findCustom hf
    rw [GList.findCustom_ofList, hfrom] at hrem
    rw [Option.isSome_some, if_pos rfl, if_pos hpos, hfind, hfrom]
    dsimp only [removeRouteFromList, sendCurrentRouteData]
    rw [hrem]
    rfl

theorem checkRemoveRouteInfo_of_mem (hr : r ∈ s.routes) (isIPv4 : Bool) :
    checkRemoveRouteInfo r.ipStr isIPv4 s = s.deleteRoute r.ipStr isIPv4 := by
  have hsome : (s.routes.find? (gListFindIp r.ipStr)).isSome = true := by
    rw [List.find?_isSome]
    exact ⟨r, hr, gListFindIp_iff.2 rfl⟩
  rw [checkRemoveRouteInfo_eq, if_pos hsome]

/-- The first entry with the address, trimmed, is gone and nothing else; the pointer stands at the
head of what is left. -/
def RemovesRoute (ipAddr : CStr) (isIPv4 : Bool) (s : RouteState) : Prop :=
  (checkRemoveRouteInfo (.of ipAddr) isIPv4 s).gwRouteInfo =
    .ofList (s.routes.eraseP fun r => gStrstrip r.ipStr.str = gStrstrip ipAddr)

theorem gListFindIp_of (ipAddr : CStr) :
    gListFindIp (.of ipAddr) = fun r => decide (gStrstrip r.ipStr.str = gStrstrip ipAddr) := by
  funext r
  rw [gListFindIp, r.ipStr.stripped, decide_eq_decide]
  exact Stripped.ext_iff

/-- The search result replaces the list: without an entry that has the address, only an empty
list is kept. -/
theorem checkRemoveRouteInfo_removes_iff (ipAddr : CStr) (isIPv4 : Bool) (s : RouteState) :
    RemovesRoute ipAddr isIPv4 s ↔
      (∃ r ∈ s.routes, gStrstrip r.ipStr.str = gStrstrip ipAddr) ∨ s.routes = [] := by
  have hfound : (s.routes.find? (gListFindIp (.of ipAddr))).isSome = true ↔
      ∃ r ∈ s.routes, gStrstrip r.ipStr.str = gStrstrip ipAddr := by
    rw [gListFindIp_of, List.find?_isSome]
    simp only [decide_eq_true_eq]
  rw [RemovesRoute, ← hfound, ← gListFindIp_of, checkRemoveRouteInfo_eq]
  split
  · next hsome => exact iff_of_true rfl (Or.inl hsome)
  · next hnone =>
    have hnot : ∀ r ∈ s.routes, ¬gListFindIp (.of ipAddr) r = true := by
      intro r hr hip
      exact hnone (List.find?_isSome.2 ⟨r, hr, hip⟩)
    rw [List.eraseP_of_forall_not hnot, or_iff_right hnone]
    exact eq_comm.trans GList.ofList_eq_null_iff

theorem length_eraseP_gListFindIp {rs : List RouteInfo} (hr : r ∈ rs) :
    (rs.eraseP (gListFindIp r.ipStr)).length + 1 = rs.length := by
  have hpos := List.length_pos_of_mem hr
  rw [List.length_eraseP_of_mem hr (gListFindIp_iff.2 rfl)]
  omega

theorem delRouteListLoop_null (h : s.gwRouteInfo = .null) : delRouteListLoop n s = s := by
  cases n with
  | zero => rfl
  | succ n => rw [delRouteListLoop, h]

theorem delRouteListLoop_node (h : s.gwRouteInfo = .node prev r next) :
    delRouteListLoop (n + 1) s =
      delRouteListLoop n (s.deleteRoute r.ipStr r.isIPv4).toNext := by
  have hr : r ∈ s.routes := by
    rw [RouteState.routes, h]
    exact List.mem_append_right _ List.mem_cons_self
  rw [delRouteListLoop, h]
  dsimp only
  rw [checkRemoveRouteInfo_of_mem hr]

theorem delRouteListLoop_length (hs : s.gwRouteInfo = (GList.ofList (x :: xs)).next)
    (hn : xs.length ≤ n) :
    (delRouteListLoop n s).commands.length = s.commands.length + xs.length := by
  induction n generalizing s x xs with
  | zero =>
    rw [List.length_eq_zero_iff.1 (Nat.le_zero.1 hn)]
    rfl
  | succ n ih =>
    cases xs with
    | nil =>
      rw [delRouteListLoop_null hs]
      rfl
    | cons y ys =>
      have hnode : s.gwRouteInfo = .node [x] y ys := hs
      have hroutes : s.routes = x :: y :: ys := by
        rw [RouteState.routes, hnode]
        rfl
      have hy : y ∈ x :: y :: ys := List.mem_cons_of_mem x List.mem_cons_self
      have hlen := length_eraseP_gListFindIp hy
      rw [delRouteListLoop_node hnode]
      cases he : (x :: y :: ys).eraseP (gListFindIp y.ipStr) with
      | nil =>
        rw [he] at hlen
        cases hlen
      | cons z zs =>
        rw [he] at hlen
        simp only [List.length_cons] at hlen hn
        have hptr : (s.deleteRoute y.ipStr y.isIPv4).toNext.gwRouteInfo =
            (GList.ofList (z :: zs)).next := by
          rw [← he, ← hroutes]
          rfl
        have hcmd : (s.deleteRoute y.ipStr y.isIPv4).toNext.commands =
          s.commands ++ [.routeDel y.isIPv4 y.ipStr] := rfl
        rw [ih hptr (by omega), hcmd, List.length_append, List.length_cons, List.length_cons,
          List.length_nil]
        omega

theorem delRouteList_nil (hs : s.routes = []) : delRouteList s = s.toFirst := by
  have hlen : ¬s.toFirst.gwRouteInfo.length > 0 := by
    rw [RouteState.toFirst_gwRouteInfo, hs]
    exact Nat.lt_irrefl 0
  rw [delRouteList]
  exact if_neg hlen

/-- The head is deleted first; the loop goes on at the third entry. -/
theorem delRouteList_cons (hs : s.routes = r :: rs) :
    delRouteList s =
      { delRouteListLoop rs.length (s.toFirst.deleteRoute r.ipStr r.isIPv4).toNext with
        gwRouteInfo := .null } := by
  have hfirst : s.toFirst.gwRouteInfo = .node [] r rs := by
    rw [RouteState.toFirst_gwRouteInfo, hs]
    rfl
  have hlen : s.toFirst.gwRouteInfo.length = rs.length + 1 := by
    rw [hfirst]
    rfl
  rw [delRouteList]
  dsimp only
  rw [hlen, if_pos (Nat.succ_pos _), delRouteListLoop_node hfirst]

theorem RouteState.deleteRoute_head {s : RouteState} (hs : s.routes = r :: rs) :
    (s.toFirst.deleteRoute r.ipStr isIPv4).gwRouteInfo = .ofList rs := by
  have herase : (r :: rs).eraseP (gListFindIp r.ipStr) = rs :=
    List.eraseP_cons_of_pos (gListFindIp_iff.2 rfl)
  rw [RouteState.deleteRoute, RouteState.routes_toFirst, hs, herase]

theorem delRouteList_length (hs : s.routes = r :: rs) :
    (delRouteList s).commands.length = s.commands.length + 1 + (rs.length - 1) := by
  have hcmd : (s.toFirst.deleteRoute r.ipStr r.isIPv4).toNext.commands.length =
      s.commands.length + 1 := List.length_append
  have hhead : (s.toFirst.deleteRoute r.ipStr r.isIPv4).toNext.gwRouteInfo =
      (GList.ofList rs).next := congrArg GList.next (RouteState.deleteRoute_head hs)
  rw [delRouteList_cons hs]
  dsimp only
  cases rs with
  | nil => exact hcmd
  | cons x xs =>
    rw [List.length_cons, delRouteListLoop_length hhead (Nat.le_succ _), hcmd,
      Nat.add_sub_cancel]

theorem delRouteList_singleton (hs : s.routes = [r]) :
    (delRouteList s).commands = s.commands ++ [r.delCommand] := by
  rw [delRouteList_cons hs]
  rfl

theorem delRouteList_routes (s : RouteState) : (delRouteList s).routes = [] := by
  cases hs : s.routes with
  | nil =>
    rw [delRouteList_nil hs, RouteState.routes_toFirst]
    exact hs
  | cons r rs =>
    rw [delRouteList_cons hs]
    rfl

/-- Deleting the tracked routes issues one delete command for each of them exactly when there
is at most one: with more, the second entry is stepped over and dropped. -/
theorem delRouteList_perm_iff (s : RouteState) :
    (∃ cmds, (delRouteList s).commands = s.commands ++ cmds ∧
      cmds.Perm (s.routes.map RouteInfo.delCommand) ∧ (delRouteList s).routes = []) ↔
    s.routes.length ≤ 1 := by
  apply Iff.intro
  · intro h
    obtain ⟨cmds, hcmds, hperm, _⟩ := h
    cases hs : s.routes with
    | nil => exact Nat.zero_le 1
    | cons r rs =>
      have hlen := delRouteList_length hs
      have hp := hperm.length_eq
      rw [List.length_map, hs, List.length_cons] at hp
      rw [hcmds, List.length_append, hp] at hlen
      rw [List.length_cons]
      omega
  · intro h
    cases hs : s.routes with
    | nil =>
      refine ⟨[], ?_, List.Perm.nil, delRouteList_routes s⟩
      rw [delRouteList_nil hs, List.append_nil]
      rfl
    | cons r rs =>
      rw [hs, List.length_cons] at h
      have hrs : rs = [] := List.length_eq_zero_iff.1 (by omega)
      subst hrs
      exact ⟨[r.delCommand], delRouteList_singleton hs, List.Perm.refl _, delRouteList_routes s⟩

/-- Two tracked IPv4 routes: the second is dropped without its delete command. -/
def twoRoutes : RouteState :=
  { RouteState.init with
    gwRouteInfo := .ofList [⟨true, .of "169.254.1.1".toList, .of []⟩,
      ⟨true, .of "169.254.1.2".toList, .of []⟩] }

theorem delRouteList_drops_twoRoutes :
    (twoRoutes.routes.map RouteInfo.ipStr).Nodup ∧
    ¬∃ cmds, (delRouteList twoRoutes).commands = twoRoutes.commands ++ cmds ∧
      cmds.Perm (twoRoutes.routes.map RouteInfo.delCommand) ∧
      (delRouteList twoRoutes).routes = [] := by
  refine ⟨by decide, fun h => ?_⟩
  obtain ⟨cmds, hcmds, hperm, _⟩ := h
  have hlen : (delRouteList twoRoutes).commands.length = 1 := by decide
  rw [hcmds, List.length_append, hperm.length_eq] at hlen
  exact absurd hlen (by decide)

/-- An address that is not tracked loses the whole list. -/
theorem checkRemoveRouteInfo_loses_twoRoutes :
    ¬∀ ipAddr isIPv4 s, RemovesRoute ipAddr isIPv4 s := by
  intro h
  have hremoves := h "169.254.1.3".toList true twoRoutes
  have hlost : (checkRemoveRouteInfo (.of "169.254.1.3".toList) true twoRoutes).gwRouteInfo =
      .null := by decide
  have hkept : twoRoutes.routes.eraseP
      (fun r => gStrstrip r.ipStr.str = gStrstrip "169.254.1.3".toList) = twoRoutes.routes := by
    decide
  rw [RemovesRoute, hlost, hkept] at hremoves
  exact absurd hremoves (by decide)

end NetSrvMgr.Route
