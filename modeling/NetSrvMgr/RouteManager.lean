import NetSrvMgr.RouteData

namespace NetSrvMgr.Route
open CString
set_option autoImplicit true

def RouteState.toFirst (s : RouteState) : RouteState :=
  { s with gwRouteInfo := s.gwRouteInfo.first }

def RouteState.toNext (s : RouteState) : RouteState :=
  { s with gwRouteInfo := s.gwRouteInfo.next }

def sendCurrentRouteData (s : RouteState) : RouteState :=
  { s with routeQueries := s.routeQueries ++ [⟨s.lastRouteSetV4, s.routeIf⟩] }

def addRouteToList (ipAddr : Stripped) (isIPv4 : Bool) (ipv6Pfix : Stripped) (s : RouteState) :
    RouteState :=
  { s with gwRouteInfo := s.gwRouteInfo.prepend ⟨isIPv4, ipAddr, ipv6Pfix⟩ }

def checkAddRouteInfo (ipAddr : Stripped) (isIPv4 : Bool) (ipv6Pfix : Stripped)
    (s : RouteState) : RouteState :=
  let s := s.toFirst
  match s.gwRouteInfo.findCustom (gListFindIp ipAddr) with
  | .null => addRouteToList ipAddr isIPv4 ipv6Pfix { s with lastRouteSetV4 := isIPv4 }
  | .node _ gwdata _ =>
    if !isIPv4 && gwdata.ipv6Pfix ≠ ipv6Pfix then
      addRouteToList ipAddr isIPv4 ipv6Pfix { s with lastRouteSetV4 := isIPv4 }
    else s

def removeRouteFromList (s : RouteState) : RouteState :=
  { s with gwRouteInfo := s.gwRouteInfo.removeData }

/-- Where no entry has the address, the search leaves the list pointer null. -/
def checkRemoveRouteInfo (ipAddr : Stripped) (isIPv4 : Bool) (s : RouteState) : RouteState :=
  let s := s.toFirst
  if s.gwRouteInfo.length > 0 then
    let s := { s with gwRouteInfo := s.gwRouteInfo.findCustom (gListFindIp ipAddr) }
    match s.gwRouteInfo with
    | .null => s
    | .node _ _ _ =>
      let s := { s with commands := s.commands ++ [.routeDel isIPv4 ipAddr] }
      removeRouteFromList (sendCurrentRouteData s)
  else s

def delRouteListLoop : Nat → RouteState → RouteState
  | 0, s => s
  | gwRouteLength + 1, s =>
    match s.gwRouteInfo with
    | .null => s
    | .node _ gwdata _ =>
      let s := checkRemoveRouteInfo gwdata.ipStr gwdata.isIPv4 s
      delRouteListLoop gwRouteLength s.toNext

def delRouteList (s : RouteState) : RouteState :=
  let s := s.toFirst
  let gwRouteLength := s.gwRouteInfo.length
  if gwRouteLength > 0 then { delRouteListLoop gwRouteLength s with gwRouteInfo := .null }
  else s

def delGatewayList (s : RouteState) : RouteState := { s with gwList := [] }

def ipSize : Nat := 46

/-- The first gateway with the address, its prefix stripped in place. -/
def stripPrefixOf (ip : Stripped) : List GwyDeviceData → List GwyDeviceData
  | [] => []
  | gw :: gws => if gListFindGw ip gw then gw.stripPrefix :: gws else gw :: stripPrefixOf ip gws

/-- The walk over the tracked routes. Removals happen at or before the node of the walk, so the
entries it meets are those of the list it started on. `none` where an address and its NUL do not
fit into `tempIP`. -/
def checkExistingRoutes : List RouteInfo → RouteState → Option RouteState
  | [], s => some s
  | routeInfoData :: element, s =>
    if routeInfoData.ipStr.str.length < ipSize then
      match s.gwList.find? (gListFindGw routeInfoData.ipStr) with
      | none =>
        checkExistingRoutes element
          (checkRemoveRouteInfo routeInfoData.ipStr routeInfoData.isIPv4 s)
      | some gwdata =>
        if routeInfoData.isIPv4 then checkExistingRoutes element s
        else
          let s := { s with gwList := stripPrefixOf routeInfoData.ipStr s.gwList }
          if routeInfoData.ipv6Pfix ≠ gwdata.prefixStr then
            checkExistingRoutes element
              (checkRemoveRouteInfo routeInfoData.ipStr routeInfoData.isIPv4 s)
          else checkExistingRoutes element s
    else none

/-- False where some routes, but not all, were removed. -/
def checkExistingRouteValid (s : RouteState) : Option (RouteState × Bool) :=
  let s := s.toFirst
  let tempGwRouteLength := s.gwRouteInfo.length
  (checkExistingRoutes s.gwRouteInfo.toList s).map fun s =>
    (s, !(s.gwRouteInfo.length ≠ 0 && s.gwRouteInfo.length ≠ tempGwRouteLength))

section
variable (h : Host)

def parseStoreGatewayData (array : Option CJSON) (s : RouteState) : Option (RouteState × Bool) :=
  let s := delGatewayList s
  match array with
  | none => some (s, false)
  | some rootJson =>
    match rootJson.getObjectItem "xmediagateways".toList with
    | some gwFullData =>
      let s := { s with gwList := acceptGateways h gwFullData }
      if s.gwList.length = 0 then some (delRouteList s, false) else some (s, true)
    | none => (checkExistingRouteValid s).map fun (s, _) => (s, false)

def storeRouteDetails (a : Announcement) (s : RouteState) : Option (RouteState × Bool) :=
  match a.fetched with
  | some upnpResults => parseStoreGatewayData h upnpResults s
  | none => some (s, false)

/-- The interface a route goes through; left as it was where neither has an address. -/
def getRouteInterface (a : Announcement) (s : RouteState) : RouteState :=
  if a.mocaHasIPv4 then { s with routeIf := h.mocaIf }
  else if a.wifiHasIPv4 then { s with routeIf := h.wifiIf }
  else s

/-- The locals of the loop in `setRoute`. `retType` is `none` until it is assigned. -/
structure SetRouteVars where
  retType : Option Int
  firstXG1GwData : Bool
  firstXG2GwData : Bool
  setRoute : Bool
  retVal : Bool

def SetRouteVars.init : SetRouteVars where
  retType := none
  firstXG1GwData := true
  firstXG2GwData := true
  setRoute := false
  retVal := false

/-- The flag is raised at the first gateway of either kind; nothing lowers it. -/
def SetRouteVars.select (v : SetRouteVars) (gw : GwyDeviceData) : SetRouteVars :=
  if gw.devicetype = "XG2".toList then
    if v.firstXG2GwData then { v with firstXG2GwData := false, setRoute := true } else v
  else
    if v.firstXG1GwData then { v with firstXG1GwData := false, setRoute := true } else v

def systemCommandShellSuccess : Int := 23

def GwyDeviceData.gwSetup (routeIf : CStr) (gw : GwyDeviceData) : SystemCall :=
  .gwSetup gw.gwyip gw.dnsconfig routeIf gw.ipv6prefix gw.gwyipv6 gw.devicetype

def runGwSetup (gw : GwyDeviceData) (s : RouteState) : RouteState :=
  { s with upnpGwyLost := false, commands := s.commands ++ [gw.gwSetup s.routeIf] }

/-- A gateway whose route the script has set; `checkIpMode` has stripped its prefix. -/
def GwyDeviceData.setRoute (gw : GwyDeviceData) : GwyDeviceData :=
  { gw.stripPrefix with isRouteSet := true }

def addGatewayRoute (gw : GwyDeviceData) (s : RouteState) : RouteState :=
  if checkIpMode gw.ipv6prefix then checkAddRouteInfo gw.gwyipv6 false gw.prefixStr s
  else checkAddRouteInfo gw.gwyip true gw.prefixStr s

/-- The loop of `setRoute` from gateway `i` on: these gateways as it leaves them, its locals and
the rest of the state. -/
def setRouteLoop (a : Announcement) : Nat → SetRouteVars → List GwyDeviceData → RouteState →
    List GwyDeviceData × SetRouteVars × RouteState
  | _, v, [], s => ([], v, s)
  | i, v, gwdata :: element, s =>
    let v := v.select gwdata
    let s := if v.setRoute then runGwSetup gwdata s else s
    let v := if v.setRoute then { v with retType := some (a.gwSetupStatus i) } else v
    if v.retType = some systemCommandShellSuccess then
      let r := setRouteLoop a (i + 1) { v with retVal := true } element (addGatewayRoute gwdata s)
      (gwdata.setRoute :: r.1, r.2)
    else
      let r := setRouteLoop a (i + 1) v element s
      (gwdata :: r.1, r.2)

def setRoute (a : Announcement) (s : RouteState) : RouteState × Bool :=
  let s := getRouteInterface h a s
  let r := setRouteLoop a 0 .init s.gwList s
  ({ r.2.2 with gwList := r.1 }, r.2.1.retVal)

def renewDhcp (a : Announcement) (s : RouteState) : RouteState :=
  if s.gwRouteInfo.length = 0 && !a.usingDhcp && !s.upnpGwyLost && !h.xb3Selected then
    { s with dhcpRenewals := s.dhcpRenewals + 1, upnpGwyLost := true }
  else s

def updateRoutes (a : Announcement) (s : RouteState) (stored : Bool) : Option RouteState :=
  if stored then
    (checkExistingRouteValid s).map fun (s, valid) =>
      if valid then
        let r := setRoute h a s
        if r.2 then sendCurrentRouteData r.1 else r.1
      else s
  else some (delRouteList s)

/-- One round of `getGatewayRouteDataThrd`; `none` where it writes past a buffer. -/
def gatewayRouteDataStep (s : RouteState) (a : Announcement) : Option RouteState :=
  (storeRouteDetails h a s).bind fun (s, stored) =>
    (updateRoutes h a s stored).map fun s =>
      renewDhcp h a s.toFirst

end

end NetSrvMgr.Route
