import NetSrvMgr.CString
import NetSrvMgr.GList
import NetSrvMgr.Shell

namespace NetSrvMgr.Route
open CString
set_option autoImplicit true

/-- A `cJSON` item: its key in the parent object, its text if it is a string, its children. -/
inductive CJSON where
  | item (string valuestring : Option CStr) (child : List CJSON)

namespace CJSON

def string : CJSON → Option CStr
  | item string _ _ => string

def valuestring : CJSON → Option CStr
  | item _ valuestring _ => valuestring

def child : CJSON → List CJSON
  | item _ _ child => child

/-- `cJSON_GetObjectItem`: the first child with the key, in any case. -/
def getObjectItem (j : CJSON) (key : CStr) : Option CJSON :=
  j.child.find? fun c => c.string.any (strcaseeq key)

def text (j : CJSON) (key : String) : Option CStr :=
  (j.getObjectItem key.toList).bind valuestring

def member (key text : String) : CJSON := item (some key.toList) (some text.toList) []

def gateway (gatewayip gatewayipv6 ipv6Prefix devType : String) : CJSON :=
  item none none [member "isgateway" "yes", member "dnsconfig" "", member "gatewayip" gatewayip,
    member "gatewayipv6" gatewayipv6, member "ipv6Prefix" ipv6Prefix, member "DevType" devType]

end CJSON

structure GwyDeviceData where
  serialNum : CStr
  gwyip : Stripped
  gwyipv6 : Stripped
  ipv6prefix : CStr
  devicetype : CStr
  dnsconfig : Stripped
  isRouteSet : Bool
  deriving DecidableEq

structure RouteInfo where
  isIPv4 : Bool
  ipStr : Stripped
  ipv6Pfix : Stripped
  deriving DecidableEq

def gwSetupFile : CStr := "/lib/rdk/gwSetup.sh".toList
def routePriority : CStr := "50".toList

/-- What is handed to `system` for a gateway and for a route to be removed. -/
inductive SystemCall where
  | gwSetup (gwyip dnsconfig : Stripped) (routeIf ipv6prefix : CStr) (gwyipv6 : Stripped)
      (devicetype : CStr)
  | routeDel (isIPv4 : Bool) (ipAddr : Stripped)
  deriving DecidableEq

namespace SystemCall

def quoted : SystemCall → List CStr
  | gwSetup gwyip dnsconfig routeIf ipv6prefix gwyipv6 devicetype =>
    [gwyip.str, dnsconfig.str, routeIf, routePriority, ipv6prefix, gwyipv6.str, devicetype]
  | routeDel _ _ => []

def unquoted : SystemCall → List CStr
  | gwSetup _ _ _ _ _ _ => []
  | routeDel _ ipAddr => [ipAddr.str]

def routeDelCommand (isIPv4 : Bool) : CStr :=
  if isIPv4 then "route del default gw ".toList else "ip -6 route del default via ".toList

/-- The command line of the build without `YOCTO_BUILD`. -/
def line : SystemCall → CStr
  | call@(gwSetup _ _ _ _ _ _) => gwSetupFile ++ call.quoted.flatMap fun s => ' ' :: Shell.dquote s
  | routeDel isIPv4 ipAddr => routeDelCommand isIPv4 ++ ipAddr.str

def routeDelWords (isIPv4 : Bool) : List CStr :=
  if isIPv4 then ["route".toList, "del".toList, "default".toList, "gw".toList]
  else ["ip".toList, "-6".toList, "route".toList, "del".toList, "default".toList, "via".toList]

/-- The argument vector the line is meant to have. -/
def argv : SystemCall → List CStr
  | call@(gwSetup _ _ _ _ _ _) => gwSetupFile :: call.quoted
  | routeDel isIPv4 ipAddr => routeDelWords isIPv4 ++ [ipAddr.str]

theorem routeDelCommand_eq (isIPv4 : Bool) :
    routeDelCommand isIPv4 = (routeDelWords isIPv4).flatMap fun w => w ++ [' '] := by
  cases isIPv4 with
  | true => rfl
  | false => rfl

theorem routeDelWords_plain (isIPv4 : Bool) :
    ∀ w ∈ routeDelWords isIPv4, Shell.Plain w ∧ w ≠ [] := by
  cases isIPv4 with
  | true => decide
  | false => decide

end SystemCall

/-- The device: the interface names of `device.properties`, the preferred gateway setting, and
whether `inet_pton` accepts a string as an address of either family. -/
structure Host where
  mocaIf : CStr
  wifiIf : CStr
  xb3Selected : Bool
  inetPton4 : CStr → Bool
  inetPton6 : CStr → Bool

/-- One round of the worker: the JSON it fetches (`none` where the fetch, and `some none` where
the parser, fails), the exit status of the setup script for each gateway, and the interfaces
with an IPv4 address. -/
structure Announcement where
  fetched : Option (Option CJSON)
  gwSetupStatus : Nat → Int
  mocaHasIPv4 : Bool
  wifiHasIPv4 : Bool
  usingDhcp : Bool

def Host.sample : Host where
  mocaIf := "eth1".toList
  wifiIf := "wlan0".toList
  xb3Selected := false
  inetPton4 s := s = "169.254.1.1".toList
  inetPton6 s := s = "fe80::1".toList

def Announcement.ofGateways (gws : List CJSON) (gwSetupStatus : Nat → Int) : Announcement where
  fetched := some (some (.item none none [.item (some "xmediagateways".toList) none gws]))
  gwSetupStatus := gwSetupStatus
  mocaHasIPv4 := true
  wifiHasIPv4 := false
  usingDhcp := false

/-- A look at the kernel table for the current route, and its broadcast. -/
structure RouteQuery where
  isIPv4 : Bool
  routeIf : CStr
  deriving DecidableEq

structure RouteState where
  gwList : List GwyDeviceData
  gwRouteInfo : GList RouteInfo
  lastRouteSetV4 : Bool
  routeIf : CStr
  upnpGwyLost : Bool
  commands : List SystemCall
  routeQueries : List RouteQuery
  dhcpRenewals : Nat
  deriving DecidableEq

def RouteState.init : RouteState where
  gwList := []
  gwRouteInfo := .null
  lastRouteSetV4 := false
  routeIf := []
  upnpGwyLost := true
  commands := []
  routeQueries := []
  dhcpRenewals := 0

section
variable (h : Host)

/-- `inet_pton` sees the string before the blanks around it are stripped. -/
def checkvalidip (ipAddress : CStr) : Bool :=
  let validip4 := h.inetPton4 ipAddress
  let validip6 := h.inetPton6 ipAddress
  let ipAddress := gStrstrip ipAddress
  if gStrrstr ipAddress "null".toList || ipAddress.isEmpty then true
  else validip4 || validip6

def checkvalidhostname (hostname : CStr) : Bool :=
  let hostname := gStrstrip hostname
  if gStrrstr hostname "null".toList || hostname.isEmpty then true
  else (gStrsplitSet hostname " ;\n".toList).any fun token => checkvalidip h token

def acceptGateway (gwData : CJSON) : Option GwyDeviceData :=
  match gwData.text "isgateway", gwData.text "dnsconfig", gwData.text "gatewayip",
    gwData.text "gatewayipv6" with
  | some isgateway, some dnsConfig, some gatewayIp, some gatewayIpV6 =>
    if gStrrstr (gStrstrip isgateway) "yes".toList && checkvalidhostname h dnsConfig &&
        checkvalidip h gatewayIp && checkvalidip h gatewayIpV6 then
      some {
        serialNum := (gwData.text "sno").getD []
        gwyip := .of gatewayIp
        gwyipv6 := .of gatewayIpV6
        ipv6prefix := (gwData.text "ipv6Prefix").getD []
        devicetype := (gwData.text "DevType").getD []
        dnsconfig := .of dnsConfig
        isRouteSet := false }
    else none
  | _, _, _, _ => none

def acceptGateways (gwFullData : CJSON) : List GwyDeviceData :=
  gwFullData.child.filterMap (acceptGateway h)

end

/-- A gateway with a v6 prefix is reached over IPv6. -/
def checkIpMode (v6Prefix : CStr) : Bool :=
  let v6Prefix := gStrstrip v6Prefix
  !(gStrrstr v6Prefix "null".toList || v6Prefix.isEmpty)

def gListFindIp (ip : Stripped) (gwData : RouteInfo) : Bool := gwData.ipStr = ip

def gListFindGw (ip : Stripped) (gwData : GwyDeviceData) : Bool :=
  gwData.gwyip = ip || gwData.gwyipv6 = ip

def GwyDeviceData.stripPrefix (gw : GwyDeviceData) : GwyDeviceData :=
  { gw with ipv6prefix := gStrstrip gw.ipv6prefix }

def GwyDeviceData.prefixStr (gw : GwyDeviceData) : Stripped := .of gw.ipv6prefix

end NetSrvMgr.Route
