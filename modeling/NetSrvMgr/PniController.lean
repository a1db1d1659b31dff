import NetSrvMgr.IfaceMarkers
import NetSrvMgr.Scripts

namespace NetSrvMgr.Pni
open CString Script
set_option autoImplicit true

/-- `$ETHERNET_INTERFACE` and `$WIFI_INTERFACE`, which the script makes the names of shell
variables of. -/
structure Names where
  ethernet : CStr
  wifi : CStr
  distinct : ethernet ≠ wifi
  plain : ∀ dev ∈ [ethernet, wifi], ∀ c ∈ dev, c.isAlphanum = true ∨ c = '_'

/-- What else the script finds: its environment, the two RFC parameters, the carrier of the
Ethernet interface, and the files with manual IP settings. -/
structure Setup where
  runLinkLocalServices : Bool
  configDisablePni : Bool
  configDisableConnectivityTest : Bool
  configAllowPniToDisableWifi : Bool
  preferredNetworkInterfaceEnable : Bool
  manualIPSettingsEnable : Bool
  carrier : Bool
  ipEth : Option CStr
  ipWifi : Option CStr

inductive Command
  | rmTmp (filename : CStr)
  | touchTmp (filename : CStr)
  | rmPersistent (filename : CStr)
  | ipLinkSet (dev : CStr) (up : Bool)
  | wiFiInterfaceStateEvent (state : Bool)
  | systemctlStop (unit dev : CStr)
  | systemctlStart (unit dev : CStr)
  | systemctlRestart (unit : CStr)
  | ipRouteFlush (family dev : CStr)
  | ipRouteFlushCache (family : CStr)
  | ipAddrFlush (family dev : CStr)
  | sysctlDisableIpv6 (dev : CStr) (value : Bool)
  | ifconfig (dev interface ip netmask : CStr)
  | routeAddDefault (gw interface : CStr)
  | writeNameservers (nameservers : List CStr)
  | restartLinkLocalServices (dev : CStr)
  | testConnectivity (dev : CStr) (timeoutMs maxTries : Nat)
  | sleep (seconds : Nat)
  | wait
  deriving DecidableEq

/-- The shell variables that `ipv4_configure_manualip` reads a file into. -/
structure Vars where
  ip : CStr
  mask : CStr
  gw : CStr
  dns1 : CStr
  dns2 : CStr
  deriving DecidableEq

/-- The variables of a run, and how the coming runs of `/usr/bin/test_connectivity` will end. -/
structure Shell where
  vars : Vars
  tests : List Bool

/-- `IFS='=' read -r key val`, for one line. -/
def readKeyVal (line : CStr) : CStr × CStr :=
  let rest := (line.dropWhile (· ≠ '=')).drop 1
  let word := rest.takeWhile (· ≠ '=')
  -- a separator that ends the second field and the line is not part of it
  (line.takeWhile (· ≠ '='), if rest = word ++ ['='] then word else rest)

def Vars.readLine (v : Vars) (line : CStr) : Vars :=
  let key := (readKeyVal line).1
  let val := (readKeyVal line).2
  if key.head? = some '#' then v
  else if key = "ipaddress".toList then { v with ip := val }
  else if key = "netmask".toList then { v with mask := val }
  else if key = "gateway".toList then { v with gw := val }
  else if key = "primarydns".toList then { v with dns1 := val }
  else if key = "secondarydns".toList then { v with dns2 := val }
  else v

/-- The loop over the file: `read` drops NUL characters, and fails on a last line without end. -/
def Vars.readFile (v : Vars) (file : CStr) : Vars :=
  ((file.filter (· ≠ '\x00')).splitOn '\n').dropLast.foldl Vars.readLine v

section

variable (n : Names) (e : Setup)

/-- The value of `DHCPv4_SERVICE_$1`. -/
def dhcpv4Service (dev : CStr) : CStr :=
  if e.runLinkLocalServices then
    if dev = n.wifi then "virtual-wifi-iface.service".toList
    else "virtual-moca-iface.service".toList
  else "udhcpc@".toList ++ dev ++ ".service".toList

def ipv4DeconfigureDhcpip (dev : CStr) : List Command :=
  [.systemctlStop (dhcpv4Service n e dev) dev]

def ipv4ConfigureDhcpip (dev : CStr) : List Command :=
  [.systemctlStart (dhcpv4Service n e dev) dev]

def ipSettingsFile (dev : CStr) : Option CStr := if dev = n.wifi then e.ipWifi else e.ipEth

/-- The interface that manual settings are applied to. -/
def manualInterface (dev : CStr) : CStr :=
  if e.runLinkLocalServices then dev ++ ":0".toList else dev

def applyManualip (dev : CStr) (v : Vars) : List Command :=
  ipv4DeconfigureDhcpip n e dev ++
    [.ifconfig dev (manualInterface e dev) v.ip v.mask,
      .routeAddDefault v.gw (manualInterface e dev),
      .writeNameservers ([v.dns1, v.dns2].filter (!·.isEmpty))]

/-- Whether there were manual settings to apply. -/
def ipv4ConfigureManualip (dev : CStr) : Script Command Shell Bool :=
  match ipSettingsFile n e dev with
  | none => pure false
  | some [] => pure false
  | some file => do
    let v ← modifyGet fun sh =>
      (sh.vars.readFile file, { sh with vars := sh.vars.readFile file })
    issue (applyManualip n e dev v)
    pure true

def flushRoutesAndAddresses (dev family : CStr) : List Command :=
  [.ipRouteFlush family dev, .ipRouteFlushCache family, .ipAddrFlush family dev]

def ipv4DeconfigureInterface (dev : CStr) : List Command :=
  ipv4DeconfigureDhcpip n e dev ++ flushRoutesAndAddresses dev "-4".toList

def ipv4ConfigureInterface (dev : CStr) : Script Command Shell Unit :=
  if e.manualIPSettingsEnable then do
    if ← ipv4ConfigureManualip n e dev then pure ()
    else issue (ipv4ConfigureDhcpip n e dev)
  else issue (ipv4ConfigureDhcpip n e dev)

def ipv4ReconfigureInterface (dev : CStr) : List Command :=
  ipv4DeconfigureInterface n e dev ++ [.systemctlRestart "pni_controller.service".toList]

def ipv6DeconfigureInterface (dev : CStr) : List Command := [.sysctlDisableIpv6 dev true]

def ipv6ConfigureInterface (dev : CStr) : List Command := [.sysctlDisableIpv6 dev false]

def deconfigureInterface (dev : CStr) : List Command :=
  ipv4DeconfigureInterface n e dev ++ ipv6DeconfigureInterface dev

def testConnectivity (dev : CStr) (timeoutMs maxTries : Nat) : Script Command Shell Bool := do
  issue [.testConnectivity dev timeoutMs maxTries]
  let outcome ← modifyGet fun sh => (sh.tests.head?, { sh with tests := sh.tests.tail })
  match outcome with
  | none => blocked
  | some passed => pure passed

def configureInterface (pniEnabled : Bool) (dev : CStr) : Script Command Shell Bool := do
  issue (ipv6ConfigureInterface dev)
  ipv4ConfigureInterface n e dev
  issue (if e.runLinkLocalServices then [.restartLinkLocalServices dev] else [])
  if !pniEnabled || e.configDisableConnectivityTest then pure true
  else testConnectivity dev 2000 15

def setInterfaceState (dev : CStr) (up : Bool) : List Command := [.ipLinkSet dev up]

def wpaSupplicantEnable (state : Bool) : List Command := [.wiFiInterfaceStateEvent state]

def setWifiState (up : Bool) : List Command :=
  setInterfaceState n.wifi up ++ wpaSupplicantEnable up

def tryEthernet (pniEnabled : Bool) : Script Command Shell Bool := do
  issue ([.rmTmp "ani_wifi".toList, .rmTmp "wifi-on".toList] ++
    setInterfaceState n.ethernet true ++ deconfigureInterface n e n.wifi)
  if ← configureInterface n e pniEnabled n.ethernet then do
    issue (if !pniEnabled || !e.configAllowPniToDisableWifi then [] else setWifiState n false)
    pure true
  else pure false

def tryWifi (pniEnabled : Bool) : Script Command Shell Bool := do
  issue ([.touchTmp "ani_wifi".toList, .touchTmp "wifi-on".toList] ++ setWifiState n true ++
    deconfigureInterface n e n.ethernet)
  configureInterface n e pniEnabled n.wifi

def tryInterface (pniEnabled : Bool) (dev : CStr) : Script Command Shell Bool :=
  if dev = n.ethernet then tryEthernet n e pniEnabled else tryWifi n e pniEnabled

/-- The loop over both interfaces, for a number of rounds. -/
def pniLoop (pni nonpni : CStr) : Nat → Script Command Shell Unit
  | 0 => blocked
  | rounds + 1 => do
    if ← tryInterface n e true pni then pure ()
    else do
      if ← tryInterface n e true nonpni then pure ()
      else do
        issue [.sleep 10]
        pniLoop pni nonpni rounds

/-- Every round but the last one uses up an outcome. -/
def runPniLoop (pni nonpni : CStr) : Script Command Shell Unit := fun sh =>
  pniLoop n e pni nonpni (sh.tests.length + 1) sh

def pniFeatureOff : Bool := e.configDisablePni || !e.preferredNetworkInterfaceEnable

/-- The attempts of the script, by the markers it finds. -/
def attempts (files : Iface.Files) : Script Command Shell Unit :=
  let marked (m : Iface.Marker) : Bool := files.tmp m.filename
  if marked .wifi_disallowed then do
    issue (setWifiState n false)
    let _ ← tryInterface n e false n.ethernet
  else if marked .ethernet_disallowed then do
    issue (setInterfaceState n.ethernet false)
    let _ ← tryInterface n e false n.wifi
  else if !e.carrier then do
    let _ ← tryInterface n e false n.wifi
  else if pniFeatureOff e then do
    issue ((if files.persistent Iface.Marker.pni_wifi.filename then
        [.rmPersistent Iface.Marker.pni_wifi.filename] else []) ++
      ((if marked .pni_wifi then [.rmTmp Iface.Marker.pni_wifi.filename] else []) ++
        setWifiState n true))
    let _ ← tryInterface n e false n.ethernet
  else if marked .pni_wifi then runPniLoop n e n.wifi n.ethernet
  else do
    issue (if e.configAllowPniToDisableWifi then [] else setWifiState n true)
    runPniLoop n e n.ethernet n.wifi

/-- What the script does where it is called without arguments. -/
def controller (files : Iface.Files) : Script Command Shell Unit :=
  if files.tmp Iface.Marker.ethernet_disallowed.filename &&
      files.tmp Iface.Marker.wifi_disallowed.filename then
    issue (setInterfaceState n.ethernet false ++ setWifiState n false)
  else do
    attempts n e files
    issue [.wait, .systemctlRestart "dibbler.service".toList]

end

/-- The marker files, and what the commands so far have asked for: the last state of a link and of
its IPv6, whether a DHCP client was started and not stopped since, whether an address was asked
for, from a client or by `ifconfig`, and not flushed since, and how WiFi was last switched. Nothing
is said of what the commands come to. -/
structure Asked where
  files : Iface.Files
  link : CStr → Option Bool
  dhcp : CStr → Bool
  address : CStr → Bool
  ipv6Disabled : CStr → Option Bool
  wifiEnabled : Bool

/-- A device that has just booted. -/
def Asked.boot (files : Iface.Files) : Asked where
  files := files
  link := fun _ => none
  dhcp := fun _ => false
  address := fun _ => false
  ipv6Disabled := fun _ => none
  wifiEnabled := false

def Asked.note (s : Asked) : Command → Asked
  | .rmTmp filename =>
    { s with files := { s.files with tmp := Function.update s.files.tmp filename false } }
  | .touchTmp filename =>
    { s with files := { s.files with tmp := Function.update s.files.tmp filename true } }
  | .rmPersistent filename =>
    { s with files :=
        { s.files with persistent := Function.update s.files.persistent filename false } }
  | .ipLinkSet dev up => { s with link := Function.update s.link dev (some up) }
  | .wiFiInterfaceStateEvent state => { s with wifiEnabled := state }
  | .systemctlStop _ dev => { s with dhcp := Function.update s.dhcp dev false }
  | .systemctlStart _ dev =>
    { s with
      dhcp := Function.update s.dhcp dev true
      address := Function.update s.address dev true }
  | .ipAddrFlush family dev =>
    if family = "-4".toList then { s with address := Function.update s.address dev false } else s
  | .sysctlDisableIpv6 dev value =>
    { s with ipv6Disabled := Function.update s.ipv6Disabled dev (some value) }
  -- `ifconfig … up`
  | .ifconfig dev _ _ _ =>
    { s with
      link := Function.update s.link dev (some true)
      address := Function.update s.address dev true }
  | _ => s

end NetSrvMgr.Pni
