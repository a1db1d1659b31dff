import NetSrvMgr.CString
import NetSrvMgr.Inet

namespace NetSrvMgr.Ip
open CString Inet
set_option autoImplicit true

/-- `INET6_ADDRSTRLEN`. -/
def inet6Addrstrlen : Nat := 46

/-- The text of an address field. -/
abbrev AddrArray := CharArray inet6Addrstrlen

def AddrArray.snprintf (s : CStr) : AddrArray := CharArray.snprintf (by decide) s

/-- The text of an interface or version field. -/
abbrev NameArray := CharArray 16

def NameArray.snprintf (s : CStr) : NameArray := CharArray.snprintf (by decide) s

/-- `IARM_BUS_NetSrvMgr_Iface_Settings_t`, as far as the settings calls use it. -/
structure IfaceSettings where
  interface : NameArray
  ipversion : NameArray
  autoconfig : Bool
  ipaddress : AddrArray
  netmask : AddrArray
  gateway : AddrArray
  primarydns : AddrArray
  secondarydns : AddrArray
  isSupported : Bool
  deriving DecidableEq

def IfaceSettings.zero : IfaceSettings where
  interface := .snprintf []
  ipversion := .snprintf []
  autoconfig := false
  ipaddress := .snprintf []
  netmask := .snprintf []
  gateway := .snprintf []
  primarydns := .snprintf []
  secondarydns := .snprintf []
  isSupported := false

def ipSettingsCompare (s t : IfaceSettings) : Bool :=
  s.ipaddress.str = t.ipaddress.str && s.netmask.str = t.netmask.str &&
    s.gateway.str = t.gateway.str && s.primarydns.str = t.primarydns.str &&
    s.secondarydns.str = t.secondarydns.str

def entryDelims : CStr := "=\n".toList

/-- One entry of the settings file; `none` where `strcmp` is given a null key or `snprintf` a null
value. -/
def readEntry (nameValueEntry : CStr) (s : IfaceSettings) : Option IfaceSettings :=
  match strtok entryDelims (cstr nameValueEntry) with
  | none => none
  | some (key, rest) =>
    let value := (strtok entryDelims rest).map Prod.fst
    if key = "ipaddress".toList then value.map fun v => { s with ipaddress := .snprintf v }
    else if key = "netmask".toList then value.map fun v => { s with netmask := .snprintf v }
    else if key = "gateway".toList then value.map fun v => { s with gateway := .snprintf v }
    else if key = "primarydns".toList then value.map fun v => { s with primarydns := .snprintf v }
    else if key = "secondarydns".toList then
      value.map fun v => { s with secondarydns := .snprintf v }
    else some s

def readEntries : List CStr → IfaceSettings → Option IfaceSettings
  | [], s => some s
  | entry :: entries, s => (readEntry entry s).bind (readEntries entries)

/-- How the file system behaves; with a limit, that many characters of what is written reach the
file, and nothing reports it. -/
structure FileOps where
  readable : Bool
  writable : Bool
  writeLimit : Option Nat
  removable : Bool
  deriving DecidableEq

def FileOps.working : FileOps where
  readable := true
  writable := true
  writeLimit := none
  removable := true

def FileOps.stored (ops : FileOps) (text : CStr) : CStr :=
  match ops.writeLimit with
  | none => text
  | some n => text.take n

def nameValueEntrySize : Nat := 512

def ipSettingsFileRead (ops : FileOps) (file : Option CStr) (s : IfaceSettings) :
    Option (IfaceSettings × Bool) :=
  match file with
  | none => some (s, false)
  | some text =>
    if ops.readable then
      (readEntries (fgetsAll nameValueEntrySize text) s).map fun s => (s, true)
    else some (s, false)

def settingsLines (s : IfaceSettings) : List CStr :=
  ["ipaddress=".toList ++ s.ipaddress.str, "netmask=".toList ++ s.netmask.str,
    "gateway=".toList ++ s.gateway.str, "primarydns=".toList ++ s.primarydns.str,
    "secondarydns=".toList ++ s.secondarydns.str]

def settingsText (s : IfaceSettings) : CStr := (settingsLines s).flatMap (· ++ ['\n'])

/-- The file after a write, and what the write returns. -/
def ipSettingsFileWrite (ops : FileOps) (s : IfaceSettings) (file : Option CStr) :
    Option CStr × Bool :=
  if ops.writable then (some (ops.stored (settingsText s)), true) else (file, false)

def validIpv4Netmask (mask : BitVec 32) : Bool :=
  if mask = 0 then false
  else
    let x := ~~~mask
    let y := x + 1
    x &&& y = 0

def validManual (param : IfaceSettings) : Bool :=
  (inetPton4 param.ipaddress.str).isSome &&
    (inetPton4 param.netmask.str).any validIpv4Netmask &&
    (inetPton4 param.gateway.str).isSome && (inetPton4 param.primarydns.str).isSome &&
    (param.secondarydns.str.isEmpty || (inetPton4 param.secondarydns.str).isSome)

/-- The environment variables that name the interfaces, and the RFC setting. -/
structure IpEnv where
  hasEthernetInterface : Bool
  hasWifiInterface : Bool
  manualIPEnabled : Bool
  ops : FileOps

/-- The settings file of the requested interface, and how often it was reconfigured. -/
structure IpState where
  settingsFile : Option CStr
  reconfigured : Nat
  deriving DecidableEq

def knownInterface (e : IpEnv) (param : IfaceSettings) : Bool :=
  if strcaseeq param.interface.str "WIFI".toList then e.hasWifiInterface
  else strcaseeq param.interface.str "ETHERNET".toList && e.hasEthernetInterface

def sameSettings (ops : FileOps) (file : Option CStr) (param : IfaceSettings) : Option Bool :=
  match file with
  | none => some false
  | some _ =>
    (ipSettingsFileRead ops file .zero).map fun r => r.2 && ipSettingsCompare r.1 param

def IpState.reconfigure (st : IpState) (settingsFile : Option CStr) : IpState where
  settingsFile := settingsFile
  reconfigured := st.reconfigured + 1

/-- The reply, the files and the result; `none` where reading the current file is undefined. -/
def setIPSettings (e : IpEnv) (param : IfaceSettings) (st : IpState) :
    Option (IfaceSettings × IpState × Bool) :=
  if !knownInterface e param then some (param, st, false)
  else if param.autoconfig then
    let param := { param with isSupported := true }
    if st.settingsFile.isNone then some (param, st, true)
    else if !e.ops.removable then some (param, st, false)
    else some (param, st.reconfigure none, true)
  else if !e.manualIPEnabled || !strcaseeq param.ipversion.str "ipv4".toList then
    some ({ param with isSupported := false }, st, false)
  else if !validManual param then some (param, st, false)
  else
    (sameSettings e.ops st.settingsFile param).map fun same =>
      if same then (param, st, true)
      else
        let r := ipSettingsFileWrite e.ops param st.settingsFile
        if !r.2 then
          (param, st.reconfigure (if e.ops.removable then none else r.1), false)
        else (param, st.reconfigure r.1, true)

end NetSrvMgr.Ip
