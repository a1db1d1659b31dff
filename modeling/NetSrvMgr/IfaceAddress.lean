import NetSrvMgr.IpSettings

namespace NetSrvMgr.Ip
open CString Inet
set_option autoImplicit true

inductive Family
  | inet
  | inet6
  deriving DecidableEq

/-- An interface address without its prefix length. -/
def withoutPrefix (s : CStr) : CStr := s.takeWhile (· ≠ '/')

/-- Whether `inet_pton` accepts an address of the family. -/
def Family.accepts (family : Family) (s : CStr) : Bool :=
  match family with
  | .inet => (inetPton4 s).isSome
  | .inet6 => (inetPton6 s).isSome

/-- An address as netlink reports it. -/
structure IfaceAddr (family : Family) where
  text : CStr
  accepted : family.accepts (withoutPrefix text) = true
  fits : (withoutPrefix text).length < inet6Addrstrlen

def IfaceAddr.ip (s : IfaceAddr family) : AddrArray := ⟨withoutPrefix s.text, s.fits⟩

abbrev Mac := Fin 6 → BitVec 8

def hexDigit (n : Nat) : Char := (Nat.digitChar n).toUpper

/-- The conversion `%.2X`. -/
def byteText (b : BitVec 8) : CStr := [hexDigit (b.toNat / 16), hexDigit (b.toNat % 16)]

def macText (mac : Mac) : CStr :=
  byteText (mac 0) ++ ':' :: byteText (mac 1) ++ ':' :: byteText (mac 2) ++
    ':' :: byteText (mac 3) ++ ':' :: byteText (mac 4) ++ ':' :: byteText (mac 5)

/-- The buffer stays empty where the address cannot be read. -/
def getMacAddressIfName (hwaddr : Option Mac) : CStr :=
  match hwaddr with
  | none => []
  | some mac => macText mac

def eraseColons (s : CStr) : CStr := (s.map Char.toLower).filter (· ≠ ':')

/-- `none` where `insert` throws. -/
def checkGlobalV6BasedMacaddress (ipv6Addr macAddr : CStr) : Option Bool :=
  if ipv6Addr.isEmpty && macAddr.isEmpty then some false
  else if macAddr.length < 12 then some false
  else
    let tmpMacAddr := eraseColons macAddr
    if tmpMacAddr.length < 6 then none
    else
      let tmpMacAddr := (tmpMacAddr.take 6 ++ "fffe".toList ++ tmpMacAddr.drop 6).drop 2
      some (decide (tmpMacAddr <:+: eraseColons ipv6Addr))

def checkGlobalV6UlaAddress (ipv6Addr : CStr) : Bool :=
  "fd".toList.isPrefixOf ipv6Addr || "fc".toList.isPrefixOf ipv6Addr

def chkIpaddrLinklocal (stbip : CStr) (family : Family) : Bool :=
  match family with
  | .inet => (inetPton4 stbip).any fun a => a &&& 0xffff0000 = 0xa9fe0000
  | .inet6 => (inetPton6 stbip).any fun a : BitVec 128 => a &&& 0xffc0 <<< 112 = 0xfe80 <<< 112

def isIPv4AddressScopeDocumentation (ipv4Address : CStr) : Bool :=
  (inetPton4 ipv4Address).any fun a =>
    let networkAddress := a &&& 0xffffff00
    networkAddress = 0xc0000200 || networkAddress = 0xc6336400 || networkAddress = 0xcb007100

/-- Whether the loop over the addresses stores this one. -/
def stores (many : Bool) (macAddr : CStr) (s : IfaceAddr family) : Option Bool :=
  if checkGlobalV6UlaAddress s.text then some false
  else
    (if many then checkGlobalV6BasedMacaddress s.text macAddr else some false).map fun macBased =>
      !macBased && !chkIpaddrLinklocal s.ip.str family &&
        !(family = .inet && isIPv4AddressScopeDocumentation s.ip.str)

/-- The loop that both functions have: the buffer after it, and whether it was written. -/
def walkAddresses (many : Bool) (macAddr : CStr) :
    List (IfaceAddr family) → AddrArray → Option (AddrArray × Bool)
  | [], buffer => some (buffer, false)
  | s :: ipAddr, buffer =>
    (stores many macAddr s).bind fun stored =>
      if stored then (walkAddresses many macAddr ipAddr s.ip).map fun r => (r.1, true)
      else walkAddresses many macAddr ipAddr buffer

/-- What the system reports about its interfaces; `netMask` is what `getNetMask_IfName` stores. -/
structure IfaceEnv where
  getIpaddr : CStr → (family : Family) → List (IfaceAddr family)
  hwaddr : CStr → Option Mac
  netMask : CStr → Family → Option AddrArray
  routeInterface : Option CStr
  currentActiveInterface : Option CStr

/-- The address, the mask and the result. -/
def getInterfaceConfig (e : IfaceEnv) (ifName : CStr) (family : Family)
    (interfaceIp netMask : AddrArray) : Option (AddrArray × AddrArray × Bool) :=
  let ipAddr := e.getIpaddr ifName family
  if ipAddr.isEmpty then some (interfaceIp, netMask, false)
  else
    (walkAddresses (decide (1 < ipAddr.length)) (getMacAddressIfName (e.hwaddr ifName)) ipAddr
      interfaceIp).map fun r => (r.1, (e.netMask ifName family).getD netMask, true)

def familyOf (family : CStr) : Option Family :=
  if family = "ipv4".toList then some .inet
  else if family = "ipv6".toList then some .inet6
  else none

/-- The interface that `getSTBip_family` finds. -/
def IfaceEnv.stbInterface (e : IfaceEnv) : Option CStr :=
  e.routeInterface.or e.currentActiveInterface

def getSTBipFamily (e : IfaceEnv) (stbip : AddrArray) (family : CStr) :
    Option (AddrArray × Bool) :=
  match familyOf family with
  | none => some (stbip, false)
  | some iFamily =>
    match e.stbInterface with
    | none => some (stbip, false)
    | some interface =>
      let ipAddr := e.getIpaddr interface iFamily
      if ipAddr.isEmpty then some (stbip, false)
      else
        walkAddresses (decide (1 < ipAddr.length)) (getMacAddressIfName (e.hwaddr interface))
          ipAddr stbip

def IfaceSettings.setVersion (param : IfaceSettings) (ipversion : CStr) : IfaceSettings :=
  { param with ipversion := .snprintf ipversion }

/-- The address and the mask that `getInterfaceConfig` leaves in the settings. -/
def IfaceSettings.getInterfaceConfig (e : IfaceEnv) (interface : CStr) (family : Family)
    (param : IfaceSettings) : Option (IfaceSettings × Bool) :=
  (Ip.getInterfaceConfig e interface family param.ipaddress param.netmask).map fun r =>
    ({ param with ipaddress := r.1, netmask := r.2.1 }, r.2.2)

/-- The family selection of `getIPSettings`; without a family the address is not found. -/
def getIPSettingsFamily (e : IfaceEnv) (interface : CStr) (param : IfaceSettings) :
    Option (IfaceSettings × Option Family) :=
  if strcaseeq param.ipversion.str "IPV6".toList then
    (param.getInterfaceConfig e interface .inet6).map fun r =>
      (r.1, if r.2 then some .inet6 else none)
  else if strcaseeq param.ipversion.str "IPV4".toList then
    (param.getInterfaceConfig e interface .inet).map fun r =>
      (r.1, if r.2 then some .inet else none)
  else
    (param.getInterfaceConfig e interface .inet6).bind fun r =>
      if r.2 then some (r.1.setVersion "IPV6".toList, some .inet6)
      else
        (r.1.getInterfaceConfig e interface .inet).map fun r =>
          if r.2 then (r.1.setVersion "IPV4".toList, some .inet) else (r.1, none)

end NetSrvMgr.Ip
