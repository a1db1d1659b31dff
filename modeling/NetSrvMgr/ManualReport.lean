import NetSrvMgr.DnsFile
import NetSrvMgr.IfaceAgreement
import NetSrvMgr.InetText
import NetSrvMgr.ManualIp

namespace NetSrvMgr.Ip
open CString Inet InputStream
set_option autoImplicit true

/-- What `getIPSettings` finds: the environment variables that name the interfaces, the settings
files (Ethernet or not), the routes, `gDhcpServerIP` and `/etc/resolv.dnsmasq`. -/
structure ReportEnv extends IfaceEnv where
  ethernetInterface : Option CStr
  wifiInterface : Option CStr
  settingsFile : Bool → Option CStr
  netlink : NetLink
  gDhcpServerIP : CStr
  resolv : Option (List Char)

section

variable (e : ReportEnv)

end

/-- An address as netlink reports it, with the length of its prefix. -/
def addressText (a : BitVec 32) (prefixLength : Nat) : CStr :=
  inetNtop4 a ++ '/' :: Nat.toDigits 10 prefixLength

def serverLine (server : CStr) : CStr := nameserver ++ ' ' :: server

/-- Netlink, the kernel and the resolver's file show an address, a mask, a gateway and servers. The
interface may have link-local addresses besides, and the file may name servers that are not IPv4
addresses. -/
structure Shows (e : ReportEnv) (dev : CStr) (ipaddress netmask gateway : BitVec 32)
    (nameservers : List CStr) : Prop where
  short : dev.length < 16
  address : ∃ i ∈ e.getIpaddr dev .inet, ∃ len, i.text = addressText ipaddress len
  others : ∀ i ∈ e.getIpaddr dev .inet, ∃ a len, i.text = addressText a len ∧
    (a = ipaddress ∨ a &&& 0xffff0000 = 0xa9fe0000)
  mask : e.netMask dev .inet = some (AddrArray.snprintf (inetNtop4 netmask))
  route : ∀ interface oldGateway,
    (e.netlink.getDefaultRoute false interface oldGateway).1 = true ∧
      (e.netlink.getDefaultRoute false interface oldGateway).2.2 = inetNtop4 gateway
  resolver : ∃ servers : List CStr,
    e.resolv = some ((servers.map serverLine).flatMap (· ++ ['\n'])) ∧
      (∀ server ∈ servers, IsWord server ∧ '\x00' ∉ server) ∧
      servers.filter (inetPton.accepts .inet) = nameservers

def ReportEnv.device (e : ReportEnv) (ethernet : Bool) : Option CStr :=
  if ethernet then e.ethernetInterface else e.wifiInterface

end NetSrvMgr.Ip
