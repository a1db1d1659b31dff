import NetSrvMgr.CString
import NetSrvMgr.Scanf

namespace NetSrvMgr.Active
open CString InputStream Scanf
set_option autoImplicit true

/-- `INTERFACE_SIZE` -/
def interfaceSize : Nat := 10

/-- The format `"%s %*x %*s %*x %s %*x %*x %*x %*x %s"`. -/
def ipv6RouteFormat : List Conversion :=
  [.word, .skipHex, .skipWord, .skipHex, .word, .skipHex, .skipHex, .skipHex, .skipHex, .word]

/-- Whether a word is too long for its buffer: `dst[50]`, `gw[50]`, and `devname` after them. -/
def routeOverflow (words : List CStr) : Bool :=
  (words.take 2).any (fun w => 50 ≤ w.length) ||
    (words.drop 2).any (fun w => interfaceSize ≤ w.length)

/-- The interfaces that no address is looked for on. -/
def notDevice (devname : CStr) : Bool := devname = "sit0".toList || devname = "lo".toList

/-- The loop of `getIPv6RouteInterface`: the result and `devname`, or `none` where a buffer
overflows. Each call of `fscanf` but the last takes a character of the file at least. -/
def ipv6Loop : Nat → CStr → CStr → Option (Bool × CStr)
  | 0, _, devname => some (false, devname)
  | fuel + 1, file, devname =>
    let r := scanf ipv6RouteFormat file
    if r.eof then some (false, devname)
    else if routeOverflow r.words then none
    else
      match r.words with
      | [dst, gw, name] =>
        if cstr dst = cstr gw && !notDevice (cstr name) then some (true, cstr name)
        else ipv6Loop fuel r.rest (cstr name)
      | _ => ipv6Loop fuel r.rest devname

def getIPv6RouteInterface (contents : Option CStr) (devname : CStr) : Option (Bool × CStr) :=
  match contents with
  | none => some (false, devname)
  | some file => ipv6Loop (file.length + 1) file devname

def ipv4Loop : List CStr → CStr → Option (Bool × CStr)
  | [], devname => some (false, devname)
  | line :: lines, devname =>
    match strtok " \t".toList (cstr line) with
    | none => ipv4Loop lines devname
    | some (ptr, sptr) =>
      match strtok " \t".toList sptr with
      | none => ipv4Loop lines devname
      | some (ctr, _) =>
        if ctr = "00000000".toList then
          if ptr.length < interfaceSize then some (true, ptr) else none
        else ipv4Loop lines devname

def getIPv4RouteInterface (contents : Option CStr) (devname : CStr) : Option (Bool × CStr) :=
  match contents with
  | none => some (false, devname)
  | some file => ipv4Loop (fgetsAll 100 file) devname

/-- `netSrvMgrUtiles::getRouteInterface`, for what the files `/proc/net/ipv6_route` and
`/proc/net/route` hold. -/
def getRouteInterface (ipv6Route route : Option CStr) (devname : CStr) : Option (Bool × CStr) :=
  match getIPv6RouteInterface ipv6Route devname with
  | none => none
  | some (true, devname) => some (true, devname)
  | some (false, devname) => getIPv4RouteInterface route devname

/-- A name that the kernel gives to an interface. -/
structure IfName where
  text : CStr
  word : IsWord text
  noNul : '\x00' ∉ text

/-- An entry of the IPv6 routing table. -/
structure Ipv6Route where
  destination : BitVec 128
  destinationPlen : BitVec 8
  source : BitVec 128
  sourcePlen : BitVec 8
  nextHop : BitVec 128
  metric : BitVec 32
  refcnt : BitVec 32
  use : BitVec 32
  flags : BitVec 32
  device : IfName

def hexField (conversion : Conversion) (width : Nat) (value : BitVec w) : Piece :=
  ⟨conversion, [' '], hexText Nat.digitChar width value.toNat⟩

/-- The fields behind the first one, which the kernel sets apart by blanks; it pads the name of
the device to eight characters. -/
def Ipv6Route.fields (r : Ipv6Route) : List Piece :=
  [hexField .word 32 r.destination, hexField .skipHex 2 r.destinationPlen,
    hexField .skipWord 32 r.source, hexField .skipHex 2 r.sourcePlen,
    hexField .word 32 r.nextHop, hexField .skipHex 8 r.metric, hexField .skipHex 8 r.refcnt,
    hexField .skipHex 8 r.use, hexField .skipHex 8 r.flags,
    ⟨.word, ' ' :: List.replicate (8 - r.device.text.length) ' ', r.device.text⟩]

/-- A line of `/proc/net/ipv6_route`, without the newline. -/
def Ipv6Route.line (r : Ipv6Route) : CStr := (textOf r.fields).tail

def ipv6Table (routes : List Ipv6Route) : CStr := routes.flatMap fun r => r.line ++ ['\n']

/-- An entry of the IPv4 routing table; the columns after the first two are not looked at. -/
structure Ipv4Route where
  device : IfName
  destination : BitVec 32
  columns : CStr
  oneLine : '\n' ∉ columns
  noNul : '\x00' ∉ columns
  fits : device.text.length + columns.length ≤ 89

def upperDigit (d : Nat) : Char := (Nat.digitChar d).toUpper

def Ipv4Route.entry (r : Ipv4Route) : CStr :=
  r.device.text ++ '\t' :: (hexText upperDigit 8 r.destination.toNat ++ '\t' :: r.columns)

/-- The kernel pads a line to 127 characters. -/
def padded (line : CStr) : CStr := line ++ List.replicate (127 - line.length) ' ' ++ ['\n']

def ipv4Header : CStr :=
  ("Iface\tDestination\tGateway \tFlags\tRefCnt\tUse\tMetric\tMask\t\t" ++
    "MTU\tWindow\tIRTT").toList

def ipv4Table (routes : List Ipv4Route) : CStr :=
  padded ipv4Header ++ routes.flatMap fun r => padded r.entry

/-- A route straight to its destination, on a device. -/
def Ipv6Route.active (r : Ipv6Route) : Bool :=
  r.destination = r.nextHop && !notDevice r.device.text

def Ipv4Route.isDefault (r : Ipv4Route) : Bool := r.destination = 0

end NetSrvMgr.Active
