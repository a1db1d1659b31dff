import NetSrvMgr.DeviceProperties
import NetSrvMgr.RouteTable

namespace NetSrvMgr.Active
open CString InputStream DevFile
set_option autoImplicit true

/-- What the functions find: the files by their paths, and the environment. -/
structure Host where
  file : CStr → Option CStr
  getenv : CStr → Option CStr

def Host.getRouteInterface (h : Host) (devname : CStr) : Option (Bool × CStr) :=
  Active.getRouteInterface (h.file "/proc/net/ipv6_route".toList)
    (h.file "/proc/net/route".toList) devname

def Host.readDevFile (h : Host) (deviceName : CStr) : Bool × CStr :=
  utilsReadDevFile (h.file "//etc/device.properties".toList) deviceName

/-- `INTERFACE_STATUS_FILE_PATH` -/
def operstatePath (interfaceName : CStr) : CStr :=
  "/sys/class/net/".toList ++ interfaceName ++ "/operstate".toList

/-- The buffer of `INTERFACE_STATUS_FILE_PATH_BUFFER` characters keeps the path where the file has
no word; `none` where it overflows. -/
def Host.checkInterfaceActive (h : Host) (interfaceName : CStr) : Option Bool :=
  if 100 ≤ (operstatePath interfaceName).length then none
  else
    match h.file (operstatePath interfaceName) with
    | none => some false
    | some file =>
      match extract file with
      | none => some (strcasestr (operstatePath interfaceName) "UP".toList)
      | some (buffer, _) =>
        if 100 ≤ buffer.length then none else some (strcasestr (cstr buffer) "UP".toList)

/-- `STRCPY_S` of the name that is found. -/
def storeInterface (ifcStr : CStr) : Option (Bool × CStr) :=
  if ifcStr.length < interfaceSize then some (true, ifcStr) else none

def Host.currentActiveInterface (h : Host) (currentInterface : CStr) : Option (Bool × CStr) :=
  match h.getenv "WIFI_INTERFACE".toList, h.getenv "MOCA_INTERFACE".toList with
  | some wifi, some moca =>
    match h.checkInterfaceActive moca with
    | none => none
    | some active => storeInterface (if active then moca else wifi)
  | some _, none => storeInterface []
  | none, some moca => storeInterface moca
  | none, none => some (false, currentInterface)

/-- The states that the kernel reports for an interface. -/
inductive OperState
  | unknown
  | notpresent
  | down
  | lowerlayerdown
  | testing
  | dormant
  | up
  deriving DecidableEq

def OperState.text : OperState → CStr
  | unknown => "unknown".toList
  | notpresent => "notpresent".toList
  | down => "down".toList
  | lowerlayerdown => "lowerlayerdown".toList
  | testing => "testing".toList
  | dormant => "dormant".toList
  | up => "up".toList

def Host.properties (h : Host) : Option CStr := h.file "//etc/device.properties".toList

/-- `device.properties`, if there is one, has only lines that the reader takes as they stand. -/
def Host.GoodProperties (h : Host) : Prop :=
  ∀ contents ∈ h.properties, ∀ line ∈ contents.splitOn '\n', GoodLine ifaces line

/-- The files of the kernel, with names that fit into the buffers. -/
structure Host.Shows (h : Host) (ipv6 : List Ipv6Route) (ipv4 : List Ipv4Route)
    (operstate : CStr → Option OperState) : Prop where
  ipv6Route : h.file "/proc/net/ipv6_route".toList = some (ipv6Table ipv6)
  route : h.file "/proc/net/route".toList = some (ipv4Table ipv4)
  operstateFile : ∀ name, h.file (operstatePath name) =
    (operstate name).map fun state => state.text ++ ['\n']
  ipv6Short : ∀ r ∈ ipv6, r.device.text.length < interfaceSize
  ipv4Short : ∀ r ∈ ipv4, r.device.text.length < interfaceSize
  wifiShort : ∀ name ∈ h.getenv "WIFI_INTERFACE".toList, name.length < interfaceSize
  mocaShort : ∀ name ∈ h.getenv "MOCA_INTERFACE".toList, name.length < interfaceSize

/-- The interface that the first line of `device.properties` naming the device assigns. -/
def Host.iface (h : Host) (device : CStr) : Option Iface :=
  h.properties.bind fun contents => firstNaming device (assignments contents)

def Host.networkType (h : Host) (device : CStr) : Option CStr :=
  (h.iface device).map Iface.networkName

/-- MoCA where it is up, and otherwise WiFi; of one of the two alone, MoCA but not WiFi. -/
def environmentDevice (wifi moca : Option CStr) (operstate : CStr → Option OperState) :
    Option CStr :=
  match wifi, moca with
  | some wifi, some moca => some (if operstate moca = some .up then moca else wifi)
  | some _, none => some []
  | none, moca => moca

theorem Host.GoodProperties.readDevFile {h : Host} (hgood : h.GoodProperties) (device : CStr) :
    h.readDevFile device =
      match h.networkType device with
      | none => (false, device)
      | some type => (true, type) := by
  rw [Host.readDevFile, Host.networkType, Host.iface, ← Host.properties]
  cases hfile : h.properties with
  | none => rfl
  | some contents =>
    have hmaps := mapsName_lines (hgood contents hfile) device
    rw [MapsName] at hmaps
    rw [hmaps, Option.bind_some]
    cases firstNaming device (assignments contents) with
    | none => rfl
    | some i => rfl

theorem OperState.isWord (state : OperState) : IsWord state.text := by
  have hword : state.text ≠ [] ∧ state.text.all (fun c => !isspace c) = true := by
    cases state <;> decide
  apply And.intro hword.1
  intro c hc
  simpa using List.all_eq_true.1 hword.2 c hc

theorem OperState.strcasestr_iff (state : OperState) :
    strcasestr (cstr state.text) "UP".toList = decide (state = .up) := by
  cases state <;> decide +kernel

theorem OperState.length_text (state : OperState) : ¬100 ≤ state.text.length := by
  cases state <;> decide

theorem length_between (before text after : CStr) :
    (before ++ text ++ after).length = before.length + text.length + after.length := by
  rw [List.length_append, List.length_append]

theorem length_operstatePath {name : CStr} (h : name.length < interfaceSize) :
    ¬100 ≤ (operstatePath name).length := by
  have hbefore : "/sys/class/net/".toList.length = 15 := by decide
  have hafter : "/operstate".toList.length = 10 := by decide
  have hpath : (operstatePath name).length = _ := length_between _ name _
  rw [hbefore, hafter] at hpath
  rw [hpath]
  rw [interfaceSize] at h
  omega

theorem Host.Shows.checkInterfaceActive {h : Host} (hh : h.Shows ipv6 ipv4 operstate)
    (hname : name.length < interfaceSize) :
    h.checkInterfaceActive name = some (decide (operstate name = some .up)) := by
  rw [Host.checkInterfaceActive, if_neg (length_operstatePath hname), hh.operstateFile]
  cases operstate name with
  | none => rfl
  | some state =>
    have hread := state.isWord.extract_append (c := '\n') rfl []
    simp only [Option.map_some, hread, if_neg state.length_text, state.strcasestr_iff,
      Option.some.injEq]

theorem storeInterface_short (h : name.length < interfaceSize) :
    storeInterface name = some (true, name) := if_pos h

theorem Host.Shows.currentActiveInterface {h : Host} (hh : h.Shows ipv6 ipv4 operstate)
    (current : CStr) :
    h.currentActiveInterface current =
      some (match environmentDevice (h.getenv "WIFI_INTERFACE".toList)
          (h.getenv "MOCA_INTERFACE".toList) operstate with
        | some device => (true, device)
        | none => (false, current)) := by
  rw [Host.currentActiveInterface]
  cases hwifi : h.getenv "WIFI_INTERFACE".toList with
  | none =>
    cases hmoca : h.getenv "MOCA_INTERFACE".toList with
    | none => rfl
    | some moca => exact storeInterface_short (hh.mocaShort moca hmoca)
  | some wifi =>
    cases hmoca : h.getenv "MOCA_INTERFACE".toList with
    | none => rfl
    | some moca =>
      have hshort := hh.mocaShort moca hmoca
      dsimp only
      rw [hh.checkInterfaceActive hshort, environmentDevice]
      by_cases hup : operstate moca = some .up
      · simp only [hup, decide_true, if_true]
        exact storeInterface_short hshort
      · simp only [hup, decide_false, if_false, Bool.false_eq_true]
        exact storeInterface_short (hh.wifiShort wifi hwifi)

def mocaName : IfName :=
  ⟨"eth1".toList, ⟨List.cons_ne_nil _ _, by simp [isspace]⟩, by simp⟩

def mocaRoute : Ipv4Route :=
  ⟨mocaName, 0, "0100000A\t0003\t0\t0\t0\t00000000\t0\t0\t0".toList, by simp, by simp, by decide⟩

def mocaProperties : CStr := "DEVICE_NAME=box\nMOCA_INTERFACE=eth1\nWIFI_INTERFACE=wlan0\n".toList

def mocaHost : Host where
  file path :=
    if path = "/proc/net/ipv6_route".toList then some (ipv6Table [])
    else if path = "/proc/net/route".toList then some (ipv4Table [mocaRoute])
    else if path = "//etc/device.properties".toList then some mocaProperties
    else none
  getenv _ := none

theorem mocaHost_good : mocaHost.GoodProperties := by
  intro contents hcontents line hline
  have hproperties : mocaHost.properties = some mocaProperties := rfl
  rw [hproperties] at hcontents
  cases hcontents
  have hlines : mocaProperties.splitOn '\n' = ["DEVICE_NAME=box".toList,
      "MOCA_INTERFACE=eth1".toList, "WIFI_INTERFACE=wlan0".toList, []] := by decide +kernel
  rw [hlines] at hline
  simp only [List.mem_cons, List.not_mem_nil, or_false] at hline
  rcases hline with rfl | rfl | rfl | rfl
  · exact .other (by decide)
  · exact .plain .moca "eth1".toList (by decide) (not_mem_of_all (by decide)) (by decide)
  · exact .plain .wifi "wlan0".toList (by decide) (not_mem_of_all (by decide)) (by decide)
  · exact .other (by decide)

end NetSrvMgr.Active
