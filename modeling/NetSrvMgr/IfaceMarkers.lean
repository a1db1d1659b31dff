import NetSrvMgr.CString
import NetSrvMgr.Durable

namespace NetSrvMgr.Iface
open CString Durable
set_option autoImplicit true

inductive Marker
  | ethernet_disallowed
  | wifi_disallowed
  | pni_wifi
  deriving DecidableEq

def Marker.filename : Marker → CStr
  | .ethernet_disallowed => "ethernet_disallowed".toList
  | .wifi_disallowed => "wifi_disallowed".toList
  | .pni_wifi => "pni_wifi".toList

/-- Which names exist in `/tmp` and in `/opt/persistent`. -/
structure Files where
  tmp : CStr → Bool
  persistent : CStr → Bool

def mark (filename : CStr) (persist : Bool) (fs : Files) : Files where
  tmp := Function.update fs.tmp filename true
  persistent := if persist then Function.update fs.persistent filename true else fs.persistent

def unmark (filename : CStr) (persist : Bool) (fs : Files) : Files where
  tmp := Function.update fs.tmp filename false
  persistent := if persist then Function.update fs.persistent filename false else fs.persistent

/-- The command `/bin/cp /opt/persistent/<filename> /tmp`, whose failure is ignored. -/
def cpToTmp (fs : Files) (filename : CStr) : Files :=
  if fs.persistent filename then { fs with tmp := Function.update fs.tmp filename true } else fs

/-- The commands of `pni_settings_loader.service`. -/
def pniSettingsLoader (fs : Files) : Files :=
  ["pni_wifi".toList, "wifi_disallowed".toList, "ethernet_disallowed".toList].foldl cpToTmp fs

def reboot (fs : Files) : Files := pniSettingsLoader { fs with tmp := fun _ => false }

structure IfaceInfo where
  m_if_name : CStr
  up : Bool
  deriving DecidableEq

/-- What a call finds: RFC parameters, environment variables, the interfaces that netlink
reports, and what `getRouteInterfaceType` stores (nothing where it fails). -/
structure Surroundings where
  getRFCParameter : CStr → Option CStr
  getenv : CStr → Option CStr
  interfaces : List IfaceInfo
  activeInterface : Option CStr

def Surroundings.isFeatureEnabled (env : Surroundings) (feature : CStr) : Bool :=
  match env.getRFCParameter feature with
  | none => false
  | some value => decide (value = "true".toList)

def Surroundings.getenvOrDefault (env : Surroundings) (name defaultValue : CStr) : CStr :=
  (env.getenv name).getD defaultValue

/-- `none` where the flag cannot be determined. -/
def Surroundings.isInterfaceEnabled (env : Surroundings) (interface : CStr) : Option Bool :=
  let lookup (interface_name : CStr) : Option Bool :=
    (env.interfaces.find? fun i => i.m_if_name = interface_name).map IfaceInfo.up
  if interface = "ETHERNET".toList then
    lookup (env.getenvOrDefault "ETHERNET_INTERFACE".toList [])
  else if interface = "WIFI".toList then lookup (env.getenvOrDefault "WIFI_INTERFACE".toList [])
  else none

def Surroundings.validateInterfaceCanBeDisabled (env : Surroundings) (interface : CStr) : Bool :=
  if env.isFeatureEnabled
      ("Device.DeviceInfo.X_RDKCENTRAL-COM_RFC.Feature.Network." ++
        "AllowDisableDefaultNetwork.Enable").toList then true
  else
    match env.activeInterface with
    | none => false
    | some activeInterface => decide (interface ≠ activeInterface)

/-- What a call starts besides touching the markers. -/
inductive Effect
  | system (command : CharArray 64)
  | setWifiEnabled (enabled : Bool)
  | launchPniController
  deriving DecidableEq

def setInterfaceState (interface_name : CStr) (enabled : Bool) : List Effect :=
  if interface_name.isEmpty then []
  else
    have hsize : 0 < 64 := Nat.succ_pos 63
    [.system (.snprintf hsize ("ip link set dev ".toList ++ interface_name ++
      (if enabled then " up".toList else " down".toList)))]

structure Device where
  files : Files
  effects : List Effect

def Device.update (s : Device) (files : Files) (effects : List Effect) : Device :=
  ⟨files, s.effects ++ effects⟩

/-- The build flag `DISABLE_PNI` is a parameter. -/
def setDefaultInterface (disablePni : Bool) (env : Surroundings) (interface : CStr)
    (persist : Bool) (s : Device) : Device × Bool :=
  if interface = "ETHERNET".toList then
    (s.update (unmark "pni_wifi".toList persist s.files) [.launchPniController], true)
  else if interface = "WIFI".toList then
    if disablePni then (s, false)
    else if env.isFeatureEnabled
        "Device.DeviceInfo.X_RDKCENTRAL-COM_RFC.Feature.PreferredNetworkInterface.Enable".toList
        = false then (s, false)
    else if env.isInterfaceEnabled interface = some false then (s, false)
    else (s.update (mark "pni_wifi".toList persist s.files) [.launchPniController], true)
  else (s, false)

def setInterfaceEnabled (env : Surroundings) (interface : CStr) (enabled persist : Bool)
    (s : Device) : Device × Bool :=
  if interface = "ETHERNET".toList then
    let name := env.getenvOrDefault "ETHERNET_INTERFACE".toList []
    if enabled then
      (s.update (unmark "ethernet_disallowed".toList persist s.files)
        (setInterfaceState name true ++ [.launchPniController]), true)
    else
      (s.update (mark "ethernet_disallowed".toList persist s.files)
        (setInterfaceState name false ++ [.launchPniController]), true)
  else if interface = "WIFI".toList then
    let name := env.getenvOrDefault "WIFI_INTERFACE".toList []
    if enabled then
      (s.update (unmark "wifi_disallowed".toList persist s.files)
        (setInterfaceState name true ++ [.setWifiEnabled true, .launchPniController]), true)
    else if env.validateInterfaceCanBeDisabled interface then
      (s.update (mark "wifi_disallowed".toList persist s.files)
        (setInterfaceState name false ++ [.setWifiEnabled false, .launchPniController]), true)
    else (s, false)
  else (s, false)

/-- A call with what it finds, or a reboot. -/
inductive Event
  | setDefaultInterface (env : Surroundings) (interface : CStr) (persist : Bool)
  | setInterfaceEnabled (env : Surroundings) (interface : CStr) (enabled persist : Bool)
  | reboot

/-- The device after an event, and whether the event was accepted. -/
def Event.handle (disablePni : Bool) (s : Device) : Event → Device × Bool
  | .setDefaultInterface env interface persist =>
    Iface.setDefaultInterface disablePni env interface persist s
  | .setInterfaceEnabled env interface enabled persist =>
    Iface.setInterfaceEnabled env interface enabled persist s
  | .reboot => ({ s with files := Iface.reboot s.files }, true)

def runEvents (disablePni : Bool) (s : Device) (events : List Event) : Device :=
  events.foldl (fun s e => (e.handle disablePni s).1) s

/-- What an event asks for, where it names an interface. -/
def Event.request : Event → Option (Op Marker)
  | .setDefaultInterface _ interface persist =>
    if interface = "ETHERNET".toList then some (.ask .pni_wifi false persist)
    else if interface = "WIFI".toList then some (.ask .pni_wifi true persist)
    else none
  | .setInterfaceEnabled _ interface enabled persist =>
    if interface = "ETHERNET".toList then some (.ask .ethernet_disallowed (!enabled) persist)
    else if interface = "WIFI".toList then some (.ask .wifi_disallowed (!enabled) persist)
    else none
  | .reboot => some .reboot

/-- The request of an event that is accepted. -/
def Event.accepted (disablePni : Bool) (s : Device) (e : Event) : Option (Op Marker) :=
  if (e.handle disablePni s).2 then e.request else none

def acceptedRequests (disablePni : Bool) : Device → List Event → List (Op Marker)
  | _, [] => []
  | s, e :: events =>
    (e.accepted disablePni s).toList ++ acceptedRequests disablePni (e.handle disablePni s).1 events

/-- The markers among the files. -/
def Files.markers (fs : Files) : Store Marker where
  volatile m := fs.tmp m.filename
  persistent m := fs.persistent m.filename

theorem Marker.filename_inj (m n : Marker) : m.filename = n.filename ↔ m = n := by
  cases m <;> cases n <;> decide

theorem update_filename (f : CStr → Bool) (m : Marker) (b : Bool) :
    (fun n : Marker => Function.update f m.filename b n.filename) =
      Function.update (fun n : Marker => f n.filename) m b := by
  funext n
  simp only [Function.update_apply, Marker.filename_inj]

theorem update_markers (m : Marker) (present persist : Bool) (fs : Files) :
    Files.markers ⟨Function.update fs.tmp m.filename present,
      if persist then Function.update fs.persistent m.filename present else fs.persistent⟩ =
      fs.markers.apply (.ask m present persist) := by
  rw [Store.apply, Files.markers, Store.mk.injEq]
  apply And.intro (update_filename fs.tmp m present)
  cases persist with
  | false => rfl
  | true => exact update_filename fs.persistent m present

theorem cpToTmp_tmp (fs : Files) (m n : Marker) :
    (cpToTmp fs n.filename).tmp m.filename =
      if m = n ∧ fs.persistent n.filename then true else fs.tmp m.filename := by
  rw [cpToTmp]
  by_cases hp : fs.persistent n.filename = true
  · rw [if_pos hp]
    simp only [Function.update_apply, Marker.filename_inj, hp, and_true]
  · rw [if_neg hp, if_neg (fun h => hp h.2)]

@[simp] theorem cpToTmp_persistent (fs : Files) (filename : CStr) :
    (cpToTmp fs filename).persistent = fs.persistent := by
  rw [cpToTmp]
  split <;> rfl

theorem foldl_cpToTmp (ns : List Marker) (fs : Files) :
    ((ns.map Marker.filename).foldl cpToTmp fs).persistent = fs.persistent ∧
      ∀ m, ((ns.map Marker.filename).foldl cpToTmp fs).tmp m.filename =
        if m ∈ ns ∧ fs.persistent m.filename then true else fs.tmp m.filename := by
  induction ns generalizing fs with
  | nil => simp
  | cons n ns ih =>
    rw [List.map_cons, List.foldl_cons]
    obtain ⟨hper, htmp⟩ := ih (cpToTmp fs n.filename)
    apply And.intro
    · rw [hper, cpToTmp_persistent]
    · intro m
      rw [htmp, cpToTmp_persistent, cpToTmp_tmp]
      simp only [List.mem_cons]
      by_cases hm : m = n
      · subst hm
        simp only [true_or, true_and]
        split
        · rename_i h
          rw [if_pos h.2]
        · rfl
      · simp [hm]

theorem reboot_markers (fs : Files) : (reboot fs).markers = fs.markers.apply .reboot := by
  obtain ⟨hper, htmp⟩ := foldl_cpToTmp [.pni_wifi, .wifi_disallowed, .ethernet_disallowed]
    { fs with tmp := fun _ => false }
  rw [Files.markers, Files.markers, Store.apply, Store.boot, Store.mk.injEq]
  apply And.intro
  · funext m
    have hmem : m ∈ [Marker.pni_wifi, .wifi_disallowed, .ethernet_disallowed] := by
      cases m <;> decide
    refine (htmp m).trans ?_
    simp [hmem]
  · funext m
    exact congrFun hper m.filename

/-- An event that is accepted does to the markers what it asks; any other does nothing. -/
theorem Event.handle_markers (disablePni : Bool) (s : Device) (e : Event) :
    (e.handle disablePni s).1.files.markers =
      (e.accepted disablePni s).toList.foldl Store.apply s.files.markers := by
  cases e with
  | reboot => exact reboot_markers s.files
  | setDefaultInterface env interface persist =>
    rw [Event.accepted, Event.handle, Event.request, Iface.setDefaultInterface]
    by_cases heth : interface = "ETHERNET".toList
    · rw [if_pos heth, if_pos heth]
      exact update_markers .pni_wifi false persist s.files
    · rw [if_neg heth, if_neg heth]
      by_cases hwifi : interface = "WIFI".toList
      · rw [if_pos hwifi, if_pos hwifi]
        split
        · rfl
        · split
          · rfl
          · split
            · rfl
            · exact update_markers .pni_wifi true persist s.files
      · rw [if_neg hwifi, if_neg hwifi]
        rfl
  | setInterfaceEnabled env interface enabled persist =>
    rw [Event.accepted, Event.handle, Event.request, Iface.setInterfaceEnabled]
    by_cases heth : interface = "ETHERNET".toList
    · rw [if_pos heth, if_pos heth]
      cases enabled with
      | true => exact update_markers .ethernet_disallowed false persist s.files
      | false => exact update_markers .ethernet_disallowed true persist s.files
    · rw [if_neg heth, if_neg heth]
      by_cases hwifi : interface = "WIFI".toList
      · rw [if_pos hwifi, if_pos hwifi]
        cases enabled with
        | true => exact update_markers .wifi_disallowed false persist s.files
        | false =>
          dsimp only
          rw [if_neg Bool.false_ne_true]
          split
          · exact update_markers .wifi_disallowed true persist s.files
          · rfl
      · rw [if_neg hwifi, if_neg hwifi]
        rfl

theorem runEvents_markers (disablePni : Bool) (s : Device) (events : List Event) :
    (runEvents disablePni s events).files.markers =
      (acceptedRequests disablePni s events).foldl Store.apply s.files.markers := by
  induction events generalizing s with
  | nil => rfl
  | cons e events ih =>
    rw [runEvents, List.foldl_cons, acceptedRequests, List.foldl_append, ← Event.handle_markers]
    exact ih (e.handle disablePni s).1

/-- A marker is in `/tmp` exactly when the last word on it, among the accepted calls and the
reboots, asked for it. -/
theorem runEvents_tmp (disablePni : Bool) (fs : Files) (effects : List Effect)
    (events : List Event) (m : Marker) :
    (runEvents disablePni ⟨reboot fs, effects⟩ events).files.tmp m.filename =
      lastWord (fun m : Marker => fs.persistent m.filename) m
        (acceptedRequests disablePni ⟨reboot fs, effects⟩ events) := by
  have hrun := congrArg (fun st : Store Marker => st.volatile m)
    (runEvents_markers disablePni ⟨reboot fs, effects⟩ events)
  have hboot : (reboot fs).markers = Store.boot fs.markers.persistent := reboot_markers fs
  rw [hboot, foldl_apply_volatile] at hrun
  exact hrun

end NetSrvMgr.Iface
