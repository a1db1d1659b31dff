import NetSrvMgr.PniSafety

namespace NetSrvMgr.Pni
open CString Script Durable
set_option autoImplicit true

/-- What a call of the daemon asks for besides starting the script. -/
def Asked.perform (s : Asked) : Iface.Effect → Asked
  | .system command =>
    match command.str.splitOn ' ' with
    | [_, _, _, _, dev, state] =>
      if state = "up".toList then { s with link := Function.update s.link dev (some true) }
      else if state = "down".toList then { s with link := Function.update s.link dev (some false) }
      else s
    | _ => s
  | .setWifiEnabled enabled => { s with wifiEnabled := enabled }
  | .launchPniController => s

/-- A run of the controller: what it has still to do, and whether it ends then. -/
structure Run where
  commands : List Command
  ends : Bool

/-- The device, the controller if one was started, and the runs of `ipv4_reconfigure_interface`. -/
structure World where
  asked : Asked
  controller : Option Run
  reconfiguring : List (List Command)

def World.boot (files : Iface.Files) : World := ⟨Asked.boot files, none, []⟩

/-- A call of the daemon, with what a run of the controller finds that it may start; WiFi switched
on or off; a start of the controller; a command of the controller; a run of
`ipv4_reconfigure_interface`, or a command of one. -/
inductive Happening
  | call (event : Iface.Event) (e : Setup) (sh : Shell)
  | setEnabled (enable : Bool)
  | launch (e : Setup) (sh : Shell)
  | command
  | reconfigure (e : Setup) (dev : CStr)
  | reconfigureCommand (i : Nat) (e : Setup) (sh : Shell)

/-- What a call asks for, where it is accepted. -/
def Happening.request (disablePni : Bool) (w : World) : Happening → Option (Op Iface.Marker)
  | .call event _ _ => event.accepted disablePni ⟨w.asked.files, []⟩
  | _ => none

def restartController : Command := .systemctlRestart "pni_controller.service".toList

section

variable (disablePni : Bool) (n : Names)

/-- Any run of the controller is stopped, and another one starts. -/
def World.launch (w : World) (e : Setup) (sh : Shell) : World :=
  let r := Pni.controller n e w.asked.files sh
  { w with controller := some ⟨r.1, r.2.isSome⟩ }

/-- The device after a call, apart from the controller. -/
def World.called (w : World) (event : Iface.Event) : World :=
  let r := event.handle disablePni ⟨w.asked.files, []⟩
  { w with asked := r.1.effects.foldl Asked.perform { w.asked with files := r.1.files } }

def World.call (w : World) (event : Iface.Event) (e : Setup) (sh : Shell) : World :=
  let r := event.handle disablePni ⟨w.asked.files, []⟩
  if .launchPniController ∈ r.1.effects then (w.called disablePni event).launch n e sh
  else w.called disablePni event

def World.step (w : World) : Happening → World
  | .call .reboot _ _ => World.boot (Iface.reboot w.asked.files)
  | .call event e sh => w.call disablePni n event e sh
  | .setEnabled enable => { w with asked := { w.asked with wifiEnabled := enable } }
  | .launch e sh => w.launch n e sh
  | .command =>
    match w.controller with
    | some ⟨c :: commands, ends⟩ =>
      { w with asked := w.asked.note c, controller := some ⟨commands, ends⟩ }
    | _ => w
  | .reconfigure e dev =>
    { w with reconfiguring := w.reconfiguring ++ [ipv4ReconfigureInterface n e dev] }
  | .reconfigureCommand i e sh =>
    match w.reconfiguring[i]? with
    | some (c :: commands) =>
      let w := { w with
        asked := w.asked.note c
        reconfiguring := w.reconfiguring.set i commands }
      if c = restartController then w.launch n e sh else w
    | _ => w

/-- The accepted requests of a run, and its reboots. -/
def requests : World → List Happening → List (Op Iface.Marker)
  | _, [] => []
  | w, h :: happenings =>
    (h.request disablePni w).toList ++ requests (w.step disablePni n h) happenings

def World.run (w : World) (happenings : List Happening) : World :=
  happenings.foldl (World.step disablePni n) w

end

/-- The commands that the controller has still to issue. -/
def World.pending (w : World) : List Command :=
  match w.controller with
  | none => []
  | some run => run.commands

/-- The IPv4 configuration asked for is part of another one. -/
def Within (s t : Asked) : Prop :=
  (∀ d, s.dhcp d = true → t.dhcp d = true) ∧ ∀ d, s.address d = true → t.address d = true

theorem Within.idle (h : Within s t) (ht : Idle dev t) : Idle dev s := by
  apply And.intro
  · apply Bool.eq_false_iff.2
    intro hs
    exact Bool.noConfusion (ht.1.symm.trans (h.1 dev hs))
  · apply Bool.eq_false_iff.2
    intro hs
    exact Bool.noConfusion (ht.2.symm.trans (h.2 dev hs))

theorem Within.atMostOne {n : Names} (h : Within s t) (ht : AtMostOne n t) : AtMostOne n s := by
  rcases ht with ht | ht
  · exact .inl (h.idle ht)
  · exact .inr (h.idle ht)

theorem update_within {f g : CStr → Bool} (h : ∀ d, f d = true → g d = true) (dev : CStr)
    (b : Bool) (d : CStr) (hf : Function.update f dev b d = true) :
    Function.update g dev b d = true := by
  rw [Function.update_apply] at hf ⊢
  split
  · rename_i hd
    rw [if_pos hd] at hf
    exact hf
  · rename_i hd
    rw [if_neg hd] at hf
    exact h d hf

theorem Within.note (h : Within s t) (c : Command) : Within (s.note c) (t.note c) := by
  obtain ⟨hdhcp, haddress⟩ := h
  cases c with
  | systemctlStop unit d => exact ⟨update_within hdhcp d false, haddress⟩
  | systemctlStart unit d => exact ⟨update_within hdhcp d true, update_within haddress d true⟩
  | ipAddrFlush family d =>
    simp only [Asked.note]
    split
    · exact ⟨hdhcp, update_within haddress d false⟩
    · exact ⟨hdhcp, haddress⟩
  | ifconfig d interface ip netmask => exact ⟨hdhcp, update_within haddress d true⟩
  | _ => exact ⟨hdhcp, haddress⟩

theorem Within.foldl (h : Within s t) (cs : List Command) :
    Within (cs.foldl Asked.note s) (cs.foldl Asked.note t) := by
  induction cs generalizing s t with
  | nil => exact h
  | cons c cs ih => exact ih (h.note c)

theorem update_false_within (f : CStr → Bool) (dev d : CStr)
    (h : Function.update f dev false d = true) : f d = true := by
  rw [Function.update_apply] at h
  split at h
  · cases h
  · exact h

/-- A command that configures no interface takes configuration away at most. -/
theorem note_within (s : Asked) (hc : ∀ dev, ¬c.configures dev) : Within (s.note c) s := by
  have hsame : Within s s := ⟨fun _ => id, fun _ => id⟩
  cases c with
  | systemctlStop unit d => exact ⟨update_false_within s.dhcp d, fun _ => id⟩
  | systemctlStart unit d => exact absurd rfl (hc d)
  | ipAddrFlush family d =>
    rw [Asked.note]
    split
    · exact ⟨fun _ => id, update_false_within s.address d⟩
    · exact hsame
  | ifconfig d interface ip netmask => exact absurd rfl (hc d)
  | _ => exact hsame

section

variable {n : Names} {w : World}

/-- Whatever of its commands the controller gets to issue, one of the interfaces is idle. -/
structure Safe (n : Names) (w : World) : Prop where
  cut : ∀ k, AtMostOne n ((w.pending.take k).foldl Asked.note w.asked)
  reconfigures : ∀ commands ∈ w.reconfiguring,
    ∃ e dev, commands <:+ ipv4ReconfigureInterface n e dev

theorem Safe.now (h : Safe n w) : AtMostOne n w.asked := by
  have hcut := h.cut 0
  rw [List.take_zero] at hcut
  exact hcut

theorem Safe.launch (hnow : AtMostOne n w.asked)
    (hreconfigures : ∀ commands ∈ w.reconfiguring,
      ∃ e dev, commands <:+ ipv4ReconfigureInterface n e dev) (e : Setup) (sh : Shell) :
    Safe n (w.launch n e sh) where
  cut := (controller_triple n e w.asked.files sh w.asked hnow).1
  reconfigures := hreconfigures

theorem AtMostOne.perform (h : AtMostOne n s) (effect : Iface.Effect) :
    AtMostOne n (s.perform effect) := by
  cases effect with
  | system command =>
    rw [Asked.perform]
    split
    · split
      · exact h
      · split
        · exact h
        · exact h
    · exact h
  | setWifiEnabled enabled => exact h
  | launchPniController => exact h

theorem AtMostOne.foldl_perform (h : AtMostOne n s) (effects : List Iface.Effect) :
    AtMostOne n (effects.foldl Asked.perform s) := by
  induction effects generalizing s with
  | nil => exact h
  | cons effect effects ih => exact ih (h.perform effect)

theorem handle_cases (disablePni : Bool) (s : Iface.Device)
    (hevent : event ≠ Iface.Event.reboot) :
    ((event.handle disablePni s).1 = s ∧ (event.handle disablePni s).2 = false) ∨
      .launchPniController ∈ (event.handle disablePni s).1.effects := by
  cases event with
  | reboot => exact absurd rfl hevent
  | setDefaultInterface env interface persist =>
    rw [Iface.Event.handle, Iface.setDefaultInterface]
    split_ifs <;> simp [Iface.Device.update]
  | setInterfaceEnabled env interface enabled persist =>
    rw [Iface.Event.handle, Iface.setInterfaceEnabled]
    dsimp only
    split_ifs <;> simp [Iface.Device.update]

theorem call_cases (disablePni : Bool) (n : Names) (w : World)
    (hevent : event ≠ Iface.Event.reboot) (e : Setup) (sh : Shell) :
    (w.call disablePni n event e sh = w ∧
        (event.handle disablePni ⟨w.asked.files, []⟩).2 = false) ∨
      w.call disablePni n event e sh = (w.called disablePni event).launch n e sh := by
  rw [World.call]
  rcases handle_cases disablePni ⟨w.asked.files, []⟩ hevent with ⟨hsame, hfalse⟩ | hlaunch
  · rw [World.called, hsame]
    exact .inl ⟨if_neg List.not_mem_nil, hfalse⟩
  · exact .inr (if_pos hlaunch)

theorem step_call (disablePni : Bool) (n : Names) (w : World) (hevent : event ≠ Iface.Event.reboot)
    (e : Setup) (sh : Shell) :
    w.step disablePni n (.call event e sh) = w.call disablePni n event e sh := by
  cases event with
  | reboot => exact absurd rfl hevent
  | setDefaultInterface => rfl
  | setInterfaceEnabled => rfl

theorem suffix_cases {e : Setup} (h : c :: cs <:+ ipv4ReconfigureInterface n e dev) :
    (c ∈ ipv4DeconfigureInterface n e dev ∧ c ≠ restartController ∧ cs ≠ []) ∨
      (c = restartController ∧ cs = []) := by
  obtain ⟨front, hfront⟩ := h
  rw [ipv4ReconfigureInterface] at hfront
  rcases List.eq_nil_or_concat cs with rfl | ⟨cs', c', rfl⟩
  · obtain ⟨_, hc⟩ := List.append_inj' hfront rfl
    cases hc
    exact .inr ⟨rfl, rfl⟩
  · rw [List.concat_eq_append, ← List.cons_append, ← List.append_assoc] at hfront
    obtain ⟨hfront, _⟩ := List.append_inj' hfront rfl
    have hc : c ∈ ipv4DeconfigureInterface n e dev := by
      rw [← hfront]
      exact List.mem_append_right _ List.mem_cons_self
    refine .inl ⟨hc, ?_, by simp⟩
    rintro rfl
    simp [ipv4DeconfigureInterface, ipv4DeconfigureDhcpip, flushRoutesAndAddresses,
      restartController] at hc

theorem Safe.boot (n : Names) (files : Iface.Files) : Safe n (World.boot files) where
  cut := fun k => .inl (by rw [World.pending]; simp [World.boot, Idle, Asked.boot])
  reconfigures := fun _ h => absurd h List.not_mem_nil

theorem Safe.step (disablePni : Bool) (hw : Safe n w) (h : Happening) :
    Safe n (w.step disablePni n h) := by
  cases h with
  | call event e sh =>
    by_cases hevent : event = .reboot
    · subst hevent
      exact Safe.boot n _
    · rw [step_call disablePni n w hevent]
      rcases call_cases disablePni n w hevent e sh with ⟨hsame, _⟩ | hlaunch
      · rw [hsame]
        exact hw
      · have hcalled : AtMostOne n (w.called disablePni event).asked := by
          apply AtMostOne.foldl_perform
          exact hw.now
        rw [hlaunch]
        exact Safe.launch hcalled hw.reconfigures e sh
  | setEnabled enable =>
    refine ⟨fun k => ?_, hw.reconfigures⟩
    have hwithin : Within { w.asked with wifiEnabled := enable } w.asked :=
      ⟨fun _ => id, fun _ => id⟩
    exact (hwithin.foldl _).atMostOne (hw.cut k)
  | launch e sh => exact Safe.launch hw.now hw.reconfigures e sh
  | command =>
    obtain ⟨asked, controller, reconfiguring⟩ := w
    rcases controller with _ | ⟨_ | ⟨c, commands⟩, ends⟩
    · exact hw
    · exact hw
    · exact ⟨fun k => hw.cut (k + 1), hw.reconfigures⟩
  | reconfigure e dev =>
    refine ⟨hw.cut, fun commands hmem => ?_⟩
    rcases List.mem_append.1 hmem with hmem | hmem
    · exact hw.reconfigures commands hmem
    · cases List.mem_singleton.1 hmem
      exact ⟨e, dev, List.suffix_rfl⟩
  | reconfigureCommand i e sh =>
    rw [World.step]
    split
    · rename_i c commands hget
      obtain ⟨e', dev, hsuffix⟩ := hw.reconfigures _ (List.mem_of_getElem? hget)
      have hreconfigures : ∀ p ∈ w.reconfiguring.set i commands,
          ∃ e dev, p <:+ ipv4ReconfigureInterface n e dev := by
        intro p hp
        rcases List.mem_or_eq_of_mem_set hp with hp | rfl
        · exact hw.reconfigures p hp
        · exact ⟨e', dev, (List.suffix_cons c p).trans hsuffix⟩
      rcases suffix_cases hsuffix with ⟨hmem, hne, _⟩ | ⟨rfl, _⟩
      · have hc := ipv4DeconfigureInterface_spares n e' dev c hmem
        dsimp only
        rw [if_neg hne]
        exact ⟨fun k => ((note_within w.asked hc).foldl _).atMostOne (hw.cut k), hreconfigures⟩
      · dsimp only
        rw [if_pos rfl]
        apply Safe.launch _ hreconfigures
        exact hw.now
    · exact hw

/-- In every order of calls, reboots, runs of the controller and reconfigurations, each of them
command by command, one of the interfaces is idle. -/
theorem atMostOne_run (disablePni : Bool) (n : Names) (files : Iface.Files)
    (happenings : List Happening) :
    AtMostOne n ((World.boot files).run disablePni n happenings).asked := by
  have hsafe : Safe n ((World.boot files).run disablePni n happenings) := by
    induction happenings using List.reverseRecOn with
    | nil => exact Safe.boot n files
    | append_singleton happenings h ih =>
      rw [World.run, List.foldl_append]
      exact ih.step disablePni h
  exact hsafe.now

/-- The interface that a marker says not to use. -/
def disallows (n : Names) : Iface.Marker → Option CStr
  | .ethernet_disallowed => some n.ethernet
  | .wifi_disallowed => some n.wifi
  | .pni_wifi => none

/-- What is disallowed was last set down. -/
def Down (n : Names) (s : Asked) : Prop :=
  ∀ m dev, disallows n m = some dev → s.files.tmp m.filename = true → s.link dev = some false

/-- One interface that is not disallowed is in use, if there is one. -/
def Served (n : Names) (s : Asked) : Prop :=
  (∃ m dev, disallows n m = some dev ∧ s.files.tmp m.filename = false) →
    ∃ dev, InUse n dev s ∧ ∀ m, disallows n m = some dev → s.files.tmp m.filename = false

theorem ne_pni_wifi (h : disallows n m = some dev) : m ≠ .pni_wifi := by
  rintro rfl
  cases h

theorem note_marker (hc : ¬c.touches m) (s : Asked) :
    (s.note c).files.tmp m.filename = s.files.tmp m.filename ∧
      (s.note c).files.persistent m.filename = s.files.persistent m.filename := by
  cases c with
  | rmTmp filename => exact ⟨Function.update_of_ne (fun h => hc h.symm) _ _, rfl⟩
  | touchTmp filename => exact ⟨Function.update_of_ne (fun h => hc h.symm) _ _, rfl⟩
  | rmPersistent filename => exact ⟨rfl, Function.update_of_ne (fun h => hc h.symm) _ _⟩
  | ipAddrFlush family d =>
    rw [Asked.note]
    split
    · exact ⟨rfl, rfl⟩
    · exact ⟨rfl, rfl⟩
  | _ => exact ⟨rfl, rfl⟩

theorem foldl_note_marker {cs : List Command} (hcs : ∀ c ∈ cs, ¬c.touches m) (s : Asked) :
    (cs.foldl Asked.note s).files.tmp m.filename = s.files.tmp m.filename := by
  induction cs generalizing s with
  | nil => rfl
  | cons c cs ih =>
    rw [List.foldl_cons, ih (fun d hd => hcs d (List.mem_cons_of_mem c hd))]
    exact (note_marker (hcs c List.mem_cons_self) s).1

theorem choice_allowed {files : Iface.Files} (hdev : dev ∈ choice n e files tests)
    (hnot : (files.tmp Iface.Marker.ethernet_disallowed.filename &&
      files.tmp Iface.Marker.wifi_disallowed.filename) = false) (m : Iface.Marker)
    (hm : disallows n m = some dev) : files.tmp m.filename = false := by
  rw [choice] at hdev
  split at hdev
  · rename_i hwifi
    rw [hwifi, Bool.and_true] at hnot
    cases hdev
    cases m with
    | ethernet_disallowed => exact hnot
    | wifi_disallowed => exact absurd (Option.some.inj hm).symm n.distinct
    | pni_wifi => cases hm
  · rename_i hwifi
    rw [Bool.not_eq_true] at hwifi
    split at hdev
    · cases hdev
      cases m with
      | ethernet_disallowed => exact absurd (Option.some.inj hm) n.distinct
      | wifi_disallowed => exact hwifi
      | pni_wifi => cases hm
    · rename_i hethernet
      rw [Bool.not_eq_true] at hethernet
      cases m with
      | ethernet_disallowed => exact hethernet
      | wifi_disallowed => exact hwifi
      | pni_wifi => cases hm

/-- A run of the controller that ends has set down what is disallowed, and put one interface into
use. -/
theorem controller_settled (n : Names) (e : Setup) (sh : Shell) (s : Asked)
    (hends : (controller n e s.files sh).2.isSome = true) :
    Down n ((controller n e s.files sh).1.foldl Asked.note s) ∧
      Served n ((controller n e s.files sh).1.foldl Asked.note s) := by
  obtain ⟨hwifi, hethernet, huse⟩ := (controller_outcome n e s.files sh s).2 hends
  have hmarker {m dev} (hm : disallows n m = some dev) :
      ((controller n e s.files sh).1.foldl Asked.note s).files.tmp m.filename =
        s.files.tmp m.filename :=
    foldl_note_marker (controller_touches n e s.files (ne_pni_wifi hm) sh) s
  apply And.intro
  · intro m dev hm hmarked
    rw [hmarker hm] at hmarked
    cases m with
    | ethernet_disallowed =>
      cases hm
      exact hethernet hmarked
    | wifi_disallowed =>
      cases hm
      exact (hwifi hmarked).1
    | pni_wifi => cases hm
  · intro h
    obtain ⟨m, dev, hm, hallowed⟩ := h
    rw [hmarker hm] at hallowed
    have hnot : (s.files.tmp Iface.Marker.ethernet_disallowed.filename &&
        s.files.tmp Iface.Marker.wifi_disallowed.filename) = false := by
      cases m with
      | ethernet_disallowed => rw [hallowed, Bool.false_and]
      | wifi_disallowed => rw [hallowed, Bool.and_false]
      | pni_wifi => cases hm
    obtain ⟨used, hchoice, hused, _⟩ := huse hnot
    refine ⟨used, hused, fun m' hm' => ?_⟩
    rw [hmarker hm']
    exact choice_allowed hchoice hnot m' hm'

/-- The same files, and the same asked for the links. -/
def SameLinks (s t : Asked) : Prop := s.files = t.files ∧ s.link = t.link

theorem SameLinks.note (h : SameLinks s t) (c : Command) : SameLinks (s.note c) (t.note c) := by
  obtain ⟨hfiles, hlink⟩ := h
  cases c with
  | ipAddrFlush family d =>
    simp only [Asked.note]
    split
    · exact ⟨hfiles, hlink⟩
    · exact ⟨hfiles, hlink⟩
  | _ => simp only [Asked.note, SameLinks, hfiles, hlink, and_self]

theorem SameLinks.foldl (h : SameLinks s t) (cs : List Command) :
    SameLinks (cs.foldl Asked.note s) (cs.foldl Asked.note t) := by
  induction cs generalizing s t with
  | nil => exact h
  | cons c cs ih => exact ih (h.note c)

theorem SameLinks.down (h : SameLinks s t) (hdown : Down n t) : Down n s := by
  intro m dev hm hmarked
  rw [h.2]
  rw [h.1] at hmarked
  exact hdown m dev hm hmarked

theorem note_sameLinks (hc : c ∈ ipv4DeconfigureInterface n e dev) (s : Asked) :
    SameLinks (s.note c) s := by
  simp only [ipv4DeconfigureInterface, ipv4DeconfigureDhcpip, flushRoutesAndAddresses,
    List.mem_append, List.mem_cons, List.not_mem_nil, or_false] at hc
  rcases hc with rfl | rfl | rfl | rfl
  · exact ⟨rfl, rfl⟩
  · exact ⟨rfl, rfl⟩
  · exact ⟨rfl, rfl⟩
  · exact ⟨rfl, rfl⟩

theorem note_wifiEnabled (s : Asked) (enable : Bool) (c : Command) :
    ∃ b, { s with wifiEnabled := enable }.note c = { s.note c with wifiEnabled := b } := by
  cases c with
  | ipAddrFlush family d =>
    simp only [Asked.note]
    split
    · exact ⟨enable, rfl⟩
    · exact ⟨enable, rfl⟩
  | wiFiInterfaceStateEvent state => exact ⟨state, rfl⟩
  | _ => exact ⟨enable, rfl⟩

theorem foldl_note_wifiEnabled (s : Asked) (enable : Bool) (cs : List Command) :
    ∃ b, cs.foldl Asked.note { s with wifiEnabled := enable } =
      { cs.foldl Asked.note s with wifiEnabled := b } := by
  induction cs generalizing s enable with
  | nil => exact ⟨enable, rfl⟩
  | cons c cs ih =>
    obtain ⟨b, hb⟩ := note_wifiEnabled s enable c
    rw [List.foldl_cons, List.foldl_cons, hb]
    exact ih (s.note c) b

theorem Served.wifiEnabled (h : Served n s) (b : Bool) :
    Served n { s with wifiEnabled := b } := by
  intro hallowed
  obtain ⟨dev, huse, hdev⟩ := h hallowed
  exact ⟨dev, ⟨huse.up, huse.configured, huse.ipv6, huse.otherIdle, huse.otherIpv6, huse.marker⟩,
    hdev⟩

/-- The commands of a run that ends will come to what the markers ask; a reconfiguration in
progress may take the configuration away, but starts another run then. -/
structure Steady (n : Names) (w : World) : Prop where
  reconfigures : ∀ commands ∈ w.reconfiguring,
    ∃ e dev, commands <:+ ipv4ReconfigureInterface n e dev
  touches : ∀ m dev, disallows n m = some dev → ∀ c ∈ w.pending, ¬c.touches m
  down : ∀ r, w.controller = some r → r.ends = true → Down n (r.commands.foldl Asked.note w.asked)
  served : ∀ r, w.controller = some r → r.ends = true →
    (∀ commands ∈ w.reconfiguring, commands = []) → Served n (r.commands.foldl Asked.note w.asked)

theorem Steady.launch (hreconfigures : ∀ commands ∈ w.reconfiguring,
      ∃ e dev, commands <:+ ipv4ReconfigureInterface n e dev) (e : Setup) (sh : Shell) :
    Steady n (w.launch n e sh) where
  reconfigures := hreconfigures
  touches := fun m dev hm c hc =>
    controller_touches n e w.asked.files (ne_pni_wifi hm) sh c hc
  down := by
    rintro r ⟨⟩ hends
    exact (controller_settled n e sh w.asked hends).1
  served := by
    rintro r ⟨⟩ hends _
    exact (controller_settled n e sh w.asked hends).2

theorem Steady.boot (n : Names) (files : Iface.Files) : Steady n (World.boot files) where
  reconfigures := fun _ h => absurd h List.not_mem_nil
  touches := fun _ _ _ _ h => absurd h List.not_mem_nil
  down := by rintro r ⟨⟩
  served := by rintro r ⟨⟩

theorem Steady.step (disablePni : Bool) (hw : Steady n w) (h : Happening) :
    Steady n (w.step disablePni n h) := by
  cases h with
  | call event e sh =>
    by_cases hevent : event = .reboot
    · subst hevent
      exact Steady.boot n _
    · rw [step_call disablePni n w hevent]
      rcases call_cases disablePni n w hevent e sh with ⟨hsame, _⟩ | hlaunch
      · rw [hsame]
        exact hw
      · rw [hlaunch]
        apply Steady.launch
        exact hw.reconfigures
  | setEnabled enable =>
    refine ⟨hw.reconfigures, hw.touches, fun r hr hends => ?_, fun r hr hends hnone => ?_⟩
    · have hsame : SameLinks { w.asked with wifiEnabled := enable } w.asked := ⟨rfl, rfl⟩
      exact (hsame.foldl r.commands).down (hw.down r hr hends)
    · obtain ⟨b, hb⟩ := foldl_note_wifiEnabled w.asked enable r.commands
      have hserved := (hw.served r hr hends hnone).wifiEnabled b
      rw [← hb] at hserved
      exact hserved
  | launch e sh => exact Steady.launch hw.reconfigures e sh
  | command =>
    obtain ⟨asked, controller, reconfiguring⟩ := w
    rcases controller with _ | ⟨_ | ⟨c, commands⟩, ends⟩
    · exact hw
    · exact hw
    · refine ⟨hw.reconfigures, fun m dev hm d hd => ?_, ?_, ?_⟩
      · exact hw.touches m dev hm d (List.mem_cons_of_mem c hd)
      · rintro r ⟨⟩ hends
        exact hw.down ⟨c :: commands, ends⟩ rfl hends
      · rintro r ⟨⟩ hends hnone
        exact hw.served ⟨c :: commands, ends⟩ rfl hends hnone
  | reconfigure e dev =>
    refine ⟨fun commands hmem => ?_, hw.touches, hw.down, fun r hr hends hnone => ?_⟩
    · rcases List.mem_append.1 hmem with hmem | hmem
      · exact hw.reconfigures commands hmem
      · cases List.mem_singleton.1 hmem
        exact ⟨e, dev, List.suffix_rfl⟩
    · have hnil := hnone _ (List.mem_append_right _ List.mem_cons_self)
      cases hnil
  | reconfigureCommand i e sh =>
    rw [World.step]
    split
    · rename_i c commands hget
      obtain ⟨e', dev, hsuffix⟩ := hw.reconfigures _ (List.mem_of_getElem? hget)
      have hreconfigures : ∀ p ∈ w.reconfiguring.set i commands,
          ∃ e dev, p <:+ ipv4ReconfigureInterface n e dev := by
        intro p hp
        rcases List.mem_or_eq_of_mem_set hp with hp | rfl
        · exact hw.reconfigures p hp
        · exact ⟨e', dev, (List.suffix_cons c p).trans hsuffix⟩
      rcases suffix_cases hsuffix with ⟨hmem, hne, hmore⟩ | ⟨rfl, _⟩
      · dsimp only
        rw [if_neg hne]
        refine ⟨hreconfigures, hw.touches, fun r hr hends => ?_, fun r hr hends hnone => ?_⟩
        · exact ((note_sameLinks hmem w.asked).foldl r.commands).down (hw.down r hr hends)
        · -- the reconfiguration has commands left
          obtain ⟨hi, _⟩ := List.getElem?_eq_some_iff.1 hget
          exact absurd (hnone commands (List.mem_set hi commands)) hmore
      · dsimp only
        rw [if_pos rfl]
        exact Steady.launch hreconfigures e sh
    · exact hw

/-- Two sets of markers that agree on one of them. -/
def SameAt (m : Iface.Marker) (s t : Store Iface.Marker) : Prop :=
  s.volatile m = t.volatile m ∧ s.persistent m = t.persistent m

theorem SameAt.apply (h : SameAt m s t) (op : Op Iface.Marker) :
    SameAt m (s.apply op) (t.apply op) := by
  cases op with
  | reboot => exact ⟨h.2, h.2⟩
  | ask k present persist =>
    refine ⟨?_, (Store.apply_persistent s _ m).trans
      ((congrArg _ h.2).trans (Store.apply_persistent t _ m).symm)⟩
    rw [Store.apply_volatile s _ rfl, Store.apply_volatile t _ rfl, h.1]

theorem SameAt.foldl (h : SameAt m s t) (ops : List (Op Iface.Marker)) :
    SameAt m (ops.foldl Store.apply s) (ops.foldl Store.apply t) := by
  induction ops generalizing s t with
  | nil => exact h
  | cons op ops ih => exact ih (h.apply op)

end

end NetSrvMgr.Pni
