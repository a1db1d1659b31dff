import NetSrvMgr.IfaceAddress
import Mathlib.Data.List.Chain

namespace NetSrvMgr.Ip
open CString
set_option autoImplicit true

/-- The tokens that `getline` reads: a delimiter at the end of the text ends the last of them. -/
def getlineTokens (delimiter : Char) (str : CStr) : List CStr :=
  let parts := str.splitOn delimiter
  if parts.getLast? = some [] then parts.dropLast else parts

/-- `none` where there are fewer tokens than expected. -/
def split (str : CStr) (delimiter : Char) (min_expected_tokens : Nat) : Option (List CStr) :=
  let tokens := getlineTokens delimiter str
  if 0 < min_expected_tokens ∧ tokens.length < min_expected_tokens then none else some tokens

abbrev IfaceName := CharArray 16

def ifaceName (interface : CStr) : IfaceName :=
  have hsize : 0 < 16 := Nat.succ_pos 15
  .snprintf hsize interface

def ipText (ip_address : CStr) : CharArray 46 :=
  have hsize : 0 < 46 := Nat.succ_pos 45
  .snprintf hsize ip_address

/-- The system while one message is handled: the interface of the default route of each family
(IPv6 or not) when it is looked up, and what `NetLinkIfc::getDefaultRoute` returns and leaves in
its two reference arguments. -/
structure NetLink where
  route : Bool → Option IfaceName
  getDefaultRoute : Bool → CStr → CStr → Bool × CStr × CStr
  found : ∀ is_ipv6 interface gateway,
    (getDefaultRoute is_ipv6 interface gateway).1 = (route is_ipv6).isSome
  sets : ∀ is_ipv6 interface gateway name, route is_ipv6 = some name →
    (getDefaultRoute is_ipv6 interface gateway).2.1 = name.str

structure DefaultInterfaceEvent where
  oldInterface : IfaceName
  newInterface : IfaceName
  deriving DecidableEq

/-- What is handed to `IARM_Bus_BroadcastEvent`. -/
inductive IfaceEvent
  | enabledStatus (interface : IfaceName) (status : Bool)
  | connectionStatus (interface : IfaceName) (status : Bool)
  | ipAddress (interface : IfaceName) (ip_address : CharArray 46) (is_ipv6 acquired : Bool)
  | defaultInterface (e : DefaultInterfaceEvent)
  deriving DecidableEq

/-- The static `default_interface` and the events broadcast so far. -/
structure Monitor where
  default_interface : CStr
  events : List IfaceEvent
  deriving DecidableEq

def Monitor.init : Monitor := ⟨[], []⟩

def Monitor.broadcast (s : Monitor) (e : IfaceEvent) : Monitor :=
  { s with events := s.events ++ [e] }

/-- The result, the interface and the gateway. -/
def getDefaultInterface (nl : NetLink) (interface gateway : CStr) : Bool × CStr × CStr :=
  let r := nl.getDefaultRoute true interface gateway
  if r.1 then r
  else
    let r := nl.getDefaultRoute false r.2.1 r.2.2
    if r.1 then r else (false, [], [])

def eventDefaultInterfaceChanged (oldInterface newInterface : CStr) (s : Monitor) : Monitor :=
  s.broadcast (.defaultInterface ⟨ifaceName oldInterface, ifaceName newInterface⟩)

def detectDefaultInterfaceChange (nl : NetLink) (s : Monitor) : Monitor :=
  let old_default_interface := s.default_interface
  let s := { s with default_interface := (getDefaultInterface nl s.default_interface []).2.1 }
  if old_default_interface ≠ s.default_interface then
    eventDefaultInterfaceChanged old_default_interface s.default_interface s
  else s

def linkCallback (nl : NetLink) (args : CStr) (s : Monitor) : Monitor :=
  match split args ' ' 2 with
  | none => s
  | some tokens =>
    let interface := ifaceName (tokens.getD 0 [])
    let change := tokens.getD 1 []
    if change = "up".toList then s.broadcast (.enabledStatus interface true)
    else if change = "down".toList then
      detectDefaultInterfaceChange nl (s.broadcast (.enabledStatus interface false))
    else if change = "add".toList then s.broadcast (.connectionStatus interface true)
    else if change = "delete".toList then s.broadcast (.connectionStatus interface false)
    else s

def addressCallback (nl : NetLink) (args : CStr) (s : Monitor) : Monitor :=
  match split args ' ' 5 with
  | none => s
  | some tokens =>
    let change := tokens.getD 0 []
    let family := tokens.getD 1 []
    let interface := tokens.getD 2 []
    let address := tokens.getD 3 []
    if tokens.getD 4 [] ≠ "global".toList then s
    else
      let s :=
        if !(decide (family = "ipv4".toList) && isIPv4AddressScopeDocumentation address) then
          s.broadcast (.ipAddress (ifaceName interface) (ipText address)
            (decide (family = "ipv6".toList)) (decide (change = "add".toList)))
        else s
      if ':' ∈ interface ∧ change = "delete".toList then detectDefaultInterfaceChange nl s else s

def defaultRouteCallback (nl : NetLink) (args : CStr) (s : Monitor) : Monitor :=
  match split args ' ' 7 with
  | none => s
  | some _ => detectDefaultInterfaceChange nl s

inductive NlType
  | link
  | address
  | dfltroute
  deriving DecidableEq

/-- A message to a subscriber, and the system it finds. -/
structure NlMessage where
  type : NlType
  args : CStr
  netlink : NetLink

def deliver (s : Monitor) (m : NlMessage) : Monitor :=
  match m.type with
  | .link => linkCallback m.netlink m.args s
  | .address => addressCallback m.netlink m.args s
  | .dfltroute => defaultRouteCallback m.netlink m.args s

def deliverAll (messages : List NlMessage) : Monitor := messages.foldl deliver .init

/-- A link that goes down, a global address deleted from a virtual interface, or a change of a
default route. -/
def NlMessage.triggersDetection (m : NlMessage) : Bool :=
  let tokens := getlineTokens ' ' m.args
  match m.type with
  | .link => 2 ≤ tokens.length && tokens.getD 1 [] = "down".toList
  | .address =>
    5 ≤ tokens.length && tokens.getD 4 [] = "global".toList && ':' ∈ tokens.getD 2 [] &&
      tokens.getD 0 [] = "delete".toList
  | .dfltroute => 7 ≤ tokens.length

/-- The interface of the IPv6 default route, or else of the IPv4 default route. -/
def NetLink.defaultInterface (nl : NetLink) : CStr :=
  match (nl.route true).or (nl.route false) with
  | some name => name.str
  | none => []

def IfaceEvent.default? : IfaceEvent → Option DefaultInterfaceEvent
  | .defaultInterface e => some e
  | _ => none

/-- The events of a subscriber to changes of the default interface. -/
def Monitor.defaultEvents (s : Monitor) : List DefaultInterfaceEvent :=
  s.events.filterMap IfaceEvent.default?

/-- The interface that the last event names as the new one. -/
def newest (events : List DefaultInterfaceEvent) : CStr :=
  (events.getLast?.map fun e => e.newInterface.str).getD []

structure EventChain (events : List DefaultInterfaceEvent) : Prop where
  first : ∀ e, events.head? = some e → e.oldInterface.str = []
  linked : events.IsChain fun d e => e.oldInterface = d.newInterface
  differ : ∀ e ∈ events, e.oldInterface ≠ e.newInterface

/-- The system where a failed lookup leaves its arguments as they are. -/
def NetLink.ofRoute (route : Bool → Option IfaceName) : NetLink where
  route := route
  getDefaultRoute is_ipv6 interface gateway :=
    match route is_ipv6 with
    | some name => (true, name.str, [])
    | none => (false, interface, gateway)
  found is_ipv6 interface gateway := by
    cases route is_ipv6 <;> rfl
  sets is_ipv6 interface gateway name h := by
    rw [h]

theorem ifaceName_str (h : s.length < 16) : (ifaceName s).str = s :=
  List.take_of_length_le (by omega)

theorem eq_of_str {a b : CharArray size} (h : a.str = b.str) : a = b := by
  cases a
  cases b
  cases h
  rfl

theorem newest_length (events : List DefaultInterfaceEvent) : (newest events).length < 16 := by
  rw [newest]
  cases events.getLast? with
  | none => decide
  | some e => exact e.newInterface.fits

theorem newest_concat (events : List DefaultInterfaceEvent) (e : DefaultInterfaceEvent) :
    newest (events ++ [e]) = e.newInterface.str := by
  rw [newest, List.getLast?_concat]
  rfl

theorem NetLink.defaultInterface_length (nl : NetLink) : nl.defaultInterface.length < 16 := by
  rw [NetLink.defaultInterface]
  cases (nl.route true).or (nl.route false) with
  | none => decide
  | some name => exact name.fits

theorem getDefaultInterface_interface (nl : NetLink) (interface gateway : CStr) :
    (getDefaultInterface nl interface gateway).2.1 = nl.defaultInterface := by
  rw [getDefaultInterface, NetLink.defaultInterface]
  dsimp only
  rw [nl.found, nl.found]
  cases h6 : nl.route true with
  | some name =>
    rw [Option.isSome_some, if_pos rfl, Option.some_or]
    exact nl.sets true interface gateway name h6
  | none =>
    rw [Option.isSome_none, if_neg Bool.false_ne_true, Option.none_or]
    cases h4 : nl.route false with
    | some name =>
      rw [Option.isSome_some, if_pos rfl]
      exact nl.sets false _ _ name h4
    | none => rfl

theorem EventChain.concat (h : EventChain events) (hold : e.oldInterface.str = newest events)
    (hne : e.oldInterface ≠ e.newInterface) : EventChain (events ++ [e]) := by
  constructor
  · intro d hd
    cases events with
    | nil =>
      cases hd
      exact hold
    | cons c events => exact h.first d hd
  · apply List.isChain_append.2
    refine ⟨h.linked, List.isChain_singleton e, ?_⟩
    intro d hd f hf
    cases hf
    rw [newest, hd] at hold
    exact eq_of_str hold
  · intro d hd
    rcases List.mem_append.1 hd with hd | hd
    · exact h.differ d hd
    · rw [List.mem_singleton.1 hd]
      exact hne

/-- The events form a chain that ends at the remembered interface. -/
def Monitor.Inv (s : Monitor) : Prop :=
  EventChain s.defaultEvents ∧ s.default_interface = newest s.defaultEvents

theorem Monitor.init_inv : Monitor.init.Inv := by
  apply And.intro
  · constructor
    · intro e he
      cases he
    · exact List.isChain_nil
    · intro e he
      cases he
  · rfl

theorem Monitor.broadcast_default (s : Monitor) (e : DefaultInterfaceEvent) :
    (s.broadcast (.defaultInterface e)).defaultEvents = s.defaultEvents ++ [e] := by
  rw [Monitor.defaultEvents, Monitor.broadcast, List.filterMap_append]
  rfl

theorem Monitor.broadcast_inv {s : Monitor} {e : IfaceEvent} (hs : s.Inv)
    (he : e.default? = none) : (s.broadcast e).Inv := by
  have hsame : (s.broadcast e).defaultEvents = s.defaultEvents := by
    rw [Monitor.defaultEvents, Monitor.broadcast, List.filterMap_append, List.filterMap_cons, he]
    exact List.append_nil _
  rw [Monitor.Inv, hsame]
  exact hs

theorem detect_inv (nl : NetLink) {s : Monitor} (hs : s.Inv) :
    (detectDefaultInterfaceChange nl s).Inv ∧
      newest (detectDefaultInterfaceChange nl s).defaultEvents = nl.defaultInterface := by
  obtain ⟨hchain, hcur⟩ := hs
  simp only [detectDefaultInterfaceChange, getDefaultInterface_interface]
  by_cases hne : s.default_interface ≠ nl.defaultInterface
  · rw [if_pos hne, eventDefaultInterfaceChanged, Monitor.Inv, Monitor.broadcast_default,
      newest_concat]
    have hold : (ifaceName s.default_interface).str = s.default_interface := by
      rw [hcur]
      exact ifaceName_str (newest_length s.defaultEvents)
    have hnew : (ifaceName nl.defaultInterface).str = nl.defaultInterface :=
      ifaceName_str nl.defaultInterface_length
    refine ⟨⟨hchain.concat (hold.trans hcur) ?_, hnew.symm⟩, hnew⟩
    intro he
    apply hne
    rw [← hold, ← hnew]
    exact congrArg CharArray.str he
  · rw [if_neg hne]
    have he : s.default_interface = nl.defaultInterface := not_not.1 hne
    exact ⟨⟨hchain, he ▸ hcur⟩, he ▸ hcur.symm⟩

theorem split_eq (str : CStr) (n : Nat) :
    split str ' ' (n + 1) =
      if n + 1 ≤ (getlineTokens ' ' str).length then some (getlineTokens ' ' str) else none := by
  rw [split]
  by_cases h : n + 1 ≤ (getlineTokens ' ' str).length
  · rw [if_pos h, if_neg (by omega)]
  · rw [if_neg h, if_pos (by omega)]

/-- Nothing happens but perhaps an event of another kind. -/
def Quiet (s t : Monitor) : Prop := t = s ∨ ∃ e : IfaceEvent, e.default? = none ∧ t = s.broadcast e

theorem Quiet.inv (h : Quiet s t) (hs : s.Inv) : t.Inv := by
  rcases h with rfl | ⟨e, he, rfl⟩
  · exact hs
  · exact Monitor.broadcast_inv hs he

theorem linkCallback_spec (nl : NetLink) (args : CStr) (s : Monitor) :
    ∃ t, Quiet s t ∧ linkCallback nl args s =
      if NlMessage.triggersDetection ⟨.link, args, nl⟩ then detectDefaultInterfaceChange nl t
      else t := by
  rw [linkCallback, split_eq, NlMessage.triggersDetection]
  dsimp only
  by_cases hlen : 2 ≤ (getlineTokens ' ' args).length
  · rw [if_pos hlen, decide_eq_true hlen, Bool.true_and]
    dsimp only
    by_cases hdown : (getlineTokens ' ' args).getD 1 [] = "down".toList
    · rw [decide_eq_true hdown, if_neg (by rw [hdown]; decide), if_pos hdown]
      exact ⟨_, Or.inr ⟨_, rfl, rfl⟩, rfl⟩
    · rw [decide_eq_false hdown, if_neg hdown]
      split
      · exact ⟨_, Or.inr ⟨_, rfl, rfl⟩, rfl⟩
      · split
        · exact ⟨_, Or.inr ⟨_, rfl, rfl⟩, rfl⟩
        · split
          · exact ⟨_, Or.inr ⟨_, rfl, rfl⟩, rfl⟩
          · exact ⟨s, Or.inl rfl, rfl⟩
  · rw [if_neg hlen, decide_eq_false hlen, Bool.false_and]
    exact ⟨s, Or.inl rfl, rfl⟩

theorem addressCallback_spec (nl : NetLink) (args : CStr) (s : Monitor) :
    ∃ t, Quiet s t ∧ addressCallback nl args s =
      if NlMessage.triggersDetection ⟨.address, args, nl⟩ then detectDefaultInterfaceChange nl t
      else t := by
  rw [addressCallback, split_eq, NlMessage.triggersDetection]
  dsimp only
  by_cases hlen : 5 ≤ (getlineTokens ' ' args).length
  · rw [if_pos hlen, decide_eq_true hlen, Bool.true_and]
    dsimp only
    by_cases hglobal : (getlineTokens ' ' args).getD 4 [] = "global".toList
    · rw [if_neg (not_not.2 hglobal), decide_eq_true hglobal, Bool.true_and]
      simp only [← Bool.decide_and, decide_eq_true_eq]
      refine ⟨_, ?_, rfl⟩
      split
      · exact Or.inr ⟨_, rfl, rfl⟩
      · exact Or.inl rfl
    · rw [if_pos hglobal, decide_eq_false hglobal, Bool.false_and, Bool.false_and]
      exact ⟨s, Or.inl rfl, rfl⟩
  · rw [if_neg hlen, decide_eq_false hlen, Bool.false_and, Bool.false_and, Bool.false_and]
    exact ⟨s, Or.inl rfl, rfl⟩

theorem defaultRouteCallback_spec (nl : NetLink) (args : CStr) (s : Monitor) :
    defaultRouteCallback nl args s =
      if NlMessage.triggersDetection ⟨.dfltroute, args, nl⟩ then detectDefaultInterfaceChange nl s
      else s := by
  rw [defaultRouteCallback, split_eq, NlMessage.triggersDetection]
  by_cases hlen : 7 ≤ (getlineTokens ' ' args).length
  · rw [if_pos hlen, if_pos (decide_eq_true hlen)]
  · rw [if_neg hlen, if_neg (by simpa using hlen)]

/-- A message is followed by a detection exactly where it triggers one. -/
theorem deliver_spec (s : Monitor) (m : NlMessage) :
    ∃ t, Quiet s t ∧ deliver s m =
      if m.triggersDetection then detectDefaultInterfaceChange m.netlink t else t := by
  obtain ⟨type, args, nl⟩ := m
  cases type with
  | link => exact linkCallback_spec nl args s
  | address => exact addressCallback_spec nl args s
  | dfltroute => exact ⟨s, Or.inl rfl, defaultRouteCallback_spec nl args s⟩

theorem deliver_inv (m : NlMessage) (hs : s.Inv) : (deliver s m).Inv := by
  obtain ⟨t, ht, he⟩ := deliver_spec s m
  rw [he]
  split
  · exact (detect_inv m.netlink (ht.inv hs)).1
  · exact ht.inv hs

theorem deliverAll_inv (messages : List NlMessage) : (deliverAll messages).Inv := by
  induction messages using List.reverseRecOn with
  | nil => exact Monitor.init_inv
  | append_singleton messages m ih =>
    rw [deliverAll, List.foldl_append]
    exact deliver_inv m ih

/-- The events of the default interface form a chain, and after a message that triggers
detection the last of them names the current default interface. -/
theorem default_interface_events (messages : List NlMessage) :
    EventChain (deliverAll messages).defaultEvents ∧
      ∀ before m, messages = before ++ [m] → m.triggersDetection = true →
        newest (deliverAll messages).defaultEvents = m.netlink.defaultInterface := by
  apply And.intro (deliverAll_inv messages).1
  intro before m he hm
  obtain ⟨t, ht, hdeliver⟩ := deliver_spec (deliverAll before) m
  rw [hm, if_pos rfl] at hdeliver
  rw [he, deliverAll, List.foldl_append, List.foldl_cons, List.foldl_nil, ← deliverAll, hdeliver]
  exact (detect_inv m.netlink (ht.inv (deliverAll_inv before))).2

example :
    (deliverAll [⟨.dfltroute, "2 eth0 default 10.0.0.1 any 1024 add".toList,
        .ofRoute fun _ => some (ifaceName "eth0".toList)⟩,
      ⟨.link, "eth0 down ".toList, .ofRoute fun _ => none⟩]).defaultEvents =
      [⟨ifaceName [], ifaceName "eth0".toList⟩, ⟨ifaceName "eth0".toList, ifaceName []⟩] := by
  decide

end NetSrvMgr.Ip
