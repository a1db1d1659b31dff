import NetSrvMgr.DefaultInterface
import NetSrvMgr.LastWrite

namespace NetSrvMgr.Ip
open CString Inet LastWrite
set_option autoImplicit true

/-- What a message of a link tells. -/
def linkEvent (tokens : List CStr) : Option IfaceEvent :=
  let interface := ifaceName (tokens.getD 0 [])
  let change := tokens.getD 1 []
  if change = "up".toList then some (.enabledStatus interface true)
  else if change = "down".toList then some (.enabledStatus interface false)
  else if change = "add".toList then some (.connectionStatus interface true)
  else if change = "delete".toList then some (.connectionStatus interface false)
  else none

def addressEvent (tokens : List CStr) : Option IfaceEvent :=
  let family := tokens.getD 1 []
  let address := tokens.getD 3 []
  if tokens.getD 4 [] ≠ "global".toList then none
  else if !(decide (family = "ipv4".toList) && isIPv4AddressScopeDocumentation address) then
    some (.ipAddress (ifaceName (tokens.getD 2 [])) (ipText address)
      (decide (family = "ipv6".toList)) (decide (tokens.getD 0 [] = "add".toList)))
  else none

/-- The event that a message leads to, changes of the default interface aside. -/
def NlMessage.event (m : NlMessage) : Option IfaceEvent :=
  let tokens := getlineTokens ' ' m.args
  match m.type with
  | .link => if 2 ≤ tokens.length then linkEvent tokens else none
  | .address => if 5 ≤ tokens.length then addressEvent tokens else none
  | .dfltroute => none

def IfaceEvent.isDefault (e : IfaceEvent) : Bool := e.default?.isSome

/-- What is broadcast beside changes of the default interface. -/
def Monitor.told (s : Monitor) : List IfaceEvent := s.events.filter fun e => !e.isDefault

theorem Monitor.told_broadcast (s : Monitor) (h : e.isDefault = false) :
    (s.broadcast e).told = s.told ++ [e] := by
  rw [told, told, broadcast, List.filter_append, List.filter_cons_of_pos (by rw [h]; rfl),
    List.filter_nil]

theorem detect_told (nl : NetLink) (s : Monitor) :
    (detectDefaultInterfaceChange nl s).told = s.told := by
  rw [detectDefaultInterfaceChange]
  dsimp only
  split
  · rw [eventDefaultInterfaceChanged, Monitor.told, Monitor.broadcast, List.filter_append,
      List.filter_cons_of_neg (by simp [IfaceEvent.isDefault, IfaceEvent.default?])]
    exact List.append_nil _
  · rfl

theorem linkCallback_told (nl : NetLink) (args : CStr) (s : Monitor) :
    (linkCallback nl args s).told =
      s.told ++ (NlMessage.event ⟨.link, args, nl⟩).toList := by
  rw [linkCallback, split_eq, NlMessage.event]
  dsimp only
  by_cases hlen : 2 ≤ (getlineTokens ' ' args).length
  · rw [if_pos hlen, if_pos hlen, linkEvent]
    dsimp only
    split
    · exact s.told_broadcast rfl
    · split
      · rw [detect_told]
        exact s.told_broadcast rfl
      · split
        · exact s.told_broadcast rfl
        · split
          · exact s.told_broadcast rfl
          · exact (List.append_nil _).symm
  · rw [if_neg hlen, if_neg hlen]
    exact (List.append_nil _).symm

theorem addressCallback_told (nl : NetLink) (args : CStr) (s : Monitor) :
    (addressCallback nl args s).told =
      s.told ++ (NlMessage.event ⟨.address, args, nl⟩).toList := by
  have hdetect : ∀ (p : Prop) [Decidable p] (t : Monitor),
      (if p then detectDefaultInterfaceChange nl t else t).told = t.told := by
    intro p _ t
    split
    · exact detect_told nl t
    · rfl
  rw [addressCallback, split_eq, NlMessage.event]
  dsimp only
  by_cases hlen : 5 ≤ (getlineTokens ' ' args).length
  · rw [if_pos hlen, if_pos hlen, addressEvent]
    dsimp only
    split
    · exact (List.append_nil _).symm
    · rw [hdetect]
      split
      · exact s.told_broadcast rfl
      · exact (List.append_nil _).symm
  · rw [if_neg hlen, if_neg hlen]
    exact (List.append_nil _).symm

theorem deliver_told (s : Monitor) (m : NlMessage) :
    (deliver s m).told = s.told ++ m.event.toList := by
  obtain ⟨type, args, nl⟩ := m
  cases type with
  | link => exact linkCallback_told nl args s
  | address => exact addressCallback_told nl args s
  | dfltroute =>
    rw [deliver, defaultRouteCallback]
    dsimp only
    split
    · exact (List.append_nil _).symm
    · rw [detect_told]
      exact (List.append_nil _).symm

theorem deliverAll_told (messages : List NlMessage) :
    (deliverAll messages).told = messages.filterMap NlMessage.event := by
  induction messages using List.reverseRecOn with
  | nil => rfl
  | append_singleton messages m ih =>
    rw [deliverAll, List.foldl_append, List.foldl_cons, List.foldl_nil, ← deliverAll,
      deliver_told, ih, List.filterMap_append, List.filterMap_cons, List.filterMap_nil]
    cases m.event <;> rfl

/-- The name of an interface in a message. -/
structure IfaceWord where
  name : IfaceName
  noBlank : ' ' ∉ name.str

structure AddressWord where
  address : CharArray 46
  noBlank : ' ' ∉ address.str

structure Word where
  text : CStr
  noBlank : ' ' ∉ text

inductive LinkChange
  | up
  | down
  | add
  | delete
  deriving DecidableEq

/-- A change that netlink reports. -/
inductive KernelChange
  | link (interface : IfaceWord) (change : LinkChange)
  | address (added is_ipv6 : Bool) (interface : IfaceWord) (ip_address : AddressWord)
      (wide : Bool)
  | defaultRoute (family interface destinationip gatewayip preferred_src metric : Word)
      (added : Bool)

namespace KernelChange

def addOrDelete (added : Bool) : CStr := if added then "add".toList else "delete".toList

def words : KernelChange → List CStr
  | link interface change =>
    [interface.name.str, match change with
      | .up => "up".toList
      | .down => "down".toList
      | .add => "add".toList
      | .delete => "delete".toList]
  | address added is_ipv6 interface ip_address wide =>
    [addOrDelete added, if is_ipv6 then "ipv6".toList else "ipv4".toList, interface.name.str,
      ip_address.address.str, if wide then "global".toList else "local".toList]
  | defaultRoute family interface destinationip gatewayip preferred_src metric added =>
    [family.text, interface.text, destinationip.text, gatewayip.text, preferred_src.text,
      metric.text, addOrDelete added]

/-- The message that tells a change, and what is found then. -/
def message (c : KernelChange) (nl : NetLink) : NlMessage where
  type := match c with
    | link .. => .link
    | address .. => .address
    | defaultRoute .. => .dfltroute
  args := [' '].intercalate c.words
  netlink := nl

/-- What the subscribers of the bus are told of a change; addresses for documentation and those
that are not global are kept from them. -/
def event : KernelChange → Option IfaceEvent
  | link interface .up => some (.enabledStatus interface.name true)
  | link interface .down => some (.enabledStatus interface.name false)
  | link interface .add => some (.connectionStatus interface.name true)
  | link interface .delete => some (.connectionStatus interface.name false)
  | address added is_ipv6 interface ip_address wide =>
    if wide && (is_ipv6 || !isIPv4AddressScopeDocumentation ip_address.address.str) then
      some (.ipAddress interface.name ip_address.address is_ipv6 added)
    else none
  | defaultRoute .. => none

theorem words_plain (c : KernelChange) : ∀ word ∈ c.words, ' ' ∉ word := by
  have hadd : ∀ added, ' ' ∉ addOrDelete added := by decide
  cases c with
  | link interface change =>
    intro word hword
    simp only [words, List.mem_cons, List.not_mem_nil, or_false] at hword
    rcases hword with rfl | rfl
    · exact interface.noBlank
    · cases change <;> decide
  | address added is_ipv6 interface ip_address wide =>
    intro word hword
    simp only [words, List.mem_cons, List.not_mem_nil, or_false] at hword
    rcases hword with rfl | rfl | rfl | rfl | rfl
    · exact hadd added
    · cases is_ipv6 <;> decide
    · exact interface.noBlank
    · exact ip_address.noBlank
    · cases wide <;> decide
  | defaultRoute family interface destinationip gatewayip preferred_src metric added =>
    intro word hword
    simp only [words, List.mem_cons, List.not_mem_nil, or_false] at hword
    rcases hword with rfl | rfl | rfl | rfl | rfl | rfl | rfl
    · exact family.noBlank
    · exact interface.noBlank
    · exact destinationip.noBlank
    · exact gatewayip.noBlank
    · exact preferred_src.noBlank
    · exact metric.noBlank
    · exact hadd added

theorem words_getLast (c : KernelChange) : c.words.getLast? ≠ some [] := by
  cases c with
  | link interface change => cases change <;> simp [words]
  | address added is_ipv6 interface ip_address wide => cases wide <;> simp [words]
  | defaultRoute _ _ _ _ _ _ added => cases added <;> simp [words, addOrDelete]

theorem words_ne_nil (c : KernelChange) : c.words ≠ [] := by
  cases c <;> exact List.cons_ne_nil _ _

theorem tokens_message (c : KernelChange) (nl : NetLink) :
    getlineTokens ' ' (c.message nl).args = c.words := by
  have hsplit : (c.message nl).args.splitOn ' ' = c.words :=
    List.splitOn_intercalate ' ' c.words_plain c.words_ne_nil
  rw [getlineTokens, hsplit]
  exact if_neg c.words_getLast

theorem message_event (c : KernelChange) (nl : NetLink) : (c.message nl).event = c.event := by
  have hname : ∀ name : IfaceName, ifaceName name.str = name :=
    CharArray.snprintf_str (Nat.succ_pos 15)
  rw [NlMessage.event, tokens_message]
  cases c with
  | link interface change =>
    cases change <;> simp [message, words, linkEvent, event, hname]
  | address added is_ipv6 interface ip_address wide =>
    have hip : ipText ip_address.address.str = ip_address.address :=
      CharArray.snprintf_str (Nat.succ_pos 45) _
    cases wide <;> cases is_ipv6 <;> cases added <;>
      simp [message, words, addressEvent, event, addOrDelete, hname, hip]
  | defaultRoute => rfl

end KernelChange

/-- Of every change of a link and of a global address the subscribers are told, in the order in
which they happen, and of nothing else but the default interface. -/
theorem subscribers_told (history : List (KernelChange × NetLink)) :
    (deliverAll (history.map fun h => h.1.message h.2)).told =
      history.filterMap fun h => h.1.event := by
  rw [deliverAll_told, List.filterMap_map]
  congr 1
  funext h
  exact h.1.message_event h.2

/-- `getDhcpServerIP`, for what the file holds: the result and the global `gDhcpServerIP`. -/
def getDhcpServerIP (contents : Option CStr) (gDhcpServerIP : CStr) : Bool × CStr :=
  match contents with
  | none => (false, gDhcpServerIP)
  | some file =>
    let line := file.takeWhile (· ≠ '\n')
    if (inetPton4 (cstr line)).isSome then (true, line) else (false, gDhcpServerIP)

def IfaceEvent.isIpv4Address : IfaceEvent → Bool
  | .ipAddress _ _ is_ipv6 _ => !is_ipv6
  | _ => false

/-- The monitor, and the DHCP server that is looked up after each event of an IPv4 address. -/
structure DhcpMonitor where
  monitor : Monitor
  gDhcpServerIP : CStr

def DhcpMonitor.init : DhcpMonitor := ⟨.init, []⟩

/-- A message, and what the file of the DHCP client holds then. -/
def DhcpMonitor.deliver (s : DhcpMonitor) (m : NlMessage × Option CStr) : DhcpMonitor :=
  let monitor := Ip.deliver s.monitor m.1
  let broadcast := monitor.events.drop s.monitor.events.length
  ⟨monitor, if broadcast.any IfaceEvent.isIpv4Address then (getDhcpServerIP m.2 s.gDhcpServerIP).2
    else s.gDhcpServerIP⟩

/-- The valid address that the file of the DHCP client gives when a message tells of an IPv4
address. -/
def serverTold (m : NlMessage × Option CStr) : Option CStr :=
  if m.1.event.any IfaceEvent.isIpv4Address then
    (m.2.map fun file => file.takeWhile (· ≠ '\n')).filter fun line =>
      (inetPton4 (cstr line)).isSome
  else none

theorem Quiet.events_extend (h : Quiet s t) : s.events <+: t.events := by
  rcases h with rfl | ⟨e, _, rfl⟩
  · exact List.prefix_rfl
  · exact List.prefix_append s.events [e]

theorem detect_events_extend (nl : NetLink) (s : Monitor) :
    s.events <+: (detectDefaultInterfaceChange nl s).events := by
  rw [detectDefaultInterfaceChange]
  dsimp only
  split
  · exact List.prefix_append s.events _
  · exact List.prefix_rfl

theorem deliver_events_extend (s : Monitor) (m : NlMessage) :
    s.events <+: (deliver s m).events := by
  obtain ⟨t, ht, hdeliver⟩ := deliver_spec s m
  rw [hdeliver]
  split
  · exact ht.events_extend.trans (detect_events_extend m.netlink t)
  · exact ht.events_extend

/-- Whether an event of an IPv4 address is broadcast depends on the message only. -/
theorem deliver_any_ipv4 (s : Monitor) (m : NlMessage) :
    ((deliver s m).events.drop s.events.length).any IfaceEvent.isIpv4Address =
      m.event.any IfaceEvent.isIpv4Address := by
  obtain ⟨new, hnew⟩ := deliver_events_extend s m
  have htold := deliver_told s m
  rw [Monitor.told, ← hnew, List.filter_append, ← Monitor.told] at htold
  have hfilter := List.append_cancel_left htold
  have hany : ∀ events : List IfaceEvent, events.any IfaceEvent.isIpv4Address =
      (events.filter fun e => !e.isDefault).any IfaceEvent.isIpv4Address := by
    intro events
    rw [List.any_filter]
    congr 1
    funext e
    cases e <;> rfl
  rw [← hnew, List.drop_left, hany, hfilter]
  cases m.event with
  | none => rfl
  | some e => exact Bool.or_false _

theorem getDhcpServerIP_eq (contents : Option CStr) (gDhcpServerIP : CStr) :
    (getDhcpServerIP contents gDhcpServerIP).2 =
      ((contents.map fun file => file.takeWhile (· ≠ '\n')).filter fun line =>
        (inetPton4 (cstr line)).isSome).getD gDhcpServerIP := by
  cases contents with
  | none => rfl
  | some file =>
    rw [getDhcpServerIP, Option.map_some, Option.filter_some]
    split <;> rfl

/-- Whatever is delivered, the DHCP server is the valid address that was found with the last event
of an IPv4 address that found one. -/
theorem dhcp_server_last (messages : List (NlMessage × Option CStr)) :
    (messages.foldl DhcpMonitor.deliver .init).gDhcpServerIP =
      lastWrite serverTold messages [] := by
  apply foldl_eq_lastWrite DhcpMonitor.gDhcpServerIP
  intro s m
  rw [DhcpMonitor.deliver]
  dsimp only
  rw [deliver_any_ipv4, serverTold, getDhcpServerIP_eq]
  split <;> rfl

end NetSrvMgr.Ip
