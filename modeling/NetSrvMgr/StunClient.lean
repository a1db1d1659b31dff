import NetSrvMgr.StunDecoder
import NetSrvMgr.Transition

namespace NetSrvMgr.Stun
set_option autoImplicit true

inductive Protocol where
  | afInet
  | afInet6
  deriving DecidableEq

structure Server where
  hostname : String
  port : UInt16
  deriving DecidableEq

/-- What a binding exchange is about: the server, the interface and the address family. -/
structure Target where
  server : Server
  interface : String
  protocol : Protocol
  deriving DecidableEq

/-- What `send_binding_request` does in one attempt. -/
inductive Reply where
  | exception
  | noResponse
  | response (m : Message)

def Reply.isException : Reply → Bool
  | .exception => true
  | _ => false

structure Attempt where
  reply : Reply
  /-- The steady clock, in nanoseconds, when an address of this attempt is stored. -/
  storedAt : Int

/-- The arguments of one `bind` call, with the clock and the network it meets. -/
structure BindCall where
  hostname : String
  port : UInt16
  interface : String
  proto : Protocol
  bindTimeout : UInt16
  cacheTimeout : UInt16
  checkedAt : Int
  attempt : Nat → Attempt

def BindCall.target (a : BindCall) : Target := ⟨⟨a.hostname, a.port⟩, a.interface, a.proto⟩

structure Exchange where
  target : Target
  publicIp : String
  storedAt : Int
  deriving DecidableEq

structure Client where
  server : Server
  interface : String
  protocol : Protocol
  bindTimeout : UInt16
  cacheTimeout : UInt16
  lastCacheTime : Int
  lastResult : String
  deriving DecidableEq

def Client.new : Client where
  server := ⟨"", 0⟩
  interface := ""
  protocol := .afInet
  bindTimeout := 30
  cacheTimeout := 30
  lastCacheTime := 0
  lastResult := ""

def Client.target (c : Client) : Target := ⟨c.server, c.interface, c.protocol⟩

def Client.dirty (c : Client) (a : BindCall) : Bool :=
  c.server.hostname ≠ a.hostname || c.server.port ≠ a.port || c.interface ≠ a.interface ||
    c.protocol ≠ a.proto || c.bindTimeout ≠ a.bindTimeout || c.cacheTimeout ≠ a.cacheTimeout

def Client.configure (c : Client) (a : BindCall) : Client :=
  { c with
    server := ⟨a.hostname, a.port⟩
    interface := a.interface
    protocol := a.proto
    bindTimeout := a.bindTimeout
    cacheTimeout := a.cacheTimeout }

/-- The `bind_result` a cached answer would be valid for. -/
def isValid (publicIp : String) : Bool := !publicIp.isEmpty

/-- `duration_cast<seconds>(now - m_last_cache_time)`. -/
def timeInCache (now lastCacheTime : Int) : Int := (now - lastCacheTime).tdiv 1000000000

def stunDefaultWaitInterval : Int := 2000
def stunDefaultMaxAttempts : Nat := 30

structure BindLoop where
  totalTime : Int
  sleepTime : Int
  retOk : Bool
  result : String
  client : Client
  slept : List Int
  requests : Nat
  exchanges : List Exchange

/-- The sleep after attempt `i`: the new total and sleep times and the seconds slept, or
`none` where the loop is left with the reply of this attempt unread. -/
def pause (bindTimeout : Int) (i : Nat) (totalTime sleepTime : Int) :
    Option (Int × Int × List Int) :=
  if i > 0 then
    let sleepTime := if totalTime + sleepTime > bindTimeout then bindTimeout - totalTime
      else sleepTime
    if sleepTime < 0 then none
    else some (totalTime + sleepTime, if sleepTime < 32 then sleepTime * 2 else sleepTime,
      [sleepTime])
  else some (totalTime, sleepTime, [])

def BindLoop.store (v : BindLoop) (a : BindCall) (ip : String) (storedAt : Int) : BindLoop :=
  { v with
    retOk := true
    result := ip
    client := { v.client with lastResult := ip, lastCacheTime := storedAt }
    exchanges := v.exchanges ++ [⟨a.target, ip, storedAt⟩] }

section
-- The `attributes::mapped_address` constructor with `sockaddr_to_string`: `none` when it throws.
variable (addressOf : Attribute → Option String)

/-- The address a reply carries, if any; `none` where getting at it throws. -/
def Reply.mappedAddress : Reply → Option (Option String)
  | .exception => none
  | .noResponse => some none
  | .response m =>
    match m.findAttribute AttributeType.mappedAddress with
    | none => some none
    | some attr => (addressOf attr).map some

/-- The attempt loop, with `n` attempts left of which the next is number `i`. -/
def bindLoop (a : BindCall) : Nat → Nat → BindLoop → BindLoop
  | 0, _, v => v
  | n + 1, i, v =>
    if v.totalTime < a.bindTimeout.toNat then
      let v := { v with requests := v.requests + 1 }
      if (a.attempt i).reply.isException then v
      else
        match pause a.bindTimeout.toNat i (v.totalTime + stunDefaultWaitInterval) v.sleepTime with
        | none => v
        | some (totalTime, sleepTime, slept) =>
          let v := { v with totalTime, sleepTime, slept := v.slept ++ slept }
          match (a.attempt i).reply.mappedAddress addressOf with
          | none => v
          | some none => bindLoop a n (i + 1) v
          | some (some ip) => bindLoop a n (i + 1) (v.store a ip (a.attempt i).storedAt)
    else v

structure BindOutcome where
  ret : Bool
  result : String
  client : Client
  requests : Nat
  slept : List Int
  exchanges : List Exchange

def Client.bind (c : Client) (a : BindCall) : BindOutcome :=
  let dirty := c.dirty a
  let c := c.configure a
  if c.cacheTimeout.toNat > 0 && !dirty && isValid c.lastResult &&
      timeInCache a.checkedAt c.lastCacheTime < c.cacheTimeout.toNat then
    ⟨true, c.lastResult, c, 0, [], []⟩
  else
    let v := bindLoop addressOf a stunDefaultMaxAttempts 0 ⟨0, 1, false, "", c, [], 0, []⟩
    ⟨v.retOk, if v.retOk then v.result else "", v.client, v.requests, v.slept, v.exchanges⟩

structure Session where
  client : Client
  log : List Exchange

def Session.new : Session := ⟨Client.new, []⟩

def bindStep (s : Session) (a : BindCall) : Option Session :=
  let out := s.client.bind addressOf a
  some ⟨out.client, s.log ++ out.exchanges⟩

end

end NetSrvMgr.Stun
