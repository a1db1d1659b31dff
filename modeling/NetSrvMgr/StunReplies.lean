import NetSrvMgr.StunCache

namespace NetSrvMgr.Stun
open ByteBuffer
set_option autoImplicit true

/-- What becomes of a binding request to one address of the server. -/
inductive Delivery where
  | socketThrows
  | noSocket
  | sendThrows
  | timeout
  | receiveThrows
  | datagram (bytes : Buffer)

/-- Whether the request went out. -/
def Delivery.sent : Delivery → Bool
  | .socketThrows => false
  | .noSocket => false
  | .sendThrows => false
  | .timeout => true
  | .receiveThrows => true
  | .datagram _ => true

/-- One address of the server with the random transaction id of the request to it. -/
structure Try where
  transactionId : List.Vector UInt8 16
  delivery : Delivery

def Try.request (t : Try) : Message := createBindingRequest t.transactionId

def receiveSize : Nat := 256

/-- `send_message`; `none` where the decoder reads outside the buffer. -/
def sendMessage (t : Try) : Option Reply :=
  match t.delivery with
  | .socketThrows => some .exception
  | .noSocket => some .noResponse
  | .sendThrows => some .exception
  | .timeout => some .noResponse
  | .receiveThrows => some .exception
  | .datagram bytes => (decodeMessage (bytes.take receiveSize) none).map fun r =>
    match r.1 with
    | none => .noResponse
    | some m => .response m

/-- `send_binding_request` goes through the addresses until there is a response. -/
def sendBindingRequest : List Try → Option Reply
  | [] => some .noResponse
  | t :: addrs =>
    match sendMessage t with
    | some .noResponse => sendBindingRequest addrs
    | r => r

/-- The addresses that are used, up to the first that does not leave it without a response. -/
def tried : List Try → List Try
  | [] => []
  | t :: addrs =>
    match sendMessage t with
    | some .noResponse => t :: tried addrs
    | _ => [t]

/-- One attempt; without addresses the name could not be resolved. -/
def attemptReply (addrs : Option (List Try)) : Option Reply :=
  match addrs with
  | none => some .exception
  | some addrs => sendBindingRequest addrs

/-- The network behind the attempts of a call; every datagram is decoded inside the buffer. -/
structure Network (a : BindCall) where
  addrs : Nat → Option (List Try)
  replies : ∀ i, attemptReply (addrs i) = some (a.attempt i).reply

/-- An address that one of the first `n` attempts used. -/
def Network.Tried (net : Network a) (n : Nat) (t : Try) : Prop :=
  ∃ i < n, ∃ addrs, net.addrs i = some addrs ∧ t ∈ tried addrs

/-- The transaction id in the bytes of a message. -/
def wireId (bytes : Buffer) : Buffer := (bytes.drop 4).take 16

/-- One of the first `n` attempts sent a request with this transaction id. -/
def Network.Sent (net : Network a) (n : Nat) (id : Buffer) : Prop :=
  ∃ t, net.Tried n t ∧ t.delivery.sent = true ∧ wireId t.request.encode = id

section
variable (addressOf : Attribute → Option String)

/-- The bytes are a response with this address. -/
def Carries (bytes : Buffer) (ip : String) : Prop :=
  ∃ m, (decodeMessage (bytes.take receiveSize) none).map Prod.fst = some (some m) ∧
    (Reply.response m).mappedAddress addressOf = some (some ip)

/-- The reported address comes from a response with the transaction id of a request of the call. -/
def ReportsOwn (c : Client) (a : BindCall) (net : Network a) : Prop :=
  (c.bind addressOf a).ret = true →
    ∃ t bytes, net.Tried (c.bind addressOf a).requests t ∧ t.delivery = .datagram bytes ∧
      Carries addressOf bytes (c.bind addressOf a).result ∧
      net.Sent (c.bind addressOf a).requests (wireId bytes)

/-- What a call reports: the cached address, or one that a datagram brought on the socket of a
request of the call, and that request's own where responses carry the ids of their requests. -/
structure ReportsReceived (c : Client) (a : BindCall) (net : Network a) : Prop where
  cached : (c.bind addressOf a).ret = true → (c.bind addressOf a).requests = 0 →
    (c.bind addressOf a).result = c.lastResult ∧
      (c.bind addressOf a).client.lastResult = c.lastResult
  received : (c.bind addressOf a).ret = true → (c.bind addressOf a).requests ≠ 0 →
    (c.bind addressOf a).client.lastResult = (c.bind addressOf a).result ∧
      ∃ t bytes, net.Tried (c.bind addressOf a).requests t ∧ t.delivery = .datagram bytes ∧
        Carries addressOf bytes (c.bind addressOf a).result
  unchanged : (c.bind addressOf a).requests ≠ 0 →
    (∀ t bytes ip, net.Tried (c.bind addressOf a).requests t → t.delivery = .datagram bytes →
      ¬ Carries addressOf bytes ip) →
    (c.bind addressOf a).ret = false ∧ (c.bind addressOf a).client.lastResult = c.lastResult
  own : (c.bind addressOf a).requests ≠ 0 →
    (∀ t bytes, net.Tried (c.bind addressOf a).requests t → t.delivery = .datagram bytes →
      wireId bytes = wireId t.request.encode) →
    ReportsOwn addressOf c a net

/-- The address found so far is the one in the reply of an attempt. -/
def BindLoop.FromReply (a : BindCall) (v : BindLoop) : Prop :=
  v.retOk = true → v.client.lastResult = v.result ∧
    ∃ i < v.requests, (a.attempt i).reply.mappedAddress addressOf = some (some v.result)

end

variable {addressOf : Attribute → Option String}

theorem wireId_encode (m : Message) : wireId m.encode = m.header.transactionId.toList := by
  have htid : m.header.transactionId.toList.length = 16 := m.header.transactionId.toList_length
  rw [wireId, Message.encode_eq]
  simp only [List.drop_succ_cons, List.drop_zero]
  exact List.take_left' htid

theorem sendMessage_response (h : sendMessage t = some (.response m)) :
    ∃ bytes, t.delivery = .datagram bytes ∧
      (decodeMessage (bytes.take receiveSize) none).map Prod.fst = some (some m) := by
  rw [sendMessage] at h
  cases hd : t.delivery with
  | datagram bytes =>
    rw [hd] at h
    obtain ⟨r, hdec, hm⟩ := Option.map_eq_some_iff.1 h
    refine ⟨bytes, rfl, ?_⟩
    rw [hdec, Option.map_some]
    cases hr : r.1 with
    | none =>
      rw [hr] at hm
      cases hm
    | some m' =>
      rw [hr] at hm
      cases hm
      rfl
  | socketThrows =>
    rw [hd] at h
    cases h
  | noSocket =>
    rw [hd] at h
    cases h
  | sendThrows =>
    rw [hd] at h
    cases h
  | timeout =>
    rw [hd] at h
    cases h
  | receiveThrows =>
    rw [hd] at h
    cases h

theorem sendBindingRequest_response (h : sendBindingRequest addrs = some (.response m)) :
    ∃ t ∈ tried addrs, sendMessage t = some (.response m) := by
  induction addrs with
  | nil => cases h
  | cons t addrs ih =>
    rw [sendBindingRequest] at h
    rw [tried]
    split at h
    · obtain ⟨s, hs, hresponse⟩ := ih h
      exact ⟨s, List.mem_cons_of_mem t hs, hresponse⟩
    · exact ⟨t, List.mem_cons_self, h⟩

theorem Reply.mappedAddress_some {r : Reply}
    (h : r.mappedAddress addressOf = some (some ip)) : ∃ m, r = .response m := by
  cases r with
  | exception => cases h
  | noResponse => cases h
  | response m => exact ⟨m, rfl⟩

theorem Network.tried_of_reply (net : Network a) (hi : i < n)
    (h : (a.attempt i).reply.mappedAddress addressOf = some (some ip)) :
    ∃ t bytes, net.Tried n t ∧ t.delivery = .datagram bytes ∧ Carries addressOf bytes ip := by
  have hreply := net.replies i
  obtain ⟨m, hm⟩ := Reply.mappedAddress_some h
  rw [hm] at h hreply
  cases haddrs : net.addrs i with
  | none =>
    rw [haddrs] at hreply
    cases hreply
  | some addrs =>
    rw [haddrs] at hreply
    obtain ⟨t, ht, hresponse⟩ := sendBindingRequest_response hreply
    obtain ⟨bytes, hbytes, hdec⟩ := sendMessage_response hresponse
    exact ⟨t, bytes, ⟨i, hi, addrs, haddrs, ht⟩, hbytes, m, hdec, h⟩

theorem bindLoop_fromReply (hv : v.FromReply addressOf a) (hi : v.requests = i) :
    (bindLoop addressOf a n i v).FromReply addressOf a := by
  have hquiet : ∀ (i : Nat) (v w : BindLoop), v.requests = i ∧ v.FromReply addressOf a →
      v.Quiet w → w.requests = i + 1 ∧ w.FromReply addressOf a := by
    rintro i v w ⟨hi, hv⟩ hq
    rw [BindLoop.FromReply, hq.retOk, hq.client, hq.result, hq.requests, hi]
    apply And.intro rfl
    intro hok
    obtain ⟨hlast, j, hj, hip⟩ := hv hok
    rw [hi] at hj
    exact ⟨hlast, j, Nat.lt_succ_of_lt hj, hip⟩
  have hstore : ∀ (i : Nat) (v w : BindLoop) (ip : String),
      v.requests = i ∧ v.FromReply addressOf a → v.Quiet w →
      (a.attempt i).reply.mappedAddress addressOf = some (some ip) →
      (w.store a ip (a.attempt i).storedAt).requests = i + 1 ∧
        (w.store a ip (a.attempt i).storedAt).FromReply addressOf a := by
    rintro i v w ip ⟨hi, _⟩ hq hip
    have hrequests : w.requests = i + 1 := by rw [hq.requests, hi]
    apply And.intro hrequests
    intro _
    refine ⟨rfl, i, ?_, hip⟩
    rw [BindLoop.store, hrequests]
    exact Nat.lt_succ_self i
  obtain ⟨_, _, hw⟩ := bindLoop_invariant hquiet hstore ⟨hi, hv⟩
  exact hw

theorem bind_cached {c : Client} (hret : (c.bind addressOf a).ret = true)
    (hreq : (c.bind addressOf a).requests = 0) :
    (c.bind addressOf a).result = c.lastResult ∧
      (c.bind addressOf a).client.lastResult = c.lastResult := by
  rcases c.bind_cases addressOf a with ⟨_, _, _, hbind⟩ | ⟨v, hv, hbind⟩
  · rw [hbind]
    exact ⟨rfl, rfl⟩
  · rw [hbind, hv] at hret hreq
    refine absurd hreq (bindLoop_requests ?_ hret)
    intro h
    cases h

theorem bind_received {c : Client} (net : Network a) (hret : (c.bind addressOf a).ret = true)
    (hreq : (c.bind addressOf a).requests ≠ 0) :
    (c.bind addressOf a).client.lastResult = (c.bind addressOf a).result ∧
      ∃ t bytes, net.Tried (c.bind addressOf a).requests t ∧ t.delivery = .datagram bytes ∧
        Carries addressOf bytes (c.bind addressOf a).result := by
  rcases c.bind_cases addressOf a with ⟨_, _, _, hbind⟩ | ⟨v, hv, hbind⟩
  · rw [hbind] at hreq
    exact absurd rfl hreq
  · rw [hbind] at hret ⊢
    have hfrom : v.FromReply addressOf a := by
      rw [hv]
      refine bindLoop_fromReply (i := 0) ?_ rfl
      intro h
      cases h
    obtain ⟨hlast, i, hi, hip⟩ := hfrom hret
    dsimp only at hret ⊢
    rw [if_pos hret]
    exact ⟨hlast, net.tried_of_reply hi hip⟩

theorem bind_unchanged {c : Client} (hreq : (c.bind addressOf a).requests ≠ 0)
    (hret : (c.bind addressOf a).ret = false) :
    (c.bind addressOf a).client.lastResult = c.lastResult := by
  rcases c.bind_cases addressOf a with ⟨_, _, _, hbind⟩ | ⟨v, hv, hbind⟩
  · rw [hbind] at hreq
    exact absurd rfl hreq
  · have hstored : v.Stored (c.configure a) a := by
      rw [hv]
      apply bindLoop_stored
      refine ⟨rfl, fun _ => rfl, ?_⟩
      intro h
      cases h
    rw [hbind] at hret ⊢
    dsimp only at hret ⊢
    rw [hstored.2.1 hret]
    rfl

/-- Every call reports the cached address or one that it received on the socket of a request. -/
theorem bind_reports_received (addressOf : Attribute → Option String) (c : Client) (a : BindCall)
    (net : Network a) : ReportsReceived addressOf c a net where
  cached := bind_cached
  received := bind_received net
  unchanged := by
    intro hreq hnone
    have hret : (c.bind addressOf a).ret = false := by
      rw [← Bool.not_eq_true]
      intro hret
      obtain ⟨_, t, bytes, ht, hbytes, hcarries⟩ := bind_received net hret hreq
      exact hnone t bytes _ ht hbytes hcarries
    exact ⟨hret, bind_unchanged hreq hret⟩
  own := by
    intro hreq hecho hret
    obtain ⟨_, t, bytes, ht, hbytes, hcarries⟩ := bind_received net hret hreq
    refine ⟨t, bytes, ht, hbytes, hcarries, t, ht, ?_, (hecho t bytes ht hbytes).symm⟩
    rw [hbytes]
    rfl

/-- A response with an id of its own, long enough for the decoder. -/
def forgedResponse : Message where
  header := ⟨MessageType.bindingResponse, 24, mappedAddressResponse.header.transactionId⟩
  attrs := [⟨AttributeType.mappedAddress, 8, [0, 1, 0x1f, 0x90, 203, 0, 113, 9]⟩,
    ⟨4, 8, [0, 1, 0x0d, 0x96, 192, 0, 2, 1]⟩]

def forgedTry : Try := ⟨List.Vector.replicate 16 0, .datagram forgedResponse.encode⟩

/-- What the decoder makes of it. -/
def forgedMessage : Message where
  header := ⟨MessageType.bindingResponse, 24,
    ⟨[0, 2, 4, 6, 8, 10, 12, 14, 0, 0, 0, 0x1f, 203, 113, 0, 0], rfl⟩⟩
  attrs := forgedResponse.attrs

theorem decodeMessage_forgedResponse :
    decodeMessage (forgedResponse.encode.take receiveSize) none =
      some (some forgedMessage, none) := by
  have htid : readTransactionId forgedResponse.encode 4 =
      some forgedMessage.header.transactionId := by
    decide
  rw [List.take_of_length_le (by decide), decodeMessage_encode forgedResponse rfl (by decide), htid]
  rfl

def forgedCall : BindCall := callFor "stun" (.response forgedMessage)

def forgedNetwork : Network forgedCall where
  addrs := fun _ => some [forgedTry]
  replies := by
    intro i
    rw [attemptReply, sendBindingRequest, sendMessage]
    dsimp only [forgedTry]
    rw [decodeMessage_forgedResponse]
    rfl

/-- A response with another transaction id is taken as the answer. -/
theorem forgedResponse_reported :
    ¬ ∀ addressOf c a (net : Network a), ReportsOwn addressOf c a net := by
  intro h
  have hret : (Client.new.bind mappedIpv4 forgedCall).ret = true := by decide
  obtain ⟨t, bytes, ht, hbytes, _, t', ht', _, hid⟩ :=
    h mappedIpv4 Client.new forgedCall forgedNetwork hret
  have hforged : ∀ s, forgedNetwork.Tried (Client.new.bind mappedIpv4 forgedCall).requests s →
      s = forgedTry := by
    rintro s ⟨i, _, addrs, haddrs, hs⟩
    cases haddrs
    rw [tried, sendMessage] at hs
    dsimp only [forgedTry] at hs
    rw [decodeMessage_forgedResponse] at hs
    exact List.mem_singleton.1 hs
  rw [hforged t ht] at hbytes
  cases hbytes
  rw [hforged t' ht', wireId_encode, wireId_encode] at hid
  exact absurd hid (by decide)

end NetSrvMgr.Stun
