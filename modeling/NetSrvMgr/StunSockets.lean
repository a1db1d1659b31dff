import NetSrvMgr.Ledger
import NetSrvMgr.StunSchedule

namespace NetSrvMgr.Stun
open Ledger
set_option autoImplicit true

/-- The socket that `m_fd` names, if any, and what was opened and closed so far. -/
structure Sockets where
  fd : Option Nat
  ledger : Ledger

/-- What the system calls come to for one address of the server. -/
structure SocketTry where
  socket : Bool
  getInterfaceConfig : Bool
  bind : Bool
  /-- The request on the socket of `m_fd`: sending, waiting, receiving and decoding. -/
  reply : Reply

/-- `if (m_fd != -1) close(m_fd); m_fd = soc;` -/
def Sockets.keep (s : Sockets) (soc : Nat) : Sockets :=
  { fd := some soc, ledger := s.ledger.releaseNamed s.fd }

/-- The end of `bind`. -/
def Sockets.closeFd (s : Sockets) : Sockets := { fd := none, ledger := s.ledger.releaseNamed s.fd }

section
variable (interface : String)

/-- Whether `create_udp_socket` returns or throws, with the sockets after it. -/
def createUdpSocket (t : SocketTry) (s : Sockets) : Bool × Sockets :=
  if t.socket then
    let soc := s.ledger.acquired
    let s := { s with ledger := s.ledger.acquire }
    if interface ≠ "" then
      if t.getInterfaceConfig then
        if t.bind then (true, s.keep soc)
        else (false, { s with ledger := s.ledger.release soc })
      -- `soc` is a local variable
      else (true, s)
    else (true, s.keep soc)
  else (false, s)

/-- `send_message` needs some socket, be it the one of an earlier address. -/
def SocketTry.sendMessage (t : SocketTry) (s : Sockets) : Reply :=
  if s.fd.isSome then t.reply else .noResponse

/-- `send_binding_request` for one address. -/
def SocketTry.sendBindingRequest (t : SocketTry) (s : Sockets) : Reply × Sockets :=
  let r := createUdpSocket interface t s
  (if r.1 then t.sendMessage r.2 else .exception, r.2)

/-- `send_binding_request` for the addresses of the server. -/
def sendBindingRequests : List SocketTry → Sockets → Reply × Sockets
  | [], s => (.noResponse, s)
  | t :: addrs, s =>
    match t.sendBindingRequest interface s with
    | (.noResponse, s) => sendBindingRequests addrs s
    | r => r

/-- The addresses that are used, with the sockets before each. -/
def reached : List SocketTry → Sockets → List SocketTry
  | [], _ => []
  | t :: addrs, s =>
    match t.sendBindingRequest interface s with
    | (.noResponse, s) => t :: reached addrs s
    | _ => [t]

/-- One attempt; without addresses the name could not be resolved. -/
def socketAttempt (addrs : Option (List SocketTry)) (s : Sockets) : Reply × Sockets :=
  match addrs with
  | none => (.exception, s)
  | some addrs => sendBindingRequests interface addrs s

def reachedBy (addrs : Option (List SocketTry)) (s : Sockets) : List SocketTry :=
  match addrs with
  | none => []
  | some addrs => reached interface addrs s

def socketsAfter (addrs : Nat → Option (List SocketTry)) (start : Sockets) : Nat → Sockets
  | 0 => start
  | i + 1 => (socketAttempt interface (addrs i) (socketsAfter addrs start i)).2

/-- A socket was created, but not bound, for want of an address of the interface. -/
def SocketTry.LosesSocket (t : SocketTry) : Prop :=
  interface ≠ "" ∧ t.socket = true ∧ t.getInterfaceConfig = false

end

/-- `m_fd` names a socket that is open, if any. -/
def Sockets.Owned (s : Sockets) : Prop := s.ledger.Holds (named s.fd)

/-- What the attempts of a call meet, from any state of the client's sockets. -/
structure SocketRun (a : BindCall) where
  start : Sockets
  owned : start.Owned
  addrs : Nat → Option (List SocketTry)
  replies : ∀ i, (socketAttempt a.interface (addrs i) (socketsAfter a.interface addrs start i)).1 =
    (a.attempt i).reply

section
variable (addressOf : Attribute → Option String)

/-- The sockets when `bind` returns. -/
def SocketRun.returned (run : SocketRun a) (c : Client) : Sockets :=
  if c.answersFromCache a then run.start
  else (socketsAfter a.interface run.addrs run.start (c.bind addressOf a).requests).closeFd

/-- Every socket opened in the call was closed exactly once when it returns. -/
structure SocketRun.ClosesSockets (run : SocketRun a) (c : Client) : Prop where
  once : ∀ soc, run.start.ledger.acquired ≤ soc →
    soc < (run.returned addressOf c).ledger.acquired →
    (run.returned addressOf c).ledger.released.count soc = 1
  fd : (run.returned addressOf c).fd = none

/-- A call that asks the server makes an attempt that is due, unless one before it throws. -/
def BindCall.Makes (a : BindCall) (i : Nat) : Prop :=
  a.Due i ∧ ∀ j < i, a.outcome addressOf j ≠ none

/-- No address that an attempt uses loses its socket, and a cached answer finds no socket. -/
def SocketRun.KeepsSockets (run : SocketRun a) (c : Client) : Prop :=
  (c.answersFromCache a = true → run.start.fd = none) ∧
    (c.answersFromCache a = false → ∀ i, a.Makes addressOf i →
      ∀ t ∈ reachedBy a.interface (run.addrs i) (socketsAfter a.interface run.addrs run.start i),
        ¬t.LosesSocket a.interface)

end

/-- All sockets opened from the `n`th on are closed, except for the one of `m_fd`. -/
def Sockets.Accounted (n : Nat) (s : Sockets) : Prop := s.ledger.Accounted n (named s.fd)

theorem createUdpSocket_cases (interface : String) (t : SocketTry) (s : Sockets) :
    (¬t.LosesSocket interface ∧ (createUdpSocket interface t s).2 = s) ∨
    (¬t.LosesSocket interface ∧ (createUdpSocket interface t s).2 =
      { s with ledger := s.ledger.acquire.release s.ledger.acquired }) ∨
    (¬t.LosesSocket interface ∧ (createUdpSocket interface t s).2 =
      Sockets.keep { s with ledger := s.ledger.acquire } s.ledger.acquired) ∨
    (t.LosesSocket interface ∧ (createUdpSocket interface t s).2 =
      { s with ledger := s.ledger.acquire }) := by
  unfold createUdpSocket
  split
  · next hsocket =>
    split
    · next hinterface =>
      split
      · next hconfig =>
        have hloses : ¬t.LosesSocket interface := fun h => Bool.noConfusion (hconfig ▸ h.2.2)
        split
        · exact Or.inr (Or.inr (Or.inl ⟨hloses, rfl⟩))
        · exact Or.inr (Or.inl ⟨hloses, rfl⟩)
      · next hconfig =>
        right; right; right
        exact ⟨⟨hinterface, hsocket, Bool.not_eq_true _ ▸ hconfig⟩, rfl⟩
    · next hinterface =>
      right; right; left
      exact ⟨fun h => hinterface h.1, rfl⟩
  · next hsocket =>
    left
    exact ⟨fun h => hsocket h.2.1, rfl⟩

theorem named_insert_sdiff {s : Sockets} (h : s.Owned) :
    insert s.ledger.acquired (named s.fd) \ {s.ledger.acquired} = named s.fd :=
  Set.insert_sdiff_self_of_notMem h.acquired_notMem

theorem insert_sdiff_named {s : Sockets} (h : s.Owned) :
    insert s.ledger.acquired (named s.fd) \ named s.fd = named (some s.ledger.acquired) := by
  rw [Set.insert_sdiff_of_notMem _ h.acquired_notMem, Set.sdiff_self, insert_empty_eq,
    named_some]

theorem createUdpSocket_owned (h : s.Owned) : (createUdpSocket interface t s).2.Owned := by
  have hnew := h.acquire
  rcases createUdpSocket_cases interface t s with ⟨_, hs⟩ | ⟨_, hs⟩ | ⟨_, hs⟩ | ⟨_, hs⟩
  · rw [hs]
    exact h
  · rw [hs, Sockets.Owned, ← named_insert_sdiff h]
    exact hnew.release (Set.mem_insert _ _)
  · rw [hs, Sockets.Owned, Sockets.keep, ← insert_sdiff_named h]
    exact hnew.releaseNamed (Set.subset_insert _ _)
  · rw [hs]
    exact hnew.mono (Set.subset_insert _ _)

theorem createUdpSocket_acquired (interface : String) (t : SocketTry) (s : Sockets) :
    s.ledger.acquired ≤ (createUdpSocket interface t s).2.ledger.acquired := by
  rcases createUdpSocket_cases interface t s with ⟨_, hs⟩ | ⟨_, hs⟩ | ⟨_, hs⟩ | ⟨_, hs⟩
  · rw [hs]
  · rw [hs]
    exact Nat.le_succ _
  · rw [hs, Sockets.keep, acquired_releaseNamed]
    exact Nat.le_succ _
  · rw [hs]
    exact Nat.le_succ _

theorem createUdpSocket_accounted_iff (h : s.Owned) (hn : n ≤ s.ledger.acquired) :
    (createUdpSocket interface t s).2.Accounted n ↔
      ¬t.LosesSocket interface ∧ s.Accounted n := by
  have hnew := h.acquire
  rcases createUdpSocket_cases interface t s with
    ⟨hloses, hs⟩ | ⟨hloses, hs⟩ | ⟨hloses, hs⟩ | ⟨hloses, hs⟩
  · rw [hs, iff_and_self]
    exact fun _ => hloses
  · rw [hs, Sockets.Accounted, ← named_insert_sdiff h,
      accounted_release_iff hnew (Set.mem_insert _ _), accounted_acquire_iff]
    exact (and_iff_right hloses).symm
  · rw [hs, Sockets.Accounted, Sockets.keep, ← insert_sdiff_named h,
      accounted_releaseNamed_iff hnew (Set.subset_insert _ _), accounted_acquire_iff]
    exact (and_iff_right hloses).symm
  · rw [hs]
    apply iff_of_false
    · exact hnew.not_accounted (Set.mem_insert _ _) hn h.acquired_notMem
    · exact fun hand => hand.1 hloses

theorem sendBindingRequests_invariant {P : Sockets → Prop}
    (hstep : ∀ t s, P s → P (createUdpSocket interface t s).2) (h : P s) :
    P (sendBindingRequests interface addrs s).2 := by
  induction addrs generalizing s with
  | nil => exact h
  | cons t addrs ih =>
    rw [sendBindingRequests]
    split
    · next s' hs =>
      have hnext := hstep t s h
      rw [SocketTry.sendBindingRequest, Prod.mk.injEq] at hs
      rw [hs.2] at hnext
      exact ih hnext
    · exact hstep t s h

theorem sendBindingRequests_accounted_iff (h : s.Owned) (hn : n ≤ s.ledger.acquired) :
    (sendBindingRequests interface addrs s).2.Accounted n ↔
      (∀ t ∈ reached interface addrs s, ¬t.LosesSocket interface) ∧ s.Accounted n := by
  induction addrs generalizing s with
  | nil =>
    rw [sendBindingRequests, reached, iff_and_self]
    exact fun _ _ hmem => absurd hmem List.not_mem_nil
  | cons t addrs ih =>
    have hstep : (createUdpSocket interface t s).2.Accounted n ↔ _ :=
      createUdpSocket_accounted_iff h hn
    have howned : (createUdpSocket interface t s).2.Owned := createUdpSocket_owned h
    have hle := Nat.le_trans hn (createUdpSocket_acquired interface t s)
    rw [sendBindingRequests, reached]
    split
    · next s' hs =>
      rw [SocketTry.sendBindingRequest, Prod.mk.injEq] at hs
      rw [hs.2] at hstep howned hle
      rw [ih howned hle, hstep, List.forall_mem_cons, ← and_assoc, and_comm (a := ¬_)]
    · rw [List.forall_mem_singleton]
      exact hstep

theorem socketsAfter_invariant {P : Sockets → Prop}
    (hstep : ∀ t s, P s → P (createUdpSocket interface t s).2) (h : P start) :
    ∀ i, P (socketsAfter interface addrs start i) := by
  intro i
  induction i with
  | zero => exact h
  | succ i ih =>
    rw [socketsAfter]
    cases addrs i with
    | none => exact ih
    | some addrs => exact sendBindingRequests_invariant hstep ih

theorem socketsAfter_accounted_iff {start : Sockets} (h : start.Owned) (m : Nat) :
    (socketsAfter interface addrs start m).Accounted start.ledger.acquired ↔
      ∀ i < m, ∀ t ∈ reachedBy interface (addrs i) (socketsAfter interface addrs start i),
        ¬t.LosesSocket interface := by
  induction m with
  | zero =>
    apply iff_of_true (accounted_acquired _ _)
    intro i hi
    exact absurd hi (Nat.not_lt_zero i)
  | succ m ih =>
    have howned : (socketsAfter interface addrs start m).Owned :=
      socketsAfter_invariant (P := Sockets.Owned) (fun t s => createUdpSocket_owned) h m
    have hle : start.ledger.acquired ≤ (socketsAfter interface addrs start m).ledger.acquired :=
      socketsAfter_invariant (P := fun s => start.ledger.acquired ≤ s.ledger.acquired)
        (fun t s hs => Nat.le_trans hs (createUdpSocket_acquired interface t s)) (Nat.le_refl _) m
    rw [Nat.forall_lt_succ_right, ← ih, socketsAfter]
    cases addrs m with
    | none =>
      apply iff_self_and.2
      exact fun _ _ hmem => absurd hmem List.not_mem_nil
    | some addrs => exact (sendBindingRequests_accounted_iff howned hle).trans and_comm

theorem closeFd_accounted_iff {s : Sockets} (h : s.Owned) :
    s.closeFd.Accounted n ↔ s.Accounted n := by
  have hclose := accounted_releaseNamed_iff (n := n) h (Set.Subset.refl (named s.fd))
  rw [Set.sdiff_self, ← named_none] at hclose
  exact hclose

/-- `m_fd` is reset by every call that asks the server, so that no call finds a socket there. -/
theorem SocketRun.returned_fd_iff {c : Client} {run : SocketRun a} :
    (run.returned addressOf c).fd = none ↔
      (c.answersFromCache a = true → run.start.fd = none) := by
  rw [SocketRun.returned]
  split
  · next hcache => exact (imp_iff_right hcache).symm
  · next hcache => exact iff_of_true rfl (fun h => absurd h hcache)

theorem Client.bind_requests_iff {c : Client} (h : c.answersFromCache a = false) (i : Nat) :
    i < (c.bind addressOf a).requests ↔ a.Makes addressOf i := by
  obtain ⟨m, w, hw, hbind⟩ : ∃ m w, BindLoop.Ended addressOf a m w ∧ _ := Client.bind_ended h
  rw [hbind]
  dsimp only
  rw [hw.requests]
  apply Iff.intro
  · intro hi
    exact ⟨hw.due i hi, fun j hj => hw.ran j (Nat.lt_of_le_of_lt hj hi)⟩
  · intro hmakes
    exact hw.made hmakes.1 hmakes.2

theorem SocketRun.returned_accounted_iff (run : SocketRun a) (c : Client) :
    (run.returned addressOf c).Accounted run.start.ledger.acquired ↔
      (c.answersFromCache a = false → ∀ i, a.Makes addressOf i →
        ∀ t ∈ reachedBy a.interface (run.addrs i) (socketsAfter a.interface run.addrs run.start i),
          ¬t.LosesSocket a.interface) := by
  rw [SocketRun.returned]
  cases hcache : c.answersFromCache a with
  | true =>
    rw [if_pos rfl]
    apply iff_of_true (accounted_acquired _ _)
    intro h
    cases h
  | false =>
    have howned : ∀ i, (socketsAfter a.interface run.addrs run.start i).Owned :=
      socketsAfter_invariant (P := Sockets.Owned) (fun t s => createUdpSocket_owned) run.owned
    rw [if_neg Bool.false_ne_true, closeFd_accounted_iff (howned _),
      socketsAfter_accounted_iff run.owned, forall_prop_of_true rfl]
    exact forall_congr' fun i => imp_congr_left (Client.bind_requests_iff hcache i)

/-- A call closes what it opens exactly when it loses no socket on the way. -/
theorem bind_closesSockets_iff (addressOf : Attribute → Option String) (c : Client) (a : BindCall)
    (run : SocketRun a) :
    run.ClosesSockets addressOf c ↔ run.KeepsSockets addressOf c := by
  apply Iff.intro
  · intro hcloses
    apply And.intro (SocketRun.returned_fd_iff.1 hcloses.fd)
    apply (run.returned_accounted_iff c).1
    intro soc hle hlt _
    exact hcloses.once soc hle hlt
  · intro hkeeps
    have hfd : (run.returned addressOf c).fd = none := SocketRun.returned_fd_iff.2 hkeeps.1
    refine ⟨?_, hfd⟩
    intro soc hle hlt
    apply (run.returned_accounted_iff c).2 hkeeps.2 soc hle hlt
    rw [hfd, named_none]
    exact Set.notMem_empty soc

/-- A call on an interface that has no address for the socket. -/
def noAddressRun : SocketRun (callFor "stun" .noResponse) where
  start := ⟨none, ⟨0, []⟩⟩
  owned := by
    rw [Sockets.Owned, named_none]
    exact ⟨fun soc hsoc => absurd hsoc (Set.notMem_empty soc),
      fun soc hsoc => absurd hsoc List.not_mem_nil⟩
  addrs _ := some [⟨true, false, true, .noResponse⟩]
  replies i := by
    have hreply (s : Sockets) : (SocketTry.mk true false true .noResponse).sendMessage s =
        .noResponse := ite_self _
    simp [socketAttempt, sendBindingRequests, SocketTry.sendBindingRequest, createUdpSocket,
      hreply, callFor]

theorem bind_leaksSocket : ¬∀ (addressOf : Attribute → Option String) (c : Client) (a : BindCall)
    (run : SocketRun a), run.ClosesSockets addressOf c := by
  intro h
  have honce := (h (fun _ => none) Client.new _ noAddressRun).once 0 (Nat.le_refl 0) (by decide)
  exact absurd honce (by decide)

end NetSrvMgr.Stun
