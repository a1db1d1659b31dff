import NetSrvMgr.StunClient
import NetSrvMgr.StunCodec

namespace NetSrvMgr.Stun
open Transition
set_option autoImplicit true

variable {addressOf : Attribute → Option String}

theorem Reply.mappedAddress_exception {r : Reply} (h : r.isException = true) :
    r.mappedAddress addressOf = none := by
  cases r with
  | exception => rfl
  | noResponse => cases h
  | response m => cases h

/-- An attempt that stores no address; only the request and the time it took are counted. -/
structure BindLoop.Quiet (v w : BindLoop) : Prop where
  retOk : w.retOk = v.retOk
  result : w.result = v.result
  client : w.client = v.client
  exchanges : w.exchanges = v.exchanges
  requests : w.requests = v.requests + 1

theorem bindLoop_invariant {P : Nat → BindLoop → Prop}
    (hquiet : ∀ i v w, P i v → v.Quiet w → P (i + 1) w)
    (hstore : ∀ i v w ip, P i v → v.Quiet w →
      (a.attempt i).reply.mappedAddress addressOf = some (some ip) →
      P (i + 1) (w.store a ip (a.attempt i).storedAt))
    (hv : P i v) : ∃ j, P j (bindLoop addressOf a n i v) := by
  induction n generalizing i v with
  | zero => exact ⟨i, hv⟩
  | succ n ih =>
    simp only [bindLoop]
    split
    · split
      · exact ⟨i + 1, hquiet i v _ hv ⟨rfl, rfl, rfl, rfl, rfl⟩⟩
      · split
        · exact ⟨i + 1, hquiet i v _ hv ⟨rfl, rfl, rfl, rfl, rfl⟩⟩
        · split
          · exact ⟨i + 1, hquiet i v _ hv ⟨rfl, rfl, rfl, rfl, rfl⟩⟩
          · exact ih (hquiet i v _ hv ⟨rfl, rfl, rfl, rfl, rfl⟩)
          · next hip => exact ih (hstore i v _ _ hv ⟨rfl, rfl, rfl, rfl, rfl⟩ hip)
    · exact ⟨i, hv⟩

def BindLoop.Stored (c : Client) (a : BindCall) (v : BindLoop) : Prop :=
  v.client.target = c.target ∧ (v.retOk = false → v.client = c) ∧
    (v.retOk = true → ∃ x ∈ v.exchanges, x.target = a.target ∧
      x.publicIp = v.client.lastResult ∧ x.storedAt = v.client.lastCacheTime)

theorem BindLoop.Stored.quiet {v w : BindLoop} (hv : v.Stored c a) (hq : v.Quiet w) :
    w.Stored c a := by
  rw [BindLoop.Stored, hq.retOk, hq.client, hq.exchanges]
  exact hv

theorem BindLoop.Stored.store {v : BindLoop} (hv : v.Stored c a) (ip : String) (t : Int) :
    (v.store a ip t).Stored c a := by
  apply And.intro hv.1
  apply And.intro (fun h => Bool.noConfusion h)
  intro _
  exact ⟨⟨a.target, ip, t⟩, List.mem_append_right _ (List.mem_singleton_self _), rfl, rfl, rfl⟩

theorem bindLoop_stored (hv : v.Stored c a) : (bindLoop addressOf a n i v).Stored c a := by
  obtain ⟨_, hw⟩ := bindLoop_invariant (P := fun _ v => v.Stored c a)
    (fun _ _ _ hv hq => hv.quiet hq) (fun _ _ _ ip hv hq _ => (hv.quiet hq).store ip _) hv
  exact hw

theorem bindLoop_retOk (hv : v.retOk = true) : (bindLoop addressOf a n i v).retOk = true := by
  obtain ⟨_, hw⟩ := bindLoop_invariant (P := fun _ v => v.retOk = true)
    (fun _ _ _ hv hq => hq.retOk.trans hv) (fun _ _ _ _ _ _ _ => rfl) hv
  exact hw

/-- How many replies the loop reads before its time is up, when none of them throws. -/
def examinedFrom (bindTimeout : Int) : Nat → Nat → Int → Int → Nat
  | 0, _, _, _ => 0
  | n + 1, i, totalTime, sleepTime =>
    if totalTime < bindTimeout then
      match pause bindTimeout i (totalTime + stunDefaultWaitInterval) sleepTime with
      | none => 0
      | some (totalTime, sleepTime, _) =>
        examinedFrom bindTimeout n (i + 1) totalTime sleepTime + 1
    else 0

def BindCall.examined (a : BindCall) : Nat :=
  examinedFrom a.bindTimeout.toNat stunDefaultMaxAttempts 0 0 1

/-- A reply that the call reads carries an address, and none before it throws. -/
def BindCall.Obtains (addressOf : Attribute → Option String) (a : BindCall) : Prop :=
  ∃ k < a.examined, (∃ ip, (a.attempt k).reply.mappedAddress addressOf = some (some ip)) ∧
    ∀ j < k, (a.attempt j).reply.mappedAddress addressOf ≠ none

theorem bindLoop_obtains
    (hk : k < examinedFrom a.bindTimeout.toNat n i v.totalTime v.sleepTime)
    (hip : ∃ ip, (a.attempt (i + k)).reply.mappedAddress addressOf = some (some ip))
    (hok : ∀ j < k, (a.attempt (i + j)).reply.mappedAddress addressOf ≠ none) :
    (bindLoop addressOf a n i v).retOk = true := by
  induction n generalizing i v k with
  | zero => exact absurd hk (Nat.not_lt_zero k)
  | succ n ih =>
    have hne : (a.attempt i).reply.mappedAddress addressOf ≠ none := by
      cases k with
      | zero =>
        obtain ⟨ip, hip⟩ := hip
        rw [Nat.add_zero] at hip
        rw [hip]
        exact fun h => nomatch h
      | succ k => exact hok 0 (Nat.succ_pos k)
    have hex : ¬(a.attempt i).reply.isException = true :=
      fun h => hne (Reply.mappedAddress_exception h)
    simp only [examinedFrom] at hk
    simp only [bindLoop]
    split at hk
    · next hlt =>
      rw [if_pos hlt, if_neg hex]
      cases hp : pause a.bindTimeout.toNat i (v.totalTime + stunDefaultWaitInterval)
          v.sleepTime with
      | none =>
        rw [hp] at hk
        exact absurd hk (Nat.not_lt_zero k)
      | some p =>
        obtain ⟨totalTime, sleepTime, slept⟩ := p
        rw [hp] at hk
        dsimp only at hk ⊢
        cases k with
        | zero =>
          obtain ⟨ip, hip⟩ := hip
          rw [Nat.add_zero] at hip
          simp only [hip]
          exact bindLoop_retOk rfl
        | succ k =>
          have hip' : ∃ ip, (a.attempt (i + 1 + k)).reply.mappedAddress addressOf =
              some (some ip) := by
            rw [Nat.add_assoc, Nat.add_comm 1 k]
            exact hip
          have hok' : ∀ j < k, (a.attempt (i + 1 + j)).reply.mappedAddress addressOf ≠ none := by
            intro j hj
            rw [Nat.add_assoc, Nat.add_comm 1 j]
            exact hok (j + 1) (Nat.succ_lt_succ hj)
          have hk' := Nat.lt_of_succ_lt_succ hk
          split
          · next hn => exact (hne hn).elim
          · exact ih hk' hip' hok'
          · exact ih hk' hip' hok'
    · exact absurd hk (Nat.not_lt_zero k)

/-- A call that changes the target while a result is cached obtains an address. -/
def KeepsTarget (addressOf : Attribute → Option String) (s : Session) (a : BindCall) : Prop :=
  a.target = s.client.target ∨ isValid s.client.lastResult = false ∨ a.Obtains addressOf

/-- The cached address was obtained by an exchange with the current target. -/
def Session.CacheOwned (s : Session) : Prop :=
  isValid s.client.lastResult = true → ∃ x ∈ s.log, x.target = s.client.target ∧
    x.publicIp = s.client.lastResult ∧ x.storedAt = s.client.lastCacheTime

theorem Session.new_cacheOwned : Session.new.CacheOwned := by
  intro h
  cases h

theorem Client.configure_target (c : Client) (a : BindCall) :
    (c.configure a).target = a.target := rfl

theorem Client.dirty_eq_false {c : Client} (h : c.dirty a = false) : c.target = a.target := by
  simp only [Client.dirty, ne_eq, Bool.or_eq_false_iff, decide_eq_false_iff_not,
    Decidable.not_not] at h
  obtain ⟨⟨⟨⟨⟨hname, hport⟩, hif⟩, hproto⟩, _⟩, _⟩ := h
  rw [Client.target, BindCall.target, hif, hproto, ← hname, ← hport]

theorem Client.bind_cases (addressOf : Attribute → Option String) (c : Client) (a : BindCall) :
    (c.target = a.target ∧ isValid c.lastResult = true ∧
      timeInCache a.checkedAt c.lastCacheTime < a.cacheTimeout.toNat ∧
      c.bind addressOf a = ⟨true, c.lastResult, c.configure a, 0, [], []⟩) ∨
    ∃ v, v = bindLoop addressOf a stunDefaultMaxAttempts 0
        ⟨0, 1, false, "", c.configure a, [], 0, []⟩ ∧
      c.bind addressOf a = ⟨v.retOk, if v.retOk then v.result else "", v.client, v.requests,
        v.slept, v.exchanges⟩ := by
  by_cases h : ((c.configure a).cacheTimeout.toNat > 0 && !c.dirty a &&
      isValid (c.configure a).lastResult &&
      timeInCache a.checkedAt (c.configure a).lastCacheTime <
        (c.configure a).cacheTimeout.toNat) = true
  · left
    have hbind : c.bind addressOf a = ⟨true, c.lastResult, c.configure a, 0, [], []⟩ := by
      rw [Client.bind]
      exact if_pos h
    simp only [Bool.and_eq_true, decide_eq_true_eq, Bool.not_eq_true'] at h
    obtain ⟨⟨⟨_, hdirty⟩, hvalid⟩, htime⟩ := h
    exact ⟨Client.dirty_eq_false hdirty, hvalid, htime, hbind⟩
  · right
    refine ⟨_, rfl, ?_⟩
    rw [Client.bind]
    exact if_neg h

theorem bindLoop_requests (hv : v.retOk = true → v.requests ≠ 0) :
    (bindLoop addressOf a n i v).retOk = true →
      (bindLoop addressOf a n i v).requests ≠ 0 := by
  have hquiet : ∀ v w : BindLoop, v.Quiet w → w.requests ≠ 0 := by
    intro v w hq
    rw [hq.requests]
    exact Nat.succ_ne_zero _
  obtain ⟨_, hw⟩ := bindLoop_invariant (P := fun _ v => v.retOk = true → v.requests ≠ 0)
    (fun _ v w _ hq _ => hquiet v w hq) (fun _ v w _ _ hq _ _ => hquiet v w hq) hv
  exact hw

theorem bindStep_cacheOwned (hs : s.CacheOwned) (hk : KeepsTarget addressOf s a)
    (h : bindStep addressOf s a = some t) : t.CacheOwned := by
  cases h
  rcases s.client.bind_cases addressOf a with ⟨ht, _, _, hb⟩ | ⟨v, hv, hb⟩
  · rw [Session.CacheOwned, hb, List.append_nil, Client.configure_target, ← ht]
    exact hs
  · have hstored : v.Stored (s.client.configure a) a := by
      rw [hv]
      apply bindLoop_stored
      exact ⟨rfl, fun _ => rfl, fun h => nomatch h⟩
    obtain ⟨htarget, hkept, hnew⟩ := hstored
    rw [Session.CacheOwned, hb]
    intro hvalid
    cases hret : v.retOk with
    | true =>
      obtain ⟨x, hx, hxt, hxp, hxs⟩ := hnew hret
      refine ⟨x, List.mem_append_right _ hx, ?_, hxp, hxs⟩
      rw [hxt, htarget, Client.configure_target]
    | false =>
      have hc := hkept hret
      simp only [hc] at hvalid
      rcases hk with hsame | hnone | ⟨k, hk, hip, hok⟩
      · obtain ⟨x, hx, hxt, hxp, hxs⟩ := hs hvalid
        simp only [hc, Client.configure_target]
        exact ⟨x, List.mem_append_left _ hx, by rw [hxt, hsame], hxp, hxs⟩
      · exact absurd hvalid (by rw [Client.configure, hnone]; exact Bool.false_ne_true)
      · have hret' : v.retOk = true := by
          rw [hv]
          refine bindLoop_obtains (k := k) (i := 0) hk ?_ ?_
          · rw [Nat.zero_add]
            exact hip
          · intro j hj
            rw [Nat.zero_add]
            exact hok j hj
        exact absurd (hret.symm.trans hret') Bool.false_ne_true

/-- In a run whose target changes all obtain an address, an answer that needs no request is one
that an earlier exchange with the same target obtained, within the cache timeout. -/
theorem bind_cached_of_keepsTarget (addressOf : Attribute → Option String)
    (calls : List BindCall) (hk : StepsMeet (bindStep addressOf) (KeepsTarget addressOf)
      Session.new calls) :
    ∀ pre a, pre ++ [a] <+: calls → ∀ s, run (bindStep addressOf) Session.new pre = some s →
      (s.client.bind addressOf a).ret = true → (s.client.bind addressOf a).requests = 0 →
      ∃ x ∈ s.log, x.target = a.target ∧ x.publicIp = (s.client.bind addressOf a).result ∧
        timeInCache a.checkedAt x.storedAt < a.cacheTimeout.toNat := by
  intro pre a hpre s hrun hret hreq
  obtain ⟨rest, hrest⟩ := hpre
  rw [← hrest, List.append_assoc] at hk
  obtain ⟨hs, _⟩ := StepsMeet.invariant (P := Session.CacheOwned)
    (fun s a t hs hc h => bindStep_cacheOwned hs hc h) hk Session.new_cacheOwned hrun
  rcases s.client.bind_cases addressOf a with ⟨ht, hvalid, htime, hb⟩ | ⟨v, hv, hb⟩
  · obtain ⟨x, hx, hxt, hxp, hxs⟩ := hs hvalid
    rw [hb]
    exact ⟨x, hx, hxt.trans ht, hxp, by rw [hxs]; exact htime⟩
  · rw [hb] at hret hreq
    rw [hv] at hret hreq
    refine absurd hreq (bindLoop_requests ?_ hret)
    exact fun h => nomatch h

def mappedIpv4 (attr : Attribute) : Option String :=
  match attr.value with
  | [0, 1, _, _, a, b, c, d] =>
    some (String.intercalate "." ([a, b, c, d].map fun n => toString n.toNat))
  | _ => none

def callFor (hostname : String) (reply : Reply) : BindCall where
  hostname := hostname
  port := 3478
  interface := "erouter0"
  proto := .afInet
  bindTimeout := 30
  cacheTimeout := 30
  checkedAt := 0
  attempt := fun _ => ⟨reply, 0⟩

def answered (hostname : String) : BindCall := callFor hostname (.response mappedAddressResponse)

theorem bind_cached_answered : ∃ x ∈ [Exchange.mk (answered "stun").target "192.0.2.1" 0],
    x.target = (answered "stun").target ∧ x.publicIp = "192.0.2.1" ∧
      timeInCache 0 x.storedAt < 30 := by
  have hk : StepsMeet (bindStep mappedIpv4) (KeepsTarget mappedIpv4) Session.new
      [answered "stun", answered "stun"] := by
    refine ⟨Or.inr (Or.inl rfl), fun t ht => ⟨Or.inl ?_, fun _ _ => trivial⟩⟩
    cases ht
    rfl
  exact bind_cached_of_keepsTarget mappedIpv4 _ hk [answered "stun"] (answered "stun")
    (List.prefix_refl _) _ rfl rfl rfl

/-- The exchange with a second server fails; the next call for it is answered from the cache
with the address that the first server gave. -/
theorem bind_cached_stale : ¬∀ pre a, pre ++ [a] <+: [answered "stun", callFor "other" .noResponse,
      callFor "other" .noResponse] →
    ∀ s, run (bindStep mappedIpv4) Session.new pre = some s →
      (s.client.bind mappedIpv4 a).ret = true → (s.client.bind mappedIpv4 a).requests = 0 →
      ∃ x ∈ s.log, x.target = a.target ∧ x.publicIp = (s.client.bind mappedIpv4 a).result ∧
        timeInCache a.checkedAt x.storedAt < a.cacheTimeout.toNat := by
  intro h
  obtain ⟨x, hx, hxt, _⟩ := h [answered "stun", callFor "other" .noResponse]
    (callFor "other" .noResponse) (List.prefix_refl _) _ rfl rfl rfl
  rw [List.mem_singleton.1 hx] at hxt
  exact absurd hxt (by decide)

end NetSrvMgr.Stun
