import NetSrvMgr.StunMessage

namespace NetSrvMgr.Stun
open ByteBuffer
set_option autoImplicit true

/-- Decoding steps return `none` when they read an index outside the buffer. -/
def decodeU16 (buff : Buffer) (offset : Nat) : Option (UInt16 × Nat) :=
  buff[offset]?.bind fun hi =>
  buff[offset + 1]?.bind fun lo =>
  some (u16 hi lo, offset + 2)

def decodeAttr (buff : Buffer) (offset : Nat) : Option (Attribute × Nat) :=
  (decodeU16 buff offset).bind fun (type, offset) =>
  (decodeU16 buff offset).bind fun (length, offset) =>
  (slice buff offset length.toNat).bind fun value =>
  some (⟨type, length, value⟩, offset + value.length)

theorem decodeU16_eq_some_iff : decodeU16 buff o = some (n, o') ↔
    o' = o + 2 ∧ ∃ hi lo rest, buff.drop o = hi :: lo :: rest ∧ n = u16 hi lo := by
  have h₀ : buff[o]? = (buff.drop o)[0]? := by rw [List.getElem?_drop, Nat.add_zero]
  have h₁ : buff[o + 1]? = (buff.drop o)[1]? := by rw [List.getElem?_drop]
  rw [decodeU16, h₀, h₁]
  rcases buff.drop o with _ | ⟨hi, _ | ⟨lo, rest⟩⟩
  · simp
  · simp
  · simp only [List.getElem?_cons_zero, List.getElem?_cons_succ, Option.bind_some,
      Option.some.injEq, Prod.mk.injEq, List.cons.injEq]
    apply Iff.intro
    · rintro ⟨rfl, rfl⟩
      exact ⟨rfl, hi, lo, rest, ⟨rfl, rfl, rfl⟩, rfl⟩
    · rintro ⟨rfl, _, _, _, ⟨rfl, rfl, rfl⟩, rfl⟩
      exact ⟨rfl, rfl⟩

theorem decodeAttr_eq_some_iff : decodeAttr buff o = some (a, o') ↔
    a.Sized ∧ o' = o + a.bytes.length ∧ ∃ rest, buff.drop o = a.bytes ++ rest := by
  have hd (n : Nat) : buff.drop (o + n) = (buff.drop o).drop n := by rw [List.drop_drop]
  simp only [decodeAttr, Option.bind_eq_some_iff, Prod.exists, decodeU16_eq_some_iff,
    slice_eq_some_iff, Option.some.injEq, Prod.mk.injEq]
  apply Iff.intro
  · rintro ⟨type, _, ⟨rfl, t₁, t₂, r₁, h₁, rfl⟩, length, _, ⟨rfl, l₁, l₂, r₂, h₂, rfl⟩,
      value, ⟨_, rest, h₃, hv⟩, rfl, rfl⟩
    rw [hd, h₁] at h₂
    rw [Nat.add_assoc, hd, h₁] at h₃
    cases h₂
    refine ⟨hv.symm, ?_, rest, ?_⟩
    · simp only [Attribute.bytes_eq, List.length_cons]
      omega
    · rw [h₁, Attribute.bytes_eq]
      simp only [u16Hi_u16, u16Lo_u16, List.cons_append]
      exact congrArg (fun r => t₁ :: t₂ :: l₁ :: l₂ :: r) h₃
  · rintro ⟨hs, rfl, rest, h⟩
    have hl := congrArg List.length h
    rw [Attribute.bytes_eq] at h hl ⊢
    simp only [List.length_drop, List.length_append, List.length_cons] at hl ⊢
    refine ⟨a.type, _, ⟨rfl, _, _, _, h, (u16_bytes _).symm⟩, a.length, _,
      ⟨rfl, _, _, a.value ++ rest, ?_, (u16_bytes _).symm⟩, a.value,
      ⟨?_, rest, ?_, hs.symm⟩, rfl, ?_⟩
    · rw [hd, h]
      rfl
    · omega
    · rw [Nat.add_assoc, hd, h]
      rfl
    · omega

theorem Attribute.bytes_length (a : Attribute) : a.bytes.length = a.value.length + 4 := rfl

theorem decodeAttr_advances (h : decodeAttr buff o = some (a, o')) :
    o + 4 ≤ o' ∧ o' ≤ buff.length := by
  obtain ⟨_, rfl, rest, hr⟩ := decodeAttr_eq_some_iff.1 h
  have hl := congrArg List.length hr
  rw [List.length_drop, List.length_append, a.bytes_length] at hl
  rw [a.bytes_length]
  omega

def decodeAttrs (buff : Buffer) (offset : Nat) : Option (List Attribute × Nat) :=
  if offset < buff.length then
    match _hs : decodeAttr buff offset with
    | none => none
    | some (attr, next) =>
      (decodeAttrs buff next).map fun (attrs, last) => (attr :: attrs, last)
  else some ([], offset)
termination_by buff.length - offset
decreasing_by
  have := decodeAttr_advances _hs
  omega

theorem decodeAttrs_end (h : buff.length ≤ o) : decodeAttrs buff o = some ([], o) := by
  rw [decodeAttrs, if_neg (Nat.not_lt.2 h)]

theorem decodeAttrs_none (hlt : o < buff.length) (h : decodeAttr buff o = none) :
    decodeAttrs buff o = none := by
  rw [decodeAttrs, if_pos hlt]
  split
  · rfl
  · next hs => cases h.symm.trans hs

theorem decodeAttrs_some (hlt : o < buff.length) (h : decodeAttr buff o = some (a, next)) :
    decodeAttrs buff o =
      (decodeAttrs buff next).map fun (attrs, last) => (a :: attrs, last) := by
  rw [decodeAttrs, if_pos hlt]
  split
  · next hn => cases h.symm.trans hn
  · next hs =>
    cases h.symm.trans hs
    rfl

/-- The loop succeeds exactly on the encoding of a list of sized attributes, and ends at the
end of the buffer. -/
theorem decodeAttrs_eq_some_iff (ho : o ≤ buff.length) :
    decodeAttrs buff o = some (as, o') ↔
      (∀ a ∈ as, a.Sized) ∧ buff.drop o = attrBytes as ∧ o' = buff.length := by
  induction o using decodeAttrs.induct buff generalizing as with
  | case1 o hlt hn =>
    rw [decodeAttrs_none hlt hn]
    refine ⟨(fun h => nomatch h), ?_⟩
    rintro ⟨hs, hd, _⟩
    cases as with
    | nil =>
      have hl := List.drop_eq_nil_iff.1 hd
      omega
    | cons a as =>
      have ha := decodeAttr_eq_some_iff.2 ⟨hs a List.mem_cons_self, rfl, _, hd⟩
      cases hn.symm.trans ha
  | case2 o hlt attr next hs ih =>
    have hnext := (decodeAttr_advances hs).2
    obtain ⟨hsized, rfl, rest, hr⟩ := decodeAttr_eq_some_iff.1 hs
    have hrest : buff.drop (o + attr.bytes.length) = rest := by
      rw [← List.drop_drop, hr, List.drop_left]
    simp only [decodeAttrs_some hlt hs, Option.map_eq_some_iff, Prod.exists, Prod.mk.injEq]
    apply Iff.intro
    · rintro ⟨as, last, h, rfl, rfl⟩
      obtain ⟨has, hd, hl⟩ := (ih hnext).1 h
      refine ⟨List.forall_mem_cons.2 ⟨hsized, has⟩, ?_, hl⟩
      rw [hr, attrBytes_cons, ← hd, hrest]
    · rintro ⟨has, hd, rfl⟩
      cases as with
      | nil =>
        have hl := List.drop_eq_nil_iff.1 hd
        omega
      | cons a as =>
        obtain ⟨ha, htail⟩ := List.forall_mem_cons.1 has
        have hs' := decodeAttr_eq_some_iff.2 ⟨ha, rfl, _, hd⟩
        cases hs.symm.trans hs'
        refine ⟨as, _, (ih hnext).2 ⟨htail, ?_, rfl⟩, rfl, rfl⟩
        rw [hrest]
        exact List.append_cancel_left (hr.symm.trans hd)
  | case3 o hge =>
    have he : o = buff.length := by omega
    subst he
    rw [decodeAttrs_end (Nat.le_refl _), List.drop_length]
    apply Iff.intro
    · rintro h
      cases h
      exact ⟨(fun a ha => nomatch ha), rfl, rfl⟩
    · rintro ⟨_, hd, rfl⟩
      cases as with
      | nil => rfl
      | cons a as => cases hd

/-- The transaction id loop: round `i` reads `buff[temp_offset++ + i]`, so the index moves on
by two. -/
def readTransactionId (buff : Buffer) (offset : Nat) : Option (List.Vector UInt8 16) :=
  List.Vector.mOfFn fun i : Fin 16 => buff[offset + i + i]?

/-- Decode a datagram. The result is `none` when an index outside the buffer is read, and
holds no message when the message type is not supported. -/
def decodeMessage (buff : Buffer) (offset : Option Nat) : Option (Option Message × Option Nat) :=
  let tempOffset := offset.getD 0
  (decodeU16 buff tempOffset).bind fun (messageType, tempOffset) =>
  (decodeU16 buff tempOffset).bind fun (messageLength, tempOffset) =>
  if messageType = MessageType.bindingResponse then
    (readTransactionId buff tempOffset).bind fun transactionId =>
    (decodeAttrs buff (tempOffset + 16)).bind fun (attrs, tempOffset) =>
    some (some ⟨⟨messageType, messageLength, transactionId⟩, attrs⟩,
      offset.map fun _ => tempOffset)
  else some (none, offset.map fun _ => tempOffset)

theorem readTransactionId_eq_some_iff : readTransactionId buff o = some tid ↔
    ∀ i : Fin 16, buff[o + i + i]? = some (tid.get i) := mOfFn_eq_some_iff

theorem readTransactionId_isSome_iff :
    (readTransactionId buff o).isSome ↔ o + 30 < buff.length := by
  rw [Option.isSome_iff_exists]
  apply Iff.intro
  · rintro ⟨tid, h⟩
    have hlast := readTransactionId_eq_some_iff.1 h 15
    exact (List.getElem?_eq_some_iff.1 hlast).1
  · intro h
    have hi (i : Fin 16) : o + i + i < buff.length := by omega
    refine ⟨List.Vector.ofFn fun i : Fin 16 => buff.get ⟨o + i + i, hi i⟩, ?_⟩
    rw [readTransactionId_eq_some_iff]
    intro i
    rw [List.Vector.get_ofFn, List.getElem?_eq_getElem (hi i), List.get_eq_getElem]

theorem decodeMessage_cons (t₁ t₂ l₁ l₂ : UInt8) (rest : Buffer) :
    decodeMessage (t₁ :: t₂ :: l₁ :: l₂ :: rest) none =
      if u16 t₁ t₂ = MessageType.bindingResponse then
        (readTransactionId (t₁ :: t₂ :: l₁ :: l₂ :: rest) 4).bind fun tid =>
        (decodeAttrs (t₁ :: t₂ :: l₁ :: l₂ :: rest) 20).bind fun p =>
        some (some ⟨⟨u16 t₁ t₂, u16 l₁ l₂, tid⟩, p.1⟩, none)
      else some (none, none) := rfl

theorem decodeMessage_short (h : buff.length < 4) : decodeMessage buff none = none := by
  match buff with
  | [] => rfl
  | [_] => rfl
  | [_, _] => rfl
  | [_, _, _] => rfl
  | _ :: _ :: _ :: _ :: _ =>
    simp only [List.length_cons] at h
    omega

end NetSrvMgr.Stun
