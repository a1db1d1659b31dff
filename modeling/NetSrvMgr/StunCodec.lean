import NetSrvMgr.StunDecoder

namespace NetSrvMgr.Stun
open ByteBuffer
set_option autoImplicit true

/-- Byte strings cut exactly into attributes: a four-byte header, then as many bytes as its
length field says. -/
inductive Tiles : Buffer → Prop where
  | nil : Tiles []
  | cons {value rest : Buffer} (t₁ t₂ l₁ l₂ : UInt8) (hv : value.length = l₁.toNat * 256 + l₂.toNat)
      (hr : Tiles rest) : Tiles (t₁ :: t₂ :: l₁ :: l₂ :: (value ++ rest))

/-- A binding response as the protocol frames it. -/
def WellFormedResponse (b : Buffer) : Prop :=
  ∃ l₁ l₂ tid attrs, b = 0x01 :: 0x01 :: l₁ :: l₂ :: (tid ++ attrs) ∧ tid.length = 16 ∧
    l₁.toNat * 256 + l₂.toNat = b.length - 20 ∧ Tiles attrs

theorem tiles_attrBytes (h : ∀ a ∈ as, a.Sized) : Tiles (attrBytes as) := by
  induction as with
  | nil => exact .nil
  | cons a as ih =>
    obtain ⟨ha, has⟩ := List.forall_mem_cons.1 h
    refine .cons _ _ _ _ ?_ (ih has)
    rw [← u16_toNat, u16_bytes]
    exact ha.symm

theorem Tiles.attrs (h : Tiles b) : ∃ as, (∀ a ∈ as, a.Sized) ∧ b = attrBytes as := by
  induction h with
  | nil => exact ⟨[], (fun a ha => nomatch ha), rfl⟩
  | @cons value rest t₁ t₂ l₁ l₂ hv hr ih =>
    obtain ⟨as, has, he⟩ := ih
    refine ⟨⟨u16 t₁ t₂, u16 l₁ l₂, value⟩ :: as, List.forall_mem_cons.2 ⟨?_, has⟩, ?_⟩
    · exact (u16_toNat l₁ l₂).trans hv.symm
    · rw [attrBytes_cons, Attribute.bytes_eq, u16Hi_u16, u16Lo_u16, u16Hi_u16, u16Lo_u16, he]
      rfl

theorem decodeAttrs_isSome_iff (ho : o ≤ buff.length) :
    (decodeAttrs buff o).isSome ↔ Tiles (buff.drop o) := by
  simp only [Option.isSome_iff_exists, Prod.exists, decodeAttrs_eq_some_iff ho]
  apply Iff.intro
  · rintro ⟨as, _, has, hd, _⟩
    rw [hd]
    exact tiles_attrBytes has
  · intro h
    obtain ⟨as, has, hd⟩ := h.attrs
    exact ⟨as, _, has, hd, rfl⟩

/-- The transaction id the decoder reads from an encoded message agrees with the one that was
written: byte `i` is taken from position `2 * i` behind the first four bytes. -/
def TransactionIdAligned (m : Message) : Prop :=
  ∀ i : Fin 16, (m.header.transactionId.toList ++ attrBytes m.attrs)[2 * i.val]? =
    some (m.header.transactionId.get i)

theorem Message.encode_drop (m : Message) : m.encode.drop 20 = attrBytes m.attrs := by
  have htid : m.header.transactionId.toList.length = 16 := m.header.transactionId.toList_length
  rw [Message.encode_eq]
  simp only [List.drop_succ_cons]
  exact List.drop_left' htid

theorem Message.encode_length (m : Message) :
    m.encode.length = 20 + (attrBytes m.attrs).length := by
  have htid : m.header.transactionId.toList.length = 16 := m.header.transactionId.toList_length
  rw [Message.encode_eq]
  simp only [List.length_cons, List.length_append, htid]
  omega

theorem Message.encode_getElem? (m : Message) (i : Nat) :
    m.encode[4 + i + i]? = (m.header.transactionId.toList ++ attrBytes m.attrs)[2 * i]? := by
  have hi : 4 + i + i = 2 * i + 4 := by omega
  rw [Message.encode_eq, hi]
  simp only [List.getElem?_cons_succ]

instance (m : Message) : Decidable (TransactionIdAligned m) :=
  inferInstanceAs (Decidable (∀ _ : Fin 16, _ = _))

theorem decodeMessage_encode (m : Message)
    (ht : m.header.messageType = MessageType.bindingResponse)
    (ha : ∀ a ∈ m.attrs, a.Sized) :
    decodeMessage m.encode none =
      (readTransactionId m.encode 4).map fun tid =>
        (some ⟨⟨m.header.messageType, m.header.messageLength, tid⟩, m.attrs⟩, none) := by
  have hdec := Message.encode_eq m
  have hattrs : decodeAttrs m.encode 20 = some (m.attrs, m.encode.length) := by
    have hl := m.encode_length
    exact (decodeAttrs_eq_some_iff (by omega)).2 ⟨ha, m.encode_drop, rfl⟩
  rw [hdec, decodeMessage_cons, u16_bytes, u16_bytes, if_pos ht, ← hdec, hattrs,
    Option.map_eq_bind]
  rfl

/-- Decoding an encoded binding response returns the message exactly when the skewed
transaction id loop happens to read the id back. -/
theorem decodeMessage_encode_iff (m : Message)
    (ht : m.header.messageType = MessageType.bindingResponse)
    (ha : ∀ a ∈ m.attrs, a.Sized) :
    decodeMessage m.encode none = some (some m, none) ↔ TransactionIdAligned m := by
  have htid : readTransactionId m.encode 4 = some m.header.transactionId ↔
      TransactionIdAligned m := by
    simp only [readTransactionId_eq_some_iff, m.encode_getElem?, TransactionIdAligned]
  rw [decodeMessage_encode m ht ha, ← htid, Option.map_eq_some_iff]
  apply Iff.intro
  · rintro ⟨tid, hr, he⟩
    rw [hr]
    have hm := congrArg Prod.fst he
    rw [← Option.some.inj hm]
  · intro hr
    exact ⟨_, hr, rfl⟩

theorem decodeMessage_encode_zeros :
    let m : Message := ⟨⟨MessageType.bindingResponse, 20, List.Vector.replicate 16 0⟩,
      [⟨0, 0, []⟩, ⟨0, 0, []⟩, ⟨0, 0, []⟩, ⟨0, 0, []⟩, ⟨0, 0, []⟩]⟩
    decodeMessage m.encode none = some (some m, none) :=
  (decodeMessage_encode_iff _ rfl (by decide)).2 (by decide)

/-- The usual answer of a server: one IPv4 `MAPPED-ADDRESS` attribute, 32 bytes in all. -/
def mappedAddressResponse : Message where
  header := ⟨MessageType.bindingResponse, 12,
    ⟨[0, 1, 2, 3, 4, 5, 6, 7, 8, 9, 10, 11, 12, 13, 14, 15], rfl⟩⟩
  attrs := [⟨AttributeType.mappedAddress, 8, [0, 1, 0x1f, 0x90, 192, 0, 2, 1]⟩]

theorem decodeMessage_encode_mappedAddressResponse :
    mappedAddressResponse.header.messageType = MessageType.bindingResponse ∧
      (∀ a ∈ mappedAddressResponse.attrs, a.Sized) ∧
      decodeMessage mappedAddressResponse.encode none ≠
        some (some mappedAddressResponse, none) := by
  have hd : decodeMessage mappedAddressResponse.encode none = none := rfl
  refine ⟨rfl, by decide, ?_⟩
  rw [hd]
  exact fun h => nomatch h

theorem wellFormedResponse_cons_iff : WellFormedResponse (t₁ :: t₂ :: l₁ :: l₂ :: rest) ↔
    (t₁ = 0x01 ∧ t₂ = 0x01) ∧ 16 ≤ rest.length ∧ (u16 l₁ l₂).toNat = rest.length - 16 ∧
      Tiles (rest.drop 16) := by
  apply Iff.intro
  · rintro ⟨_, _, tid, attrs, he, htid, hl, htiles⟩
    cases he
    refine ⟨⟨rfl, rfl⟩, ?_, ?_, ?_⟩
    · rw [List.length_append]
      omega
    · rw [u16_toNat, hl]
      simp only [List.length_cons]
      omega
    · rw [← htid, List.drop_left]
      exact htiles
  · rintro ⟨⟨rfl, rfl⟩, hle, hl, htiles⟩
    refine ⟨l₁, l₂, rest.take 16, rest.drop 16, by rw [List.take_append_drop], ?_, ?_, htiles⟩
    · rw [List.length_take]
      omega
    · rw [← u16_toNat, hl]
      simp only [List.length_cons]
      omega

theorem u16_eq_bindingResponse_iff :
    u16 t₁ t₂ = MessageType.bindingResponse ↔ t₁ = 0x01 ∧ t₂ = 0x01 := by
  apply Iff.intro
  · intro h
    have hh := congrArg u16Hi h
    have hl := congrArg u16Lo h
    rw [u16Hi_u16] at hh
    rw [u16Lo_u16] at hl
    exact ⟨hh, hl⟩
  · rintro ⟨rfl, rfl⟩
    rfl

/-- Decoding a datagram reads only bytes it has, and returns a message for the well-formed
responses alone, exactly when the datagram has its type and length fields and is either of
another type or a well-formed response with at least fifteen bytes of attributes. -/
theorem decodeMessage_safe_iff (b : Buffer) :
    (∃ r, decodeMessage b none = some r ∧ (r.1.isSome ↔ WellFormedResponse b)) ↔
      4 ≤ b.length ∧
        (b.take 2 ≠ [0x01, 0x01] ∨ 35 ≤ b.length ∧ WellFormedResponse b) := by
  rcases Nat.lt_or_ge b.length 4 with hlt | hge
  · rw [decodeMessage_short hlt]
    apply Iff.intro
    · rintro ⟨r, hr, _⟩
      cases hr
    · rintro ⟨hle, _⟩
      omega
  obtain ⟨t₁, t₂, l₁, l₂, rest, rfl⟩ : ∃ t₁ t₂ l₁ l₂ rest, b = t₁ :: t₂ :: l₁ :: l₂ :: rest := by
    match b, hge with
    | t₁ :: t₂ :: l₁ :: l₂ :: rest, _ => exact ⟨t₁, t₂, l₁, l₂, rest, rfl⟩
  rw [decodeMessage_cons]
  by_cases ht : u16 t₁ t₂ = MessageType.bindingResponse
  · rw [if_pos ht]
    obtain ⟨rfl, rfl⟩ := u16_eq_bindingResponse_iff.1 ht
    apply Iff.intro
    · rintro ⟨r, hr, hwf⟩
      obtain ⟨tid, htid, p, hp, rfl⟩ := by
        simpa only [Option.bind_eq_some_iff, Option.some.injEq] using hr
      have hlen := readTransactionId_isSome_iff.1 (Option.isSome_iff_exists.2 ⟨tid, htid⟩)
      exact ⟨hge, .inr ⟨hlen, hwf.1 rfl⟩⟩
    · rintro ⟨_, hne | ⟨hlen, hwf⟩⟩
      · exact (hne rfl).elim
      obtain ⟨tid, htid⟩ := Option.isSome_iff_exists.1 (readTransactionId_isSome_iff.2 hlen)
      have htiles := (wellFormedResponse_cons_iff.1 hwf).2.2.2
      obtain ⟨p, hp⟩ : ∃ p, decodeAttrs (0x01 :: 0x01 :: l₁ :: l₂ :: rest) 20 = some p :=
        Option.isSome_iff_exists.1 ((decodeAttrs_isSome_iff (by omega)).2 htiles)
      rw [htid, Option.bind_some, hp]
      exact ⟨_, rfl, ⟨fun _ => hwf, fun _ => rfl⟩⟩
  · rw [if_neg ht]
    have hnot : ¬(t₁ = 0x01 ∧ t₂ = 0x01) := fun h => ht (u16_eq_bindingResponse_iff.2 h)
    apply Iff.intro
    · rintro _
      refine ⟨hge, .inl fun he => hnot ?_⟩
      cases he
      exact ⟨rfl, rfl⟩
    · rintro _
      refine ⟨_, rfl, ⟨(fun h => nomatch h), fun h => ?_⟩⟩
      exact (hnot (wellFormedResponse_cons_iff.1 h).1).elim

/-- The bytes of the usual answer make the decoder read behind the end of the datagram. -/
theorem decodeMessage_unsafe_mappedAddressResponse :
    ¬∃ r, decodeMessage mappedAddressResponse.encode none = some r ∧
      (r.1.isSome ↔ WellFormedResponse mappedAddressResponse.encode) := by
  rintro ⟨r, hr, _⟩
  have hd : decodeMessage mappedAddressResponse.encode none = none := rfl
  cases hd.symm.trans hr

end NetSrvMgr.Stun
