import NetSrvMgr.StunAddress

namespace NetSrvMgr.Stun
open ByteBuffer
set_option autoImplicit true

section
variable (littleEndian : Bool)

def storeU16 (n : UInt16) : List UInt8 :=
  if littleEndian then [u16Lo n, u16Hi n] else [u16Hi n, u16Lo n]

/-- `encoder::encode_u16`: the bytes in memory of the converted number. -/
def encoderEncodeU16 (buff : Buffer) (n : UInt16) : Buffer :=
  let temp := htons littleEndian n
  buff ++ storeU16 littleEndian temp

/-- `encoder::encode_u32`: the conversion is the one for 16 bits, and its result is widened. -/
def encoderEncodeU32 (buff : Buffer) (n : UInt32) : Buffer :=
  let temp := (htons littleEndian n.toUInt16).toUInt32
  buff ++ storeU32 littleEndian temp

end

/-- What is appended is read back at the old end of the buffer, which is otherwise kept. -/
structure RoundTrips (encode : Buffer → α → Buffer) (decode : Buffer → Nat → Option (α × Nat))
    (buff : Buffer) (n : α) : Prop where
  decodes : decode (encode buff n) buff.length = some (n, (encode buff n).length)
  keeps : (encode buff n).take buff.length = buff

theorem storeU16_htons (littleEndian : Bool) (n : UInt16) :
    storeU16 littleEndian (htons littleEndian n) = [u16Hi n, u16Lo n] := by
  cases littleEndian with
  | true =>
    rw [storeU16, htons, if_pos rfl, if_pos rfl, u16Lo_u16, u16Hi_u16]
  | false => rfl

theorem encoderEncodeU16_eq (littleEndian : Bool) (buff : Buffer) (n : UInt16) :
    encoderEncodeU16 littleEndian buff n = encodeU16 buff n := by
  rw [encoderEncodeU16, storeU16_htons]
  rfl

theorem u32Bytes_toUInt32 (n : UInt16) : u32Bytes n.toUInt32 = [0, 0, u16Hi n, u16Lo n] := by
  have hn := n.toNat_lt
  have hlow : UInt8.ofNat n.toNat = u16Lo n := by
    apply UInt8.toNat.inj
    rw [u16Lo, UInt8.toNat_ofNat', UInt8.toNat_ofNat']
    omega
  rw [u32Bytes, UInt16.toNat_toUInt32, Nat.div_eq_of_lt (by omega : n.toNat < 16777216),
    Nat.div_eq_of_lt (by omega : n.toNat < 65536), hlow]
  rfl

theorem encoderEncodeU32_eq (buff : Buffer) (n : UInt32) :
    encoderEncodeU32 true buff n = buff ++ [u16Hi n.toUInt16, u16Lo n.toUInt16, 0, 0] := by
  rw [encoderEncodeU32, storeU32, if_pos rfl, u32Bytes_toUInt32, htons, if_pos rfl, u16Hi_u16,
    u16Lo_u16]
  rfl

theorem decodeU16_append (buff rest : Buffer) (hi lo : UInt8) :
    decodeU16 (buff ++ hi :: lo :: rest) buff.length = some (u16 hi lo, buff.length + 2) := by
  apply decodeU16_eq_some_iff.2
  refine ⟨rfl, hi, lo, rest, ?_, rfl⟩
  rw [List.drop_left]

theorem decodeU32_append (buff rest : Buffer) (a b c d : UInt8) :
    decodeU32 (buff ++ a :: b :: c :: d :: rest) buff.length =
      some (u32 a b c d, buff.length + 4) := by
  have hslice : slice (buff ++ a :: b :: c :: d :: rest) buff.length 4 = some [a, b, c, d] := by
    apply slice_eq_some_iff.2
    refine ⟨?_, rest, ?_, rfl⟩
    · rw [List.length_append]
      exact Nat.le_add_right _ _
    · rw [List.drop_left]
      rfl
  rw [decodeU32, hslice]
  rfl

theorem encoderEncodeU16_roundTrips (littleEndian : Bool) (buff : Buffer) (n : UInt16) :
    RoundTrips (encoderEncodeU16 littleEndian) decodeU16 buff n := by
  constructor
  · rw [encoderEncodeU16_eq, encodeU16, decodeU16_append, u16_bytes, List.length_append]
    rfl
  · rw [encoderEncodeU16_eq, encodeU16, List.take_left]

theorem encoderEncodeU32_keeps (littleEndian : Bool) (buff : Buffer) (n : UInt32) :
    (encoderEncodeU32 littleEndian buff n).take buff.length = buff := by
  rw [encoderEncodeU32, List.take_left]

/-- What `decode_u32` reads back: the low half of the number in the place of the high one. -/
theorem decodeU32_encoderEncodeU32 (buff : Buffer) (n : UInt32) :
    decodeU32 (encoderEncodeU32 true buff n) buff.length =
      some (u32 (u16Hi n.toUInt16) (u16Lo n.toUInt16) 0 0,
        (encoderEncodeU32 true buff n).length) := by
  rw [encoderEncodeU32_eq, decodeU32_append, List.length_append]
  rfl

theorem u32_high_toNat (n : UInt16) :
    (u32 (u16Hi n) (u16Lo n) 0 0).toNat = n.toNat * 65536 := by
  have hn := n.toNat_lt
  have hbytes := u16_toNat (u16Hi n) (u16Lo n)
  rw [u16_bytes] at hbytes
  rw [u32, UInt32.toNat_ofNat', UInt8.toNat_zero, Nat.mod_eq_of_lt (by omega)]
  omega

theorem u32_high_eq_iff (n : UInt32) :
    u32 (u16Hi n.toUInt16) (u16Lo n.toUInt16) 0 0 = n ↔ n = 0 := by
  have hn := n.toNat_lt
  rw [← UInt32.toNat_inj, u32_high_toNat, UInt32.toNat_toUInt16, ← UInt32.toNat_inj]
  have hzero : (0 : UInt32).toNat = 0 := rfl
  rw [hzero]
  omega

/-- Both encoders keep the buffer and append what the decoders read over; the 16-bit number is
read back, the 32-bit number only if it is zero. -/
theorem encoder_roundTrips_iff (buff : Buffer) (n : UInt16) (m : UInt32) :
    (RoundTrips (encoderEncodeU16 true) decodeU16 buff n ∧
      RoundTrips (encoderEncodeU32 true) decodeU32 buff m) ↔ m = 0 := by
  apply Iff.intro
  · intro h
    have hdec := h.2.decodes
    rw [decodeU32_encoderEncodeU32, Option.some.injEq, Prod.mk.injEq] at hdec
    exact (u32_high_eq_iff m).1 hdec.1
  · intro hm
    apply And.intro (encoderEncodeU16_roundTrips true buff n)
    apply RoundTrips.mk _ (encoderEncodeU32_keeps true buff m)
    rw [decodeU32_encoderEncodeU32, (u32_high_eq_iff m).2 hm]

theorem encoderEncodeU32_loses_one :
    ¬∀ (buff : Buffer) (n : UInt32), RoundTrips (encoderEncodeU32 true) decodeU32 buff n := by
  intro h
  have hdec := (h [] 1).decodes
  have hwrong : decodeU32 (encoderEncodeU32 true [] 1) 0 = some (65536, 4) := by decide
  rw [List.length_nil, hwrong] at hdec
  exact absurd hdec (by decide)

/-- Iterations of the loop in `decode_message`: the attributes they decode, from one offset to
another. -/
inductive AttrIterations (buff : Buffer) : Nat → List Attribute → Nat → Prop where
  | nil : AttrIterations buff o [] o
  | cons (hlt : o < buff.length) (h : decodeAttr buff o = some (a, next))
      (hr : AttrIterations buff next as last) : AttrIterations buff o (a :: as) last

theorem AttrIterations.advances (h : AttrIterations buff o as last) :
    o + 4 * as.length ≤ last ∧ last ≤ max o buff.length := by
  induction h with
  | nil => exact ⟨Nat.le_refl _, Nat.le_max_left _ _⟩
  | cons hlt h hr ih =>
    obtain ⟨hnext, hle⟩ := decodeAttr_advances h
    obtain ⟨hlast, hend⟩ := ih
    rw [List.length_cons]
    omega

theorem AttrIterations.decodes (h : AttrIterations buff o as buff.length) :
    decodeAttrs buff o = some (as, buff.length) := by
  generalize hlast : buff.length = last at h
  induction h with
  | nil => exact decodeAttrs_end (Nat.le_of_eq hlast)
  | cons hlt h hr ih =>
    rw [decodeAttrs_some hlt h, ih hlast]
    rfl

theorem attrIterations_encode (start : Buffer) (as : List Attribute) (hs : ∀ a ∈ as, a.Sized) :
    AttrIterations (start ++ attrBytes as) start.length as (start ++ attrBytes as).length := by
  induction as generalizing start with
  | nil =>
    rw [attrBytes, List.flatMap_nil, List.append_nil]
    exact .nil
  | cons a as ih =>
    obtain ⟨ha, has⟩ := List.forall_mem_cons.1 hs
    have hiter := ih (start ++ a.bytes) has
    rw [List.append_assoc, ← attrBytes_cons, List.length_append] at hiter
    refine .cons ?_ ?_ hiter
    · rw [List.length_append, attrBytes_cons, List.length_append, a.bytes_length]
      omega
    · apply decodeAttr_eq_some_iff.2
      refine ⟨ha, rfl, attrBytes as, ?_⟩
      rw [List.drop_left]
      rfl

/-- The attributes that follow any bytes are decoded as they were encoded, up to the end of the
buffer; in any buffer, iterations are at most one for every four bytes. -/
theorem decodeAttrs_encode (start : Buffer) (as : List Attribute) (hs : ∀ a ∈ as, a.Sized) :
    decodeAttrs (start ++ as.foldl encodeAttr []) start.length =
        some (as, (start ++ as.foldl encodeAttr []).length) ∧
      ∀ buff o as' last, AttrIterations buff o as' last →
        o + 4 * as'.length ≤ last ∧ last ≤ max o buff.length := by
  have henc : as.foldl encodeAttr [] = attrBytes as := foldl_encodeAttr [] as
  apply And.intro
  · rw [henc]
    exact (attrIterations_encode start as hs).decodes
  · intro buff o as' last h
    exact h.advances

theorem decodeAttrs_encode_header :
    decodeAttrs ([7, 7, 7] ++ [(⟨1, 2, [8, 9]⟩ : Attribute), ⟨2, 0, []⟩].foldl encodeAttr []) 3 =
        some ([⟨1, 2, [8, 9]⟩, ⟨2, 0, []⟩], 13) ∧
      ∀ buff o as' last, AttrIterations buff o as' last →
        o + 4 * as'.length ≤ last ∧ last ≤ max o buff.length :=
  decodeAttrs_encode [7, 7, 7] [⟨1, 2, [8, 9]⟩, ⟨2, 0, []⟩] (by decide)

end NetSrvMgr.Stun
