import NetSrvMgr.StunDecoder

namespace NetSrvMgr.Stun
open ByteBuffer
set_option autoImplicit true

inductive AddressFamily
  | afInet | afInet6
  deriving DecidableEq

/-- A socket address: its port as the number that the host reads in the field, and the bytes of
the address in memory. -/
structure SockaddrStorage where
  ssFamily : AddressFamily
  port : UInt16
  addr : List UInt8
  deriving DecidableEq

section
variable (littleEndian : Bool)

def htons (n : UInt16) : UInt16 := if littleEndian then u16 (u16Lo n) (u16Hi n) else n

def htonl (n : UInt32) : UInt32 :=
  if littleEndian then
    match u32Bytes n with
    | [a, b, c, d] => u32 d c b a
    | _ => n
  else n

/-- How the host stores a number. -/
def storeU32 (n : UInt32) : List UInt8 :=
  if littleEndian then (u32Bytes n).reverse else u32Bytes n

def decodeU32 (buff : Buffer) (offset : Nat) : Option (UInt32 × Nat) :=
  (slice buff offset 4).bind fun bytes =>
    match bytes with
    | [a, b, c, d] => some (u32 a b c d, offset + 4)
    | _ => none

/-- The constructor `address(attribute const &)`: the address, or the family of the exception;
`none` where an index outside the value is read. -/
def address (value : Buffer) : Option (Except UInt16 SockaddrStorage) :=
  (decodeU16 value 0).bind fun (family, offset) =>
  if family = 1 then
    -- the port goes into its field as decoded
    (decodeU16 value offset).bind fun (port, offset) =>
    (decodeU32 value offset).bind fun (addr, _) =>
    some (.ok ⟨.afInet, port, storeU32 littleEndian (htonl littleEndian addr)⟩)
  else if family = 2 then
    (decodeU16 value offset).bind fun (port, offset) =>
    (slice value offset 16).bind fun addr =>
    some (.ok ⟨.afInet6, port, addr⟩)
  else some (.error family)

/-- Both families keep their port in the same way. -/
def sockaddrGetPort (addr : SockaddrStorage) : UInt16 := htons littleEndian addr.port

/-- The wire encoding of an address. -/
def wireAddress (family port : UInt16) (addr : List UInt8) : Buffer :=
  u16Hi family :: u16Lo family :: u16Hi port :: u16Lo port :: addr

def wireFamily (value : Buffer) : Option UInt16 := (decodeU16 value 0).map Prod.fst

/-- Another family, or shorter than the family requires. -/
def Malformed (value : Buffer) : Prop :=
  (wireFamily value ≠ some 1 ∧ wireFamily value ≠ some 2) ∨
    (wireFamily value = some 1 ∧ value.length < 8) ∨
    (wireFamily value = some 2 ∧ value.length < 20)

def Yields (value : Buffer) (family : AddressFamily) (port : UInt16) (addr : List UInt8) : Prop :=
  ∃ a, address littleEndian value = some (.ok a) ∧ a.ssFamily = family ∧ a.addr = addr ∧
    sockaddrGetPort littleEndian a = port

/-- A value that starts with the encoding of an address yields this address, and one that is
malformed is rejected. -/
structure DecodesAddress (value : Buffer) : Prop where
  inet : ∀ port addr rest, addr.length = 4 → value = wireAddress 1 port addr ++ rest →
    Yields littleEndian value .afInet port addr
  inet6 : ∀ port addr rest, addr.length = 16 → value = wireAddress 2 port addr ++ rest →
    Yields littleEndian value .afInet6 port addr
  rejects : Malformed value → ∃ family, address littleEndian value = some (.error family)

/-- The value has a family and what the family requires, and, on a little-endian host, two equal
bytes for its port. -/
def PortKept (value : Buffer) : Prop :=
  wireFamily value ≠ none ∧
    (wireFamily value = some 1 →
      8 ≤ value.length ∧ (littleEndian = true → value[2]? = value[3]?)) ∧
    (wireFamily value = some 2 →
      20 ≤ value.length ∧ (littleEndian = true → value[2]? = value[3]?))

end

theorem storeU32_htonl (littleEndian : Bool) (a b c d : UInt8) :
    storeU32 littleEndian (htonl littleEndian (u32 a b c d)) = [a, b, c, d] := by
  rw [storeU32, htonl, u32Bytes_u32]
  cases littleEndian with
  | true => exact congrArg List.reverse (u32Bytes_u32 d c b a)
  | false => exact u32Bytes_u32 a b c d

theorem htons_u16_iff (littleEndian : Bool) (hi lo : UInt8) :
    htons littleEndian (u16 hi lo) = u16 hi lo ↔ (littleEndian = true → hi = lo) := by
  rw [htons, u16Hi_u16, u16Lo_u16]
  cases littleEndian with
  | true =>
    rw [if_pos rfl, forall_prop_of_true rfl]
    apply Iff.intro
    · intro h
      have hhi := congrArg u16Hi h
      rw [u16Hi_u16, u16Hi_u16] at hhi
      exact hhi.symm
    · intro h
      rw [h]
  | false => exact iff_of_true rfl (fun h => by cases h)

/-- The conversion of the port leaves it alone where its two bytes are the same. -/
theorem htons_eq_iff (littleEndian : Bool) (port : UInt16) :
    htons littleEndian port = port ↔ (littleEndian = true → u16Hi port = u16Lo port) := by
  rw [← htons_u16_iff, u16_bytes]

variable {littleEndian : Bool}

theorem address_of_noFamily (h : wireFamily value = none) : address littleEndian value = none := by
  rw [address, Option.map_eq_none_iff.1 h]
  rfl

theorem decodeU16_of_family (h : wireFamily value = some family) :
    decodeU16 value 0 = some (family, 2) := by
  obtain ⟨⟨n, offset⟩, hdec, rfl⟩ := Option.map_eq_some_iff.1 h
  obtain ⟨rfl, _⟩ := decodeU16_eq_some_iff.1 hdec
  exact hdec

theorem address_of_other (h : wireFamily value = some family) (h₁ : family ≠ 1)
    (h₂ : family ≠ 2) : address littleEndian value = some (.error family) := by
  rw [address, decodeU16_of_family h]
  dsimp only [Option.bind_some]
  rw [if_neg h₁, if_neg h₂]

theorem wireFamily_wireAddress (family port : UInt16) (addr rest : Buffer) :
    wireFamily (wireAddress family port addr ++ rest) = some family := by
  have hfamily : decodeU16 (wireAddress family port addr ++ rest) 0 = some (family, 2) :=
    decodeU16_eq_some_iff.2 ⟨rfl, _, _, _, rfl, (u16_bytes family).symm⟩
  rw [wireFamily, hfamily]
  rfl

theorem decodeU16_wireAddress (family port : UInt16) (addr rest : Buffer) :
    decodeU16 (wireAddress family port addr ++ rest) 2 = some (port, 4) :=
  decodeU16_eq_some_iff.2 ⟨rfl, _, _, _, rfl, (u16_bytes port).symm⟩

theorem slice_wireAddress (family port : UInt16) (addr rest : Buffer) :
    slice (wireAddress family port addr ++ rest) 4 addr.length = some addr := by
  apply slice_eq_some_iff.2
  exact ⟨Nat.le_add_left 4 _, rest, rfl, rfl⟩

theorem address_wireAddress_inet (port : UInt16) (rest : Buffer) (h : addr.length = 4) :
    address littleEndian (wireAddress 1 port addr ++ rest) =
      some (.ok ⟨.afInet, port, addr⟩) := by
  have haddr := slice_wireAddress 1 port addr rest
  rw [h] at haddr
  obtain ⟨a, b, c, d, rfl⟩ := List.length_eq_four.1 h
  rw [address, decodeU16_of_family (wireFamily_wireAddress 1 port _ rest)]
  dsimp only [Option.bind_some]
  rw [if_pos rfl, decodeU16_wireAddress]
  dsimp only [Option.bind_some]
  rw [decodeU32, haddr]
  dsimp only [Option.bind_some]
  rw [storeU32_htonl]

theorem address_wireAddress_inet6 (port : UInt16) (rest : Buffer) (h : addr.length = 16) :
    address littleEndian (wireAddress 2 port addr ++ rest) =
      some (.ok ⟨.afInet6, port, addr⟩) := by
  have haddr := slice_wireAddress 2 port addr rest
  rw [h] at haddr
  rw [address, decodeU16_of_family (wireFamily_wireAddress 2 port addr rest)]
  dsimp only [Option.bind_some]
  rw [if_neg (by decide), if_pos rfl, decodeU16_wireAddress]
  dsimp only [Option.bind_some]
  rw [haddr]
  rfl

theorem wireAddress_of_length (h : wireFamily value = some family) (hlen : 4 + n ≤ value.length) :
    ∃ port addr rest, addr.length = n ∧ value = wireAddress family port addr ++ rest := by
  obtain ⟨_, f₁, f₂, bytes, hvalue, rfl⟩ := decodeU16_eq_some_iff.1 (decodeU16_of_family h)
  rw [List.drop_zero] at hvalue
  obtain ⟨p₁, p₂, tail, rfl⟩ : ∃ p₁ p₂ tail, bytes = p₁ :: p₂ :: tail := by
    rw [hvalue] at hlen
    match bytes, hlen with
    | [], hlen => simp only [List.length_cons, List.length_nil] at hlen; omega
    | [_], hlen => simp only [List.length_cons, List.length_nil] at hlen; omega
    | p₁ :: p₂ :: tail, _ => exact ⟨p₁, p₂, tail, rfl⟩
  refine ⟨u16 p₁ p₂, tail.take n, tail.drop n, ?_, ?_⟩
  · rw [hvalue] at hlen
    simp only [List.length_cons] at hlen
    rw [List.length_take]
    omega
  · rw [hvalue, wireAddress, u16Hi_u16, u16Lo_u16, u16Hi_u16, u16Lo_u16]
    simp only [List.cons_append, List.take_append_drop]

theorem address_inet_short (h : wireFamily value = some 1) (hlen : value.length < 8) :
    address littleEndian value = none := by
  rw [address, decodeU16_of_family h]
  dsimp only [Option.bind_some]
  rw [if_pos rfl]
  cases hport : decodeU16 value 2 with
  | none => rfl
  | some p =>
    obtain ⟨port, offset⟩ := p
    obtain ⟨rfl, _⟩ := decodeU16_eq_some_iff.1 hport
    have hslice : slice value 4 4 = none := if_neg (by omega)
    dsimp only [Option.bind_some]
    rw [decodeU32, hslice]
    rfl

theorem address_inet6_short (h : wireFamily value = some 2) (hlen : value.length < 20) :
    address littleEndian value = none := by
  rw [address, decodeU16_of_family h]
  dsimp only [Option.bind_some]
  rw [if_neg (by decide), if_pos rfl]
  cases hport : decodeU16 value 2 with
  | none => rfl
  | some p =>
    obtain ⟨port, offset⟩ := p
    obtain ⟨rfl, _⟩ := decodeU16_eq_some_iff.1 hport
    have hslice : slice value 4 16 = none := if_neg (by omega)
    dsimp only [Option.bind_some]
    rw [hslice]
    rfl

/-- Only another family is rejected: a value that is too short is read past its end. -/
theorem address_rejects_iff :
    (Malformed value → ∃ family, address littleEndian value = some (.error family)) ↔
      wireFamily value ≠ none ∧ (wireFamily value = some 1 → 8 ≤ value.length) ∧
        (wireFamily value = some 2 → 20 ≤ value.length) := by
  apply Iff.intro
  · intro h
    refine ⟨?_, ?_, ?_⟩
    · intro hnone
      obtain ⟨family, herror⟩ := h (Or.inl (by rw [hnone]; decide))
      rw [address_of_noFamily hnone] at herror
      cases herror
    · intro hfamily
      by_contra hlen
      obtain ⟨family, herror⟩ := h (Or.inr (Or.inl ⟨hfamily, by omega⟩))
      rw [address_inet_short hfamily (by omega)] at herror
      cases herror
    · intro hfamily
      by_contra hlen
      obtain ⟨family, herror⟩ := h (Or.inr (Or.inr ⟨hfamily, by omega⟩))
      rw [address_inet6_short hfamily (by omega)] at herror
      cases herror
  · intro h hbad
    obtain ⟨hsome, hinet, hinet6⟩ := h
    obtain ⟨family, hfamily⟩ := Option.ne_none_iff_exists'.1 hsome
    rcases hbad with ⟨h₁, h₂⟩ | ⟨h₁, hlen⟩ | ⟨h₂, hlen⟩
    · rw [hfamily] at h₁ h₂
      have h₁ : family ≠ 1 := fun he => h₁ (congrArg some he)
      have h₂ : family ≠ 2 := fun he => h₂ (congrArg some he)
      exact ⟨family, address_of_other hfamily h₁ h₂⟩
    · have := hinet h₁
      omega
    · have := hinet6 h₂
      omega

theorem yields_iff
    (h : address littleEndian (wireAddress f port addr ++ rest) = some (.ok ⟨family, port, addr⟩)) :
    Yields littleEndian (wireAddress f port addr ++ rest) family port addr ↔
      (littleEndian = true →
        (wireAddress f port addr ++ rest)[2]? = (wireAddress f port addr ++ rest)[3]?) := by
  have hbytes : (wireAddress f port addr ++ rest)[2]? = (wireAddress f port addr ++ rest)[3]? ↔
      u16Hi port = u16Lo port := Option.some_inj
  rw [hbytes, ← htons_eq_iff]
  apply Iff.intro
  · intro hyields
    obtain ⟨a, ha, _, _, hport⟩ := hyields
    rw [h, Option.some.injEq, Except.ok.injEq] at ha
    rw [← ha] at hport
    exact hport
  · intro hport
    exact ⟨_, h, rfl, rfl, hport⟩

/-- The host keeps the port in its own byte order, so that converting it once more gives it back
only where the order makes no difference; no length is checked. -/
theorem address_decodes_iff (littleEndian : Bool) (value : Buffer) :
    DecodesAddress littleEndian value ↔ PortKept littleEndian value := by
  apply Iff.intro
  · intro hdec
    obtain ⟨hsome, hinet, hinet6⟩ := address_rejects_iff.1 hdec.rejects
    refine ⟨hsome, ?_, ?_⟩
    · intro hfamily
      apply And.intro (hinet hfamily)
      obtain ⟨port, addr, rest, hlen, rfl⟩ := wireAddress_of_length (n := 4) hfamily (hinet hfamily)
      exact (yields_iff (address_wireAddress_inet port rest hlen)).1
        (hdec.inet port addr rest hlen rfl)
    · intro hfamily
      apply And.intro (hinet6 hfamily)
      obtain ⟨port, addr, rest, hlen, rfl⟩ :=
        wireAddress_of_length (n := 16) hfamily (hinet6 hfamily)
      exact (yields_iff (address_wireAddress_inet6 port rest hlen)).1
        (hdec.inet6 port addr rest hlen rfl)
  · intro hkept
    obtain ⟨hsome, hinet, hinet6⟩ := hkept
    constructor
    · intro port addr rest hlen hvalue
      obtain rfl := hvalue
      exact (yields_iff (address_wireAddress_inet port rest hlen)).2
        (hinet (wireFamily_wireAddress 1 port addr rest)).2
    · intro port addr rest hlen hvalue
      obtain rfl := hvalue
      exact (yields_iff (address_wireAddress_inet6 port rest hlen)).2
        (hinet6 (wireFamily_wireAddress 2 port addr rest)).2
    · exact address_rejects_iff.2 ⟨hsome, fun h => (hinet h).1, fun h => (hinet6 h).1⟩

/-- Port 3478 of 192.0.2.1 is read back as 38413 on a little-endian host. -/
theorem address_swapsPort : ¬∀ littleEndian value, DecodesAddress littleEndian value := by
  intro h
  obtain ⟨a, ha, _, _, hport⟩ :=
    (h true (wireAddress 1 3478 [192, 0, 2, 1])).inet 3478 [192, 0, 2, 1] [] rfl rfl
  have hswapped : address true (wireAddress 1 3478 [192, 0, 2, 1]) =
      some (.ok ⟨.afInet, 3478, [192, 0, 2, 1]⟩) := by decide
  rw [hswapped, Option.some.injEq, Except.ok.injEq] at ha
  rw [← ha] at hport
  exact absurd hport (by decide)

end NetSrvMgr.Stun
