import NetSrvMgr.IfaceAgreement

namespace NetSrvMgr.Ip
open CString
set_option autoImplicit true

/-- Two bytes of an IPv6 address, which are printed together. -/
abbrev Group := BitVec 8 × BitVec 8

def byteDigits (b : BitVec 8) : List (Fin 16) := [Fin.ofNat 16 (b.toNat / 16), Fin.ofNat 16 b.toNat]

def digitText (d : Fin 16) : Char := Nat.digitChar d

/-- Leading zeros are not printed, but a zero is. -/
def groupDigits (g : Group) : List (Fin 16) :=
  match (byteDigits g.1 ++ byteDigits g.2).dropWhile (· = 0) with
  | [] => [0]
  | d :: ds => d :: ds

def groupText (g : Group) : CStr := (groupDigits g).map digitText

def joinGroups : List Group → CStr
  | [] => []
  | [g] => groupText g
  | g :: gs => groupText g ++ ':' :: joinGroups gs

/-- An IPv6 address as it is printed: the zero groups that "::" stands for, if any, lie between
the groups before and after it. -/
structure PrintedAddr where
  before : List Group
  elided : Nat
  after : List Group
  complete : before.length + elided + after.length = 8
  prefixlen : Option (Fin 129)
  deriving DecidableEq

def PrintedAddr.groups (p : PrintedAddr) : List Group :=
  p.before ++ List.replicate p.elided (0, 0) ++ p.after

def PrintedAddr.prefixText (p : PrintedAddr) : CStr :=
  match p.prefixlen with
  | none => []
  | some n => '/' :: Nat.toDigits 10 n

def PrintedAddr.text (p : PrintedAddr) : CStr :=
  (if p.elided = 0 then joinGroups (p.before ++ p.after)
    else joinGroups p.before ++ "::".toList ++ joinGroups p.after) ++ p.prefixText

example :
    (PrintedAddr.mk [(0xfe, 0x80)] 4 [(2, 0x11), (0x0a, 0xff), (0, 0)] rfl (some 64)).text =
      "fe80::211:aff:0/64".toList := by
  decide

/-- The low 64 bits. -/
def PrintedAddr.interfaceId (p : PrintedAddr) : List Group := p.groups.drop 4

def Mac.byte (mac : Mac) (i : Nat) : BitVec 8 := if h : i < 6 then mac ⟨i, h⟩ else 0

/-- The modified EUI-64 of a MAC address. -/
def modifiedEui64 (mac : Mac) : List Group :=
  [(mac.byte 0 ^^^ 2, mac.byte 1), (mac.byte 2, 0xff), (0xfe, mac.byte 3), (mac.byte 4, mac.byte 5)]

/-- The digits of an address that are printed. -/
def PrintedAddr.shown (p : PrintedAddr) : List (Fin 16) :=
  (p.before ++ p.after).flatMap groupDigits

/-- The digits of a modified EUI-64 after its first byte. -/
def eui64Tail (mac : Mac) : List (Fin 16) :=
  [mac.byte 1, mac.byte 2, 0xff, 0xfe, mac.byte 3, mac.byte 4, mac.byte 5].flatMap byteDigits

/-- No digit of that tail is a leading zero of its group. -/
def ZerosKept (mac : Mac) : Prop :=
  (mac.byte 0 ^^^ 2 ≠ 0 ∨ 16 ≤ (mac.byte 1).toNat) ∧
    16 ≤ (mac.byte 2).toNat ∧ 16 ≤ (mac.byte 4).toNat

/-- The result is whether the interface identifier is made from the MAC address. -/
def TellsMacBased (mac : Mac) (p : PrintedAddr) : Prop :=
  checkGlobalV6BasedMacaddress p.text (macText mac) =
    some (decide (p.interfaceId = modifiedEui64 mac))

def PrintedAddr.group (p : PrintedAddr) (i : Nat) : Group := p.groups.getD i (0, 0)

/-- The bytes of the interface identifier are those of the modified EUI-64, but for the first. -/
structure SameTail (mac : Mac) (p : PrintedAddr) : Prop where
  fifth : (p.group 4).2 = mac.byte 1
  sixth : p.group 5 = (mac.byte 2, 0xff)
  seventh : p.group 6 = (0xfe, mac.byte 3)
  eighth : p.group 7 = (mac.byte 4, mac.byte 5)

/-- These bytes are all printed with two digits. -/
structure FullyShown (p : PrintedAddr) : Prop where
  fifth : (p.group 4).1 ≠ 0 ∨ 16 ≤ (p.group 4).2.toNat
  sixth : 16 ≤ (p.group 5).1.toNat
  seventh : 16 ≤ (p.group 6).1.toNat
  eighth : 16 ≤ (p.group 7).1.toNat

/-- The digits that are inserted into the MAC address. -/
def fffe : List (Fin 16) := [15, 15, 15, 14]

/-- The digits fffe stand nowhere in the printed digits before their place in a modified EUI-64,
which has six digits after it. -/
def OnlyMiddle (p : PrintedAddr) : Prop :=
  ∀ front back, p.shown = front ++ (fffe ++ back) → back.length ≤ 6

/-- Of an address that is not made from the MAC address: the digits fffe are not printed or, with
all digits of the identifier shown, stand in the middle only, and one of the other bytes differs. -/
def Apart (mac : Mac) (p : PrintedAddr) : Prop :=
  ¬ fffe <:+: p.shown ∨ (OnlyMiddle p ∧ FullyShown p ∧ ¬ SameTail mac p)

theorem digitText_injective : Function.Injective digitText := by
  have hall : ∀ c d : Fin 16, digitText c = digitText d → c = d := by decide
  intro c d h
  exact hall c d h

theorem digitText_plain (d : Fin 16) :
    (digitText d).toLower = digitText d ∧ digitText d ≠ ':' ∧ digitText d ≠ '/' := by
  have hall : ∀ d : Fin 16,
      (digitText d).toLower = digitText d ∧ digitText d ≠ ':' ∧ digitText d ≠ '/' := by
    decide
  exact hall d

theorem eraseColons_digits (ds : List (Fin 16)) :
    eraseColons (ds.map digitText) = ds.map digitText := by
  induction ds with
  | nil => rfl
  | cons d ds ih =>
    obtain ⟨hlower, hcolon, _⟩ := digitText_plain d
    have hcons : eraseColons (digitText d :: ds.map digitText) =
        (if digitText d ≠ ':' then [digitText d] else []) ++ eraseColons (ds.map digitText) := by
      rw [eraseColons, List.map_cons, hlower, List.filter_cons, eraseColons, if_pos hcolon,
        if_pos (decide_eq_true hcolon)]
      rfl
    rw [List.map_cons, hcons, if_pos hcolon, ih]
    rfl

theorem eraseColons_byteText (b : BitVec 8) :
    eraseColons (byteText b) = (byteDigits b).map digitText := by
  have hdigit : ∀ n < 16, (hexDigit n).toLower = digitText (Fin.ofNat 16 n) := by decide
  have hlow : Fin.ofNat 16 (b.toNat % 16) = Fin.ofNat 16 b.toNat := by
    apply Fin.ext
    exact Nat.mod_mod _ _
  have hlower : (byteText b).map Char.toLower = (byteDigits b).map digitText := by
    rw [byteText, byteDigits, List.map_cons, List.map_cons, hdigit _ (by omega),
      hdigit _ (by omega), hlow]
    rfl
  rw [eraseColons, hlower, List.filter_eq_self]
  intro c hc
  obtain ⟨d, _, rfl⟩ := List.mem_map.1 hc
  exact decide_eq_true (digitText_plain d).2.1

theorem eraseColons_macText (mac : Mac) :
    eraseColons (macText mac) =
      ([mac 0, mac 1, mac 2, mac 3, mac 4, mac 5].flatMap byteDigits).map digitText := by
  simp only [macText, eraseColons_append, eraseColons_colon, eraseColons_byteText,
    List.flatMap_cons, List.flatMap_nil, List.map_append, List.append_assoc, List.append_nil,
    List.cons_append]

theorem eraseColons_joinGroups (gs : List Group) :
    eraseColons (joinGroups gs) = (gs.flatMap groupDigits).map digitText := by
  induction gs with
  | nil => rfl
  | cons g gs ih =>
    cases gs with
    | nil =>
      rw [joinGroups, groupText, eraseColons_digits, List.flatMap_singleton]
    | cons g' gs =>
      rw [joinGroups.eq_3 g (g' :: gs) (List.cons_ne_nil g' gs), eraseColons_append,
        eraseColons_colon, ih, groupText, eraseColons_digits, ← List.map_append,
        ← List.flatMap_cons]

theorem eraseColons_text (p : PrintedAddr) :
    eraseColons p.text = p.shown.map digitText ++ eraseColons p.prefixText := by
  rw [PrintedAddr.text, eraseColons_append, PrintedAddr.shown]
  split
  · rw [eraseColons_joinGroups]
  · have hnil : eraseColons "::".toList = [] := rfl
    rw [eraseColons_append, eraseColons_append, hnil, List.append_nil, eraseColons_joinGroups,
      eraseColons_joinGroups, List.flatMap_append, List.map_append]

theorem eui64Tail_text (mac : Mac) :
    ((eraseColons (macText mac)).take 6 ++ "fffe".toList ++
      (eraseColons (macText mac)).drop 6).drop 2 = (eui64Tail mac).map digitText := by
  rw [eraseColons_macText]
  rfl

/-- The prefix length has too few digits to hold the tail. -/
theorem eraseColons_prefixText (p : PrintedAddr) :
    eraseColons p.prefixText = [] ∨
      ∃ ds, eraseColons p.prefixText = '/' :: ds ∧ ds.length < 14 := by
  rw [PrintedAddr.prefixText]
  cases p.prefixlen with
  | none => exact Or.inl rfl
  | some n =>
    have hlen : (Nat.toDigits 10 n).length ≤ 3 :=
      (Nat.length_toDigits_le_iff (by decide) (by decide)).2 (n.isLt.trans (by decide))
    refine Or.inr ⟨eraseColons (Nat.toDigits 10 n), rfl, ?_⟩
    have hle : (eraseColons (Nat.toDigits 10 n)).length ≤ (Nat.toDigits 10 n).length := by
      rw [eraseColons]
      exact (List.length_filter_le _ _).trans_eq (List.length_map _)
    exact (hle.trans hlen).trans_lt (by decide)

theorem eui64Tail_length (mac : Mac) : (eui64Tail mac).length = 14 := rfl

theorem eui64Tail_infix_iff (mac : Mac) (p : PrintedAddr) :
    (eui64Tail mac).map digitText <:+: eraseColons p.text ↔ eui64Tail mac <:+: p.shown := by
  have hslash : '/' ∉ (eui64Tail mac).map digitText := by
    intro hm
    obtain ⟨d, _, hd⟩ := List.mem_map.1 hm
    exact (digitText_plain d).2.2 hd
  have hshown : (eui64Tail mac).map digitText <:+: p.shown.map digitText ↔
      eui64Tail mac <:+: p.shown := by
    rw [List.infix_map_iff]
    apply Iff.intro
    · intro h
      obtain ⟨l, hl, heq⟩ := h
      exact (List.map_injective_iff.2 digitText_injective heq) ▸ hl
    · intro h
      exact ⟨_, h, rfl⟩
  rw [eraseColons_text, ← hshown]
  apply Iff.intro
  · intro h
    rcases eraseColons_prefixText p with hnil | ⟨ds, hds, hlen⟩
    · rw [hnil, List.append_nil] at h
      exact h
    · rw [hds] at h
      rcases infix_append_cons hslash h with h | h
      · exact h
      · have hle := h.length_le
        rw [List.length_map, eui64Tail_length] at hle
        exact absurd hlen (Nat.not_lt.2 hle)
  · intro h
    exact h.trans (List.prefix_append _ _).isInfix

theorem checkGlobalV6BasedMacaddress_printed (mac : Mac) (p : PrintedAddr) :
    checkGlobalV6BasedMacaddress p.text (macText mac) =
      some (decide (eui64Tail mac <:+: p.shown)) := by
  have hlen : ¬ (eraseColons (macText mac)).length < 6 := by
    rw [eraseColons_macText_length]
    decide
  have hnonempty : ¬ (p.text.isEmpty && (macText mac).isEmpty) = true := by
    rw [Bool.and_eq_true]
    intro h
    cases h.2
  have hshort : ¬ (macText mac).length < 12 := by
    have hmac : (macText mac).length = 17 := rfl
    rw [hmac]
    decide
  rw [checkGlobalV6BasedMacaddress, if_neg hnonempty, if_neg hshort]
  dsimp only
  rw [if_neg hlen, eui64Tail_text, decide_eq_decide.2 (eui64Tail_infix_iff mac p)]

theorem groupDigits_of_digits {g : Group}
    (h : (byteDigits g.1 ++ byteDigits g.2).dropWhile (· = 0) ≠ []) :
    groupDigits g = (byteDigits g.1 ++ byteDigits g.2).dropWhile (· = 0) := by
  rw [groupDigits]
  cases hds : (byteDigits g.1 ++ byteDigits g.2).dropWhile (· = 0) with
  | nil => exact absurd hds h
  | cons d ds => rfl

theorem byteDigits_dropWhile_of_large (h : 16 ≤ b.toNat) (ds : List (Fin 16)) :
    (byteDigits b ++ ds).dropWhile (· = 0) = byteDigits b ++ ds := by
  have hne : Fin.ofNat 16 (b.toNat / 16) ≠ 0 := by
    intro heq
    have hval : b.toNat / 16 % 16 = 0 := congrArg Fin.val heq
    have hlt := b.isLt
    omega
  exact List.dropWhile_cons_of_neg (by simpa using hne)

theorem groupDigits_large {g : Group} (h : 16 ≤ g.1.toNat) :
    groupDigits g = byteDigits g.1 ++ byteDigits g.2 := by
  have hdrop := byteDigits_dropWhile_of_large h (byteDigits g.2)
  rw [groupDigits_of_digits, hdrop]
  rw [hdrop]
  exact List.cons_ne_nil _ _

theorem byteDigits_dropWhile_of_small (h : b.toNat < 16) (ds : List (Fin 16)) :
    (byteDigits b ++ ds).dropWhile (· = 0) = (Fin.ofNat 16 b.toNat :: ds).dropWhile (· = 0) := by
  have hzero : Fin.ofNat 16 (b.toNat / 16) = 0 := by
    apply Fin.ext
    change b.toNat / 16 % 16 = 0
    omega
  exact List.dropWhile_cons_of_pos (by simpa using hzero)

/-- The second byte keeps its digits also after a first one that is not zero. -/
theorem groupDigits_suffix {g : Group} (h : g.1 ≠ 0 ∨ 16 ≤ g.2.toNat) :
    byteDigits g.2 <:+ groupDigits g := by
  by_cases hlarge : 16 ≤ g.1.toNat
  · rw [groupDigits_large hlarge]
    exact List.suffix_append _ _
  have hsmall : g.1.toNat < 16 := Nat.lt_of_not_le hlarge
  have hdrop := byteDigits_dropWhile_of_small hsmall (byteDigits g.2)
  by_cases hzero : g.1 = 0
  · have hg2 := byteDigits_dropWhile_of_large (h.resolve_left (not_not.2 hzero)) []
    have hskip : (Fin.ofNat 16 g.1.toNat :: byteDigits g.2).dropWhile (· = 0) =
        byteDigits g.2 := by
      rw [hzero, List.dropWhile_cons_of_pos (by decide)]
      rw [List.append_nil] at hg2
      exact hg2
    rw [groupDigits_of_digits, hdrop, hskip]
    rw [hdrop, hskip]
    exact List.cons_ne_nil _ _
  · have hne : Fin.ofNat 16 g.1.toNat ≠ 0 := by
      intro heq
      have hval : g.1.toNat % 16 = 0 := congrArg Fin.val heq
      apply hzero
      apply BitVec.eq_of_toNat_eq
      change g.1.toNat = 0
      omega
    have hkeep : (Fin.ofNat 16 g.1.toNat :: byteDigits g.2).dropWhile (· = 0) =
        Fin.ofNat 16 g.1.toNat :: byteDigits g.2 :=
      List.dropWhile_cons_of_neg (by simpa using hne)
    rw [groupDigits_of_digits, hdrop, hkeep]
    · exact List.suffix_cons _ _
    · rw [hdrop, hkeep]
      exact List.cons_ne_nil _ _

/-- Groups that are not zero, where they end the address, are printed at its end. -/
theorem PrintedAddr.suffix_of_interfaceId (p : PrintedAddr) (hne : (0, 0) ∉ p.interfaceId) :
    p.interfaceId <:+ p.before ++ p.after := by
  have hcomplete := p.complete
  by_cases hlong : 4 ≤ p.after.length
  · have hdrop : p.interfaceId <:+ p.groups := List.drop_suffix 4 p.groups
    have hafter : p.after <:+ p.groups := List.suffix_append _ _
    have hlen : p.interfaceId.length = 4 := by
      rw [interfaceId, List.length_drop, groups, List.length_append, List.length_append,
        List.length_replicate, hcomplete]
    exact (List.suffix_of_suffix_length_le hdrop hafter (hlen ▸ hlong)).trans
      (List.suffix_append _ _)
  · cases helided : p.elided with
    | zero =>
      have hgroups : p.groups = p.before ++ p.after := by
        rw [groups, helided, List.replicate_zero, List.append_nil]
      rw [← hgroups]
      exact List.drop_suffix 4 p.groups
    | succ n =>
      apply absurd _ hne
      rw [interfaceId, groups, helided, List.replicate_succ', ← List.append_assoc,
        List.append_assoc, List.drop_append_of_le_length]
      · exact List.mem_append_right _ List.mem_cons_self
      · rw [List.length_append, List.length_replicate]
        omega

theorem PrintedAddr.length_groups (p : PrintedAddr) : p.groups.length = 8 := by
  rw [groups, List.length_append, List.length_append, List.length_replicate, p.complete]

theorem PrintedAddr.interfaceId_eq (p : PrintedAddr) :
    p.interfaceId = [p.group 4, p.group 5, p.group 6, p.group 7] := by
  have hlen := p.length_groups
  rw [interfaceId]
  simp only [group]
  match hgroups : p.groups, hlen with
  | [_, _, _, _, _, _, _, _], _ => rfl

theorem made_iff (mac : Mac) (p : PrintedAddr) :
    p.interfaceId = modifiedEui64 mac ↔
      p.group 4 = (mac.byte 0 ^^^ 2, mac.byte 1) ∧ p.group 5 = (mac.byte 2, 0xff) ∧
        p.group 6 = (0xfe, mac.byte 3) ∧ p.group 7 = (mac.byte 4, mac.byte 5) := by
  rw [p.interfaceId_eq, modifiedEui64]
  simp only [List.cons.injEq, and_true]

theorem sameTail_of_made (h : p.interfaceId = modifiedEui64 mac) : SameTail mac p := by
  obtain ⟨hfifth, hsixth, hseventh, heighth⟩ := (made_iff mac p).1 h
  exact ⟨by rw [hfifth], hsixth, hseventh, heighth⟩

theorem fullyShown_of_zerosKept (h : p.interfaceId = modifiedEui64 mac) (hkept : ZerosKept mac) :
    FullyShown p := by
  obtain ⟨hfifth, hsixth, hseventh, heighth⟩ := (made_iff mac p).1 h
  obtain ⟨hfirst, hthird, hlast⟩ := hkept
  constructor
  · rw [hfifth]
    exact hfirst
  · rw [hsixth]
    exact hthird
  · rw [hseventh]
    exact Nat.le_of_sub_eq_zero rfl
  · rw [heighth]
    exact hlast

/-- The bytes of the interface identifier after the first one. -/
def tailBytes (p : PrintedAddr) : List (BitVec 8) :=
  [(p.group 4).2, (p.group 5).1, (p.group 5).2, (p.group 6).1, (p.group 6).2, (p.group 7).1,
    (p.group 7).2]

theorem FullyShown.ne_zero (h : FullyShown p) : (0, 0) ∉ p.interfaceId := by
  have hpos {b : BitVec 8} (hb : 16 ≤ b.toNat) : 0 ≠ b := by
    rintro rfl
    exact absurd hb (by decide)
  rw [p.interfaceId_eq, List.mem_cons, List.mem_cons, List.mem_cons, List.mem_singleton]
  intro hm
  rcases hm with hm | hm | hm | hm
  · rcases h.fifth with hne | hlarge
    · exact hne (congrArg Prod.fst hm).symm
    · exact hpos hlarge (congrArg Prod.snd hm)
  · exact hpos h.sixth (congrArg Prod.fst hm)
  · exact hpos h.seventh (congrArg Prod.fst hm)
  · exact hpos h.eighth (congrArg Prod.fst hm)

theorem FullyShown.shown (h : FullyShown p) :
    ∃ front, p.shown = front ++ (tailBytes p).flatMap byteDigits := by
  obtain ⟨front, hfront⟩ := p.suffix_of_interfaceId h.ne_zero
  -- the first group may have lost digits of the first byte, the others lost none
  obtain ⟨ds, hds⟩ := groupDigits_suffix h.fifth
  have hlow : p.interfaceId.flatMap groupDigits = ds ++ (tailBytes p).flatMap byteDigits := by
    rw [p.interfaceId_eq, List.flatMap_cons, List.flatMap_cons, List.flatMap_cons,
      List.flatMap_singleton, ← hds, groupDigits_large h.sixth, groupDigits_large h.seventh,
      groupDigits_large h.eighth, List.append_assoc]
    simp only [tailBytes, List.flatMap_cons, List.flatMap_nil, List.append_assoc, List.append_nil]
  refine ⟨front.flatMap groupDigits ++ ds, ?_⟩
  rw [PrintedAddr.shown, ← hfront, List.flatMap_append, hlow, List.append_assoc]

theorem byteDigits_injective (h : byteDigits a = byteDigits b) : a = b := by
  obtain ⟨hhigh, hrest⟩ := List.cons.inj h
  have hhigh : a.toNat / 16 % 16 = b.toNat / 16 % 16 := congrArg Fin.val hhigh
  have hlow : a.toNat % 16 = b.toNat % 16 := congrArg Fin.val (List.cons.inj hrest).1
  have ha := a.isLt
  have hb := b.isLt
  apply BitVec.eq_of_toNat_eq
  omega

theorem bytes_injective {as bs : List (BitVec 8)} (hlen : as.length = bs.length)
    (h : as.flatMap byteDigits = bs.flatMap byteDigits) : as = bs := by
  induction as generalizing bs with
  | nil => exact (List.length_eq_zero_iff.1 hlen.symm).symm
  | cons a as ih =>
    cases bs with
    | nil => cases hlen
    | cons b bs =>
      obtain ⟨hbyte, hrest⟩ := List.append_inj h rfl
      rw [byteDigits_injective hbyte, ih (Nat.succ.inj hlen) hrest]

theorem sameTail_iff (mac : Mac) (p : PrintedAddr) :
    SameTail mac p ↔ (tailBytes p).flatMap byteDigits = eui64Tail mac := by
  constructor
  · intro h
    rw [tailBytes, h.fifth, h.sixth, h.seventh, h.eighth]
    rfl
  · intro h
    have hbytes : tailBytes p = [mac.byte 1, mac.byte 2, 0xff, 0xfe, mac.byte 3, mac.byte 4,
        mac.byte 5] := bytes_injective rfl h
    simp only [tailBytes, List.cons.injEq, and_true] at hbytes
    obtain ⟨h1, h2, hff, hfe, h3, h4, h5⟩ := hbytes
    exact ⟨h1, Prod.ext h2 hff, Prod.ext hfe h3, Prod.ext h4 h5⟩

theorem fffe_infix_tail (mac : Mac) : ∃ front back, eui64Tail mac = front ++ (fffe ++ back) ∧
    back.length = 6 :=
  ⟨[mac.byte 1, mac.byte 2].flatMap byteDigits,
    [mac.byte 3, mac.byte 4, mac.byte 5].flatMap byteDigits, rfl, rfl⟩

/-- Where fffe stands in the middle only, the code can find its digits at the end only. -/
theorem OnlyMiddle.suffix (h : OnlyMiddle p) (hpart : eui64Tail mac <:+: p.shown) :
    eui64Tail mac <:+ p.shown := by
  obtain ⟨front, back, hshown⟩ := hpart
  obtain ⟨front', back', htail, hlen⟩ := fffe_infix_tail mac
  have hsplit : p.shown = (front ++ front') ++ (fffe ++ (back' ++ back)) := by
    rw [← hshown, htail]
    simp only [List.append_assoc]
  have hle := h _ _ hsplit
  rw [List.length_append, hlen] at hle
  have hnil : back = [] := List.length_eq_zero_iff.1 (by omega)
  rw [hnil, List.append_nil] at hshown
  exact ⟨front, hshown⟩

theorem FullyShown.suffix_iff (h : FullyShown p) (mac : Mac) :
    eui64Tail mac <:+ p.shown ↔ SameTail mac p := by
  obtain ⟨front, hshown⟩ := h.shown
  rw [sameTail_iff, hshown]
  constructor
  · intro hsuffix
    obtain ⟨front', hsplit⟩ := hsuffix
    exact (List.append_inj' hsplit rfl).2.symm
  · intro heq
    rw [heq]
    exact List.suffix_append _ _

theorem tells_iff (mac : Mac) (p : PrintedAddr) :
    TellsMacBased mac p ↔ (eui64Tail mac <:+: p.shown ↔ p.interfaceId = modifiedEui64 mac) := by
  rw [TellsMacBased, checkGlobalV6BasedMacaddress_printed, Option.some.injEq, decide_eq_decide]

theorem tells_of_made (h : p.interfaceId = modifiedEui64 mac) (hkept : ZerosKept mac) :
    TellsMacBased mac p := by
  have hsuffix := ((fullyShown_of_zerosKept h hkept).suffix_iff mac).2 (sameTail_of_made h)
  rw [tells_iff]
  exact iff_of_true hsuffix.isInfix h

theorem tells_of_apart (h : p.interfaceId ≠ modifiedEui64 mac) (hapart : Apart mac p) :
    TellsMacBased mac p := by
  rw [tells_iff]
  apply iff_of_false _ h
  intro hpart
  rcases hapart with hnone | ⟨hmiddle, hshown, hdiffer⟩
  · obtain ⟨front, back, htail, _⟩ := fffe_infix_tail mac
    have hfffe : fffe <:+: eui64Tail mac := ⟨front, back, by rw [htail, List.append_assoc]⟩
    exact hnone (hfffe.trans hpart)
  · exact hdiffer ((hshown.suffix_iff mac).1 (hmiddle.suffix hpart))

theorem tells_shown_iff (hmiddle : OnlyMiddle p) (hshown : FullyShown p) :
    TellsMacBased mac p ↔ (SameTail mac p → p.interfaceId = modifiedEui64 mac) := by
  have hfound : eui64Tail mac <:+: p.shown ↔ SameTail mac p := by
    rw [← hshown.suffix_iff mac]
    exact ⟨hmiddle.suffix, fun h => h.isInfix⟩
  rw [tells_iff, hfound]
  exact ⟨fun h => h.1, fun h => ⟨h, sameTail_of_made⟩⟩

theorem PrintedAddr.group_elided (p : PrintedAddr) (hlow : p.before.length ≤ i)
    (hhigh : i < p.before.length + p.elided) : p.group i = (0, 0) := by
  have hrep : i - p.before.length < (List.replicate p.elided ((0, 0) : Group)).length := by
    rw [List.length_replicate]
    omega
  have hget : p.groups[i]? = some (0, 0) := by
    rw [groups, List.append_assoc, List.getElem?_append_right hlow,
      List.getElem?_append_left hrep, List.getElem?_replicate, if_pos (by omega)]
  rw [group, List.getD_eq_getElem?_getD, hget]
  rfl

theorem shown_of_made {p : PrintedAddr} (h : p.interfaceId = modifiedEui64 mac)
    (hne : mac.byte 1 ≠ 0) :
    ∃ front eighth, p.shown = front ++ (groupDigits (p.group 4) ++ (groupDigits (p.group 5) ++
      (groupDigits (p.group 6) ++ eighth))) ∧
        (eighth = groupDigits (p.group 7) ∨ eighth = [] ∧ p.group 7 = (0, 0)) := by
  obtain ⟨hfifth, hsixth, hseventh, _⟩ := (made_iff mac p).1 h
  by_cases hsuffix : p.interfaceId <:+ p.before ++ p.after
  · obtain ⟨front, hfront⟩ := hsuffix
    refine ⟨front.flatMap groupDigits, groupDigits (p.group 7), ?_, Or.inl rfl⟩
    rw [PrintedAddr.shown, ← hfront, p.interfaceId_eq, List.flatMap_append, List.flatMap_cons,
      List.flatMap_cons, List.flatMap_cons, List.flatMap_singleton]
  · have hcomplete := p.complete
    have hlen : p.interfaceId.length = 4 := by rw [p.interfaceId_eq]; rfl
    have hdrop : p.interfaceId <:+ p.groups := List.drop_suffix 4 p.groups
    have hshort : p.after.length < 4 := by
      by_contra hlong
      have hafter : p.after <:+ p.groups := List.suffix_append _ _
      exact hsuffix ((List.suffix_of_suffix_length_le hdrop hafter (by omega)).trans
        (List.suffix_append _ _))
    have hpos : 0 < p.elided := by
      by_contra hzero
      have hgroups : p.groups = p.before ++ p.after := by
        rw [PrintedAddr.groups, Nat.eq_zero_of_not_pos hzero, List.replicate_zero, List.append_nil]
      rw [hgroups] at hdrop
      exact hsuffix hdrop
    -- the groups that are not printed are zero, which only the last one can be
    have hnot : ∀ i, 4 ≤ i → i < 7 → p.group i ≠ (0, 0) := by
      intro i hlow hhigh heq
      have hcases : i = 4 ∨ i = 5 ∨ i = 6 := by omega
      rcases hcases with rfl | rfl | rfl
      · rw [hfifth] at heq
        exact hne (congrArg Prod.snd heq)
      · rw [hsixth] at heq
        have hff : (0xff : BitVec 8) = 0 := congrArg Prod.snd heq
        exact absurd hff (by decide)
      · rw [hseventh] at heq
        have hfe : (0xfe : BitVec 8) = 0 := congrArg Prod.fst heq
        exact absurd hfe (by decide)
    have hafter : p.after.length = 0 := by
      by_contra hlong
      exact hnot (7 - p.after.length) (by omega) (by omega)
        (p.group_elided (by omega) (by omega))
    have hone : p.elided = 1 := by
      by_contra hmore
      exact hnot 6 (by omega) (by omega) (p.group_elided (by omega) (by omega))
    have hbefore : p.before.length = 7 := by omega
    have hlast := p.group_elided (i := 7) (by omega) (by omega)
    have hgroups : p.groups = p.before ++ [(0, 0)] := by
      rw [PrintedAddr.groups, List.length_eq_zero_iff.1 hafter, hone, List.append_nil]
      rfl
    have hdigits : p.shown = p.before.flatMap groupDigits := by
      rw [PrintedAddr.shown, List.length_eq_zero_iff.1 hafter, List.append_nil]
    simp only [PrintedAddr.group, hgroups, hdigits] at hlast ⊢
    match hlist : p.before, hbefore with
    | [a, b, c, d, e, f, g], _ =>
      refine ⟨[a, b, c, d].flatMap groupDigits, [], ?_, Or.inr ⟨rfl, rfl⟩⟩
      simp only [List.flatMap_cons, List.flatMap_nil, List.append_assoc, List.append_nil]
      rfl

def highDigit (b : BitVec 8) : Fin 16 := Fin.ofNat 16 (b.toNat / 16)

def lowDigit (b : BitVec 8) : Fin 16 := Fin.ofNat 16 b.toNat

theorem byteDigits_eq (b : BitVec 8) : byteDigits b = [highDigit b, lowDigit b] := rfl

theorem highDigit_eq_zero_iff (b : BitVec 8) : highDigit b = 0 ↔ b.toNat < 16 := by
  have hlt := b.isLt
  rw [highDigit, Fin.ext_iff]
  change b.toNat / 16 % 16 = 0 ↔ _
  omega

theorem groupDigits_length_small {g : Group} (h : g.1.toNat < 16) : (groupDigits g).length ≤ 3 := by
  have hdrop := byteDigits_dropWhile_of_small h (byteDigits g.2)
  rw [groupDigits, hdrop]
  have hle := (List.dropWhile_sublist (· = 0)
    (l := Fin.ofNat 16 g.1.toNat :: byteDigits g.2)).length_le
  have hthree : (Fin.ofNat 16 g.1.toNat :: byteDigits g.2).length = 3 := rfl
  rw [hthree] at hle
  cases hds : (Fin.ofNat 16 g.1.toNat :: byteDigits g.2).dropWhile (· = 0) with
  | nil => exact Nat.le_of_sub_eq_zero rfl
  | cons d ds =>
    rw [hds] at hle
    exact hle

theorem eui64Tail_reverse (mac : Mac) :
    (eui64Tail mac).reverse = [lowDigit (mac.byte 5), highDigit (mac.byte 5),
      lowDigit (mac.byte 4), highDigit (mac.byte 4), lowDigit (mac.byte 3),
      highDigit (mac.byte 3), 14, 15, 15, 15, lowDigit (mac.byte 2), highDigit (mac.byte 2),
      lowDigit (mac.byte 1), highDigit (mac.byte 1)] := rfl

theorem not_suffix_eighth {eighth : List (Fin 16)} (hb : (mac.byte 4).toNat < 16)
    (hlen : eighth.length ≤ 3) (front : List (Fin 16)) :
    ¬ eui64Tail mac <:+
      front ++ ([15, 14, highDigit (mac.byte 3), lowDigit (mac.byte 3)] ++ eighth) := by
  intro h
  rw [← List.reverse_prefix, eui64Tail_reverse, (highDigit_eq_zero_iff (mac.byte 4)).2 hb] at h
  match eighth, hlen with
  | [], _ => simp at h
  | [_], _ => simp at h
  | [_, _], _ =>
    simp at h
    obtain ⟨_, _, _, hzero, _, hfifteen, _⟩ := h
    exact absurd (hzero.trans hfifteen) (by decide)
  | [_, _, _], _ => simp at h

theorem lowDigit_ne_zero {b : BitVec 8} (hne : b ≠ 0) (hb : b.toNat < 16) : lowDigit b ≠ 0 := by
  intro heq
  have hval : b.toNat % 16 = 0 := congrArg Fin.val heq
  apply hne
  apply BitVec.eq_of_toNat_eq
  change b.toNat = 0
  omega

theorem groupDigits_second {g : Group} (hne : g.2 ≠ 0) :
    ∃ ds, groupDigits g = ds ++ [lowDigit g.2] ∧
      (highDigit g.2 ≠ 0 → ∃ es, ds = es ++ [highDigit g.2]) := by
  by_cases hlarge : g.1 ≠ 0 ∨ 16 ≤ g.2.toNat
  · obtain ⟨es, hes⟩ := groupDigits_suffix hlarge
    refine ⟨es ++ [highDigit g.2], ?_, fun _ => ⟨es, rfl⟩⟩
    rw [← hes, byteDigits_eq, List.append_assoc]
    rfl
  · rw [not_or, not_not] at hlarge
    obtain ⟨hzero, hsmall⟩ := hlarge
    have hlow := lowDigit_ne_zero hne (Nat.lt_of_not_le hsmall)
    have hhigh := (highDigit_eq_zero_iff g.2).2 (Nat.lt_of_not_le hsmall)
    refine ⟨[], ?_, fun h => absurd hhigh h⟩
    have hdrop : (byteDigits g.1 ++ byteDigits g.2).dropWhile (· = 0) = [lowDigit g.2] := by
      rw [hzero, byteDigits_eq g.2, hhigh]
      have hzeros : byteDigits 0 ++ [0, lowDigit g.2] = 0 :: 0 :: 0 :: [lowDigit g.2] := rfl
      rw [hzeros, List.dropWhile_cons_of_pos rfl, List.dropWhile_cons_of_pos rfl,
        List.dropWhile_cons_of_pos rfl, List.dropWhile_cons_of_neg (by simpa using hlow)]
    rw [groupDigits, hdrop]
    rfl

theorem not_suffix_sixth (hb : (mac.byte 2).toNat < 16) (hne : mac.byte 1 ≠ 0)
    (front last : List (Fin 16)) (b : BitVec 8)
    (hlast : last.length = 8) :
    ¬ eui64Tail mac <:+ front ++ (groupDigits (b, mac.byte 1) ++
      (groupDigits (mac.byte 2, 0xff) ++ last)) := by
  intro h
  obtain ⟨ds, hds, hes⟩ := groupDigits_second (g := (b, mac.byte 1)) hne
  have hhigh := (highDigit_eq_zero_iff (mac.byte 2)).2 hb
  have hsixth : groupDigits (mac.byte 2, 0xff) =
      if lowDigit (mac.byte 2) = 0 then [15, 15] else [lowDigit (mac.byte 2), 15, 15] := by
    have hdrop : (byteDigits (mac.byte 2) ++ byteDigits 0xff).dropWhile (· = 0) =
        if lowDigit (mac.byte 2) = 0 then [15, 15] else [lowDigit (mac.byte 2), 15, 15] := by
      have hdigits : byteDigits (mac.byte 2) ++ byteDigits 0xff =
          0 :: lowDigit (mac.byte 2) :: [15, 15] := by
        rw [byteDigits_eq, hhigh]
        rfl
      rw [hdigits, List.dropWhile_cons_of_pos rfl]
      split
      · next hzero =>
        rw [List.dropWhile_cons_of_pos (by simpa using hzero)]
        rfl
      · next hnonzero => rw [List.dropWhile_cons_of_neg (by simpa using hnonzero)]
    rw [groupDigits, hdrop]
    split
    · next hnil =>
      split at hnil
      · cases hnil
      · cases hnil
    · next d rest hcons => exact hcons.symm
  obtain ⟨t, ht⟩ := h
  have htail : eui64Tail mac = [highDigit (mac.byte 1), lowDigit (mac.byte 1),
      highDigit (mac.byte 2), lowDigit (mac.byte 2), 15, 15] ++ (eui64Tail mac).drop 6 := rfl
  have hcut : t ++ [highDigit (mac.byte 1), lowDigit (mac.byte 1), highDigit (mac.byte 2),
      lowDigit (mac.byte 2), 15, 15] =
        front ++ (groupDigits (b, mac.byte 1) ++ groupDigits (mac.byte 2, 0xff)) := by
    rw [htail, ← List.append_assoc, ← List.append_assoc (groupDigits _), ← List.append_assoc] at ht
    exact (List.append_inj' ht (by rw [hlast]; rfl)).1
  have hone : ∀ {xs ys : List (Fin 16)} {x y}, xs ++ [x] = ys ++ [y] → xs = ys ∧ x = y := by
    intro xs ys x y heq
    obtain ⟨hxs, hx⟩ := List.append_inj' heq rfl
    exact ⟨hxs, (List.cons.inj hx).1⟩
  -- the second byte would have to end with the zero that the third one lacks
  have hstop : ∀ us, us ++ [highDigit (mac.byte 1), lowDigit (mac.byte 1)] = front ++ ds ∨
      us ++ [highDigit (mac.byte 1), lowDigit (mac.byte 1), 0] = front ++ ds →
      lowDigit (mac.byte 1) = 0 → False := by
    intro us hus hlow
    have hhigh1 : highDigit (mac.byte 1) ≠ 0 := by
      intro hzero
      exact lowDigit_ne_zero hne ((highDigit_eq_zero_iff _).1 hzero) hlow
    obtain ⟨es, rfl⟩ := hes hhigh1
    rw [← List.append_assoc] at hus
    rcases hus with hus | hus
    · have hpair : us ++ [highDigit (mac.byte 1), lowDigit (mac.byte 1)] =
          (us ++ [highDigit (mac.byte 1)]) ++ [lowDigit (mac.byte 1)] := by simp
      rw [hpair] at hus
      exact hhigh1 ((hone hus).2.symm.trans hlow)
    · have hpair : us ++ [highDigit (mac.byte 1), lowDigit (mac.byte 1), 0] =
          (us ++ [highDigit (mac.byte 1), lowDigit (mac.byte 1)]) ++ [0] := by simp
      rw [hpair] at hus
      exact hhigh1 (hone hus).2.symm
  rw [hsixth, hds, hhigh] at hcut
  by_cases hzero : lowDigit (mac.byte 2) = 0
  · rw [if_pos hzero, hzero] at hcut
    have hsplit : (t ++ [highDigit (mac.byte 1), lowDigit (mac.byte 1), 0] ++ [0]) ++ [15, 15] =
        (front ++ ds ++ [lowDigit (mac.byte 1)]) ++ [15, 15] := by simpa using hcut
    obtain ⟨hrest, hlow⟩ := hone (List.append_inj' hsplit rfl).1
    exact hstop t (Or.inr hrest) hlow.symm
  · rw [if_neg hzero] at hcut
    have hsplit : (t ++ [highDigit (mac.byte 1), lowDigit (mac.byte 1)] ++ [0]) ++
        [lowDigit (mac.byte 2), 15, 15] =
          (front ++ ds ++ [lowDigit (mac.byte 1)]) ++ [lowDigit (mac.byte 2), 15, 15] := by
      simpa using hcut
    obtain ⟨hrest, hlow⟩ := hone (List.append_inj' hsplit rfl).1
    exact hstop t (Or.inl hrest) hlow.symm

/-- An address that is made from the MAC address is missed where a byte that begins its group is
printed with one digit. -/
theorem small_of_missed (h : p.interfaceId = modifiedEui64 mac) (hmiddle : OnlyMiddle p)
    (hne : mac.byte 1 ≠ 0) (hfound : TellsMacBased mac p) :
    16 ≤ (mac.byte 2).toNat ∧ 16 ≤ (mac.byte 4).toNat := by
  obtain ⟨hfifth, hsixth, hseventh, heighth⟩ := (made_iff mac p).1 h
  obtain ⟨front, eighth, hshown, hlast⟩ := shown_of_made h hne
  have hsuffix := hmiddle.suffix (((tells_iff mac p).1 hfound).2 h)
  have hg7 : groupDigits (0xfe, mac.byte 3) =
      [15, 14, highDigit (mac.byte 3), lowDigit (mac.byte 3)] := by
    have hlarge : 16 ≤ (0xfe : BitVec 8).toNat := by decide
    have hfe : byteDigits 0xfe = [15, 14] := by decide
    rw [groupDigits_large (g := (0xfe, mac.byte 3)) hlarge, hfe]
    rfl
  rw [hshown, hfifth, hsixth, hseventh, hg7] at hsuffix
  have hfourth : 16 ≤ (mac.byte 4).toNat := by
    by_contra hsmall
    have hlen : eighth.length ≤ 3 := by
      rcases hlast with rfl | ⟨rfl, _⟩
      · rw [heighth]
        exact groupDigits_length_small (g := (mac.byte 4, mac.byte 5)) (Nat.lt_of_not_le hsmall)
      · exact Nat.zero_le 3
    rw [← List.append_assoc, ← List.append_assoc] at hsuffix
    exact not_suffix_eighth (Nat.lt_of_not_le hsmall) hlen _ hsuffix
  refine ⟨?_, hfourth⟩
  by_contra hsmall
  have hlen : ([15, 14, highDigit (mac.byte 3), lowDigit (mac.byte 3)] ++ eighth).length = 8 := by
    rcases hlast with rfl | ⟨rfl, hzero⟩
    · rw [heighth, groupDigits_large (g := (mac.byte 4, mac.byte 5)) hfourth]
      rfl
    · rw [heighth] at hzero
      have hbyte : mac.byte 4 = 0 := congrArg Prod.fst hzero
      rw [hbyte] at hfourth
      exact absurd hfourth (by decide)
  exact not_suffix_sixth (Nat.lt_of_not_le hsmall) hne front _ _ hlen hsuffix

/-- An address that is made from the MAC address is told where all digits of its bytes are shown,
and any other one where it is apart. Fully shown, one is mistaken if the first byte alone differs;
with fffe in the middle only, one is missed if the third or the fifth byte is below 0x10. -/
theorem checkGlobalV6BasedMacaddress_tells (mac : Mac) (p : PrintedAddr) :
    (p.interfaceId = modifiedEui64 mac ∧ ZerosKept mac ∨
        p.interfaceId ≠ modifiedEui64 mac ∧ Apart mac p → TellsMacBased mac p) ∧
      (OnlyMiddle p → FullyShown p →
        (TellsMacBased mac p ↔ (SameTail mac p → p.interfaceId = modifiedEui64 mac))) ∧
      (OnlyMiddle p → p.interfaceId = modifiedEui64 mac → mac.byte 1 ≠ 0 → TellsMacBased mac p →
        16 ≤ (mac.byte 2).toNat ∧ 16 ≤ (mac.byte 4).toNat) := by
  refine ⟨?_, ?_, ?_⟩
  · intro h
    rcases h with ⟨hmade, hkept⟩ | ⟨hnot, hapart⟩
    · exact tells_of_made hmade hkept
    · exact tells_of_apart hnot hapart
  · intro hmiddle hshown
    exact tells_shown_iff hmiddle hshown
  · intro hmiddle hmade hne hfound
    exact small_of_missed hmade hmiddle hne hfound

/-- The interface identifier is made from the MAC address 00:11:05:22:33:44, whose third byte is
printed with one digit. -/
def euiAddr : PrintedAddr where
  before := [(0xfe, 0x80)]
  elided := 3
  after := [(0x02, 0x11), (0x05, 0xff), (0xfe, 0x22), (0x33, 0x44)]
  complete := rfl
  prefixlen := some 64

def euiMac : Mac := fun i => [0x00, 0x11, 0x05, 0x22, 0x33, 0x44].getD i 0

theorem checkGlobalV6BasedMacaddress_smallByte : ¬ ∀ mac p, TellsMacBased mac p := by
  intro h
  have hfound := h euiMac euiAddr
  have hmade : euiAddr.interfaceId = modifiedEui64 euiMac := by decide
  have hmissed : ¬ eui64Tail euiMac <:+: euiAddr.shown := by decide
  rw [TellsMacBased, checkGlobalV6BasedMacaddress_printed, Option.some.injEq,
    decide_eq_decide] at hfound
  exact hmissed (hfound.mpr hmade)

end NetSrvMgr.Ip
