import Mathlib.Data.List.Basic
import Mathlib.Data.Vector.Basic

namespace ByteBuffer
set_option autoImplicit true

/-- A 16-bit number from its network-order bytes. -/
def u16 (hi lo : UInt8) : UInt16 := UInt16.ofNat (hi.toNat * 256 + lo.toNat)

def u16Hi (n : UInt16) : UInt8 := UInt8.ofNat (n.toNat / 256)

def u16Lo (n : UInt16) : UInt8 := UInt8.ofNat (n.toNat % 256)

theorem u16_toNat (hi lo : UInt8) : (u16 hi lo).toNat = hi.toNat * 256 + lo.toNat := by
  have hh := hi.toNat_lt
  have hl := lo.toNat_lt
  rw [u16, UInt16.toNat_ofNat']
  exact Nat.mod_eq_of_lt (by omega)

@[simp] theorem u16_bytes (n : UInt16) : u16 (u16Hi n) (u16Lo n) = n := by
  have hn := n.toNat_lt
  apply UInt16.toNat.inj
  rw [u16_toNat, u16Hi, u16Lo, UInt8.toNat_ofNat', UInt8.toNat_ofNat']
  omega

@[simp] theorem u16Hi_u16 (hi lo : UInt8) : u16Hi (u16 hi lo) = hi := by
  have hl := lo.toNat_lt
  apply UInt8.toNat.inj
  rw [u16Hi, u16_toNat, UInt8.toNat_ofNat']
  have hh := hi.toNat_lt
  omega

@[simp] theorem u16Lo_u16 (hi lo : UInt8) : u16Lo (u16 hi lo) = lo := by
  have hl := lo.toNat_lt
  apply UInt8.toNat.inj
  rw [u16Lo, u16_toNat, UInt8.toNat_ofNat']
  omega

/-- A 32-bit number from its network-order bytes. -/
def u32 (a b c d : UInt8) : UInt32 :=
  UInt32.ofNat (((a.toNat * 256 + b.toNat) * 256 + c.toNat) * 256 + d.toNat)

def u32Bytes (n : UInt32) : List UInt8 :=
  [UInt8.ofNat (n.toNat / 16777216), UInt8.ofNat (n.toNat / 65536), UInt8.ofNat (n.toNat / 256),
    UInt8.ofNat n.toNat]

@[simp] theorem u32Bytes_u32 (a b c d : UInt8) : u32Bytes (u32 a b c d) = [a, b, c, d] := by
  have ha := a.toNat_lt
  have hb := b.toNat_lt
  have hc := c.toNat_lt
  have hd := d.toNat_lt
  have hn : (u32 a b c d).toNat =
      ((a.toNat * 256 + b.toNat) * 256 + c.toNat) * 256 + d.toNat := by
    rw [u32, UInt32.toNat_ofNat']
    exact Nat.mod_eq_of_lt (by omega)
  have hbyte {m : Nat} {x : UInt8} (hm : m % 256 = x.toNat) : UInt8.ofNat m = x := by
    apply UInt8.toNat.inj
    rw [UInt8.toNat_ofNat']
    exact hm
  rw [u32Bytes, hn, hbyte (x := a) (by omega), hbyte (x := b) (by omega),
    hbyte (x := c) (by omega), hbyte (x := d) (by omega)]

theorem u32_surjective (n : UInt32) : ∃ a b c d, n = u32 a b c d := by
  have hn := n.toNat_lt
  refine ⟨UInt8.ofNat (n.toNat / 16777216), UInt8.ofNat (n.toNat / 65536),
    UInt8.ofNat (n.toNat / 256), UInt8.ofNat n.toNat, ?_⟩
  apply UInt32.toNat.inj
  rw [u32, UInt32.toNat_ofNat', UInt8.toNat_ofNat', UInt8.toNat_ofNat', UInt8.toNat_ofNat',
    UInt8.toNat_ofNat']
  omega

/-- The bytes of `buff` in the range `[offset, offset + n)`, when the buffer has them all. -/
def slice (buff : List α) (offset n : Nat) : Option (List α) :=
  if offset + n ≤ buff.length then some ((buff.drop offset).take n) else none

theorem slice_eq_some_iff : slice buff offset n = some bytes ↔
    offset ≤ buff.length ∧ ∃ rest, buff.drop offset = bytes ++ rest ∧ bytes.length = n := by
  unfold slice
  apply Iff.intro
  · intro h
    split at h
    · next hle =>
      cases h
      refine ⟨by omega, (buff.drop offset).drop n, (List.take_append_drop _ _).symm, ?_⟩
      rw [List.length_take, List.length_drop]
      omega
    · cases h
  · rintro ⟨hle, rest, he, rfl⟩
    have hl := congrArg List.length he
    rw [List.length_drop, List.length_append] at hl
    rw [if_pos (by omega), he, List.take_left]

theorem mOfFn_eq_some_iff {f : Fin n → Option α} {v : List.Vector α n} :
    List.Vector.mOfFn f = some v ↔ ∀ i, f i = some (v.get i) := by
  induction n with
  | zero =>
    refine ⟨fun _ i => i.elim0, fun _ => ?_⟩
    rw [v.eq_nil]
    rfl
  | succ n ih =>
    obtain ⟨a, w, rfl⟩ := v.exists_eq_cons
    simp only [List.Vector.mOfFn, bind, pure, Option.bind_eq_some_iff, Option.some.injEq]
    apply Iff.intro
    · rintro ⟨b, hb, u, hu, he⟩ i
      rw [← he]
      refine Fin.cases ?_ (fun j => ?_) i
      · rw [List.Vector.get_cons_zero]
        exact hb
      · rw [List.Vector.get_cons_succ]
        exact ih.1 hu j
    · intro h
      refine ⟨a, ?_, w, ih.2 fun i => ?_, rfl⟩
      · simpa only [List.Vector.get_cons_zero] using h 0
      · simpa only [List.Vector.get_cons_succ] using h i.succ

end ByteBuffer
