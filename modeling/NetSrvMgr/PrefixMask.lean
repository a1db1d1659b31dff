import Mathlib.Algebra.Group.Nat.Defs

namespace PrefixMask
set_option autoImplicit true

/-- So many ones, from the highest bit down, and zeros behind them. -/
def HighOnes (x : BitVec w) (k : Nat) : Prop := ∀ i < w, x.getMsbD i = decide (i < k)

/-- So many ones, from the lowest bit up, and zeros above them. -/
def LowOnes (x : BitVec w) (k : Nat) : Prop := ∀ i < w, x.getLsbD i = decide (i < k)

instance (x : BitVec w) (k : Nat) : Decidable (HighOnes x k) :=
  inferInstanceAs (Decidable (∀ i < w, _))

theorem lowOnes_not_iff (hk : k ≤ w) (x : BitVec w) : LowOnes (~~~x) (w - k) ↔ HighOnes x k := by
  have hbit : ∀ i < w, ((~~~x).getLsbD (w - 1 - i) = decide (w - 1 - i < w - k)) ↔
      x.getMsbD i = decide (i < k) := by
    intro i hi
    have hlow : w - 1 - i < w := by omega
    have hside : w - 1 - i < w - k ↔ ¬i < k := by omega
    rw [BitVec.getLsbD_not, BitVec.getMsbD_eq_getLsbD, decide_eq_true hlow, decide_eq_true hi,
      Bool.true_and, Bool.true_and, decide_eq_decide.2 hside, decide_not, Bool.not_inj_iff]
  apply Iff.intro
  · intro h i hi
    exact (hbit i hi).1 (h (w - 1 - i) (by omega))
  · intro h i hi
    have hflip := (hbit (w - 1 - i) (by omega)).2 (h (w - 1 - i) (by omega))
    have hi' : w - 1 - (w - 1 - i) = i := by omega
    rw [hi'] at hflip
    exact hflip

theorem lowOnes_iff_toNat (hk : k ≤ w) (x : BitVec w) : LowOnes x k ↔ x.toNat + 1 = 2 ^ k := by
  have hpos : 0 < 2 ^ k := Nat.two_pow_pos k
  have hle : 2 ^ k ≤ 2 ^ w := Nat.pow_le_pow_right Nat.two_pos hk
  apply Iff.intro
  · intro h
    have heq : x.toNat = 2 ^ k - 1 := by
      apply Nat.eq_of_testBit_eq
      intro i
      rw [Nat.testBit_two_pow_sub_one, BitVec.testBit_toNat]
      by_cases hi : i < w
      · exact h i hi
      · rw [BitVec.getLsbD_of_ge x i (by omega), decide_eq_false (by omega)]
    omega
  · intro h i _
    have heq : x.toNat = 2 ^ k - 1 := by omega
    rw [← BitVec.testBit_toNat, heq, Nat.testBit_two_pow_sub_one]

theorem toNat_and_add_one (x : BitVec w) :
    (x &&& (x + 1#w)).toNat = x.toNat &&& ((x.toNat + 1) % 2 ^ w) := by
  rw [BitVec.toNat_and, BitVec.toNat_add, BitVec.toNat_ofNat, Nat.add_mod_mod]

/-- A number and its successor have no bit in common just when the number is all ones from the
lowest bit up; for the greatest number the successor is zero. -/
theorem and_add_one_eq_zero_iff (x : BitVec w) :
    x &&& (x + 1#w) = 0#w ↔ ∃ k ≤ w, LowOnes x k := by
  have hlt : x.toNat < 2 ^ w := x.isLt
  have hpow : (∃ k ≤ w, LowOnes x k) ↔ ∃ k ≤ w, x.toNat + 1 = 2 ^ k := by
    apply exists_congr
    intro k
    apply and_congr_right
    intro hk
    exact lowOnes_iff_toNat hk x
  rw [hpow, ← BitVec.toNat_inj, toNat_and_add_one, BitVec.toNat_zero]
  by_cases hmax : x.toNat + 1 = 2 ^ w
  · apply iff_of_true _ ⟨w, Nat.le_refl w, hmax⟩
    rw [hmax, Nat.mod_self, Nat.and_zero]
  · have htest : x.toNat &&& (x.toNat + 1) = 0 ↔ (x.toNat + 1).isPowerOfTwo := by
      rw [← Nat.and_sub_one_eq_zero_iff_isPowerOfTwo (Nat.add_one_ne_zero x.toNat),
        Nat.add_sub_cancel, Nat.and_comm]
    rw [Nat.mod_eq_of_lt (by omega), htest]
    apply Iff.intro
    · rintro ⟨k, hk⟩
      have hkw : k < w := (Nat.pow_lt_pow_iff_right Nat.one_lt_two).1 (by omega)
      exact ⟨k, Nat.le_of_lt hkw, hk⟩
    · rintro ⟨k, _, hk⟩
      exact ⟨k, hk⟩

theorem not_and_not_add_one_iff (x : BitVec w) :
    ~~~x &&& (~~~x + 1#w) = 0#w ↔ ∃ k ≤ w, HighOnes x k := by
  rw [and_add_one_eq_zero_iff]
  apply Iff.intro
  · rintro ⟨k, hk, h⟩
    refine ⟨w - k, Nat.sub_le w k, ?_⟩
    rw [← lowOnes_not_iff (Nat.sub_le w k), Nat.sub_sub_self hk]
    exact h
  · rintro ⟨k, hk, h⟩
    exact ⟨w - k, Nat.sub_le w k, (lowOnes_not_iff hk x).2 h⟩

theorem highOnes_zero_iff (x : BitVec w) : HighOnes x 0 ↔ x = 0#w := by
  apply Iff.intro
  · intro h
    apply BitVec.eq_of_getMsbD_eq
    intro i hi
    rw [h i hi]
    simp
  · rintro rfl i _
    simp

theorem ne_zero_and_not_and_not_add_one_iff (x : BitVec w) :
    (x ≠ 0#w ∧ ~~~x &&& (~~~x + 1#w) = 0#w) ↔ ∃ k, 1 ≤ k ∧ k ≤ w ∧ HighOnes x k := by
  rw [not_and_not_add_one_iff, Ne, ← highOnes_zero_iff]
  apply Iff.intro
  · rintro ⟨hzero, k, hk, hones⟩
    have hpos : 1 ≤ k := by
      apply Nat.one_le_iff_ne_zero.2
      rintro rfl
      exact hzero hones
    exact ⟨k, hpos, hk, hones⟩
  · rintro ⟨k, hpos, hk, hones⟩
    refine ⟨?_, k, hk, hones⟩
    -- the highest bit tells the two apart
    intro hzero
    have hfirst := hones 0 (by omega)
    rw [hzero 0 (by omega), decide_eq_decide] at hfirst
    omega

end PrefixMask
