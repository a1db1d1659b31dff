import Mathlib.Algebra.Group.Nat.Defs
import NetSrvMgr.Inet

namespace Inet
set_option autoImplicit true

/-- The last octets of a number, each with a dot after it. -/
def octets : Nat → Nat → List Char
  | 0, _ => []
  | k + 1, n => octets k (n / 256) ++ Nat.toDigits 10 (n % 256) ++ ['.']

/-- `inet_ntop(AF_INET)`, of an address in host byte order. -/
def inetNtop4 (a : BitVec 32) : List Char :=
  octets 3 (a.toNat / 256) ++ Nat.toDigits 10 (a.toNat % 256)

/-- What is read when `pton4` has come to a state. -/
def readSoFar (octetCount : Nat) (sawDigit : Bool) (value acc : Nat) : List Char :=
  if sawDigit then octets (octetCount - 1) acc ++ Nat.toDigits 10 value
  else octets octetCount acc

/-- The states of `pton4` that a text leads to. -/
structure Reached (octetCount : Nat) (sawDigit : Bool) (value acc : Nat) : Prop where
  octet : value < 256
  atMost : octetCount ≤ 4
  begun : sawDigit = true → 0 < octetCount
  unfinished : sawDigit = false → octetCount < 4
  bounded : acc < 256 ^ (octetCount - sawDigit.toNat)

theorem toDigits_snoc (hn : 0 < n) (hd : d < 10) :
    Nat.toDigits 10 (n * 10 + d) = Nat.toDigits 10 n ++ [Nat.digitChar d] := by
  have hten : 1 < 10 := by decide
  rw [Nat.mul_comm, ← Nat.toDigits_append_toDigits hten hn hd, Nat.toDigits_of_lt_base hd]

/-- A digit continues the number that is read, or begins the next one. -/
theorem Reached.digit (hr : Reached k sawDigit value acc) (hd : d < 10)
    (hfirst : sawDigit = true → value ≠ 0) (hbyte : value * 10 + d ≤ 255)
    (hvalue : sawDigit = false → value = 0) :
    let k' := if sawDigit then k else k + 1
    Reached k' true (value * 10 + d) acc ∧
      readSoFar k' true (value * 10 + d) acc =
        readSoFar k sawDigit value acc ++ [Nat.digitChar d] := by
  cases sawDigit with
  | true =>
    have hpos := Nat.pos_of_ne_zero (hfirst rfl)
    refine ⟨⟨Nat.lt_succ_of_le hbyte, hr.atMost, fun _ => hr.begun rfl, Bool.noConfusion,
      hr.bounded⟩, ?_⟩
    simp only [readSoFar, if_true, toDigits_snoc hpos hd, List.append_assoc]
  | false =>
    rw [hvalue rfl] at hbyte ⊢
    refine ⟨⟨Nat.lt_succ_of_le hbyte, hr.unfinished rfl, fun _ => Nat.succ_pos k, Bool.noConfusion,
      hr.bounded⟩, ?_⟩
    rw [Nat.zero_mul, Nat.zero_add]
    simp only [readSoFar, if_true, Nat.toDigits_of_lt_base hd]
    rfl

end Inet
