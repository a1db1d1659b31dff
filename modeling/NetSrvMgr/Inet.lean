import Mathlib.Data.List.Basic

namespace Inet
set_option autoImplicit true

/-- The rest of a dotted address, after `octets` numbers have begun: whether the last of them has
a digit, its value, and the value of those before it. -/
def pton4 : List Char → Nat → Bool → Nat → Nat → Option Nat
  | [], octets, _, value, acc => if octets < 4 then none else some (acc * 256 + value)
  | c :: s, octets, sawDigit, value, acc =>
    if c.isDigit then
      let new := value * 10 + (c.toNat - '0'.toNat)
      if sawDigit && value = 0 then none
      else if new > 255 then none
      else if sawDigit then pton4 s octets true new acc
      else if octets + 1 > 4 then none
      else pton4 s (octets + 1) true new acc
    else if c = '.' && sawDigit then
      if octets = 4 then none else pton4 s octets false 0 (acc * 256 + value)
    else none

/-- `inet_pton(AF_INET)`, the address in host byte order: four decimal numbers below 256 with no
leading zeros. -/
def inetPton4 (s : List Char) : Option (BitVec 32) := (pton4 s 0 false 0 0).map (BitVec.ofNat 32)

def hexValue (c : Char) : Option Nat :=
  if c.isDigit then some (c.toNat - '0'.toNat)
  else if 'a' ≤ c && c ≤ 'f' then some (c.toNat - 'a'.toNat + 10)
  else if 'A' ≤ c && c ≤ 'F' then some (c.toNat - 'A'.toNat + 10)
  else none

/-- The groups of an address, with the place of the double colon filled up to eight groups. -/
def expand6 (groups : List Nat) : Option Nat → Option (List Nat)
  | none => if groups.length = 8 then some groups else none
  | some colon =>
    if 8 ≤ groups.length then none
    else some (groups.take colon ++ List.replicate (8 - groups.length) 0 ++ groups.drop colon)

/-- The rest of an IPv6 address, where a group has begun at `curtok`: the groups before it, the
place of the double colon among them, and the number and the value of the group's digits. -/
def pton6 : List Char → List Char → List Nat → Option Nat → Nat → Nat → Option (List Nat)
  | [], _, groups, colon, xdigits, value =>
    if xdigits = 0 then expand6 groups colon
    else if 8 ≤ groups.length then none
    else expand6 (groups ++ [value]) colon
  | c :: s, curtok, groups, colon, xdigits, value =>
    match hexValue c with
    | some digit =>
      if xdigits = 4 then none
      else pton6 s curtok groups colon (xdigits + 1) (value * 16 + digit)
    | none =>
      if c = ':' then
        if xdigits = 0 then
          if colon.isSome then none else pton6 s s groups (some groups.length) 0 0
        else if s.isEmpty || 8 ≤ groups.length then none
        else pton6 s s (groups ++ [value]) colon 0 0
      else if c = '.' && groups.length ≤ 6 then
        match inetPton4 curtok with
        | none => none
        | some a => expand6 (groups ++ [a.toNat / 65536, a.toNat % 65536]) colon
      else none

/-- `inet_pton(AF_INET6)`, the address in host byte order; a leading colon has to be double. -/
def inetPton6 (s : List Char) : Option (BitVec 128) :=
  let body := match s with
    | ':' :: ':' :: s => some (':' :: s)
    | ':' :: _ => none
    | [] => none
    | s => some s
  match body with
  | none => none
  | some s => (pton6 s s [] none 0 0).map fun groups =>
    BitVec.ofNat 128 (groups.foldl (fun a group => a * 65536 + group) 0)

/-- The characters of a dotted address. -/
def isDotted (c : Char) : Bool := c.isDigit || c = '.'

theorem pton4_isDotted (h : pton4 s octets sawDigit value acc = some a) :
    ∀ c ∈ s, isDotted c = true := by
  induction s generalizing octets sawDigit value acc with
  | nil =>
    intro c hc
    cases hc
  | cons c s ih =>
    have hboth : isDotted c = true ∧ ∀ c ∈ s, isDotted c = true := by
      rw [pton4] at h
      split at h
      · next hdigit =>
        apply And.intro
        · rw [isDotted, hdigit, Bool.true_or]
        · dsimp only at h
          split at h
          · cases h
          · split at h
            · cases h
            · split at h
              · exact ih h
              · split at h
                · cases h
                · exact ih h
      · split at h
        · next hdot =>
          apply And.intro
          · rw [isDotted, (Bool.and_eq_true_iff.1 hdot).1, Bool.or_true]
          · split at h
            · cases h
            · exact ih h
        · cases h
    intro x hx
    rcases List.mem_cons.1 hx with rfl | hx
    · exact hboth.1
    · exact hboth.2 x hx

theorem inetPton4_isDotted (h : inetPton4 s = some a) : ∀ c ∈ s, isDotted c = true := by
  obtain ⟨n, hn, _⟩ := Option.map_eq_some_iff.1 h
  exact pton4_isDotted hn

theorem inetPton4_ne_nil (h : inetPton4 s = some a) : s ≠ [] := by
  rintro rfl
  cases h

example : inetPton4 "192.168.1.254".toList = some 0xc0a801fe := by decide

example : inetPton6 "fe80::1:192.168.1.254".toList =
    some 0xfe8000000000000000000001c0a801fe := by decide

end Inet
