import Mathlib.Algebra.Group.Nat.Defs
import NetSrvMgr.InputStream

namespace Scanf
open InputStream
set_option autoImplicit true

/-- The conversions `%s`, `%*s` and `%*x`. -/
inductive Conversion
  | word
  | skipWord
  | skipHex
  deriving DecidableEq

def isHex (c : Char) : Bool :=
  c.isDigit || (decide ('a' ≤ c) && decide (c ≤ 'f')) || (decide ('A' ≤ c) && decide (c ≤ 'F'))

def dropSign (s : List Char) : List Char :=
  match s with
  | '+' :: s => s
  | '-' :: s => s
  | _ => s

def dropBase (s : List Char) : List Char :=
  match s with
  | '0' :: 'x' :: s => s
  | '0' :: 'X' :: s => s
  | _ => s

/-- The words stored, what is left of the input, and whether the input has ended before a
conversion. -/
structure Scan where
  words : List (List Char)
  rest : List Char
  ended : Bool
  deriving DecidableEq

/-- The calls return `EOF` where the input ends before anything is stored. -/
def Scan.eof (r : Scan) : Bool := r.ended && r.words.isEmpty

/-- `scanf` with the conversions of a format, which skip the blanks before them. -/
def scanf : List Conversion → List Char → Scan
  | [], s => ⟨[], s, false⟩
  | .word :: format, s =>
    match extract s with
    | none => ⟨[], [], true⟩
    | some (w, s) => { scanf format s with words := w :: (scanf format s).words }
  | .skipWord :: format, s =>
    match extract s with
    | none => ⟨[], [], true⟩
    | some (_, s) => scanf format s
  | .skipHex :: format, s =>
    match s.dropWhile isspace with
    | [] => ⟨[], [], true⟩
    | c :: s =>
      let digits := dropBase (dropSign (c :: s))
      if digits.head?.any isHex then scanf format (digits.dropWhile isHex)
      else ⟨[], digits, false⟩

/-- A field of a line: what is before it, and the text that the conversion is for. -/
structure Piece where
  conversion : Conversion
  blanks : List Char
  text : List Char

namespace Piece

/-- The field is set off from the one before it, and the conversion takes the whole of it. -/
structure Fits (f : Piece) : Prop where
  apart : f.blanks ≠ []
  blank : ∀ c ∈ f.blanks, isspace c = true
  word : IsWord f.text
  hex : f.conversion = .skipHex → ∀ c ∈ f.text, isHex c = true

def stored (f : Piece) : Option (List Char) :=
  match f.conversion with
  | .word => some f.text
  | _ => none

end Piece

def textOf (fields : List Piece) : List Char := fields.flatMap fun f => f.blanks ++ f.text

/-- The conversions `%0<width>x` and `%0<width>X`, which differ in their digits. -/
def hexText (digit : Nat → Char) : Nat → Nat → List Char
  | 0, _ => []
  | width + 1, n => hexText digit width (n / 16) ++ [digit (n % 16)]

end Scanf
