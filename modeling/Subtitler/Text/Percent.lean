/-!
# Percent escapes

An escape is a percent sign with two hexadecimal digits and stands for one byte. A percent sign
without two such digits stands for itself.
-/

namespace Subtitler.Text.Percent

/-- The value of a hexadecimal digit, given as an ASCII byte. -/
def hexValue? (b : UInt8) : Option UInt8 :=
  if 0x30 ≤ b && b ≤ 0x39 then some (b - 0x30)
  else if 0x41 ≤ b && b ≤ 0x46 then some (b - 0x41 + 10)
  else if 0x61 ≤ b && b ≤ 0x66 then some (b - 0x61 + 10)
  else none

/-- The byte that two hexadecimal digits write. -/
def hexPair? (a b : UInt8) : Option UInt8 := do
  let high ← hexValue? a
  let low ← hexValue? b
  pure (high * 16 + low)

/-- Replaces each escape by its byte. -/
def decode : List UInt8 → List UInt8
  | [] => []
  | [b] => [b]
  | [b, c] => [b, c]
  | b :: c :: d :: rest =>
    if b = 0x25 then
      match hexPair? c d with
      | some value => value :: decode rest
      | none => b :: decode (c :: d :: rest)
    else b :: decode (c :: d :: rest)

/-- The upper-case hexadecimal digit of a value below 16, as an ASCII byte. -/
def hexDigit (n : UInt8) : UInt8 := if n < 10 then n + 0x30 else n - 10 + 0x41

/-- The ASCII letters and digits, and `-`, `.`, `_` and `~`: what an escaped text leaves as is. -/
def isUnreserved (b : UInt8) : Bool :=
  (0x30 ≤ b && b ≤ 0x39) || (0x41 ≤ b && b ≤ 0x5A) || (0x61 ≤ b && b ≤ 0x7A) ||
    b == 0x2D || b == 0x2E || b == 0x5F || b == 0x7E

/-- Escapes every byte that is not unreserved. -/
def encode : List UInt8 → List UInt8
  | [] => []
  | b :: rest =>
    if isUnreserved b then b :: encode rest
    else 0x25 :: hexDigit (b / 16) :: hexDigit (b % 16) :: encode rest

end Subtitler.Text.Percent
