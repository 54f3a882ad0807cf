/-!
# Binary floating-point numbers

A finite number is `± significand * 2 ^ exponent`. A format says how many bits a significand has
and how far the exponent reaches; rounding an exact quotient into a format takes the nearest
number, and of two equally near ones the one with the even significand. Everything is computed
exactly on natural numbers.
-/

namespace Subtitler

/-- A floating-point number. -/
inductive Binary
  | finite (negative : Bool) (significand : Nat) (exponent : Int)
  | infinite (negative : Bool)
  | nan
deriving DecidableEq, Repr, Inhabited

namespace Binary

/-- A format: the bits of a significand, and the least and the greatest exponent. -/
structure Format where
  precision : Nat
  least : Int
  greatest : Int

/-- The 64-bit format. -/
def Format.double : Format := ⟨53, -1074, 971⟩

/-- The 32-bit format. -/
def Format.single : Format := ⟨24, -149, 104⟩

/-- The magnitude `m * 2 ^ e` as numerator and denominator. -/
def ratio (m : Nat) (e : Int) : Nat × Nat :=
  if 0 ≤ e then (m * Nat.pow 2 e.toNat, 1) else (m, Nat.pow 2 (-e).toNat)

/-- The natural number nearest to a quotient, the even one of two. -/
def roundQuotient (num den : Nat) : Nat :=
  let q := num / den
  let r := num % den
  if 2 * r < den then q
  else if den < 2 * r then q + 1
  else if q % 2 = 0 then q else q + 1

/-- The largest `k` with `2 ^ k ≤ num / den`, for a positive quotient. -/
def floorLog2 (num den : Nat) : Int :=
  let k : Int := (Nat.log2 num : Int) - Nat.log2 den
  let (p, q) := ratio 1 k
  if p * den ≤ num * q then k else k - 1

/-- Rounds `± num / den` into a format. -/
def round (f : Format) (negative : Bool) (num den : Nat) : Binary :=
  if num = 0 then .finite negative 0 f.least
  else
    let e := max f.least (floorLog2 num den - (f.precision - 1))
    let (p, q) := ratio 1 e
    let m := roundQuotient (num * q) (den * p)
    let (m, e) := if m = Nat.pow 2 f.precision then (m / 2, e + 1) else (m, e)
    if f.greatest < e then .infinite negative else .finite negative m e

/-- The number of a format nearest to an integer. -/
def ofInt (f : Format) (n : Int) : Binary := round f (decide (n < 0)) n.natAbs 1

/-- Rounds a number into a format. -/
def convert (f : Format) : Binary → Binary
  | .finite negative m e =>
    let (num, den) := ratio m e
    round f negative num den
  | x => x

/-- The rounded product of two numbers, of which neither is both infinite and multiplied by zero. -/
def mul (f : Format) : Binary → Binary → Binary
  | .finite s m e, .finite t n d => 
    let (a, b) := ratio m e
    let (c, d) := ratio n d
    round f (s != t) (a * c) (b * d)
  | .finite s _ _, .infinite t | .infinite s, .finite t _ _ | .infinite s, .infinite t =>
    .infinite (s != t)
  | _, _ => .nan

/-- The rounded quotient of a number by a finite one that is not zero. -/
def div (f : Format) : Binary → Binary → Binary
  | .finite s m e, .finite t n d =>
    let (a, b) := ratio m e
    let (c, d) := ratio n d
    round f (s != t) (a * d) (b * c)
  | .infinite s, .finite t _ _ => .infinite (s != t)
  | .finite s _ _, .infinite t => .finite (s != t) 0 f.least
  | _, _ => .nan

/-- The number with the other sign. -/
def neg : Binary → Binary
  | .finite s m e => .finite (!s) m e
  | .infinite s => .infinite (!s)
  | .nan => .nan

/-- Zero of either sign. -/
def isZero : Binary → Bool
  | .finite _ m _ => m == 0
  | _ => false

/-- Neither infinite nor the not-a-number. -/
def isFinite : Binary → Bool
  | .finite .. => true
  | _ => false

/-- An integer in the order of the numbers of a format, the same for both zeros; the
not-a-number has none. -/
def orderKey (f : Format) : Binary → Option Int
  | .finite s m e =>
    let magnitude : Int := m * Nat.pow 2 (e - f.least).toNat
    some (if s then -magnitude else magnitude)
  | .infinite s =>
    let magnitude : Int := Nat.pow 2 (f.precision + (f.greatest - f.least).toNat)
    some (if s then -magnitude else magnitude)
  | .nan => none

end Binary

end Subtitler
