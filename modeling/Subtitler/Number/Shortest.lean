import Subtitler.Number.Binary
import Subtitler.Number.Decimal

/-!
# Shortest decimals

Of the decimals that round to a given number, the shortest is the one with the fewest digits; of
several with equally few, the nearest to the number, and of two equally near ones the even one.
The reals that round to a number form an interval around it, with its ends when the significand
is even. A grid `10 ^ k` with a point in that interval has one next to the number itself, so it
is enough to look at the two neighbours, from coarse grids to fine ones.
-/

namespace Subtitler.Binary

/-- The reals that round to a number, as quotients over one denominator. -/
structure Interval where
  lower : Nat
  center : Nat
  upper : Nat
  denominator : Nat
  closed : Bool

/-- The interval of `m * 2 ^ e`. Below a power of two the neighbour is only half as far. -/
def interval (f : Format) (m : Nat) (e : Int) : Interval :=
  let (p, q) := ratio 1 (e - 2)
  let below := if m = Nat.pow 2 (f.precision - 1) ∧ f.least < e then 1 else 2
  ⟨(4 * m - below) * p, 4 * m * p, (4 * m + 2) * p, q, m % 2 == 0⟩

/-- The value `c * 10 ^ k` and a numerator over a denominator, brought to one denominator. -/
def aligned (c : Nat) (k : Int) (num den : Nat) : Nat × Nat :=
  if 0 ≤ k then (c * Nat.pow 10 k.toNat * den, num)
  else (c * den, num * Nat.pow 10 (-k).toNat)

/-- Whether `c * 10 ^ k` lies in the interval. -/
def Interval.contains (i : Interval) (c : Nat) (k : Int) : Bool :=
  let (a, lower) := aligned c k i.lower i.denominator
  let (b, upper) := aligned c k i.upper i.denominator
  if i.closed then decide (lower ≤ a ∧ b ≤ upper) else decide (lower < a ∧ b < upper)

/-- The largest `c` with `c * 10 ^ k` at most the number. -/
def Interval.floor (i : Interval) (k : Int) : Nat :=
  let (one, center) := aligned 1 k i.center i.denominator
  center / one

/-- The neighbour on the grid `10 ^ k` that is in the interval and nearest. -/
def Interval.nearest? (i : Interval) (k : Int) : Option Nat :=
  let c := i.floor k
  match i.contains c k, i.contains (c + 1) k with
  | false, false => none
  | true, false => some c
  | false, true => some (c + 1)
  | true, true =>
    let (twice, center) := aligned (2 * c + 1) k (2 * i.center) i.denominator
    if center < twice then some c
    else if twice < center then some (c + 1)
    else if c % 2 = 0 then some c else some (c + 1)

/-- Tries finer and finer grids, starting with `10 ^ k`. -/
def Interval.search (i : Interval) : Nat → Int → Nat × Int
  | 0, k => (i.floor k, k)
  | fuel + 1, k =>
    match i.nearest? k with
    | some c => (c, k)
    | none => i.search fuel (k - 1)

/-- The shortest decimal of `m * 2 ^ e`, for a positive `m`, as `c * 10 ^ k`. -/
def shortest (f : Format) (m : Nat) (e : Int) : Nat × Int :=
  let i := interval f m e
  let k : Int :=
    if i.denominator ≤ i.center then (Decimal.digits (i.center / i.denominator)).length
    else 1 - (Decimal.digits (i.denominator / i.center)).length
  i.search 20 k

/-- The text of a finite number: its shortest decimal, written without an exponent if the point
stands at most sixteen places after the first digit and at most five zeros before it. A number
that is not finite has no text. -/
def text? : Binary → Option String
  | .finite negative m e =>
    let sign := if negative then "-" else ""
    if m = 0 then some (sign ++ "0.0")
    else
      let (c, k) := shortest .double m e
      let ds := (Decimal.digits c).reverse.dropWhile (· == '0') |>.reverse
      let point : Int := (Decimal.digits c).length + k
      let n : Int := ds.length
      let body : List Char :=
        if n ≤ point ∧ point ≤ 16 then
          ds ++ List.replicate (point - n).toNat '0' ++ ['.', '0']
        else if 0 < point ∧ point ≤ 16 then
          ds.take point.toNat ++ ['.'] ++ ds.drop point.toNat
        else if -5 < point ∧ point ≤ 0 then
          ['0', '.'] ++ List.replicate (-point).toNat '0' ++ ds
        else
          let mantissa := if ds.length = 1 then ds else ds.take 1 ++ ['.'] ++ ds.drop 1
          mantissa ++ ['e'] ++ (toString (point - 1)).toList
      some (sign ++ String.ofList body)
  | _ => none

end Subtitler.Binary
