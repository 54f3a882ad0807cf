import Subtitler.Json.Basic
import Subtitler.Number.Decimal

/-!
# Reading JSON

The reader takes the values of RFC 8259 and refuses text after the value. Containers nested 128
deep, texts with escapes of lone surrogates and numbers too large for a 64-bit float are unreadable,
and so are objects that have such a text for a name: they may stand where no value is asked for. A
number without fraction and exponent is an integer if 64 bits hold it, with or without a sign; `-0`
is a float.

A float is read in two roundings. Its digits make up a significand as long as that stays below
`2 ^ 64`, further digits only count as places; the significand is rounded, then multiplied or
divided by a power of ten.
-/

namespace Subtitler.Json

open Decimal

/-- Skips the four characters that JSON takes for white space. -/
def skipSpace (cs : List Char) : List Char :=
  cs.dropWhile fun c => c == ' ' || c == '\t' || c == '\n' || c == '\r'

/-! ## Numbers -/

/-- Appends digits to a significand as long as it stays below `2 ^ 64`; also gives how many
digits were taken. -/
def absorb (n : Nat) : List Char → Nat × Nat
  | [] => (n, 0)
  | c :: rest =>
    let next := n * 10 + digitValue c
    if next < UInt64.size then
      let (total, taken) := absorb next rest
      (total, taken + 1)
    else (n, 0)

/-- The power of ten of the 64-bit format. -/
def tenTo (k : Nat) : Binary := Binary.round .double false (Nat.pow 10 k) 1

/-- Moves the decimal point of a number below `2 ^ 64`; nothing if the result is too large. -/
def shiftPoint (x : Binary) (e : Int) : Option Binary :=
  if 308 < e then
    if x.isZero then some x else none
  else if 0 ≤ e then
    let y := x.mul .double (tenTo e.toNat)
    if y.isFinite then some y else none
  else if -308 ≤ e then
    some (x.div .double (tenTo (-e).toNat))
  else
    let y := x.div .double (tenTo 308)
    let e := e + 308
    some (if -308 ≤ e then y.div .double (tenTo (-e).toNat) else .finite false 0 (-1074))

/-- The float with the given digits before and after the point, times a power of ten. -/
def real? (negative : Bool) (whole fraction : List Char) (exponent : Int) : Option Binary :=
  let (n, taken) := absorb 0 whole
  let (n, places) := absorb n fraction
  let e : Int := exponent + (whole.length - taken : Nat) - places
  (shiftPoint (Binary.ofInt .double n) e).map fun x => if negative then x.neg else x

/-- The digits after a point, which may be absent but not empty. -/
def fraction? : List Char → Option (Option (List Char) × List Char)
  | '.' :: rest =>
    let (ds, rest) := spanDigits rest
    if ds.isEmpty then none else some (some ds, rest)
  | cs => some (none, cs)

/-- The exponent after an `e`, which may be absent but not empty. -/
def exponent? : List Char → Option (Option Int × List Char)
  | c :: rest =>
    if c = 'e' ∨ c = 'E' then
      let (negative, rest) :=
        match rest with
        | '+' :: more => (false, more)
        | '-' :: more => (true, more)
        | more => (false, more)
      let (ds, rest) := spanDigits rest
      if ds.isEmpty then none
      else
        let n : Int := value ds
        some (some (if negative then -n else n), rest)
    else some (none, c :: rest)
  | [] => some (none, [])

/-- An integer that 64 bits hold, with a sign or without. -/
def integer? (negative : Bool) (whole : List Char) : Option Int :=
  let n := value whole
  if negative then if 0 < n ∧ n ≤ Nat.pow 2 63 then some (-n) else none
  else if n < UInt64.size then some n else none

/-- A number, after its sign. -/
def number? (negative : Bool) (cs : List Char) : Option (Json × List Char) := do
  let (whole, rest) := spanDigits cs
  if whole.isEmpty ∨ (whole.head? = some '0' ∧ 1 < whole.length) then none
  else
    let (fraction, rest) ← fraction? rest
    let (exponent, rest) ← exponent? rest
    let float := (real? negative whole (fraction.getD []) (exponent.getD 0)).map JsonNumber.real
    let number :=
      if fraction.isNone && exponent.isNone then
        match integer? negative whole with
        | some n => some (.integer n)
        | none => float
      else float
    some ((number.map Json.number).getD .unreadable, rest)

/-! ## Texts -/

/-- The number that four hexadecimal digits write. -/
def hex4? : List Char → Option (Nat × List Char)
  | a :: b :: c :: d :: rest => do
    let digit (x : Char) : Option Nat :=
      if x.isDigit then some (x.toNat - 0x30)
      else if 'a' ≤ x ∧ x ≤ 'f' then some (x.toNat - 0x61 + 10)
      else if 'A' ≤ x ∧ x ≤ 'F' then some (x.toNat - 0x41 + 10)
      else none
    let n := (((← digit a) * 16 + (← digit b)) * 16 + (← digit c)) * 16 + (← digit d)
    some (n, rest)
  | _ => none

/-- The second half of a character whose first half is escaped as a surrogate. -/
def lowSurrogate? : List Char → Option (Nat × List Char)
  | '\\' :: 'u' :: rest => do
    let (n, rest) ← hex4? rest
    if 0xDC00 ≤ n ∧ n < 0xE000 then some (n, rest) else none
  | _ => none

/-- The character of an escape, after its backslash, and none for a lone surrogate. Two escapes of
surrogates make up one character. -/
def escape? : List Char → Option (Option Char × List Char)
  | '"' :: rest => some (some '"', rest)
  | '\\' :: rest => some (some '\\', rest)
  | '/' :: rest => some (some '/', rest)
  | 'b' :: rest => some (some (Char.ofNat 8), rest)
  | 'f' :: rest => some (some (Char.ofNat 12), rest)
  | 'n' :: rest => some (some '\n', rest)
  | 'r' :: rest => some (some '\r', rest)
  | 't' :: rest => some (some '\t', rest)
  | 'u' :: rest => do
    let (n, rest) ← hex4? rest
    if 0xD800 ≤ n ∧ n < 0xDC00 then
      match lowSurrogate? rest with
      | some (m, more) =>
        some (some (Char.ofNat (0x10000 + (n - 0xD800) * 0x400 + (m - 0xDC00))), more)
      | none => some (none, rest)
    else if 0xDC00 ≤ n ∧ n < 0xE000 then some (none, rest)
    else some (some (Char.ofNat n), rest)
  | _ => none

/-- The rest of a text, after its opening quote. -/
def textRest? : Nat → List Char → Option (List (Option Char) × List Char)
  | 0, _ => none
  | _ + 1, [] => none
  | fuel + 1, c :: rest =>
    if c = '"' then some ([], rest)
    else if c = '\\' then do
      let (d, rest) ← escape? rest
      let (ds, rest) ← textRest? fuel rest
      some (d :: ds, rest)
    else if c.toNat < 0x20 then none
    else do
      let (ds, rest) ← textRest? fuel rest
      some (some c :: ds, rest)

/-- The text after an opening quote, and none if it has a lone surrogate. -/
def string? (cs : List Char) : Option (Option String × List Char) := do
  let (content, rest) ← textRest? (cs.length + 1) cs
  some ((content.mapM id).map String.ofList, rest)

/-! ## Values -/

/-- Takes a fixed word. -/
def word? (word : List Char) (cs : List Char) : Option (List Char) :=
  if word.isPrefixOf cs then some (cs.drop word.length) else none

mutual

/-- A value. `depth` is how many containers may still be entered by a reader. -/
def value? : Nat → Nat → List Char → Option (Json × List Char)
  | 0, _, _ => none
  | fuel + 1, depth, cs =>
    match skipSpace cs with
    | [] => none
    | '"' :: rest => do
      let (content, rest) ← string? rest
      some ((content.map Json.text).getD .unreadable, rest)
    | '[' :: rest => do
      let (items, rest) ←
        match skipSpace rest with
        | ']' :: rest => some ([], rest)
        | rest => items? fuel (depth - 1) rest
      some (if depth = 0 then .unreadable else .array items, rest)
    | '\x7b' :: rest => do
      let (fields, rest) ←
        match skipSpace rest with
        | '\x7d' :: rest => some (some [], rest)
        | rest => fields? fuel (depth - 1) rest
      some (if depth = 0 then .unreadable else (fields.map Json.object).getD .unreadable, rest)
    | '-' :: rest => number? true rest
    | c :: rest =>
      if c.isDigit then number? false (c :: rest)
      else if c = 't' then do
        let rest ← word? ['r', 'u', 'e'] rest
        some (.bool true, rest)
      else if c = 'f' then do
        let rest ← word? ['a', 'l', 's', 'e'] rest
        some (.bool false, rest)
      else if c = 'n' then do
        let rest ← word? ['u', 'l', 'l'] rest
        some (.null, rest)
      else none

/-- The items of an array up to its closing bracket. -/
def items? : Nat → Nat → List Char → Option (List Json × List Char)
  | 0, _, _ => none
  | fuel + 1, depth, cs => do
    let (item, rest) ← value? fuel depth cs
    match skipSpace rest with
    | ',' :: rest => do
      let (items, rest) ← items? fuel depth rest
      some (item :: items, rest)
    | ']' :: rest => some ([item], rest)
    | _ => none

/-- The fields of an object up to its closing brace, and none if a name is unreadable. -/
def fields? : Nat → Nat → List Char → Option (Option (List (String × Json)) × List Char)
  | 0, _, _ => none
  | fuel + 1, depth, cs =>
    match skipSpace cs with
    | '"' :: rest => do
      let (name, rest) ← string? rest
      match skipSpace rest with
      | ':' :: rest => do
        let (value, rest) ← value? fuel depth rest
        let (fields, rest) ←
          match skipSpace rest with
          | ',' :: rest => fields? fuel depth rest
          | '\x7d' :: rest => some (some [], rest)
          | _ => none
        some (do some ((← name, value) :: (← fields)), rest)
      | _ => none
    | _ => none

end

/-- How deep containers may nest. -/
def depthLimit : Nat := 127

/-- The value that a text writes, if it writes one. -/
def parse? (cs : List Char) : Option Json := do
  let (value, rest) ← value? (2 * cs.length + 2) depthLimit cs
  if (skipSpace rest).isEmpty then some value else none

end Subtitler.Json
