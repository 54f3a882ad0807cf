import Subtitler.Number.Binary
import Subtitler.Number.Decimal
import Subtitler.Text.Split
import Subtitler.Toml.Basic

/-!
# TOML scalars

Texts come in four forms: between double quotes with escapes, or between single quotes without,
each on one line or, with the quotes tripled, over several lines. Numbers may have underscores
between digits; integers have 64 bits. A moment is a date, a time of day, or both with or without
an offset.
-/

namespace Subtitler.Toml

open Decimal

/-! ## Characters -/

/-- A space or a tab. -/
def isSpace (c : Char) : Bool := c == ' ' || c == '\t'

/-- A character that is not a control character, or a tab. -/
def isPrintable (c : Char) : Bool := c == '\t' || (0x20 ≤ c.toNat && c.toNat != 0x7F)

/-- Skips spaces and tabs. -/
def skipSpace (cs : List Char) : List Char := cs.dropWhile isSpace

/-- Takes a line end. -/
def newline? : List Char → Option (List Char)
  | '\n' :: rest => some rest
  | '\r' :: '\n' :: rest => some rest
  | _ => none

/-- Takes a line end if there is one. -/
def skipNewline (cs : List Char) : List Char := (newline? cs).getD cs

/-- Skips white space of any kind, line ends included. -/
def skipWhite : List Char → List Char
  | '\n' :: rest => skipWhite rest
  | '\r' :: '\n' :: rest => skipWhite rest
  | c :: rest => if isSpace c then skipWhite rest else c :: rest
  | [] => []

/-! ## Texts -/

/-- The number that hexadecimal digits write. -/
def hexValue? (cs : List Char) : Option Nat :=
  cs.foldlM
    (fun n c =>
      if c.isDigit then some (n * 16 + (c.toNat - 0x30))
      else if 'a' ≤ c ∧ c ≤ 'f' then some (n * 16 + (c.toNat - 0x61 + 10))
      else if 'A' ≤ c ∧ c ≤ 'F' then some (n * 16 + (c.toNat - 0x41 + 10))
      else none)
    0

/-- The character with the number that the first `digits` digits write. -/
def codePoint? (digits : Nat) (cs : List Char) : Option (Char × List Char) := do
  if cs.length < digits then none
  else
    let n ← hexValue? (cs.take digits)
    if n.isValidChar then some (Char.ofNat n, cs.drop digits) else none

/-- The character of an escape, after its backslash. -/
def escape? : List Char → Option (Char × List Char)
  | 'b' :: rest => some (Char.ofNat 8, rest)
  | 't' :: rest => some ('\t', rest)
  | 'n' :: rest => some ('\n', rest)
  | 'f' :: rest => some (Char.ofNat 12, rest)
  | 'r' :: rest => some ('\r', rest)
  | '"' :: rest => some ('"', rest)
  | '\\' :: rest => some ('\\', rest)
  | 'u' :: rest => codePoint? 4 rest
  | 'U' :: rest => codePoint? 8 rest
  | _ => none

/-- The rest of a text between double quotes. -/
def basicRest? : Nat → List Char → Option (List Char × List Char)
  | 0, _ => none
  | _ + 1, [] => none
  | fuel + 1, c :: rest =>
    if c = '"' then some ([], rest)
    else if c = '\\' then do
      let (d, rest) ← escape? rest
      let (ds, rest) ← basicRest? fuel rest
      some (d :: ds, rest)
    else if isPrintable c then do
      let (ds, rest) ← basicRest? fuel rest
      some (c :: ds, rest)
    else none

/-- The rest of a text between single quotes. -/
def literalRest? : List Char → Option (List Char × List Char)
  | [] => none
  | c :: rest =>
    if c = '\'' then some ([], rest)
    else if isPrintable c then do
      let (ds, rest) ← literalRest? rest
      some (c :: ds, rest)
    else none

/-- How many of a run of closing quotes belong to the text, and how many are taken in all: three
of them close it, and up to two before those belong to it. -/
def closing (quotes : Nat) : Nat × Nat := (min quotes 5 - 3, min quotes 5)

/-- The rest of a text between triple double quotes. A backslash at the end of a line takes the
white space after it away. -/
def longBasicRest? : Nat → List Char → Option (List Char × List Char)
  | 0, _ => none
  | _ + 1, [] => none
  | fuel + 1, c :: rest =>
    if c = '"' then
      let quotes := ((c :: rest).takeWhile (· == '"')).length
      if 3 ≤ quotes then
        let (kept, taken) := closing quotes
        some (List.replicate kept '"', (c :: rest).drop taken)
      else do
        let (ds, rest) ← longBasicRest? fuel rest
        some ('"' :: ds, rest)
    else if c = '\\' then
      match newline? (skipSpace rest) with
      | some rest => longBasicRest? fuel (skipWhite rest)
      | none => do
        let (d, rest) ← escape? rest
        let (ds, rest) ← longBasicRest? fuel rest
        some (d :: ds, rest)
    else if isPrintable c then do
      let (ds, rest) ← longBasicRest? fuel rest
      some (c :: ds, rest)
    else do
      let rest ← newline? (c :: rest)
      let (ds, rest) ← longBasicRest? fuel rest
      some ('\n' :: ds, rest)

/-- The rest of a text between triple single quotes. -/
def longLiteralRest? : Nat → List Char → Option (List Char × List Char)
  | 0, _ => none
  | _ + 1, [] => none
  | fuel + 1, c :: rest =>
    if c = '\'' then
      let quotes := ((c :: rest).takeWhile (· == '\'')).length
      if 3 ≤ quotes then
        let (kept, taken) := closing quotes
        some (List.replicate kept '\'', (c :: rest).drop taken)
      else do
        let (ds, rest) ← longLiteralRest? fuel rest
        some ('\'' :: ds, rest)
    else if isPrintable c then do
      let (ds, rest) ← longLiteralRest? fuel rest
      some (c :: ds, rest)
    else do
      let rest ← newline? (c :: rest)
      let (ds, rest) ← longLiteralRest? fuel rest
      some ('\n' :: ds, rest)

/-- A text in any of the four forms. -/
def quoted? : List Char → Option (List Char × List Char)
  | '"' :: '"' :: '"' :: rest =>
    let rest := skipNewline rest
    longBasicRest? (rest.length + 1) rest
  | '\'' :: '\'' :: '\'' :: rest =>
    let rest := skipNewline rest
    longLiteralRest? (rest.length + 1) rest
  | '"' :: rest => basicRest? (rest.length + 1) rest
  | '\'' :: rest => literalRest? rest
  | _ => none

/-! ## Numbers -/

/-- Takes digits with single underscores between them; gives the digits. -/
def digitRun? (isDigit : Char → Bool) : List Char → Option (List Char × List Char)
  | [] => none
  | c :: rest =>
    if isDigit c then
      match rest with
      | '_' :: more => do
        let (ds, rest) ← digitRun? isDigit more
        some (c :: ds, rest)
      | d :: more =>
        if isDigit d then do
          let (ds, rest) ← digitRun? isDigit (d :: more)
          some (c :: ds, rest)
        else some ([c], d :: more)
      | [] => some ([c], [])
    else none

/-- A digit below a base of at most sixteen. -/
def digitIn? (base : Nat) (c : Char) : Option Nat :=
  (hexValue? [c]).filter (· < base)

/-- An integer in another base, after its mark. -/
def inBase? (base : Nat) (cs : List Char) : Option (Toml × List Char) := do
  let (ds, rest) ← digitRun? (fun c => (digitIn? base c).isSome) cs
  let n := ds.foldl (fun n c => n * base + (digitIn? base c).getD 0) 0
  if n < Nat.pow 2 63 then some (.integer n, rest) else none

/-- A sign: whether it is a minus, and whether there is one. -/
def sign : List Char → Bool × Bool × List Char
  | '+' :: rest => (false, true, rest)
  | '-' :: rest => (true, true, rest)
  | rest => (false, false, rest)

/-- Digits after a mark, which may be absent but not without digits. -/
def part? (isMark : Char → Bool) (signed : Bool) :
    List Char → Option (Option (Bool × List Char) × List Char)
  | c :: rest =>
    if isMark c then do
      let (negative, _, rest) := if signed then sign rest else (false, false, rest)
      let (ds, rest) ← digitRun? Char.isDigit rest
      some (some (negative, ds), rest)
    else some (none, c :: rest)
  | [] => some (none, [])

/-- Whether a positive decimal is too large for a 64-bit float: `digits` times a power of ten. -/
def overflows (digits : List Char) (exponent : Int) : Bool :=
  let n := value digits
  if n = 0 then false
  else
    let size := (Decimal.digits n).length + exponent
    if size < 300 then false
    else if 400 < size then true
    else
      let (num, den) := if 0 ≤ exponent then (n * Nat.pow 10 exponent.toNat, 1) else
        (n, Nat.pow 10 (-exponent).toNat)
      !(Binary.round .double false num den).isFinite

/-- A decimal integer or float. A float may be too large only if it is negative. -/
def decimal? (cs : List Char) : Option (Toml × List Char) := do
  let (negative, _, rest) := sign cs
  let (whole, rest) ←
    match rest with
    | '0' :: more => some (['0'], more)
    | _ => digitRun? Char.isDigit rest
  let (fraction, rest) ← part? (· == '.') false rest
  let (exponent, rest) ← part? (fun c => c == 'e' || c == 'E') true rest
  match fraction, exponent with
  | none, none =>
    let n := value whole
    if negative then if n ≤ Nat.pow 2 63 then some (.integer (-n), rest) else none
    else if n < Nat.pow 2 63 then some (.integer n, rest) else none
  | _, _ =>
    let places := (fraction.map (·.2)).getD []
    let power : Int :=
      match exponent with
      | some (true, ds) => -(value ds : Int)
      | some (false, ds) => value ds
      | none => 0
    if !negative && overflows (whole ++ places) (power - places.length) then none
    else some (.float (String.ofList (cs.take (cs.length - rest.length))), rest)

/-! ## Moments -/

/-- A number of exactly `count` digits between two bounds. -/
def fixed? (count least most : Nat) (cs : List Char) : Option (Nat × List Char) :=
  let ds := cs.take count
  if ds.length = count ∧ ds.all Char.isDigit ∧ least ≤ value ds ∧ value ds ≤ most then
    some (value ds, cs.drop count)
  else none

/-- Takes one fixed character. -/
def mark? (c : Char) : List Char → Option (List Char)
  | d :: rest => if c = d then some rest else none
  | [] => none

/-- How many days a month has. -/
def daysIn (year month : Nat) : Nat :=
  if month = 2 then
    if year % 4 = 0 ∧ (year % 100 ≠ 0 ∨ year % 400 = 0) then 29 else 28
  else if month = 4 ∨ month = 6 ∨ month = 9 ∨ month = 11 then 30
  else 31

/-- Takes a date. -/
def date? (cs : List Char) : Option (List Char) := do
  let (year, rest) ← fixed? 4 0 9999 cs
  let (month, rest) ← fixed? 2 1 12 (← mark? '-' rest)
  let (_, rest) ← fixed? 2 1 (daysIn year month) (← mark? '-' rest)
  some rest

/-- Takes a time of day. -/
def timeOfDay? (cs : List Char) : Option (List Char) := do
  let (_, rest) ← fixed? 2 0 23 cs
  let (_, rest) ← fixed? 2 0 59 (← mark? ':' rest)
  let (_, rest) ← fixed? 2 0 60 (← mark? ':' rest)
  match rest with
  | '.' :: more =>
    let (ds, after) := spanDigits more
    if ds.isEmpty then none else some after
  | _ => some rest

/-- Takes an offset if there is one. -/
def skipOffset (cs : List Char) : List Char :=
  let numeric (rest : List Char) : Option (List Char) := do
    let (_, rest) ← fixed? 2 0 23 rest
    let (_, rest) ← fixed? 2 0 59 (← mark? ':' rest)
    some rest
  match cs with
  | 'Z' :: rest | 'z' :: rest => rest
  | '+' :: rest | '-' :: rest => (numeric rest).getD cs
  | _ => cs

/-- Takes a moment. -/
def momentRest? (cs : List Char) : Option (List Char) :=
  match date? cs with
  | some rest =>
    match rest with
    | c :: more =>
      if c = 'T' ∨ c = 't' ∨ c = ' ' then
        match timeOfDay? more with
        | some rest => some (skipOffset rest)
        | none => some rest
      else some rest
    | [] => some []
  | none => timeOfDay? cs

/-- A number or a moment. -/
def number? (cs : List Char) : Option (Toml × List Char) :=
  match momentRest? cs with
  | some rest => some (.moment (String.ofList (cs.take (cs.length - rest.length))), rest)
  | none =>
    match cs with
    | '0' :: 'x' :: rest => inBase? 16 rest
    | '0' :: 'o' :: rest => inBase? 8 rest
    | '0' :: 'b' :: rest => inBase? 2 rest
    | _ =>
      let (_, _, rest) := sign cs
      match Text.stripStart? ['i', 'n', 'f'] rest, Text.stripStart? ['n', 'a', 'n'] rest with
      | some rest, _ | _, some rest =>
        some (.float (String.ofList (cs.take (cs.length - rest.length))), rest)
      | none, none => decimal? cs

end Subtitler.Toml
