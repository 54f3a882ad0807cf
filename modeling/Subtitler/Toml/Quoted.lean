/-!
# Writing TOML texts

A text is written in the first form that needs no escapes: between double quotes, between single
quotes, then over several lines between triple double or triple single quotes. If none does, it is
written with escapes, over several lines if it has a line feed. A text with a line feed starts on
a line of its own.
-/

namespace Subtitler.Toml

/-- The longest run of a character, given the length of the run that is going on. -/
def longestRun (c : Char) : Nat → List Char → Nat
  | run, [] => run
  | run, d :: rest => if d = c then longestRun c (run + 1) rest else max run (longestRun c 0 rest)

/-- A control character that every form without escapes refuses. -/
def isControl (c : Char) : Bool :=
  (c.toNat < 0x20 && c != '\t' && c != '\n') || c.toNat == 0x7F

/-- What of a text decides on its form. -/
structure Shape where
  controls : Bool
  backslash : Bool
  newline : Bool
  doubles : Nat
  singles : Nat

/-- The shape of a text. -/
def shape (cs : List Char) : Shape :=
  { controls := cs.any isControl
    backslash := cs.contains '\\'
    newline := cs.contains '\n'
    doubles := longestRun '"' 0 cs
    singles := longestRun '\'' 0 cs }

/-- An upper-case hexadecimal digit. -/
def hexDigit (n : Nat) : Char := if n < 10 then Char.ofNat (0x30 + n) else Char.ofNat (0x37 + n)

/-- Escapes a text between double quotes. `long` says that the quotes are tripled: then line feeds
stay, and of a run of double quotes only every third one is escaped. `run` counts the quotes
before. -/
def escape (long : Bool) : Nat → List Char → List Char
  | _, [] => []
  | run, c :: rest =>
    if c = '"' then
      if long && run < 2 then '"' :: escape long (run + 1) rest
      else '\\' :: '"' :: escape long 0 rest
    else if c = '\\' then '\\' :: '\\' :: escape long 0 rest
    else if c = '\t' then '\\' :: 't' :: escape long 0 rest
    else if c = '\n' then
      if long then '\n' :: escape long 0 rest else '\\' :: 'n' :: escape long 0 rest
    else if c = '\r' then '\\' :: 'r' :: escape long 0 rest
    else if c.toNat = 8 then '\\' :: 'b' :: escape long 0 rest
    else if c.toNat = 12 then '\\' :: 'f' :: escape long 0 rest
    else if isControl c then
      '\\' :: 'u' :: '0' :: '0' :: hexDigit (c.toNat / 16) :: hexDigit (c.toNat % 16) ::
        escape long 0 rest
    else c :: escape long 0 rest

/-- A text between double quotes. -/
def basic (cs : List Char) : List Char := '"' :: escape false 0 cs ++ ['"']

/-- A text between single quotes. -/
def literal (cs : List Char) : List Char := '\'' :: cs ++ ['\'']

/-- The line end before a text that has line feeds itself. -/
def ownLine (cs : List Char) : List Char := if cs.contains '\n' then ['\n'] else []

/-- A text between triple double quotes. -/
def longBasic (cs : List Char) : List Char :=
  ['"', '"', '"'] ++ ownLine cs ++ escape true 0 cs ++ ['"', '"', '"']

/-- A text between triple single quotes. -/
def longLiteral (cs : List Char) : List Char :=
  ['\'', '\'', '\''] ++ ownLine cs ++ cs ++ ['\'', '\'', '\'']

/-- A text in its form. -/
def quote (cs : List Char) : List Char :=
  let s := shape cs
  if !s.controls && !s.backslash && s.doubles == 0 && !s.newline then basic cs
  else if !s.controls && s.singles == 0 && !s.newline then literal cs
  else if !s.controls && !s.backslash && s.doubles ≤ 2 then longBasic cs
  else if !s.controls && s.singles ≤ 2 then longLiteral cs
  else if s.newline then longBasic cs
  else basic cs

end Subtitler.Toml
