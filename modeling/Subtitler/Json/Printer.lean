import Subtitler.Json.Basic
import Subtitler.Number.Shortest

/-!
# Writing JSON

Two layouts: on one line without spaces, and over several lines with two spaces of indentation.
Texts escape quotes, backslashes and control characters and nothing else. A float that is not
finite is written as null, and so is a value that could not be read.
-/

namespace Subtitler.Json

/-- A lower-case hexadecimal digit. -/
def hexDigit (n : Nat) : Char := if n < 10 then Char.ofNat (0x30 + n) else Char.ofNat (0x57 + n)

/-- A character inside a text. -/
def escapeChar (c : Char) : List Char :=
  if c = '"' then ['\\', '"']
  else if c = '\\' then ['\\', '\\']
  else if c = '\n' then ['\\', 'n']
  else if c = '\r' then ['\\', 'r']
  else if c = '\t' then ['\\', 't']
  else if c.toNat = 8 then ['\\', 'b']
  else if c.toNat = 12 then ['\\', 'f']
  else if c.toNat < 0x20 then
    ['\\', 'u', '0', '0', hexDigit (c.toNat / 16), hexDigit (c.toNat % 16)]
  else [c]

/-- A text with its quotes. -/
def quote (s : String) : String :=
  String.ofList ('"' :: s.toList.flatMap escapeChar ++ ['"'])

/-- A number. -/
def numberText : JsonNumber → String
  | .integer n => toString n
  | .real x => x.text?.getD "null"

mutual

/-- A value on one line. -/
def compact : Json → String
  | .null | .unreadable => "null"
  | .bool b => if b then "true" else "false"
  | .number n => numberText n
  | .text s => quote s
  | .array items => "[" ++ compactItems items ++ "]"
  | .object fields => "\x7b" ++ compactFields fields ++ "\x7d"

/-- Items on one line. -/
def compactItems : List Json → String
  | [] => ""
  | [item] => compact item
  | item :: rest => compact item ++ "," ++ compactItems rest

/-- Fields on one line. -/
def compactFields : List (String × Json) → String
  | [] => ""
  | [(name, value)] => quote name ++ ":" ++ compact value
  | (name, value) :: rest => quote name ++ ":" ++ compact value ++ "," ++ compactFields rest

end

/-- The start of a line at some depth. -/
def margin (depth : Nat) : String := "\n" ++ String.ofList (List.replicate (2 * depth) ' ')

mutual

/-- A value over several lines; `depth` is that of the line it starts on. -/
def prettyAt (depth : Nat) : Json → String
  | .null | .unreadable => "null"
  | .bool b => if b then "true" else "false"
  | .number n => numberText n
  | .text s => quote s
  | .array [] => "[]"
  | .array (item :: items) =>
    "[" ++ margin (depth + 1) ++ prettyAt (depth + 1) item ++ prettyItems (depth + 1) items ++
      margin depth ++ "]"
  | .object [] => "\x7b\x7d"
  | .object ((name, value) :: fields) =>
    "\x7b" ++ margin (depth + 1) ++ quote name ++ ": " ++ prettyAt (depth + 1) value ++
      prettyFields (depth + 1) fields ++ margin depth ++ "\x7d"

/-- The items after the first one. -/
def prettyItems (depth : Nat) : List Json → String
  | [] => ""
  | item :: rest => "," ++ margin depth ++ prettyAt depth item ++ prettyItems depth rest

/-- The fields after the first one. -/
def prettyFields (depth : Nat) : List (String × Json) → String
  | [] => ""
  | (name, value) :: rest =>
    "," ++ margin depth ++ quote name ++ ": " ++ prettyAt depth value ++ prettyFields depth rest

end

/-- A value over several lines. -/
def pretty (value : Json) : String := prettyAt 0 value

mutual

/-- Sorts the fields of all objects by name; of equal names the last field stays. -/
def sorted : Json → Json
  | .array items => .array (sortedItems items)
  | .object fields => .object (sortedFields fields)
  | value => value

/-- Sorts the fields within each item. -/
def sortedItems : List Json → List Json
  | [] => []
  | item :: rest => sorted item :: sortedItems rest

/-- Inserts each field into the sorted rest, unless the rest has the name already. -/
def sortedFields : List (String × Json) → List (String × Json)
  | [] => []
  | (name, value) :: rest =>
    let others := sortedFields rest
    if others.any (·.1 == name) then others
    else
      others.takeWhile (fun f => decide (f.1 < name)) ++
        (name, sorted value) :: others.dropWhile (fun f => decide (f.1 < name))

end

end Subtitler.Json
