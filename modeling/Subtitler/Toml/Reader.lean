import Subtitler.Toml.Scalar

/-!
# Reading TOML

A document is read line by line into statements, and the statements make up a table. Arrays and
inline tables may nest 79 deep, and a key may have 79 names.
-/

namespace Subtitler.Toml

/-! ## Keys and line ends -/

/-- How deep values nest, and how many names a key has. -/
def limit : Nat := 79

/-- A character of a name without quotes. -/
def isBare (c : Char) : Bool := c.isAlphanum || c == '-' || c == '_'

/-- A name, in quotes of one line or without. -/
def name? : List Char → Option (List Char × List Char)
  | '"' :: rest => basicRest? (rest.length + 1) rest
  | '\'' :: rest => literalRest? rest
  | cs =>
    let name := cs.takeWhile isBare
    if name.isEmpty then none else some (name, cs.dropWhile isBare)

/-- The names of a key, with points between them and white space around each. -/
def names? : Nat → List Char → Option (List String × List Char)
  | 0, _ => none
  | fuel + 1, cs => do
    let (name, rest) ← name? (skipSpace cs)
    match skipSpace rest with
    | '.' :: rest => do
      let (names, rest) ← names? fuel rest
      some (String.ofList name :: names, rest)
    | rest => some ([String.ofList name], rest)

/-- A key, as the path to a table and the last name. -/
def key? (cs : List Char) : Option ((List String × String) × List Char) := do
  let (names, rest) ← names? (cs.length + 1) cs
  if limit < names.length then none
  else
    let last ← names.getLast?
    some ((names.dropLast, last), rest)

/-- Takes a comment, if there is one, up to the end of its line. -/
def skipComment : List Char → List Char
  | '#' :: rest => rest.dropWhile isPrintable
  | cs => cs

/-- Takes the rest of a line: white space, a comment, and the line end or the end of the text. -/
def lineEnd? (cs : List Char) : Option (List Char) :=
  match skipComment (skipSpace cs) with
  | [] => some []
  | rest => newline? rest

/-- Skips white space, line ends and comments. -/
def skipLines : Nat → List Char → List Char
  | 0, cs => cs
  | fuel + 1, cs =>
    match skipWhite cs with
    | '#' :: rest => skipLines fuel (rest.dropWhile isPrintable)
    | rest => rest

/-- Skips white space, line ends and comments. -/
def skipAll (cs : List Char) : List Char := skipLines (cs.length + 1) cs

/-! ## Values -/

mutual

/-- A value. `room` is how many arrays and tables may still be entered. -/
def value? : Nat → Nat → List Char → Option (Toml × List Char)
  | 0, _, _ => none
  | fuel + 1, room, cs =>
    match cs with
    | [] => none
    | '"' :: _ | '\'' :: _ => do
      let (s, rest) ← quoted? cs
      some (.text (String.ofList s), rest)
    | '[' :: rest =>
      if room = 0 then none
      else
        match skipAll rest with
        | ']' :: rest => some (.array [], rest)
        | rest => do
          let (items, rest) ← items? fuel (room - 1) rest
          some (.array items, rest)
    | '\x7b' :: rest =>
      if room = 0 then none
      else
        match skipSpace rest with
        | '\x7d' :: rest => some (.table [], rest)
        | rest => do
          let (fields, rest) ← fields? fuel (room - 1) rest
          some (← ofFields? fields, rest)
    | 't' :: 'r' :: 'u' :: 'e' :: rest => some (.bool true, rest)
    | 'f' :: 'a' :: 'l' :: 's' :: 'e' :: rest => some (.bool false, rest)
    | _ => number? cs

/-- The items of an array up to its closing bracket; a comma may follow the last one. -/
def items? : Nat → Nat → List Char → Option (List Toml × List Char)
  | 0, _, _ => none
  | fuel + 1, room, cs => do
    let (item, rest) ← value? fuel room cs
    match skipAll rest with
    | ']' :: rest => some ([item], rest)
    | ',' :: rest =>
      match skipAll rest with
      | ']' :: rest => some ([item], rest)
      | rest => do
        let (items, rest) ← items? fuel room rest
        some (item :: items, rest)
    | _ => none

/-- The fields of an inline table up to its closing brace. -/
def fields? : Nat → Nat → List Char → Option (List Field × List Char)
  | 0, _, _ => none
  | fuel + 1, room, cs => do
    let ((path, name), rest) ← key? cs
    match rest with
    | '=' :: rest => do
      let (value, rest) ← value? fuel room (skipSpace rest)
      let field : Field := ⟨path, name, value⟩
      match skipSpace rest with
      | '\x7d' :: rest => some ([field], rest)
      | ',' :: rest => do
        let (fields, rest) ← fields? fuel room rest
        some (field :: fields, rest)
      | _ => none
    | _ => none

end

/-! ## Documents -/

/-- A statement with the rest of its line. -/
def statement? : List Char → Option (Statement × List Char)
  | '[' :: '[' :: rest => do
    let ((path, name), rest) ← key? rest
    match rest with
    | ']' :: ']' :: rest => some (.item path name, ← lineEnd? rest)
    | _ => none
  | '[' :: rest => do
    let ((path, name), rest) ← key? rest
    match rest with
    | ']' :: rest => some (.header path name, ← lineEnd? rest)
    | _ => none
  | cs => do
    let ((path, name), rest) ← key? cs
    match rest with
    | '=' :: rest => do
      let (value, rest) ← value? (2 * rest.length + 2) limit (skipSpace rest)
      some (.field ⟨path, name, value⟩, ← lineEnd? rest)
    | _ => none

/-- The statements of a text. -/
def statements? : Nat → List Char → Option (List Statement)
  | 0, _ => none
  | fuel + 1, cs =>
    match skipAll cs with
    | [] => some []
    | rest => do
      let (statement, rest) ← statement? rest
      let statements ← statements? fuel rest
      some (statement :: statements)

/-- A text without a byte order mark at its start. -/
def withoutMark : List Char → List Char
  | c :: rest => if c.toNat = 0xFEFF then rest else c :: rest
  | [] => []

/-- The table that a text describes, if it is a document. -/
def parse? (text : List Char) : Option Toml := do
  let cs := withoutMark text
  ofStatements? (← statements? (cs.length + 1) cs)

end Subtitler.Toml
