import Subtitler.Subtitle.Cue

/-!
# Styled lines

A tag is `<`, an optional slash, a name of letters, anything but `>`, and `>`. The tags named
`i`, `b` and `u`, in either case, switch a style on, or off if they have the slash; every other tag
is dropped. The text between tags keeps the styles that are on.
-/

namespace Subtitler.Style

/-- A tag: whether it closes, and its name in lower case. -/
structure Tag where
  closing : Bool
  name : List Char
deriving DecidableEq, Repr

/-- An ASCII letter. -/
def isLetter (c : Char) : Bool := ('a' ≤ c && c ≤ 'z') || ('A' ≤ c && c ≤ 'Z')

/-- The tag that a text starts with, and what stands after it. -/
def tag? : List Char → Option (Tag × List Char)
  | '<' :: rest =>
    let (closing, rest) :=
      match rest with
      | '/' :: more => (true, more)
      | more => (false, more)
    let name := rest.takeWhile isLetter
    if name.isEmpty then none
    else
      match (rest.dropWhile isLetter).dropWhile (· != '>') with
      | [] => none
      | _ :: rest => some (⟨closing, name.map Char.toLower⟩, rest)
  | _ => none

/-- What a tag does to the style. -/
def Tag.apply (tag : Tag) (style : TextStyle) : TextStyle :=
  match tag.name with
  | ['i'] => { style with italic := !tag.closing }
  | ['b'] => { style with bold := !tag.closing }
  | ['u'] => { style with underline := !tag.closing }
  | _ => style

/-- A piece of a line. -/
inductive Piece
  | char (c : Char)
  | tag (t : Tag)
deriving DecidableEq, Repr

/-- The pieces of a line. `fuel` bounds their number. -/
def pieces : Nat → List Char → List Piece
  | 0, _ => []
  | _ + 1, [] => []
  | fuel + 1, c :: rest =>
    match tag? (c :: rest) with
    | some (t, rest) => .tag t :: pieces fuel rest
    | none => .char c :: pieces fuel rest

/-- The run with the collected text, unless there is none. -/
def run (style : TextStyle) (collected : List Char) : List StyledRun :=
  if collected.isEmpty then [] else [⟨style, String.ofList collected.reverse⟩]

/-- The runs of a line. A tag ends a run even if it changes nothing. -/
def runs (style : TextStyle) (collected : List Char) : List Piece → CueLine
  | [] => run style collected
  | .char c :: rest => runs style (c :: collected) rest
  | .tag t :: rest => run style collected ++ runs (t.apply style) [] rest

/-- Reads a line. -/
def readLine (line : List Char) : CueLine := runs {} [] (pieces line.length line)

end Subtitler.Style
